import Mathlib.Tactic.IntervalCases
import Mathlib.Tactic.Ring
import Tenancy.Value.Compare

/-!
# Identifiers and their text

The text of an identifier reads back as that identifier (`Uuid.ofText?_text`), and it names no
instant (`Uuid.ofText?_text_instant`). So a cell that holds the text of a tenant belongs to that
tenant and to no other one (`Value.ofTenant_matchesCell`), and two such cells count as the same
exactly if the tenants are (`Json.sameCell_tenant`).
-/

namespace Tenancy

/-! ## Hexadecimal digits -/

namespace Text

theorem hexValue?_hexDigit {n : Nat} (h : n < 16) : hexValue? (hexDigit n) = some n := by
  interval_cases n <;> decide

theorem hexDigit_ne_hyphen {n : Nat} (h : n < 16) : hexDigit n ≠ '-' := by
  interval_cases n <;> decide

theorem length_hexDigits (width n : Nat) : (hexDigits width n).length = width := by
  induction width generalizing n with
  | zero => rfl
  | succ width ih => simp [hexDigits, ih]

theorem ne_hyphen_of_mem_hexDigits {width n : Nat} : ∀ c ∈ hexDigits width n, c ≠ '-' := by
  induction width generalizing n with
  | zero => simp [hexDigits]
  | succ width ih =>
    intro c hc
    rw [hexDigits, List.mem_append, List.mem_singleton] at hc
    rcases hc with hc | rfl
    · exact ih c hc
    · exact hexDigit_ne_hyphen (Nat.mod_lt _ (by decide))

theorem readHexFrom_append (read : Nat) (cs ds : List Char) :
    readHexFrom read (cs ++ ds) = (readHexFrom read cs).bind (readHexFrom · ds) := by
  induction cs generalizing read with
  | nil => rfl
  | cons c cs ih =>
    simp only [List.cons_append, readHexFrom, bind, Option.bind_assoc, ih]

theorem readHexFrom_hexDigits (width n read : Nat) :
    readHexFrom read (hexDigits width n) = some (16 ^ width * read + n % 16 ^ width) := by
  induction width generalizing n read with
  | zero => simp [hexDigits, readHexFrom, Nat.mod_one]
  | succ width ih =>
    have hDigit := hexValue?_hexDigit (Nat.mod_lt n (by decide : 0 < 16))
    rw [hexDigits, readHexFrom_append, ih]
    simp only [readHexFrom, hDigit, bind, Option.bind_some, Option.some.injEq]
    rw [Nat.pow_succ', Nat.mod_mul]
    ring

end Text

namespace Uuid

/-- Hyphens at their places do not keep the digits from being read. -/
theorem ofGrouped?_grouped {digits : List Char} (h : digits.length = 32) :
    ofGrouped? (grouped digits) = ofDigits? digits := by
  -- The digits in five groups, so that every piece between two hyphens is one of them.
  obtain ⟨a, b, c, d, e, rfl, ha, hb, hc, hd, he⟩ : ∃ a b c d e : List Char,
      digits = a ++ (b ++ (c ++ (d ++ e))) ∧ a.length = 8 ∧ b.length = 4 ∧ c.length = 4 ∧
        d.length = 4 ∧ e.length = 12 := by
    refine ⟨digits.take 8, (digits.drop 8).take 4, (digits.drop 12).take 4,
      (digits.drop 16).take 4, digits.drop 20, ?_, ?_⟩
    · rw [← List.drop_drop (i := 4) (j := 16), List.take_append_drop,
        ← List.drop_drop (i := 4) (j := 12), List.take_append_drop,
        ← List.drop_drop (i := 4) (j := 8), List.take_append_drop, List.take_append_drop]
    · simp [h]
  have hGrouped : grouped (a ++ (b ++ (c ++ (d ++ e)))) =
      a ++ '-' :: (b ++ '-' :: (c ++ '-' :: (d ++ '-' :: e))) := by
    simp (disch := omega) [grouped, List.drop_append, List.drop_eq_nil_of_le, ha, hb, hc]
  rw [hGrouped, ofGrouped?, if_pos (by simp [ha, hb, hc, hd, he])]
  simp (disch := omega) [List.drop_append, List.drop_eq_nil_of_le, ha, hb, hc, hd]

/-- The text of an identifier reads back. -/
theorem ofText?_text (u : Uuid) : ofText? u.text = some u := by
  have hLength := Text.length_hexDigits 32 u.value
  have hGrouped : (grouped (Text.hexDigits 32 u.value)).length = 36 := by
    simp [grouped, hLength]
  have hRead : Text.readHex? (Text.hexDigits 32 u.value) = some u.value := by
    rw [Text.readHex?, Text.readHexFrom_hexDigits, Nat.mul_zero, Nat.zero_add,
      Nat.mod_eq_of_lt (by simpa using u.value_lt)]
  rw [ofText?, text, String.toList_ofList, toChars, ofChars?, if_neg (by omega), if_pos hGrouped,
    ofGrouped?_grouped hLength, ofDigits?, if_pos hLength, hRead]
  exact dif_pos u.value_lt

theorem text_inj {u v : Uuid} (h : u.text = v.text) : u = v := by
  have hRead := ofText?_text u
  rw [h, ofText?_text v] at hRead
  exact (Option.some.inj hRead).symm

theorem compare_eq_iff {u v : Uuid} : u.compare v = .eq ↔ u = v := by
  rw [compare, Nat.compare_eq_eq]
  exact ⟨fun h => by cases u; cases v; cases h; rfl, fun h => h ▸ rfl⟩

end Uuid

theorem TenantId.eq_of_uuid {owner tenant : TenantId} (h : owner.uuid = tenant.uuid) :
    owner = tenant := by
  cases owner
  exact congrArg TenantId.mk h

/-! ## Instants -/

namespace Rfc3339

theorem readDigitsFrom_rest {read width : Nat} {cs rest : List Char} {n : Nat}
    (h : readDigitsFrom read width cs = some (n, rest)) : rest = cs.drop width := by
  induction width generalizing read cs with
  | zero =>
    cases h
    rfl
  | succ width ih =>
    cases cs with
    | nil => cases h
    | cons c cs =>
      obtain ⟨d, -, h⟩ := Option.bind_eq_some_iff.mp h
      exact ih h

/-- The text of an instant has a hyphen behind four digits. -/
theorem ofChars?_eq_none {cs : List Char} (h : cs[4]? ≠ some '-') : ofChars? cs = none := by
  have hDate : readDate cs = none := by
    unfold readDate
    cases hYear : readDigits 4 cs with
    | none => rfl
    | some p =>
      obtain ⟨year, rest⟩ := p
      have hRest : expect '-' rest = none := by
        rw [readDigitsFrom_rest hYear]
        rw [← List.head?_drop] at h
        cases hDrop : cs.drop 4 with
        | nil => rfl
        | cons c tail =>
          rw [hDrop] at h
          exact if_neg fun hc => h (congrArg some hc)
      simp [hRest]
  simp [ofChars?, hDate]

end Rfc3339

theorem Uuid.ofText?_text_instant (u : Uuid) : Rfc3339.ofText? u.text = none := by
  rw [Rfc3339.ofText?, text, String.toList_ofList]
  apply Rfc3339.ofChars?_eq_none
  have hDigits : 4 < (Text.hexDigits 32 u.value).length := by
    rw [Text.length_hexDigits]
    decide
  have hPlace : u.toChars[4]? = some (Text.hexDigits 32 u.value)[4] := by
    simp [toChars, grouped, Text.length_hexDigits]
  rw [hPlace]
  intro h
  exact Text.ne_hyphen_of_mem_hexDigits _ (List.getElem_mem hDigits) (Option.some.inj h)

/-! ## Cells that hold a tenant -/

/-- A cell with the text of a tenant belongs to that tenant only. -/
theorem Value.ofTenant_matchesCell (owner tenant : TenantId) :
    (Value.ofTenant tenant).matchesCell (.string owner.text) = decide (owner = tenant) := by
  have hCompare : (Value.ofTenant tenant).compareCell? (.string owner.text) =
      some (owner.uuid.compare tenant.uuid) := by
    simp [Value.ofTenant, Value.compareCell?, TenantId.text, Uuid.ofText?_text]
  rw [Value.matchesCell, hCompare]
  by_cases h : owner = tenant
  · subst h
    simp [Uuid.compare_eq_iff]
  · have hne : owner.uuid.compare tenant.uuid ≠ .eq := fun hEq =>
      h (TenantId.eq_of_uuid (Uuid.compare_eq_iff.mp hEq))
    simp [h, hne]

theorem Json.sameCell_tenant (owner tenant : TenantId) :
    Json.sameCell (.string owner.text) (.string tenant.text) = decide (owner = tenant) := by
  have hCompare : Json.compareCells (.string owner.text) (.string tenant.text) =
      compare owner.uuid.text tenant.uuid.text := by
    simp [Json.compareCells, Json.compareStrings, TenantId.text, Uuid.ofText?_text_instant]
  have hSame : compare owner.uuid.text tenant.uuid.text = .eq ↔ owner = tenant := by
    rw [Std.compare_eq_iff_eq]
    exact ⟨fun h => TenantId.eq_of_uuid (Uuid.text_inj h), fun h => congrArg (·.uuid.text) h⟩
  simp [Json.sameCell, Json.isNull, hCompare, beq_eq_decide, hSame]

end Tenancy
