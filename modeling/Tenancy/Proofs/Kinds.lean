import Tenancy.Proofs.Order

/-!
# Cells of different kinds

Cells of different kinds are compared by their texts, and the first characters of these decide:
texts come before numbers, and then arrays, truth values, objects, and `null`
(`Json.compareCells_of_kind_lt`). So cells that compare equal are of one kind.
-/

namespace Tenancy

/-! ## First characters -/

theorem head?_digits (n : Nat) : ∃ c, (Nat.toDigits 10 n).head? = some c ∧ c.isDigit := by
  obtain ⟨c, rest, hDigits⟩ := List.exists_cons_of_ne_nil (Nat.toDigits_ne_nil (b := 10) (n := n))
  have hMem : c ∈ Nat.toDigits 10 n := by
    rw [hDigits]
    exact List.mem_cons_self
  exact ⟨c, by rw [hDigits]; rfl, Nat.isDigit_of_mem_toDigits (by decide) (by decide) hMem⟩

theorem head?_write (layout : DecimalLayout) (d : Decimal) :
    ∃ c, (layout.write d).toList.head? = some c ∧ c.isDigit := by
  obtain ⟨c, hDigits, hDigit⟩ := head?_digits d.digits
  have hTake : ∀ n, 0 < n → ((Nat.toDigits 10 d.digits).take n).head? = some c := by
    intro n hn
    rw [List.head?_take, if_neg (by omega), hDigits]
  unfold DecimalLayout.write
  dsimp only
  split
  · split
    · exact ⟨c, by simp [hDigits], hDigit⟩
    · split
      · rename_i hPoint
        exact ⟨c, by simp [hTake _ (Int.lt_toNat.mpr hPoint)], hDigit⟩
      · exact ⟨'0', by simp, rfl⟩
  · exact ⟨c, by simp [hTake 1 Nat.one_pos], hDigit⟩

/-- A text whose first character is less comes first. -/
theorem compare_eq_lt_of_head? {s t : String} {c d : Char} (hs : s.toList.head? = some c)
    (ht : t.toList.head? = some d) (h : c < d) : compare s t = .lt := by
  obtain ⟨cs, hcs⟩ := List.head?_eq_some_iff.mp hs
  obtain ⟨ds, hds⟩ := List.head?_eq_some_iff.mp ht
  have hLt : s < t := by
    rw [String.lt_iff, hcs, hds]
    exact List.cons_lt_cons_iff.mpr (.inl h)
  exact compareOfLessAndEq_eq_lt.mpr hLt

namespace Json

theorem Number.head?_text (n : Number) :
    ∃ c, n.text.toList.head? = some c ∧ (c = '-' ∨ c.isDigit) := by
  cases n with
  | integer i least greatest =>
    obtain ⟨c, hDigits, hDigit⟩ := head?_digits i.toNat
    change ∃ c, i.repr.toList.head? = some c ∧ (c = '-' ∨ c.isDigit)
    rw [Int.repr_eq_if]
    split
    · exact ⟨c, by simp [hDigits], .inr hDigit⟩
    · exact ⟨'-', by simp, .inl rfl⟩
  | float x hFinite =>
    obtain ⟨c, hWrite, hDigit⟩ := head?_write layout (x.shortest layout.tieUp)
    have hNumber : x.isNaN = false := Number.toDouble_isNaN (.float x hFinite)
    change ∃ c, (layout.text x).toList.head? = some c ∧ (c = '-' ∨ c.isDigit)
    unfold DecimalLayout.text
    simp only [hNumber, hFinite, Bool.not_true, Bool.false_eq_true, ite_false]
    cases x.negative with
    | true =>
      refine ⟨'-', ?_, .inl rfl⟩
      split <;> simp
    | false =>
      split
      · exact ⟨'0', by simp, .inr rfl⟩
      · exact ⟨c, by simp [hWrite], .inr hDigit⟩

/-! ## The order of the kinds -/

/-- The place of the kind of a cell among all kinds. -/
def kind : Json → Nat
  | .string _ => 0
  | .number _ => 1
  | .array _ => 2
  | .bool _ => 3
  | .object _ => 4
  | .null => 5

theorem string_of_kind {cell : Json} (h : cell.kind = 0) : ∃ s, cell = .string s := by
  cases cell <;> first | exact ⟨_, rfl⟩ | cases h

theorem number_of_kind {cell : Json} (h : cell.kind = 1) : ∃ n, cell = .number n := by
  cases cell <;> first | exact ⟨_, rfl⟩ | cases h

theorem array_of_kind {cell : Json} (h : cell.kind = 2) : ∃ items, cell = .array items := by
  cases cell <;> first | exact ⟨_, rfl⟩ | cases h

theorem bool_of_kind {cell : Json} (h : cell.kind = 3) : ∃ b, cell = .bool b := by
  cases cell <;> first | exact ⟨_, rfl⟩ | cases h

theorem object_of_kind {cell : Json} (h : cell.kind = 4) : ∃ fields, cell = .object fields := by
  cases cell <;> first | exact ⟨_, rfl⟩ | cases h

theorem null_of_kind {cell : Json} (h : cell.kind = 5) : cell = .null := by
  cases cell <;> first | rfl | cases h

/-- The least and the greatest character with which the text of a cell of this kind begins. -/
def leads : Json → Char × Char
  | .string _ => ('"', '"')
  | .number _ => ('-', '9')
  | .array _ => ('[', '[')
  | .bool _ => ('f', 't')
  | .object _ => ('\x7b', '\x7b')
  | .null => ('n', 'n')

theorem head?_text (cell : Json) :
    ∃ c, cell.text.toList.head? = some c ∧ cell.leads.1 ≤ c ∧ c ≤ cell.leads.2 := by
  cases cell with
  | null => exact ⟨'n', rfl, by decide⟩
  | bool b => cases b <;> exact ⟨_, rfl, by decide⟩
  | number n =>
    obtain ⟨c, hHead, hNumeral⟩ := n.head?_text
    refine ⟨c, hHead, ?_⟩
    dsimp only [leads]
    rcases hNumeral with rfl | hDigit
    · decide
    · simp only [Char.isDigit, Bool.and_eq_true, decide_eq_true_eq] at hDigit
      exact ⟨Std.le_trans (b := '0') (by decide) hDigit.1, hDigit.2⟩
  | string s => exact ⟨'"', by simp [text, stringText], by simp [leads]⟩
  | array items => exact ⟨'[', by simp [text], by simp [leads]⟩
  | object fields => exact ⟨'\x7b', by simp [text], by simp [leads]⟩

theorem leads_lt {a b : Json} (hNull : b ≠ .null) (h : a.kind < b.kind) :
    a.leads.2 < b.leads.1 := by
  revert h hNull
  cases a <;> cases b <;> simp only [kind, leads] <;> intro hNull h <;>
    first | decide | exact absurd h (by decide) | exact absurd rfl hNull

/-- Cells of different kinds stand in the order of the kinds. -/
theorem compareCells_of_kind_lt {a b : Json} (h : a.kind < b.kind) : compareCells a b = .lt := by
  by_cases hNull : b = .null
  · subst hNull
    cases a <;> first | rfl | exact absurd h (by decide)
  · obtain ⟨c, ha, -, hc⟩ := a.head?_text
    obtain ⟨d, hb, hd, -⟩ := b.head?_text
    have hLeads : c < d := Std.lt_of_le_of_lt hc (Std.lt_of_lt_of_le (leads_lt hNull h) hd)
    have hText := compare_eq_lt_of_head? ha hb hLeads
    cases a <;> cases b <;>
      first | exact hText | exact absurd h (Nat.lt_irrefl _) | exact absurd rfl hNull |
        exact absurd h (by simp [kind])

/-- Cells in order are of kinds in order. -/
theorem kind_le_of_isLE {a b : Json} (h : (compareCells a b).isLE) : a.kind ≤ b.kind := by
  refine Nat.not_lt.mp fun hLt => ?_
  rw [← compareCells_swap b a, compareCells_of_kind_lt hLt] at h
  cases h

theorem kind_eq_of_compareCells {a b : Json} (h : compareCells a b = .eq) : a.kind = b.kind := by
  refine Nat.le_antisymm (kind_le_of_isLE (by rw [h]; rfl)) (kind_le_of_isLE ?_)
  rw [← compareCells_swap a b, h]
  rfl

/-- Within a kind other than those of texts and numbers, cells are ordered by their texts. -/
theorem compareCells_eq_compare_text {a b : Json} (hKind : b.kind = a.kind) (hText : a.kind ≠ 0)
    (hNumber : a.kind ≠ 1) : compareCells a b = compare a.text b.text := by
  cases a with
  | string s => exact absurd rfl hText
  | number n => exact absurd rfl hNumber
  | null =>
    obtain rfl := null_of_kind hKind
    exact Std.ReflCmp.compare_self.symm
  | bool p =>
    obtain ⟨q, rfl⟩ := bool_of_kind hKind
    cases p <;> cases q <;> decide
  | array items =>
    obtain ⟨others, rfl⟩ := array_of_kind hKind
    rfl
  | object fields =>
    obtain ⟨others, rfl⟩ := object_of_kind hKind
    rfl

/-- Three cells of one kind are texts, or numbers, or ordered by their texts. -/
theorem cases_of_kind {a b c : Json} (hb : b.kind = a.kind) (hc : c.kind = a.kind) :
    (∃ s p t, a = .string s ∧ b = .string p ∧ c = .string t) ∨
      (∃ n k l, a = .number n ∧ b = .number k ∧ c = .number l) ∨
      (compareCells a b = compare a.text b.text ∧ compareCells b c = compare b.text c.text ∧
        compareCells a c = compare a.text c.text) := by
  by_cases hText : a.kind = 0
  · obtain ⟨s, rfl⟩ := string_of_kind hText
    obtain ⟨p, rfl⟩ := string_of_kind hb
    obtain ⟨t, rfl⟩ := string_of_kind hc
    exact .inl ⟨s, p, t, rfl, rfl, rfl⟩
  · by_cases hNumber : a.kind = 1
    · obtain ⟨n, rfl⟩ := number_of_kind hNumber
      obtain ⟨k, rfl⟩ := number_of_kind hb
      obtain ⟨l, rfl⟩ := number_of_kind hc
      exact .inr (.inl ⟨n, k, l, rfl, rfl, rfl⟩)
    · refine .inr (.inr ⟨compareCells_eq_compare_text hb hText hNumber, ?_,
        compareCells_eq_compare_text hc hText hNumber⟩)
      exact compareCells_eq_compare_text (by omega) (by omega) (by omega)

end Json

end Tenancy
