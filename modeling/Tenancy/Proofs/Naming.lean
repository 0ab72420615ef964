import Mathlib.Data.Set.Function
import Tenancy.Proofs.Renaming

/-!
# What a naming convention loses

The snake form has no capitals and the camel form no underscores, so to write either form a second
time changes nothing. Names that are `Regular` lose nothing, either: where words begin with single
capitals, the snake form shows where these were (`toCamel_toSnake`), and where words stand between
underscores, the camel form does if each word in the middle has a second character behind its
capital (`toSnake_toCamel`). So a convention gives different columns to different regular fields, and
no declaration is refused for two of them (`conventions_invertible`).
-/

namespace Tenancy

namespace Naming

/-! ## Characters -/

variable {c : Char}

theorem isCapital_iff : isCapital c ↔ 65 ≤ c.toNat ∧ c.toNat ≤ 90 := by
  simp [isCapital, Char.le_def, UInt32.le_iff_toNat_le]

theorem isSmall_iff : isSmall c ↔ 97 ≤ c.toNat ∧ c.toNat ≤ 122 := by
  simp [isSmall, Char.le_def, UInt32.le_iff_toNat_le]

theorem toNat_toLower (c : Char) :
    c.toLower.toNat = if isCapital c then c.toNat + 32 else c.toNat := by
  have hCapital : isCapital c ↔ c.val ≥ 'A'.val ∧ c.val ≤ 'Z'.val := by
    simp [isCapital, Char.le_def]
  rw [← Char.toNat_val]
  delta Char.toLower
  by_cases h : isCapital c
  · rw [dif_pos (hCapital.mp h), if_pos h]
    rw [isCapital_iff] at h
    simp
    omega
  · rw [dif_neg (mt hCapital.mpr h), if_neg h, Char.toNat_val]

theorem toNat_toUpper (c : Char) :
    c.toUpper.toNat = if isSmall c then c.toNat - 32 else c.toNat := by
  have hSmall : isSmall c ↔ 'a'.val ≤ c.val ∧ c.val ≤ 'z'.val := by
    simp [isSmall, Char.le_def]
  rw [← Char.toNat_val]
  delta Char.toUpper
  by_cases h : isSmall c
  · rw [dif_pos (hSmall.mp h), if_pos h]
    rw [isSmall_iff] at h
    simp
    omega
  · rw [dif_neg (mt hSmall.mpr h), if_neg h, Char.toNat_val]

theorem isCapital_toLower (c : Char) : isCapital c.toLower = false := by
  rw [← Bool.not_eq_true, isCapital_iff, toNat_toLower]
  split <;> rename_i h <;> rw [isCapital_iff] at h <;> omega

theorem isCapital_toUpper (h : isSmall c) : isCapital c.toUpper := by
  rw [isCapital_iff, toNat_toUpper, if_pos h]
  rw [isSmall_iff] at h
  omega

theorem isSmall_toLower (h : isCapital c) : isSmall c.toLower := by
  rw [isSmall_iff, toNat_toLower, if_pos h]
  rw [isCapital_iff] at h
  omega

theorem toLower_toUpper (h : isSmall c) : c.toUpper.toLower = c := by
  rw [← Char.toNat_inj, toNat_toLower, if_pos (isCapital_toUpper h), toNat_toUpper, if_pos h]
  rw [isSmall_iff] at h
  omega

theorem toUpper_toLower (h : isCapital c) : c.toLower.toUpper = c := by
  rw [← Char.toNat_inj, toNat_toUpper, if_pos (isSmall_toLower h), toNat_toLower, if_pos h,
    Nat.add_sub_cancel]

theorem toUpper_ne_underscore (h : c ≠ '_') : c.toUpper ≠ '_' := by
  intro hUpper
  have hNat : c.toUpper.toNat = 95 := by rw [hUpper]; rfl
  rw [toNat_toUpper] at hNat
  split at hNat
  · rename_i hSmall
    rw [isSmall_iff] at hSmall
    omega
  · exact h (Char.toNat_inj.mp hNat)

/-- A character that is written inside of words. -/
def isPlain (c : Char) : Bool := isSmall c || Text.isDigit c

theorem not_isCapital_of_isPlain (h : isPlain c) : isCapital c = false := by
  rw [← Bool.not_eq_true, isCapital_iff]
  rcases (Bool.or_eq_true _ _).mp h with hSmall | hDigit
  · rw [isSmall_iff] at hSmall
    omega
  · have hNat : c.toNat ≤ 57 := by
      simp [Text.isDigit, Char.le_def, UInt32.le_iff_toNat_le] at hDigit
      omega
    omega

theorem ne_underscore_of_isPlain (h : isPlain c) : c ≠ '_' := by
  rintro rfl
  exact absurd h (by decide)

theorem ne_underscore_of_isCapital (h : isCapital c) : c ≠ '_' := by
  rintro rfl
  exact absurd h (by decide)

/-- A capital behind a character that is written inside of words begins a word. -/
theorem beginsWord_of_isPlain (h : isPlain c) (next : Option Char) :
    beginsWord (some c) next = true := by
  have hPlain : (isSmall c || Text.isDigit c) = true := h
  simp [beginsWord, hPlain]

/-! ## Each form of itself -/

theorem isCapital_of_mem_snakeFrom (prev : Option Char) (cs : List Char) :
    ∀ c ∈ snakeFrom prev cs, isCapital c = false := by
  induction cs generalizing prev with
  | nil => simp [snakeFrom]
  | cons c rest ih =>
    rw [snakeFrom]
    split
    · split
      · exact List.forall_mem_cons.mpr
          ⟨by decide, List.forall_mem_cons.mpr ⟨isCapital_toLower c, ih _⟩⟩
      · exact List.forall_mem_cons.mpr ⟨isCapital_toLower c, ih _⟩
    · rename_i hCapital
      exact List.forall_mem_cons.mpr ⟨Bool.eq_false_iff.mpr hCapital, ih _⟩

theorem snakeFrom_append_of_no_capitals {cs : List Char} (h : ∀ c ∈ cs, isCapital c = false)
    (prev : Option Char) (rest : List Char) :
    snakeFrom prev (cs ++ rest) = cs ++ snakeFrom (cs.getLast?.or prev) rest := by
  induction cs generalizing prev with
  | nil => rfl
  | cons c cs ih =>
    obtain ⟨hFirst, hRest⟩ := List.forall_mem_cons.mp h
    rw [List.cons_append, snakeFrom, hFirst, if_neg Bool.false_ne_true, ih hRest, List.cons_append,
      List.getLast?_cons, ← Option.or_some]
    cases cs.getLast? <;> rfl

/-- **The snake form is its own snake form.** -/
theorem toSnake_toSnake (s : String) : toSnake (toSnake s) = toSnake s := by
  have hSame := snakeFrom_append_of_no_capitals
    (isCapital_of_mem_snakeFrom none s.toList) none []
  rw [List.append_nil, snakeFrom, List.append_nil] at hSame
  rw [toSnake, toSnake, String.toList_ofList, hSame]

theorem ne_underscore_of_mem_camelFrom (started raise : Bool) (cs : List Char) :
    ∀ c ∈ camelFrom started raise cs, c ≠ '_' := by
  induction cs generalizing started raise with
  | nil => simp [camelFrom]
  | cons c rest ih =>
    rw [camelFrom]
    split
    · exact ih _ _
    · rename_i hc
      refine List.forall_mem_cons.mpr ⟨?_, ih _ _⟩
      split
      · exact toUpper_ne_underscore hc
      · exact hc

theorem camelFrom_append_of_no_underscores {cs : List Char} (h : ∀ c ∈ cs, c ≠ '_')
    (started : Bool) (rest : List Char) :
    camelFrom started false (cs ++ rest) = cs ++ camelFrom (started || !cs.isEmpty) false rest := by
  induction cs generalizing started with
  | nil => simp
  | cons c cs ih =>
    obtain ⟨hFirst, hRest⟩ := List.forall_mem_cons.mp h
    rw [List.cons_append, camelFrom, if_neg hFirst, if_neg Bool.false_ne_true, ih hRest]
    simp

/-- **The camel form is its own camel form.** -/
theorem toCamel_toCamel (s : String) : toCamel (toCamel s) = toCamel s := by
  have hSame := camelFrom_append_of_no_underscores
    (ne_underscore_of_mem_camelFrom false false s.toList) false []
  rw [List.append_nil, camelFrom, List.append_nil] at hSame
  rw [toCamel, toCamel, String.toList_ofList, hSame]

/-! ## From single capitals and back -/

/-- A name of ASCII letters and digits that starts with a small letter, without two capitals side by
side. -/
structure HasSingleCapitals (s : String) : Prop where
  starts : s.toList.head?.any isSmall
  ascii : s.toList.all fun c => isCapital c || isPlain c
  single : s.toList.IsChain fun c d => ¬(isCapital c ∧ isCapital d)

/-- Behind a character, each single capital is found again as the beginning of a word. -/
theorem camelFrom_snakeFrom {prev : Char} {cs : List Char}
    (hAscii : (prev :: cs).all fun c => isCapital c || isPlain c)
    (hSingle : (prev :: cs).IsChain fun c d => ¬(isCapital c ∧ isCapital d)) :
    camelFrom true false (snakeFrom (some prev) cs) = cs := by
  induction cs generalizing prev with
  | nil => rfl
  | cons c rest ih =>
    obtain ⟨hPrev, hAscii⟩ := (Bool.and_eq_true _ _).mp hAscii
    obtain ⟨hFirst, -⟩ := (Bool.and_eq_true _ _).mp hAscii
    obtain ⟨hApart, hSingle⟩ := List.isChain_cons_cons.mp hSingle
    have hRest := ih hAscii hSingle
    by_cases hc : isCapital c
    · have hPlain : isPlain prev :=
        ((Bool.or_eq_true _ _).mp hPrev).resolve_left fun hCapital => hApart ⟨hCapital, hc⟩
      have hLower : c.toLower ≠ '_' := by
        intro hUnderscore
        have hUpper := toUpper_toLower hc
        rw [hUnderscore] at hUpper
        exact ne_underscore_of_isCapital hc hUpper.symm
      rw [snakeFrom, if_pos hc, if_pos (beginsWord_of_isPlain hPlain _), camelFrom, if_pos rfl,
        camelFrom, if_neg hLower, if_pos rfl, toUpper_toLower hc, hRest]
    · have hPlain : isPlain c := ((Bool.or_eq_true _ _).mp hFirst).resolve_left hc
      rw [snakeFrom, if_neg hc, camelFrom, if_neg (ne_underscore_of_isPlain hPlain),
        if_neg Bool.false_ne_true, hRest]

/-- **Single capitals come back out of the snake form.** -/
theorem toCamel_toSnake {s : String} (h : HasSingleCapitals s) : toCamel (toSnake s) = s := by
  suffices hChars : camelFrom false false (snakeFrom none s.toList) = s.toList by
    rw [toCamel, toSnake, String.toList_ofList, hChars, String.ofList_toList]
  obtain ⟨hStarts, hAscii, hSingle⟩ := h
  cases hList : s.toList with
  | nil => rfl
  | cons c rest =>
    rw [hList] at hStarts hAscii hSingle
    have hPlain : isPlain c := (Bool.or_eq_true _ _).mpr (.inl hStarts)
    rw [snakeFrom, not_isCapital_of_isPlain hPlain, if_neg Bool.false_ne_true, camelFrom,
      if_neg (ne_underscore_of_isPlain hPlain), if_neg Bool.false_ne_true,
      camelFrom_snakeFrom hAscii hSingle]

/-! ## From words and back -/

/-- A small letter, then small letters and digits. -/
structure IsWord (w : List Char) : Prop where
  starts : w.head?.any isSmall
  plain : w.all isPlain

/-- A name of words with underscores between them, of which those in the middle, neither the first
nor the last, have at least two characters. -/
def HasWords (s : String) : Prop :=
  ∃ words : List (List Char), words ≠ [] ∧ s.toList = ['_'].intercalate words ∧
    (∀ w ∈ words, IsWord w) ∧ ∀ w ∈ words.tail.dropLast, 2 ≤ w.length

theorem intercalate_cons (word : List Char) (words : List (List Char)) :
    ['_'].intercalate (word :: words) = word ++ words.flatMap ('_' :: ·) := by
  induction words generalizing word with
  | nil => simp
  | cons next words ih => rw [List.intercalate_cons_cons, ih]; simp

theorem isPlain_of_getLast? {w : List Char} (h : ∀ c ∈ w, isPlain c) (hw : w ≠ []) :
    ∃ last, w.getLast? = some last ∧ isPlain last :=
  ⟨w.getLast hw, List.getLast?_eq_some_getLast hw, h _ (List.getLast_mem hw)⟩

/-- Behind a character that is written inside of words, each word is found again at its capital. -/
theorem snakeFrom_camelFrom {prev : Char} (hPrev : isPlain prev) {words : List (List Char)}
    (hWords : ∀ w ∈ words, IsWord w) (hMiddle : ∀ w ∈ words.dropLast, 2 ≤ w.length) :
    snakeFrom (some prev) (camelFrom true false (words.flatMap ('_' :: ·))) =
      words.flatMap ('_' :: ·) := by
  induction words generalizing prev with
  | nil => rfl
  | cons w words ih =>
    obtain ⟨⟨hStarts, hPlain⟩, hOthers⟩ := List.forall_mem_cons.mp hWords
    cases w with
    | nil => cases hStarts
    | cons c w =>
      have hSmall : isSmall c := hStarts
      obtain ⟨hFirst, hInner⟩ := List.forall_mem_cons.mp (List.all_eq_true.mp hPlain)
      have hCamel : camelFrom true false (('_' :: c :: w) ++ words.flatMap ('_' :: ·)) =
          c.toUpper :: (w ++ camelFrom true false (words.flatMap ('_' :: ·))) := by
        rw [List.cons_append, List.cons_append, camelFrom, if_pos rfl, camelFrom,
          if_neg (ne_underscore_of_isPlain hFirst), if_pos rfl, camelFrom_append_of_no_underscores
            fun d hd => ne_underscore_of_isPlain (hInner d hd)]
        simp
      have hSnake : snakeFrom (some c.toUpper)
          (w ++ camelFrom true false (words.flatMap ('_' :: ·))) =
            w ++ words.flatMap ('_' :: ·) := by
        rw [snakeFrom_append_of_no_capitals fun d hd => not_isCapital_of_isPlain (hInner d hd)]
        cases words with
        | nil => rfl
        | cons next words =>
          -- the word is in the middle, so another character stands behind its capital
          obtain ⟨hLength, hMiddle⟩ := List.forall_mem_cons.mp hMiddle
          have hNe : w ≠ [] := by
            rintro rfl
            simp at hLength
          obtain ⟨last, hLast, hLastPlain⟩ := isPlain_of_getLast? hInner hNe
          rw [hLast, Option.some_or, ih hLastPlain hOthers hMiddle]
      rw [List.flatMap_cons, hCamel, snakeFrom, if_pos (isCapital_toUpper hSmall),
        if_pos (beginsWord_of_isPlain hPrev _), toLower_toUpper hSmall, hSnake]
      rfl

/-- **Words come back out of the camel form.** -/
theorem toSnake_toCamel {s : String} (h : HasWords s) : toSnake (toCamel s) = s := by
  suffices hChars : snakeFrom none (camelFrom false false s.toList) = s.toList by
    rw [toSnake, toCamel, String.toList_ofList, hChars, String.ofList_toList]
  obtain ⟨words, hNe, hList, hWords, hMiddle⟩ := h
  cases words with
  | nil => exact absurd rfl hNe
  | cons w words =>
    obtain ⟨⟨hStarts, hAll⟩, hWords⟩ := List.forall_mem_cons.mp hWords
    have hPlain : ∀ c ∈ w, isPlain c := List.all_eq_true.mp hAll
    have hFirst : w ≠ [] := by
      rintro rfl
      cases hStarts
    obtain ⟨last, hLast, hLastPlain⟩ := isPlain_of_getLast? hPlain hFirst
    have hStarted : (false || !w.isEmpty) = true := by simpa using hFirst
    rw [hList, intercalate_cons, camelFrom_append_of_no_underscores
      fun c hc => ne_underscore_of_isPlain (hPlain c hc), hStarted, snakeFrom_append_of_no_capitals
      fun c hc => not_isCapital_of_isPlain (hPlain c hc), hLast, Option.some_or,
      snakeFrom_camelFrom hLastPlain hWords hMiddle]

/-- The middle word of `a_b_c` is lost: its capital and the one behind it read as one word. -/
example : toCamel "a_b_c" = "aBC" ∧ toSnake "aBC" = "a_bc" := by decide

/-! ## Regular fields -/

/-- A field name of which the convention loses nothing. -/
def Regular : Naming → String → Prop
  | .identity, field => field ≠ ""
  | .snake, field => HasSingleCapitals field
  | .camel, field => HasWords field

/-- The field name of a column. -/
def unapply : Naming → String → String
  | .identity, column => column
  | .snake, column => toCamel column
  | .camel, column => toSnake column

theorem unapply_apply {naming : Naming} {field : String} (h : naming.Regular field) :
    naming.unapply (naming.apply field) = field := by
  cases naming with
  | identity => rfl
  | snake => exact toCamel_toSnake h
  | camel => exact toSnake_toCamel h

theorem apply_injOn (naming : Naming) : Set.InjOn naming.apply {field | naming.Regular field} :=
  Set.LeftInvOn.injOn fun _ h => unapply_apply h

theorem ne_empty_of_regular {naming : Naming} {field : String} (h : naming.Regular field) :
    field ≠ "" := by
  rintro rfl
  cases naming with
  | identity => exact h rfl
  | snake => cases h.starts
  | camel =>
    obtain ⟨words, hNe, hList, hWords, -⟩ := h
    cases words with
    | nil => exact hNe rfl
    | cons w words =>
      rw [intercalate_cons] at hList
      obtain rfl : w = [] := (List.append_eq_nil_iff.mp hList.symm).1
      cases (hWords [] List.mem_cons_self).starts

theorem apply_ne_empty {naming : Naming} {field : String} (h : naming.Regular field) :
    naming.apply field ≠ "" := by
  intro hEmpty
  have hField := unapply_apply h
  rw [hEmpty] at hField
  refine ne_empty_of_regular h (hField.symm.trans ?_)
  cases naming <;> rfl

end Naming

/-! ## Columns of regular fields -/

namespace ColumnMap

variable {table : String} {fields : List String} {naming : Naming} {overrides : List FieldColumn}

theorem columnFor_of_not_overridden {field : String} (h : ∀ o ∈ overrides, o.field ≠ field) :
    columnFor naming overrides field = naming.apply field := by
  have hNone : overrides.find? (·.field = field) = none := by simpa using h
  rw [columnFor, hNone]

/-- Two fields are refused for a column only if it is the column of both. -/
theorem extend_sharedColumn (added : List String) {first second table' column : String}
    (h : extend table naming overrides (added.map (pairFor naming overrides)) fields =
      .error (.configuration (.sharedColumn first second table' column))) :
    columnFor naming overrides first = column ∧ columnFor naming overrides second = column := by
  induction fields generalizing added with
  | nil => cases h
  | cons field rest ih =>
    have hPairs : added.map (pairFor naming overrides) ++ [pairFor naming overrides field] =
        (added ++ [field]).map (pairFor naming overrides) := by simp
    rw [extend] at h
    split at h
    · cases h
    · split at h
      · rename_i previous hPrevious
        obtain ⟨f, -, rfl⟩ := List.mem_map.mp (List.mem_of_find?_eq_some hPrevious)
        have hSame := List.find?_some hPrevious
        cases h
        exact ⟨of_decide_eq_true hSame, rfl⟩
      · split at h
        · cases h
        · exact ih _ (hPairs ▸ h)

theorem build_sharedColumn {first second table' column : String}
    (h : build table fields naming overrides =
      .error (.configuration (.sharedColumn first second table' column))) :
    columnFor naming overrides first = columnFor naming overrides second := by
  unfold build at h
  split at h
  · cases h
  · split at h
    · cases h
    · split at h
      · rename_i e hExtend
        cases h
        obtain ⟨hFirst, hSecond⟩ := extend_sharedColumn [] hExtend
        exact hFirst.trans hSecond.symm
      · cases h

/-- Different regular fields are accepted without overrides. -/
theorem acceptable_of_regular (hTable : ∃ c ∈ table.toList, Text.isBlank c = false)
    (hRegular : ∀ field ∈ fields, naming.Regular field) (hDistinct : fields.Nodup) :
    Acceptable table fields naming [] where
  named := hTable
  declared := by simp
  nonempty field hField := Naming.apply_ne_empty (hRegular field hField)
  distinct := hDistinct.map_on fun a ha b hb hSame =>
    naming.apply_injOn (hRegular a ha) (hRegular b hb) hSame

end ColumnMap

namespace Naming

open ColumnMap

/-- **The conventions can be turned around on regular names.**
1. Either form of a name is its own form.
2. A name with single capitals comes back out of its snake form, and one of words with underscores
between them out of its camel form.
3. So a convention gives different columns to different regular fields.
4. No declaration is refused for a column that two regular fields share, unless the two are the same
field or an override names one of them.
5. Without overrides, a table with a name and different regular fields is accepted, each field with
the column of the convention. -/
theorem conventions_invertible :
    (∀ s, toSnake (toSnake s) = toSnake s) ∧ (∀ s, toCamel (toCamel s) = toCamel s) ∧
      (∀ x, HasSingleCapitals x → toCamel (toSnake x) = x) ∧
      (∀ y, HasWords y → toSnake (toCamel y) = y) ∧
      (∀ x x', HasSingleCapitals x → HasSingleCapitals x' →
        Naming.snake.apply x = Naming.snake.apply x' → x = x') ∧
      (∀ y y', HasWords y → HasWords y' →
        Naming.camel.apply y = Naming.camel.apply y' → y = y') ∧
      (∀ table fields naming overrides first second table' column,
        build table fields naming overrides =
          .error (.configuration (.sharedColumn first second table' column)) →
        naming.Regular first → naming.Regular second →
        (∀ o ∈ overrides, o.field ≠ first ∧ o.field ≠ second) → first = second) ∧
      ∀ table fields naming, (∃ c ∈ table.toList, Text.isBlank c = false) →
        (∀ field ∈ fields, naming.Regular field) → fields.Nodup →
        ∃ m, build table fields naming [] = .ok m ∧
          ∀ field ∈ fields, m.column field = .ok (naming.apply field) := by
  refine ⟨toSnake_toSnake, toCamel_toCamel, fun _ => toCamel_toSnake, fun _ => toSnake_toCamel,
    fun x x' hx hx' hSame => apply_injOn .snake hx hx' hSame,
    fun y y' hy hy' hSame => apply_injOn .camel hy hy' hSame, ?_, ?_⟩
  · intro table fields naming overrides first second table' column hRefused hFirst hSecond hPlain
    have hSame := build_sharedColumn hRefused
    rw [columnFor_of_not_overridden fun o ho => (hPlain o ho).1,
      columnFor_of_not_overridden fun o ho => (hPlain o ho).2] at hSame
    exact naming.apply_injOn hFirst hSecond hSame
  · intro table fields naming hTable hRegular hDistinct
    obtain ⟨m, hBuild⟩ := exists_build_iff.mpr (acceptable_of_regular hTable hRegular hDistinct)
    refine ⟨m, hBuild, fun field hField => column_eq_ok_iff.mpr ?_⟩
    exact (column?_eq_some_iff_of_build hBuild).mpr ⟨hField, rfl⟩

/-- Names of job fields come back in either convention, also with a numeral inside of a word, and two
of them are accepted together. -/
theorem jobs_named :
    toCamel (toSnake "due2At") = "due2At" ∧ toSnake (toCamel "next_due_at") = "next_due_at" ∧
      ∃ m, build "jobs" ["jobId", "dueAt"] .snake [] = .ok m ∧ m.column "dueAt" = .ok "due_at" := by
  obtain ⟨-, -, hCamel, hSnake, -, -, -, hAccepted⟩ := conventions_invertible
  have hNumeral : HasSingleCapitals "due2At" := ⟨by decide, by decide, by decide⟩
  have hId : HasSingleCapitals "jobId" := ⟨by decide, by decide, by decide⟩
  have hDue : HasSingleCapitals "dueAt" := ⟨by decide, by decide, by decide⟩
  have hWords : HasWords "next_due_at" := by
    refine ⟨[['n', 'e', 'x', 't'], ['d', 'u', 'e'], ['a', 't']], by decide, by decide, ?_, by decide⟩
    exact List.forall_mem_cons.mpr ⟨⟨by decide, by decide⟩, List.forall_mem_cons.mpr
      ⟨⟨by decide, by decide⟩, List.forall_mem_singleton.mpr ⟨by decide, by decide⟩⟩⟩
  obtain ⟨m, hBuild, hColumns⟩ := hAccepted "jobs" ["jobId", "dueAt"] .snake
    ⟨'j', by decide, by decide⟩
    (List.forall_mem_cons.mpr ⟨hId, List.forall_mem_singleton.mpr hDue⟩) (by decide)
  have hColumn : Naming.snake.apply "dueAt" = "due_at" := by decide
  exact ⟨hCamel _ hNumeral, hSnake _ hWords, m, hBuild, hColumn ▸ hColumns "dueAt" (by simp)⟩

end Naming

end Tenancy
