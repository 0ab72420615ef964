import Tenancy.Proofs.Sql.Grammar

/-!
# The conditions of a statement

What a statement asks of its rows, read off its tokens. Words in parentheses are of no concern
outside them (`partsBetween`): the conditions stand behind the first `WHERE` outside parentheses and
end where another clause starts, and they are taken apart at `OR` first and at `AND` then
(`conditionOf`). What is put together as a conjunction is found again part by part, as long as no
part has such a word outside parentheses (`conditionOf_conjunction`), which holds for every
condition (`closed_condition`).
-/

namespace Tenancy.Sql

namespace Token

variable {π : Type}

/-! ## Parts between words -/

/-- The depth of parentheses behind a token. -/
def depthBehind (d : Nat) : Token π → Nat
  | .symbol s => if s = "(" then d + 1 else if s = ")" then d - 1 else d
  | _ => d

def isWord (test : String → Bool) : Token π → Bool
  | .word w => test w
  | _ => false

/-- The parts between the words outside parentheses that satisfy a test. -/
def partsBetween (test : String → Bool) (d : Nat) : List (Token π) → List (List (Token π))
  | [] => [[]]
  | t :: ts =>
    if d = 0 ∧ t.isWord test then [] :: partsBetween test 0 ts
    else (partsBetween test (t.depthBehind d) ts).modifyHead (t :: ·)

/-- The tokens up to the parenthesis that closes the one before them. -/
def inside (d : Nat) : List (Token π) → List (Token π)
  | [] => []
  | t :: ts => if d = 0 ∧ t.depthBehind 1 = 0 then [] else t :: inside (t.depthBehind d) ts

/-- The tokens in the first parentheses. -/
def firstGroup : List (Token π) → List (Token π)
  | [] => []
  | t :: ts => if t.depthBehind 0 = 1 then inside 0 ts else firstGroup ts

/-- The words that start a clause behind the conditions. -/
def clauseWords : List String :=
  ["GROUP", "HAVING", "WINDOW", "UNION", "ORDER", "LIMIT", "OFFSET", "FETCH", "FOR", "RETURNING"]

/-- The tokens of the conditions. -/
def whereClause (ts : List (Token π)) : List (Token π) :=
  let behind := (partsBetween (· == "WHERE") 0 ts).getD 1 []
  (partsBetween (fun w => w ∈ clauseWords) 0 behind).headD []

/-- The conditions in parts: one of the outer parts must hold, and it holds if all of its parts
do. -/
def conditionOf (ts : List (Token π)) : List (List (List (Token π))) :=
  (partsBetween (· == "OR") 0 (whereClause ts)).map (partsBetween (· == "AND") 0)

/-! ## Closed parts -/

/-- A token other than a parenthesis. -/
def isPlain : Token π → Bool
  | .symbol s => s != "(" && s != ")"
  | _ => true

/-- Tokens with matching parentheses and no word outside them that satisfies the test. -/
inductive Closed : (String → Bool) → List (Token π) → Prop where
  | nil {test : String → Bool} : Closed test []
  | cons {test : String → Bool} {t : Token π} {ts : List (Token π)} :
    t.isPlain → t.isWord test = false → Closed test ts → Closed test (t :: ts)
  | group {test : String → Bool} {inner ts : List (Token π)} :
    Closed (fun _ => false) inner → Closed test ts → Closed test (grouped inner ++ ts)

theorem depthBehind_of_isPlain {t : Token π} (h : t.isPlain) (d : Nat) : t.depthBehind d = d := by
  cases t with
  | symbol s =>
    obtain ⟨hOpen, hClose⟩ : s ≠ "(" ∧ s ≠ ")" := by simpa [isPlain] using h
    simp [depthBehind, hOpen, hClose]
  | _ => rfl

namespace Closed

variable {test test' : String → Bool} {ts us : List (Token π)}

theorem append (hts : Closed test ts) (hus : Closed test us) : Closed test (ts ++ us) := by
  induction hts with
  | nil => exact hus
  | cons hPlain hTest _ ih => exact .cons hPlain hTest (ih hus)
  | group hInner _ _ ih =>
    rw [List.append_assoc]
    exact .group hInner (ih hus)

/-- Of fewer words there is none, either. -/
theorem mono (hts : Closed test ts) (h : ∀ w, test' w → test w) : Closed test' ts := by
  induction hts generalizing test' with
  | nil => exact .nil
  | @cons test t _ hPlain hTest _ ih =>
    refine .cons hPlain ?_ (ih h)
    cases t with
    | word w => exact Bool.eq_false_iff.2 fun hw => by simp [isWord, h w hw] at hTest
    | _ => rfl
  | group hInner _ _ ih => exact .group hInner (ih h)

theorem grouped (hts : Closed (fun _ => false) ts) : Closed test (grouped ts) := by
  have hGroup : Closed test (Token.grouped ts ++ []) := .group hts .nil
  simpa using hGroup

end Closed

variable {test test' : String → Bool} {ts us : List (Token π)} {d : Nat}

theorem partsBetween_ne_nil : partsBetween test d ts ≠ [] := by
  induction ts generalizing d with
  | nil => simp [partsBetween]
  | cons t ts ih =>
    rw [partsBetween]
    split
    · simp
    · cases hParts : partsBetween test (t.depthBehind d) ts with
      | nil => exact absurd hParts ih
      | cons part others => simp

theorem partsBetween_cons_of_not {t : Token π} (h : ¬(d = 0 ∧ t.isWord test)) :
    partsBetween test d (t :: ts) =
      (partsBetween test (t.depthBehind d) ts).modifyHead (t :: ·) := by
  rw [partsBetween, if_neg h]

/-- Closed tokens stay together, at any depth. -/
theorem partsBetween_closed (hts : Closed test' ts) (hTest : d = 0 → ∀ w, test w → test' w)
    (us : List (Token π)) :
    partsBetween test d (ts ++ us) = (partsBetween test d us).modifyHead (ts ++ ·) := by
  induction hts generalizing d us with
  | nil =>
    rw [List.nil_append]
    cases partsBetween test d us <;> rfl
  | @cons test' t ts hPlain hWord _ ih =>
    have hNot : ¬(d = 0 ∧ t.isWord test) := by
      rintro ⟨hDepth, hIs⟩
      cases t with
      | word w => simp [isWord, hTest hDepth w hIs] at hWord
      | _ => cases hIs
    rw [List.cons_append, partsBetween_cons_of_not hNot, depthBehind_of_isPlain hPlain, ih hTest,
      List.modifyHead_modifyHead]
    rfl
  | @group test' inner ts _ _ ihInner ih =>
    -- inside the parentheses no word counts
    have hInside := ihInner (d := d + 1) (by simp) (.symbol ")" :: (ts ++ us))
    have hClose : depthBehind (d + 1) (.symbol ")" : Token π) = d := rfl
    rw [partsBetween_cons_of_not (by simp [isWord]), hClose, ih hTest] at hInside
    have hOpen : partsBetween test d (.symbol "(" :: (inner ++ .symbol ")" :: (ts ++ us))) = _ :=
      partsBetween_cons_of_not (by simp [isWord])
    rw [show depthBehind d (.symbol "(" : Token π) = d + 1 from rfl, hInside] at hOpen
    simpa [grouped, Function.comp_def] using hOpen

theorem partsBetween_eq_singleton (hts : Closed test ts) : partsBetween test 0 ts = [ts] := by
  have hAll := partsBetween_closed hts (d := 0) (fun _ _ h => h) []
  simpa [partsBetween] using hAll

/-- Closed tokens before a word that counts are the first part. -/
theorem partsBetween_word (hts : Closed test ts) {w : String} (hw : test w)
    (us : List (Token π)) :
    partsBetween test 0 (ts ++ .word w :: us) = ts :: partsBetween test 0 us := by
  rw [partsBetween_closed hts (fun _ _ h => h)]
  simp [partsBetween, isWord, hw]

/-- A list of closed parts is taken apart into the parts. -/
theorem partsBetween_listed {w : String} (hw : test w) {parts : List (List (Token π))}
    (hNe : parts ≠ []) (h : ∀ part ∈ parts, Closed test part) :
    partsBetween test 0 (listed (.word w) parts) = parts := by
  induction parts with
  | nil => exact absurd rfl hNe
  | cons part rest ih =>
    cases rest with
    | nil => simpa [listed] using partsBetween_eq_singleton (h part (by simp))
    | cons next rest =>
      rw [listed_cons_cons, partsBetween_word (h part (by simp)) hw,
        ih (by simp) fun p hp => h p (by simp [hp])]

theorem Closed.listed {between : Token π} (hPlain : between.isPlain)
    (hWord : between.isWord test = false) {parts : List (List (Token π))}
    (h : ∀ part ∈ parts, Closed test part) : Closed test (listed between parts) := by
  cases parts with
  | nil => exact .nil
  | cons part rest =>
    refine (h part (by simp)).append ?_
    have hRest : ∀ p ∈ rest, Closed test p := fun p hp => h p (by simp [hp])
    clear h
    induction rest with
    | nil => exact .nil
    | cons next rest ih =>
      rw [List.flatMap_cons]
      exact (Closed.cons hPlain hWord (hRest next (by simp))).append
        (ih fun p hp => hRest p (by simp [hp]))

/-- Closed tokens do not close the parenthesis before them. -/
theorem inside_closed (hts : Closed test ts) (us : List (Token π)) :
    inside d (ts ++ us) = ts ++ inside d us := by
  induction hts generalizing d us with
  | nil => rfl
  | cons hPlain _ _ ih => simp [inside, depthBehind_of_isPlain hPlain, ih]
  | @group _ inner ts _ _ ihInner ih =>
    have hOpen : ∀ d, depthBehind d (.symbol "(" : Token π) = d + 1 := fun _ => rfl
    have hClose : ∀ d, depthBehind d (.symbol ")" : Token π) = d - 1 := fun _ => rfl
    simp [grouped, inside, hOpen, hClose, ihInner, ih]

/-- What stands in the first parentheses is found whatever parentheses it has itself. -/
theorem firstGroup_grouped (hus : Closed test us) {ts : List (Token π)}
    (hPlain : ∀ t ∈ ts, t.isPlain) (rest : List (Token π)) :
    firstGroup (ts ++ grouped us ++ rest) = us := by
  induction ts with
  | nil =>
    have hOpen : depthBehind 0 (.symbol "(" : Token π) = 1 := rfl
    have hClose : depthBehind 1 (.symbol ")" : Token π) = 0 := rfl
    simp [grouped, firstGroup, hOpen, inside_closed hus, inside, hClose]
  | cons t ts ih =>
    have hTail := ih fun u hu => hPlain u (by simp [hu])
    simpa [firstGroup, depthBehind_of_isPlain (hPlain t (by simp))] using hTail

end Token

namespace Shape

open Token

/-! ## Numbered parts -/

/-- A number for a placeholder changes neither parentheses nor words. -/
theorem numbered_cons (n : Nat) (t : Token Value) (s : Shape) :
    ∃ (u : Token Nat) (m : Nat), numbered n (t :: s) = u :: numbered m s ∧
      (t.isPlain → u.isPlain) ∧ ∀ test, u.isWord test = t.isWord test := by
  cases t with
  | word text => exact ⟨.word text, n, rfl, id, fun _ => rfl⟩
  | name text => exact ⟨.name text, n, rfl, id, fun _ => rfl⟩
  | literal text => exact ⟨.literal text, n, rfl, id, fun _ => rfl⟩
  | symbol text => exact ⟨.symbol text, n, rfl, id, fun _ => rfl⟩
  | placeholder v => exact ⟨.placeholder n, n + 1, rfl, id, fun _ => rfl⟩

theorem isPlain_numbered {s : Shape} (hs : ∀ t ∈ s, t.isPlain) (n : Nat) :
    ∀ t ∈ numbered n s, t.isPlain := by
  induction s generalizing n with
  | nil => simp [numbered]
  | cons t s ih =>
    obtain ⟨u, m, hCons, hPlain, -⟩ := numbered_cons n t s
    rw [hCons, List.forall_mem_cons]
    exact ⟨hPlain (hs t (by simp)), ih (fun t ht => hs t (by simp [ht])) m⟩

theorem numbered_grouped (n : Nat) (s : Shape) :
    numbered n (grouped s) = grouped (numbered n s) := by
  simp [grouped, numbered, numbered_append]

theorem closed_numbered {test : String → Bool} {s : Shape} (hs : Closed test s) (n : Nat) :
    Closed test (numbered n s) := by
  induction hs generalizing n with
  | nil => exact .nil
  | @cons _ t s hPlain hWord _ ih =>
    obtain ⟨u, m, hCons, hPlain', hWord'⟩ := numbered_cons n t s
    rw [hCons]
    exact .cons (hPlain' hPlain) (by rw [hWord', hWord]) (ih m)
  | group _ _ ihInner ih =>
    rw [numbered_append, numbered_grouped]
    exact .group (ihInner n) (ih _)

theorem closed_numberedEach {test : String → Bool} {parts : List Shape}
    (h : ∀ part ∈ parts, Closed test part) (n : Nat) :
    ∀ part ∈ numberedEach n parts, Closed test part := by
  induction parts generalizing n with
  | nil => simp [numberedEach]
  | cons part rest ih =>
    rw [numberedEach, List.forall_mem_cons]
    exact ⟨closed_numbered (h part (by simp)) n, ih (fun p hp => h p (by simp [hp])) _⟩

theorem numbered_listed (n : Nat) (w : String) (parts : List Shape) :
    numbered n (listed (.word w) parts) = listed (.word w) (numberedEach n parts) := by
  induction parts generalizing n with
  | nil => rfl
  | cons part rest ih =>
    cases rest with
    | nil => simp [listed, numberedEach]
    | cons next rest =>
      rw [listed_cons_cons, numbered_append, numberedEach]
      have hTail := ih (n + (placeholders part).length)
      rw [numberedEach] at hTail ⊢
      rw [listed_cons_cons, ← hTail]
      rfl

/-! ## Conjunctions -/

/-- A word that takes the conditions apart, or starts or ends them. -/
def isStructural (w : String) : Bool := w ∈ "WHERE" :: "AND" :: "OR" :: clauseWords

/-- A clause that can follow the conditions. -/
def EndsConditions {π : Type} (ts : List (Token π)) : Prop :=
  ts = [] ∨ ∃ w rest, w ∈ clauseWords ∧ ts = .word w :: rest

theorem EndsConditions.numbered {s : Shape} (h : EndsConditions s) (n : Nat) :
    EndsConditions (s.numbered n) := by
  rcases h with rfl | ⟨w, rest, hw, rfl⟩
  · exact Or.inl rfl
  · exact Or.inr ⟨w, Shape.numbered n rest, hw, rfl⟩

/-- What stands behind `WHERE`, up to the next clause. -/
theorem whereClause_eq {head body tail : List (Token Nat)} (hHead : Closed (· == "WHERE") head)
    (hWhere : Closed (· == "WHERE") body) (hClause : Closed (fun w => w ∈ clauseWords) body)
    (hTail : EndsConditions tail) :
    whereClause (head ++ .word "WHERE" :: (body ++ tail)) = body := by
  rw [whereClause, partsBetween_word hHead (by simp), partsBetween_closed hWhere (fun _ _ h => h)]
  rcases hTail with rfl | ⟨w, rest, hw, rfl⟩
  · simp only [List.getD_cons_succ, partsBetween, List.modifyHead_cons, List.append_nil,
      List.getD_cons_zero, partsBetween_eq_singleton hClause, List.headD_cons]
  · have hNot : w ≠ "WHERE" := by
      rintro rfl
      exact absurd hw (by decide)
    rw [partsBetween_cons_of_not (by simp [isWord, hNot])]
    cases hParts : partsBetween (· == "WHERE") (depthBehind 0 (.word w : Token Nat)) rest with
    | nil => exact absurd hParts partsBetween_ne_nil
    | cons part others =>
      simp only [List.modifyHead_cons, List.getD_cons_succ, List.getD_cons_zero,
        partsBetween_word hClause (decide_eq_true hw), List.headD_cons]

/-- Conditions with only `AND` between them are taken apart into themselves. -/
theorem conditionOf_listed {head tail : List (Token Nat)} {parts : List (List (Token Nat))}
    (hHead : Closed (· == "WHERE") head) (hNe : parts ≠ [])
    (hAll : ∀ part ∈ parts, Closed isStructural part) (hTail : EndsConditions tail) :
    conditionOf (head ++ .word "WHERE" :: (listed (.word "AND") parts ++ tail)) = [parts] := by
  have hBody : ∀ test : String → Bool, (∀ w, test w → isStructural w) → test "AND" = false →
      Closed test (listed (.word "AND") parts) := fun test hTest hAnd =>
    .listed rfl (by simpa [isWord] using hAnd) fun p hp => (hAll p hp).mono hTest
  have hOne : ∀ v ∈ ["WHERE", "AND", "OR"], ∀ w, w == v → isStructural w := by
    intro v hv w hw
    obtain rfl := eq_of_beq hw
    simp only [List.mem_cons, List.not_mem_nil, or_false] at hv
    rcases hv with rfl | rfl | rfl <;> decide
  have hClause : ∀ w, decide (w ∈ clauseWords) → isStructural w := fun w hw => by
    simp only [isStructural, List.mem_cons, of_decide_eq_true hw, or_true, decide_true]
  rw [conditionOf, whereClause_eq hHead (hBody _ (hOne "WHERE" (by simp)) (by decide))
    (hBody _ hClause (by decide)) hTail,
    partsBetween_eq_singleton (hBody _ (hOne "OR" (by simp)) (by decide)), List.map_singleton,
    partsBetween_listed (by simp) hNe fun p hp => (hAll p hp).mono (hOne "AND" (by simp))]

/-- The conditions of a statement are those of its conjunction, whatever stands around it. -/
theorem conditionOf_conjunction {head tail : Shape} {conditions : List Shape}
    (hHead : Closed isStructural head) (hNe : conditions ≠ [])
    (hAll : ∀ c ∈ conditions, Closed isStructural c) (hTail : EndsConditions tail) (n : Nat) :
    conditionOf (numbered n (head ++ conjunction conditions ++ tail)) =
      [numberedEach (n + (placeholders head).length) conditions] := by
  have hParts := closed_numberedEach hAll (n + (placeholders head).length)
  have hNe' : numberedEach (n + (placeholders head).length) conditions ≠ [] := by
    cases conditions with
    | nil => exact absurd rfl hNe
    | cons c rest => simp [numberedEach]
  have hText : numbered n (head ++ conjunction conditions ++ tail) =
      numbered n head ++ .word "WHERE" ::
        (listed (.word "AND") (numberedEach (n + (placeholders head).length) conditions) ++
          numbered (n + (placeholders (head ++ conjunction conditions)).length) tail) := by
    rw [numbered_append, numbered_append, conjunction, numbered, numbered_listed]
    simp
  have hWhere : Closed (· == "WHERE") (numbered n head) :=
    (closed_numbered hHead n).mono fun w hw => by
      obtain rfl := eq_of_beq hw
      decide
  rw [hText]
  exact conditionOf_listed hWhere hNe' hParts (hTail.numbered _)

/-! ## The parts of a statement are closed -/

variable {test : String → Bool}

theorem closed_words {texts : List String} (h : ∀ w ∈ texts, test w = false) :
    Closed test (words texts) := by
  induction texts with
  | nil => exact .nil
  | cons w texts ih => exact .cons rfl (h w (by simp)) (ih fun v hv => h v (by simp [hv]))

theorem closed_call {function : String} (hFunction : test function = false) {arguments : List Shape}
    (h : ∀ a ∈ arguments, Closed (fun _ => false) a) : Closed test (call function arguments) :=
  .cons rfl hFunction (.grouped (.listed rfl rfl h))

theorem closed_tableName (table : String) : Closed test (tableName table) :=
  .listed rfl rfl fun part hPart => by
    obtain ⟨_, -, rfl⟩ := List.mem_map.1 hPart
    exact .cons rfl rfl .nil

theorem closed_columnOf {row : String} (hRow : test row = false) (column : String) :
    Closed test (columnOf row column) :=
  .cons rfl hRow (.cons rfl rfl (.cons rfl rfl .nil))

/-- The record through which a text becomes a value of a column. -/
theorem closed_record (table : Table) (column s : String) :
    Closed (fun _ => false) (call "jsonb_populate_record"
      [[.word "NULL", .symbol "::"] ++ tableName table.name, call "jsonb_build_object"
        [[.literal column], [.placeholder (.text s), .symbol "::", .word "text"]]] : Shape) := by
  have hType : Closed (fun _ => false)
      ([.word "NULL", .symbol "::"] ++ tableName table.name : Shape) :=
    .cons rfl rfl (.cons rfl rfl (closed_tableName table.name))
  have hObject : Closed (fun _ => false) (call "jsonb_build_object"
      [[.literal column], [.placeholder (.text s), .symbol "::", .word "text"]] : Shape) :=
    closed_call rfl (List.forall_mem_cons.2 ⟨.cons rfl rfl .nil,
      List.forall_mem_singleton.2 (.cons rfl rfl (.cons rfl rfl (.cons rfl rfl .nil)))⟩)
  exact closed_call rfl (List.forall_mem_cons.2 ⟨hType, List.forall_mem_singleton.2 hObject⟩)

theorem closed_columnValue (hNull : test "NULL" = false) (table : Table) (column : String)
    (v : Value) : Closed test (columnValue table column v) := by
  have hField : Closed test ([.symbol ".", .name column] : Shape) :=
    .cons rfl rfl (.cons rfl rfl .nil)
  cases v with
  | text s => exact (Closed.grouped (closed_record table column s)).append hField
  | null => exact .cons rfl hNull .nil
  | _ => exact .cons rfl rfl .nil

theorem closed_comparison (table : Table) (column : String) {symbol : String}
    (hSymbol : (Token.symbol symbol : Token Value).isPlain) (v : Value) :
    Closed isStructural (comparison table column symbol v) :=
  (closed_columnOf (by decide) column).append
    (.cons hSymbol rfl (closed_columnValue (by decide) table column v))

theorem closed_condition (table : Table) (c : Condition) :
    Closed isStructural (condition table c) := by
  obtain ⟨column, test⟩ := c
  have hColumn : Closed isStructural (columnOf rowAlias column) :=
    closed_columnOf (by decide) column
  cases test with
  | isNull => exact hColumn.append (closed_words (by decide))
  | isNotNull => exact hColumn.append (closed_words (by decide))
  | oneOf vs =>
    cases vs with
    | nil => exact .cons rfl (by decide) .nil
    | cons v vs =>
      refine hColumn.append (.cons rfl (by decide) (.grouped (.listed rfl rfl ?_)))
      intro part hPart
      obtain ⟨v, -, rfl⟩ := List.mem_map.1 hPart
      exact closed_columnValue rfl table column v
  | eq v => exact closed_comparison table column (by decide) v
  | ne v => exact closed_comparison table column (by decide) v
  | lt v => exact closed_comparison table column (by decide) v
  | le v => exact closed_comparison table column (by decide) v
  | gt v => exact closed_comparison table column (by decide) v
  | ge v => exact closed_comparison table column (by decide) v

theorem closed_tenantTest {row : String} (hRow : isStructural row = false) (table : Table)
    (tenant : TenantId) : Closed isStructural (tenantTest row table tenant) :=
  (closed_columnOf hRow table.tenantColumn).append (.cons rfl rfl (.cons rfl rfl .nil))

theorem closed_named {row : String} (hRow : test row = false) (hAs : test "AS" = false)
    (table : String) : Closed test (named table row) :=
  (closed_tableName table).append (closed_words (by simp [hAs, hRow]))

theorem closed_document (row : String)
    (hWords : ∀ w ∈ ["to_jsonb", "AS", documentColumn], test w = false) :
    Closed test (document row) :=
  (closed_call (hWords _ (by simp)) (List.forall_mem_singleton.2 (.cons rfl rfl .nil))).append
    (closed_words fun w hw => hWords w (List.mem_cons_of_mem _ hw))

theorem closed_assignments (table : Table) (all : List Assignment) :
    ∀ a ∈ assignments table all, Closed isStructural a := by
  intro part hPart
  rw [assignments] at hPart
  split at hPart
  · obtain rfl := List.mem_singleton.1 hPart
    exact .cons rfl rfl (.cons rfl rfl (closed_columnOf (by decide) table.idColumn))
  · obtain ⟨a, -, rfl⟩ := List.mem_map.1 hPart
    exact .cons rfl rfl (.cons rfl rfl (closed_columnValue (by decide) table a.name a.value))

theorem closed_claimTests (table : Table) (c : Claim) :
    ∀ part ∈ claimTests table c, Closed isStructural part := by
  have hColumn : ∀ column, Closed isStructural (columnOf rowAlias column) :=
    closed_columnOf (by decide)
  -- the `OR` of a due time stands in parentheses
  have hDue : ∀ column, Closed isStructural (due c.now column) := fun column =>
    .grouped ((((closed_columnOf rfl column).append (closed_words (by simp))).append
      (closed_columnOf rfl column)).append (.cons rfl rfl (.cons rfl rfl .nil)))
  simp only [claimTests, List.forall_mem_append, List.forall_mem_cons, List.forall_mem_map]
  exact ⟨⟨closed_comparison table c.status (by decide) c.pending, hDue _,
    fun column _ => hDue column⟩,
    fun column _ => (hColumn column).append (closed_words (by decide))⟩

theorem closed_conjunction (hWhere : test "WHERE" = false) (hAnd : test "AND" = false)
    {conditions : List Shape} (h : ∀ c ∈ conditions, Closed test c) :
    Closed test (conjunction conditions) :=
  .cons rfl hWhere (.listed rfl (show isWord test (.word "AND") = false from hAnd) h)

/-- A test for some of the structural words. -/
theorem eq_false_of_structural (hTest : ∀ w, test w → isStructural w) {w : String}
    (hw : isStructural w = false) : test w = false :=
  Bool.eq_false_iff.2 fun h => by simp [hTest w h] at hw

/-- The candidates of a claim, oldest first, before their number is limited. -/
def oldest (table : Table) (tenant : TenantId) (c : Claim) : Shape :=
  .word "SELECT" :: columnOf rowAlias table.idColumn ++ .word "FROM" :: named table.name rowAlias ++
    conjunction (tenantTest rowAlias table tenant :: claimTests table c) ++
    words ["ORDER", "BY"] ++
    listed (.symbol ",") [columnOf rowAlias c.createdAt ++ words ["ASC"],
      columnOf rowAlias table.idColumn ++ words ["ASC"]]

theorem closed_oldest (hTest : ∀ w, test w → isStructural w)
    (hWords : ∀ w ∈ ["WHERE", "AND", "ORDER"], test w = false) (table : Table) (tenant : TenantId)
    (c : Claim) : Closed test (oldest table tenant c) := by
  have hOther (w : String) : isStructural w = false → test w = false :=
    eq_false_of_structural hTest
  have hColumn : ∀ column, Closed test (columnOf rowAlias column) :=
    closed_columnOf (hOther _ (by decide))
  have hAscending : Closed test (words ["ASC"]) :=
    closed_words (List.forall_mem_singleton.2 (hOther _ (by decide)))
  have hSelect : Closed test (.word "SELECT" :: columnOf rowAlias table.idColumn) :=
    .cons rfl (hOther "SELECT" (by decide)) (hColumn _)
  have hFrom : Closed test (.word "FROM" :: named table.name rowAlias) :=
    .cons rfl (hOther "FROM" (by decide))
      (closed_named (hOther _ (by decide)) (hOther _ (by decide)) _)
  have hTests : Closed test
      (conjunction (tenantTest rowAlias table tenant :: claimTests table c)) :=
    closed_conjunction (hWords _ (by simp)) (hWords _ (by simp)) (List.forall_mem_cons.2
      ⟨(closed_tenantTest (by decide) table tenant).mono hTest,
        fun part hPart => (closed_claimTests table c part hPart).mono hTest⟩)
  have hBy : Closed test (words ["ORDER", "BY"]) := closed_words (List.forall_mem_cons.2
    ⟨hWords _ (by simp), List.forall_mem_singleton.2 (hOther _ (by decide))⟩)
  have hOrder : Closed test (listed (.symbol ",")
      [columnOf rowAlias c.createdAt ++ words ["ASC"],
        columnOf rowAlias table.idColumn ++ words ["ASC"]]) :=
    .listed rfl rfl (List.forall_mem_cons.2 ⟨(hColumn _).append hAscending,
      List.forall_mem_singleton.2 ((hColumn _).append hAscending)⟩)
  exact (((hSelect.append hFrom).append hTests).append hBy).append hOrder

theorem candidates_eq (table : Table) (tenant : TenantId) (c : Claim) :
    candidates table tenant c =
      oldest table tenant c ++ range "LIMIT" c.limit ++ words ["FOR", "UPDATE", "SKIP", "LOCKED"] :=
  rfl

/-- The query for the candidates of a claim may stand in parentheses. -/
theorem closed_candidates (table : Table) (tenant : TenantId) (c : Claim) :
    Closed (fun _ => false) (candidates table tenant c) :=
  ((closed_oldest (by simp) (by simp) table tenant c).append
    (.cons rfl rfl (.cons rfl rfl .nil))).append (closed_words (by simp))

/-! ## Confined queries -/

/-- A query whose conditions are the tenant and some tests. -/
def IsConfined (table : Table) (tenant : TenantId) (tests : List Shape) (query : Shape) : Prop :=
  ∃ head tail : Shape, Closed isStructural head ∧ EndsConditions tail ∧
    query = head ++ conjunction (tenantTest rowAlias table tenant :: tests) ++ tail

variable {table : Table} {tenant : TenantId}

theorem isConfined_select (s : Selection) :
    IsConfined table tenant (s.conditions.map (condition table)) (select table tenant s) := by
  refine ⟨.word "SELECT" :: document rowAlias ++ .word "FROM" :: named table.name rowAlias,
    orderBy s.order ++ range "LIMIT" s.limit ++ range "OFFSET" s.offset, ?_, ?_, ?_⟩
  · exact (Closed.cons rfl (by decide) (closed_document rowAlias (by decide))).append
      (.cons rfl (by decide) (closed_named (by decide) (by decide) table.name))
  · obtain ⟨conditions, order, limit, offset⟩ := s
    cases order with
    | cons key keys => exact Or.inr ⟨"ORDER", _, by decide, rfl⟩
    | nil =>
      cases limit with
      | some n => exact Or.inr ⟨"LIMIT", _, by decide, rfl⟩
      | none =>
        cases offset with
        | some n => exact Or.inr ⟨"OFFSET", _, by decide, rfl⟩
        | none => exact Or.inl rfl
  · simp [select]

theorem isConfined_count (conditions : List Condition) :
    IsConfined table tenant (conditions.map (condition table))
      (count table tenant conditions) := by
  refine ⟨.word "SELECT" :: call "COUNT" [[.symbol "*"]] ++
    .word "FROM" :: named table.name rowAlias, [], ?_, Or.inl rfl, by simp [count]⟩
  exact (Closed.cons rfl (by decide) (closed_call (by decide)
    (List.forall_mem_singleton.2 (.cons rfl rfl .nil)))).append
    (.cons rfl (by decide) (closed_named (by decide) (by decide) table.name))

theorem isConfined_update (conditions : List Condition) (all : List Assignment) :
    IsConfined table tenant (conditions.map (condition table))
      (update table tenant conditions all) := by
  refine ⟨.word "UPDATE" :: named table.name rowAlias ++
    .word "SET" :: listed (.symbol ",") (assignments table all), returning rowAlias, ?_,
    Or.inr ⟨"RETURNING", _, by decide, rfl⟩, by simp [update]⟩
  exact (Closed.cons rfl (by decide) (closed_named (by decide) (by decide) table.name)).append
    (.cons rfl (by decide) (.listed rfl rfl (closed_assignments table all)))

theorem isConfined_delete (conditions : List Condition) :
    IsConfined table tenant (conditions.map (condition table))
      (delete table tenant conditions) := by
  refine ⟨words ["DELETE", "FROM"] ++ named table.name rowAlias, [], ?_, Or.inl rfl,
    by simp [delete]⟩
  exact (closed_words (by decide)).append (closed_named (by decide) (by decide) table.name)

theorem isConfined_candidates (c : Claim) :
    IsConfined table tenant (claimTests table c) (candidates table tenant c) := by
  refine ⟨.word "SELECT" :: columnOf rowAlias table.idColumn ++
    .word "FROM" :: named table.name rowAlias,
    words ["ORDER", "BY"] ++ listed (.symbol ",") [columnOf rowAlias c.createdAt ++ words ["ASC"],
      columnOf rowAlias table.idColumn ++ words ["ASC"]] ++ range "LIMIT" c.limit ++
      words ["FOR", "UPDATE", "SKIP", "LOCKED"], ?_, Or.inr ⟨"ORDER", _, by decide, rfl⟩,
    by simp [candidates]⟩
  exact (Closed.cons rfl (by decide) (closed_columnOf (by decide) table.idColumn)).append
    (.cons rfl (by decide) (closed_named (by decide) (by decide) table.name))

/-- A confined query binds its tenant where its conditions begin. -/
theorem IsConfined.conditionOf_eq {tests : List Shape} {query : Shape}
    (h : IsConfined table tenant tests query) (hTests : ∀ part ∈ tests, Closed isStructural part) :
    ∃ leading following, placeholders query = leading ++ .ofTenant tenant :: following ∧
      conditionOf (numbered 1 query) =
        [[.word rowAlias, .symbol ".", .name table.tenantColumn, .symbol "=",
            .placeholder (leading.length + 1)] :: numberedEach (leading.length + 2) tests] := by
  obtain ⟨head, tail, hHead, hTail, rfl⟩ := h
  have hAll : ∀ part ∈ tenantTest rowAlias table tenant :: tests, Closed isStructural part :=
    List.forall_mem_cons.2 ⟨closed_tenantTest (by decide) table tenant, hTests⟩
  refine ⟨placeholders head, placeholders (tests.flatMap (.word "AND" :: ·) ++ tail), ?_, ?_⟩
  · simp only [placeholders_append, List.append_assoc]
    rfl
  · rw [conditionOf_conjunction hHead (List.cons_ne_nil _ _) hAll hTail, Nat.add_comm 1]
    rfl

end Shape

end Tenancy.Sql
