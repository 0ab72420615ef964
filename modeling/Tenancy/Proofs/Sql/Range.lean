import Tenancy.Proofs.Backend.Claim
import Tenancy.Proofs.Sql.Requests
import Tenancy.Sql.Fault

/-!
# Limits and offsets on a server

A limit and an offset are natural numbers below `2 ^ 64`. The tables in memory skip and take as many
rows as they say. A server is sent the signed integer with the same bits (`signed`), which is the
number itself up to `2 ^ 63` and negative from there on. A server skips and takes as many rows, too,
but it refuses negative numbers (`CutsRanges`), where in memory a limit means all rows and an offset
none (`ranges_on_server`).
-/

namespace Tenancy

/-! ## Numbers and their integers -/

/-- The signed 64-bit integer with the bits of a natural number. -/
def signed (n : Nat) : Int := if n < 2 ^ 63 then n else n - 2 ^ 64

theorem toInt_ofNat {n : Nat} (h : n < 2 ^ 64) : (Int64.ofNat n).toInt = signed n := by
  rw [Int64.toInt_ofNat', Int.bmod, Int64.size, signed]
  split <;> split <;> omega

theorem signed_of_lt {n : Nat} (h : n < 2 ^ 63) : signed n = Int.ofNat n := if_pos h

theorem signed_nonneg_iff {n : Nat} (h : n < 2 ^ 64) : 0 ≤ signed n ↔ n < 2 ^ 63 := by
  unfold signed
  split <;> omega

/-- A limit or an offset, if there is one, is sent as the number that it is. -/
def FitsSigned (range : Option Nat) : Prop := ∀ n ∈ range, n < 2 ^ 63

theorem map_signed {range : Option Nat} (h : FitsSigned range) :
    range.map signed = range.map Int.ofNat := by
  cases range with
  | none => rfl
  | some n => exact congrArg some (signed_of_lt (h n rfl))

theorem fitsSigned_iff {range : Option Nat} (h : ∀ n ∈ range, n < 2 ^ 64) :
    FitsSigned range ↔ ∀ k ∈ range.map signed, 0 ≤ k := by
  cases range with
  | none => simp [FitsSigned]
  | some n => simp [FitsSigned, signed_nonneg_iff (h n rfl)]

/-- A number that does not fit is sent as a negative one. -/
theorem exists_signed_neg {range : Option Nat} (h : ∀ n ∈ range, n < 2 ^ 64)
    (hLarge : ¬FitsSigned range) : ∃ k < 0, range.map signed = some k := by
  rw [fitsSigned_iff h] at hLarge
  push Not at hLarge
  obtain ⟨k, hk, hNegative⟩ := hLarge
  exact ⟨k, hNegative, hk⟩

namespace Sql

/-! ## Integers behind words -/

namespace Token

variable {π : Type}

/-- What stands for the placeholder behind a word outside parentheses. -/
def behind (word : String) (ts : List (Token π)) : Option π :=
  ((partsBetween (· == word) 0 ts).getD 1 []).head?.bind placeholder?

theorem behind_word {w : String} {ts : List (Token π)} (hts : Closed (· == w) ts) (p : π)
    (us : List (Token π)) : behind w (ts ++ .word w :: .placeholder p :: us) = some p := by
  rw [behind, partsBetween_word hts (by simp), partsBetween_cons_of_not (by simp [isWord])]
  cases hParts : partsBetween (· == w) (depthBehind 0 (.placeholder p : Token π)) us with
  | nil => exact absurd hParts partsBetween_ne_nil
  | cons part others => rfl

theorem behind_of_closed {w : String} {ts : List (Token π)} (hts : Closed (· == w) ts) :
    behind w ts = none := by
  rw [behind, partsBetween_eq_singleton hts]
  rfl

end Token

open Token

/-- The integer that a statement binds to a placeholder. -/
def Statement.integerAt (s : Statement) (k : Nat) : Option Int :=
  match s.binds[k - 1]? with
  | some (.int i) => some i.toInt
  | _ => none

namespace Request

variable {table : Table} {tenant : TenantId} {r : Request} {w : String}

/-- The integer that a request binds behind a word of its confined query. -/
def integerBehind (r : Request) (w : String) (table : Table) (tenant : TenantId) : Option Int := do
  let tokens ← lex (r.statement table tenant).text
  let query ← r.confined? tokens
  (r.statement table tenant).integerAt (← behind w query)

/-- A query that is a place among the tokens of a request. -/
structure Holds (table : Table) (tenant : TenantId) (r : Request) (query : Shape) : Prop where
  confined : r.confined? ((r.shape table tenant).numbered 1) = some (query.numbered 1)
  values : ∃ rest, placeholders (r.shape table tenant) = placeholders query ++ rest

theorem holds_select (s : Selection) :
    Holds table tenant (.select s) (Shape.select table tenant s) :=
  ⟨rfl, [], (List.append_nil _).symm⟩

theorem holds_claim (c : Claim) :
    Holds table tenant (.claim c) (Shape.candidates table tenant c) := by
  obtain ⟨before, rest, hBefore, hShape, hGroup⟩ := exists_claim table tenant c
  refine ⟨congrArg some hGroup, placeholders rest, ?_⟩
  simp [shape, hShape, hBefore]

theorem integerBehind_eq (r : Request) (w : String) (table : Table) (tenant : TenantId) :
    r.integerBehind w table tenant = (r.confined? ((r.shape table tenant).numbered 1)).bind
      fun query => (behind w query).bind (r.statement table tenant).integerAt := by
  have hLex : lex (r.statement table tenant).text = _ := (r.spells table tenant).lex_eq 1
  rw [integerBehind, hLex]
  rfl

theorem integerBehind_of_closed {query : Shape} (h : Holds table tenant r query)
    (hClosed : Closed (· == w) query) : r.integerBehind w table tenant = none := by
  rw [integerBehind_eq, h.confined, Option.bind_some,
    behind_of_closed (Shape.closed_numbered hClosed 1)]
  rfl

/-- The first word in question is the one of the range. -/
theorem integerBehind_range {before after : Shape} {range : Option Nat}
    (h : Holds table tenant r (before ++ Shape.range w range ++ after))
    (hBefore : Closed (· == w) before) (hAfter : Closed (· == w) after)
    (hRange : ∀ n ∈ range, n < 2 ^ 64) :
    r.integerBehind w table tenant = range.map signed := by
  cases range with
  | none => exact integerBehind_of_closed h ((hBefore.append .nil).append hAfter)
  | some n =>
    obtain ⟨rest, hValues⟩ := h.values
    have hBehind : behind w ((before ++ Shape.range w (some n) ++ after).numbered 1) =
        some (1 + (placeholders before).length) := by
      rw [Shape.numbered_append, Shape.numbered_append, List.append_assoc]
      exact behind_word (Shape.closed_numbered hBefore 1) _ _
    have hBinds : (r.statement table tenant).binds[(placeholders before).length]? =
        some (.ofNat n) := by
      have hSplit : placeholders (before ++ Shape.range w (some n) ++ after) ++ rest =
          placeholders before ++ .ofNat n :: (placeholders after ++ rest) := by
        simp only [placeholders_append, List.append_assoc]
        rfl
      rw [Statement.binds_eq, (r.spells table tenant).values_eq, hValues, hSplit, List.map_append,
        List.getElem?_append_right (by simp), List.length_map, Nat.sub_self]
      rfl
    rw [integerBehind_eq, h.confined, Option.bind_some, hBehind, Option.bind_some,
      Statement.integerAt, Nat.add_sub_cancel_left, hBinds]
    exact congrArg some (toInt_ofNat (hRange n rfl))

end Request

namespace Shape

variable {test : String → Bool}

theorem closed_range {w : String} (h : test w = false) (n : Option Nat) :
    Closed test (range w n) := by
  cases n with
  | none => exact .nil
  | some n => exact .cons rfl h (.cons rfl rfl .nil)

theorem closed_orderBy (hOrder : test "ORDER" = false)
    (hWords : ∀ w ∈ ["BY", "ASC", "DESC", rowAlias], test w = false) (keys : List SortKey) :
    Closed test (orderBy keys) := by
  unfold orderBy
  split
  · exact .nil
  · have hBy : Closed test (words ["ORDER", "BY"]) := closed_words
      (List.forall_mem_cons.2 ⟨hOrder, List.forall_mem_singleton.2 (hWords _ (by simp))⟩)
    refine hBy.append (.listed rfl rfl (List.forall_mem_map.2 fun key _ => ?_))
    refine (closed_columnOf (hWords _ (by simp)) key.name).append (.cons rfl ?_ .nil)
    cases key.direction <;> exact hWords _ (by simp [directionText])

/-- The rows of a selection in their order, before they are cut to a range. -/
def sorted (table : Table) (tenant : TenantId) (s : Selection) : Shape :=
  .word "SELECT" :: document rowAlias ++ .word "FROM" :: named table.name rowAlias ++
    conjunction (tenantTest rowAlias table tenant :: s.conditions.map (condition table)) ++
    orderBy s.order

theorem select_eq (table : Table) (tenant : TenantId) (s : Selection) :
    select table tenant s =
      sorted table tenant s ++ range "LIMIT" s.limit ++ range "OFFSET" s.offset :=
  rfl

theorem closed_sorted (hTest : ∀ w, test w → isStructural w)
    (hWords : ∀ w ∈ ["WHERE", "AND", "ORDER"], test w = false) (table : Table) (tenant : TenantId)
    (s : Selection) : Closed test (sorted table tenant s) := by
  have hOther (w : String) : isStructural w = false → test w = false :=
    eq_false_of_structural hTest
  have hSelect : Closed test (.word "SELECT" :: document rowAlias) :=
    .cons rfl (hOther "SELECT" (by decide)) (closed_document _ fun w hw => hOther w ?_)
  have hFrom : Closed test (.word "FROM" :: named table.name rowAlias) :=
    .cons rfl (hOther "FROM" (by decide))
      (closed_named (hOther _ (by decide)) (hOther _ (by decide)) _)
  have hTests : Closed test (conjunction
      (tenantTest rowAlias table tenant :: s.conditions.map (condition table))) :=
    closed_conjunction (hWords _ (by simp)) (hWords _ (by simp)) (List.forall_mem_cons.2
      ⟨(closed_tenantTest (by decide) table tenant).mono hTest,
        List.forall_mem_map.2 fun c _ => (closed_condition table c).mono hTest⟩)
  have hOrder : Closed test (orderBy s.order) :=
    closed_orderBy (hWords _ (by simp)) (fun w hw => hOther w ?_) s.order
  · exact ((hSelect.append hFrom).append hTests).append hOrder
  · revert w
    decide
  · revert w
    decide

end Shape

/-- The words of ranges take no conditions apart. -/
theorem Shape.range_words {w : String} (hw : w ∈ ["LIMIT", "OFFSET"]) :
    (∀ v, v == w → isStructural v) ∧ ∀ v ∈ ["WHERE", "AND", "ORDER"], (v == w) = false := by
  constructor
  · intro v hv
    obtain rfl := eq_of_beq hv
    revert v
    decide
  · revert w
    decide

namespace Request

variable {table : Table} {tenant : TenantId}

theorem integerBehind_select {s : Selection} (hLimit : ∀ n ∈ s.limit, n < 2 ^ 64)
    (hOffset : ∀ n ∈ s.offset, n < 2 ^ 64) :
    (select s).integerBehind "LIMIT" table tenant = s.limit.map signed ∧
      (select s).integerBehind "OFFSET" table tenant = s.offset.map signed := by
  have hQuery : Holds table tenant (select s) _ := holds_select s
  have hSorted : ∀ w ∈ ["LIMIT", "OFFSET"], Closed (· == w) (Shape.sorted table tenant s) :=
    fun w hw => Shape.closed_sorted (Shape.range_words hw).1 (Shape.range_words hw).2 table tenant s
  rw [Shape.select_eq] at hQuery
  constructor
  · exact integerBehind_range hQuery (hSorted _ (by simp)) (Shape.closed_range rfl _) hLimit
  · rw [← List.append_nil (_ ++ Shape.range "OFFSET" s.offset)] at hQuery
    exact integerBehind_range hQuery ((hSorted _ (by simp)).append (Shape.closed_range rfl _)) .nil
      hOffset

theorem integerBehind_claim {c : Claim} (hLimit : c.limit < 2 ^ 64) :
    (claim c).integerBehind "LIMIT" table tenant = some (signed c.limit) ∧
      (claim c).integerBehind "OFFSET" table tenant = none := by
  have hQuery : Holds table tenant (claim c) _ := holds_claim c
  have hOldest : ∀ w ∈ ["LIMIT", "OFFSET"], Closed (· == w) (Shape.oldest table tenant c) :=
    fun w hw => Shape.closed_oldest (Shape.range_words hw).1 (Shape.range_words hw).2 table tenant c
  rw [Shape.candidates_eq] at hQuery
  constructor
  · exact integerBehind_range hQuery (hOldest _ (by simp)) (Shape.closed_words (by decide))
      (by simpa using hLimit)
  · exact integerBehind_of_closed hQuery (((hOldest _ (by simp)).append
      (Shape.closed_range rfl _)).append (Shape.closed_words (by decide)))

end Request

/-- The limit of a query of the caller is what the query ends with, and the last value. -/
theorem ScopedSelect.statement_of_limit {q : ScopedSelect} {n : Nat} (hLimit : q.limit = some n)
    (hSmall : n < 2 ^ 64) :
    (∃ before, q.statement.text = before ++ " LIMIT $" ++ toString q.statement.binds.length) ∧
      q.statement.integerAt q.statement.binds.length = some (signed n) := by
  obtain ⟨before, hStatement⟩ : ∃ before, q.statement = before ++ .text " LIMIT " :: rangeValue n :=
    ⟨_, by rw [statement, hLimit]⟩
  have hBinds : q.statement.binds = before.binds ++ [.ofNat n] := by
    rw [hStatement, Statement.binds, List.filterMap_append]
    rfl
  have hLength : q.statement.binds.length = 1 + before.values.length := by
    rw [hBinds, List.length_append, Statement.binds_eq, List.length_map, Nat.add_comm]
    rfl
  refine ⟨⟨before.textFrom 1, ?_⟩, ?_⟩
  · have hKeyword : " LIMIT $" = " LIMIT " ++ "$" := rfl
    rw [hLength, hStatement, Statement.text, Statement.textFrom_append, hKeyword]
    simp only [Statement.textFrom, rangeValue, String.append_empty, String.append_assoc]
  · rw [Statement.integerAt, hBinds, List.length_append, List.length_singleton, Nat.add_sub_cancel,
      List.getElem?_append_right (Nat.le_refl _), Nat.sub_self]
    exact congrArg some (toInt_ofNat hSmall)

/-! ## Rows in a range -/

/-- A server refuses a range. -/
def RefusesRange {α : Type} (answer : Except Fault (List α)) : Prop :=
  ∃ code message, code ∈ ["2201W", "2201X"] ∧ answer = .error (Fault.server (some code) message)

/-- How a server cuts rows to the numbers of a limit and of an offset: it skips as many rows as the
offset says, then takes as many as the limit says, and refuses negative numbers. -/
structure CutsRanges
    (cut : (α : Type) → Option Int → Option Int → List α → Except Fault (List α)) : Prop where
  natural : ∀ (α : Type) (limit offset : Option Nat) (rows : List α),
    cut α (limit.map Int.ofNat) (offset.map Int.ofNat) rows =
      .ok ((rows.drop (offset.getD 0)).take (limit.getD rows.length))
  negativeLimit : ∀ (α : Type) (limit : Int) (offset : Option Int) (rows : List α), limit < 0 →
    RefusesRange (cut α (some limit) offset rows)
  negativeOffset : ∀ (α : Type) (limit : Option Int) (offset : Int) (rows : List α), offset < 0 →
    RefusesRange (cut α limit (some offset) rows)

/-- What is sent for a limit and an offset, and what a server makes of it: the rows that are
expected, unless one of the numbers is sent as a negative one. -/
structure SendsRange (cut : (α : Type) → Option Int → Option Int → List α → Except Fault (List α))
    {α : Type} (limit offset : Option Nat) (sentLimit sentOffset : Option Int)
    (rows expected : List α) : Prop where
  sentLimit_eq : sentLimit = limit.map signed
  sentOffset_eq : sentOffset = offset.map signed
  nonneg_iff : (∀ k ∈ sentLimit, 0 ≤ k) ∧ (∀ k ∈ sentOffset, 0 ≤ k) ↔
    FitsSigned limit ∧ FitsSigned offset
  agrees : FitsSigned limit ∧ FitsSigned offset → cut α sentLimit sentOffset rows = .ok expected
  refuses : ¬(FitsSigned limit ∧ FitsSigned offset) → RefusesRange (cut α sentLimit sentOffset rows)

variable {cut : (α : Type) → Option Int → Option Int → List α → Except Fault (List α)}

theorem CutsRanges.sends {α : Type} (hCut : CutsRanges cut) {limit offset : Option Nat}
    (hLimit : ∀ n ∈ limit, n < 2 ^ 64) (hOffset : ∀ n ∈ offset, n < 2 ^ 64) (rows : List α) :
    SendsRange cut limit offset (limit.map signed) (offset.map signed) rows
      ((rows.drop (offset.getD 0)).take (limit.getD rows.length)) where
  sentLimit_eq := rfl
  sentOffset_eq := rfl
  nonneg_iff := by rw [fitsSigned_iff hLimit, fitsSigned_iff hOffset]
  agrees hFits := by
    rw [map_signed hFits.1, map_signed hFits.2]
    exact hCut.natural α limit offset rows
  refuses hNot := by
    rcases not_and_or.mp hNot with hLarge | hLarge
    · obtain ⟨k, hNegative, hSent⟩ := exists_signed_neg hLimit hLarge
      rw [hSent]
      exact hCut.negativeLimit α k _ rows hNegative
    · obtain ⟨k, hNegative, hSent⟩ := exists_signed_neg hOffset hLarge
      rw [hSent]
      exact hCut.negativeOffset α _ k rows hNegative

theorem page_eq_take (limit offset : Option Nat) (rows : List Row) :
    Memory.page limit offset rows = (rows.drop (offset.getD 0)).take (limit.getD rows.length) := by
  have hShort : (rows.drop (offset.getD 0)).length ≤ rows.length := by simp
  cases limit with
  | some n => rfl
  | none => exact (List.take_of_length_le hShort).symm

/-- **Limits and offsets on a server.** Under limits and offsets below `2 ^ 64`,
1. a selection sends each of them as the signed integer with the same bits. If both are below
`2 ^ 63`, a server cuts the rows to those that the tables in memory answer with; otherwise it refuses
the selection;
2. a claim sends its limit in the same way. Below `2 ^ 63` a server cuts the candidates to the places
that the tables in memory take; otherwise it refuses the claim;
3. and so does a query of the caller, as the last value of the query, behind the word it ends with.
4. In memory, a limit that is refused means all rows and such an offset none of them. -/
theorem ranges_on_server (hCut : CutsRanges cut) (table : Table) (tenant : TenantId) :
    (∀ (s : Selection) (m : Memory), (∀ n ∈ s.limit, n < 2 ^ 64) → (∀ n ∈ s.offset, n < 2 ^ 64) →
      SendsRange cut s.limit s.offset ((Request.select s).integerBehind "LIMIT" table tenant)
        ((Request.select s).integerBehind "OFFSET" table tenant)
        (m.select table tenant { s with limit := none, offset := none })
        (m.select table tenant s)) ∧
    (∀ (c : Claim) (m : Memory), c.limit < 2 ^ 64 →
      SendsRange cut (some c.limit) none ((Request.claim c).integerBehind "LIMIT" table tenant)
        ((Request.claim c).integerBehind "OFFSET" table tenant)
        (Memory.oldestFirst table tenant c (m.rows table.name))
        (Memory.claimedPlaces table tenant c (m.rows table.name))) ∧
    (∀ (q : ScopedSelect) (n : Nat), q.limit = some n → n < 2 ^ 64 →
      (∃ before, q.statement.text = before ++ " LIMIT $" ++ toString q.statement.binds.length) ∧
      ∀ rows : List Row, SendsRange cut (some n) none
        (q.statement.integerAt q.statement.binds.length) none rows (rows.take n)) ∧
    (∀ (n : Nat) (rows : List Row), rows.length < 2 ^ 63 → 2 ^ 63 ≤ n →
      (∀ offset, Memory.page (some n) offset rows = Memory.page none offset rows) ∧
      ∀ limit, Memory.page limit (some n) rows = []) := by
  refine ⟨fun s m hLimit hOffset => ?_, fun c m hLimit => ?_, fun q n hLimit hSmall => ?_,
    fun n rows hRows hLarge => ⟨fun offset => ?_, fun limit => ?_⟩⟩
  · obtain ⟨hSentLimit, hSentOffset⟩ := Request.integerBehind_select hLimit hOffset
    have hSends := hCut.sends hLimit hOffset
      (m.select table tenant { s with limit := none, offset := none })
    rw [← page_eq_take] at hSends
    rw [hSentLimit, hSentOffset]
    exact hSends
  · obtain ⟨hSentLimit, hSentOffset⟩ := Request.integerBehind_claim hLimit
    rw [hSentLimit, hSentOffset]
    exact hCut.sends (by simpa using hLimit) (by simp) _
  · obtain ⟨hText, hSent⟩ := ScopedSelect.statement_of_limit hLimit hSmall
    rw [hSent]
    exact ⟨hText, hCut.sends (by simpa using hSmall) (by simp)⟩
  · have hShort : (rows.drop (offset.getD 0)).length ≤ rows.length := by simp
    exact List.take_of_length_le (by omega)
  · rw [page_eq_take, Option.getD_some, List.drop_of_length_le (by omega), List.take_nil]

/-! ## Jobs in a range -/

/-- A server that looks at the offset first. -/
def cutRange (α : Type) (limit offset : Option Int) (rows : List α) : Except Fault (List α) :=
  if offset.any (· < 0) then .error (.server (some "2201X") "OFFSET must not be negative")
  else if limit.any (· < 0) then .error (.server (some "2201W") "LIMIT must not be negative")
  else .ok ((rows.drop (offset.getD 0).toNat).take (limit.getD rows.length).toNat)

theorem cutsRanges_cutRange : CutsRanges cutRange where
  natural α limit offset rows := by
    have hNatural (n : Nat) : ¬(n : Int) < 0 := by omega
    cases limit <;> cases offset <;> simp [cutRange, hNatural]
  negativeLimit α limit offset rows h := by
    unfold cutRange
    split
    · exact ⟨_, _, by simp, rfl⟩
    · rw [if_pos (by simpa using h)]
      exact ⟨_, _, by simp, rfl⟩
  negativeOffset α limit offset rows h := by
    rw [cutRange, if_pos (by simpa using h)]
    exact ⟨_, _, by simp, rfl⟩

end Sql

namespace Jobs

open Sql

def twoJobs : Memory := ⟨[("jobs", [waiting "a", waiting "b"])], 1⟩

/-- All jobs of the tenant, in SQL. -/
def inSql : ScopedSelect :=
  ⟨"jobs", "j", "tenant_id", tenant, none, [], [], [], [], [], none⟩

/-- A server answers with the second job under a limit and an offset of one, and refuses a claim of as
many jobs as there can be; a query of the caller ends with its limit. -/
theorem jobs_in_range :
    let table := store.table
    let second : Selection := ⟨[], [], some 1, some 1⟩
    let every : Claim := { claim with limit := 2 ^ 64 - 1 }
    let query := inSql.limitingTo 5
    cutRange Row ((Request.select second).integerBehind "LIMIT" table tenant)
        ((Request.select second).integerBehind "OFFSET" table tenant)
        (twoJobs.select table tenant ⟨[], [], none, none⟩) = .ok [waiting "b"] ∧
      RefusesRange (cutRange Nat ((Request.claim every).integerBehind "LIMIT" table tenant)
        ((Request.claim every).integerBehind "OFFSET" table tenant)
        (Memory.oldestFirst table tenant every (twoJobs.rows table.name))) ∧
      query.statement.integerAt query.statement.binds.length = some 5 ∧
      Memory.page (some (2 ^ 64 - 1)) none [waiting "a"] = [waiting "a"] := by
  intro table second every query
  obtain ⟨hSelections, hClaims, hQueries, hHuge⟩ :=
    ranges_on_server cutsRanges_cutRange table tenant
  have hFits : FitsSigned second.limit ∧ FitsSigned second.offset := by
    simp [FitsSigned, second]
  have hLarge : ¬(FitsSigned (some every.limit) ∧ FitsSigned none) := fun h =>
    absurd (h.1 every.limit rfl) (by decide)
  have hQuery := (hQueries query 5 rfl (by decide)).2 []
  refine ⟨?_, (hClaims every twoJobs (by decide)).refuses hLarge, hQuery.sentLimit_eq, ?_⟩
  · exact (hSelections second twoJobs (by simp [second]) (by simp [second])).agrees hFits
  · exact (hHuge (2 ^ 64 - 1) [waiting "a"] (by simp) (by decide)).1 none

/-- A limit of `2 ^ 64 - 1` is sent as `-1` and refused by a server, whether it is one of a selection,
of a claim or of a query of the caller, and an offset of `2 ^ 63` is sent as `-2 ^ 63`. In memory such
a limit means all jobs. -/
theorem huge_ranges_refused :
    let all : Selection := ⟨[], [], some (2 ^ 64 - 1), none⟩
    let beyond : Selection := ⟨[], [], none, some (2 ^ 63)⟩
    let every : Claim := { claim with limit := 2 ^ 64 - 1 }
    let query := inSql.limitingTo (2 ^ 64 - 1)
    ((Request.select all).integerBehind "LIMIT" store.table tenant = some (-1) ∧
      (Request.select beyond).integerBehind "OFFSET" store.table tenant = some (-2 ^ 63) ∧
      (Request.claim every).integerBehind "LIMIT" store.table tenant = some (-1) ∧
      query.statement.integerAt query.statement.binds.length = some (-1)) ∧
    (∀ rows : List Row, cutRange Row (some (-1)) none rows ≠ .ok rows) ∧
    twoJobs.select store.table tenant all = [waiting "a", waiting "b"] := by
  intro all beyond every query
  refine ⟨⟨?_, ?_, ?_, ?_⟩, fun rows => ?_, rfl⟩
  · exact (Request.integerBehind_select (s := all) (by simp [all]) (by simp [all])).1
  · exact (Request.integerBehind_select (s := beyond) (by simp [beyond]) (by simp [beyond])).2
  · exact (Request.integerBehind_claim (c := every) (by decide)).1
  · exact (ScopedSelect.statement_of_limit (q := query) rfl (by simp)).2
  · exact nofun

end Jobs

end Tenancy
