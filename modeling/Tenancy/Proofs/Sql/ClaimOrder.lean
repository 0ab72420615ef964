import Tenancy.Proofs.Backend.Keys
import Tenancy.Proofs.Sql.Transaction

/-!
# The order of a claim on a server

A server answers a claim in an order of its own, and the exchange sorts the rows that come back.
Tables in memory sort the places of the eligible rows before they change them. Both come to the same
(`claim_order`) where neither the creation time nor the id is overwritten by the claim: the rows in
memory stand in strict order behind it (`claim_strict`), and that is what sorting makes of any
permutation of them.
-/

namespace Tenancy

namespace Memory

variable {table : Table} {tenant : TenantId} {c : Claim} {m : Memory}

theorem compareAge_markClaimed {createdAt id : String} (hCreatedAt : createdAt ∉ c.stamped)
    (hId : id ∉ c.stamped) (a b : Row) :
    compareAge createdAt id (markClaimed c a) (markClaimed c b) = compareAge createdAt id a b := by
  unfold compareAge
  rw [cell_markClaimed_of_not_mem hCreatedAt, cell_markClaimed_of_not_mem hCreatedAt,
    cell_markClaimed_of_not_mem hId, cell_markClaimed_of_not_mem hId]

/-- The rows that a claim hands out stand in strict order as the claim leaves them. -/
theorem claim_strict (hCreatedAt : c.createdAt ∉ c.stamped) (hId : table.idColumn ∉ c.stamped)
    (hCreated : Json.TransOn ((m.eligibleRows table tenant c).map (·.cell c.createdAt)))
    (hIds : Json.TransOn ((m.eligibleRows table tenant c).map (·.cell table.idColumn)))
    (hDistinct : ((m.eligibleRows table tenant c).map (·.cell table.idColumn)).Pairwise
      (Json.compareCells · · ≠ .eq)) :
    (m.claim table tenant c).1.Pairwise (compareAge c.createdAt table.idColumn · · = .lt) := by
  have hTaken := (oldestFirst_sorted hCreated hIds hDistinct).sublist (List.take_sublist c.limit _)
  rw [← claimedPlaces_eq] at hTaken
  refine List.pairwise_map.mpr (hTaken.imp fun hLt => ?_)
  rw [compareAge_markClaimed hCreatedAt hId]
  exact hLt

end Memory

namespace Sql.Exchange

variable {σ : Type} {table : Table} {tenant : TenantId} {c : Claim}

/-! ## What a claim makes of the answer -/

/-- What is said in a claim that the server carries out, with the documents that it answers. -/
def served (table : Table) (tenant : TenantId) (c : Claim) (documents : List Json) : List Entry :=
  [begun (.ok ()), ⟨.fetch (claim table tenant c), .ok documents⟩, committed (.ok ())]

theorem mapM_rowOf_eq_ok {documents : List Json} {rows : List Row} :
    documents.mapM rowOf = .ok rows ↔ ∃ objects : List (List (String × Json)),
      documents = objects.map .object ∧ rows = objects.map Row.ofEntries := by
  rw [Except.mapM_eq_ok]
  constructor
  · intro h
    induction h with
    | nil => exact ⟨[], rfl, rfl⟩
    | cons hRow _ ih =>
      obtain ⟨fields, rfl, rfl⟩ := rowOf_eq_ok.1 hRow
      obtain ⟨objects, rfl, rfl⟩ := ih
      exact ⟨fields :: objects, rfl, rfl⟩
  · rintro ⟨objects, rfl, rfl⟩
    rw [List.forall₂_map_left_iff, List.forall₂_map_right_iff, List.forall₂_same]
    exact fun _ _ => rfl

/-- Rows are read and sorted without another message. -/
theorem talk_sorted (server : (m : Message) → σ → m.Reply × σ) (documents : List Json)
    (cmp : Row → Row → Ordering) (s : σ) :
    talk server (do
        let rows ← rowsOf documents
        pure (stableSort cmp rows)) s =
      ([], (documents.mapM rowOf).map (stableSort cmp), s) := by
  cases hRows : documents.mapM rowOf <;> simp only [rowsOf, hRows] <;> rfl

/-- Either a claim is carried out, and what comes of it depends on the documents, or it fails. -/
theorem talk_claimRows (server : (m : Message) → σ → m.Reply × σ) (table : Table)
    (tenant : TenantId) (c : Claim) (s : σ) :
    (∃ documents, (talk server (claimRows table tenant c) s).1 = served table tenant c documents ∧
      (talk server (claimRows table tenant c) s).2.1 = (documents.mapM rowOf).map
        (stableSort (Memory.compareAge c.createdAt table.idColumn))) ∨
    (∀ documents, (talk server (claimRows table tenant c) s).1 ≠
        served table tenant c documents) ∧
      ∃ e, (talk server (claimRows table tenant c) s).2.1 = .error e := by
  have hSettled := settled_transaction server (fetch "claim" (claim table tenant c)) s
  obtain ⟨said, result, s', hTalk⟩ : ∃ said result s',
      talk server (transaction (fetch "claim" (claim table tenant c))) s = (said, result, s') :=
    ⟨_, _, _, rfl⟩
  have hFetch := talk_fetch server "claim" (claim table tenant c)
  rw [hTalk] at hSettled
  dsimp only at hSettled
  rw [claimRows]
  cases hSettled with
  | refused f =>
    rw [talk_bind_error hTalk]
    exact .inr ⟨fun _ hSaid => (nomatch congrArg List.length hSaid), _, rfl⟩
  | @failed s₁ _ _ e hBody =>
    rw [talk_bind_error hTalk]
    obtain ⟨reply, s₂, hReply⟩ := hFetch s₁
    obtain ⟨rfl, -⟩ := Prod.mk.inj (hBody.symm.trans hReply)
    exact .inr ⟨fun _ hSaid => (nomatch congrArg (List.map Sigma.fst) hSaid), _, rfl⟩
  | @unsettled s₁ _ _ _ f hBody =>
    rw [talk_bind_error hTalk]
    obtain ⟨reply, s₂, hReply⟩ := hFetch s₁
    obtain ⟨rfl, -⟩ := Prod.mk.inj (hBody.symm.trans hReply)
    exact .inr ⟨fun _ hSaid => (nomatch congrArg List.length hSaid), _, rfl⟩
  | @settled s₁ _ _ documents hBody =>
    obtain ⟨reply, s₂, hReply⟩ := hFetch s₁
    obtain ⟨rfl, hResult⟩ := Prod.mk.inj (hBody.symm.trans hReply)
    cases reply with
    | error f => cases (Prod.mk.inj hResult).1
    | ok found =>
      cases (Prod.mk.inj hResult).1
      rw [talk_bind_ok hTalk, talk_sorted]
      exact .inl ⟨documents, rfl, rfl⟩

/-- A claim has a result if and only if the server carries it out and answers with objects; they are
put into the order of the claim. -/
theorem claim_eq_ok_iff (server : (m : Message) → σ → m.Reply × σ) (s : σ) {rows : List Row} :
    (backend server (.claim table tenant c) s).1 = .ok rows ↔
      ∃ objects : List (List (String × Json)), (talk server (claimRows table tenant c) s).1 =
          served table tenant c (objects.map .object) ∧
        rows = stableSort (Memory.compareAge c.createdAt table.idColumn)
          (objects.map Row.ofEntries) := by
  change (talk server (claimRows table tenant c) s).2.1 = .ok rows ↔ _
  rcases talk_claimRows server table tenant c s with
    ⟨documents, hSaid, hResult⟩ | ⟨hSaid, e, hResult⟩
  · rw [hSaid, hResult]
    constructor
    · intro h
      cases hRows : documents.mapM rowOf with
      | error e =>
        rw [hRows] at h
        cases h
      | ok answer =>
        rw [hRows] at h
        cases h
        obtain ⟨objects, rfl, rfl⟩ := mapM_rowOf_eq_ok.1 hRows
        exact ⟨objects, rfl, rfl⟩
    · rintro ⟨objects, hServed, rfl⟩
      cases hServed
      rw [mapM_rowOf_eq_ok.2 ⟨objects, rfl, rfl⟩]
      rfl
  · rw [hResult]
    constructor
    · intro h
      cases h
    · rintro ⟨objects, hServed, -⟩
      exact absurd hServed (hSaid _)

/-! ## The order in which rows are handed out -/

/-- **A claim hands out the same rows in the same order on a server and in memory.** Where the
server carries out a claim and answers with objects:
1. The result is a permutation of the rows that come back.
2. If they are a permutation of the rows that the claim takes in memory, then the result is the one
in memory, provided that the claim overwrites neither the creation time nor the id, that the
creation times and the ids of the eligible rows are ordered, and that no two of the ids are
equal. -/
theorem claim_order (server : (m : Message) → σ → m.Reply × σ) (table : Table) (tenant : TenantId)
    (c : Claim) (s : σ) {objects : List (List (String × Json))}
    (hServed : (talk server (claimRows table tenant c) s).1 =
      served table tenant c (objects.map .object)) :
    (∃ rows, (backend server (.claim table tenant c) s).1 = .ok rows ∧
      rows.Perm (objects.map Row.ofEntries)) ∧
    ∀ m : Memory, c.createdAt ∉ c.stamped → table.idColumn ∉ c.stamped →
      Json.TransOn ((m.eligibleRows table tenant c).map (·.cell c.createdAt)) →
      Json.TransOn ((m.eligibleRows table tenant c).map (·.cell table.idColumn)) →
      ((m.eligibleRows table tenant c).map (·.cell table.idColumn)).Pairwise
        (Json.compareCells · · ≠ .eq) →
      (objects.map Row.ofEntries).Perm (m.claim table tenant c).1 →
        (backend server (.claim table tenant c) s).1 =
          (Memory.backend (.claim table tenant c) m).1 := by
  have hResult := (claim_eq_ok_iff server s).2 ⟨objects, hServed, rfl⟩
  refine ⟨⟨_, hResult, stableSort_perm _ _⟩, ?_⟩
  intro m hCreatedAt hId hCreated hIds hDistinct hPerm
  have hStrict := Memory.claim_strict hCreatedAt hId hCreated hIds hDistinct
  have hSorted : stableSort (Memory.compareAge c.createdAt table.idColumn)
      (objects.map Row.ofEntries) = (m.claim table tenant c).1 :=
    stableSort_eq_of_perm Memory.compareAge_swap hStrict hPerm
  rw [hResult, hSorted]
  rfl

theorem map_ofEntries_entries (rows : List Row) :
    (rows.map Row.entries).map Row.ofEntries = rows := by
  rw [List.map_map]
  exact (List.map_congr_left fun row _ => Row.ofEntries_entries row).trans (List.map_id _)

/-- A server that carries out everything and answers each statement with the same documents. -/
def answering (documents : List Json) : (m : Message) → Unit → m.Reply × Unit
  | .beginTransaction, _ | .commit, _ => (.ok (), ())
  | .rollback, _ => ((), ())
  | .fetch _, _ => (.ok documents, ())
  | .fetchNumber _, _ => (.ok 0, ())
  | .execute _, _ => (.ok 0, ())

theorem said_answering (documents : List Json) :
    (talk (answering documents) (claimRows table tenant c) ()).1 =
      served table tenant c documents := by
  have hTalk : talk (answering documents) (transaction (fetch "claim" (claim table tenant c))) () =
      (served table tenant c documents, .ok documents, ()) := rfl
  rw [claimRows, talk_bind_ok hTalk, talk_sorted]
  exact List.append_nil _

/-- Two waiting jobs that the server hands out in the other order. -/
theorem jobs_claim_order :
    let c : Claim := { Jobs.claim with limit := 2 }
    let m : Memory := ⟨[("jobs", [Jobs.waiting "b", Jobs.waiting "a"])], 1⟩
    let objects := (m.claim Jobs.store.table Jobs.tenant c).1.reverse.map Row.entries
    let server := answering (objects.map .object)
    (backend server (.claim Jobs.store.table Jobs.tenant c) ()).1 =
      (Memory.backend (.claim Jobs.store.table Jobs.tenant c) m).1 := by
  intro c m objects server
  have hEligible : m.eligibleRows Jobs.store.table Jobs.tenant c =
      [Jobs.waiting "b", Jobs.waiting "a"] := rfl
  have hCells : ∀ column ∈ ["created_at", "id"],
      Json.TransOn ([Jobs.waiting "b", Jobs.waiting "a"].map (·.cell column)) := by
    decide +kernel
  have hDistinct : ([Jobs.waiting "b", Jobs.waiting "a"].map (·.cell "id")).Pairwise
      (Json.compareCells · · ≠ .eq) := by
    decide +kernel
  rw [← hEligible] at hCells hDistinct
  refine (claim_order server Jobs.store.table Jobs.tenant c () (said_answering _)).2 m (by decide)
    (by decide) (hCells "created_at" (by simp)) (hCells "id" (by simp)) hDistinct ?_
  rw [map_ofEntries_entries]
  exact List.reverse_perm _

/-- A claim that writes its time over the ids: two waiting jobs with different ids become equal in
both columns of the order, and the order of the answer stays. -/
theorem claim_order_of_stamped_id :
    let c : Claim := { Jobs.claim with claimedAt := some "id", limit := 2 }
    let a : Row := (Jobs.waiting "a").insert "note" (.string "first")
    let b : Row := (Jobs.waiting "b").insert "note" (.string "second")
    let m : Memory := ⟨[("jobs", [a, b])], 1⟩
    let objects := (m.claim Jobs.store.table Jobs.tenant c).1.reverse.map Row.entries
    let server := answering (objects.map .object)
    (c.createdAt ≠ c.status ∧ c.claimedAt ≠ some c.createdAt) ∧
      Json.TransOn ((m.eligibleRows Jobs.store.table Jobs.tenant c).map (·.cell c.createdAt)) ∧
      Json.TransOn
        ((m.eligibleRows Jobs.store.table Jobs.tenant c).map (·.cell Jobs.store.table.idColumn)) ∧
      ((m.eligibleRows Jobs.store.table Jobs.tenant c).map
        (·.cell Jobs.store.table.idColumn)).Pairwise (Json.compareCells · · ≠ .eq) ∧
      (talk server (claimRows Jobs.store.table Jobs.tenant c) ()).1 =
        served Jobs.store.table Jobs.tenant c (objects.map .object) ∧
      (objects.map Row.ofEntries).Perm (m.claim Jobs.store.table Jobs.tenant c).1 ∧
      (backend server (.claim Jobs.store.table Jobs.tenant c) ()).1 ≠
        (Memory.backend (.claim Jobs.store.table Jobs.tenant c) m).1 := by
  intro c a b m objects server
  have hEligible : m.eligibleRows Jobs.store.table Jobs.tenant c = [a, b] := rfl
  rw [hEligible]
  refine ⟨by decide, by decide +kernel, by decide +kernel, by decide +kernel, said_answering _, ?_,
    ?_⟩
  · rw [map_ofEntries_entries]
    exact List.reverse_perm _
  · intro hSame
    have hNotes := congrArg (fun result : Except StoreError (List Row) =>
      (result.toOption.getD []).map fun row => (row.cell "note").text) hSame
    revert hNotes
    decide +kernel

end Sql.Exchange

end Tenancy
