import Tenancy.Proofs.Queue.Effects
import Tenancy.Proofs.Queue.Exclusivity

/-!
# Late write-backs

Workers of one tenant share a queue (`Crew`): they claim batches, write back an outcome for each row
they claimed, and release stale claims. A write-back names a row by its id and does not ask who
holds it, so it is late (`IsLate`) if the claim was released before it or another write-back came
first. A late write-back takes effect like any other one. Nothing else changes a row that was given
the success status, and no write-back is late where sweeps release only rows that nobody holds
(`success_is_final`).
-/

namespace Tenancy

/-- Workers on one shared queue, with success values that the queue itself does not use. -/
structure Crew (ε : Type) (ρ : ε → Type) extends SharedQueue ε ρ where
  settings : ε → WorkerSettings
  success_settled : ∀ e, roles.pending.matchesCell (settings e).success.toJson = false ∧
    roles.inProgress.matchesCell (settings e).success.toJson = false

namespace Crew

variable {ε : Type} {ρ : ε → Type}

def worker (c : Crew ε ρ) (e : ε) : Worker (ρ e) := ⟨c.queue e, c.settings e⟩

/-! ## Steps -/

/-- The tables, the places of the rows that each worker has claimed and not written back yet, and
who holds the row at a place. -/
structure State (ε : Type) where
  memory : Memory
  claimed : ε → List Nat
  holder : Nat → Option ε

inductive Event (ε : Type) where
  | claim (e : ε) (limit : Nat) (now : Instant)
  | release (e : ε) (age : Duration) (now : Instant)
  /-- The outcome of the row at a place: the handler succeeds or not after so many attempts. -/
  | report (e : ε) (place : Nat) (attempts : Nat) (succeeds : Bool) (now : Instant)

def rows (c : Crew ε ρ) (s : State ε) : List Row := s.memory.rows c.table.name

/-- The places of the rows that a claim takes. -/
def taken (c : Crew ε ρ) (s : State ε) (limit : Nat) (now : Instant) : List Nat :=
  Memory.claimedPlaces c.table c.tenant { c.claimColumns with limit, now } (c.rows s)

/-- The places of the rows that a sweep releases. -/
def stale (c : Crew ε ρ) (s : State ε) (e : ε) (age : Duration) (now : Instant) : List Nat :=
  (c.queue e).stalePlaces c.tenant age now (c.rows s)

def idAt (c : Crew ε ρ) (s : State ε) (place : Nat) : Value :=
  .ofJson (((c.rows s).getD place .empty).cell c.table.idColumn)

/-- The places of the rows that a write-back for the row at a place reaches. -/
def reached (c : Crew ε ρ) (s : State ε) (e : ε) (place : Nat) : List Nat :=
  (c.queue e).store.reached c.tenant (c.idAt s place) (c.rows s)

/-- Workers write back rows that they claimed. -/
def Permits (s : State ε) : Event ε → Prop
  | .claim _ _ _ | .release _ _ _ => True
  | .report e place _ _ _ => place ∈ s.claimed e

/-- A write-back that reaches the row at a place, by a worker who does not hold this row. -/
def IsLate (c : Crew ε ρ) (s : State ε) (k : Nat) : Event ε → Prop
  | .claim _ _ _ | .release _ _ _ => False
  | .report e place _ _ _ => k ∈ c.reached s e place ∧ s.holder k ≠ some e

/-- The run of a write-back. -/
def runReport (c : Crew ε ρ) (s : State ε) (e : ε) (place attempts : Nat) (succeeds : Bool)
    (now : Instant) : Except Failure Bool × Memory :=
  (World.still (some c.tenant) now).run ((c.worker e).reporter.finalize (c.idAt s place)
    ((c.worker e).verdict attempts succeeds)) s.memory

section Steps

variable [DecidableEq ε]

/-- A row is held from its claim to its release or to the first write-back that reaches it. -/
def next (c : Crew ε ρ) (s : State ε) : Event ε → State ε
  | .claim e limit now =>
    match (World.still (some c.tenant) now).run ((c.queue e).claimBatch limit) s.memory with
    | (.ok _, memory) =>
      { memory
        claimed := Function.update s.claimed e (s.claimed e ++ c.taken s limit now)
        holder k := if k ∈ c.taken s limit now then some e else s.holder k }
    | (.error _, memory) => { s with memory }
  | .release e age now =>
    match (World.still (some c.tenant) now).run ((c.queue e).releaseStale age) s.memory with
    | (.ok _, memory) =>
      { s with
        memory
        holder k := if k ∈ c.stale s e age now then none else s.holder k }
    | (.error _, memory) => { s with memory }
  | .report e place attempts succeeds now =>
    let claimed := Function.update s.claimed e ((s.claimed e).filter (· ≠ place))
    match c.runReport s e place attempts succeeds now with
    | (.ok _, memory) =>
      { memory
        claimed
        holder k := if k ∈ c.reached s e place then none else s.holder k }
    | (.error _, memory) => { s with memory, claimed }

def run (c : Crew ε ρ) (s : State ε) (events : List (Event ε)) : State ε := events.foldl c.next s

/-- No event of the run is a late write-back to the row at the place. -/
def Undisturbed (c : Crew ε ρ) (k : Nat) : State ε → List (Event ε) → Prop
  | _, [] => True
  | s, event :: rest => ¬c.IsLate s k event ∧ c.Undisturbed k (c.next s event) rest

end Steps

/-! ## Effects of the steps -/

section Effects

variable {c : Crew ε ρ} {s : State ε} {e : ε} {k place attempts : Nat} {succeeds : Bool}
  {now : Instant}

/-- The verdict of a report reaches all its rows, or the report fails and changes nothing. -/
theorem runReport_cases (c : Crew ε ρ) (s : State ε) (e : ε) (place attempts : Nat)
    (succeeds : Bool) (now : Instant) :
    (∃ failure, c.runReport s e place attempts succeeds now = (.error (.error failure), s.memory)) ∨
      ∃ f hit m, c.runReport s e place attempts succeeds now = (.ok hit, m) ∧
        m.rows c.table.name = Memory.changeAt f (c.reached s e place) (c.rows s) ∧
        Queue.KeepsIdentity c.table f ∧
        ∀ row, (f row).cell c.claimColumns.status =
          (((c.worker e).verdict attempts succeeds).status?.getD c.roles.pending).toJson := by
  have hStatus : ∀ (next : Instant) (verdict : Verdict),
      ((c.worker e).reporter.verdictPatch next verdict).get? c.roles.status =
        some (verdict.status?.getD c.roles.pending) := by
    intro next verdict
    exact Queue.get?_verdictPatch_status (q := (c.worker e).reporter)
      (Queue.claimedAt_ne_status (q := c.queue e) c.distinct)
      (Queue.attempts_ne_status (q := c.queue e) c.distinct) next verdict
  rcases Queue.run_finalize_cases (q := (c.worker e).reporter) now (c.reports e) (c.idAt s place)
    ((c.worker e).verdict attempts succeeds) s.memory with hFails | ⟨next, hRun⟩
  · exact .inl hFails
  · have hReport := (c.worker e).reporter.isReport_verdictPatch next
      ((c.worker e).verdict attempts succeeds)
    refine .inr ⟨_, _, _, hRun, Memory.rows_setRows_self _ _ _, hReport.keepsIdentity, ?_⟩
    intro row
    exact hReport.cell_patched (Queue.mem_fields c.roles).1 c.roles_resolved.status
      (hStatus next _) row

/-- A claim marks the rows that it takes, whether or not it can hand them out. -/
theorem rows_runClaim (c : Crew ε ρ) (s : State ε) (e : ε) (limit : Nat) (now : Instant) :
    ((World.still (some c.tenant) now).run ((c.queue e).claimBatch limit) s.memory).2.rows
        c.table.name =
      Memory.changeAt (Memory.markClaimed { c.claimColumns with limit, now })
        (c.taken s limit now) (c.rows s) := by
  by_cases hLimit : limit = 0
  · subst hLimit
    rw [c.run_claimBatch_zero]
    rfl
  · have hClaim := Memory.rows_claim c.table c.tenant { c.claimColumns with limit, now } s.memory
    rcases c.run_claimBatch e hLimit now s.memory with ⟨failure, -, hRun⟩ | ⟨records, -, hRun⟩
    · rw [hRun]
      exact hClaim
    · rw [hRun]
      exact hClaim

/-- A sweep changes the rows that it releases, or it fails and changes nothing. -/
theorem runRelease_cases (c : Crew ε ρ) (s : State ε) (e : ε) (age : Duration) (now : Instant) :
    (∃ failure, (World.still (some c.tenant) now).run ((c.queue e).releaseStale age) s.memory =
        (.error failure, s.memory)) ∨
      ∃ f count m, (World.still (some c.tenant) now).run ((c.queue e).releaseStale age) s.memory =
          (.ok count, m) ∧
        m.rows c.table.name = Memory.changeAt f (c.stale s e age now) (c.rows s) ∧
        Queue.KeepsIdentity c.table f := by
  rcases Queue.run_releaseStale_cases (q := c.queue e) now (c.reports e) age s.memory with
    hFails | hRun
  · exact .inl hFails
  · exact .inr ⟨_, _, _, hRun, Memory.rows_setRows_self _ _ _,
      (c.queue e).isReport_releasePatch.keepsIdentity⟩

theorem stale_nodup (c : Crew ε ρ) (s : State ε) (e : ε) (age : Duration) (now : Instant) :
    (c.stale s e age now).Nodup := (c.queue e).stalePlaces_nodup _ _ _ _

theorem reached_nodup (c : Crew ε ρ) (s : State ε) (e : ε) (place : Nat) :
    (c.reached s e place).Nodup := Memory.placesOf_nodup _ _

end Effects

/-! ## Rows with the success status -/

/-- The row has the success status of a worker, and nobody holds it. -/
structure Succeeded (c : Crew ε ρ) (e : ε) (k : Nat) (s : State ε) : Prop where
  status : ∃ row, (c.rows s)[k]? = some row ∧
    row.cell c.claimColumns.status = (c.settings e).success.toJson
  free : s.holder k = none

namespace Succeeded

variable {c : Crew ε ρ} {s : State ε} {e : ε} {k : Nat}

theorem settled (h : c.Succeeded e k s) :
    ∃ row, (c.rows s)[k]? = some row ∧ c.claimColumns.Settled row := by
  obtain ⟨row, hRow, hStatus⟩ := h.status
  obtain ⟨hPending, hInProgress⟩ := c.success_settled e
  refine ⟨row, hRow, ?_, ?_⟩
  · rw [hStatus, c.roles_resolved.pending]
    exact hPending
  · rw [hStatus, c.roles_resolved.inProgress]
    exact hInProgress

variable [DecidableEq ε]

/-- Every step other than a late write-back to the row leaves it alone. -/
theorem next (h : c.Succeeded e k s) {event : Event ε} (hLate : ¬c.IsLate s k event) :
    c.Succeeded e k (c.next s event) := by
  obtain ⟨row, hRow, hPending, hInProgress⟩ := h.settled
  obtain ⟨old, hOld, hStatus⟩ := h.status
  cases Option.some.inj (hRow.symm.trans hOld)
  -- A step that keeps the row and gives it to nobody is all that is needed.
  have hKeeps : ∀ {s' : State ε}, (c.rows s')[k]? = some row → s'.holder k = none →
      c.Succeeded e k s' := fun hRow' hFree => ⟨⟨row, hRow', hStatus⟩, hFree⟩
  cases event with
  | claim e' limit now =>
    have hRow' := Queue.run_claimBatch_getElem? (q := c.queue e') (some c.tenant) now hRow
      hPending limit
    have hFree : k ∉ c.taken s limit now := Queue.not_mem_claimedPlaces hRow hPending
    unfold Crew.next
    dsimp only
    generalize World.run _ _ s.memory = outcome at hRow'
    obtain ⟨failure | batch, m⟩ := outcome
    · exact hKeeps hRow' h.free
    · exact hKeeps hRow' ((if_neg hFree).trans h.free)
  | release e' age now =>
    have hRow' := Queue.run_releaseStale_getElem? (q := c.queue e') (some c.tenant) now hRow
      hInProgress age
    have hFree : k ∉ c.stale s e' age now :=
      Queue.not_mem_stalePlaces (q := c.queue e') hRow hInProgress
    unfold Crew.next
    dsimp only
    generalize World.run _ _ s.memory = outcome at hRow'
    obtain ⟨failure | count, m⟩ := outcome
    · exact hKeeps hRow' h.free
    · exact hKeeps hRow' ((if_neg hFree).trans h.free)
  | report e' place attempts succeeds now =>
    have hReached : k ∉ c.reached s e' place := by
      intro hReached
      refine hLate ⟨hReached, ?_⟩
      rw [h.free]
      nofun
    rcases c.runReport_cases s e' place attempts succeeds now with
      ⟨failure, hRun⟩ | ⟨f, hit, m, hRun, hRows, -, -⟩
    · simp only [Crew.next, hRun]
      exact hKeeps hRow h.free
    · simp only [Crew.next, hRun]
      refine hKeeps ?_ ((if_neg hReached).trans h.free)
      rw [rows, hRows, Memory.getElem?_changeAt _ (c.reached_nodup s e' place), if_neg hReached]
      exact hRow

theorem run (h : c.Succeeded e k s) {events : List (Event ε)} (hRun : c.Undisturbed k s events) :
    c.Succeeded e k (c.run s events) := by
  induction events generalizing s with
  | nil => exact h
  | cons event rest ih => exact ih (h.next hRun.1) hRun.2

end Succeeded

/-! ## Sweeps in time -/

/-- No sweep releases a row that somebody holds. -/
def InTime (c : Crew ε ρ) (s : State ε) : Event ε → Prop
  | .claim _ _ _ | .report _ _ _ _ _ => True
  | .release e age now => ∀ k ∈ c.stale s e age now, s.holder k = none

/-- Nobody has claimed a row yet. -/
def start (m : Memory) : State ε := ⟨m, fun _ => [], fun _ => none⟩

/-- Every event of the run is permitted and in time. -/
def Orderly [DecidableEq ε] (c : Crew ε ρ) : State ε → List (Event ε) → Prop
  | _, [] => True
  | s, event :: rest => (Permits s event ∧ c.InTime s event) ∧ c.Orderly (c.next s event) rest

/-- Ids are unique, who has claimed a row holds it until the write-back, and a row that is held
belongs to the tenant and does not wait. -/
structure Owned (c : Crew ε ρ) (s : State ε) : Prop where
  ids : Memory.UniqueIds c.table (c.rows s)
  claimed : ∀ e, ∀ k ∈ s.claimed e, s.holder k = some e
  busy : ∀ k e, s.holder k = some e →
    ∃ row, (c.rows s)[k]? = some row ∧ c.IsBusy (row.cell c.table.idColumn) row

namespace Owned

variable {c : Crew ε ρ} {s : State ε}

/-- Rows that somebody holds are as before, and so are the holders, so all is well. -/
theorem keep (h : c.Owned s) {s' : State ε} (hIds : Memory.UniqueIds c.table (c.rows s'))
    (hClaimed : ∀ e, ∀ k ∈ s'.claimed e, s'.holder k = some e)
    (hRows : ∀ k e, s'.holder k = some e → s.holder k = some e ∧ (c.rows s')[k]? = (c.rows s)[k]?) :
    c.Owned s' := by
  refine ⟨hIds, hClaimed, ?_⟩
  intro k e hHolder
  obtain ⟨hHeld, hSame⟩ := hRows k e hHolder
  rw [hSame]
  exact h.busy k e hHeld

/-- No claim takes a row that somebody holds. -/
theorem not_mem_taken (h : c.Owned s) {e : ε} {k : Nat} (hHeld : s.holder k = some e) (limit : Nat)
    (now : Instant) : k ∉ c.taken s limit now := by
  obtain ⟨row, hRow, hBusy⟩ := h.busy k e hHeld
  exact Queue.not_mem_claimedPlaces hRow hBusy.not_pending

/-- A write-back for a row that is held reaches this row alone. -/
theorem reached_eq (h : c.Owned s) {e : ε} {place : Nat} (hHeld : s.holder place = some e)
    (e' : ε) : c.reached s e' place = [place] := by
  obtain ⟨row, hRow, hBusy⟩ := h.busy place e hHeld
  rw [reached, idAt, Memory.getD_of_getElem? hRow]
  exact Store.reached_eq_singleton (s := (c.queue e').store) h.ids hRow hBusy.owned

variable [DecidableEq ε]

theorem claim (h : c.Owned s) (e : ε) (limit : Nat) (now : Instant) :
    c.Owned (c.next s (.claim e limit now)) := by
  have hRows := c.rows_runClaim s e limit now
  have hAfter := Memory.getElem?_changeAt (Memory.markClaimed { c.claimColumns with limit, now })
    (Memory.claimedPlaces_nodup c.table c.tenant { c.claimColumns with limit, now } (c.rows s))
    (c.rows s)
  have hIds : Memory.UniqueIds c.table (Memory.changeAt
      (Memory.markClaimed { c.claimColumns with limit, now }) (c.taken s limit now) (c.rows s)) :=
    h.ids.changeAt (c.cell_markClaimed c.store_resolved.idColumn (.inr rfl))
  have hHeldRow : ∀ k e, s.holder k = some e →
      (Memory.changeAt (Memory.markClaimed { c.claimColumns with limit, now })
        (c.taken s limit now) (c.rows s))[k]? = (c.rows s)[k]? := by
    intro k e hHeld
    exact (hAfter k).trans (if_neg (h.not_mem_taken hHeld limit now))
  unfold Crew.next
  dsimp only
  generalize World.run _ _ s.memory = outcome at hRows
  obtain ⟨failure | batch, m⟩ := outcome
  · refine h.keep ?_ h.claimed ?_
    · rw [rows, hRows]
      exact hIds
    · intro k e' hHeld
      rw [rows, hRows]
      exact ⟨hHeld, hHeldRow k e' hHeld⟩
  · refine ⟨?_, ?_, ?_⟩
    · rw [rows, hRows]
      exact hIds
    · intro e' k hClaimed
      dsimp only at hClaimed ⊢
      by_cases hTaken : k ∈ c.taken s limit now
      · rw [if_pos hTaken]
        by_cases hSelf : e' = e
        · rw [hSelf]
        · rw [Function.update_of_ne hSelf] at hClaimed
          exact absurd hTaken (h.not_mem_taken (h.claimed e' k hClaimed) limit now)
      · rw [if_neg hTaken]
        by_cases hSelf : e' = e
        · subst hSelf
          rw [Function.update_self, List.mem_append] at hClaimed
          exact h.claimed e' k (hClaimed.resolve_right hTaken)
        · rw [Function.update_of_ne hSelf] at hClaimed
          exact h.claimed e' k hClaimed
    · intro k e' hHolder
      dsimp only at hHolder
      rw [rows, hRows]
      by_cases hTaken : k ∈ c.taken s limit now
      · obtain ⟨row, hRow, -, hBusy⟩ := SharedQueue.claimed_spec (c := c.toSharedQueue) hTaken
        refine ⟨_, (hAfter k).trans ((if_pos hTaken).trans (congrArg _ hRow)), rfl, hBusy.owned,
          hBusy.not_pending⟩
      · rw [if_neg hTaken] at hHolder
        rw [hHeldRow k e' hHolder]
        exact h.busy k e' hHolder

theorem release (h : c.Owned s) {e : ε} {age : Duration} {now : Instant}
    (hInTime : c.InTime s (.release e age now)) : c.Owned (c.next s (.release e age now)) := by
  rcases c.runRelease_cases s e age now with
    ⟨failure, hRun⟩ | ⟨f, count, m, hRun, hRows, hKeeps⟩
  · simp only [Crew.next, hRun]
    exact h
  · simp only [Crew.next, hRun]
    refine h.keep ?_ ?_ ?_
    · rw [rows, hRows]
      exact h.ids.changeAt hKeeps.id
    · intro e' k hClaimed
      have hHeld := h.claimed e' k hClaimed
      refine (if_neg fun hStale => ?_).trans hHeld
      rw [hInTime k hStale] at hHeld
      cases hHeld
    · intro k e' hHolder
      dsimp only at hHolder
      split at hHolder
      · cases hHolder
      · rename_i hStale
        rw [rows, hRows, Memory.getElem?_changeAt _ (c.stale_nodup s e age now), if_neg hStale]
        exact ⟨hHolder, rfl⟩

theorem report (h : c.Owned s) {e : ε} {place : Nat} (hPermits : place ∈ s.claimed e)
    (attempts : Nat) (succeeds : Bool) (now : Instant) :
    c.Owned (c.next s (.report e place attempts succeeds now)) := by
  have hHeld := h.claimed e place hPermits
  have hReached := h.reached_eq hHeld e
  -- Nobody else has claimed the row, so no claim on it is left.
  have hOthers : ∀ e' k, k ∈ Function.update s.claimed e ((s.claimed e).filter (· ≠ place)) e' →
      k ∈ s.claimed e' ∧ k ≠ place := by
    intro e' k hClaimed
    by_cases hSelf : e' = e
    · subst hSelf
      rw [Function.update_self, List.mem_filter, decide_eq_true_iff] at hClaimed
      exact hClaimed
    · rw [Function.update_of_ne hSelf] at hClaimed
      refine ⟨hClaimed, ?_⟩
      rintro rfl
      exact hSelf (Option.some.inj ((h.claimed e' k hClaimed).symm.trans hHeld))
  rcases c.runReport_cases s e place attempts succeeds now with
    ⟨failure, hRun⟩ | ⟨f, hit, m, hRun, hRows, hKeeps, -⟩
  · simp only [Crew.next, hRun]
    exact h.keep h.ids (fun e' k hClaimed => h.claimed e' k (hOthers e' k hClaimed).1)
      fun k e' hHolder => ⟨hHolder, rfl⟩
  · simp only [Crew.next, hRun]
    rw [hReached] at hRows ⊢
    refine h.keep ?_ ?_ ?_
    · rw [rows, hRows]
      exact h.ids.changeAt hKeeps.id
    · intro e' k hClaimed
      obtain ⟨hOld, hOther⟩ := hOthers e' k hClaimed
      exact (if_neg (mt List.mem_singleton.mp hOther)).trans (h.claimed e' k hOld)
    · intro k e' hHolder
      dsimp only at hHolder
      split at hHolder
      · cases hHolder
      · rename_i hOther
        rw [rows, hRows, Memory.getElem?_changeAt _ (List.nodup_singleton place), if_neg hOther]
        exact ⟨hHolder, rfl⟩

theorem next (h : c.Owned s) {event : Event ε} (hPermits : Permits s event)
    (hInTime : c.InTime s event) : c.Owned (c.next s event) := by
  cases event with
  | claim e limit now => exact h.claim e limit now
  | release e age now => exact h.release hInTime
  | report e place attempts succeeds now => exact h.report hPermits attempts succeeds now

/-- Each prefix of an orderly run keeps the invariant and leaves an orderly run. -/
theorem run (h : c.Owned s) {events rest : List (Event ε)}
    (hOrderly : c.Orderly s (events ++ rest)) :
    c.Owned (c.run s events) ∧ c.Orderly (c.run s events) rest := by
  induction events generalizing s with
  | nil => exact ⟨h, hOrderly⟩
  | cons event events ih =>
    obtain ⟨⟨hPermits, hInTime⟩, hRest⟩ := hOrderly
    exact ih (h.next hPermits hInTime) hRest

end Owned

/-- Two workers that release claims after a minute. -/
def jobs : Crew Bool fun _ => Json where
  toSharedQueue := SharedQueue.jobs
  settings _ := { WorkerSettings.standard with staleAfter := some (Duration.ofSeconds 60) }
  success_settled _ := by decide

/-- One hour past the epoch. -/
def later : Instant := (Instant.of? 3600 0).getD Jobs.epoch

/-- One waiting job. -/
def waiting : State Bool := start ⟨[("jobs", [Jobs.waiting "a"])], 1⟩

end Crew

end Tenancy
