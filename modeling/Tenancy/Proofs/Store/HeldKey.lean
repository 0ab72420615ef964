import Tenancy.Proofs.Backend.Isolation
import Tenancy.Proofs.Store.Idempotence

/-!
# Saves under a key that is held

A save under a key that a row of the tenant holds meets a conflict and looks for the row. The
conflict is one of cells that count as the same, and the look-up is for cells that equal the value
of the key. So the save answers the row that holds the key, unless row and key are different texts
of one point in time: that row is not found, and the save fails (`SharedKey.save_of_held`).
-/

namespace Tenancy

open Memory

namespace SharedKey

variable {ε : Type} {ρ : ε → Type} {c : SharedKey ε ρ} {e : ε} {now : Instant} {m : Memory}
  {holder row : Row}

/-- The look-up finds this row. -/
abbrev Finds (c : SharedKey ε ρ) (row : Row) : Bool :=
  selects c.table c.tenant (IdempotentWriter.keyConditions c.keyColumn c.key) row

theorem finds_iff : c.Finds row ↔ ownedBy c.table c.tenant row ∧
    (Value.ofJson c.key).matchesCell (row.cell c.keyColumn) := by
  simp [Finds, selects, IdempotentWriter.keyConditions, Condition.holds, Test.holds]

theorem IsKey.agreeOn {key : List String} (h : c.IsKey key) {a b : Row}
    (ha : a.cell c.table.tenantColumn = .string c.tenant.text)
    (hb : b.cell c.table.tenantColumn = .string c.tenant.text)
    (hSame : Json.sameCell (a.cell c.keyColumn) (b.cell c.keyColumn)) : AgreeOn key a b := by
  intro column hColumn
  rcases (h column).mp hColumn with rfl | rfl
  · rw [ha, hb]
    exact Json.sameCell_self nofun
  · exact hSame

/-- The row of the tenant holds the key: another one would collide with it. -/
structure Held (c : SharedKey ε ρ) (m : Memory) (holder : Row) : Prop where
  mem : holder ∈ m.rows c.table.name
  owner : holder.Carries c.table c.tenant
  same : Json.sameCell c.key (holder.cell c.keyColumn)

namespace Held

theorem sameRows (h : c.Held m holder) {m' : Memory} (hRows : SameRows m m') :
    c.Held m' holder :=
  ⟨by rw [hRows]; exact h.mem, h.owner, h.same⟩

/-- Beside a row that holds the key no client can insert its row. -/
theorem refused (h : c.Held m holder) (e : ε) :
    checkUnique c.table (m.rows c.table.name) (m.drawn c.table (c.encoded e)) ≠ .ok () := by
  obtain ⟨-, key, hKey, hIsKey⟩ := c.exists_key
  obtain ⟨hTenant, hCell⟩ := (Version.drawn (c := c) (e := e) m).cells
  have hAgree : AgreeOn key (m.drawn c.table (c.encoded e)) holder :=
    hIsKey.agreeOn hTenant h.owner.cell_eq (hCell ▸ h.same)
  intro hOk
  exact checkUnique_eq_ok_iff.mp hOk holder h.mem key (List.mem_cons_of_mem _ hKey) hAgree

/-- A save changes no row. It answers the first row that the look-up finds, and if there is none it
fails with the conflict that its second insertion meets. -/
theorem run_save (h : c.Held m holder) (e : ε) (now : Instant) :
    ∃ m', SameRows m m' ∧ match (m.rows c.table.name).find? c.Finds with
      | some row =>
        (World.still (c.active e) now).run ((c.writer e).save (c.record e)) m =
          ((c.writer e).answered .existing row, m')
      | none => ∃ cause,
        (World.still (c.active e) now).run ((c.writer e).save (c.record e)) m =
          (.error (.error (.conflict cause)), m') := by
  -- The first two turns: the insertion that is refused, and the look-up.
  have hRun := (World.still (c.active e) now).run_turn ((c.writer e).save (c.record e)) m
  rcases IdempotentWriter.turn_save (w := c.writer e) (c.reports e) (c.encodes e) (c.keyed e) m with
    ⟨hUnique, -, -⟩ | ⟨cause, -, hFirst, hLookUp⟩
  · exact absurd hUnique (h.refused e)
  obtain ⟨hSecond, hFound⟩ := IdempotentWriter.turn_lookUp (w := c.writer e)
    (c.reports e) c.exists_key.1 c.keyField_ne (c.encoded_spec e).2.2 (c.record e)
    ((World.still (c.active e) now).turn ((c.writer e).save (c.record e)) m).2
  rw [hLookUp, ← World.run_turn, hSecond] at hRun
  generalize ((World.still (c.active e) now).turn ((c.writer e).save (c.record e)) m).2 = m₁
    at hFirst hFound hRun
  have hTable : m₁.rows (c.writer e).store.table.name = m.rows c.table.name := hFirst _
  rw [hTable] at hFound
  split at hFound
  · rename_i row hRow
    rw [World.run_over _ hFound] at hRun
    refine ⟨m₁, hFirst, ?_⟩
    rw [show (m.rows c.table.name).find? c.Finds = some row from hRow]
    exact hRun.symm
  · rename_i hNone
    rw [hFound] at hRun
    rw [← World.run_turn] at hRun
    rcases IdempotentWriter.turn_retry (w := c.writer e) (c.reports e) (c.encodes e) m₁ with
      ⟨hUnique, -, -⟩ | ⟨cause, -, hThird, hOver⟩
    · exact absurd hUnique ((h.sameRows hFirst).refused e)
    rw [World.run_over _ hOver] at hRun
    refine ⟨_, fun name => (hThird name).trans (hFirst name), ?_⟩
    rw [show (m.rows c.table.name).find? c.Finds = none from hNone]
    exact ⟨cause, hRun.symm⟩

/-- In a table without collisions the look-up for an exact scalar finds the row that holds it or no
row at all. -/
theorem eq_of_finds (h : c.Held m holder) (hScalar : c.key.isScalar) (hExact : c.key.isExact)
    (hApart : KeysApart c.table (m.rows c.table.name))
    (hTagged : Tagged c.table (m.rows c.table.name)) (hRow : row ∈ m.rows c.table.name)
    (hFinds : c.Finds row) : row = holder := by
  obtain ⟨hOwned, hMatches⟩ := finds_iff.mp hFinds
  obtain ⟨-, key, hKey, hIsKey⟩ := c.exists_key
  have hOwner := hTagged.carries_of_ownedBy hRow hOwned
  have hSame := Json.sameCell_of_matches hScalar hExact hMatches h.same
  exact hApart.eq_of_agreeOn hKey hRow h.mem (hIsKey.agreeOn hOwner.cell_eq h.owner.cell_eq hSame)

end Held

/-- **A save under a key that is held changes no row.** A scalar key counts as the same as a cell
exactly if its value equals the cell or both are texts of one point in time. In a table without
collisions, where a row of the tenant holds the key of a record,
1. the save answers that row if its cell equals the value of the key and the key is not a float,
2. with a float it answers a row whose cell equals it,
3. and it fails with a conflict if the row has another text of the same point in time. -/
theorem save_of_held (c : SharedKey ε ρ) (e : ε) (now : Instant) (m : Memory) (holder : Row)
    {existing : ρ e} (hScalar : c.key.isScalar) (hApart : KeysApart c.table (m.rows c.table.name))
    (hTagged : Tagged c.table (m.rows c.table.name)) (hHeld : c.Held m holder)
    (hDecode : (c.writer e).store.decodeRow holder = .ok existing) :
    (∀ cell, Json.sameCell c.key cell ↔
      (Value.ofJson c.key).matchesCell cell ∨ c.key.SameInstant cell) ∧
    ∃ m', SameRows m m' ∧
      ((Value.ofJson c.key).matchesCell (holder.cell c.keyColumn) → c.key.isExact →
        (World.still (c.active e) now).run ((c.writer e).save (c.record e)) m =
          (.ok (.existing existing), m')) ∧
      ((Value.ofJson c.key).matchesCell (holder.cell c.keyColumn) →
        ∃ found ∈ m.rows c.table.name, c.Finds found ∧
          (World.still (c.active e) now).run ((c.writer e).save (c.record e)) m =
            ((c.writer e).answered .existing found, m')) ∧
      ((Value.ofJson c.key).matchesCell (holder.cell c.keyColumn) = false → ∃ cause,
        (World.still (c.active e) now).run ((c.writer e).save (c.record e)) m =
          (.error (.error (.conflict cause)), m')) := by
  have hNull : c.key ≠ .null := (c.encoded_spec e).2.2
  refine ⟨fun cell => Value.sameCell_iff hScalar hNull, ?_⟩
  obtain ⟨m', hSame, hRun⟩ := hHeld.run_save e now
  refine ⟨m', hSame, ?_⟩
  have hOwned : ownedBy c.table c.tenant holder := by simp [ownedBy_of_carries hHeld.owner]
  cases hFind : (m.rows c.table.name).find? c.Finds with
  | none =>
    rw [hFind] at hRun
    -- The row that holds the key would have been found.
    have hMissed : ¬ (Value.ofJson c.key).matchesCell (holder.cell c.keyColumn) := fun hMatches =>
      List.find?_eq_none.mp hFind holder hHeld.mem (finds_iff.mpr ⟨hOwned, hMatches⟩)
    exact ⟨fun h => absurd h hMissed, fun h => absurd h hMissed, fun _ => hRun⟩
  | some found =>
    rw [hFind] at hRun
    have hMem := List.mem_of_find?_eq_some hFind
    have hFinds := List.find?_some hFind
    refine ⟨fun _ hExact => ?_, fun _ => ⟨found, hMem, hFinds, hRun⟩, fun hMissed => ?_⟩
    · have hFound := hHeld.eq_of_finds hScalar hExact hApart hTagged hMem hFinds
      rw [hRun, hFound]
      exact congrArg (·, m') (IdempotentWriter.answered_eq_ok.mpr ⟨existing, hDecode, rfl⟩)
    · -- The cell of the row is a text, and so the key is exact.
      rcases (Value.sameCell_iff hScalar hNull).mp hHeld.same with hMatches | ⟨s, _, _, hKey, -⟩
      · rw [hMissed] at hMatches
        cases hMatches
      · have hExact : c.key.isExact := by rw [hKey]; rfl
        have hFound := hHeld.eq_of_finds hScalar hExact hApart hTagged hMem hFinds
        have hMatches := (finds_iff.mp hFinds).2
        rw [hFound, hMissed] at hMatches
        cases hMatches

/-- A request under the key of a stored one is answered with the stored one. -/
theorem requests_held :
    let m : Memory := ⟨[("requests", [requestRow "z" (.string "k")])], 1⟩
    ∃ m', SameRows m m' ∧ (World.still none Jobs.epoch).run
      ((requests.writer false).save (requests.record false)) m =
        (.ok (.existing (requestRow "z" (.string "k")).toJson), m') := by
  intro m
  have hMem : ∀ row, row ∈ m.rows "requests" ↔ row = requestRow "z" (.string "k") :=
    fun row => List.mem_singleton
  have hHeld : requests.Held m (requestRow "z" (.string "k")) :=
    ⟨(hMem _).mpr rfl, rfl, by decide +kernel⟩
  have hTagged : Tagged requests.table (m.rows "requests") := by
    intro row hRow
    rw [(hMem row).mp hRow]
    exact ⟨Jobs.tenant, rfl⟩
  have hDecode : (requests.writer false).store.decodeRow (requestRow "z" (.string "k")) =
      .ok (requestRow "z" (.string "k")).toJson := rfl
  obtain ⟨-, m', hSame, hExisting, -⟩ := save_of_held requests false Jobs.epoch m
    (requestRow "z" (.string "k")) rfl (List.pairwise_singleton _ _) hTagged hHeld hDecode
  exact ⟨m', hSame, hExisting (by decide +kernel) rfl⟩

/-- A request whose key is another text of the same point in time counts as a repetition of the
stored one, and it fails. -/
theorem requests_respelled :
    let stored : Json := .string "1970-01-01T00:00:00Z"
    let key : Json := .string "1970-01-01T00:00:00.000Z"
    Json.sameCell key stored ∧ (Value.ofJson key).matchesCell stored = false ∧
      ((World.still none Jobs.epoch).run
        ((requests.writer false).save (requestRow "b" key).toJson)
          ⟨[("requests", [requestRow "a" stored])], 1⟩).1 =
        .error (.error (.conflict (.duplicateKey "requests" ["tenant_id", "key"]))) :=
  ⟨by decide +kernel, by decide +kernel, rfl⟩

end SharedKey

end Tenancy
