import Tenancy.Proofs.Sql.Transaction

/-!
# Batches come back in order

The result of a batch that is written. The rows of each group come back with the places of its
members, and no place is in two groups (`nodup_places`), so a look-up by place finds the row of the
document at the position that the row of the batch has in its group (`inOrder_of_allStored`).
-/

namespace Tenancy.Sql.Exchange

variable {groups : List Group} {replies : List (Except Fault (List Json))}
  {written : List (Nat × Row)}

/-! ## Rows by their places -/

theorem Stored.places {g : Group} {reply : Except Fault (List Json)} {part : List (Nat × Row)}
    (h : Stored g reply part) : part.map (·.1) = g.members.map (·.1) := by
  obtain ⟨documents, rows, -, hLength, hRows, rfl⟩ := h
  have hCount := (Except.mapM_eq_ok.1 hRows).length_eq
  exact List.map_fst_zip (by simp [← hCount, hLength])

theorem AllStored.places (h : AllStored groups replies written) :
    written.map (·.1) = groups.flatMap fun g => g.members.map (·.1) := by
  induction h with
  | nil => rfl
  | cons hStored _ ih => rw [List.map_append, hStored.places, ih, List.flatMap_cons]

/-- The document at the position of a member comes back as a row with the place of the member. -/
theorem AllStored.exists_document (h : AllStored groups replies written) {j p place : Nat}
    {g : Group} {row : Row} (hg : groups[j]? = some g)
    (hMember : g.members[p]? = some (place, row)) :
    ∃ documents fields, replies[j]? = some (.ok documents) ∧
      documents[p]? = some (.object fields) ∧ (place, Row.ofEntries fields) ∈ written := by
  induction h generalizing j with
  | nil => cases hg
  | @cons h groups reply replies part written hStored _ ih =>
    cases j with
    | zero =>
      obtain rfl := Option.some.inj hg
      obtain ⟨documents, rows, rfl, hLength, hRows, rfl⟩ := hStored
      have hAll := Except.mapM_eq_ok.1 hRows
      obtain ⟨hp, hAt⟩ := List.getElem?_eq_some_iff.1 hMember
      have hDocument : p < documents.length := by omega
      have hRow : p < rows.length := hAll.length_eq ▸ hDocument
      obtain ⟨fields, hFields, hEntries⟩ := rowOf_eq_ok.1 (hAll.get hDocument hRow)
      refine ⟨documents, fields, rfl, List.getElem?_eq_some_iff.2 ⟨hDocument, hFields⟩,
        List.mem_append_left _ (List.mem_of_getElem? (i := p) ?_)⟩
      rw [List.getElem?_zip_eq_some, List.getElem?_map, hMember]
      exact ⟨rfl, List.getElem?_eq_some_iff.2 ⟨hRow, hEntries⟩⟩
    | succ j =>
      obtain ⟨documents, fields, hReply, hDocument, hMem⟩ := ih hg
      exact ⟨documents, fields, hReply, hDocument, List.mem_append_right _ hMem⟩

theorem lookup_of_mem {entries : List (Nat × Row)} (hNodup : (entries.map (·.1)).Nodup)
    {place : Nat} {row : Row} (h : (place, row) ∈ entries) :
    entries.lookup place = some row := by
  induction entries with
  | nil => cases h
  | cons e entries ih =>
    obtain ⟨k, r⟩ := e
    obtain ⟨hNot, hNodup⟩ := List.nodup_cons.1 hNodup
    rcases List.mem_cons.1 h with hSame | hRest
    · cases hSame
      simp
    · have hNe : place ≠ k := by
        rintro rfl
        exact hNot (List.mem_map.2 ⟨_, hRest, rfl⟩)
      simp [List.lookup_cons, beq_false_of_ne hNe, ih hNodup hRest]

/-- All places have a row, so their rows are as many as they. -/
theorem filterMap_lookup {n : Nat} (hKeys : ∀ place < n, ∃ row, (place, row) ∈ written)
    (hNodup : (written.map (·.1)).Nodup) :
    ((List.range n).filterMap fun place => written.lookup place).length = n ∧
      ∀ place row, place < n → (place, row) ∈ written →
        ((List.range n).filterMap fun place => written.lookup place)[place]? = some row := by
  have hRows : (List.range n).filterMap (fun place => written.lookup place) =
      (List.range n).map fun place => (written.lookup place).getD .empty := by
    rw [← List.filterMap_eq_map]
    refine List.filterMap_congr fun place hPlace => ?_
    obtain ⟨row, hRow⟩ := hKeys place (List.mem_range.1 hPlace)
    simp [lookup_of_mem hNodup hRow]
  rw [hRows]
  refine ⟨by simp, fun place row hPlace hRow => ?_⟩
  simp [hPlace, lookup_of_mem hNodup hRow]

/-- The rows that come back for the groups of a batch, in the order of the batch. -/
theorem inOrder_of_allStored {rows : List Row} (h : AllStored (groupsOf rows) replies written) :
    let out := (List.range rows.length).filterMap fun place => written.lookup place
    out.length = rows.length ∧
      ∀ place row, rows[place]? = some row →
        (∃ g ∈ groupsOf rows, (place, row) ∈ g.members) ∧
        ∀ (j : Nat) (g : Group) (p : Nat), (groupsOf rows)[j]? = some g →
          g.members[p]? = some (place, row) →
            ∃ documents fields, replies[j]? = some (.ok documents) ∧
              documents[p]? = some (.object fields) ∧
              out[place]? = some (Row.ofEntries fields) := by
  have hNodup : (written.map (·.1)).Nodup := by
    rw [h.places]
    exact nodup_places rows
  have hKeys : ∀ place < rows.length, ∃ row, (place, row) ∈ written := by
    intro place hPlace
    obtain ⟨g, hg, hMember⟩ := exists_member (List.getElem?_eq_getElem hPlace)
    obtain ⟨j, hj⟩ := List.mem_iff_getElem?.1 hg
    obtain ⟨p, hp⟩ := List.mem_iff_getElem?.1 hMember
    obtain ⟨_, fields, -, -, hMem⟩ := h.exists_document hj hp
    exact ⟨_, hMem⟩
  obtain ⟨hLength, hAt⟩ := filterMap_lookup hKeys hNodup
  refine ⟨hLength, fun place row hRow => ⟨exists_member hRow, fun j g p hg hMember => ?_⟩⟩
  obtain ⟨documents, fields, hReply, hDocument, hMem⟩ := h.exists_document hg hMember
  exact ⟨documents, fields, hReply, hDocument,
    hAt place _ (List.getElem?_eq_some_iff.1 hRow).1 hMem⟩

/-! ## The transcript of a batch -/

/-- The answers to the statements that answer with documents. -/
def fetched (said : List Entry) : List (Except Fault (List Json)) :=
  said.filterMap fun
    | ⟨.fetch _, reply⟩ => some reply
    | _ => none

/-- The message that writes a group. -/
def insertion (table : Table) (upsert : Bool) (g : Group) : Message :=
  .fetch (insert table g.columns (g.members.map (·.2)) upsert)

theorem fetched_insertedAll {table : Table} {upsert : Bool}
    (h : groups.length = replies.length) (rest : List Entry) :
    fetched (insertedAll table upsert groups replies ++ rest) = replies ++ fetched rest := by
  induction groups generalizing replies with
  | nil =>
    obtain rfl := List.length_eq_zero_iff.1 h.symm
    rfl
  | cons g groups ih =>
    cases replies with
    | nil => cases h
    | cons reply replies => exact congrArg (reply :: ·) (ih (Nat.succ.inj h))

theorem messages_insertedAll {table : Table} {upsert : Bool}
    (h : groups.length = replies.length) :
    (insertedAll table upsert groups replies).map (·.1) = groups.map (insertion table upsert) := by
  induction groups generalizing replies with
  | nil => rfl
  | cons g groups ih =>
    cases replies with
    | nil => cases h
    | cons reply replies => exact congrArg (_ :: ·) (ih (Nat.succ.inj h))

theorem committed_not_mem_insertedAll {table : Table} {upsert : Bool}
    (reply : Except Fault Unit) : committed reply ∉ insertedAll table upsert groups replies := by
  induction groups generalizing replies with
  | nil => simp [insertedAll]
  | cons g groups ih =>
    cases replies with
    | nil => simp [insertedAll]
    | cons r replies =>
      rw [insertedAll, List.zipWith_cons_cons, List.mem_cons, not_or]
      exact ⟨fun h => (nomatch congrArg Sigma.fst h), ih⟩

namespace Course

variable {table : Table} {upsert : Bool} {said : List Entry}
  {result : Except StoreError (List (Nat × Row))}

theorem fetched_stopped {before : List Group} (g : Group) (reply : Except Fault (List Json))
    (h : List.Forall₂ Accepted before replies) :
    fetched (begun (.ok ()) :: insertedAll table upsert before replies ++
      [inserted table upsert g reply, rolledBack]) = replies ++ [reply] :=
  fetched_insertedAll h.length_eq _

theorem fetched_whole (h : List.Forall₂ Accepted groups replies) {ending : List Entry}
    (hEnding : fetched ending = []) :
    fetched (begun (.ok ()) :: insertedAll table upsert groups replies ++ ending) = replies := by
  have hAll : fetched (begun (.ok ()) :: insertedAll table upsert groups replies ++ ending) =
      replies ++ fetched ending := fetched_insertedAll h.length_eq ending
  rw [hAll, hEnding, List.append_nil]

/-- The groups up to the one whose answer is not accepted. -/
theorem take_sent {before after : List Group} {g : Group} (hSplit : groups = before ++ g :: after)
    (hBefore : List.Forall₂ Accepted before replies) :
    groups.take (replies.length + 1) = before ++ [g] := by
  have hGroups : groups = before ++ [g] ++ after := by simp [hSplit]
  rw [hGroups]
  exact List.take_left' (by simp [hBefore.length_eq])

theorem not_accepted_last {before : List Group} {g : Group} {reply : Except Fault (List Json)}
    (hBefore : List.Forall₂ Accepted before replies) (hNot : ¬Accepted g reply) :
    ¬List.Forall₂ Accepted (before ++ [g]) (replies ++ [reply]) := fun hAll => by
  have hLast := List.forall₂_drop replies.length hAll
  rw [List.drop_left' hBefore.length_eq, List.drop_left] at hLast
  exact hNot (List.forall₂_cons.1 hLast).1

/-- The groups that are sent are the first ones, between the bounds of the transaction. -/
theorem messages (h : Course table upsert groups said result) :
    ∃ ending ∈ [[], [Message.rollback], [.commit], [.commit, .rollback]],
      said.map (·.1) = .beginTransaction ::
        (groups.take (fetched said).length).map (insertion table upsert) ++ ending := by
  have hWhole : ∀ {replies : List (Except Fault (List Json))},
      List.Forall₂ Accepted groups replies →
        groups.take replies.length = groups := fun hAll => by
    rw [← hAll.length_eq, List.take_length]
  cases h with
  | refused f => exact ⟨[], by simp, rfl⟩
  | @stopped before after g replies reply e hSplit hBefore hNot =>
    refine ⟨[.rollback], by simp, ?_⟩
    rw [fetched_stopped g reply hBefore, List.length_append, List.length_singleton,
      take_sent hSplit hBefore]
    simp only [List.map_append, List.map_cons, messages_insertedAll hBefore.length_eq]
    simp [begun, inserted, insertion, rolledBack]
  | @unsettled replies f hAll =>
    refine ⟨[.commit, .rollback], by simp, ?_⟩
    rw [fetched_whole hAll rfl, hWhole hAll, List.map_append, List.map_cons,
      messages_insertedAll hAll.length_eq]
    rfl
  | @settled replies written hAll =>
    refine ⟨[.commit], by simp, ?_⟩
    rw [fetched_whole hAll.accepted rfl, hWhole hAll.accepted, List.map_append, List.map_cons,
      messages_insertedAll hAll.accepted.length_eq]
    rfl

/-- All answers but the last are accepted, and if groups are left the last one is not. -/
theorem stops (h : Course table upsert groups said result) :
    List.Forall₂ Accepted (groups.take ((fetched said).length - 1)) (fetched said).dropLast ∧
      ((fetched said).length < groups.length → (∃ f, begun (.error f) ∈ said) ∨
        ¬List.Forall₂ Accepted (groups.take (fetched said).length) (fetched said)) := by
  have hWhole : ∀ {replies : List (Except Fault (List Json))},
      List.Forall₂ Accepted groups replies →
        List.Forall₂ Accepted (groups.take (replies.length - 1)) replies.dropLast := fun hAll => by
    rw [List.dropLast_eq_take]
    exact List.forall₂_take _ hAll
  cases h with
  | refused f => exact ⟨.nil, fun _ => Or.inl ⟨f, List.mem_singleton_self _⟩⟩
  | @stopped before after g replies reply e hSplit hBefore hNot =>
    rw [fetched_stopped g reply hBefore, List.length_append, List.length_singleton,
      List.dropLast_concat, take_sent hSplit hBefore, Nat.add_sub_cancel, hSplit,
      List.take_left' hBefore.length_eq]
    exact ⟨hBefore, fun _ => Or.inr (not_accepted_last hBefore hNot)⟩
  | @unsettled replies f hAll =>
    rw [fetched_whole hAll rfl]
    exact ⟨hWhole hAll, fun hLess => absurd hAll.length_eq (by omega)⟩
  | @settled replies written hAll =>
    rw [fetched_whole hAll.accepted rfl]
    exact ⟨hWhole hAll.accepted, fun hLess => absurd hAll.accepted.length_eq (by omega)⟩

theorem committed_mem_iff {before : List Group} {reply : Except Fault Unit} (ending : List Entry) :
    committed reply ∈ begun (.ok ()) :: insertedAll table upsert before replies ++ ending ↔
      committed reply ∈ ending := by
  have hBegun : committed reply ≠ begun (.ok ()) := fun h => (nomatch congrArg Sigma.fst h)
  simp [hBegun, committed_not_mem_insertedAll]

/-- A commit is sent if and only if the answers for all groups are accepted. -/
theorem committed_iff (h : Course table upsert groups said result) (hGroups : groups ≠ []) :
    (∃ reply, committed reply ∈ said) ↔ List.Forall₂ Accepted groups (fetched said) := by
  cases h with
  | refused f =>
    constructor
    · rintro ⟨reply, hMem⟩
      exact (nomatch congrArg Sigma.fst (List.mem_singleton.1 hMem))
    · exact fun hAll => absurd (List.forall₂_nil_right_iff.1 hAll) hGroups
  | @stopped before after g replies reply e hSplit hBefore hNot =>
    rw [fetched_stopped g reply hBefore]
    constructor
    · rintro ⟨reply', hMem⟩
      rw [committed_mem_iff, List.mem_pair] at hMem
      rcases hMem with hMem | hMem <;> exact (nomatch congrArg Sigma.fst hMem)
    · intro hAll
      have hSent := List.forall₂_take (replies.length + 1) hAll
      rw [take_sent hSplit hBefore, List.take_of_length_le (by simp)] at hSent
      exact absurd hSent (not_accepted_last hBefore hNot)
  | @unsettled replies f hAll =>
    rw [fetched_whole hAll rfl]
    exact ⟨fun _ => hAll, fun _ => ⟨.error f, (committed_mem_iff _).2 (by simp)⟩⟩
  | @settled replies written hAll =>
    rw [fetched_whole hAll.accepted rfl]
    exact ⟨fun _ => hAll.accepted, fun _ => ⟨.ok (), (committed_mem_iff _).2 (by simp)⟩⟩

/-- A result comes after the acknowledgement of the commit. -/
theorem committed_of_ok (h : Course table upsert groups said (.ok written)) :
    committed (.ok ()) ∈ said ∧ AllStored groups (fetched said) written := by
  cases h with
  | @settled replies _ hAll =>
    rw [fetched_whole hAll.accepted rfl]
    exact ⟨(committed_mem_iff _).2 (by simp), hAll⟩

/-- A failure after the commit is that of the commit. -/
theorem error_of_committed {e : StoreError} (h : Course table upsert groups said (.error e))
    (hGroups : groups ≠ []) {reply : Except Fault Unit} (hReply : committed reply ∈ said) :
    ∃ f, reply = .error f ∧ e = f.toStoreError "commit" := by
  have hAll := (h.committed_iff hGroups).1 ⟨reply, hReply⟩
  cases h with
  | refused f => exact absurd (List.forall₂_nil_right_iff.1 hAll) hGroups
  | @stopped before after g replies reply' e hSplit hBefore hNot =>
    rw [committed_mem_iff, List.mem_pair] at hReply
    rcases hReply with hMem | hMem <;> exact (nomatch congrArg Sigma.fst hMem)
  | @unsettled replies f _ =>
    rw [committed_mem_iff, List.mem_pair] at hReply
    rcases hReply with hMem | hMem
    · exact ⟨f, eq_of_heq (Sigma.mk.inj hMem).2, rfl⟩
    · exact (nomatch congrArg Sigma.fst hMem)

end Course

/-- What is said while a batch is written, and how it ends. -/
theorem talk_write {σ : Type} (server : (m : Message) → σ → m.Reply × σ) (operation : String)
    (table : Table) (upsert : Bool) {rows : List Row} (hRows : rows ≠ []) (s : σ) :
    ∃ result, Course table upsert (groupsOf rows)
        (talk server (write operation table upsert rows) s).1 result ∧
      (talk server (write operation table upsert rows) s).2.1 =
        result.map fun written =>
          (List.range rows.length).filterMap fun place => written.lookup place := by
  have hCourse := course_writeGroups server operation table upsert (groupsOf rows) s
  obtain ⟨said, result, s', hTalk⟩ : ∃ said result s',
      talk server (transaction (writeGroups operation table upsert (groupsOf rows))) s =
        (said, result, s') := ⟨_, _, _, rfl⟩
  rw [hTalk] at hCourse
  have hEmpty : rows.isEmpty = false := by simpa using hRows
  refine ⟨result, ?_⟩
  cases result with
  | ok written =>
    have hWrite : talk server (write operation table upsert rows) s =
        (said ++ [], .ok ((List.range rows.length).filterMap fun place => written.lookup place),
          s') := by
      rw [write, hEmpty]
      exact talk_bind_ok hTalk
    rw [hWrite, List.append_nil]
    exact ⟨hCourse, rfl⟩
  | error e =>
    have hWrite : talk server (write operation table upsert rows) s = (said, .error e, s') := by
      rw [write, hEmpty]
      exact talk_bind_error hTalk
    rw [hWrite]
    exact ⟨hCourse, rfl⟩

/-- **A batch is written as a whole, group by group, and comes back in order.** For every server:
1. The groups are the sets of columns of the rows, in the order in which they first occur, and a
group has the rows with its columns, in the order of the batch.
2. What is sent is the start of a transaction, one statement for each of the first groups, and a
commit or a rollback or neither.
3. All statements but the last are answered by one object for each of their rows; if some group is
not sent, then the transaction did not start or the last answer was something else.
4. A commit is sent if and only if all groups were, and each answered by one object for each row.
5. A result means that the commit was acknowledged.
6. A failure after a commit was sent is the failure of that commit.
7. A result has as many rows as the batch, and the row at a place is the document at the position
of the row of that place in its group. -/
theorem write_batch {σ : Type} (server : (m : Message) → σ → m.Reply × σ) (operation : String)
    (table : Table) (upsert : Bool) {rows : List Row} (hRows : rows ≠ []) (s : σ) :
    let groups := groupsOf rows
    let said := (talk server (write operation table upsert rows) s).1
    let result := (talk server (write operation table upsert rows) s).2.1
    let replies := fetched said
    (groups.map Group.columns = (rows.map Row.names).eraseDups ∧
      ∀ g ∈ groups, g.members =
        (rows.zipIdx.filter fun e => e.1.names = g.columns).map fun e => (e.2, e.1)) ∧
    (∃ ending ∈ [[], [Message.rollback], [.commit], [.commit, .rollback]],
      said.map (·.1) = .beginTransaction ::
        (groups.take replies.length).map (insertion table upsert) ++ ending) ∧
    (List.Forall₂ Accepted (groups.take (replies.length - 1)) replies.dropLast ∧
      (replies.length < groups.length → (∃ f, begun (.error f) ∈ said) ∨
        ¬List.Forall₂ Accepted (groups.take replies.length) replies)) ∧
    ((∃ reply, committed reply ∈ said) ↔ List.Forall₂ Accepted groups replies) ∧
    (∀ out, result = .ok out → committed (.ok ()) ∈ said) ∧
    (∀ e, result = .error e → ∀ reply, committed reply ∈ said →
      ∃ f, reply = .error f ∧ e = f.toStoreError "commit") ∧
    ∀ out, result = .ok out → out.length = rows.length ∧
      ∀ place row, rows[place]? = some row →
        (∃ g ∈ groups, (place, row) ∈ g.members) ∧
        ∀ (j : Nat) (g : Group) (p : Nat), groups[j]? = some g → g.members[p]? = some (place, row) →
          ∃ documents fields, replies[j]? = some (.ok documents) ∧
            documents[p]? = some (.object fields) ∧ out[place]? = some (Row.ofEntries fields) := by
  intro groups said result replies
  obtain ⟨written?, hCourse, hResult⟩ := talk_write server operation table upsert hRows s
  have hGroups : groupsOf rows ≠ [] := by
    obtain ⟨row, rest, rfl⟩ := List.exists_cons_of_ne_nil hRows
    have hFirst : (row :: rest)[0]? = some row := rfl
    obtain ⟨g, hg, -⟩ := exists_member hFirst
    exact List.ne_nil_of_mem hg
  refine ⟨⟨columns_groupsOf rows, fun g hg => members_eq hg⟩, hCourse.messages, hCourse.stops,
    hCourse.committed_iff hGroups, ?_, ?_, ?_⟩
  · intro out hOut
    cases written? with
    | ok written => exact hCourse.committed_of_ok.1
    | error e => cases hOut.symm.trans hResult
  · intro e hError reply hReply
    cases written? with
    | ok written => cases hError.symm.trans hResult
    | error e' =>
      cases hError.symm.trans hResult
      exact hCourse.error_of_committed hGroups hReply
  · intro out hOut
    cases written? with
    | error e => cases hOut.symm.trans hResult
    | ok written =>
      cases hOut.symm.trans hResult
      exact inOrder_of_allStored hCourse.committed_of_ok.2

/-- A server that carries out everything and answers with the documents that it is given. -/
def echo : (m : Message) → Unit → m.Reply × Unit
  | .beginTransaction, _ | .commit, _ => (.ok (), ())
  | .rollback, _ => ((), ())
  | .fetch statement, _ =>
    (.ok ((statement.findSome? fun
      | .bound (.json (.array documents)) => some documents
      | _ => none).getD []), ())
  | .fetchNumber _, _ => (.ok 0, ())
  | .execute _, _ => (.ok 0, ())

/-- Three rows, of which the first and the last have the same columns, come back in their order. -/
theorem write_echo :
    let table : Table := ⟨"jobs", "id", "tenant_id", none, []⟩
    let rows : List Row := [.ofEntries [("id", .string "a"), ("note", .null)],
      .ofEntries [("id", .string "b")], .ofEntries [("id", .string "c"), ("note", .null)]]
    rows ≠ [] ∧
      (groupsOf rows).map Group.columns = [["id", "note"], ["id"]] ∧
      committed (.ok ()) ∈ (talk echo (write "insert" table false rows) ()).1 ∧
      (talk echo (write "insert" table false rows) ()).2.1 = .ok rows := by
  intro table rows
  have hRows : rows ≠ [] := List.cons_ne_nil _ _
  have hResult : (talk echo (write "insert" table false rows) ()).2.1 = .ok rows := rfl
  obtain ⟨⟨hColumns, -⟩, -, -, -, hCommitted, -, -⟩ :=
    write_batch echo "insert" table false hRows ()
  exact ⟨hRows, hColumns.trans (by decide), hCommitted rows hResult, hResult⟩

end Tenancy.Sql.Exchange
