import Switchboard.Proofs.Mailbox.Claim

namespace Switchboard

def Store.withMessages (store : Store) (rows : Rows (Entry Message)) : Store :=
  { store with tables := { store.tables with messages := .holding rows } }

theorem Store.withMessages_self {store : Store} {rows : Rows (Entry Message)}
    (h : store.tables.messages = .holding rows) : store.withMessages rows = store := by
  unfold withMessages
  rw [← h]

namespace Mailbox

open Operation

variable {context : Context} {run left : Run} {name : String} {failure : Failure}
  {store after : Store} {rows entries : List (Entry Message)} {newest : Entry Message}
  {now : Timestamp} {count : Nat}

/-- From some rows to the next all messages that wait are claimed: they are what the rows that wait say,
and these rows are the only ones to change. -/
structure ClaimsAll (name : String) (now : Timestamp) (before : List (Entry Message))
    (messages : List Message) (after : List (Entry Message)) : Prop where
  read : ∃ found, (waiting name before).mapM (Entry.read Message.columns) =
      (.ok found : Except EngineError _) ∧
    messages = found.map fun e => e.record.claimFor name now
  rows : after = before.map fun e =>
    if e.waitsFor name then e.change claimColumns (Message.claimFor name now) else e

def Legible (name : String) (rows : List (Entry Message)) : Prop :=
  ∀ e ∈ waiting name rows, ∃ found, e.read Message.columns = .ok found

theorem ids_of_mapM_read (h : rows.mapM (Entry.read Message.columns) =
    (.ok entries : Except EngineError _)) :
    entries.map (·.record.id) = rows.map (·.record.id) := by
  rw [← List.forall₂_eq_eq_eq, List.forall₂_map_left_iff, List.forall₂_map_right_iff]
  exact (mapM_eq_ok_iff.1 h).flip.imp fun _ _ => id_of_read

theorem le_newest {tables : Tables} {e : Entry Message}
    (hread : (waiting name (tables.rows Message)).mapM (Entry.read Message.columns) =
      (.ok entries : Except EngineError _))
    (hnewest : entries.getLast? = some newest) (he : e ∈ waiting name (tables.rows Message)) :
    e.record.id ≤ newest.record.id := by
  have hids := congrArg List.getLast? (ids_of_mapM_read hread)
  rw [List.getLast?_map, List.getLast?_map, hnewest, Option.map_some] at hids
  obtain ⟨last, hlast, hid⟩ := Option.map_eq_some_iff.1 hids.symm
  rw [← hid]
  exact Row.le_last ((tables.ascending Message).filter _) hlast he

theorem picks_waiting {tables : Tables}
    (hread : (waiting name (tables.rows Message)).mapM (Entry.read Message.columns) =
      (.ok entries : Except EngineError _))
    (hnewest : entries.getLast? = some newest) (e : Entry Message) (he : e ∈ tables.rows Message) :
    (e.waitsFor name && decide (e.record.id ≤ newest.record.id)) = e.waitsFor name := by
  by_cases hwaits : e.waitsFor name
  · simp [hwaits, le_newest hread hnewest (List.mem_filter.2 ⟨he, hwaits⟩)]
  · simp [hwaits]

theorem claimWaiting_ok
    (hread : (waiting name (store.tables.rows Message)).mapM (Entry.read Message.columns) =
      (.ok entries : Except EngineError _))
    (hnewest : entries.getLast? = some newest)
    (hupdate : (Statement.update (fun e => e.waitsFor name && e.record.id ≤ newest.record.id)
      claimColumns (Message.claimFor name now)).run store = .ok (count, after)) :
    count = entries.length ∧ ∃ claimed, after = store.withMessages claimed ∧
      ClaimsAll name now (store.tables.rows Message)
        (entries.map fun e => e.record.claimFor name now) claimed.list := by
  obtain ⟨rows, claimed, htable, rfl, hclaimed, rfl⟩ := Statement.update_ok hupdate
  have hrows := Tables.rows_of_holding htable
  have hpicks := picks_waiting hread hnewest
  have hlength : entries.length = (waiting name rows.list).length := by
    have hids := congrArg List.length (ids_of_mapM_read hread)
    rw [List.length_map, List.length_map, hrows] at hids
    exact hids
  rw [hrows] at hpicks
  refine ⟨?_, claimed, rfl, ⟨entries, hread, rfl⟩, ?_⟩
  · rw [hlength, waiting, ← List.countP_eq_length_filter]
    exact List.countP_congr fun e he => by rw [hpicks e he]
  · rw [hclaimed, hrows]
    apply List.map_congr_left
    intro e he
    rw [hpicks e he]

theorem holding_of_select {choose : List (Entry Message) → List (Entry Message)}
    (h : (Statement.select Message choose).run store = .ok (entries, after)) :
    ∃ rows, store.tables.messages = .holding rows := by
  obtain ⟨_, middle, hrows, -⟩ := Statement.run_bind_ok.1 h
  obtain ⟨rows, _, htable, -⟩ := Statement.run_bind_ok.1 hrows
  exact ⟨rows, (Statement.tableOf_ok htable).1⟩

theorem claimAll_cases {answer : Option (List Message)}
    (h : perform (claimAll name) context run = (.ok answer, left)) :
    ∃ messages claimed, answer = some messages ∧ left.store = run.store.withMessages claimed ∧
      ClaimsAll name context.now (run.store.tables.rows Message) messages claimed.list := by
  obtain ⟨entries, selected, hselect, h₁⟩ := perform_bind_ok.1 h
  obtain ⟨store, hstore, rfl⟩ := perform_statement_ok hselect
  obtain ⟨rows, htable⟩ := holding_of_select hstore
  obtain ⟨hread, rfl⟩ := Statement.select_ok hstore
  cases hnewest : entries.getLast? with
  | none =>
    rw [hnewest] at h₁
    cases h₁
    obtain rfl := List.getLast?_eq_none_iff.1 hnewest
    have hnone : waiting name (run.store.tables.rows Message) = [] := by
      simpa using (ids_of_mapM_read hread).symm
    have hrows : run.store.tables.rows Message = rows.list := Tables.rows_of_holding htable
    have hnobody : ∀ e ∈ run.store.tables.rows Message, e.waitsFor name = false :=
      fun e he => by simpa using List.filter_eq_nil_iff.1 hnone e he
    refine ⟨[], rows, rfl, (Store.withMessages_self htable).symm, ⟨[], hread, rfl⟩, ?_⟩
    rw [map_of_none hnobody, hrows]
  | some newest =>
    rw [hnewest] at h₁
    obtain ⟨_, _, hnow, h₂⟩ := perform_bind_ok.1 h₁
    cases hnow
    obtain ⟨count, updated, hupdate, h₃⟩ := perform_bind_ok.1 h₂
    obtain ⟨store, hstore, rfl⟩ := perform_statement_ok hupdate
    obtain ⟨hcount, claimed, rfl, hclaims⟩ := claimWaiting_ok hread hnewest hstore
    rw [if_pos hcount] at h₃
    cases h₃
    exact ⟨_, claimed, rfl, rfl, hclaims⟩

theorem drainTransaction_cases {answer : Option (List Message)}
    (h : perform (transactionIf Option.isSome (claimAll name)) context run = (.ok answer, left)) :
    ∃ messages claimed, answer = some messages ∧ left.store = run.store.withMessages claimed ∧
      ClaimsAll name context.now (run.store.tables.rows Message) messages claimed.list := by
  obtain ⟨started, done, hstarted, hbody, hleft⟩ := perform_transactionIf_ok h
  obtain ⟨messages, claimed, rfl, hdone, hclaims⟩ := claimAll_cases hbody
  rw [hstarted] at hdone hclaims
  rw [Option.isSome_some, if_pos rfl, hdone] at hleft
  exact ⟨messages, claimed, rfl, hleft, hclaims⟩

theorem drain_cases {messages : List Message}
    (h : perform (drain name) context run = (.ok messages, left)) :
    ∃ connected claimed, run.store.Settled connected ∧ left.store = connected.withMessages claimed ∧
      ClaimsAll name context.now (run.store.tables.rows Message) messages claimed.list := by
  obtain ⟨_, connected, hconnect, h₁⟩ := perform_bind_ok.1 h
  have hsettled := settles_connect.settled hconnect
  obtain ⟨_, _, hpasses, h₂⟩ := perform_bind_ok.1 h₁
  cases hpasses
  obtain ⟨answer, ended, htransaction, h₃⟩ := perform_bind_ok.1 h₂
  obtain ⟨found, claimed, rfl, hended, hclaims⟩ := drainTransaction_cases htransaction
  cases h₃
  rw [hsettled.sameContent.messages] at hclaims
  exact ⟨connected.store, claimed, hsettled, hended, hclaims⟩

theorem drain_error (h : perform (drain name) context run = (.error failure, left)) :
    run.store.Settled left.store := by
  obtain hconnect | ⟨_, connected, hconnect, h₁⟩ := perform_bind_error.1 h
  · exact settles_connect.settled hconnect
  refine (settles_connect.settled hconnect).trans (.inl ?_)
  obtain hpasses | ⟨_, _, hpasses, h₂⟩ := perform_bind_error.1 h₁
  · cases hpasses
  cases hpasses
  obtain htransaction | ⟨answer, ended, htransaction, h₃⟩ := perform_bind_error.1 h₂
  · exact perform_transactionIf_error htransaction
  · obtain ⟨found, -, rfl, -⟩ := drainTransaction_cases htransaction
    cases h₃

end Mailbox

end Switchboard
