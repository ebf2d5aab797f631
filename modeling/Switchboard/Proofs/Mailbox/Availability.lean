import Switchboard.Proofs.Mailbox.Effect
import Switchboard.Proofs.Reading

namespace Switchboard

namespace Mailbox

open Operation

variable {context : Context} {run : Run} {ledger : Ledger} {name : String}

theorem send_succeeds (target body : String) (sender : Option String) (hs : ledger.Sound)
    (h : run.store.tables.Holds ledger) (hrun : run.Undisturbed run.store)
    (hown : run.store.tables.Own) (hleft : ledger.last < Sequence.maxId) :
    ∃ left, perform (send target body sender) context run = (.ok (ledger.last + 1), left) := by
  have hserves := hrun.serves h hown
  obtain ⟨store, hinsert⟩ : ∃ store, perform (do
      let id ← mintId
      let message := Message.unclaimed id (← read).now sender target body
      statement .sendMessage (Statement.insert message)
      pure id) context run.connected = (.ok (ledger.last + 1), { run.connected with store }) :=
    perform_insertNext hs hserves (fun _ _ => rfl) hleft
  unfold send
  rw [perform_bind_eq (perform_connect hrun hown), perform_bind_eq (hserves.transaction hinsert)]
  exact ⟨_, rfl⟩

theorem run_claim {store : Store} (name : String) (p : Entry Message → Bool) (now : Timestamp)
    (havailable : store.Available) (hhas : store.tables.has .messages) (hown : store.tables.Own) :
    ∃ count after, (Statement.update p claimColumns (Message.claimFor name now)).run store =
      .ok (count, after) :=
  Statement.run_update havailable hhas hown

theorem Legible.connected (h : Legible name (run.store.tables.rows Message)) :
    Legible name (run.connected.store.tables.rows Message) := by
  have hrows := run.store.tables.completed_sameContent.messages
  exact hrows.symm ▸ h

theorem legible_of_holds {tables : Tables} (h : tables.Holds ledger) (name : String) :
    Legible name (tables.rows Message) := by
  rw [h.messages]
  intro e he
  obtain ⟨m, -, rfl⟩ := List.mem_map.1 (List.mem_filter.1 he).1
  exact ⟨_, Entry.read_of_stray_eq_nil _ _ rfl⟩

theorem claimOldest_succeeds (hrun : run.Undisturbed run.store)
    (hhas : run.store.tables.has .messages) (hown : run.store.tables.Own)
    (h : Legible name (run.store.tables.rows Message)) :
    ∃ claim store, perform (claimOldest name) context run = (.ok claim, { run with store }) := by
  obtain ⟨entries, hread⟩ : ∃ entries, ((waiting name (run.store.tables.rows Message)).take 1).mapM
      (Entry.read Message.columns) = (.ok entries : Except EngineError _) :=
    exists_mapM_eq_ok fun e he => h e (List.mem_of_mem_take he)
  have hselect : (Statement.select Message fun rows => (waiting name rows).take 1).run run.store =
      .ok (entries, run.store) :=
    Statement.run_select hhas hown hread
  unfold claimOldest
  rw [perform_bind_eq (perform_statement hrun.faults hselect)]
  cases entries with
  | nil => exact ⟨_, run.store, rfl⟩
  | cons oldest _ =>
    obtain ⟨count, store, hupdate⟩ := run_claim name
      (fun e => e.record.id == oldest.record.id && e.isUnclaimed) context.now hrun.available hhas hown
    change ∃ attempt store, perform (read >>= _) context run = _
    rw [perform_bind_eq (perform_read _ _),
      perform_bind_eq (perform_statement hrun.faults hupdate)]
    split
    · exact ⟨_, store, rfl⟩
    · exact ⟨_, store, rfl⟩

/-- Receiving changes nothing of a run that is connected but the store and the notices. -/
theorem tryReceive_succeeds (hrun : run.Undisturbed run.store) (hown : run.store.tables.Own)
    (h : Legible name (run.store.tables.rows Message)) :
    ∃ message store notices, perform (tryReceive name) context run =
      (.ok message, { run.connected with store, notices }) := by
  obtain ⟨claim, store, hclaim⟩ : ∃ claim store, perform (claimOldest name) context run.connected =
      (.ok claim, { run.connected with store }) :=
    claimOldest_succeeds hrun.connected (run.store.tables.has_completed _) (hown.foldl_ensure _)
      h.connected
  have htransaction : perform (transaction (claimOldest name)) context run.connected = (.ok _, _) :=
    perform_transaction hrun.connected.faults hrun.connected.available.unlocked hclaim
      hrun.connected.faults
  unfold tryReceive
  rw [perform_bind_eq (perform_connect hrun hown)]
  change ∃ message store notices, perform (transaction (claimOldest name) >>= _) context
    run.connected = _
  rw [perform_bind_eq htransaction]
  obtain ⟨rfl, -, -⟩ | ⟨m, -, rfl, -, -⟩ := claimOldest_cases hclaim
  · exact ⟨none, store, run.notices, rfl⟩
  · exact ⟨some m, store, .messageClaimed m.id name :: run.notices, rfl⟩

theorem claimAll_succeeds (hrun : run.Undisturbed run.store)
    (hhas : run.store.tables.has .messages) (hown : run.store.tables.Own)
    (h : Legible name (run.store.tables.rows Message)) :
    ∃ messages store, perform (claimAll name) context run = (.ok messages, { run with store }) := by
  obtain ⟨entries, hread⟩ := exists_mapM_eq_ok h
  have hselect : (Statement.select Message (waiting name)).run run.store = .ok (entries, run.store) :=
    Statement.run_select hhas hown hread
  unfold claimAll
  rw [perform_bind_eq (perform_statement hrun.faults hselect)]
  cases entries.getLast? with
  | none => exact ⟨_, run.store, rfl⟩
  | some newest =>
    obtain ⟨count, store, hupdate⟩ := run_claim name
      (fun e => e.waitsFor name && e.record.id ≤ newest.record.id) context.now hrun.available hhas hown
    change ∃ messages store, perform (read >>= _) context run = _
    rw [perform_bind_eq (perform_read _ _),
      perform_bind_eq (perform_statement hrun.faults hupdate)]
    split
    · exact ⟨_, store, rfl⟩
    · exact ⟨_, store, rfl⟩

theorem drain_succeeds (hrun : run.Undisturbed run.store) (hown : run.store.tables.Own)
    (h : Legible name (run.store.tables.rows Message)) :
    ∃ messages left, perform (drain name) context run = (.ok messages, left) := by
  obtain ⟨answer, store, hclaim⟩ : ∃ answer store, perform (claimAll name) context run.connected =
      (.ok answer, { run.connected with store }) :=
    claimAll_succeeds hrun.connected (run.store.tables.has_completed _) (hown.foldl_ensure _)
      h.connected
  obtain ⟨messages, -, rfl, -⟩ := claimAll_cases hclaim
  have htransaction : perform (transactionIf Option.isSome (claimAll name)) context run.connected =
      (.ok _, _) :=
    perform_transactionIf hrun.connected.faults hrun.connected.available.unlocked hclaim
      hrun.connected.faults rfl
  unfold drain
  rw [perform_bind_eq (perform_connect hrun hown)]
  change ∃ messages left, perform (transactionIf Option.isSome (claimAll name) >>= _) context
    run.connected = _
  rw [perform_bind_eq htransaction]
  exact ⟨_, _, rfl⟩

end Mailbox

theorem Call.tells_check (ledger : Ledger) (name : String) :
    (check name).Tells ledger (.count (ledger.waiting name).length) := by
  refine .intro rfl (Statement.reads_rows _) ?_
  intro context run
  rw [← Mailbox.countP_plain]
  rfl

namespace Attempt

variable {attempt : Attempt} {store : Store} {ledger : Ledger} {name target body : String}
  {sender : Option String}

theorem send_succeeds (hs : ledger.Sound) (h : store.tables.Holds ledger)
    (hcall : attempt.call = .send target body sender) (hrun : attempt.run.Undisturbed store)
    (hown : store.tables.Own) (hleft : ledger.last < Sequence.maxId) :
    attempt.answer store = .ok (.id (ledger.last + 1)) := by
  obtain ⟨left, hsend⟩ :=
    Mailbox.send_succeeds target body sender hs h hrun.found hown hleft
  exact (answer_eq_ok (by rw [hcall]; rfl)).2 ⟨_, left, hsend, rfl⟩

theorem receive_succeeds (h : store.tables.Holds ledger) (hcall : attempt.call = .tryReceive name)
    (hrun : attempt.run.Undisturbed store) (hown : store.tables.Own) :
    ∃ message, attempt.answer store = .ok (.message message) := by
  obtain ⟨message, _, _, hreceive⟩ :=
    Mailbox.tryReceive_succeeds hrun.found hown (Mailbox.legible_of_holds h name)
  exact ⟨message, (answer_eq_ok (by rw [hcall]; rfl)).2 ⟨_, _, hreceive, rfl⟩⟩

theorem drain_succeeds (h : store.tables.Holds ledger) (hcall : attempt.call = .drain name)
    (hrun : attempt.run.Undisturbed store) (hown : store.tables.Own) :
    ∃ messages, attempt.answer store = .ok (.messages messages) := by
  obtain ⟨messages, left, hdrain⟩ :=
    Mailbox.drain_succeeds hrun.found hown (Mailbox.legible_of_holds h name)
  exact ⟨messages, (answer_eq_ok (by rw [hcall]; rfl)).2 ⟨_, left, hdrain, rfl⟩⟩

end Attempt

end Switchboard
