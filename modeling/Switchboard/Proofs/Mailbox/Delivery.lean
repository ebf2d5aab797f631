import Switchboard.Proofs.Mailbox.Draining
import Switchboard.Proofs.Polling

namespace Switchboard

open Operation

theorem QueueStep.eq_of_other {queues next : String → List Item} {call : Call} {answer : Answer}
    (h : QueueStep queues call answer next) (hcall : call.usesMailbox = false) : next = queues := by
  cases h with
  | other => rfl
  | _ => cases hcall

theorem Store.has_messages_of_queue {store : Store} {name : String} {item : Item} {rest : List Item}
    (h : store.queue name = item :: rest) : store.tables.has .messages := by
  cases htable : store.tables.messages with
  | holding rows =>
    rw [Tables.has, htable]
    rfl
  | absent | foreign =>
    have hrows : store.tables.rows Message = [] := congrArg Table.toList htable
    rw [queue, hrows] at h
    cases h

section Delivery

variable {base : Store} {earlier : List Attempt} {name : String} {item : Item} {rest : List Item}

/-- Where nothing stands in the way, a message is left at the end of the queue. It takes one id. -/
theorem Store.exists_sent (h : base.tables = {}) {send : Attempt} {target body : String}
    {sender : Option String} (hcall : send.call = .send target body sender)
    (hrun : send.run.Undisturbed (base.after earlier))
    (hleft : (base.after earlier).tables.lastId < Sequence.maxId) :
    ∃ id, send.answer (base.after earlier) = .ok (.id id) ∧
      (send.after (base.after earlier)).queue target =
        (base.after earlier).queue target ++ [⟨id, sender, body⟩] ∧
      (send.after (base.after earlier)).tables.lastId = (base.after earlier).tables.lastId + 1 := by
  obtain ⟨ledger, hs, hholds⟩ := Store.exists_ledger h earlier
  have hanswer : send.answer (base.after earlier) = .ok (.id (ledger.last + 1)) :=
    Attempt.send_succeeds hs hholds hcall hrun (Store.own_after h earlier) (hholds.last ▸ hleft)
  obtain ⟨next, hnext, heffect⟩ := send.effect_of_ok hs hholds hanswer
  have hstep := heffect.queueStep hs
  rw [hcall] at heffect hstep
  rw [hholds.queue_eq, hnext.queue_eq, hholds.last, hnext.last]
  refine ⟨ledger.last + 1, hanswer, ?_, ?_⟩
  · generalize next.queue = queues at hstep
    cases hstep with
    | sent => rw [putQueue_self]
    | other _ hother => cases hother
  · cases heffect with
    | sent => rfl
    | looked _ hlooks => cases hlooks

namespace Receive

theorem exists_watched {patience : Nat} {limit : Option Nat} (start : Nat)
    (h : limit.filter (· ≤ longestLimit) = none → 0 < patience) :
    ∃ polls, watched patience (deadline start limit) = polls + 1 := by
  unfold deadline
  cases hlimit : limit.filter (· ≤ longestLimit) with
  | none => exact Nat.exists_eq_add_one.2 (h hlimit)
  | some t => exact ⟨start + t, rfl⟩

theorem receive_delivers_head (h : base.tables = {}) (context : Context) {run : Run}
    (hrun : run.Undisturbed (base.after earlier))
    (hleft : (base.after earlier).tables.lastId + 2 ≤ Sequence.maxId)
    (hqueue : (base.after earlier).queue name = item :: rest) {patience : Nat}
    {limit : Option Nat} (hwatched : limit.filter (· ≤ longestLimit) = none → 0 < patience) :
    ∃ m : Message, m.item = item ∧
      (perform (receive {} patience name limit) context
        { run with store := base.after earlier }).1 = .ok (.delivered m) := by
  obtain ⟨number, shown, hshown, hfaults, hready, horderly⟩ :=
    exists_recordStatus h earlier name .waiting context hrun (by omega)
  have hturn := statusTurn_perform id hshown
  have hkept : shown.store.queue name = item :: rest := by
    have hstep := Store.queueStep h earlier (statusTurn id name .waiting context run).attempt
    rw [Attempt.answer_of_perform hturn, Attempt.after_of_perform hturn] at hstep
    rw [hstep.eq_of_other rfl, hqueue]
  have hnumber : shown.store.tables.lastId = (base.after earlier).tables.lastId + 1 := by
    obtain ⟨row, hadds, -⟩ := Registry.adds_of_recordStatus hshown
    exact hadds.lastId.trans hadds.id
  obtain ⟨hempty, -⟩ | ⟨m, others, store, notices, hhead, hstore, hreceive⟩ :=
    perform_tryReceive name context shown hfaults hready horderly
  · rw [hkept] at hempty
    cases hempty
  rw [hkept] at hhead
  obtain ⟨hitem, -⟩ := List.cons.inj hhead
  have hwait : perform (wait {} patience name limit) context shown =
      (.ok (.delivered m), { shown with store, notices }) := by
    obtain ⟨polls, hpolls⟩ := exists_watched shown.elapsed hwatched
    rw [wait, perform_bind, perform_get]
    dsimp only
    rw [hpolls]
    exact perform_poll_delivered hreceive
  have hlast : store.tables.lastId = shown.store.tables.lastId := by
    obtain ⟨ledger, -, hholds⟩ := horderly.ledger
    obtain ⟨hnone, -⟩ | ⟨first, others, -, -, hclaimed⟩ := Mailbox.tryReceive_ok hholds hreceive
    · cases hnone
    · exact hclaimed.last.trans hholds.last.symm
  have hothers : ({} : Others).ByCalls := ⟨fun _ _ => ⟨[], rfl⟩, fun _ => ⟨[], rfl⟩⟩
  refine ⟨m, hitem.symm, receive_answers_wait hothers hshown hwait hfaults hstore ?_⟩
  change store.tables.lastId < _
  omega

end Receive

theorem Attempt.drain_single (h : base.tables = {}) {drain : Attempt}
    (hcall : drain.call = .drain name) (hrun : drain.run.Undisturbed (base.after earlier))
    (hqueue : (base.after earlier).queue name = [item]) :
    ∃ m : Message, m.item = item ∧
      drain.answer (base.after earlier) = .ok (.messages [m]) := by
  obtain ⟨ledger, hs, hholds⟩ := Store.exists_ledger h earlier
  obtain ⟨messages, hanswer⟩ :=
    Attempt.drain_succeeds hholds hcall hrun (Store.own_after h earlier)
  obtain ⟨rfl, -⟩ := Attempt.drain_effect hs hholds hcall hanswer
  rw [hholds.queue_eq, Ledger.queue] at hqueue
  obtain ⟨first, hwaiting, rfl⟩ := List.map_eq_singleton_iff.1 hqueue
  rw [hwaiting] at hanswer
  exact ⟨first.claimFor name drain.context.now, rfl, hanswer⟩

end Delivery

end Switchboard
