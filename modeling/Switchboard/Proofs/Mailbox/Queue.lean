import Switchboard.Proofs.History
import Switchboard.Proofs.Reception

namespace Switchboard

structure Item where
  id : Int
  sender : Option String
  body : String
  deriving DecidableEq

def Message.item (m : Message) : Item := ⟨m.id, m.sender, m.body⟩

/-- The queue of a name: its unclaimed messages in ascending order of their ids. -/
def Store.queue (store : Store) (name : String) : List Item :=
  (Mailbox.waiting name (store.tables.rows Message)).map (·.record.item)

def Ledger.queue (ledger : Ledger) (name : String) : List Item :=
  (ledger.waiting name).map Message.item

theorem Tables.Holds.queue_eq {store : Store} {ledger : Ledger} (h : store.tables.Holds ledger) :
    store.queue = ledger.queue := by
  funext name
  rw [Store.queue, h.messages, Mailbox.waiting_plain, List.map_map]
  rfl

theorem Store.queue_ascending (store : Store) (name : String) :
    (store.queue name).Pairwise fun a b => a.id < b.id :=
  List.pairwise_map.2 ((store.tables.ascending Message).filter _)

theorem Message.target_of_waitsFor {m : Message} {name : String} (h : m.waitsFor name) :
    m.target = name := by
  simp only [waitsFor, Bool.and_eq_true, beq_iff_eq] at h
  exact h.1

def putQueue (queues : String → List Item) (name : String) (queue : List Item) :
    String → List Item :=
  fun other => if other = name then queue else queues other

@[simp]
theorem putQueue_self (queues : String → List Item) (name : String) (queue : List Item) :
    putQueue queues name queue name = queue := if_pos rfl

theorem putQueue_of_ne {name other : String} (h : other ≠ name) (queues : String → List Item)
    (queue : List Item) : putQueue queues name queue other = queues other := if_neg h

def Call.usesMailbox : Call → Bool
  | send .. | tryReceive _ | drain _ | check _ => true
  | _ => false

/-- What a call that succeeds does to the queues of all names, and what it answers. -/
inductive QueueStep (queues : String → List Item) :
    Call → Answer → (String → List Item) → Prop where
  | sent (target body : String) (sender : Option String) (id : Int) :
    QueueStep queues (.send target body sender) (.id id)
      (putQueue queues target (queues target ++ [⟨id, sender, body⟩]))
  | received (name : String) (m : Message) (rest : List Item) (h : queues name = m.item :: rest) :
    QueueStep queues (.tryReceive name) (.message (some m)) (putQueue queues name rest)
  | receivedNothing (name : String) (h : queues name = []) :
    QueueStep queues (.tryReceive name) (.message none) queues
  | drained (name : String) (messages : List Message) (h : messages.map Message.item = queues name) :
    QueueStep queues (.drain name) (.messages messages) (putQueue queues name [])
  | checked (name : String) :
    QueueStep queues (.check name) (.count (queues name).length) queues
  | other {call : Call} (answer : Answer) (h : call.usesMailbox = false) :
    QueueStep queues call answer queues

namespace Ledger

variable {ledger : Ledger}

theorem queue_of_messages {next : Ledger} (h : next.messages = ledger.messages) :
    next.queue = ledger.queue := by
  unfold queue waiting
  rw [h]

theorem waiting_addMessage (m : Message) (name : String) :
    (ledger.mint.addMessage m).waiting name =
      ledger.waiting name ++ if m.waitsFor name then [m] else [] := by
  unfold waiting
  change List.filter _ (ledger.messages ++ [m]) = _
  rw [List.filter_append]
  cases h : m.waitsFor name <;> simp [h]

theorem waiting_claim (p : Message → Bool) (claimer name : String) (now : Timestamp) :
    (ledger.changeMessages p (Message.claimFor claimer now)).waiting name =
      (ledger.waiting name).filter (!p ·) := by
  unfold waiting changeMessages
  dsimp only
  induction ledger.messages with
  | nil => rfl
  | cons m rest ih =>
    rw [List.map_cons, List.filter_cons, List.filter_cons, ih]
    have hclaimed : (m.claimFor claimer now).waitsFor name = false := by
      simp [Message.waitsFor, Message.claimFor]
    cases hp : p m <;> cases hwaits : m.waitsFor name <;> simp [hp, hwaits, hclaimed]

theorem waiting_claim_first {name : String} {first : Message} {rest : List Message}
    (hs : ledger.Sound) (h : ledger.waiting name = first :: rest) (now : Timestamp) :
    (ledger.changeMessages (·.id == first.id) (Message.claimFor name now)).waiting name = rest := by
  have hascending : (first :: rest).Pairwise fun a b => Row.id a < Row.id b :=
    h ▸ hs.messages.ascending.filter _
  rw [waiting_claim, h, List.filter_cons_of_neg (by simp)]
  apply List.filter_eq_self.2
  intro m hm
  have hlt : first.id < m.id := (List.pairwise_cons.1 hascending).1 m hm
  simpa using Int.ne_of_gt hlt

theorem queue_claim_first {name : String} {first : Message} {rest : List Message}
    (hs : ledger.Sound) (h : ledger.waiting name = first :: rest) (now : Timestamp) :
    (ledger.changeMessages (·.id == first.id) (Message.claimFor name now)).queue =
      putQueue ledger.queue name (rest.map Message.item) := by
  have hfirst : first ∈ ledger.waiting name := h ▸ List.mem_cons_self
  funext other
  unfold queue
  by_cases hname : other = name
  · subst hname
    rw [putQueue_self, waiting_claim_first hs h]
  · have hothers : (ledger.waiting other).filter (fun m => !(m.id == first.id)) =
        ledger.waiting other := by
      apply List.filter_eq_self.2
      intro m hm
      obtain ⟨hmem, hwaits⟩ := mem_waiting.1 hm
      have htarget : m.target ≠ first.target := by
        rw [Message.target_of_waitsFor hwaits,
          Message.target_of_waitsFor (mem_waiting.1 hfirst).2]
        exact hname
      have hid : m.id ≠ first.id := fun hid =>
        htarget (congrArg Message.target (hs.messages.eq_of_id hmem (mem_waiting.1 hfirst).1 hid))
      simpa using hid
    rw [waiting_claim, putQueue_of_ne hname, hothers]

theorem waiting_claim_all (ledger : Ledger) (claimer name : String) (now : Timestamp) :
    (ledger.changeMessages (·.waitsFor name) (Message.claimFor claimer now)).waiting name = [] := by
  rw [waiting_claim, List.filter_eq_nil_iff]
  intro m hm
  simp [(mem_waiting.1 hm).2]

theorem queue_claim_all (name : String) (now : Timestamp) :
    (ledger.changeMessages (·.waitsFor name) (Message.claimFor name now)).queue =
      putQueue ledger.queue name [] := by
  funext other
  unfold queue
  by_cases hname : other = name
  · subst hname
    rw [putQueue_self, waiting_claim_all, List.map_nil]
  · rw [waiting_claim]
    have hothers : (ledger.waiting other).filter (fun m => !m.waitsFor name) =
        ledger.waiting other := by
      apply List.filter_eq_self.2
      intro m hm
      have htarget := Message.target_of_waitsFor (mem_waiting.1 hm).2
      simp [Message.waitsFor, htarget, hname]
    rw [putQueue_of_ne hname, hothers]

end Ledger

theorem Effect.queueStep {ledger next : Ledger} {now : Timestamp} {call : Call} {answer : Answer}
    (hs : ledger.Sound) (h : Effect now ledger call answer next) :
    QueueStep ledger.queue call answer next.queue := by
  cases h with
  | sent target body sender =>
    have hqueue : (ledger.mint.addMessage
        (.unclaimed (ledger.last + 1) now sender target body)).queue =
        putQueue ledger.queue target
          (ledger.queue target ++ [⟨ledger.last + 1, sender, body⟩]) := by
      funext name
      unfold Ledger.queue
      rw [Ledger.waiting_addMessage, List.map_append]
      by_cases hname : name = target
      · subst hname
        simp [Message.waitsFor, Message.unclaimed, Message.item]
      · rw [putQueue_of_ne hname]
        simp [Message.waitsFor, Message.unclaimed, Ne.symm hname]
    rw [hqueue]
    exact .sent target body sender _
  | received hwaiting =>
    rw [Ledger.queue_claim_first hs hwaiting]
    refine .received _ _ _ ?_
    rw [Ledger.queue, hwaiting]
    rfl
  | receivedNothing hwaiting =>
    refine .receivedNothing _ ?_
    rw [Ledger.queue, hwaiting]
    rfl
  | drained name =>
    rw [Ledger.queue_claim_all]
    refine .drained name _ ?_
    rw [List.map_map]
    rfl
  | checked name =>
    have hlength : (ledger.waiting name).length = (ledger.queue name).length := by
      rw [Ledger.queue, List.length_map]
    rw [hlength]
    exact .checked name
  | cleaned who names =>
    rw [Ledger.queue_of_messages Ledger.recordAll_messages]
    exact .other _ rfl
  | looked answer hlooks hcheck =>
    refine .other answer ?_
    cases call with
    | check name => exact absurd rfl (hcheck name)
    | send | tryReceive | drain => cases hlooks
    | _ => rfl
  | _ => exact .other _ rfl

def Deed.sentTo (name : String) : Deed → List Item
  | ⟨.send target body sender, _, .id id⟩ => if target = name then [⟨id, sender, body⟩] else []
  | _ => []

def Deed.claimedFrom (name : String) : Deed → List Item
  | ⟨.tryReceive target, _, .message (some m)⟩ => if target = name then [m.item] else []
  | ⟨.drain target, _, .messages messages⟩ =>
    if target = name then messages.map Message.item else []
  | _ => []

theorem QueueStep.conserves {queues next : String → List Item} {call : Call} {answer : Answer}
    (h : QueueStep queues call answer next) (now : Timestamp) (name : String) :
    Deed.claimedFrom name ⟨call, now, answer⟩ ++ next name =
      queues name ++ Deed.sentTo name ⟨call, now, answer⟩ := by
  cases h with
  | sent target body sender id =>
    by_cases hname : name = target
    · subst hname
      simp [Deed.claimedFrom, Deed.sentTo]
    · simp [Deed.claimedFrom, Deed.sentTo, putQueue_of_ne hname, Ne.symm hname]
  | received target m rest hqueue =>
    by_cases hname : name = target
    · subst hname
      simp [Deed.claimedFrom, Deed.sentTo, hqueue]
    · simp [Deed.claimedFrom, Deed.sentTo, putQueue_of_ne hname, Ne.symm hname]
  | receivedNothing => simp [Deed.claimedFrom, Deed.sentTo]
  | drained target messages hqueue =>
    by_cases hname : name = target
    · subst hname
      simp [Deed.claimedFrom, Deed.sentTo, hqueue]
    · simp [Deed.claimedFrom, Deed.sentTo, putQueue_of_ne hname, Ne.symm hname]
  | checked => simp [Deed.claimedFrom, Deed.sentTo]
  | other answer hother =>
    cases call with
    | send | tryReceive | drain | check => cases hother
    | _ => simp [Deed.claimedFrom, Deed.sentTo]

theorem Store.claimed_append_queue {store : Store} (h : store.tables = {})
    (attempts : List Attempt) (name : String) :
    (store.deeds attempts).flatMap (Deed.claimedFrom name) ++
        (store.after attempts).queue name =
      (store.deeds attempts).flatMap (Deed.sentTo name) := by
  have hhistory := Store.history_of_empty (fun deeds ledger =>
    deeds.flatMap (Deed.claimedFrom name) ++ ledger.queue name =
      deeds.flatMap (Deed.sentTo name)) h rfl ?_ attempts
  · obtain ⟨ledger, -, hholds, hconserved⟩ := hhistory
    rw [hholds.queue_eq]
    exact hconserved
  · intro deeds ledger next now call answer hs hconserved heffect
    have hstep := (heffect.queueStep hs).conserves now name
    rw [List.flatMap_append, List.flatMap_append, ← hconserved, List.append_assoc,
      List.append_assoc]
    simpa using hstep

theorem Store.queueStep {store : Store} (h : store.tables = {}) (attempts : List Attempt)
    (attempt : Attempt) :
    match attempt.answer (store.after attempts) with
    | .ok answer =>
      QueueStep (store.after attempts).queue attempt.call answer
        (attempt.after (store.after attempts)).queue
    | .error _ => (attempt.after (store.after attempts)).queue = (store.after attempts).queue := by
  obtain ⟨ledger, hs, hholds⟩ := Store.exists_ledger h attempts
  rw [hholds.queue_eq]
  obtain ⟨answer, next, hanswer, hnext, heffect⟩ | ⟨⟨failure, hanswer⟩, hsame⟩ :=
    attempt.effect hs hholds
  · rw [hanswer, hnext.queue_eq]
    exact heffect.queueStep hs
  · rw [hanswer, hsame.queue_eq]

/-- Whatever clients have done to a store that was empty, its mailboxes are queues: every call is a
step of them, and what has been claimed from one of them is where what has been sent to it begins.
The call of a receiver who waits is a part of such a run, and its polls are attempts of it. -/
theorem mailboxes_are_queues (store : Store) (h : store.tables = {}) (attempts : List Attempt) :
    let reached := store.after attempts
    (∀ name, (reached.queue name).Pairwise fun a b => a.id < b.id) ∧
      (∀ attempt : Attempt,
        match attempt.answer reached with
        | .ok answer =>
          QueueStep reached.queue attempt.call answer (attempt.after reached).queue
        | .error _ => (attempt.after reached).queue = reached.queue) ∧
      (∀ name, (store.deeds attempts).flatMap (Deed.claimedFrom name) ++ reached.queue name =
        (store.deeds attempts).flatMap (Deed.sentTo name)) ∧
      ∀ (others : Receive.Others) (patience : Nat) (name : String) (limit : Option Nat)
        (context : Context) (run : Run), others.ByCalls →
        let received := Operation.perform (Receive.receive others patience name limit) context
          { run with store := reached }
        ∃ turns later, Receive.Course others name context turns ∧
          (turns.map (·.attempt)).Sublist later ∧ received.2.store = reached.after later ∧
          ∀ m, received.1 = .ok (.delivered m) → reached.claims turns = [m] := by
  refine ⟨(store.after attempts).queue_ascending, Store.queueStep h attempts,
    Store.claimed_append_queue h attempts, ?_⟩
  intro others patience name limit context run hothers received
  obtain ⟨turns, hcourse, hstore, hclaims⟩ := Receive.course_of_receive
    (rfl : Operation.perform (Receive.receive others patience name limit) context
      { run with store := store.after attempts } = (_, _))
  obtain ⟨later, hsublist, hlater, -⟩ := hcourse.run hothers (store.after attempts)
  refine ⟨turns, later, hcourse, hsublist, hstore.trans hlater, ?_⟩
  intro m hdelivered
  obtain hclaims | ⟨_, failure, -, hfailed, -⟩ := hclaims
  · exact hclaims.trans (congrArg Receive.deliveries hdelivered)
  · cases hdelivered.symm.trans hfailed

/-- Of two messages, the first one is received. -/
theorem first_of_two_is_received :
    let attempts := [Attempt.atEpoch (.send "worker" "first" none) [],
      Attempt.atEpoch (.send "worker" "second" none) [], Attempt.atEpoch (.tryReceive "worker") []]
    (({} : Store).deeds attempts).flatMap (Deed.claimedFrom "worker") = [⟨1, none, "first"⟩] ∧
      (({} : Store).deeds attempts).flatMap (Deed.claimedFrom "worker") ++
          (({} : Store).after attempts).queue "worker" =
        (({} : Store).deeds attempts).flatMap (Deed.sentTo "worker") :=
  ⟨by decide +kernel, (mailboxes_are_queues {} rfl _).2.2.1 "worker"⟩

end Switchboard
