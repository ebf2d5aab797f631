import Switchboard.Proofs.Mailbox.Availability
import Switchboard.Proofs.Mailbox.Queue

namespace Switchboard

/-- What comes of receiving one message after the other. -/
structure Intake where
  messages : List Message
  ended : Bool
  store : Store

/-- Receive one message after the other, until nothing is left. The list bounds the number of calls;
one that fails is followed by the next. -/
def Store.receiveAll (store : Store) (name : String) : List Client → Intake
  | [] => ⟨[], false, store⟩
  | client :: clients =>
    let attempt := client.attempt (.tryReceive name)
    match attempt.answer store with
    | .ok (.message (some m)) =>
      let rest := (attempt.after store).receiveAll name clients
      { rest with messages := m :: rest.messages }
    | .ok (.message none) => ⟨[], true, attempt.after store⟩
    | _ => (attempt.after store).receiveAll name clients

/-- The message as if it had been claimed at the epoch, in case it has been claimed. -/
def Message.untimed (m : Message) : Message :=
  { m with claimedAt := m.claimedAt.map fun _ => .epoch }

def Entry.untimed (e : Entry Message) : Entry Message := { e with record := e.record.untimed }

theorem Message.untimed_claimFor (m : Message) (name : String) (now later : Timestamp) :
    (m.claimFor name now).untimed = (m.claimFor name later).untimed := rfl

/-- Two states of the tables that differ in the times of claims at most. -/
structure Tables.SameButClaimTimes (tables other : Tables) : Prop where
  messages : (tables.rows Message).map Entry.untimed = (other.rows Message).map Entry.untimed
  events : tables.rows Event = other.rows Event
  agents : tables.rows Registration = other.rows Registration
  tasks : tables.rows Task = other.rows Task
  minted : tables.minted = other.minted
  lastId : tables.lastId = other.lastId

namespace Ledger

variable {ledger next : Ledger} {name : String} {view : Message → Message} {now later : Timestamp}

/-- The ledger as somebody sees it who looks at messages in a certain way. -/
def seen (view : Message → Message) (ledger : Ledger) : Ledger :=
  { ledger with messages := ledger.messages.map view }

theorem seen_id (ledger : Ledger) : ledger.seen id = ledger := by
  unfold seen
  rw [List.map_id]

theorem Sound.claim (h : ledger.Sound) (p : Message → Bool) (claimer : String) (now : Timestamp) :
    (ledger.changeMessages p (Message.claimFor claimer now)).Sound :=
  h.changeMessages fun _ => rfl

theorem sameButClaimTimes {tables other : Tables} (h : tables.Holds ledger)
    (hother : other.Holds next) (hseen : ledger.seen Message.untimed = next.seen Message.untimed) :
    tables.SameButClaimTimes other := by
  have hplain (messages : List Message) : (messages.map Entry.plain).map Entry.untimed =
      (messages.map Message.untimed).map Entry.plain := by
    rw [List.map_map, List.map_map]
    rfl
  simp only [seen, Ledger.mk.injEq] at hseen
  obtain ⟨hminted, hlast, hmessages, hevents, hregistrations, htasks⟩ := hseen
  refine ⟨?_, ?_, ?_, ?_, ?_, ?_⟩
  · rw [h.messages, hother.messages, hplain, hplain, hmessages]
  · rw [h.events, hother.events, hevents]
  · rw [h.registrations, hother.registrations, hregistrations]
  · rw [h.tasks, hother.tasks, htasks]
  · rw [h.minted, hother.minted, hminted]
  · rw [h.last, hother.last, hlast]

/-- Whoever does not see the time of a claim does not see that the first message has been claimed
before the others. -/
theorem seen_claim_first {first : Message} {rest : List Message} (hs : ledger.Sound)
    (h : ledger.waiting name = first :: rest)
    (hview : ∀ m : Message, view (m.claimFor name later) = view (m.claimFor name now)) :
    ((ledger.changeMessages (·.id == first.id) (Message.claimFor name later)).changeMessages
        (·.waitsFor name) (Message.claimFor name now)).seen view =
      (ledger.changeMessages (·.waitsFor name) (Message.claimFor name now)).seen view := by
  obtain ⟨hfirst, hwaits⟩ := mem_waiting.1 (h ▸ List.mem_cons_self : first ∈ ledger.waiting name)
  unfold seen changeMessages
  dsimp only
  congr 1
  rw [List.map_map, List.map_map, List.map_map]
  apply List.map_congr_left
  intro m hm
  simp only [Function.comp_apply]
  by_cases hid : m.id = first.id
  · obtain rfl := hs.messages.eq_of_id hm hfirst hid
    have hclaimed : (m.claimFor name later).waitsFor name = false := by
      simp [Message.waitsFor, Message.claimFor]
    simp [hclaimed, hwaits, hview]
  · simp [hid]

end Ledger

section Emptying

variable {store : Store} {ledger : Ledger} {name : String} {clients : List Client}

theorem Store.receiveAll_cons (hs : ledger.Sound) (h : store.tables.Holds ledger)
    (hown : store.tables.Own) (client : Client) :
    let left := (client.attempt (.tryReceive name)).after store
    let rest := left.receiveAll name clients
    (∃ first others, ledger.waiting name = first :: others ∧
        left.tables.Holds (ledger.changeMessages (·.id == first.id)
          (Message.claimFor name client.context.now)) ∧
        store.receiveAll name (client :: clients) =
          { rest with messages := first.claimFor name client.context.now :: rest.messages }) ∨
      (ledger.waiting name = [] ∧ left.tables.Holds ledger ∧
        store.receiveAll name (client :: clients) = ⟨[], true, left⟩) ∨
      (left.tables.Holds ledger ∧ store.receiveAll name (client :: clients) = rest ∧
        ¬ client.run.Undisturbed store) := by
  intro left rest
  obtain ⟨answer, next, hanswer, hnext, heffect⟩ | ⟨⟨failure, hanswer⟩, hleft⟩ :=
    (client.attempt (.tryReceive name)).effect hs h
  · have heffect : Effect client.context.now ledger (.tryReceive name) answer next := heffect
    rw [receiveAll, hanswer]
    cases heffect with
    | received hwaiting => exact .inl ⟨_, _, hwaiting, hnext, rfl⟩
    | receivedNothing hwaiting => exact .inr (.inl ⟨hwaiting, hnext, rfl⟩)
    | looked _ hlooks => cases hlooks
  · rw [receiveAll, hanswer]
    refine .inr (.inr ⟨hleft, rfl, fun hrun => ?_⟩)
    obtain ⟨message, hreceived⟩ :=
      (client.attempt (.tryReceive name)).receive_succeeds h rfl hrun hown
    cases hanswer.symm.trans hreceived

/-- Whoever receives until nothing is left has got all that was waiting, and left behind what a
drain leaves behind, in the eyes of somebody who does not see the times of claims. -/
theorem Store.receiveAll_drains (view : Message → Message) {now : Timestamp}
    (hs : ledger.Sound) (h : store.tables.Holds ledger) (hown : store.tables.Own)
    (hview : ∀ client ∈ clients, ∀ m : Message,
      view (m.claimFor name client.context.now) = view (m.claimFor name now))
    (hended : (store.receiveAll name clients).ended = true) :
    let intake := store.receiveAll name clients
    intake.messages.map view =
        ((ledger.waiting name).map (Message.claimFor name now)).map view ∧
      ∃ next : Ledger, intake.store.tables.Holds next ∧ next.seen view =
        (ledger.changeMessages (·.waitsFor name) (Message.claimFor name now)).seen view := by
  induction clients generalizing store ledger with
  | nil => cases hended
  | cons client clients ih =>
    obtain ⟨hclient, hclients⟩ := List.forall_mem_cons.1 hview
    have hleft : ((client.attempt (.tryReceive name)).after store).tables.Own :=
      (Store.writing_tended.after store [client.attempt (.tryReceive name)]).own hown
    obtain ⟨first, others, hwaiting, hholds, hall⟩ | ⟨hnone, hholds, hall⟩ | ⟨hholds, hall, -⟩ :=
      Store.receiveAll_cons hs h hown client
    · have hsound := hs.claim (·.id == first.id) name client.context.now
      rw [hall] at hended ⊢
      obtain ⟨hmessages, next, hnext, hseen⟩ := ih hsound hholds hleft hclients hended
      rw [Ledger.waiting_claim_first hs hwaiting] at hmessages
      rw [Ledger.seen_claim_first hs hwaiting hclient] at hseen
      refine ⟨?_, next, hnext, hseen⟩
      rw [hwaiting, List.map_cons, List.map_cons, List.map_cons, hmessages, hclient]
    · rw [hall, hnone]
      exact ⟨rfl, ledger, hholds, by rw [Ledger.changeMessages_of_waiting_eq_nil hnone]⟩
    · rw [hall] at hended ⊢
      exact ih hs hholds hleft hclients hended

theorem Store.receiveAll_ended (hs : ledger.Sound) (h : store.tables.Holds ledger)
    (hown : store.tables.Own) (hclients : ∀ client ∈ clients, client.run.Undisturbed store) :
    (store.receiveAll name clients).ended = true ↔
      (ledger.waiting name).length < clients.length := by
  induction clients generalizing store ledger with
  | nil => simp [receiveAll]
  | cons client clients ih =>
    obtain ⟨hclient, hrest⟩ := List.forall_mem_cons.1 hclients
    have htended : store.Tended ((client.attempt (.tryReceive name)).after store) :=
      Store.writing_tended.after store [client.attempt (.tryReceive name)]
    obtain ⟨first, others, hwaiting, hholds, hall⟩ | ⟨hnone, -, hall⟩ | ⟨-, -, hdisturbed⟩ :=
      Store.receiveAll_cons hs h hown client
    · have hsound := hs.claim (·.id == first.id) name client.context.now
      have hended := ih hsound hholds (htended.own hown)
        fun other hother => (hrest other hother).tended htended
      rw [Ledger.waiting_claim_first hs hwaiting] at hended
      rw [hall, hwaiting, List.length_cons, List.length_cons]
      exact hended.trans Nat.succ_lt_succ_iff.symm
    · rw [hall, hnone]
      simp
    · exact absurd hclient hdisturbed

theorem Attempt.drain_effect {drain : Attempt} {messages : List Message} (hs : ledger.Sound)
    (h : store.tables.Holds ledger) (hcall : drain.call = .drain name)
    (hanswer : drain.answer store = .ok (.messages messages)) :
    messages = (ledger.waiting name).map (Message.claimFor name drain.context.now) ∧
      (drain.after store).tables.Holds
        (ledger.changeMessages (·.waitsFor name) (Message.claimFor name drain.context.now)) := by
  obtain ⟨next, hnext, heffect⟩ := drain.effect_of_ok hs h hanswer
  rw [hcall] at heffect
  cases heffect with
  | drained => exact ⟨rfl, hnext⟩
  | looked _ hlooks => cases hlooks

theorem Attempt.drain_again {again : Attempt} {claimer : String} {now : Timestamp}
    {found : List Message} (hs : ledger.Sound)
    (h : store.tables.Holds (ledger.changeMessages (·.waitsFor name) (Message.claimFor claimer now)))
    (hcall : again.call = .drain name) (hanswer : again.answer store = .ok (.messages found)) :
    found = [] ∧ (again.after store).tables.SameContent store.tables := by
  have hnone := ledger.waiting_claim_all claimer name now
  obtain ⟨rfl, hafter⟩ := Attempt.drain_effect (hs.claim _ _ _) h hcall hanswer
  rw [Ledger.changeMessages_of_waiting_eq_nil hnone] at hafter
  exact ⟨by rw [hnone, List.map_nil], hafter.sameContent h⟩

end Emptying

/-- However clients have used a store that was empty, a drain of a mailbox is a way to receive until
nothing is left. It answers the messages that are received one after the other, in their order, and
leaves the same rows: all is equal but the times of claims, and these are if the clocks stand still.
As many messages are answered as somebody counts beforehand. Draining again answers nothing and
changes nothing. Where nothing stands in the way, drains succeed, and receiving comes to its end with
one call more than there are messages. -/
theorem draining_is_receiving_to_the_end (store : Store) (h : store.tables = {})
    (earlier : List Attempt) (name : String) (drainer : Client) :
    let reached := store.after earlier
    let draining := drainer.attempt (.drain name)
    let drained := draining.after reached
    (drainer.run.Undisturbed reached →
        ∃ messages, draining.answer reached = .ok (.messages messages)) ∧
      (∀ clients : List Client, (∀ client ∈ clients, client.run.Undisturbed reached) →
        ((reached.receiveAll name clients).ended = true ↔
          (reached.queue name).length < clients.length)) ∧
      ∀ messages, draining.answer reached = .ok (.messages messages) →
        (∀ clients : List Client,
          let intake := reached.receiveAll name clients
          intake.ended = true →
            messages.map Message.untimed = intake.messages.map Message.untimed ∧
            drained.tables.SameButClaimTimes intake.store.tables ∧
            ((∀ client ∈ clients, client.context.now = drainer.context.now) →
              messages = intake.messages ∧ drained.tables.SameContent intake.store.tables)) ∧
        reached.Tells (.check name) (.count messages.length) ∧
        ∀ again : Attempt, again.call = .drain name →
          (again.run.Undisturbed drained → again.answer drained = .ok (.messages [])) ∧
          ∀ found, again.answer drained = .ok (.messages found) →
            found = [] ∧ (again.after drained).tables.SameContent drained.tables := by
  intro reached draining drained
  obtain ⟨ledger, hs, hholds⟩ := Store.exists_ledger h earlier
  have hown : reached.tables.Own := Store.own_after h earlier
  have hqueue : (reached.queue name).length = (ledger.waiting name).length := by
    rw [hholds.queue_eq, Ledger.queue, List.length_map]
  refine ⟨fun hrun => Attempt.drain_succeeds hholds rfl hrun hown, fun clients hclients => ?_,
    fun messages hanswer => ?_⟩
  · rw [hqueue]
    exact Store.receiveAll_ended hs hholds hown hclients
  obtain ⟨hmessages, hdrained⟩ := Attempt.drain_effect hs hholds rfl hanswer
  refine ⟨?_, ?_, ?_⟩
  · intro clients intake hended
    obtain ⟨hsame, next, hnext, hseen⟩ := Store.receiveAll_drains Message.untimed hs hholds hown
      (fun client _ m => m.untimed_claimFor name client.context.now drainer.context.now) hended
    refine ⟨?_, Ledger.sameButClaimTimes hdrained hnext hseen.symm, fun hclocks => ?_⟩
    · rw [hmessages]
      exact hsame.symm
    · obtain ⟨hsame, next, hnext, hseen⟩ := Store.receiveAll_drains id hs hholds hown
        (fun client hclient m => by rw [hclocks client hclient]) hended
      rw [List.map_id, List.map_id] at hsame
      rw [Ledger.seen_id, Ledger.seen_id] at hseen
      exact ⟨hmessages.trans hsame.symm, hdrained.sameContent (hseen ▸ hnext)⟩
  · rw [hmessages, List.length_map]
    exact (Call.tells_check ledger name).of_holds hholds hown
  · intro again hagain
    refine ⟨fun hrun => ?_, fun found => Attempt.drain_again hs hdrained hagain⟩
    obtain ⟨found, hfound⟩ :=
      Attempt.drain_succeeds hdrained hagain hrun
        ((Store.writing_tended.after reached [draining]).own hown)
    rw [hfound, (Attempt.drain_again hs hdrained hagain hfound).1]

/-- Of three messages two are for the worker, which gets them by a drain as well as by three calls
that receive one each. -/
theorem two_of_three_messages_are_drained :
    let earlier := [Attempt.atEpoch (.send "worker" "first" none) [],
      Attempt.atEpoch (.send "other" "second" (some "worker")) [],
      Attempt.atEpoch (.send "worker" "third" (some "other")) []]
    let reached := ({} : Store).after earlier
    let messages := [(Message.unclaimed 1 .epoch none "worker" "first").claimFor "worker" .epoch,
      (Message.unclaimed 3 .epoch (some "other") "worker" "third").claimFor "worker" .epoch]
    let draining := Client.atEpoch.attempt (.drain "worker")
    let clients := List.replicate 3 Client.atEpoch
    let intake := reached.receiveAll "worker" clients
    let again := Attempt.atEpoch (.drain "worker") []
    draining.answer reached = .ok (.messages messages) ∧
      intake.ended = true ∧ intake.messages = messages ∧
      (draining.after reached).tables.SameContent intake.store.tables ∧
      reached.Tells (.check "worker") (.count 2) ∧
      again.answer (draining.after reached) = .ok (.messages []) := by
  intro earlier reached messages draining clients intake again
  have havailable : reached.Available :=
    (Store.writing_tended.after {} earlier).available ⟨rfl, rfl, rfl, rfl, rfl⟩
  have hrun : Client.atEpoch.run.Undisturbed reached := ⟨rfl, havailable, nofun⟩
  have hagain : again.run.Undisturbed (draining.after reached) :=
    hrun.tended (Store.writing_tended.after reached [draining])
  have hanswer : draining.answer reached = .ok (.messages messages) := by decide +kernel
  obtain ⟨-, hcalls, hdrain⟩ := draining_is_receiving_to_the_end {} rfl earlier "worker" .atEpoch
  have hended : intake.ended = true := by
    refine (hcalls clients ?_).2 (by decide +kernel)
    intro client hclient
    rw [List.eq_of_mem_replicate hclient]
    exact hrun
  obtain ⟨hreceived, hcount, hnext⟩ := hdrain messages hanswer
  have htwo : (messages.length : Int) = 2 := rfl
  obtain ⟨-, -, hclocks⟩ := hreceived clients hended
  obtain ⟨hmessages, hrows⟩ := hclocks fun client hclient => by
    rw [List.eq_of_mem_replicate hclient]
  have hempty := (hnext again rfl).1 hagain
  subst intake draining reached
  exact ⟨hanswer, hended, hmessages.symm, hrows, htwo ▸ hcount, hempty⟩

end Switchboard
