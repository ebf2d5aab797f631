import Switchboard.Proofs.Mailbox.Queue
import Switchboard.Proofs.Reading

namespace Switchboard

namespace Message

def asSent (m : Message) : Message :=
  { m with claimed := false, claimedBy := none, claimedAt := none }

/-- A claimed message says that its target claimed it and when, any other one says neither. -/
structure Coherent (m : Message) : Prop where
  claimed_iff : m.claimed ↔ m.claimedBy = some m.target ∧ m.claimedAt.isSome
  unclaimed : m.claimed = false → m.claimedBy = none ∧ m.claimedAt = none

/-- What has become of a message: it is as it was sent, and a claim is final. -/
structure Follows (m earlier : Message) : Prop where
  sent : m.asSent = earlier.asSent
  final : earlier.claimed → m = earlier

variable {m : Message} {name : String}

theorem Follows.refl (m : Message) : m.Follows m := ⟨rfl, fun _ => rfl⟩

theorem Follows.trans {first second third : Message} (h : third.Follows second)
    (h' : second.Follows first) : third.Follows first where
  sent := h.sent.trans h'.sent
  final hclaimed := by
    obtain rfl := h'.final hclaimed
    exact h.final hclaimed

theorem coherent_unclaimed (id : Int) (now : Timestamp) (sender : Option String)
    (target body : String) : (unclaimed id now sender target body).Coherent := by
  constructor <;> simp [unclaimed]

theorem unclaimed_of_waitsFor (h : m.waitsFor name) : m.claimed = false := by
  simp only [waitsFor, Bool.and_eq_true, Bool.not_eq_true'] at h
  exact h.2

theorem coherent_claimFor (h : m.waitsFor name) (now : Timestamp) :
    (m.claimFor name now).Coherent := by
  have htarget : m.target = name := target_of_waitsFor h
  constructor <;> simp [claimFor, htarget]

theorem follows_claimFor (h : m.waitsFor name) (now : Timestamp) :
    (m.claimFor name now).Follows m where
  sent := rfl
  final hclaimed := by
    rw [unclaimed_of_waitsFor h] at hclaimed
    cases hclaimed

end Message

namespace Deed

def sent : Deed → List Message
  | ⟨.send target body sender, now, .id id⟩ => [.unclaimed id now sender target body]
  | _ => []

def handedTo (name : String) : Deed → List Message
  | ⟨.tryReceive target, _, .message m⟩ => if target = name then m.toList else []
  | ⟨.drain target, _, .messages messages⟩ => if target = name then messages else []
  | _ => []

end Deed

/-- What a call that succeeds does to the messages: it sends one, it claims those that have waited
longest for a name and hands them over, or it leaves them all alone. -/
inductive MailStep (now : Timestamp) (ledger : Ledger) : Call → Answer → Ledger → Prop where
  | sent (target body : String) (sender : Option String) (id : Int) :
    MailStep now ledger (.send target body sender) (.id id)
      (ledger.mint.addMessage (.unclaimed id now sender target body))
  | claimed {call : Call} {answer : Answer} {name : String} {p : Message → Bool}
      {rest : List Message} (h : ledger.waiting name = ledger.messages.filter p ++ rest)
      (hsent : Deed.sent ⟨call, now, answer⟩ = [])
      (hhanded : ∀ other, Deed.handedTo other ⟨call, now, answer⟩ =
        if name = other then (ledger.messages.filter p).map (Message.claimFor name now) else []) :
    MailStep now ledger call answer (ledger.changeMessages p (Message.claimFor name now))
  | other {call : Call} {answer : Answer} {next : Ledger} (h : next.messages = ledger.messages)
      (hsent : Deed.sent ⟨call, now, answer⟩ = [])
      (hhanded : ∀ name, Deed.handedTo name ⟨call, now, answer⟩ = []) :
    MailStep now ledger call answer next

theorem Effect.mailStep {ledger next : Ledger} {now : Timestamp} {call : Call} {answer : Answer}
    (hs : ledger.Sound) (h : Effect now ledger call answer next) :
    MailStep now ledger call answer next := by
  cases h with
  | sent target body sender => exact .sent target body sender _
  | @received name first rest hwaiting =>
    have hmem : first ∈ ledger.messages := (Ledger.mem_waiting.1 (hwaiting ▸ List.mem_cons_self)).1
    have hfirst : ledger.messages.filter (·.id == first.id) = [first] := hs.messages.filter_id hmem
    have hsplit : ledger.waiting name = ledger.messages.filter (·.id == first.id) ++ rest := by
      rw [hfirst, hwaiting, List.singleton_append]
    refine .claimed hsplit rfl fun other => ?_
    rw [hfirst]
    rfl
  | receivedNothing hwaiting => exact .other rfl rfl (by simp [Deed.handedTo])
  | drained name => exact .claimed (List.append_nil _).symm rfl fun other => rfl
  | cleaned who names => exact .other Ledger.recordAll_messages rfl fun _ => rfl
  | looked answer hlooks hcheck =>
    cases call with
    | send | tryReceive | drain => cases hlooks
    | _ => exact .other rfl rfl fun _ => rfl
  | _ => exact .other rfl rfl fun _ => rfl

namespace Ledger

variable {ledger next : Ledger} {deeds : List Deed} {p : Message → Bool} {name other : String}
  {rest : List Message} {now : Timestamp} {call : Call} {answer : Answer} {m : Message}

theorem waiting_eq (ledger : Ledger) (name : String) :
    ledger.waiting name = (ledger.mailbox name).filter (!·.claimed) := by
  unfold waiting mailbox
  rw [List.filter_filter]
  exact List.filter_congr fun m _ => Bool.and_comm _ _

theorem waitsFor_of_claimed (h : ledger.waiting name = ledger.messages.filter p ++ rest)
    (hm : m ∈ ledger.messages) (hp : p m) : m.waitsFor name := by
  have hwaiting : m ∈ ledger.waiting name := by
    rw [h]
    exact List.mem_append_left _ (List.mem_filter.2 ⟨hm, hp⟩)
  exact (mem_waiting.1 hwaiting).2

theorem not_claimed_of_rest (hs : ledger.Sound)
    (h : ledger.waiting name = ledger.messages.filter p ++ rest) (hm : m ∈ rest) : p m = false := by
  have hascending : (ledger.waiting name).Pairwise fun a b => Row.id a < Row.id b :=
    hs.messages.ascending.filter _
  have hwaiting : m ∈ ledger.waiting name := h ▸ List.mem_append_right _ hm
  cases hp : p m with
  | false => rfl
  | true =>
    have htaken : m ∈ ledger.messages.filter p := List.mem_filter.2 ⟨(mem_waiting.1 hwaiting).1, hp⟩
    rw [h] at hascending
    have := (List.pairwise_append.1 hascending).2.2 m htaken m hm
    omega

theorem mailbox_claim (p : Message → Bool) (claimer name : String) (now : Timestamp) :
    (ledger.changeMessages p (Message.claimFor claimer now)).mailbox name =
      (ledger.mailbox name).map fun m => if p m then m.claimFor claimer now else m := by
  unfold mailbox changeMessages
  rw [List.filter_map]
  congr 1
  apply List.filter_congr
  intro m _
  simp only [Function.comp_apply]
  split <;> rfl

theorem map_waiting_claim (hs : ledger.Sound)
    (h : ledger.waiting name = ledger.messages.filter p ++ rest) (now : Timestamp)
    (other : String) :
    ((ledger.waiting other).map fun m => if p m then m.claimFor name now else m) =
      (if name = other then (ledger.messages.filter p).map (Message.claimFor name now) else []) ++
        (ledger.waiting other).filter (!p ·) := by
  by_cases hname : name = other
  · subst hname
    have hrest : ∀ m ∈ rest, p m = false := fun m hm => not_claimed_of_rest hs h hm
    have htaken : ∀ m ∈ ledger.messages.filter p, p m := fun m hm => (List.mem_filter.1 hm).2
    have hnothing : (ledger.messages.filter p).filter (!p ·) = [] :=
      List.filter_eq_nil_iff.2 fun m hm => by simp [htaken m hm]
    have hleft : rest.filter (!p ·) = rest :=
      List.filter_eq_self.2 fun m hm => by simp [hrest m hm]
    rw [if_pos rfl, h, List.map_append, map_of_none hrest, List.filter_append, hnothing, hleft,
      List.nil_append]
    congr 1
    exact List.map_congr_left fun m hm => if_pos (htaken m hm)
  · have hnone : ∀ m ∈ ledger.waiting other, p m = false := by
      intro m hm
      obtain ⟨hmem, hwaits⟩ := mem_waiting.1 hm
      cases hp : p m with
      | false => rfl
      | true =>
        have htarget := Message.target_of_waitsFor (waitsFor_of_claimed h hmem hp)
        exact absurd (htarget.symm.trans (Message.target_of_waitsFor hwaits)) hname
    have hleft : (ledger.waiting other).filter (!p ·) = ledger.waiting other :=
      List.filter_eq_self.2 fun m hm => by simp [hnone m hm]
    rw [if_neg hname, map_of_none hnone, hleft, List.nil_append]

/-- What the messages of a ledger tell of the deeds: which messages were sent, and which of them were
handed over to whom. -/
structure Trail (ledger : Ledger) (deeds : List Deed) : Prop where
  coherent : ∀ m ∈ ledger.messages, m.Coherent
  sent : ledger.messages.map Message.asSent = deeds.flatMap Deed.sent
  mailbox : ∀ name,
    ledger.mailbox name = deeds.flatMap (Deed.handedTo name) ++ ledger.waiting name

namespace Trail

theorem nil : ({} : Ledger).Trail [] where
  coherent _ hm := nomatch hm
  sent := rfl
  mailbox _ := rfl

theorem claimed_of_handed (h : ledger.Trail deeds) (name : String) :
    ∀ m ∈ deeds.flatMap (Deed.handedTo name), m.claimed := by
  have hwaiting := ledger.waiting_eq name
  rw [h.mailbox name, List.filter_append] at hwaiting
  have hunclaimed : (ledger.waiting name).filter (!·.claimed) = ledger.waiting name :=
    List.filter_eq_self.2 fun m hm => by
      simp [Message.unclaimed_of_waitsFor (mem_waiting.1 hm).2]
  rw [hunclaimed] at hwaiting
  have hnone := List.self_eq_append_left.1 hwaiting
  simpa using hnone

theorem send (h : ledger.Trail deeds) (target body : String) (sender : Option String) (id : Int) :
    (ledger.mint.addMessage (.unclaimed id now sender target body)).Trail
      (deeds ++ [⟨.send target body sender, now, .id id⟩]) where
  coherent := by
    intro m hm
    obtain hm | hm := List.mem_append.1 hm
    · exact h.coherent m hm
    · obtain rfl := List.mem_singleton.1 hm
      exact Message.coherent_unclaimed id now sender target body
  sent := by
    rw [List.flatMap_append, ← h.sent]
    exact List.map_append
  mailbox := by
    intro name
    have hmailbox := h.mailbox name
    rw [waiting_addMessage, List.flatMap_append]
    unfold Ledger.mailbox at hmailbox ⊢
    change List.filter _ (ledger.messages ++ [_]) = _
    rw [List.filter_append, hmailbox]
    simp [Deed.handedTo, Message.waitsFor, Message.unclaimed, List.filter_cons]

theorem claim (h : ledger.Trail deeds) (hs : ledger.Sound)
    (hwaiting : ledger.waiting name = ledger.messages.filter p ++ rest)
    (hsent : Deed.sent ⟨call, now, answer⟩ = [])
    (hhanded : ∀ other, Deed.handedTo other ⟨call, now, answer⟩ =
      if name = other then (ledger.messages.filter p).map (Message.claimFor name now) else []) :
    (ledger.changeMessages p (Message.claimFor name now)).Trail
      (deeds ++ [⟨call, now, answer⟩]) where
  coherent := by
    intro m hm
    obtain ⟨earlier, hmem, rfl⟩ := List.mem_map.1 hm
    split
    · exact Message.coherent_claimFor (waitsFor_of_claimed hwaiting hmem ‹_›) now
    · exact h.coherent earlier hmem
  sent := by
    rw [List.flatMap_append, ← h.sent, List.flatMap_singleton, hsent, List.append_nil]
    unfold changeMessages
    rw [List.map_map]
    apply List.map_congr_left
    intro m _
    simp only [Function.comp_apply]
    split <;> rfl
  mailbox := by
    intro other
    have hhandedBefore : ∀ m ∈ deeds.flatMap (Deed.handedTo other), p m = false := by
      intro m hm
      have hclaimed := h.claimed_of_handed other m hm
      have hmem : m ∈ ledger.mailbox other := by
        rw [h.mailbox]
        exact List.mem_append_left _ hm
      cases hp : p m with
      | false => rfl
      | true =>
        have hwaits := waitsFor_of_claimed hwaiting (List.mem_filter.1 hmem).1 hp
        cases hclaimed.symm.trans (Message.unclaimed_of_waitsFor hwaits)
    rw [mailbox_claim, h.mailbox, List.map_append, map_of_none hhandedBefore,
      map_waiting_claim hs hwaiting, waiting_claim, List.flatMap_append, List.flatMap_singleton,
      hhanded, List.append_assoc]

theorem step (h : ledger.Trail deeds) (hs : ledger.Sound)
    (hstep : MailStep now ledger call answer next) :
    next.Trail (deeds ++ [⟨call, now, answer⟩]) := by
  cases hstep with
  | sent target body sender id => exact h.send target body sender id
  | claimed hwaiting hsent hhanded => exact h.claim hs hwaiting hsent hhanded
  | other hmessages hsent hhanded =>
    constructor
    · rw [hmessages]
      exact h.coherent
    · rw [hmessages, List.flatMap_append, List.flatMap_singleton, hsent, List.append_nil]
      exact h.sent
    · intro name
      have hmailbox := h.mailbox name
      rw [List.flatMap_append, List.flatMap_singleton, hhanded, List.append_nil]
      unfold Ledger.mailbox waiting at hmailbox ⊢
      rwa [hmessages]

theorem claimed_prefix (h : ledger.Trail deeds) (name : String) :
    (ledger.mailbox name).filter (·.claimed) <+: ledger.mailbox name := by
  have hclaimed : (deeds.flatMap (Deed.handedTo name)).filter (·.claimed) =
      deeds.flatMap (Deed.handedTo name) := List.filter_eq_self.2 (h.claimed_of_handed name)
  have hwaiting : (ledger.waiting name).filter (·.claimed) = [] :=
    List.filter_eq_nil_iff.2 fun m hm => by
      simp [Message.unclaimed_of_waitsFor (mem_waiting.1 hm).2]
  rw [h.mailbox, List.filter_append, hclaimed, hwaiting, List.append_nil]
  exact List.prefix_append _ _

theorem mailbox_sent (h : ledger.Trail deeds) (name : String) :
    (ledger.mailbox name).map Message.asSent =
      (deeds.flatMap Deed.sent).filter (·.target == name) := by
  rw [← h.sent, List.filter_map]
  rfl

theorem find?_handed (h : ledger.Trail deeds) (hs : ledger.Sound) {d : Deed} (hd : d ∈ deeds)
    (hm : m ∈ d.handedTo name) : (ledger.mailbox name).find? (·.id == m.id) = some m := by
  have hmem : m ∈ ledger.mailbox name := by
    rw [h.mailbox]
    exact List.mem_append_left _ (List.mem_flatMap.2 ⟨d, hd, hm⟩)
  exact (hs.messages.filter _).find?_id hmem

end Trail

theorem follows_of_mailStep (h : MailStep now ledger call answer next) :
    ∀ m ∈ ledger.messages, ∃ u ∈ next.messages, u.Follows m := by
  intro m hm
  cases h with
  | sent => exact ⟨m, List.mem_append_left _ hm, .refl m⟩
  | @claimed _ _ name p _ hwaiting =>
    refine ⟨_, List.mem_map_of_mem hm, ?_⟩
    split
    · exact Message.follows_claimFor (waitsFor_of_claimed hwaiting hm ‹_›) now
    · exact .refl m
  | other hmessages => exact ⟨m, hmessages ▸ hm, .refl m⟩

end Ledger

def Store.messages (store : Store) : List Message := (store.tables.rows Message).map (·.record)

def Store.mailbox (store : Store) (name : String) : List Message :=
  store.messages.filter (·.target == name)

section Runs

variable {store : Store} {ledger : Ledger}

theorem Tables.Holds.messages_eq (h : store.tables.Holds ledger) :
    store.messages = ledger.messages := by
  rw [Store.messages, h.messages, Entry.map_record_plain]

theorem Tables.Holds.mailbox_eq (h : store.tables.Holds ledger) :
    store.mailbox = ledger.mailbox := by
  funext name
  rw [Store.mailbox, h.messages_eq, Ledger.mailbox]

theorem Store.trail_after (h : store.tables = {}) (attempts : List Attempt) :
    ∃ ledger : Ledger, ledger.Sound ∧ (store.after attempts).tables.Holds ledger ∧
      ledger.Trail (store.deeds attempts) :=
  Store.history_of_empty (fun deeds ledger => ledger.Trail deeds) h .nil
    (fun _ _ _ _ _ _ hs htrail heffect => htrail.step hs (heffect.mailStep hs)) attempts

theorem Store.messages_last (hs : ledger.Sound) (h : store.tables.Holds ledger)
    (attempts : List Attempt) :
    ∀ m ∈ store.messages, ∃ u ∈ (store.after attempts).messages, u.Follows m := by
  have hlasts := Store.invariant
    (fun last => ∀ m ∈ ledger.messages, ∃ u ∈ last.messages, u.Follows m) hs h
    (fun m hm => ⟨m, hm, .refl m⟩) ?_ attempts
  · obtain ⟨last, -, hlast, hfollows⟩ := hlasts
    rw [h.messages_eq, hlast.messages_eq]
    exact hfollows
  · intro earlier next now call answer hs hfollows heffect m hm
    obtain ⟨u, hu, hearlier⟩ := hfollows m hm
    obtain ⟨v, hv, hnext⟩ := Ledger.follows_of_mailStep (heffect.mailStep hs) u hu
    exact ⟨v, hv, hnext.trans hearlier⟩

theorem Store.find?_handed (h : store.tables = {}) {attempts : List Attempt} {d : Deed}
    (hd : d ∈ store.deeds attempts) {name : String} {m : Message} (hm : m ∈ d.handedTo name) :
    ((store.after attempts).mailbox name).find? (·.id == m.id) = some m := by
  obtain ⟨ledger, hs, hholds, htrail⟩ := Store.trail_after h attempts
  rw [hholds.mailbox_eq]
  exact htrail.find?_handed hs hd hm

end Runs

theorem Call.tells_history (ledger : Ledger) (name : String) :
    (Call.history name).Tells ledger (.messages (ledger.mailbox name)) := by
  refine .intro rfl (Statement.reads_select (Mailbox.mailbox_plain name ledger)) ?_
  intro context run
  rw [Entry.map_record_plain]
  rfl

namespace Receive

variable {others : Others} {name : String} {context : Context} {turns : List Turn}

theorem Course.deed_of_claimed (h : Course others name context turns) {store : Store}
    {e : Encounter} (he : e ∈ store.encounters turns) {m : Message} (hm : e.claimed? = some m) :
    ∃ d ∈ e.deed?, m ∈ d.handedTo name := by
  obtain ⟨attempt, found⟩ := e
  obtain ⟨turn, hturn, rfl⟩ := Store.mem_encounters he
  have hstatus (act : Store → Store) (status : AgentStatus) (run : Run) :
      Encounter.claimed? ⟨(statusTurn act name status context run).attempt, found⟩ = none := by
    rcases hrecord : Operation.perform (Registry.recordStatus name status) context
      { run with store := found } with ⟨recorded, left⟩
    have hanswer := Attempt.answer_of_perform (statusTurn_perform act hrecord)
    unfold Encounter.claimed? Encounter.answer
    rw [hanswer]
    cases recorded <;> rfl
  obtain ⟨run, rfl⟩ | ⟨i, run, rfl⟩ | ⟨run, rfl⟩ := h.mem hturn
  · cases hm.symm.trans (hstatus _ _ run)
  · have hanswer := Encounter.answer_of_claimed hm
    exact ⟨_, Attempt.deed?_of_ok hanswer, by simp [Deed.handedTo, pollTurn]⟩
  · cases hm.symm.trans (hstatus _ _ run)

theorem find?_delivered {store : Store} (hempty : store.tables = {}) (attempts : List Attempt)
    (hothers : others.ByCalls) {patience : Nat} {limit : Option Nat} {run left : Run} {m : Message}
    (h : Operation.perform (receive others patience name limit) context
      { run with store := store.after attempts } = (.ok (.delivered m), left))
    (later : List Attempt) :
    ((left.store.after later).mailbox name).find? (·.id == m.id) = some m := by
  obtain ⟨turns, hcourse, hstore, hclaims | ⟨_, _, -, hfailed, -⟩⟩ := course_of_receive h
  · obtain ⟨between, -, hbetween, hdeeds⟩ := hcourse.run hothers (store.after attempts)
    have hclaimed : m ∈ (store.after attempts).claims turns := by
      rw [hclaims]
      exact List.mem_singleton_self m
    obtain ⟨e, he, hm⟩ := List.mem_filterMap.1 hclaimed
    obtain ⟨d, hd, hhanded⟩ := hcourse.deed_of_claimed he hm
    have hrun : d ∈ store.deeds (attempts ++ (between ++ later)) := by
      rw [Store.deeds_append, Store.deeds_append]
      exact List.mem_append_right _ (List.mem_append_left _ (hdeeds e he d hd))
    have hleft : left.store.after later = store.after (attempts ++ (between ++ later)) := by
      rw [hstore, hbetween, Store.after_append, Store.after_append]
    rw [hleft]
    exact Store.find?_handed hempty hrun hhanded
  · cases hfailed

end Receive

/-- However clients use a store that was empty, its messages are an audit trail. None of them
disappears and none changes, but for the one claim of a message by its target. A mailbox lists all that
was sent to its name in ascending order of the ids, what is claimed before what is not, and whoever
looks into it is told just that. Every message that was handed over stands there ever after as it was
handed over. -/
theorem messages_are_an_audit_trail (store : Store) (h : store.tables = {})
    (attempts : List Attempt) :
    let reached := store.after attempts
    let deeds := store.deeds attempts
    reached.tables.rows Message = reached.messages.map Entry.plain ∧
      (∀ later : List Attempt, ∀ m ∈ reached.messages,
        ∃ u ∈ (reached.after later).messages, u.Follows m) ∧
      (∀ m ∈ reached.messages, m.Coherent) ∧
      ∀ name : String,
        let mailbox := reached.mailbox name
        mailbox.filter (·.claimed) <+: mailbox ∧
          mailbox.Pairwise (fun a b => a.id < b.id) ∧
          mailbox.map Message.asSent = (deeds.flatMap Deed.sent).filter (·.target == name) ∧
          reached.Tells (.history name) (.messages mailbox) ∧
          (∀ d ∈ deeds, ∀ m ∈ d.handedTo name, mailbox.find? (·.id == m.id) = some m) ∧
          ∀ (others : Receive.Others) (patience : Nat) (limit : Option Nat) (context : Context)
            (run : Run), others.ByCalls →
            let received := Operation.perform (Receive.receive others patience name limit) context
              { run with store := reached }
            ∀ m, received.1 = .ok (.delivered m) → ∀ later : List Attempt,
              ((received.2.store.after later).mailbox name).find? (·.id == m.id) = some m := by
  intro reached deeds
  obtain ⟨ledger, hs, hholds, htrail⟩ := Store.trail_after h attempts
  have hmessages : reached.messages = ledger.messages := hholds.messages_eq
  have hmailbox : reached.mailbox = ledger.mailbox := hholds.mailbox_eq
  refine ⟨?_, Store.messages_last hs hholds, ?_, fun name => ?_⟩
  · rw [hmessages]
    exact hholds.messages
  · rw [hmessages]
    exact htrail.coherent
  · rw [hmailbox]
    refine ⟨htrail.claimed_prefix name, (hs.messages.filter _).ascending, htrail.mailbox_sent name,
      (Call.tells_history ledger name).of_holds hholds (Store.own_after h attempts),
      fun d hd m hm => htrail.find?_handed hs hd hm, ?_⟩
    intro others patience limit context run hothers received m hdelivered later
    exact Receive.find?_delivered h attempts hothers (Prod.ext hdelivered rfl) later

/-- The first of two messages is received. The history shows it as it was handed over, before the other
one, and it stays as it is. -/
theorem received_message_stays_in_history :
    let attempts := [Attempt.atEpoch (.send "worker" "first" none) [],
      Attempt.atEpoch (.send "worker" "second" none) [], Attempt.atEpoch (.tryReceive "worker") []]
    let look := Attempt.atEpoch (.history "worker") []
    let reached := ({} : Store).after attempts
    let first := Message.claimFor "worker" .epoch (.unclaimed 1 .epoch none "worker" "first")
    let second := Message.unclaimed 2 .epoch none "worker" "second"
    look.run.Undisturbed reached ∧ look.answer reached = .ok (.messages [first, second]) ∧
      (∃ d ∈ ({} : Store).deeds attempts, first ∈ d.handedTo "worker") ∧
      (reached.mailbox "worker").find? (·.id == 1) = some first ∧
      ∀ later : List Attempt, first ∈ (reached.after later).messages := by
  intro attempts look reached first second
  have htrail := messages_are_an_audit_trail {} rfl attempts
  have hmailbox : reached.mailbox "worker" = [first, second] := by decide +kernel
  have hlook : look.run.Undisturbed reached :=
    ⟨rfl, (Store.writing_tended.after {} attempts).available ⟨rfl, rfl, rfl, rfl, rfl⟩, nofun⟩
  have hhanded : ∃ d ∈ ({} : Store).deeds attempts, first ∈ d.handedTo "worker" := by
    decide +kernel
  obtain ⟨-, hlasts, -, hname⟩ := htrail
  obtain ⟨-, -, -, hhistory, hfound, -⟩ := hname "worker"
  obtain ⟨d, hd, hfirst⟩ := hhanded
  refine ⟨hlook, ?_, ⟨d, hd, hfirst⟩, hfound d hd first hfirst, fun later => ?_⟩
  · rw [← hmailbox]
    exact (hhistory look rfl).2 hlook
  · have hmem : first ∈ reached.messages := by decide +kernel
    obtain ⟨u, hu, hfollows⟩ := hlasts later first hmem
    exact hfollows.final rfl ▸ hu

end Switchboard
