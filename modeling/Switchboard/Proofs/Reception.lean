import Switchboard.Handle
import Switchboard.Proofs.Atomicity
import Switchboard.Proofs.Registry.Recording
import Switchboard.Receive
import Switchboard.Store.Directory

namespace Switchboard

open Operation

/-- A transaction of a receiver, and what others do before it. -/
structure Turn where
  others : Store → Store
  attempt : Attempt

/-- A transaction and the store that it finds. -/
structure Encounter where
  attempt : Attempt
  found : Store

namespace Encounter

def answer (e : Encounter) : Except Failure Answer := e.attempt.answer e.found

def left (e : Encounter) : Store := e.attempt.after e.found

def deed? (e : Encounter) : Option Deed := e.attempt.deed? e.found

def handedOver? : Except Failure Answer → Option Message
  | .ok (.message m) => m
  | _ => none

def claimed? (e : Encounter) : Option Message := handedOver? e.answer

theorem answer_of_claimed {e : Encounter} {m : Message} (h : e.claimed? = some m) :
    e.answer = .ok (.message (some m)) := by
  unfold claimed? handedOver? at h
  split at h
  · rename_i hanswer
    rw [hanswer, h]
  · cases h

end Encounter

namespace Store

def afterTurns (store : Store) (turns : List Turn) : Store :=
  turns.foldl (fun store turn => turn.attempt.after (turn.others store)) store

def encounters (store : Store) : List Turn → List Encounter
  | [] => []
  | turn :: later =>
    ⟨turn.attempt, turn.others store⟩ :: (turn.attempt.after (turn.others store)).encounters later

def claims (store : Store) (turns : List Turn) : List Message :=
  (store.encounters turns).filterMap (·.claimed?)

theorem afterTurns_append (store : Store) (earlier later : List Turn) :
    store.afterTurns (earlier ++ later) = (store.afterTurns earlier).afterTurns later :=
  List.foldl_append

theorem encounters_append (store : Store) (earlier later : List Turn) :
    store.encounters (earlier ++ later) =
      store.encounters earlier ++ (store.afterTurns earlier).encounters later := by
  induction earlier generalizing store with
  | nil => rfl
  | cons turn earlier ih =>
    rw [List.cons_append, encounters, ih]
    rfl

end Store

theorem Store.claims_append (store : Store) (earlier later : List Turn) :
    store.claims (earlier ++ later) =
      store.claims earlier ++ (store.afterTurns earlier).claims later := by
  unfold claims
  rw [encounters_append, List.filterMap_append]

namespace Receive

variable {others : Others} {name : String} {context : Context} {deadline limit : Option Nat}
  {made polls patience : Nat} {run left : Run} {result : Except Failure Reception}
  {turns : List Turn} {failure : Failure} {m : Message}

def statusTurn (others : Store → Store) (name : String) (status : AgentStatus) (context : Context)
    (run : Run) : Turn :=
  ⟨others, ⟨.recordStatus name status, context, run⟩⟩

def pollTurn (others : Store → Store) (name : String) (context : Context) (run : Run) : Turn :=
  ⟨others, ⟨.tryReceive name, context, run⟩⟩

def afterOthers (act : Store → Store) (run : Run) : Run := { run with store := act run.store }

def rested (milliseconds : Nat) (run : Run) : Run :=
  { run with elapsed := run.elapsed + milliseconds, naps := milliseconds :: run.naps }

/-- How a wait goes on from a number of polls made: its turns, what it results in, and what it
leaves behind. -/
inductive Polls (others : Others) (name : String) (context : Context) (deadline : Option Nat) :
    Nat → Run → List Turn → Except Failure Reception → Run → Prop where
  | unwatched (made : Nat) (run : Run) :
    Polls others name context deadline made run [] (.ok .stillWaiting) run
  | failed {made : Nat} {run left : Run} {failure : Failure}
      (h : perform (Mailbox.tryReceive name) context (afterOthers (others.beforePoll made) run) =
        (.error failure, left)) :
    Polls others name context deadline made run
      [pollTurn (others.beforePoll made) name context run] (.error failure) left
  | delivered {made : Nat} {run left : Run} {m : Message}
      (h : perform (Mailbox.tryReceive name) context (afterOthers (others.beforePoll made) run) =
        (.ok (some m), left)) :
    Polls others name context deadline made run
      [pollTurn (others.beforePoll made) name context run] (.ok (.delivered m)) left
  | timedOut {made : Nat} {run left : Run}
      (h : perform (Mailbox.tryReceive name) context (afterOthers (others.beforePoll made) run) =
        (.ok none, left))
      (hnap : nap? context.config.pollInterval left.elapsed deadline = none) :
    Polls others name context deadline made run
      [pollTurn (others.beforePoll made) name context run] (.ok .timedOut)
      { left with notices := .receiveTimedOut name :: left.notices }
  | again {made : Nat} {run middle left : Run} {milliseconds : Nat} {turns : List Turn}
      {result : Except Failure Reception}
      (h : perform (Mailbox.tryReceive name) context (afterOthers (others.beforePoll made) run) =
        (.ok none, middle))
      (hnap : nap? context.config.pollInterval middle.elapsed deadline = some milliseconds)
      (hrest : Polls others name context deadline (made + 1) (rested milliseconds middle) turns
        result left) :
    Polls others name context deadline made run
      (pollTurn (others.beforePoll made) name context run :: turns) result left

theorem perform_poll_succ :
    perform (poll others name deadline made (polls + 1)) context run =
      match perform (Mailbox.tryReceive name) context
        (afterOthers (others.beforePoll made) run) with
      | (.error failure, left) => (.error failure, left)
      | (.ok (some m), left) => (.ok (.delivered m), left)
      | (.ok none, left) =>
        match nap? context.config.pollInterval left.elapsed deadline with
        | none => (.ok .timedOut, { left with notices := .receiveTimedOut name :: left.notices })
        | some milliseconds =>
          perform (poll others name deadline (made + 1) polls) context
            (rested milliseconds left) := by
  rw [poll, perform_bind]
  change perform (Mailbox.tryReceive name >>= _) context
    (afterOthers (others.beforePoll made) run) = _
  rw [perform_bind]
  obtain ⟨failure | _ | m, left⟩ :=
    perform (Mailbox.tryReceive name) context (afterOthers (others.beforePoll made) run)
  · rfl
  · simp only [perform_bind, perform_read, perform_get]
    cases nap? context.config.pollInterval left.elapsed deadline <;> rfl
  · rfl

theorem polls_of_poll
    (h : perform (poll others name deadline made polls) context run = (result, left)) :
    ∃ turns, Polls others name context deadline made run turns result left := by
  induction polls generalizing made run with
  | zero =>
    cases h
    exact ⟨[], .unwatched made left⟩
  | succ polls ih =>
    rw [perform_poll_succ] at h
    split at h
    · cases h
      exact ⟨_, .failed ‹_›⟩
    · cases h
      exact ⟨_, .delivered ‹_›⟩
    · split at h
      · cases h
        exact ⟨_, .timedOut ‹_› ‹_›⟩
      · obtain ⟨turns, hrest⟩ := ih h
        exact ⟨_, .again ‹_› ‹_› hrest⟩

section Turns

variable (act : Store → Store) {status : AgentStatus} {later : List Turn}

theorem pollTurn_perform {found : Store} {received : Except Failure (Option Message)}
    (h : perform (Mailbox.tryReceive name) context { run with store := found } =
      (received, left)) :
    (pollTurn act name context run).attempt.perform found = (received.map .message, left) := by
  change perform (Answer.message <$> Mailbox.tryReceive name) context
    { run with store := found } = _
  rw [perform_map, h]

theorem statusTurn_perform {found : Store} {recorded : Except Failure Int}
    (h : perform (Registry.recordStatus name status) context { run with store := found } =
      (recorded, left)) :
    (statusTurn act name status context run).attempt.perform found = (recorded.map .id, left) := by
  change perform (Answer.id <$> Registry.recordStatus name status) context
    { run with store := found } = _
  rw [perform_map, h]

theorem afterTurns_cons_of_perform {turn : Turn} {store : Store} {answer : Except Failure Answer}
    (h : turn.attempt.perform (turn.others store) = (answer, left)) :
    store.afterTurns (turn :: later) = left.store.afterTurns later := by
  rw [Store.afterTurns, List.foldl_cons, Attempt.after_of_perform h]
  rfl

theorem encounters_cons_of_perform {turn : Turn} {store : Store} {answer : Except Failure Answer}
    (h : turn.attempt.perform (turn.others store) = (answer, left)) :
    store.encounters (turn :: later) =
      ⟨turn.attempt, turn.others store⟩ :: left.store.encounters later := by
  rw [Store.encounters, Attempt.after_of_perform h]

theorem claims_cons_of_perform {turn : Turn} {store : Store} {answer : Except Failure Answer}
    (h : turn.attempt.perform (turn.others store) = (answer, left)) :
    store.claims (turn :: later) =
      (Encounter.handedOver? answer).toList ++ left.store.claims later := by
  have hclaimed : Encounter.claimed? ⟨turn.attempt, turn.others store⟩ =
      Encounter.handedOver? answer := congrArg Encounter.handedOver? (Attempt.answer_of_perform h)
  rw [Store.claims, encounters_cons_of_perform h, List.filterMap_cons, hclaimed]
  cases Encounter.handedOver? answer <;> rfl

end Turns

def deliveries : Except Failure Reception → List Message
  | .ok (.delivered m) => [m]
  | _ => []

theorem polls_of_wait
    (h : perform (wait others patience name limit) context run = (result, left)) :
    ∃ turns, Polls others name context (Receive.deadline run.elapsed limit) 0 run turns result
      left := by
  rw [wait, perform_bind, perform_get] at h
  exact polls_of_poll h

namespace Polls

theorem store_eq (h : Polls others name context deadline made run turns result left) :
    left.store = run.store.afterTurns turns := by
  induction h with
  | unwatched => rfl
  | failed h | delivered h | timedOut h =>
    rw [afterTurns_cons_of_perform (pollTurn_perform _ h)]
    rfl
  | again h hnap hrest ih =>
    rw [afterTurns_cons_of_perform (pollTurn_perform _ h)]
    exact ih

theorem claims_eq (h : Polls others name context deadline made run turns result left) :
    run.store.claims turns = deliveries result := by
  induction h with
  | unwatched => rfl
  | failed h | delivered h | timedOut h =>
    rw [claims_cons_of_perform (pollTurn_perform _ h)]
    rfl
  | again h hnap hrest ih =>
    rw [claims_cons_of_perform (pollTurn_perform _ h)]
    exact ih

theorem eq_pollTurn (h : Polls others name context deadline made run turns result left) (i : Nat)
    (hi : i < turns.length) :
    ∃ run, turns[i] = pollTurn (others.beforePoll (made + i)) name context run := by
  induction h generalizing i with
  | unwatched => exact absurd hi (Nat.not_lt_zero i)
  | failed | delivered | timedOut =>
    obtain rfl : i = 0 := by simpa using hi
    exact ⟨_, rfl⟩
  | @again made _ _ _ _ _ _ _ _ _ ih =>
    cases i with
    | zero => exact ⟨_, rfl⟩
    | succ i =>
      obtain ⟨run, hrun⟩ := ih i (Nat.lt_of_succ_lt_succ hi)
      refine ⟨run, ?_⟩
      rw [List.getElem_cons_succ, hrun, Nat.add_right_comm, Nat.add_assoc]

end Polls

theorem perform_receive :
    perform (receive others patience name limit) context run =
      match perform (Registry.recordStatus name .waiting) context run with
      | (.error failure, left) => (.error failure, left)
      | (.ok _, shown) =>
        match perform (wait others patience name limit) context shown with
        | (received, waited) =>
          match perform (Registry.recordStatus name .running) context
            (afterOthers others.afterPolls waited) with
          | (restored, left) => (conclude received (restored.map fun _ => ()), left) := by
  rw [receive, perform_bind, perform_discard]
  obtain ⟨failure | id, shown⟩ := perform (Registry.recordStatus name .waiting) context run
  · rfl
  · dsimp only [Except.map]
    rw [perform_bind, perform_outcome]
    obtain ⟨received, waited⟩ := perform (wait others patience name limit) context shown
    dsimp only
    rw [perform_bind, interlude, perform_modify]
    dsimp only
    rw [perform_bind, perform_outcome, perform_discard]
    exact perform_liftM _ _ _

theorem cases_of_receive
    (h : perform (receive others patience name limit) context run = (result, left)) :
    (∃ failure, perform (Registry.recordStatus name .waiting) context run = (.error failure, left) ∧
        result = .error failure) ∨
      ∃ id shown received waited restored polls,
        perform (Registry.recordStatus name .waiting) context run = (.ok id, shown) ∧
        Polls others name context (Receive.deadline shown.elapsed limit) 0 shown polls received
          waited ∧
        perform (Registry.recordStatus name .running) context
          (afterOthers others.afterPolls waited) = (restored, left) ∧
        result = conclude received (restored.map fun _ => ()) := by
  rw [perform_receive] at h
  split at h
  · rename_i failure stopped hwaiting
    cases h
    exact .inl ⟨failure, hwaiting, rfl⟩
  · rename_i id shown hwaiting
    split at h
    rename_i received waited hwait
    split at h
    rename_i restored ended hrunning
    cases h
    obtain ⟨polls, hpolls⟩ := polls_of_wait hwait
    exact .inr ⟨id, shown, received, waited, restored, polls, hwaiting, hpolls, hrunning, rfl⟩

/-- The turns of a call: if the receiver cannot even be shown as waiting, that is all. -/
inductive Course (others : Others) (name : String) (context : Context) : List Turn → Prop where
  | stopped (run : Run) : Course others name context [statusTurn id name .waiting context run]
  | full (first last : Run) {polls : List Turn}
      (h : ∀ (i : Nat) (hi : i < polls.length),
        ∃ run, polls[i] = pollTurn (others.beforePoll i) name context run) :
    Course others name context (statusTurn id name .waiting context first ::
      (polls ++ [statusTurn others.afterPolls name .running context last]))

def fullTurns (others : Others) (name : String) (context : Context) (first : Run)
    (polls : List Turn) (last : Run) : List Turn :=
  statusTurn id name .waiting context first ::
    (polls ++ [statusTurn others.afterPolls name .running context last])

section Full

variable {shown waited : Run} {polls : List Turn} {recorded : Int}
  {received : Except Failure Reception} {restored : Except Failure Int}

theorem Polls.course (h : Polls others name context deadline 0 shown polls received waited)
    (run : Run) : Course others name context (fullTurns others name context run polls waited) :=
  .full run waited fun i hi => by simpa using h.eq_pollTurn i hi

theorem encounters_fullTurns
    (hwaiting : perform (Registry.recordStatus name .waiting) context run = (.ok recorded, shown))
    (hpolls : Polls others name context deadline 0 shown polls received waited) :
    run.store.encounters (fullTurns others name context run polls waited) =
      ⟨(statusTurn id name .waiting context run).attempt, run.store⟩ ::
        (shown.store.encounters polls ++
          [⟨(statusTurn others.afterPolls name .running context waited).attempt,
            others.afterPolls waited.store⟩]) := by
  rw [fullTurns, encounters_cons_of_perform (statusTurn_perform id hwaiting),
    Store.encounters_append, ← hpolls.store_eq]
  rfl

theorem afterTurns_fullTurns
    (hwaiting : perform (Registry.recordStatus name .waiting) context run = (.ok recorded, shown))
    (hpolls : Polls others name context deadline 0 shown polls received waited)
    (hrunning : perform (Registry.recordStatus name .running) context
      (afterOthers others.afterPolls waited) = (restored, left)) :
    left.store = run.store.afterTurns (fullTurns others name context run polls waited) := by
  rw [fullTurns, afterTurns_cons_of_perform (statusTurn_perform id hwaiting),
    Store.afterTurns_append, ← hpolls.store_eq,
    afterTurns_cons_of_perform (statusTurn_perform others.afterPolls hrunning)]
  rfl

end Full

/-- A message is claimed, but the receiver cannot be shown as running any more and learns of that
only. -/
def Loses (name : String) (store : Store) (turns : List Turn)
    (result : Except Failure Reception) : Prop :=
  ∃ m failure, store.claims turns = [m] ∧ result = .error failure ∧
    ∃ last ∈ store.encounters turns,
      last.attempt.call = .recordStatus name .running ∧ last.answer = .error failure

theorem course_of_receive
    (h : perform (receive others patience name limit) context run = (result, left)) :
    ∃ turns, Course others name context turns ∧ left.store = run.store.afterTurns turns ∧
      (run.store.claims turns = deliveries result ∨ Loses name run.store turns result) := by
  obtain ⟨failure, hwaiting, rfl⟩ |
    ⟨_, shown, received, waited, restored, polls, hwaiting, hpolls, hrunning, rfl⟩ :=
    cases_of_receive h
  · have hturn := statusTurn_perform id hwaiting
    refine ⟨_, .stopped run, ?_, .inl ?_⟩
    · rw [afterTurns_cons_of_perform hturn]
      rfl
    · rw [claims_cons_of_perform hturn]
      rfl
  · refine ⟨_, hpolls.course run, afterTurns_fullTurns hwaiting hpolls hrunning, ?_⟩
    have hlast := statusTurn_perform others.afterPolls hrunning
    have hclaims : run.store.claims (fullTurns others name context run polls waited) =
        deliveries received := by
      rw [fullTurns, claims_cons_of_perform (statusTurn_perform id hwaiting), Store.claims_append,
        ← hpolls.store_eq, claims_cons_of_perform hlast, hpolls.claims_eq]
      cases restored <;> simp [Encounter.handedOver?, Except.map, Store.claims, Store.encounters]
    cases received with
    | error failure => exact .inl hclaims
    | ok reception =>
      cases restored with
      | ok _ => exact .inl hclaims
      | error failure =>
        cases reception with
        | delivered m =>
          refine .inr ⟨m, failure, hclaims, rfl, ⟨_, others.afterPolls waited.store⟩, ?_, rfl,
            Attempt.answer_of_perform hlast⟩
          rw [encounters_fullTurns hwaiting hpolls]
          simp [statusTurn]
        | timedOut => exact .inl hclaims
        | stillWaiting => exact .inl hclaims

end Receive

theorem Registry.messages_of_recordStatus {name : String} {status : AgentStatus}
    {context : Context} {run left : Run} {recorded : Except Failure Int}
    (h : perform (recordStatus name status) context run = (recorded, left)) :
    left.store.tables.rows Message = run.store.tables.rows Message := by
  cases recorded with
  | error failure =>
    exact (recovers_recordStatus name status context run left failure h).sameContent.messages
  | ok id =>
    obtain ⟨connected, _, _, _, _, hsettled, -, -, -, -, hleft⟩ := recordStatus_ok_cases h
    rw [← hsettled.sameContent.messages, hleft]
    rfl

/-- The transaction claims what it hands over, and writes no other row of messages. -/
def Encounter.ClaimsOnly (e : Encounter) (name : String) (now : Timestamp) : Prop :=
  match e.claimed? with
  | none => e.left.tables.rows Message = e.found.tables.rows Message
  | some m =>
    Mailbox.Claims name now (e.found.tables.rows Message) m (e.left.tables.rows Message)

theorem Encounter.claimsOnly_of_perform {attempt : Attempt} {found : Store}
    {answer : Except Failure Answer} {left : Run} {name : String} {now : Timestamp}
    (h : attempt.perform found = (answer, left))
    (hclaims : match handedOver? answer with
      | none => left.store.tables.rows Message = found.tables.rows Message
      | some m =>
        Mailbox.Claims name now (found.tables.rows Message) m (left.store.tables.rows Message)) :
    Encounter.ClaimsOnly ⟨attempt, found⟩ name now := by
  unfold ClaimsOnly claimed? Encounter.answer Encounter.left
  rw [Attempt.answer_of_perform h, Attempt.after_of_perform h]
  exact hclaims

namespace Receive

variable {others : Others} {name : String} {context : Context} {act : Store → Store}

theorem claimsOnly_of_statusTurn (status : AgentStatus) (run : Run) (found : Store) :
    Encounter.ClaimsOnly ⟨(statusTurn act name status context run).attempt, found⟩ name
      context.now := by
  rcases h : perform (Registry.recordStatus name status) context { run with store := found } with
    ⟨recorded, left⟩
  apply Encounter.claimsOnly_of_perform (statusTurn_perform act h)
  have hmessages := Registry.messages_of_recordStatus h
  cases recorded <;> exact hmessages

theorem claimsOnly_of_pollTurn (run : Run) (found : Store) :
    Encounter.ClaimsOnly ⟨(pollTurn act name context run).attempt, found⟩ name context.now := by
  rcases h : perform (Mailbox.tryReceive name) context { run with store := found } with
    ⟨received, left⟩
  apply Encounter.claimsOnly_of_perform (pollTurn_perform act h)
  cases received with
  | error failure => exact (Mailbox.tryReceive_error h).sameContent.messages
  | ok message =>
    obtain ⟨connected, hsettled, hcases⟩ := Mailbox.tryReceive_cases h
    obtain ⟨rfl, -, hleft⟩ | ⟨m, claimed, rfl, hclaims, hleft⟩ := hcases
    · change left.store.tables.rows Message = found.tables.rows Message
      rw [hleft, hsettled.sameContent.messages]
    · change Mailbox.Claims name context.now (found.tables.rows Message) m
        (left.store.tables.rows Message)
      rw [hleft]
      exact hclaims

theorem Course.mem {turns : List Turn} {turn : Turn} (h : Course others name context turns)
    (hturn : turn ∈ turns) :
    (∃ run, turn = statusTurn id name .waiting context run) ∨
      (∃ i run, turn = pollTurn (others.beforePoll i) name context run) ∨
      ∃ run, turn = statusTurn others.afterPolls name .running context run := by
  cases h with
  | stopped run => exact .inl ⟨run, List.mem_singleton.1 hturn⟩
  | full first last hpolls =>
    obtain rfl | hturn := List.mem_cons.1 hturn
    · exact .inl ⟨first, rfl⟩
    obtain hturn | hturn := List.mem_append.1 hturn
    · obtain ⟨i, hi, rfl⟩ := List.mem_iff_getElem.1 hturn
      obtain ⟨run, hrun⟩ := hpolls i hi
      exact .inr (.inl ⟨i, run, hrun⟩)
    · exact .inr (.inr ⟨last, List.mem_singleton.1 hturn⟩)

end Receive

theorem Store.mem_encounters {store : Store} {turns : List Turn} {e : Encounter}
    (h : e ∈ store.encounters turns) : ∃ turn ∈ turns, e.attempt = turn.attempt := by
  induction turns generalizing store with
  | nil => cases h
  | cons turn later ih =>
    obtain rfl | h := List.mem_cons.1 h
    · exact ⟨turn, List.mem_cons_self, rfl⟩
    · obtain ⟨found, hfound, hattempt⟩ := ih h
      exact ⟨found, List.mem_cons_of_mem _ hfound, hattempt⟩

namespace Receive

variable {others : Others} {name : String} {context : Context} {turns : List Turn}

theorem Course.claimsOnly (h : Course others name context turns) {store : Store} {e : Encounter}
    (he : e ∈ store.encounters turns) : e.ClaimsOnly name context.now := by
  obtain ⟨attempt, found⟩ := e
  obtain ⟨turn, hturn, rfl⟩ := Store.mem_encounters he
  obtain ⟨run, rfl⟩ | ⟨i, run, rfl⟩ | ⟨run, rfl⟩ := h.mem hturn
  · exact claimsOnly_of_statusTurn .waiting run found
  · exact claimsOnly_of_pollTurn run found
  · exact claimsOnly_of_statusTurn .running run found

structure Others.ByCalls (others : Others) : Prop where
  beforePoll : ∀ i store, ∃ attempts, others.beforePoll i store = store.after attempts
  afterPolls : ∀ store, ∃ attempts, others.afterPolls store = store.after attempts

theorem Course.calls (h : Course others name context turns) (hothers : others.ByCalls)
    (turn : Turn) (hturn : turn ∈ turns) (store : Store) :
    ∃ attempts, turn.others store = store.after attempts := by
  obtain ⟨run, rfl⟩ | ⟨i, run, rfl⟩ | ⟨run, rfl⟩ := h.mem hturn
  · exact ⟨[], rfl⟩
  · exact hothers.beforePoll i store
  · exact hothers.afterPolls store

/-- Among others who make calls, a course of turns is a part of a run, whose deeds are among those of
the run. -/
theorem Course.run (h : Course others name context turns) (hothers : others.ByCalls)
    (store : Store) :
    ∃ attempts, (turns.map (·.attempt)).Sublist attempts ∧
      store.afterTurns turns = store.after attempts ∧
      ∀ e ∈ store.encounters turns, ∀ d ∈ e.deed?, d ∈ store.deeds attempts := by
  have hcalls := h.calls hothers
  clear h
  induction turns generalizing store with
  | nil =>
    refine ⟨[], .slnil, rfl, ?_⟩
    intro e he
    cases he
  | cons turn later ih =>
    obtain ⟨hturn, hlater⟩ := List.forall_mem_cons.1 hcalls
    obtain ⟨before, hbefore⟩ := hturn store
    obtain ⟨attempts, hsublist, hrest, hdeeds⟩ := ih (turn.attempt.after (turn.others store)) hlater
    rw [hbefore] at hrest hdeeds
    refine ⟨before ++ turn.attempt :: attempts, ?_, ?_, ?_⟩
    · exact (hsublist.cons_cons _).trans (List.sublist_append_right _ _)
    · rw [Store.after_append, Store.after_cons, ← hrest, ← hbefore]
      rfl
    · rw [Store.encounters, Store.deeds_append, Store.deeds, hbefore]
      intro e he d hd
      apply List.mem_append_right
      obtain rfl | he := List.mem_cons.1 he
      · exact List.mem_append_left _ (Option.mem_toList.2 hd)
      · exact List.mem_append_right _ (hdeeds e he d hd)

/-- Whatever the store holds, the others do and the faults are: the turns of a call claim exactly
what it delivers, and nothing if it times out or fails. There is one exception. If a poll has
claimed a message and the receiver then cannot be shown as running, the call fails all the same. -/
theorem receive_claims_what_it_delivers (others : Others) (patience : Nat) (name : String)
    (limit : Option Nat) (context : Context) (run : Run) :
    let received := perform (receive others patience name limit) context run
    ∃ turns, Course others name context turns ∧
      received.2.store = run.store.afterTurns turns ∧
      (∀ e ∈ run.store.encounters turns, e.ClaimsOnly name context.now) ∧
      (run.store.claims turns = deliveries received.1 ∨
        Loses name run.store turns received.1) := by
  obtain ⟨turns, hcourse, hstore, hclaims⟩ := course_of_receive
    (rfl : perform (receive others patience name limit) context run = (_, _))
  exact ⟨turns, hcourse, hstore, fun _ he => hcourse.claimsOnly he, hclaims⟩

end Receive

def Store.oneIdLeft : Store where
  tables :=
    { sequence := some { last := Sequence.maxId - 1 }
      messages := .holding ⟨[.plain (.unclaimed 1 .epoch none "worker" "hello")],
        List.pairwise_singleton _ _⟩
      events := .holding .empty
      agents := .holding .empty
      tasks := .holding .empty }

/-- The row that shows the receiver as waiting takes the last id. The message is claimed, the row
that would show the receiver as running finds no id, and all that is told is that failure. -/
theorem receive_may_lose_a_message :
    let context : Context := { path := "coord.db", config := .standard, now := .epoch }
    let received := perform (Receive.receive {} 1 "worker" none) context { store := .oneIdLeft }
    received.1 = .error (.statement .mintId .full) ∧
      (Mailbox.waiting "worker" (Store.oneIdLeft.tables.rows Message)).length = 1 ∧
      Mailbox.waiting "worker" (received.2.store.tables.rows Message) = [] := by
  decide +kernel

inductive Errand where
  | call (call : Call)
  | receive (name : String) (limit : Option Nat)

/-- What a client gets to know at the end of an errand that does not fail. -/
inductive Reply where
  | answer (answer : Answer)
  | reception (reception : Receive.Reception)
  deriving DecidableEq

namespace Errand

def operation (others : Receive.Others) (patience : Nat) : Errand → Operation Reply
  | call c => .answer <$> c.operation
  | receive name limit => .reception <$> Receive.receive others patience name limit

theorem writes_operation {others : Receive.Others} (hothers : Receive.Others.ByCalls others)
    (patience : Nat) (errand : Errand) : Writes (errand.operation others patience) := by
  cases errand with
  | call c => exact c.writes_operation.map _
  | receive name limit =>
    refine Writes.map ?_ _
    intro R hR context run
    rcases hop : perform (Receive.receive others patience name limit) context run with
      ⟨result, left⟩
    obtain ⟨turns, hcourse, hstore, -⟩ := Receive.course_of_receive hop
    obtain ⟨attempts, -, hafter, -⟩ := hcourse.run hothers run.store
    rw [hstore, hafter]
    exact hR.after run.store attempts

end Errand

/-- Do an errand in a directory. Each connection opens the path of the handle anew. -/
def Handle.serve (handle : Handle) (errand : Errand) (others : Receive.Others) (patience : Nat)
    (now : Timestamp) (files : Directory) : Except Failure Reply × Run :=
  handle.perform (errand.operation (others.reopening (files.reopened handle.path)) patience) now
    (files.storeAt handle.path)

end Switchboard
