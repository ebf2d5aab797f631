import Mathlib.Algebra.GroupWithZero.Nat
import Mathlib.Logic.Function.Basic
import Switchboard.Proofs.Mailbox.Trail
import Switchboard.Proofs.TaskQueue.Lifecycle
import Switchboard.Proofs.Announcing

namespace Switchboard

open Operation

structure Standing where
  status : TaskStatus
  claimedBy : Option String
  deriving DecidableEq

def Task.standing (t : Task) : Standing := ⟨t.status, t.claimedBy⟩

abbrev Board := Int → Option Standing

namespace Notice

def move (board : Board) : Notice → Board
  | .taskSubmitted id _ _ _ => Function.update board id (some ⟨.pending, none⟩)
  | .taskClaimed id dispatcher => Function.update board id (some ⟨.running, some dispatcher⟩)
  | .taskComplete id =>
    Function.update board id ((board id).map fun s => { s with status := .complete })
  | .taskFailed id =>
    Function.update board id ((board id).map fun s => { s with status := .failed })
  | _ => board

def claimedId? : Notice → Option Int
  | .messageClaimed id _ => some id
  | _ => none

def claimsFrom (name : String) : Notice → Bool
  | .messageClaimed _ mailbox => mailbox == name
  | _ => false

def drainedFrom (name : String) : Notice → Nat
  | .mailboxDrained count mailbox => if mailbox = name then count else 0
  | _ => 0

end Notice

def replay (log : List Notice) : Board := log.foldl Notice.move fun _ => none

def claimsTold (name : String) (log : List Notice) : Nat :=
  log.countP (·.claimsFrom name) + (log.map (·.drainedFrom name)).sum

theorem claimsTold_append (name : String) (earlier later : List Notice) :
    claimsTold name (earlier ++ later) = claimsTold name earlier + claimsTold name later := by
  simp only [claimsTold, List.countP_append, List.map_append, List.sum_append]
  omega

def Attempt.lines (attempt : Attempt) (store : Store) : List Notice :=
  (attempt.perform store).2.told.drop attempt.run.told.length

/-- The lines that attempts add to the log, one after the other. -/
def Store.log (store : Store) : List Attempt → List Notice
  | [] => []
  | attempt :: later => attempt.lines store ++ (attempt.after store).log later

theorem Store.log_append (store : Store) (earlier later : List Attempt) :
    store.log (earlier ++ later) = store.log earlier ++ (store.after earlier).log later := by
  induction earlier generalizing store with
  | nil => rfl
  | cons attempt earlier ih =>
    rw [List.cons_append, log, log, ih, List.append_assoc]
    rfl

theorem Attempt.lines_eq (attempt : Attempt) (store : Store) :
    attempt.lines store = linesOf (attempt.call.lines attempt.context) (attempt.answer store) := by
  rw [lines, Attempt.told_perform, List.drop_left]

namespace Deed

def receivedId? : Deed → Option Int
  | ⟨.tryReceive _, _, .message m⟩ => m.map (·.id)
  | _ => none

end Deed

namespace Call

variable {context : Context} (now : Timestamp) {call : Call} {answer : Answer}

theorem claimsTold_lines (name : String) :
    claimsTold name (call.lines context answer) =
      (Deed.handedTo name ⟨call, now, answer⟩).length := by
  cases call with
  | tryReceive target =>
    cases answer with
    | message m =>
      cases m with
      | none => simp [lines, claimsTold, Deed.handedTo]
      | some m =>
        by_cases h : target = name <;>
          simp [lines, claimsTold, Deed.handedTo, Notice.claimsFrom, Notice.drainedFrom, h]
    | _ => rfl
  | drain target =>
    cases answer with
    | messages messages =>
      by_cases h : target = name <;>
        simp [lines, claimsTold, Deed.handedTo, Notice.claimsFrom, Notice.drainedFrom, h]
    | _ => rfl
  | _ => cases answer <;> rfl

theorem claimedIds_lines :
    (call.lines context answer).filterMap Notice.claimedId? =
      (Deed.receivedId? ⟨call, now, answer⟩).toList := by
  cases call with
  | tryReceive target =>
    cases answer with
    | message m => cases m <;> rfl
    | _ => rfl
  | _ => cases answer <;> rfl

end Call

namespace Ledger

variable {ledger next : Ledger} {id : Int}

def board (ledger : Ledger) : Board := fun id => (ledger.task? id).map Task.standing

theorem board_of_tasks (h : next.tasks = ledger.tasks) : next.board = ledger.board := by
  unfold board task?
  rw [h]

theorem board_addTask (hs : ledger.Sound) {t : Task} (h : t.id = ledger.last + 1) :
    (ledger.mint.addTask t).board =
      Function.update ledger.board (ledger.last + 1) (some t.standing) := by
  funext id
  have htasks : (ledger.mint.addTask t).tasks = ledger.tasks ++ [t] := rfl
  unfold board task?
  rw [htasks, List.find?_append]
  by_cases hid : id = ledger.last + 1
  · have hnew : ledger.tasks.find? (·.id == id) = none := by
      refine List.find?_eq_none.2 fun u hu => ?_
      have hle : u.id ≤ ledger.last := hs.tasks.bounded u hu
      simp only [beq_iff_eq]
      omega
    rw [hnew, hid, Function.update_self]
    simp [h]
  · have hne : t.id ≠ id := by omega
    rw [Function.update_of_ne hid]
    simp [hne]

theorem task?_changeTask {f : Task → Task} (hf : ∀ t, (f t).id = t.id) (other : Int) :
    (ledger.changeTask id f).task? other =
      if other = id then (ledger.task? id).map f else ledger.task? other := by
  have hfind : (ledger.changeTask id f).task? other =
      (ledger.task? other).map fun t => if t.id == id then f t else t := by
    unfold task? changeTask
    dsimp only
    rw [List.find?_map]
    congr 2
    funext t
    dsimp only [Function.comp_apply]
    split <;> simp [hf]
  rw [hfind]
  cases hfound : ledger.task? other with
  | none =>
    split
    · rename_i hid
      rw [← hid, hfound]
      rfl
    · rfl
  | some t =>
    have hother : t.id = other := by simpa using List.find?_some hfound
    split
    · rename_i hid
      rw [← hid, hfound]
      simp [hother]
    · rename_i hid
      simp [hother, hid]

theorem board_changeTask {f : Task → Task} (hf : ∀ t, (f t).id = t.id) {g : Standing → Standing}
    (hg : ∀ t, (f t).standing = g t.standing) :
    (ledger.changeTask id f).board = Function.update ledger.board id ((ledger.board id).map g) := by
  funext other
  unfold board
  rw [task?_changeTask hf]
  by_cases hid : other = id
  · rw [hid, if_pos rfl, Function.update_self, Option.map_map, Option.map_map]
    congr 1
    funext t
    exact hg t
  · rw [if_neg hid, Function.update_of_ne hid]

end Ledger

theorem Effect.board {now : Timestamp} {call : Call} {answer : Answer} {ledger next : Ledger}
    (context : Context) (hs : ledger.Sound) (h : Effect now ledger call answer next) :
    (call.lines context answer).foldl Notice.move ledger.board = next.board := by
  cases h with
  | submitted new =>
    have hid : (Task.queued (ledger.last + 1) now new).id = ledger.last + 1 := rfl
    exact (Ledger.board_addTask hs hid).symm
  | @claimed dispatcher id hfound =>
    obtain ⟨t, ht, hid, -⟩ := hfound
    have hthere : ledger.board id = some t.standing := by
      rw [Ledger.board, (Ledger.task?_eq_some hs).2 ⟨ht, hid⟩]
      rfl
    rw [Ledger.board_changeTask (f := Task.claimFor dispatcher now)
      (g := fun _ => ⟨.running, some dispatcher⟩) (fun _ => rfl) fun _ => rfl, hthere]
    rfl
  | completed output hfound =>
    exact (Ledger.board_changeTask (f := Task.completeWith output now)
      (g := fun s => { s with status := .complete }) (fun _ => rfl) fun _ => rfl).symm
  | failed error hfound =>
    exact (Ledger.board_changeTask (f := Task.failWith error now)
      (g := fun s => { s with status := .failed }) (fun _ => rfl) fun _ => rfl).symm
  | @routed id agentFile model hfound =>
    rw [Ledger.board_changeTask (f := Task.routeTo agentFile model) (g := fun s => s)
      (fun _ => rfl) fun _ => rfl, Option.map_id', Function.update_eq_self]
    rfl
  | cleaned who names => exact (Ledger.board_of_tasks Ledger.recordAll_tasks).symm
  | looked answer hlooks hcheck =>
    cases call <;> first | rfl | cases hlooks
  | _ => exact (Ledger.board_of_tasks rfl).symm

/-- The log of a run goes with the tasks of a ledger and with what has been handed over. -/
structure Ledger.Logged (ledger : Ledger) (deeds : List Deed) (log : List Notice) : Prop where
  board : replay log = ledger.board
  claims : ∀ name, claimsTold name log = (deeds.flatMap (Deed.handedTo name)).length
  ids : log.filterMap Notice.claimedId? = deeds.filterMap Deed.receivedId?

theorem Ledger.logged_empty : ({} : Ledger).Logged [] [] := ⟨rfl, fun _ => rfl, rfl⟩

theorem Ledger.Logged.step {ledger next : Ledger} {deeds : List Deed} {log : List Notice}
    {now : Timestamp} {call : Call} {answer : Answer} (context : Context) (hs : ledger.Sound)
    (h : ledger.Logged deeds log) (heffect : Effect now ledger call answer next) :
    next.Logged (deeds ++ [⟨call, now, answer⟩]) (log ++ call.lines context answer) where
  board := by
    rw [replay, List.foldl_append]
    change (call.lines context answer).foldl Notice.move (replay log) = next.board
    rw [h.board]
    exact heffect.board context hs
  claims name := by
    rw [claimsTold_append, h.claims, Call.claimsTold_lines now, List.flatMap_append,
      List.length_append, List.flatMap_singleton]
  ids := by
    rw [List.filterMap_append, h.ids, Call.claimedIds_lines now, List.filterMap_append,
      List.filterMap_cons, List.filterMap_nil]
    cases Deed.receivedId? ⟨call, now, answer⟩ <;> rfl

theorem Store.logged {store : Store} {ledger : Ledger} {deeds : List Deed} {log : List Notice}
    (hs : ledger.Sound) (h : store.tables.Holds ledger) (hlogged : ledger.Logged deeds log)
    (attempts : List Attempt) :
    ∃ last, last.Sound ∧ (store.after attempts).tables.Holds last ∧
      last.Logged (deeds ++ store.deeds attempts) (log ++ store.log attempts) := by
  induction attempts generalizing store ledger deeds log with
  | nil => exact ⟨ledger, hs, h, by simpa [Store.deeds, Store.log] using hlogged⟩
  | cons attempt later ih =>
    rw [Store.after_cons, Store.deeds, Store.log, Attempt.lines_eq]
    -- The ledger goes on with a call that succeeds, and stays as it is with one that fails.
    obtain ⟨answer, next, hanswer, hnext, heffect⟩ | ⟨⟨failure, hanswer⟩, hsame⟩ :=
      attempt.effect hs h
    · rw [Attempt.deed?_of_ok hanswer, hanswer, Option.toList_some, ← List.append_assoc,
        ← List.append_assoc]
      exact ih (heffect.sound hs) hnext (hlogged.step attempt.context hs heffect)
    · rw [Attempt.deed?_of_error hanswer, hanswer, Option.toList_none, List.nil_append]
      exact ih hs hsame hlogged

namespace Ledger.Trail

variable {ledger : Ledger} {deeds : List Deed}

theorem handed_ascending (h : ledger.Trail deeds) (hs : ledger.Sound) (name : String) :
    deeds.Pairwise fun d e =>
      ∀ m ∈ d.handedTo name, ∀ n ∈ e.handedTo name, m.id < n.id := by
  have hascending : (ledger.mailbox name).Pairwise fun a b => a.id < b.id :=
    hs.messages.ascending.filter _
  rw [h.mailbox] at hascending
  exact (List.pairwise_flatMap.1 (List.pairwise_append.1 hascending).1).2

theorem mem_of_handed (h : ledger.Trail deeds) {d : Deed} (hd : d ∈ deeds) {name : String}
    {m : Message} (hm : m ∈ d.handedTo name) : m ∈ ledger.messages ∧ m.target = name := by
  have hmailbox : m ∈ ledger.mailbox name := by
    rw [h.mailbox]
    exact List.mem_append_left _ (List.mem_flatMap.2 ⟨d, hd, hm⟩)
  simpa [Ledger.mailbox] using hmailbox

end Ledger.Trail

theorem Deed.handed_of_received {d : Deed} {id : Int} (h : d.receivedId? = some id) :
    ∃ name, ∃ m ∈ d.handedTo name, m.id = id := by
  obtain ⟨call, now, answer⟩ := d
  unfold receivedId? at h
  split at h
  · rename_i name _ m heq
    obtain ⟨received, rfl, rfl⟩ := Option.map_eq_some_iff.1 h
    cases heq
    exact ⟨name, received, by simp [handedTo], rfl⟩
  · cases h

theorem Ledger.Trail.received_nodup {ledger : Ledger} {deeds : List Deed} (h : ledger.Trail deeds)
    (hs : ledger.Sound) : (deeds.filterMap Deed.receivedId?).Nodup := by
  refine List.pairwise_filterMap.2 (List.pairwise_iff_getElem.2 ?_)
  intro i j hi hj hij x hx y hy hxy
  obtain ⟨name, m, hm, rfl⟩ := Deed.handed_of_received hx
  obtain ⟨other, n, hn, rfl⟩ := Deed.handed_of_received hy
  obtain ⟨hmem, htarget⟩ := h.mem_of_handed (List.getElem_mem hi) hm
  obtain ⟨hmem', htarget'⟩ := h.mem_of_handed (List.getElem_mem hj) hn
  -- A message is in one mailbox only, which hands it over once.
  obtain rfl := hs.messages.eq_of_id hmem hmem' hxy
  obtain rfl := htarget.symm.trans htarget'
  have hlt := List.pairwise_iff_getElem.1 (h.handed_ascending hs m.target) i j hi hj hij m
    (htarget ▸ hm) m (htarget ▸ hn)
  omega

def Encounter.lines (e : Encounter) : List Notice := e.attempt.lines e.found

theorem Attempt.told_append (attempt : Attempt) (store : Store) :
    (attempt.perform store).2.told = attempt.run.told ++ attempt.lines store := by
  rw [attempt.lines_eq, attempt.told_perform]

namespace Receive

variable {others : Others} {name : String} {context : Context} {deadline limit : Option Nat}
  {made patience : Nat} {run left : Run} {result : Except Failure Reception} {turns : List Turn}

section Turns

variable (act : Store → Store) {found : Store}

theorem told_pollTurn {received : Except Failure (Option Message)}
    (h : perform (Mailbox.tryReceive name) context { run with store := found } = (received, left)) :
    left.told = run.told ++
      Encounter.lines ⟨(pollTurn act name context run).attempt, found⟩ := by
  have htold : ((pollTurn act name context run).attempt.perform found).2.told = _ :=
    Attempt.told_append _ found
  rwa [pollTurn_perform act h] at htold

theorem told_statusTurn {status : AgentStatus} {recorded : Except Failure Int}
    (h : perform (Registry.recordStatus name status) context { run with store := found } =
      (recorded, left)) :
    left.told = run.told ++
      Encounter.lines ⟨(statusTurn act name status context run).attempt, found⟩ := by
  have htold : ((statusTurn act name status context run).attempt.perform found).2.told = _ :=
    Attempt.told_append _ found
  rwa [statusTurn_perform act h] at htold

end Turns

theorem Polls.told_eq (h : Polls others name context deadline made run turns result left) :
    left.told = run.told ++ (run.store.encounters turns).flatMap Encounter.lines := by
  induction h with
  | unwatched => simp [Store.encounters]
  | @failed made run left failure h | @delivered made run left m h =>
    rw [told_pollTurn (others.beforePoll made) h, encounters_cons_of_perform (pollTurn_perform _ h)]
    simp [Store.encounters, pollTurn]
  | @timedOut made run left h hnap =>
    have htold : Run.told { left with notices := .receiveTimedOut name :: left.notices } =
        left.told := by
      simp [Run.told, Notice.level]
    rw [htold, told_pollTurn (others.beforePoll made) h,
      encounters_cons_of_perform (pollTurn_perform _ h)]
    simp [Store.encounters, pollTurn]
  | @again made run middle left milliseconds turns result h hnap hrest ih =>
    have hrested : (rested milliseconds middle).told = middle.told := rfl
    rw [ih, hrested, told_pollTurn (others.beforePoll made) h,
      encounters_cons_of_perform (pollTurn_perform _ h), List.append_assoc]
    rfl

theorem told_of_receive
    (h : perform (receive others patience name limit) context run = (result, left)) :
    ∃ turns, Course others name context turns ∧ left.store = run.store.afterTurns turns ∧
      left.told = run.told ++ (run.store.encounters turns).flatMap Encounter.lines := by
  obtain ⟨failure, hwaiting, rfl⟩ |
    ⟨_, shown, received, waited, restored, polls, hwaiting, hpolls, hrunning, rfl⟩ :=
    cases_of_receive h
  · refine ⟨_, .stopped run, ?_, ?_⟩
    · rw [afterTurns_cons_of_perform (statusTurn_perform id hwaiting)]
      rfl
    · rw [encounters_cons_of_perform (statusTurn_perform id hwaiting), told_statusTurn id hwaiting]
      simp [Store.encounters, statusTurn]
  · refine ⟨_, hpolls.course run, afterTurns_fullTurns hwaiting hpolls hrunning, ?_⟩
    rw [encounters_fullTurns hwaiting hpolls, told_statusTurn others.afterPolls hrunning,
      hpolls.told_eq, told_statusTurn id hwaiting, List.flatMap_cons, List.flatMap_append,
      List.flatMap_singleton, List.append_assoc, List.append_assoc]

/-- Among others who make calls, the lines of a receiver are found in the log of a run that leaves
the store as the receiver does, in their order. -/
theorem Course.log (h : Course others name context turns) (hothers : others.ByCalls)
    (store : Store) :
    ∃ attempts, (turns.map (·.attempt)).Sublist attempts ∧
      store.afterTurns turns = store.after attempts ∧
      ((store.encounters turns).flatMap Encounter.lines).Sublist (store.log attempts) := by
  have hcalls := h.calls hothers
  clear h
  induction turns generalizing store with
  | nil => exact ⟨[], .slnil, rfl, .slnil⟩
  | cons turn later ih =>
    obtain ⟨hturn, hlater⟩ := List.forall_mem_cons.1 hcalls
    obtain ⟨before, hbefore⟩ := hturn store
    obtain ⟨attempts, hsublist, hrest, hlog⟩ := ih (turn.attempt.after (turn.others store)) hlater
    rw [hbefore] at hrest hlog
    -- The calls of the others come into the run before the turn's own.
    refine ⟨before ++ turn.attempt :: attempts, ?_, ?_, ?_⟩
    · exact (hsublist.cons_cons _).trans (List.sublist_append_right _ _)
    · rw [Store.after_append, Store.after_cons, ← hrest, ← hbefore]
      rfl
    · rw [Store.log_append, Store.log, Store.encounters, hbefore, List.flatMap_cons]
      exact ((List.Sublist.refl _).append hlog).trans (List.sublist_append_right _ _)

end Receive

end Switchboard
