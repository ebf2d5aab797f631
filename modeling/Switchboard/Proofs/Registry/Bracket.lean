import Switchboard.Proofs.Reception
import Switchboard.Proofs.Registry.Roster

namespace Switchboard

open Operation

/-- Whoever asks for the status of a name is told this one, if anything, and is told it where
nothing stands in the way. The newest row of the name has this pid cell, which is empty if there is
no row. -/
structure Store.Presents (store : Store) (name : String) (status : AgentStatus) (pid : Cell) :
    Prop where
  told : ∀ look : Attempt, look.call = .status name →
    (∀ told, look.answer store = .ok told → told = .status (some status)) ∧
      (store.tables.Own → look.run.Undisturbed store →
        look.answer store = .ok (.status (some status)))
  pid : Registry.lastPid name (store.tables.rows Registration) = pid

namespace Registry

variable {context : Context} {run left : Run} {name : String} {store : Store}
  {row : Entry Registration} {look : Attempt} {told : Answer}

theorem perform_tell_status (hnewest : newest? name (store.tables.rows Registration) = some row)
    (hword : row.stray? "status" = none) :
    perform (match newest? name (store.tables.rows Registration) with
      | none => pure none
      | some e =>
        match e.strayText? "status" with
        | some text => throw (.strayStatus (Vocabulary.refusal AgentStatus text))
        | none => pure (some e.record.status)) context run =
      (.ok (some row.record.status), run) := by
  have hnone : row.strayText? "status" = none := by
    unfold Entry.strayText?
    rw [hword]
  rw [hnewest]
  dsimp only
  rw [hnone]
  rfl

theorem told_status_eq (hlook : look.call.operation = Answer.status <$> Registry.status name)
    (hnewest : newest? name (store.tables.rows Registration) = some row)
    (hword : row.stray? "status" = none) (htold : look.answer store = .ok told) :
    told = .status (some row.record.status) := by
  obtain ⟨found, left, hperform, rfl⟩ := (Attempt.answer_eq_ok hlook).1 htold
  obtain ⟨_, connected, hconnect, h₁⟩ := perform_bind_ok.1 hperform
  obtain ⟨rows, read, hread, h₂⟩ := perform_bind_ok.1 h₁
  obtain ⟨after, hrun, rfl⟩ := perform_statement_ok hread
  obtain ⟨rfl, rfl⟩ := Statement.rows_ok hrun
  rw [(settles_connect.settled hconnect).sameContent.agents] at h₂
  cases h₂.symm.trans (perform_tell_status hnewest hword)
  rfl

theorem answer_status_eq (hlook : look.call.operation = Answer.status <$> Registry.status name)
    (hnewest : newest? name (store.tables.rows Registration) = some row)
    (hword : row.stray? "status" = none) (hown : store.tables.Own)
    (hundisturbed : look.run.Undisturbed store) :
    look.answer store = .ok (.status (some row.record.status)) := by
  let run : Run := { look.run with store }
  have hrun : run.Undisturbed run.store := hundisturbed.found
  have hhas : run.connected.store.tables.has (Stored.name Registration) :=
    store.tables.has_completed _
  obtain ⟨rows, htable, hrows⟩ :=
    Statement.run_tableOf (.noColumn "status") hhas (hown.foldl_ensure _)
  have hlist : rows.list = store.tables.rows Registration :=
    (Tables.rows_of_holding hrows).symm.trans store.tables.completed_sameContent.agents
  have hread : (Statement.rows Registration "status").run run.connected.store =
      .ok (store.tables.rows Registration, run.connected.store) := by
    unfold Statement.rows
    rw [Statement.run_bind_eq htable, hlist]
    rfl
  have hfound : perform (statement .loadAgentStatus (Statement.rows Registration "status"))
      look.context run.connected = (.ok (store.tables.rows Registration), run.connected) :=
    perform_statement hrun.faults hread
  refine (Attempt.answer_eq_ok hlook).2 ⟨_, run.connected, ?_, rfl⟩
  unfold Registry.status
  rw [perform_bind_eq (perform_connect hrun hown), perform_bind_eq hfound]
  exact perform_tell_status hnewest hword

theorem presents_of_newest (hnewest : newest? name (store.tables.rows Registration) = some row)
    (hword : row.stray? "status" = none) :
    store.Presents name row.record.status (row.cell Registration.pidColumn) := by
  constructor
  · intro look hcall
    have hlook : look.call.operation = Answer.status <$> Registry.status name := by
      rw [hcall]
      rfl
    exact ⟨fun told => told_status_eq hlook hnewest hword, answer_status_eq hlook hnewest hword⟩
  · unfold lastPid
    rw [hnewest]

/-- A row that is added to a name whose ids have been passed shows in every store that has the same
rows of the name. -/
theorem Adds.presents {status : AgentStatus} {now : Timestamp} {before after : Store}
    (h : Adds name status now before row after) (hpassed : before.Passed name)
    (hrows : store.rowsOf name = after.rowsOf name) :
    store.Presents name status (lastPid name (before.tables.rows Registration)) := by
  have hnewest : newest? name (store.tables.rows Registration) = some row := by
    change (store.rowsOf name).getLast? = _
    rw [hrows]
    exact h.newest hpassed
  have hpresents := presents_of_newest hnewest (h.plain "status" (by decide))
  rwa [h.status, h.pid] at hpresents

end Registry

/-- From one store to the next, the rows of a name stay, and the sequence of ids is not set back. -/
structure Store.Spares (before : Store) (name : String) (after : Store) : Prop where
  rows : after.rowsOf name = before.rowsOf name
  lastId : before.tables.lastId ≤ after.tables.lastId

namespace Store

variable {before middle after store : Store} {name : String}

theorem Spares.refl (store : Store) (name : String) : store.Spares name store :=
  ⟨rfl, Int.le_refl _⟩

theorem Spares.trans (h : before.Spares name middle) (h' : middle.Spares name after) :
    before.Spares name after :=
  ⟨h'.rows.trans h.rows, Int.le_trans h.lastId h'.lastId⟩

theorem Spares.passed (h : before.Spares name after) (hpassed : before.Passed name) :
    after.Passed name := by
  intro e he
  rw [h.rows] at he
  exact Int.le_trans (hpassed e he) h.lastId

/-- The stores that there are in the course of some turns, from the start on: after each act of the
others, and after each attempt. -/
def stages (store : Store) : List Turn → List Store
  | [] => [store]
  | turn :: later =>
    store :: turn.others store :: (turn.attempt.after (turn.others store)).stages later

def Spared (store : Store) (name : String) : List Turn → Prop
  | [] => True
  | turn :: later => store.Spares name (turn.others store) ∧
    (turn.attempt.after (turn.others store)).Spared name later

theorem afterTurns_mem_stages (store : Store) (turns : List Turn) :
    store.afterTurns turns ∈ store.stages turns := by
  induction turns generalizing store with
  | nil => exact List.mem_singleton.2 rfl
  | cons turn later ih => exact List.mem_cons_of_mem _ (List.mem_cons_of_mem _ (ih _))

theorem Spared.stages {turns : List Turn} (h : store.Spared name turns)
    (hturns : ∀ turn ∈ turns, ∀ found : Store, found.Spares name (turn.attempt.after found)) :
    ∀ stage ∈ store.stages turns, store.Spares name stage := by
  induction turns generalizing store with
  | nil =>
    intro stage hstage
    obtain rfl := List.mem_singleton.1 hstage
    exact .refl _ name
  | cons turn later ih =>
    obtain ⟨hothers, hlater⟩ := h
    obtain ⟨hturn, hrest⟩ := List.forall_mem_cons.1 hturns
    have hattempt := hothers.trans (hturn (turn.others store))
    intro stage hstage
    obtain rfl | hstage := List.mem_cons.1 hstage
    · exact .refl _ name
    obtain rfl | hstage := List.mem_cons.1 hstage
    · exact hothers
    · exact hattempt.trans (ih hlater hrest stage hstage)

end Store

section Clients

variable {store : Store} {ledger next : Ledger} {now : Timestamp} {call : Call} {answer : Answer}
  {name : String}

theorem Tables.Holds.rowsOf (h : store.tables.Holds ledger) (name : String) :
    store.rowsOf name = (ledger.registrations.filter (·.name == name)).map Entry.plain := by
  unfold Store.rowsOf
  rw [h.registrations, List.filter_map]
  rfl

theorem Ledger.filter_register (ledger : Ledger) (now : Timestamp) {other : String}
    (pid : Option Int) (status : AgentStatus) (h : other ≠ name) :
    (ledger.register now other pid status).registrations.filter (·.name == name) =
      ledger.registrations.filter (·.name == name) := by
  change (ledger.registrations ++ [_]).filter _ = _
  rw [List.filter_append, List.filter_cons_of_neg (by simpa using h), List.filter_nil,
    List.append_nil]

theorem Ledger.filter_recordAll (ledger : Ledger) (now : Timestamp) (status : AgentStatus)
    {names : List String} (h : ∀ other ∈ names, other ≠ name) :
    (ledger.recordAll now status names).registrations.filter (·.name == name) =
      ledger.registrations.filter (·.name == name) := by
  induction names generalizing ledger with
  | nil => rfl
  | cons other names ih =>
    obtain ⟨hother, hnames⟩ := List.forall_mem_cons.1 h
    exact (ih _ hnames).trans (ledger.filter_register now _ status hother)

theorem Effect.spares (h : Effect now ledger call answer next)
    (hmarks : ∀ mark ∈ Deed.marks ⟨call, now, answer⟩, mark.name ≠ name) :
    next.registrations.filter (·.name == name) = ledger.registrations.filter (·.name == name) := by
  cases h with
  | registered other pid =>
    exact ledger.filter_register now pid .running (hmarks _ (List.mem_singleton.2 rfl))
  | recordedStatus other status =>
    exact ledger.filter_register now _ status (hmarks _ (List.mem_singleton.2 rfl))
  | unregistered other =>
    exact ledger.filter_register now _ .exited (hmarks _ (List.mem_singleton.2 rfl))
  | cleaned who names =>
    exact ledger.filter_recordAll now .cleaned fun other hother =>
      hmarks ⟨other, .cleaned, now⟩ (List.mem_map_of_mem hother)
  | _ => rfl

def Store.LeavesOut (store : Store) (name : String) (attempts : List Attempt) : Prop :=
  ∀ d ∈ store.deeds attempts, ∀ mark ∈ d.marks, mark.name ≠ name

theorem Store.leavesOut_nil (store : Store) (name : String) : store.LeavesOut name [] := by
  intro d hd
  cases hd

theorem Store.spares_of_leavesOut {attempts : List Attempt} (hs : ledger.Sound)
    (h : store.tables.Holds ledger) (hmarks : store.LeavesOut name attempts) :
    store.Spares name (store.after attempts) := by
  let P (deeds : List Deed) (next : Ledger) : Prop :=
    (∀ d ∈ deeds, ∀ mark ∈ d.marks, mark.name ≠ name) →
      next.registrations.filter (·.name == name) = ledger.registrations.filter (·.name == name)
  have hstep : ∀ (deeds : List Deed) (middle next : Ledger) (now : Timestamp) (call : Call)
      (answer : Answer), middle.Sound → P deeds middle → Effect now middle call answer next →
      P (deeds ++ [⟨call, now, answer⟩]) next := by
    intro deeds middle next now call answer _ hmiddle heffect hdeeds
    obtain ⟨hearlier, hdeed⟩ := List.forall_mem_append.1 hdeeds
    rw [heffect.spares (hdeed _ (List.mem_singleton.2 rfl)), hmiddle hearlier]
  obtain ⟨last, -, hlast, hsame⟩ :=
    @Store.history store ledger P [] hs h (fun _ => rfl) hstep attempts
  obtain ⟨n, hn⟩ := Tables.writing_mints.after store attempts
  have hlastId := hn.lastId
  refine ⟨?_, by omega⟩
  rw [hlast.rowsOf, h.rowsOf, hsame hmarks]

theorem Store.passed_of_holds (hs : ledger.Sound) (h : store.tables.Holds ledger) :
    store.Passed name := by
  intro e he
  rw [h.rowsOf] at he
  obtain ⟨r, hr, rfl⟩ := List.mem_map.1 he
  rw [h.last]
  exact hs.registrations.bounded r (List.mem_filter.1 hr).1

theorem Store.spared_of_leavesOut {turns : List Turn} (hs : ledger.Sound)
    (h : store.tables.Holds ledger)
    (hturns : ∀ turn ∈ turns, ∀ found : Store, ∃ attempts,
      turn.others found = found.after attempts ∧ found.LeavesOut name attempts) :
    store.Spared name turns ∧ ∃ last, last.Sound ∧ (store.afterTurns turns).tables.Holds last := by
  induction turns generalizing store ledger with
  | nil => exact ⟨trivial, ledger, hs, h⟩
  | cons turn later ih =>
    obtain ⟨hturn, hlater⟩ := List.forall_mem_cons.1 hturns
    obtain ⟨attempts, hothers, hmarks⟩ := hturn store
    obtain ⟨next, hnext, hholds⟩ := Store.holds_after hs h (attempts ++ [turn.attempt])
    rw [Store.after_append, ← hothers] at hholds
    obtain ⟨hrest, hlast⟩ := ih hnext hholds hlater
    have hspares := Store.spares_of_leavesOut hs h hmarks
    rw [← hothers] at hspares
    exact ⟨⟨hspares, hrest⟩, hlast⟩

end Clients

namespace Receive

variable {others : Others} {name : String} {context : Context} {deadline limit : Option Nat}
  {made patience : Nat} {run shown waited left : Run} {polls : List Turn}
  {outcome : Except Failure Reception} {act : Store → Store}

theorem quiet_tryReceive {received : Except Failure (Option Message)}
    (h : perform (Mailbox.tryReceive name) context run = (received, left)) :
    left.store.tables.rows Registration = run.store.tables.rows Registration ∧
      left.store.tables.lastId = run.store.tables.lastId := by
  cases received with
  | error failure =>
    have hsame := (Mailbox.tryReceive_error h).sameContent
    exact ⟨hsame.agents, hsame.lastId⟩
  | ok message =>
    obtain ⟨connected, hsettled, hcases⟩ := Mailbox.tryReceive_cases h
    rw [← hsettled.sameContent.agents, ← hsettled.sameContent.lastId]
    obtain ⟨-, -, hleft⟩ | ⟨m, claimed, -, -, hleft⟩ := hcases <;>
    · rw [hleft]
      exact ⟨rfl, rfl⟩

theorem quiet_pollTurn (run : Run) (found : Store) :
    let left := (pollTurn act name context run).attempt.after found
    left.tables.rows Registration = found.tables.rows Registration ∧
      left.tables.lastId = found.tables.lastId := by
  rcases h : perform (Mailbox.tryReceive name) context { run with store := found } with
    ⟨received, left⟩
  dsimp only
  rw [Attempt.after_of_perform (pollTurn_perform act h)]
  exact quiet_tryReceive h

theorem Polls.quiet (h : Polls others name context deadline made run polls outcome waited)
    {turn : Turn} (hturn : turn ∈ polls) (found : Store) :
    (turn.attempt.after found).tables.rows Registration = found.tables.rows Registration ∧
      (turn.attempt.after found).tables.lastId = found.tables.lastId := by
  obtain ⟨i, hi, rfl⟩ := List.mem_iff_getElem.1 hturn
  obtain ⟨run, hrun⟩ := h.eq_pollTurn i hi
  rw [hrun]
  exact quiet_pollTurn run found

theorem Polls.stages (h : Polls others name context deadline made run polls outcome waited)
    (hspared : run.store.Spared name polls) :
    ∀ stage ∈ run.store.stages polls, run.store.Spares name stage := by
  apply hspared.stages
  intro turn hturn found
  obtain ⟨hrows, hlastId⟩ := h.quiet hturn found
  refine ⟨?_, Int.le_of_eq hlastId.symm⟩
  unfold Store.rowsOf
  rw [hrows]

theorem Polls.spares (h : Polls others name context deadline made shown polls outcome waited)
    (hspared : shown.store.Spared name polls)
    (hafter : waited.store.Spares name (others.afterPolls waited.store)) :
    ∀ stage ∈ others.afterPolls waited.store :: shown.store.stages polls,
      shown.store.Spares name stage := by
  intro stage hstage
  obtain rfl | hstage := List.mem_cons.1 hstage
  · have hwaited := h.stages hspared _ (shown.store.afterTurns_mem_stages polls)
    rw [← h.store_eq] at hwaited
    exact hwaited.trans hafter
  · exact h.stages hspared stage hstage

/-- What a receiver does after its wait: it tries to show as running. -/
def restoring (others : Others) (name : String) (context : Context) (waited : Run) :
    Except Failure Int × Run :=
  perform (Registry.recordStatus name .running) context (afterOthers others.afterPolls waited)

/-- How a call goes on whose receiver is shown as waiting, with its polls, what the wait results in,
and what the call comes to. -/
structure Bracket (others : Others) (name : String) (limit : Option Nat) (context : Context)
    (run shown : Run) (polls : List Turn) (outcome : Except Failure Reception) (waited : Run)
    (received : Except Failure Reception × Run) : Prop where
  enters : ∃ row, Registry.Adds name .waiting context.now run.store row shown.store
  waits : Polls others name context (Receive.deadline shown.elapsed limit) 0 shown polls outcome
    waited
  quiet : ∀ e ∈ shown.store.encounters polls,
    e.left.tables.rows Registration = e.found.tables.rows Registration
  /-- However the wait ended, the row after it is tried, and that is the end of the call. -/
  restores : received.2 = (restoring others name context waited).2
  leaves : ∀ id, (restoring others name context waited).1 = .ok id →
    received.1 = outcome ∧ ∃ row, Registry.Adds name .running context.now
      (others.afterPolls waited.store) row received.2.store
  /-- The failure of the wait is told, whatever becomes of the row after it. -/
  failed : ∀ failure, outcome = .error failure → received.1 = .error failure
  unrestored : ∀ failure, (restoring others name context waited).1 = .error failure →
    (others.afterPolls waited.store).Settled received.2.store ∧
      ∀ reception, outcome = .ok reception → received.1 = .error failure
  /-- If the others spare the name, all stores in between show it as waiting, those that the others
  pass through included, and nobody's pid is lost. -/
  shows : run.store.Passed name → shown.store.Spared name polls →
    waited.store.Spares name (others.afterPolls waited.store) →
    let pid := Registry.lastPid name (run.store.tables.rows Registration)
    (∀ stage ∈ others.afterPolls waited.store :: shown.store.stages polls, ∀ store : Store,
        store.rowsOf name = stage.rowsOf name → store.Presents name .waiting pid) ∧
      ∀ id, (restoring others name context waited).1 = .ok id →
        received.2.store.Presents name .running pid

theorem bracket_of_polls {recorded : Int} {restored : Except Failure Int}
    (hwaiting : perform (Registry.recordStatus name .waiting) context run = (.ok recorded, shown))
    (hpolls : Polls others name context (Receive.deadline shown.elapsed limit) 0 shown polls outcome
      waited)
    (hrunning : perform (Registry.recordStatus name .running) context
      (afterOthers others.afterPolls waited) = (restored, left)) :
    Bracket others name limit context run shown polls outcome waited
      (conclude outcome (restored.map fun _ => ()), left) := by
  have hrestoring : restoring others name context waited = (restored, left) := hrunning
  obtain ⟨first, hfirst, -⟩ := Registry.adds_of_recordStatus hwaiting
  refine ⟨⟨first, hfirst⟩, hpolls, ?_, ?_, ?_, ?_, ?_, ?_⟩
  · intro e he
    obtain ⟨turn, hturn, hattempt⟩ := Store.mem_encounters he
    rw [Encounter.left, hattempt]
    exact (hpolls.quiet hturn e.found).1
  · rw [hrestoring]
  · rw [hrestoring]
    rintro id rfl
    obtain ⟨last, hlast, -⟩ := Registry.adds_of_recordStatus hrunning
    exact ⟨by cases outcome <;> rfl, last, hlast⟩
  · rintro failure rfl
    rfl
  · rw [hrestoring]
    rintro failure rfl
    refine ⟨Registry.recovers_recordStatus name .running context _ left failure hrunning, ?_⟩
    rintro reception rfl
    rfl
  · intro hpassed hspared hafter
    have hstages := hpolls.spares hspared hafter
    have hshows : ∀ stage ∈ others.afterPolls waited.store :: shown.store.stages polls,
        ∀ store : Store, store.rowsOf name = stage.rowsOf name → store.Presents name .waiting
          (Registry.lastPid name (run.store.tables.rows Registration)) :=
      fun stage hstage store hrows =>
        hfirst.presents hpassed (hrows.trans (hstages stage hstage).rows)
    refine ⟨hshows, ?_⟩
    rw [hrestoring]
    rintro id rfl
    obtain ⟨last, hlast, -⟩ := Registry.adds_of_recordStatus hrunning
    have hfound := (hstages _ List.mem_cons_self).passed (hfirst.passed hpassed)
    rw [← (hshows _ List.mem_cons_self _ rfl).pid]
    exact hlast.presents hfound rfl

structure Others.LeaveOut (others : Others) (name : String) : Prop where
  beforePoll : ∀ i (found : Store), ∃ attempts,
    others.beforePoll i found = found.after attempts ∧ found.LeavesOut name attempts
  afterPolls : ∀ found : Store, ∃ attempts,
    others.afterPolls found = found.after attempts ∧ found.LeavesOut name attempts

theorem Bracket.shows_among_clients {ledger : Ledger} {recorded : Int}
    {received : Except Failure Reception × Run}
    (h : Bracket others name limit context run shown polls outcome waited received)
    (hs : ledger.Sound) (hholds : run.store.tables.Holds ledger)
    (hwaiting : perform (Registry.recordStatus name .waiting) context run = (.ok recorded, shown))
    (hothers : others.LeaveOut name) :
    let pid := Registry.lastPid name (run.store.tables.rows Registration)
    (∀ stage ∈ others.afterPolls waited.store :: shown.store.stages polls, ∀ store : Store,
        store.rowsOf name = stage.rowsOf name → store.Presents name .waiting pid) ∧
      ∀ id, (restoring others name context waited).1 = .ok id →
        received.2.store.Presents name .running pid := by
  obtain ⟨-, hshown⟩ := Registry.recordStatus_ok hs hholds hwaiting
  have hturns : ∀ turn ∈ polls, ∀ found : Store, ∃ attempts,
      turn.others found = found.after attempts ∧ found.LeavesOut name attempts := by
    intro turn hturn found
    obtain ⟨i, hi, rfl⟩ := List.mem_iff_getElem.1 hturn
    obtain ⟨run, hrun⟩ := h.waits.eq_pollTurn i hi
    rw [hrun]
    exact hothers.beforePoll _ found
  obtain ⟨hspared, last, hlast, hwaited⟩ :=
    Store.spared_of_leavesOut (hs.register _ _ _ _) hshown hturns
  rw [← h.waits.store_eq] at hwaited
  obtain ⟨attempts, hafter, hmarks⟩ := hothers.afterPolls waited.store
  apply h.shows (Store.passed_of_holds hs hholds) hspared
  rw [hafter]
  exact Store.spares_of_leavesOut hlast hwaited hmarks

theorem Bracket.restored_of_ok {received : Except Failure Reception × Run} {reception : Reception}
    (h : Bracket others name limit context run shown polls outcome waited received)
    (hreceived : received.1 = .ok reception) :
    ∃ id, (restoring others name context waited).1 = .ok id := by
  cases hrestored : (restoring others name context waited).1 with
  | ok id => exact ⟨id, rfl⟩
  | error failure =>
    cases outcome with
    | ok reception =>
      have hfailed := (h.unrestored failure hrestored).2 reception rfl
      cases hreceived.symm.trans hfailed
    | error failure =>
      have hfailed := h.failed failure rfl
      cases hreceived.symm.trans hfailed

/-- Whatever the store holds, the others do and the faults are: if the row that shows a receiver as
waiting cannot be written, the call ends there and has left no trace. Otherwise the receiver
brackets its wait. -/
theorem receive_brackets_its_wait (others : Others) (patience : Nat) (name : String)
    (limit : Option Nat) (context : Context) (run : Run) :
    let entered := perform (Registry.recordStatus name .waiting) context run
    let received := perform (receive others patience name limit) context run
    (∃ failure left, entered = (.error failure, left) ∧ received = (.error failure, left) ∧
        run.store.Settled left.store) ∨
      ∃ id shown polls outcome waited, entered = (.ok id, shown) ∧
        Bracket others name limit context run shown polls outcome waited received := by
  intro entered received
  obtain ⟨failure, hwaiting, hresult⟩ |
    ⟨id, shown, outcome, waited, restored, polls, hwaiting, hpolls, hrunning, hresult⟩ :=
    cases_of_receive (rfl : perform (receive others patience name limit) context run = (_, _))
  · exact .inl ⟨failure, _, hwaiting, Prod.ext hresult rfl,
      Registry.recovers_recordStatus name .waiting context run _ failure hwaiting⟩
  · have hreceived : received = (conclude outcome (restored.map fun _ => ()), received.2) :=
      Prod.ext hresult rfl
    refine .inr ⟨id, shown, polls, outcome, waited, hwaiting, ?_⟩
    rw [hreceived]
    exact bracket_of_polls hwaiting hpolls hrunning

/-- Others of whom one sends a message to an agent before its second poll. -/
def Others.sending (target body : String) : Others where
  beforePoll i found :=
    if i = 1 then found.after [Client.atEpoch.attempt (.send target body none)] else found

theorem Others.leaveOut_sending (target body name : String) :
    (sending target body).LeaveOut name where
  beforePoll i found := by
    by_cases hi : i = 1
    · refine ⟨_, if_pos hi, fun d hd => ?_⟩
      obtain ⟨before, attempt, later, hattempts, hdeed⟩ := Store.mem_deeds hd
      have hattempt : attempt ∈ [Client.atEpoch.attempt (.send target body none)] := by
        rw [hattempts]
        exact List.mem_append_right _ List.mem_cons_self
      obtain rfl := List.mem_singleton.1 hattempt
      obtain ⟨hcall, -⟩ := Attempt.deed?_eq_some hdeed
      obtain ⟨call, now, answer⟩ := d
      obtain rfl : Call.send target body none = call := hcall
      intro mark hmark
      cases hmark
    · exact ⟨[], if_neg hi, found.leavesOut_nil name⟩
  afterPolls found := ⟨[], rfl, found.leavesOut_nil name⟩

/-- An agent with a pid waits, and gets a message between two polls. It shows as waiting with its
pid until then, and as running with its pid afterwards. -/
theorem waiting_receiver_keeps_its_pid :
    let context := Client.atEpoch.context
    let run : Run :=
      { store := ({} : Store).after [Client.atEpoch.attempt (.register "worker" (some 7))] }
    let received :=
      perform (receive (.sending "worker" "hello") 0 "worker" (some 1000)) context run
    received.1 = .ok (.delivered
        ((Message.unclaimed 3 .epoch none "worker" "hello").claimFor "worker" .epoch)) ∧
      ∃ shown polls outcome waited,
        Bracket (.sending "worker" "hello") "worker" (some 1000) context run shown polls outcome
          waited received ∧
        (∀ stage ∈ shown.store.stages polls, stage.Presents "worker" .waiting (.int 7)) ∧
        received.2.store.Presents "worker" .running (.int 7) := by
  intro context run received
  have hreceived : received.1 = .ok (.delivered
      ((Message.unclaimed 3 .epoch none "worker" "hello").claimFor "worker" .epoch)) := by
    decide +kernel
  have hpid : Registry.lastPid "worker" (run.store.tables.rows Registration) = .int 7 := by
    decide +kernel
  obtain ⟨ledger, hs, hholds⟩ : ∃ ledger : Ledger, ledger.Sound ∧ run.store.tables.Holds ledger :=
    Store.exists_ledger rfl _
  have hcases :=
    receive_brackets_its_wait (.sending "worker" "hello") 0 "worker" (some 1000) context run
  have hcall : perform (receive (.sending "worker" "hello") 0 "worker" (some 1000)) context run =
    received := rfl
  dsimp only at hcases
  rw [hcall] at hcases
  -- From here on what the call comes to is not worked out again.
  clear_value received run
  obtain ⟨failure, left, -, hstopped, -⟩ |
    ⟨id, shown, polls, outcome, waited, hwaiting, hbracket⟩ := hcases
  · have hfailed : received.1 = .error failure := congrArg Prod.fst hstopped
    cases hreceived.symm.trans hfailed
  · obtain ⟨hshows, hshown⟩ := hbracket.shows_among_clients hs hholds hwaiting
      (Others.leaveOut_sending "worker" "hello" "worker")
    rw [hpid] at hshows hshown
    obtain ⟨last, hlast⟩ := hbracket.restored_of_ok hreceived
    exact ⟨hreceived, shown, polls, outcome, waited, hbracket,
      fun stage hstage => hshows stage (List.mem_cons_of_mem _ hstage) stage rfl, hshown last hlast⟩

/-- A store whose sequence of ids was dropped and made anew after an agent had exited. -/
def restarted : Store where
  tables :=
    { sequence := some {}
      messages := .holding .empty
      events := .holding .empty
      agents := .holding ⟨[.plain ⟨11, .epoch, "worker", none, .exited⟩],
        List.pairwise_singleton _ _⟩
      tasks := .holding .empty }

/-- A store without tables in which the engine refuses new rows of the registry. -/
def closedRegistry : Store where
  refusedInserts := [.agents]

/-- In a store whose ids have been set back, the older row of the agent hides the two rows of the
receiver: it never shows as waiting, nor as running afterwards. A receiver who cannot be shown as
waiting leaves the tables that its connection has made. -/
theorem older_row_hides_a_receiver :
    let client := Client.atEpoch
    let entered :=
      perform (Registry.recordStatus "worker" .waiting) client.context { store := restarted }
    let received :=
      perform (receive {} 0 "worker" (some 0)) client.context { store := restarted }
    let stopped :=
      perform (receive {} 0 "worker" (some 0)) client.context { store := closedRegistry }
    received.1 = .ok .timedOut ∧
      ((received.2.store.tables.rows Registration).map fun e => (e.record.id, e.record.status)) =
        [(1, .waiting), (2, .running), (11, .exited)] ∧
      (client.attempt (.status "worker")).answer entered.2.store = .ok (.status (some .exited)) ∧
      (client.attempt (.status "worker")).answer received.2.store = .ok (.status (some .exited)) ∧
      stopped.1 = .error (.statement (.recordStatus .waiting "worker") .refused) ∧
      closedRegistry.tables.has .tasks = false ∧ stopped.2.store.tables.has .tasks = true := by
  decide +kernel

end Receive

end Switchboard
