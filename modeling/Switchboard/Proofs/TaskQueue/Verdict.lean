import Switchboard.Proofs.TaskQueue.Dispatch

namespace Switchboard

open Operation

namespace Task

/-- What a task is to be made of at a time, and the status that it has to have, if that matters. -/
structure Move where
  id : Int
  required : Option TaskStatus
  change : Timestamp → Task → Task

structure Move.Fits (move : Move) (t : Task) : Prop where
  id : t.id = move.id
  status : ∀ status ∈ move.required, t.status = status

/-- What is told of a move, depending on the task that has the id. -/
def Move.verdict (move : Move) : Option Task → Except Failure Unit
  | none => .error (.unknownTask move.id)
  | some t =>
    match move.required with
    | none => .ok ()
    | some expected =>
      if t.status = expected then .ok () else .error (.wrongStatus move.id t.status expected)

end Task

def Call.move? : Call → Option Task.Move
  | .claim dispatcher id => some
    { id
      required := some .pending
      change := fun now t =>
        { t with status := .running, claimedBy := some dispatcher, claimedAt := some now } }
  | .complete id output => some
    { id
      required := some .running
      change := fun now t =>
        { t with status := .complete, outputPath := output, completedAt := some now } }
  | .fail id error => some
    { id
      required := some .running
      change := fun now t => { t with status := .failed, error, completedAt := some now } }
  | .route id agentFile model => some
    { id
      required := none
      change := fun _ t => { t with agentFile := some agentFile, model := some model } }
  | _ => none

namespace TaskQueue

variable {context : Context} {run : Run} {ledger : Ledger} {id : Int}

theorem perform_load (id : Int) (h : run.Serves ledger) :
    perform (load id) context run = (.ok (ledger.task? id), run) := by
  have hread : (Statement.select Task fun rows =>
      (rows.find? (·.record.id == id)).toList).run run.store =
      .ok ((ledger.task? id).toList.map Entry.plain, run.store) :=
    (Statement.reads_select (ledger.find?_row id)).run_eq h.holds h.has h.own
  unfold load
  rw [perform_bind_eq (perform_statement h.undisturbed.faults hread)]
  cases ledger.task? id <;> rfl

theorem advance_refused {expected : TaskStatus} (context : Context) (columns : List String)
    {change : Task → Task} (keepsId : ∀ t, (change t).id = t.id) (h : run.Serves ledger)
    (hnobody : ∀ t ∈ ledger.tasks, t.id = id → t.status ≠ expected) :
    (perform (advance id expected columns change keepsId) context run).1 =
      .error (match ledger.task? id with
        | none => .unknownTask id
        | some t => .wrongStatus id t.status expected) := by
  obtain ⟨store, hupdate, htended, hupdated⟩ :=
    perform_guardedUpdate id expected columns keepsId h
  have hpicks : ∀ t ∈ ledger.tasks, (t.id == id && t.status == expected) = false := by
    simpa using hnobody
  have hnone : ledger.tasks.countP (fun t => t.id == id && t.status == expected) = 0 :=
    List.countP_eq_zero.2 fun t ht => Bool.eq_false_iff.1 (hpicks t ht)
  rw [map_of_none hpicks] at hupdated
  unfold advance
  rw [perform_bind_eq hupdate, if_pos hnone,
    perform_bind_eq (perform_load id (h.written htended hupdated))]
  cases ledger.task? id <;> rfl

theorem perform_move_fst {expected : TaskStatus} (columns : List String)
    (change : Timestamp → Task → Task) (notice : Notice)
    (keepsId : ∀ now t, (change now t).id = t.id) (hs : ledger.Sound)
    (h : run.store.tables.Holds ledger) (hrun : run.Undisturbed run.store)
    (hown : run.store.tables.Own) :
    (perform (do
      connect
      let context ← read
      transaction (advance id expected columns (change context.now) (keepsId context.now))
      notify notice) context run).1 =
      (⟨id, some expected, change⟩ : Task.Move).verdict (ledger.task? id) := by
  by_cases hfound : ∃ t ∈ ledger.tasks, t.id = id ∧ t.status = expected
  · obtain ⟨left, hmove⟩ := perform_move columns change notice keepsId h hrun hown hfound
    obtain ⟨t, ht, hid, hstatus⟩ := hfound
    rw [hmove, (Ledger.task?_eq_some hs).2 ⟨ht, hid⟩, Task.Move.verdict]
    exact (if_pos hstatus).symm
  · have hnobody : ∀ t ∈ ledger.tasks, t.id = id → t.status ≠ expected :=
      fun t ht hid hstatus => hfound ⟨t, ht, hid, hstatus⟩
    have hserves := hrun.serves h hown
    have hrefused := advance_refused context columns (keepsId context.now) hserves hnobody
    rw [perform_bind_eq (perform_connect hrun hown), perform_bind_eq (perform_read _ _),
      perform_bind_failed (hserves.transaction_failed hrefused)]
    cases hfound : ledger.task? id with
    | none => rfl
    | some t =>
      obtain ⟨ht, hid⟩ := (Ledger.task?_eq_some hs).1 hfound
      exact (if_neg (hnobody t ht hid)).symm

theorem perform_routing (id : Int) (agentFile model : String) (h : run.Serves ledger) :
    let picks (t : Task) := t.id == id
    ∃ store, perform (statement .recordRouting (Statement.update (fun e => e.record.id == id)
        routeColumns (Task.routeTo agentFile model))) context run =
        (.ok (ledger.tasks.countP picks), { run with store }) ∧
      run.store.Tended store ∧ store.tables.Holds { ledger with
        tasks := ledger.tasks.map fun t => if picks t then t.routeTo agentFile model else t } :=
  perform_update (f := Task.routeTo agentFile model) _ (fun _ => rfl) h fun _ => rfl

theorem perform_route_fst (agentFile model : String) (hs : ledger.Sound)
    (h : run.store.tables.Holds ledger) (hrun : run.Undisturbed run.store)
    (hown : run.store.tables.Own) :
    (perform (route id agentFile model) context run).1 =
      (⟨id, none, fun _ => Task.routeTo agentFile model⟩ : Task.Move).verdict
        (ledger.task? id) := by
  have hserves := hrun.serves h hown
  obtain ⟨store, hupdate, -⟩ := perform_routing id agentFile model hserves
  unfold route
  rw [perform_bind_eq (perform_connect hrun hown)]
  cases hfound : ledger.task? id with
  | none =>
    have hcount : ledger.tasks.countP (fun t => t.id == id) = 0 := by
      rw [List.countP_eq_zero]
      intro t ht
      simpa using Ledger.task?_eq_none.1 hfound t ht
    apply hserves.transaction_failed
    rw [perform_bind_eq hupdate, if_pos hcount]
    rfl
  | some t =>
    obtain ⟨ht, hid⟩ := (Ledger.task?_eq_some hs).1 hfound
    have hcount : ledger.tasks.countP (fun t => t.id == id) ≠ 0 :=
      Nat.pos_iff_ne_zero.1 (List.countP_pos_iff.2 ⟨t, ht, by simp [hid]⟩)
    have hbody : perform (do
        let count ← statement .recordRouting (Statement.update (fun e => e.record.id == id)
          routeColumns (Task.routeTo agentFile model))
        if count = 0 then throw (.unknownTask id)) context run.connected =
        (.ok (), { run.connected with store }) := by
      rw [perform_bind_eq hupdate, if_neg hcount]
      rfl
    rw [hserves.transaction hbody]
    rfl

theorem perform_enqueue {new : NewTask} (h : run.Serves ledger)
    (hdependsOn : ∀ d ∈ new.dependsOn, ∃ t ∈ ledger.tasks, t.id = d) :
    perform (enqueue new) context run = perform (do
      let id ← mintId
      let context ← read
      statement .submitTask (Statement.insert (Task.queued id context.now new))
      pure id) context run := by
  unfold enqueue
  cases hnew : new.dependsOn with
  | none => rfl
  | some d =>
    dsimp only
    rw [perform_bind_eq (perform_load d h)]
    cases hfound : ledger.task? d with
    | none =>
      obtain ⟨t, ht, hid⟩ := hdependsOn d hnew
      exact absurd hid (Ledger.task?_eq_none.1 hfound t ht)
    | some t => rfl

theorem enqueue_succeeds {new : NewTask} (hs : ledger.Sound) (h : run.Serves ledger)
    (hdependsOn : ∀ d ∈ new.dependsOn, ∃ t ∈ ledger.tasks, t.id = d)
    (hleft : ledger.last < Sequence.maxId) :
    ∃ store, perform (enqueue new) context run = (.ok (ledger.last + 1), { run with store }) := by
  rw [perform_enqueue h hdependsOn]
  exact perform_insertNext hs h (fun _ _ => rfl) hleft

theorem submit_succeeds {new : NewTask} (hs : ledger.Sound) (h : run.store.tables.Holds ledger)
    (hrun : run.Undisturbed run.store) (hown : run.store.tables.Own)
    (hdependsOn : ∀ d ∈ new.dependsOn, ∃ t ∈ ledger.tasks, t.id = d)
    (hleft : ledger.last < Sequence.maxId) :
    (perform (submit new) context run).1 = .ok (ledger.last + 1) := by
  have hserves := hrun.serves h hown
  obtain ⟨store, henqueue⟩ : ∃ store, perform (enqueue new) context run.connected =
      (.ok (ledger.last + 1), { run.connected with store }) :=
    enqueue_succeeds hs hserves hdependsOn hleft
  unfold submit
  rw [perform_bind_eq (perform_connect hrun hown), perform_bind_eq (hserves.transaction henqueue)]
  rfl

theorem submit_fails {new : NewTask} {failure : Failure} (h : run.store.tables.Holds ledger)
    (hrun : run.Undisturbed run.store) (hown : run.store.tables.Own)
    (henqueue : (perform (enqueue new) context run.connected).1 = .error failure) :
    (perform (submit new) context run).1 = .error failure := by
  unfold submit
  rw [perform_bind_eq (perform_connect hrun hown)]
  exact perform_bind_failed ((hrun.serves h hown).transaction_failed henqueue)

theorem submit_refused {new : NewTask} {d : Int} (h : run.store.tables.Holds ledger)
    (hrun : run.Undisturbed run.store) (hown : run.store.tables.Own) (hnew : new.dependsOn = some d)
    (hnobody : ∀ t ∈ ledger.tasks, t.id ≠ d) :
    (perform (submit new) context run).1 = .error (.unknownDependency d) := by
  have hloaded : perform (load d) context run.connected = (.ok none, run.connected) := by
    rw [← Ledger.task?_eq_none.2 hnobody]
    exact perform_load d (hrun.serves h hown)
  apply submit_fails h hrun hown
  unfold enqueue
  rw [hnew]
  dsimp only
  rw [perform_bind_eq hloaded]
  rfl

theorem submit_full {new : NewTask} (h : run.store.tables.Holds ledger)
    (hrun : run.Undisturbed run.store) (hown : run.store.tables.Own)
    (hdependsOn : ∀ d ∈ new.dependsOn, ∃ t ∈ ledger.tasks, t.id = d)
    (hfull : ¬ ledger.last < Sequence.maxId) :
    (perform (submit new) context run).1 = .error (.statement .mintId .full) := by
  have hserves := hrun.serves h hown
  apply submit_fails h hrun hown
  rw [perform_enqueue hserves hdependsOn]
  exact perform_bind_failed (perform_statement_failed hserves.undisturbed.faults
    ((Statement.run_mint hserves.holds hserves.undisturbed.available (hserves.has _)).2 hfull))

end TaskQueue

namespace Task.Move

variable {move : Move} {found : Option Task}

theorem verdict_eq_ok : move.verdict found = .ok () ↔
    ∃ t ∈ found, ∀ status ∈ move.required, t.status = status := by
  cases found with
  | none => simp [verdict]
  | some t =>
    cases hrequired : move.required with
    | none => simp [verdict, hrequired]
    | some expected => by_cases hstatus : t.status = expected <;> simp [verdict, hrequired, hstatus]

theorem verdict_eq_unknown : move.verdict found = .error (.unknownTask move.id) ↔ found = none := by
  cases found with
  | none => simp [verdict]
  | some t =>
    cases hrequired : move.required with
    | none => simp [verdict, hrequired]
    | some expected => by_cases hstatus : t.status = expected <;> simp [verdict, hrequired, hstatus]

theorem verdict_eq_wrongStatus {actual expected : TaskStatus} :
    move.verdict found = .error (.wrongStatus move.id actual expected) ↔
      move.required = some expected ∧ actual ≠ expected ∧ ∃ t ∈ found, t.status = actual := by
  constructor
  · intro h
    cases found with
    | none => cases h
    | some t =>
      dsimp only [verdict] at h
      split at h
      · cases h
      · split at h
        · cases h
        · cases h
          exact ⟨‹_›, ‹_›, t, rfl, rfl⟩
  · rintro ⟨hrequired, hne, t, rfl, rfl⟩
    simp only [verdict, hrequired, if_neg hne]

theorem verdict_eq_error {failure : Failure} (h : move.verdict found = .error failure) :
    failure = .unknownTask move.id ∨
      ∃ actual expected, failure = .wrongStatus move.id actual expected := by
  cases found with
  | none =>
    cases h
    exact .inl rfl
  | some t =>
    dsimp only [verdict] at h
    split at h
    · cases h
    · split at h
      · cases h
      · cases h
        exact .inr ⟨_, _, rfl⟩

/-- What is told of a move is decided by the tasks. -/
structure Decided (move : Move) (tasks : List Task) (told : Except Failure Answer) : Prop where
  done_iff : told = .ok .done ↔ ∃ t ∈ tasks, move.Fits t
  unknown_iff : told = .error (.unknownTask move.id) ↔ ∀ t ∈ tasks, t.id ≠ move.id
  refused_iff (actual expected : TaskStatus) :
    told = .error (.wrongStatus move.id actual expected) ↔
      move.required = some expected ∧ actual ≠ expected ∧
        ∃ t ∈ tasks, t.id = move.id ∧ t.status = actual
  told_cases : told = .ok .done ∨ ∃ failure, told = .error failure ∧
    (failure = .unknownTask move.id ∧ failure.kind = .notFound ∨
      ∃ actual expected, failure = .wrongStatus move.id actual expected ∧
        failure.kind = .precondition ∧ failure.detail = "task " ++ toString move.id ++ " is " ++
          Vocabulary.word actual ++ ", expected " ++ Vocabulary.word expected)

end Task.Move

theorem Ledger.exists_task? {ledger : Ledger} {id : Int} (hs : ledger.Sound) {P : Task → Prop} :
    (∃ t ∈ ledger.task? id, P t) ↔ ∃ t ∈ ledger.tasks, t.id = id ∧ P t := by
  simp only [Option.mem_def, Ledger.task?_eq_some hs, and_assoc]

theorem Task.Move.decided {ledger : Ledger} (hs : ledger.Sound) (move : Task.Move) :
    move.Decided ledger.tasks
      ((move.verdict (ledger.task? move.id)).map fun _ => Answer.done) := by
  generalize hverdict : move.verdict (ledger.task? move.id) = verdict
  have hok : verdict.map (fun _ => Answer.done) = .ok .done ↔ verdict = .ok () := by
    cases verdict <;> simp [Except.map]
  have herror (failure : Failure) :
      verdict.map (fun _ => Answer.done) = .error failure ↔ verdict = .error failure := by
    cases verdict <;> simp [Except.map]
  constructor
  · rw [hok, ← hverdict, verdict_eq_ok, Ledger.exists_task? hs]
    exact exists_congr fun t => and_congr_right fun _ =>
      ⟨fun h => ⟨h.1, h.2⟩, fun h => ⟨h.id, h.status⟩⟩
  · rw [herror, ← hverdict, verdict_eq_unknown, Ledger.task?_eq_none]
  · intro actual expected
    rw [herror, ← hverdict, verdict_eq_wrongStatus, Ledger.exists_task? hs]
  · cases hfound : verdict with
    | ok _ => exact .inl rfl
    | error failure =>
      refine .inr ⟨failure, rfl, ?_⟩
      obtain rfl | ⟨actual, expected, rfl⟩ := verdict_eq_error (hverdict.trans hfound)
      · exact .inl ⟨rfl, rfl⟩
      · exact .inr ⟨actual, expected, rfl, rfl, rfl⟩

/-- What is told of a new task is decided by whether the task on which it depends is there, and by
whether an id is left. -/
structure NewTask.Decided (new : NewTask) (store : Store) (told : Except Failure Answer) :
    Prop where
  queued_iff : told = .ok (.id (store.tables.lastId + 1)) ↔
    (∀ d ∈ new.dependsOn, ∃ t ∈ store.tasks, t.id = d) ∧ store.tables.lastId < Sequence.maxId
  unknown_iff (d : Int) : told = .error (.unknownDependency d) ↔
    new.dependsOn = some d ∧ ∀ t ∈ store.tasks, t.id ≠ d
  full_iff : told = .error (.statement .mintId .full) ↔
    (∀ d ∈ new.dependsOn, ∃ t ∈ store.tasks, t.id = d) ∧ ¬ store.tables.lastId < Sequence.maxId
  told_cases : told = .ok (.id (store.tables.lastId + 1)) ∨ ∃ failure, told = .error failure ∧
    ((∃ d, failure = .unknownDependency d ∧ failure.kind = .notFound) ∨
      failure = .statement .mintId .full)

namespace NewTask.Decided

variable {new : NewTask} {store : Store}

theorem of_queued (hdependsOn : ∀ d ∈ new.dependsOn, ∃ t ∈ store.tasks, t.id = d)
    (hleft : store.tables.lastId < Sequence.maxId) :
    new.Decided store (.ok (.id (store.tables.lastId + 1))) where
  queued_iff := iff_of_true rfl ⟨hdependsOn, hleft⟩
  unknown_iff d := by
    refine iff_of_false nofun fun ⟨hnew, hnobody⟩ => ?_
    obtain ⟨t, ht, hid⟩ := hdependsOn d hnew
    exact hnobody t ht hid
  full_iff := iff_of_false nofun fun hfull => hfull.2 hleft
  told_cases := .inl rfl

theorem of_full (hdependsOn : ∀ d ∈ new.dependsOn, ∃ t ∈ store.tasks, t.id = d)
    (hfull : ¬ store.tables.lastId < Sequence.maxId) :
    new.Decided store (.error (.statement .mintId .full)) where
  queued_iff := iff_of_false nofun fun hleft => hfull hleft.2
  unknown_iff d := by
    refine iff_of_false nofun fun ⟨hnew, hnobody⟩ => ?_
    obtain ⟨t, ht, hid⟩ := hdependsOn d hnew
    exact hnobody t ht hid
  full_iff := iff_of_true rfl ⟨hdependsOn, hfull⟩
  told_cases := .inr ⟨_, rfl, .inr rfl⟩

theorem of_unknown {d : Int} (hnew : new.dependsOn = some d)
    (hnobody : ∀ t ∈ store.tasks, t.id ≠ d) :
    new.Decided store (.error (.unknownDependency d)) := by
  have hlacking : ¬ ∀ d ∈ new.dependsOn, ∃ t ∈ store.tasks, t.id = d := by
    intro hdependsOn
    obtain ⟨t, ht, hid⟩ := hdependsOn d hnew
    exact hnobody t ht hid
  refine ⟨iff_of_false nofun fun h => hlacking h.1, fun other => ⟨?_, ?_⟩,
    iff_of_false nofun fun h => hlacking h.1, .inr ⟨_, rfl, .inl ⟨d, rfl, rfl⟩⟩⟩
  · rintro ⟨⟩
    exact ⟨hnew, hnobody⟩
  · rintro ⟨hother, -⟩
    obtain rfl := Option.some.inj (hnew.symm.trans hother)
    rfl

end NewTask.Decided

namespace Attempt

variable {attempt : Attempt} {store : Store} {ledger : Ledger}

theorem move_decided {move : Task.Move} (hs : ledger.Sound) (h : store.tables.Holds ledger)
    (hrun : attempt.run.Undisturbed store) (hown : store.tables.Own)
    (hmove : attempt.call.move? = some move) : move.Decided store.tasks (attempt.answer store) := by
  obtain ⟨call, context, run⟩ := attempt
  have hanswer : Attempt.answer ⟨call, context, run⟩ store =
      (move.verdict (ledger.task? move.id)).map fun _ => .done := by
    cases call with
    | claim dispatcher id =>
      cases hmove
      rw [answer_eq_map rfl]
      exact congrArg _ (TaskQueue.perform_move_fst TaskQueue.claimColumns (Task.claimFor dispatcher)
        (.taskClaimed id dispatcher) (fun _ _ => rfl) hs h hrun.found hown)
    | complete id output =>
      cases hmove
      rw [answer_eq_map rfl]
      exact congrArg _ (TaskQueue.perform_move_fst TaskQueue.completeColumns
        (Task.completeWith output) (.taskComplete id) (fun _ _ => rfl) hs h hrun.found hown)
    | fail id error =>
      cases hmove
      rw [answer_eq_map rfl]
      exact congrArg _ (TaskQueue.perform_move_fst TaskQueue.failColumns (Task.failWith error)
        (.taskFailed id) (fun _ _ => rfl) hs h hrun.found hown)
    | route id agentFile model =>
      cases hmove
      rw [answer_eq_map rfl]
      exact congrArg _ (TaskQueue.perform_route_fst agentFile model hs h hrun.found hown)
    | _ => cases hmove
  rw [hanswer, h.tasks_eq]
  exact move.decided hs

theorem submission_decided {new : NewTask} (hs : ledger.Sound) (h : store.tables.Holds ledger)
    (hrun : attempt.run.Undisturbed store) (hown : store.tables.Own)
    (hcall : attempt.call = .submit new) : new.Decided store (attempt.answer store) := by
  rw [answer_eq_map (by rw [hcall]; rfl)]
  by_cases hdependsOn : ∀ d ∈ new.dependsOn, ∃ t ∈ store.tasks, t.id = d
  · by_cases hleft : store.tables.lastId < Sequence.maxId
    · rw [TaskQueue.submit_succeeds hs h hrun.found hown (h.tasks_eq ▸ hdependsOn)
        (h.last ▸ hleft), ← h.last]
      exact .of_queued hdependsOn hleft
    · rw [TaskQueue.submit_full h hrun.found hown (h.tasks_eq ▸ hdependsOn) (h.last ▸ hleft)]
      exact .of_full hdependsOn hleft
  · obtain ⟨d, hnew, hnobody⟩ : ∃ d, new.dependsOn = some d ∧ ∀ t ∈ store.tasks, t.id ≠ d := by
      simpa using hdependsOn
    rw [TaskQueue.submit_refused h hrun.found hown hnew (h.tasks_eq ▸ hnobody)]
    exact .of_unknown hnew hnobody

end Attempt

/-- The tables hold the same rows as others, but for the tasks. -/
structure Tables.SameButTasks (tables other : Tables) : Prop where
  messages : tables.rows Message = other.rows Message
  events : tables.rows Event = other.rows Event
  registrations : tables.rows Registration = other.rows Registration

/-- A task has been moved, and that is all that has been done to the tables. -/
structure Task.Move.Made (move : Task.Move) (now : Timestamp) (before after : Tables) : Prop where
  tasks : after.rows Task = (before.rows Task).map fun e =>
    if e.record.id = move.id then .plain (move.change now e.record) else e
  others : after.SameButTasks before
  minted : after.minted = before.minted
  lastId : after.lastId = before.lastId

/-- A task has been queued with a new id, and that is all that has been done to the tables. -/
structure NewTask.Queued (new : NewTask) (now : Timestamp) (before after : Tables) : Prop where
  tasks : after.rows Task = before.rows Task ++ [.plain (.queued (before.lastId + 1) now new)]
  others : after.SameButTasks before
  minted : after.minted = (before.lastId + 1) :: before.minted
  lastId : after.lastId = before.lastId + 1

section Changes

variable {ledger next : Ledger} {before after : Tables} {now : Timestamp} {call : Call}
  {answer : Answer}

theorem Effect.moves {move : Task.Move} (h : Effect now ledger call answer next)
    (hmove : call.move? = some move) :
    (∃ t ∈ ledger.tasks, move.Fits t) ∧ next = ledger.changeTask move.id (move.change now) := by
  cases h with
  | claimed dispatcher hfound | completed output hfound | failed error hfound =>
    cases hmove
    obtain ⟨t, ht, hid, hstatus⟩ := hfound
    refine ⟨⟨t, ht, hid, ?_⟩, rfl⟩
    rintro status ⟨⟩
    exact hstatus
  | routed agentFile model hfound =>
    cases hmove
    obtain ⟨t, ht, hid⟩ := hfound
    exact ⟨⟨t, ht, hid, nofun⟩, rfl⟩
  | looked answer hlooks =>
    cases call with
    | claim | complete | fail | route => cases hlooks
    | _ => cases hmove
  | _ => cases hmove

theorem Task.Move.Made.of_holds {move : Task.Move} (h : before.Holds ledger)
    (hafter : after.Holds (ledger.changeTask move.id (move.change now))) :
    move.Made now before after where
  tasks := by
    rw [hafter.tasks, h.tasks, List.map_map, Ledger.changeTask, List.map_map]
    refine List.map_congr_left fun t _ => ?_
    by_cases hid : t.id = move.id <;> simp [hid]
  others := ⟨hafter.messages.trans h.messages.symm, hafter.events.trans h.events.symm,
    hafter.registrations.trans h.registrations.symm⟩
  minted := hafter.minted.trans h.minted.symm
  lastId := hafter.last.trans h.last.symm

theorem NewTask.Queued.of_effect {new : NewTask} (h : before.Holds ledger)
    (heffect : Effect now ledger (.submit new) answer next) (hafter : after.Holds next) :
    new.Queued now before after := by
  cases heffect with
  | submitted new hdependsOn =>
    refine ⟨?_, ⟨hafter.messages.trans h.messages.symm, hafter.events.trans h.events.symm,
      hafter.registrations.trans h.registrations.symm⟩, ?_, ?_⟩
    · rw [hafter.tasks, h.tasks, h.last]
      exact List.map_append
    · rw [hafter.minted, h.minted, h.last]
      rfl
    · rw [hafter.last, h.last]
      rfl
  | looked answer hlooks => cases hlooks

end Changes

theorem Store.no_task_of_id {store : Store} (h : store.tables = {}) (attempts : List Attempt)
    {id : Int} (hid : (∃ place ∈ (store.after attempts).index.places, place.2 = id ∧
      place.1 ≠ .tasks) ∨ (store.after attempts).tables.lastId < id) :
    ∀ t ∈ (store.after attempts).tasks, t.id ≠ id := by
  rintro t ht rfl
  obtain ⟨place, hplace, hsame, hother⟩ | hlater := hid
  · exact hother (Store.tasks_of_id h attempts ht hplace hsame)
  · obtain ⟨ledger, hs, hholds⟩ := Store.exists_ledger h attempts
    have hbounded : t.id ≤ ledger.last := hs.tasks.bounded t (hholds.tasks_eq ▸ ht)
    rw [hholds.last] at hlater
    omega

/-- However clients have used a store that was empty: where nothing stands in the way, the tasks that
are there decide what is told of a move or of a new task. An id that belongs to a row of another
table, or has not been given out, is that of no task. A move that succeeds changes the task that it
names as it says, a new task is added as pending, and nothing else changes but the ids given out. -/
theorem tasks_decide_what_is_told (store : Store) (h : store.tables = {})
    (earlier : List Attempt) (attempt : Attempt) :
    let reached := store.after earlier
    let told := attempt.answer reached
    let left := (attempt.after reached).tables
    let now := attempt.context.now
    (∀ id, (∃ place ∈ reached.index.places, place.2 = id ∧ place.1 ≠ .tasks) ∨
        reached.tables.lastId < id → ∀ t ∈ reached.tasks, t.id ≠ id) ∧
      (∀ move, attempt.call.move? = some move →
        (attempt.run.Undisturbed reached → move.Decided reached.tasks told) ∧
          ∀ answer, told = .ok answer →
            (∃ t ∈ reached.tasks, move.Fits t) ∧ move.Made now reached.tables left) ∧
      ∀ new, attempt.call = .submit new →
        (attempt.run.Undisturbed reached → new.Decided reached told) ∧
          ∀ answer, told = .ok answer → new.Queued now reached.tables left := by
  intro reached told left now
  obtain ⟨ledger, hs, hholds⟩ := Store.exists_ledger h earlier
  have hown := Store.own_after h earlier
  refine ⟨fun id => Store.no_task_of_id h earlier, fun move hmove => ⟨fun hrun => ?_, ?_⟩,
    fun new hcall => ⟨fun hrun => ?_, ?_⟩⟩
  · exact Attempt.move_decided hs hholds hrun hown hmove
  · intro answer hanswer
    obtain ⟨next, hnext, heffect⟩ := attempt.effect_of_ok hs hholds hanswer
    obtain ⟨hfits, rfl⟩ := heffect.moves hmove
    exact ⟨hholds.tasks_eq ▸ hfits, .of_holds hholds hnext⟩
  · exact Attempt.submission_decided hs hholds hrun hown hcall
  · intro answer hanswer
    obtain ⟨next, hnext, heffect⟩ := attempt.effect_of_ok hs hholds hanswer
    rw [hcall] at heffect
    exact .of_effect hholds heffect hnext

/-- Of a pending task, a running one and the message between them only the first can be claimed. Its
completion is refused with both statuses, and a new task cannot depend on itself. -/
theorem pending_task_is_claimed_but_not_completed :
    let submission (dependsOn : Option Int) : NewTask :=
      { submittedBy := "planner", taskType := "build", dependsOn }
    let earlier := [Attempt.atEpoch (.submit (submission none)) [],
      Attempt.atEpoch (.send "worker" "hello" none) [],
      Attempt.atEpoch (.submit (submission (some 1))) [], Attempt.atEpoch (.claim "first" 3) []]
    let reached := ({} : Store).after earlier
    let answer (call : Call) := (Client.atEpoch.attempt call).answer reached
    let claimed := (Client.atEpoch.attempt (.claim "second" 1)).after reached
    answer (.claim "second" 1) = .ok .done ∧
      claimed.tables.SameButTasks reached.tables ∧
      claimed.tasks.map (fun t => (t.id, t.status, t.claimedBy)) =
        [(1, .running, some "second"), (3, .running, some "first")] ∧
      answer (.claim "second" 2) = .error (.unknownTask 2) ∧
      answer (.claim "second" 3) = .error (.wrongStatus 3 .running .pending) ∧
      answer (.complete 1 none) = .error (.wrongStatus 1 .pending .running) ∧
      answer (.submit (submission (some 4))) = .error (.unknownDependency 4) ∧
      answer (.submit (submission (some 3))) = .ok (.id 4) := by
  intro submission earlier reached answer claimed
  have hrun : Client.atEpoch.run.Undisturbed reached :=
    ⟨rfl, (Store.writing_tended.after {} earlier).available ⟨rfl, rfl, rfl, rfl, rfl⟩, nofun⟩
  have hdecided (call : Call) :=
    tasks_decide_what_is_told {} rfl earlier (Client.atEpoch.attempt call)
  have hmoves (call : Call) (move : Task.Move) (hmove : call.move? = some move) :
      move.Decided reached.tasks (answer call) := ((hdecided call).2.1 move hmove).1 hrun
  have hsubmissions (new : NewTask) : new.Decided reached (answer (.submit new)) :=
    ((hdecided (.submit new)).2.2 new rfl).1 hrun
  have hmade : answer (.claim "second" 1) = .ok .done →
      claimed.tables.SameButTasks reached.tables := fun hanswer =>
    (((hdecided (.claim "second" 1)).2.1 _ rfl).2 _ hanswer).2.others
  have hids : ∀ id, (∃ place ∈ reached.index.places, place.2 = id ∧ place.1 ≠ .tasks) ∨
      reached.tables.lastId < id → ∀ t ∈ reached.tasks, t.id ≠ id := (hdecided .init).1
  have hpending : ∃ t ∈ reached.tasks, t.id = 1 ∧ t.status = .pending := by decide +kernel
  have hrunning : ∃ t ∈ reached.tasks, t.id = 3 ∧ t.status = .running := by decide +kernel
  have hmessage : (TableName.messages, 2) ∈ reached.index.places := by decide +kernel
  have hlast : reached.tables.lastId = 3 := by decide +kernel
  have hclaimed : claimed.tasks.map (fun t => (t.id, t.status, t.claimedBy)) =
      [(1, .running, some "second"), (3, .running, some "first")] := by decide +kernel
  -- From here on what the calls come to is not worked out again.
  clear hdecided
  clear_value claimed answer reached
  have hdone : answer (.claim "second" 1) = .ok .done := by
    obtain ⟨t, ht, hid, hstatus⟩ := hpending
    refine (hmoves (.claim "second" 1) _ rfl).done_iff.2 ⟨t, ht, hid, ?_⟩
    rintro status ⟨⟩
    exact hstatus
  have hfree : ∀ t ∈ reached.tasks, t.id ≠ 4 := hids 4 (.inr (by omega))
  refine ⟨hdone, hmade hdone, hclaimed, ?_, ?_, ?_, ?_, ?_⟩
  · exact (hmoves (.claim "second" 2) _ rfl).unknown_iff.2 (hids 2 (.inl ⟨_, hmessage, rfl, nofun⟩))
  · exact ((hmoves (.claim "second" 3) _ rfl).refused_iff _ _).2 ⟨rfl, nofun, hrunning⟩
  · exact ((hmoves (.complete 1 none) _ rfl).refused_iff _ _).2 ⟨rfl, nofun, hpending⟩
  · exact ((hsubmissions _).unknown_iff 4).2 ⟨rfl, hfree⟩
  · obtain ⟨t, ht, hid, -⟩ := hrunning
    have hqueued := (hsubmissions (submission (some 3))).queued_iff.2
    rw [hlast] at hqueued
    refine hqueued ⟨?_, by decide⟩
    rintro d ⟨⟩
    exact ⟨t, ht, hid⟩

end Switchboard
