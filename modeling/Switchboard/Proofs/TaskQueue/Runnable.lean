import Switchboard.Proofs.Reading
import Switchboard.Proofs.TaskQueue.Effect

namespace Switchboard

namespace Task

def IsReady (tasks : List Task) (t : Task) : Prop :=
  ∀ d ∈ t.dependsOn, ∃ u ∈ tasks, u.id = d ∧ u.status = .complete

structure IsRunnable (tasks : List Task) (t : Task) : Prop where
  pending : t.status = .pending
  ready : t.IsReady tasks

theorem IsReady.complete {tasks : List Task} {t u : Task} {last : Int} (h : t.IsReady tasks)
    (hnumbered : Numbered last tasks) (hu : u ∈ tasks) (hdependsOn : t.dependsOn = some u.id) :
    u.status = .complete := by
  obtain ⟨v, hv, hid, hcomplete⟩ := h u.id hdependsOn
  obtain rfl := hnumbered.eq_of_id hv hu hid
  exact hcomplete

end Task

namespace TaskQueue

open Operation

theorem exists_first? {rows : List (Entry Task)} (h : rows ≠ []) :
    ∃ e ∈ rows, first? rows = some e := by
  obtain ⟨row, rows, rfl⟩ := List.exists_cons_of_ne_nil h
  change ∃ e ∈ row :: rows, rows.foldl _ (some row) = some e
  induction rows generalizing row with
  | nil => exact ⟨row, by simp, rfl⟩
  | cons other rows ih =>
    rw [List.foldl_cons]
    dsimp only
    split
    · obtain ⟨e, he, hfirst⟩ := ih other (by simp)
      exact ⟨e, List.mem_cons_of_mem _ he, hfirst⟩
    · obtain ⟨e, he, hfirst⟩ := ih row (by simp)
      refine ⟨e, ?_, hfirst⟩
      obtain rfl | he := List.mem_cons.1 he
      · exact List.mem_cons_self
      · exact List.mem_cons_of_mem _ (List.mem_cons_of_mem _ he)

def offered? (tasks : List Task) : Option Task :=
  let rows := tasks.map Entry.plain
  (first? (rows.filter (isRunnable rows))).map (·.record)

section Offered

variable {tasks : List Task} {t : Task}

theorem isRunnable_plain :
    isRunnable (tasks.map Entry.plain) (Entry.plain t) = true ↔ t.IsRunnable tasks := by
  have hready : isReady (tasks.map Entry.plain) (Entry.plain t) = true ↔ t.IsReady tasks := by
    simp [isReady, Task.IsReady, Entry.plain, Entry.stray?, Entry.hasStatus, Option.all_eq_true]
  have hpending : (Entry.plain t).hasStatus .pending = true ↔ t.status = .pending := by
    simp [Entry.plain, Entry.stray?, Entry.hasStatus]
  rw [isRunnable, Bool.and_eq_true, hpending, hready]
  exact ⟨fun h => ⟨h.1, h.2⟩, fun h => ⟨h.pending, h.ready⟩⟩

theorem mem_runnable {e : Entry Task} :
    e ∈ (tasks.map Entry.plain).filter (isRunnable (tasks.map Entry.plain)) ↔
      ∃ t ∈ tasks, t.IsRunnable tasks ∧ Entry.plain t = e := by
  rw [List.mem_filter, List.mem_map]
  constructor
  · rintro ⟨⟨t, ht, rfl⟩, hrunnable⟩
    exact ⟨t, ht, isRunnable_plain.1 hrunnable, rfl⟩
  · rintro ⟨t, ht, hrunnable, rfl⟩
    exact ⟨⟨t, ht, rfl⟩, isRunnable_plain.2 hrunnable⟩

/-- Nothing is offered and nothing is runnable, or the first row is that of a runnable task. -/
theorem offered?_cases (tasks : List Task) :
    let first := first? ((tasks.map Entry.plain).filter (isRunnable (tasks.map Entry.plain)))
    (offered? tasks = none ∧ first = none ∧ ∀ t ∈ tasks, ¬ t.IsRunnable tasks) ∨
      ∃ t ∈ tasks, t.IsRunnable tasks ∧ offered? tasks = some t ∧ first = some (.plain t) := by
  unfold offered?
  dsimp only
  by_cases hrows : (tasks.map Entry.plain).filter (isRunnable (tasks.map Entry.plain)) = []
  · refine .inl ⟨by rw [hrows]; rfl, by rw [hrows]; rfl, fun t ht hrunnable => ?_⟩
    have hmem := mem_runnable.2 ⟨t, ht, hrunnable, rfl⟩
    rw [hrows] at hmem
    cases hmem
  · obtain ⟨e, he, hfirst⟩ := exists_first? hrows
    obtain ⟨t, ht, hrunnable, rfl⟩ := mem_runnable.1 he
    exact .inr ⟨t, ht, hrunnable, by rw [hfirst]; rfl, hfirst⟩

theorem isRunnable_of_offered (h : offered? tasks = some t) : t ∈ tasks ∧ t.IsRunnable tasks := by
  obtain ⟨hnone, -, -⟩ | ⟨u, hu, hrunnable, hsome, -⟩ := offered?_cases tasks
  · cases h.symm.trans hnone
  · obtain rfl := Option.some.inj (h.symm.trans hsome)
    exact ⟨hu, hrunnable⟩

theorem offered?_eq_none : offered? tasks = none ↔ ∀ t ∈ tasks, ¬ t.IsRunnable tasks := by
  obtain ⟨hnone, -, hnobody⟩ | ⟨u, hu, hrunnable, hsome, -⟩ := offered?_cases tasks
  · exact ⟨fun _ => hnobody, fun _ => hnone⟩
  · rw [hsome]
    exact ⟨nofun, fun h => absurd hrunnable (h u hu)⟩

theorem reads_first {ledger : Ledger} :
    (Statement.read (first? ((tasks.map Entry.plain).filter
        (isRunnable (tasks.map Entry.plain)))).toList).Reads ledger
      ((offered? tasks).toList.map Entry.plain) := by
  obtain ⟨hnone, hfirst, -⟩ | ⟨t, -, -, hsome, hfirst⟩ := offered?_cases tasks
  · rw [hnone, hfirst]
    exact Statement.reads_read []
  · rw [hsome, hfirst]
    exact Statement.reads_read [t]

end Offered

variable {context : Context} {run left : Run} {ledger : Ledger} {id : Int}

theorem perform_guardedUpdate (id : Int) (expected : TaskStatus) (columns : List String)
    {change : Task → Task} (keepsId : ∀ t, (change t).id = t.id) (h : run.Serves ledger) :
    let picks (t : Task) := t.id == id && t.status == expected
    ∃ store, perform (statement (.updateTask id) (Statement.update
        (fun e => e.record.id == id && e.hasStatus expected) columns change keepsId)) context run =
        (.ok (ledger.tasks.countP picks), { run with store }) ∧
      run.store.Tended store ∧ store.tables.Holds
        { ledger with tasks := ledger.tasks.map fun t => if picks t then change t else t } :=
  perform_update _ keepsId h fun _ => rfl

theorem perform_advance {expected : TaskStatus} {columns : List String} {change : Task → Task}
    {keepsId : ∀ t, (change t).id = t.id} (h : run.Serves ledger)
    (hfound : ∃ t ∈ ledger.tasks, t.id = id ∧ t.status = expected) :
    ∃ store, perform (advance id expected columns change keepsId) context run =
      (.ok (), { run with store }) := by
  obtain ⟨store, hupdate, -⟩ := perform_guardedUpdate id expected columns keepsId h
  have hcounted : ledger.tasks.countP (fun t => t.id == id && t.status == expected) ≠ 0 := by
    obtain ⟨t, ht, hid, hstatus⟩ := hfound
    exact Nat.pos_iff_ne_zero.1 (List.countP_pos_iff.2 ⟨t, ht, by simp [hid, hstatus]⟩)
  refine ⟨store, ?_⟩
  unfold advance
  rw [perform_bind_eq hupdate, if_neg hcounted]
  rfl

/-- Where nothing stands in the way, a task that has the status for a move is moved. -/
theorem perform_move {expected : TaskStatus} (columns : List String)
    (change : Timestamp → Task → Task) (notice : Notice)
    (keepsId : ∀ now t, (change now t).id = t.id) (h : run.store.tables.Holds ledger)
    (hrun : run.Undisturbed run.store) (hown : run.store.tables.Own)
    (hfound : ∃ t ∈ ledger.tasks, t.id = id ∧ t.status = expected) :
    ∃ left, perform (do
      connect
      let context ← read
      transaction (advance id expected columns (change context.now) (keepsId context.now))
      notify notice) context run = (.ok (), left) := by
  have hserves := hrun.serves h hown
  obtain ⟨store, hadvance⟩ : ∃ store, perform (advance id expected columns (change context.now)
      (keepsId context.now)) context run.connected = (.ok (), { run.connected with store }) :=
    perform_advance hserves hfound
  rw [perform_bind_eq (perform_connect hrun hown), perform_bind_eq (perform_read _ _),
    perform_bind_eq (hserves.transaction hadvance)]
  exact ⟨_, rfl⟩

theorem claim_succeeds {dispatcher : String} (h : run.store.tables.Holds ledger)
    (hrun : run.Undisturbed run.store) (hown : run.store.tables.Own)
    (hfound : ∃ t ∈ ledger.tasks, t.id = id ∧ t.status = .pending) :
    ∃ left, perform (claim dispatcher id) context run = (.ok (), left) :=
  perform_move claimColumns (Task.claimFor dispatcher) (.taskClaimed id dispatcher)
    (fun _ _ => rfl) h hrun hown hfound

theorem complete_succeeds {output : Option String} (h : run.store.tables.Holds ledger)
    (hrun : run.Undisturbed run.store) (hown : run.store.tables.Own)
    (hfound : ∃ t ∈ ledger.tasks, t.id = id ∧ t.status = .running) :
    ∃ left, perform (complete id output) context run = (.ok (), left) :=
  perform_move completeColumns (Task.completeWith output) (.taskComplete id)
    (fun _ _ => rfl) h hrun hown hfound

end TaskQueue

theorem Call.tells_nextRunnable (ledger : Ledger) :
    Call.nextRunnable.Tells ledger (.task (TaskQueue.offered? ledger.tasks)) := by
  refine .intro rfl ((Statement.reads_rows _).bind TaskQueue.reads_first) ?_
  intro context run
  cases TaskQueue.offered? ledger.tasks <;> rfl

namespace Attempt

open TaskQueue

variable {attempt : Attempt} {store : Store} {ledger : Ledger} {id : Int}

theorem offered_of_next {found : Option Task} (h : store.tables.Holds ledger)
    (hcall : attempt.call = .nextRunnable) (hanswer : attempt.answer store = .ok (.task found)) :
    found = offered? ledger.tasks :=
  Answer.task.inj (told_eq h (hcall ▸ Call.tells_nextRunnable ledger) hanswer)

theorem next_succeeds (h : store.tables.Holds ledger) (hcall : attempt.call = .nextRunnable)
    (hrun : attempt.run.Undisturbed store) (hown : store.tables.Own) :
    attempt.answer store = .ok (.task (offered? ledger.tasks)) :=
  answer_eq h hown (hcall ▸ Call.tells_nextRunnable ledger) hrun

theorem pending_of_claim {dispatcher : String} {answer : Answer} (hs : ledger.Sound)
    (h : store.tables.Holds ledger) (hcall : attempt.call = .claim dispatcher id)
    (hanswer : attempt.answer store = .ok answer) :
    ∃ t ∈ ledger.tasks, t.id = id ∧ t.status = .pending := by
  obtain ⟨_, left, hclaim, -⟩ := (answer_eq_ok (by rw [hcall]; rfl)).1 hanswer
  exact (claim_ok hs h hclaim).1

theorem claim_succeeds {dispatcher : String} (h : store.tables.Holds ledger)
    (hcall : attempt.call = .claim dispatcher id) (hrun : attempt.run.Undisturbed store)
    (hown : store.tables.Own) (hfound : ∃ t ∈ ledger.tasks, t.id = id ∧ t.status = .pending) :
    attempt.answer store = .ok .done := by
  obtain ⟨left, hclaim⟩ := TaskQueue.claim_succeeds h hrun.found hown hfound
  exact (answer_eq_ok (by rw [hcall]; rfl)).2 ⟨_, left, hclaim, rfl⟩

theorem complete_succeeds {output : Option String} (h : store.tables.Holds ledger)
    (hcall : attempt.call = .complete id output) (hrun : attempt.run.Undisturbed store)
    (hown : store.tables.Own) (hfound : ∃ t ∈ ledger.tasks, t.id = id ∧ t.status = .running) :
    attempt.answer store = .ok .done := by
  obtain ⟨left, hcomplete⟩ := TaskQueue.complete_succeeds h hrun.found hown hfound
  exact (answer_eq_ok (by rw [hcall]; rfl)).2 ⟨_, left, hcomplete, rfl⟩

end Attempt

end Switchboard
