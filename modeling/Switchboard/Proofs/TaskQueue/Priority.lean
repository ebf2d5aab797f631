import Mathlib.Data.Prod.Lex
import Switchboard.Proofs.TaskQueue.Lifecycle
import Switchboard.Proofs.TaskQueue.Runnable

namespace Switchboard

/-- What decides which task is dispatched first: the rank of its priority, and then its id. -/
def Task.precedence (t : Task) : Nat ×ₗ Int := toLex (t.priority.rank, t.id)

theorem Task.precedence_lt {t u : Task} :
    t.precedence < u.precedence ↔ t.priority.rank < u.priority.rank ∨
      t.priority.rank = u.priority.rank ∧ t.id < u.id :=
  Prod.Lex.toLex_lt_toLex

def Entry.precedence (e : Entry Task) : Nat ×ₗ Int := toLex (e.rank, e.record.id)

@[simp]
theorem Entry.precedence_plain (t : Task) : (Entry.plain t).precedence = t.precedence := rfl

theorem Entry.precedence_lt {e f : Entry Task} :
    e.precedence < f.precedence ↔ e.rank < f.rank ∨ e.rank = f.rank ∧ e.record.id < f.record.id :=
  Prod.Lex.toLex_lt_toLex

namespace TaskQueue

open Operation

theorem first?_le {rows : List (Entry Task)} {e : Entry Task}
    (hascending : rows.Pairwise fun a b => Row.id a < Row.id b) (hfirst : first? rows = some e) :
    ∀ f ∈ rows, e.precedence ≤ f.precedence := by
  cases rows with
  | nil => cases hfirst
  | cons best rows =>
    change rows.foldl _ (some best) = some e at hfirst
    -- The best row so far is older than all rows to come, so that it yields to a better rank only.
    induction rows generalizing best with
    | nil =>
      cases hfirst
      simp
    | cons other rows ih =>
      obtain ⟨hbest, hrest⟩ := List.pairwise_cons.1 hascending
      obtain ⟨holder, hrows⟩ := List.forall_mem_cons.1 hbest
      rw [List.foldl_cons] at hfirst
      dsimp only at hfirst
      split at hfirst
      · rename_i hlt
        have hother : other.precedence < best.precedence := Entry.precedence_lt.2 (.inl hlt)
        have hle := ih other hrest hfirst
        exact List.forall_mem_cons.2 ⟨(hle other List.mem_cons_self).trans hother.le, hle⟩
      · rename_i hnot
        have hrank : best.rank < other.rank ∨ best.rank = other.rank :=
          Nat.lt_or_eq_of_le (Nat.le_of_not_lt hnot)
        have hother : best.precedence < other.precedence :=
          Entry.precedence_lt.2 (hrank.imp_right (⟨·, holder⟩))
        have hle := ih best (List.pairwise_cons.2 ⟨hrows, (List.pairwise_cons.1 hrest).2⟩) hfirst
        obtain ⟨hbest, hrows⟩ := List.forall_mem_cons.1 hle
        exact List.forall_mem_cons.2 ⟨hbest, List.forall_mem_cons.2 ⟨hbest.trans hother.le, hrows⟩⟩

variable {tasks : List Task} {t : Task} {last : Int}

theorem precedence_lt_of_offered (hnumbered : Numbered last tasks) (h : offered? tasks = some t)
    (u : Task) (hu : u ∈ tasks) (hrunnable : u.IsRunnable tasks) (hne : u ≠ t) :
    t.precedence < u.precedence := by
  obtain ⟨ht, -⟩ := isRunnable_of_offered h
  obtain ⟨hnone, -, -⟩ | ⟨v, -, -, hsome, hfirst⟩ := offered?_cases tasks
  · cases h.symm.trans hnone
  obtain rfl := Option.some.inj (h.symm.trans hsome)
  have hascending : (tasks.map Entry.plain).Pairwise fun a b => Row.id a < Row.id b :=
    List.pairwise_map.2 hnumbered.ascending
  have hle := first?_le (hascending.filter _) hfirst _ (mem_runnable.2 ⟨u, hu, hrunnable, rfl⟩)
  refine lt_of_le_of_ne hle fun heq => hne ?_
  exact hnumbered.eq_of_id hu ht (congrArg (fun p => (ofLex p).2) heq).symm

theorem offered?_eq_some (hnumbered : Numbered last tasks) :
    offered? tasks = some t ↔ t ∈ tasks ∧ t.IsRunnable tasks ∧
      ∀ u ∈ tasks, u.IsRunnable tasks → u ≠ t → t.precedence < u.precedence := by
  constructor
  · intro h
    obtain ⟨ht, hrunnable⟩ := isRunnable_of_offered h
    exact ⟨ht, hrunnable, precedence_lt_of_offered hnumbered h⟩
  · rintro ⟨ht, hrunnable, hleast⟩
    cases hoffered : offered? tasks with
    | none => exact absurd hrunnable (offered?_eq_none.1 hoffered t ht)
    | some u =>
      obtain ⟨hu, hrunnableU⟩ := isRunnable_of_offered hoffered
      by_cases hne : u = t
      · rw [hne]
      · have hlt := hleast u hu hrunnableU hne
        have hgt := precedence_lt_of_offered hnumbered hoffered t ht hrunnable (Ne.symm hne)
        exact absurd hgt (lt_asymm hlt)

end TaskQueue

theorem Call.tells_find (ledger : Ledger) (id : Int) :
    (Call.find id).Tells ledger (.task (ledger.task? id)) := by
  refine .intro rfl (Statement.reads_select (ledger.find?_row id)) ?_
  intro context run
  cases ledger.task? id <;> rfl

/-- However clients have used a store that was empty: the next task is the one that is runnable, that
is pending and depends on nothing or on a complete task, and that takes precedence over every other
task that is, by its priority, high before normal before low, and then by its id. There is none exactly
if no task is runnable. What the next task depends on is neither pending nor running, nor has it
failed. Who asks for the task by its id is told the same record. -/
theorem next_task_takes_precedence (store : Store) (h : store.tables = {})
    (earlier : List Attempt) :
    let reached := store.after earlier
    let tasks := reached.tasks
    let rank : Priority → Nat := fun
      | .high => 0
      | .normal => 1
      | .low => 2
    ∃ found : Option Task, reached.Tells .nextRunnable (.task found) ∧
      (∀ t, found = some t ↔ t ∈ tasks ∧ t.IsRunnable tasks ∧
        ∀ u ∈ tasks, u.IsRunnable tasks → u ≠ t →
          rank t.priority < rank u.priority ∨ rank t.priority = rank u.priority ∧ t.id < u.id) ∧
      (found = none ↔ ∀ t ∈ tasks, ¬ t.IsRunnable tasks) ∧
      ∀ t, found = some t →
        (∀ u ∈ tasks, t.dependsOn = some u.id →
          u.status ≠ .pending ∧ u.status ≠ .running ∧ u.status ≠ .failed) ∧
        reached.Tells (.find t.id) (.task (some t)) := by
  intro reached tasks rank
  obtain ⟨ledger, hs, hholds⟩ := Store.exists_ledger h earlier
  have htasks : tasks = ledger.tasks := hholds.tasks_eq
  have hnumbered : Numbered ledger.last tasks := htasks ▸ hs.tasks
  have hown := Store.own_after h earlier
  have hrank : rank = Priority.rank := by
    funext priority
    cases priority <;> rfl
  refine ⟨TaskQueue.offered? tasks, ?_, fun t => ?_, TaskQueue.offered?_eq_none,
    fun t hoffered => ⟨?_, ?_⟩⟩
  · rw [htasks]
    exact (Call.tells_nextRunnable ledger).of_holds hholds hown
  · simp only [TaskQueue.offered?_eq_some hnumbered, Task.precedence_lt, hrank]
  · intro u hu hdependsOn
    have hready := (TaskQueue.isRunnable_of_offered hoffered).2.ready
    simp [hready.complete hnumbered hu hdependsOn]
  · have ht : ledger.task? t.id = some t :=
      (Ledger.task?_eq_some hs).2 ⟨htasks ▸ (TaskQueue.isRunnable_of_offered hoffered).1, rfl⟩
    rw [← ht]
    exact (Call.tells_find ledger t.id).of_holds hholds hown

/-- Of two tasks of high priority the older one is next, though tasks of normal and of low priority are
older: one with high priority waits for a pending task, and another one for a task that has failed. -/
theorem older_of_two_is_next :
    let submit (priority : Priority) (dependsOn : Option Int) := Attempt.atEpoch (.submit
      { submittedBy := "planner", taskType := "build", priority, dependsOn }) []
    let earlier := [submit .low none, submit .high (some 1), submit .high none,
      Attempt.atEpoch (.claim "first" 3) [], Attempt.atEpoch (.fail 3 none) [],
      submit .high (some 3), submit .normal none, submit .high none, submit .high none]
    let reached := ({} : Store).after earlier
    let normal : Task := .queued 5 .epoch { submittedBy := "planner", taskType := "build" }
    let next : Task := { normal with id := 6, priority := .high }
    (Attempt.atEpoch .nextRunnable []).answer reached = .ok (.task (some next)) ∧
      (Attempt.atEpoch (.find 6) []).answer reached = .ok (.task (some next)) ∧
      (normal ∈ reached.tasks ∧ normal.IsRunnable reached.tasks) ∧
      reached.Tells (.find 6) (.task (some next)) := by
  intro submit earlier reached normal next
  have hanswer : (Attempt.atEpoch .nextRunnable []).answer reached = .ok (.task (some next)) := by
    decide +kernel
  obtain ⟨found, htells, -, -, hsame⟩ := next_task_takes_precedence {} rfl earlier
  have hfound : found = some next :=
    (Answer.task.inj ((htells (.atEpoch .nextRunnable []) rfl).1 _ hanswer)).symm
  exact ⟨hanswer, by decide +kernel, ⟨by decide +kernel, rfl, nofun⟩, (hsame next hfound).2⟩

end Switchboard
