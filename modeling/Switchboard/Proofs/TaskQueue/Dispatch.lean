import Switchboard.Proofs.TaskQueue.Dependency
import Switchboard.Proofs.TaskQueue.Lifecycle

namespace Switchboard

open Classical in
noncomputable def Task.dispatchable (tasks : List Task) : List Task :=
  tasks.filter fun t => decide (t.status = .pending ∧ ¬ t.Blocked tasks)

/-- One of some tasks has been completed, and the others are as they were. -/
def Task.Completes (t : Task) (tasks next : List Task) : Prop :=
  ∃ before after done, tasks = before ++ t :: after ∧ next = before ++ done :: after ∧
    done.asSubmitted = t.asSubmitted ∧ done.status = .complete

theorem Numbered.map_of_mem {tasks : List Task} {t : Task} {last : Int} (h : Numbered last tasks)
    (ht : t ∈ tasks) :
    ∃ before after, tasks = before ++ t :: after ∧ ∀ f : Task → Task,
      (tasks.map fun u => if u.id == t.id then f u else u) = before ++ f t :: after := by
  obtain ⟨before, after, rfl⟩ := List.append_of_mem ht
  obtain ⟨-, hafter, hbefore⟩ := List.pairwise_append.1 h.ascending
  refine ⟨before, after, rfl, fun f => ?_⟩
  have hsame {tasks : List Task} (hne : ∀ u ∈ tasks, u.id ≠ t.id) :
      (tasks.map fun u => if u.id == t.id then f u else u) = tasks := by
    rw [List.map_congr_left (g := id) fun u hu => by simp [hne u hu], List.map_id]
  rw [List.map_append, List.map_cons, hsame, hsame, if_pos (beq_self_eq_true _)]
  · intro u hu
    have hlt : t.id < u.id := (List.pairwise_cons.1 hafter).1 u hu
    omega
  · intro u hu
    have hlt : u.id < t.id := hbefore u hu t List.mem_cons_self
    omega

namespace Task

variable {tasks next : List Task} {t u : Task} {last : Int}

theorem mem_dispatchable :
    t ∈ dispatchable tasks ↔ t ∈ tasks ∧ t.status = .pending ∧ ¬ t.Blocked tasks := by
  simp [dispatchable]

theorem mem_replaced {before after : List Task} {done : Task} (h : u ∈ before ++ t :: after)
    (hne : u ≠ t) : u ∈ before ++ done :: after := by
  rw [List.mem_append, List.mem_cons] at h ⊢
  exact h.imp_right fun h => .inr (h.resolve_left hne)

namespace Completes

theorem blocked_iff (h : t.Completes tasks next) (hnumbered : Numbered last tasks)
    (hrunnable : t.IsRunnable tasks) : u.Blocked tasks ↔ u.Blocked next := by
  have hnot := hrunnable.not_blocked hnumbered
  obtain ⟨before, after, done, rfl, rfl, -, hdone⟩ := h
  constructor
  · intro hblocked
    refine hblocked.mono fun v hv hholds => mem_replaced hv ?_
    rintro rfl
    exact not_holdsUp_of_pending hrunnable.pending hnot hholds
  · intro hblocked
    refine hblocked.mono fun v hv hholds => mem_replaced hv ?_
    rintro rfl
    exact not_holdsUp_of_complete hdone hholds

open Classical in
theorem dispatchable_perm (h : t.Completes tasks next) (hnumbered : Numbered last tasks)
    (hrunnable : t.IsRunnable tasks) : (dispatchable tasks).Perm (t :: dispatchable next) := by
  have hblocked (u : Task) := h.blocked_iff (u := u) hnumbered hrunnable
  have hnot := hrunnable.not_blocked hnumbered
  obtain ⟨before, after, done, rfl, rfl, -, hdone⟩ := h
  have hothers (others : List Task) :
      others.filter (fun u => decide (u.status = .pending ∧ ¬ u.Blocked (before ++ done :: after))) =
        others.filter fun u => decide (u.status = .pending ∧ ¬ u.Blocked (before ++ t :: after)) :=
    List.filter_congr fun u _ => decide_eq_decide.2 (by rw [hblocked u])
  unfold dispatchable
  rw [List.filter_append, List.filter_append, List.filter_cons_of_pos, List.filter_cons_of_neg,
    hothers, hothers]
  · exact List.perm_middle
  · simp [hdone]
  · simp [hrunnable.pending, hnot]

end Completes

end Task

/-- A round of a dispatcher: what it says of a task, and the calls by which it looks for the next
one, claims it and completes it. -/
structure Round where
  dispatcher : String
  output : Option String
  look : Client
  claim : Client
  complete : Client

namespace Round

variable (round : Round) (t : Task)

def looking : Attempt := round.look.attempt .nextRunnable

def claiming : Attempt := round.claim.attempt (.claim round.dispatcher t.id)

def completing : Attempt := round.complete.attempt (.complete t.id round.output)

def looked (store : Store) : Store := round.looking.after store

def claimed (store : Store) : Store := (round.claiming t).after (round.looked store)

def completed (store : Store) : Store := (round.completing t).after (round.claimed t store)

/-- Nothing disturbs the calls of the round. -/
structure Undisturbed (store : Store) : Prop where
  look : round.look.run.Undisturbed store
  claim : round.claim.run.Undisturbed store
  complete : round.complete.run.Undisturbed store

end Round

structure Dispatch where
  /-- The tasks that it has claimed and completed, in this order. -/
  processed : List Task
  ended : Bool
  store : Store

/-- Take the next task, claim it and complete it, until there is none. The list bounds the number of
rounds; a round that fails is the last one. -/
def Store.dispatch (store : Store) : List Round → Dispatch
  | [] => ⟨[], false, store⟩
  | round :: rounds =>
    match round.looking.answer store with
    | .ok (.task (some t)) =>
      match (round.claiming t).answer (round.looked store) with
      | .ok _ =>
        match (round.completing t).answer (round.claimed t store) with
        | .ok _ =>
          let rest := (round.completed t store).dispatch rounds
          { rest with processed := t :: rest.processed }
        | .error _ => ⟨[], false, round.completed t store⟩
      | .error _ => ⟨[], false, round.claimed t store⟩
    | .ok (.task none) => ⟨[], true, round.looked store⟩
    | _ => ⟨[], false, round.looked store⟩

theorem Round.Undisturbed.tended {round : Round} {store after : Store}
    (h : round.Undisturbed store) (htended : store.Tended after) : round.Undisturbed after :=
  ⟨h.look.tended htended, h.claim.tended htended, h.complete.tended htended⟩

theorem Ledger.changeTask_changeTask (ledger : Ledger) (id : Int) (f g : Task → Task)
    (hf : ∀ t, (f t).id = t.id) :
    (ledger.changeTask id f).changeTask id g = ledger.changeTask id (g ∘ f) := by
  unfold changeTask
  dsimp only
  rw [List.map_map]
  congr 1
  apply List.map_congr_left
  intro t _
  by_cases hid : t.id = id
  · simp [hid, hf]
  · simp [hid]

/-- A store that clients have filled, and what it holds. -/
structure Store.Filled (store : Store) (ledger : Ledger) : Prop where
  sound : ledger.Sound
  holds : store.tables.Holds ledger
  own : store.tables.Own
  grounded : Task.Grounded ledger.tasks

section Rounds

variable {store : Store} {ledger : Ledger} {round : Round} {rounds : List Round} {t : Task}

theorem Store.Filled.step {attempt : Attempt} {answer : Answer} (h : store.Filled ledger)
    (hanswer : attempt.answer store = .ok answer) :
    ∃ next, (attempt.after store).Filled next ∧
      Effect attempt.context.now ledger attempt.call answer next := by
  obtain ⟨next, hnext, heffect⟩ := attempt.effect_of_ok h.sound h.holds hanswer
  have hown : (attempt.after store).tables.Own :=
    (Store.writing_tended.after store [attempt]).own h.own
  exact ⟨next, ⟨heffect.sound h.sound, hnext, hown, heffect.grounded h.sound h.grounded⟩, heffect⟩

theorem Round.looks (h : store.Filled ledger) (hround : round.Undisturbed store) :
    round.looking.answer store = .ok (.task (TaskQueue.offered? ledger.tasks)) ∧
      (round.looked store).Filled ledger := by
  have hanswer : round.looking.answer store = .ok (.task (TaskQueue.offered? ledger.tasks)) :=
    Attempt.next_succeeds h.holds rfl hround.look h.own
  obtain ⟨next, hnext, heffect⟩ := h.step hanswer
  have heffect : Effect round.look.context.now ledger .nextRunnable _ next := heffect
  cases heffect
  exact ⟨hanswer, hnext⟩

theorem Round.completes (h : store.Filled ledger) (hround : round.Undisturbed store)
    (ht : t ∈ ledger.tasks) (hpending : t.status = .pending) :
    (round.claiming t).answer (round.looked store) = .ok .done ∧
      (round.completing t).answer (round.claimed t store) = .ok .done ∧
      ∃ next, (round.completed t store).Filled next ∧ t.Completes ledger.tasks next.tasks := by
  have hlooked : store.Tended (round.looked store) :=
    Store.writing_tended.after store [round.looking]
  have hclaimed : store.Tended (round.claimed t store) :=
    Store.writing_tended.after store [round.looking, round.claiming t]
  have hfilled := (round.looks h hround).2
  have hclaim : (round.claiming t).answer (round.looked store) = .ok .done :=
    Attempt.claim_succeeds hfilled.holds rfl (hround.claim.tended hlooked) hfilled.own
      ⟨t, ht, rfl, hpending⟩
  obtain ⟨running, hrunning, heffect⟩ := hfilled.step hclaim
  have heffect : Effect round.claim.context.now ledger (.claim round.dispatcher t.id) .done
    running := heffect
  cases heffect with
  | looked _ hlooks => cases hlooks
  | claimed =>
    obtain ⟨before, after, hsplit, hmap⟩ := h.sound.tasks.map_of_mem ht
    have hcomplete : (round.completing t).answer (round.claimed t store) = .ok .done := by
      refine Attempt.complete_succeeds hrunning.holds rfl (hround.complete.tended hclaimed)
        hrunning.own ⟨Task.claimFor round.dispatcher round.claim.context.now t, ?_, rfl, rfl⟩
      change _ ∈ ledger.tasks.map _
      rw [hmap]
      exact List.mem_append_right _ List.mem_cons_self
    obtain ⟨next, hnext, heffect⟩ := hrunning.step hcomplete
    have heffect : Effect round.complete.context.now _ (.complete t.id round.output) .done next :=
      heffect
    cases heffect with
    | looked _ hlooks => cases hlooks
    | completed =>
      let change := Task.completeWith round.output round.complete.context.now ∘
        Task.claimFor round.dispatcher round.claim.context.now
      refine ⟨hclaim, hcomplete, _, hnext, before, after, change t, hsplit, ?_, rfl, rfl⟩
      have hchange := ledger.changeTask_changeTask t.id
        (Task.claimFor round.dispatcher round.claim.context.now)
        (Task.completeWith round.output round.complete.context.now) fun _ => rfl
      rw [hchange]
      exact hmap change

theorem Store.dispatch_none (h : round.looking.answer store = .ok (.task none)) :
    store.dispatch (round :: rounds) = ⟨[], true, round.looked store⟩ := by
  rw [dispatch, h]

theorem Store.dispatch_some (hlook : round.looking.answer store = .ok (.task (some t)))
    (hclaim : (round.claiming t).answer (round.looked store) = .ok .done)
    (hcomplete : (round.completing t).answer (round.claimed t store) = .ok .done) :
    store.dispatch (round :: rounds) =
      let rest := (round.completed t store).dispatch rounds
      { rest with processed := t :: rest.processed } := by
  rw [dispatch, hlook]
  dsimp only
  rw [hclaim]
  dsimp only
  rw [hcomplete]

end Rounds

/-- A dispatcher has gone through some tasks, in so many rounds at most. -/
structure Dispatches (tasks : List Task) (rounds : Nat) (d : Dispatch) : Prop where
  ended : d.ended = true ↔ (Task.dispatchable tasks).length < rounds
  length : d.processed.length = min rounds (Task.dispatchable tasks).length
  once : (d.processed ++ Task.dispatchable d.store.tasks).Perm (Task.dispatchable tasks)
  ordered : ∀ before t after, d.processed = before ++ t :: after →
    ∀ u ∈ tasks, u.status = .pending → t.dependsOn = some u.id → u ∈ before
  others : ∀ u ∈ tasks, u ∉ d.processed → u ∈ d.store.tasks
  finished : ∀ t ∈ d.processed,
    ∃ u ∈ d.store.tasks, u.asSubmitted = t.asSubmitted ∧ u.status = .complete

namespace Dispatches

variable {tasks next : List Task} {rounds : Nat} {d : Dispatch} {t : Task} {last : Int}

theorem mem_dispatchable (h : Dispatches tasks rounds d) (ht : t ∈ d.processed) :
    t ∈ Task.dispatchable tasks :=
  h.once.mem_iff.1 (List.mem_append_left _ ht)

theorem nil {store : Store} (htasks : store.tasks = tasks) :
    Dispatches tasks 0 ⟨[], false, store⟩ where
  ended := by simp
  length := (Nat.zero_min _).symm
  once := htasks ▸ .refl _
  ordered := by simp
  others u hu _ := htasks ▸ hu
  finished := by simp

theorem idle {store : Store} (htasks : store.tasks = tasks) (hnone : Task.dispatchable tasks = []) :
    Dispatches tasks (rounds + 1) ⟨[], true, store⟩ where
  ended := by simp [hnone]
  length := by simp [hnone]
  once := htasks ▸ .refl _
  ordered := by simp
  others u hu _ := htasks ▸ hu
  finished := by simp

theorem cons (h : Dispatches next rounds d) (hcompletes : t.Completes tasks next)
    (hnumbered : Numbered last tasks) (hrunnable : t.IsRunnable tasks) :
    Dispatches tasks (rounds + 1) { d with processed := t :: d.processed } := by
  have hperm := hcompletes.dispatchable_perm hnumbered hrunnable
  have hlength : (Task.dispatchable tasks).length = (Task.dispatchable next).length + 1 :=
    hperm.length_eq
  have hothers : ∀ u ∈ tasks, u ≠ t → u ∈ next := by
    obtain ⟨before, after, done, rfl, rfl, -, -⟩ := hcompletes
    exact fun u hu hne => Task.mem_replaced hu hne
  have hnext : ∀ u ∈ d.processed, u.status = .pending := fun u hu =>
    (Task.mem_dispatchable.1 (h.mem_dispatchable hu)).2.1
  constructor
  · rw [h.ended, hlength]
    omega
  · rw [List.length_cons, h.length, hlength]
    omega
  · exact (h.once.cons t).trans hperm.symm
  · intro before u after hsplit v hv hpending hdependsOn
    obtain ⟨rfl, hhead⟩ | ⟨before, rfl, hrest⟩ := List.cons_eq_append_iff.1 hsplit
    · -- The first task is ready, so it depends on no pending one.
      obtain ⟨rfl, -⟩ := List.cons.inj hhead
      obtain ⟨w, hw, hid, hcomplete⟩ := hrunnable.ready v.id hdependsOn
      obtain rfl := hnumbered.eq_of_id hw hv hid
      cases hpending.symm.trans hcomplete
    · by_cases hvt : v = t
      · exact hvt ▸ List.mem_cons_self
      · exact List.mem_cons_of_mem _
          (h.ordered before u after hrest v (hothers v hv hvt) hpending hdependsOn)
  · intro u hu hnot
    rw [List.mem_cons, not_or] at hnot
    exact h.others u (hothers u hu hnot.1) hnot.2
  · intro u hu
    obtain rfl | hu := List.mem_cons.1 hu
    · -- The rest of the run dispatches pending tasks only, so it leaves the complete one alone.
      obtain ⟨before, after, done, rfl, rfl, hsubmitted, hdone⟩ := hcompletes
      have hnot : done ∉ d.processed := fun hmem => by cases hdone.symm.trans (hnext done hmem)
      exact ⟨done, h.others done (List.mem_append_right _ List.mem_cons_self) hnot, hsubmitted,
        hdone⟩
    · exact h.finished u hu

end Dispatches

theorem Store.dispatches {store : Store} {ledger : Ledger} (h : store.Filled ledger)
    (rounds : List Round) (hrounds : ∀ round ∈ rounds, round.Undisturbed store) :
    Dispatches ledger.tasks rounds.length (store.dispatch rounds) := by
  induction rounds generalizing store ledger with
  | nil => exact .nil h.holds.tasks_eq
  | cons round rounds ih =>
    have hround := hrounds round List.mem_cons_self
    obtain ⟨hlook, hlooked⟩ := round.looks h hround
    cases hoffered : TaskQueue.offered? ledger.tasks with
    | none =>
      rw [hoffered] at hlook
      rw [Store.dispatch_none hlook, List.length_cons]
      refine .idle hlooked.holds.tasks_eq (List.eq_nil_iff_forall_not_mem.2 fun t ht => ?_)
      obtain ⟨ht, hpending, hnot⟩ := Task.mem_dispatchable.1 ht
      exact hnot ((Task.offered?_eq_none_iff_blocked h.grounded h.sound.tasks).1 hoffered t ht
        hpending)
    | some t =>
      rw [hoffered] at hlook
      obtain ⟨ht, hrunnable⟩ := TaskQueue.isRunnable_of_offered hoffered
      obtain ⟨hclaim, hcomplete, next, hnext, hcompletes⟩ :=
        round.completes h hround ht hrunnable.pending
      have htended : store.Tended (round.completed t store) :=
        Store.writing_tended.after store [round.looking, round.claiming t, round.completing t]
      rw [Store.dispatch_some hlook hclaim hcomplete, List.length_cons]
      exact (ih hnext fun other hother =>
        (hrounds other (List.mem_cons_of_mem _ hother)).tended htended).cons hcompletes
          h.sound.tasks hrunnable

namespace Dispatches

variable {tasks : List Task} {rounds : Nat} {d : Dispatch} {t : Task} {last : Int}

theorem nodup (h : Dispatches tasks rounds d) (hnumbered : Numbered last tasks) :
    (d.processed.map (·.id)).Nodup := by
  have hids : ((Task.dispatchable tasks).map (·.id)).Nodup := by
    refine List.pairwise_map.2 ((hnumbered.ascending.filter _).imp ?_)
    intro a b hlt
    exact Int.ne_of_lt hlt
  have hall := (h.once.map (·.id)).nodup_iff.2 hids
  rw [List.map_append] at hall
  exact (List.nodup_append.1 hall).1

theorem perm_of_ended (h : Dispatches tasks rounds d) (hended : d.ended = true) :
    d.processed.Perm (Task.dispatchable tasks) := by
  have hrounds := h.ended.1 hended
  have hlength := h.once.length_eq
  rw [List.length_append, h.length] at hlength
  have hnil : Task.dispatchable d.store.tasks = [] := List.eq_nil_of_length_eq_zero (by omega)
  have honce := h.once
  rwa [hnil, List.append_nil] at honce

theorem blocked (h : Dispatches tasks rounds d) (ht : t ∈ tasks) (hblocked : t.Blocked tasks) :
    t ∈ d.store.tasks ∧ t.Blocked d.store.tasks := by
  have hstays {u : Task} (hu : u ∈ tasks) (hholds : u.HoldsUp tasks) : u ∈ d.store.tasks := by
    refine h.others u hu fun hprocessed => ?_
    obtain ⟨-, hpending, hnot⟩ := Task.mem_dispatchable.1 (h.mem_dispatchable hprocessed)
    exact Task.not_holdsUp_of_pending hpending hnot hholds
  exact ⟨hstays ht (.inr (.inr hblocked)), hblocked.mono fun _ => hstays⟩

end Dispatches

theorem Store.filled_after {store : Store} (h : store.tables = {}) (attempts : List Attempt) :
    ∃ ledger, (store.after attempts).Filled ledger := by
  obtain ⟨ledger, hs, hholds, hgrounded⟩ := Store.exists_grounded h attempts
  exact ⟨ledger, hs, hholds, Store.own_after h attempts, hgrounded⟩

theorem Store.tasks_of_id {store : Store} (h : store.tables = {}) (attempts : List Attempt)
    {t : Task} {place : TableName × Int} (ht : t ∈ (store.after attempts).tasks)
    (hplace : place ∈ (store.after attempts).index.places) (hid : place.2 = t.id) :
    place.1 = .tasks := by
  have htask : (TableName.tasks, t.id) ∈ (store.after attempts).index.places := by
    obtain ⟨e, he, rfl⟩ := List.mem_map.1 ht
    exact List.mem_append_right _ (List.mem_map.2 ⟨e, he, rfl⟩)
  rw [Store.place_eq_of_id h attempts hplace htask hid]

/-- However clients use a store that was empty: a task depends on an older task, if on anything, so
that dependencies never lead back. There is no next task exactly if all pending tasks are blocked. A
dispatcher that nothing disturbs ends after as many rounds as there are pending tasks that are not
blocked. It has then processed each of these once, after the pending task that it depended on, and no
others; those that are blocked stay so. -/
theorem dispatching_never_gets_stuck (store : Store) (h : store.tables = {})
    (earlier : List Attempt) :
    let reached := store.after earlier
    (∀ t ∈ reached.tasks, ∀ d ∈ t.dependsOn, d < t.id ∧ (∃ u ∈ reached.tasks, u.id = d) ∧
        ∀ place ∈ reached.index.places, place.2 = d → place.1 = .tasks) ∧
      (∀ id, ¬ Relation.TransGen (Task.DependsOn reached.tasks) id id) ∧
      (∀ look : Attempt, look.call = .nextRunnable →
        (∀ found, look.answer reached = .ok (.task found) →
          (found = none ↔
            ∀ t ∈ reached.tasks, t.status = .pending → t.Blocked reached.tasks)) ∧
        (look.run.Undisturbed reached → ∃ found, look.answer reached = .ok (.task found))) ∧
      ∀ rounds : List Round, (∀ round ∈ rounds, round.Undisturbed reached) →
        let d := reached.dispatch rounds
        Dispatches reached.tasks rounds.length d ∧ (d.processed.map (·.id)).Nodup ∧
          (d.ended = true → d.processed.Perm (Task.dispatchable reached.tasks)) ∧
          ∀ t ∈ reached.tasks, t.Blocked reached.tasks →
            t ∈ d.store.tasks ∧ t.Blocked d.store.tasks := by
  intro reached
  obtain ⟨ledger, hfilled⟩ := Store.filled_after h earlier
  have htasks : reached.tasks = ledger.tasks := hfilled.holds.tasks_eq
  have hgrounded : Task.Grounded reached.tasks := htasks ▸ hfilled.grounded
  have hnumbered : Numbered ledger.last reached.tasks := htasks ▸ hfilled.sound.tasks
  refine ⟨?_, ?_, ?_, ?_⟩
  · intro t ht d hd
    obtain ⟨hlt, u, hu, rfl⟩ := hgrounded t ht d hd
    exact ⟨hlt, ⟨u, hu, rfl⟩, fun place hplace => Store.tasks_of_id h earlier hu hplace⟩
  · intro id hcycle
    exact Int.lt_irrefl id (hgrounded.lt_of_transGen hcycle)
  · intro look hcall
    constructor
    · intro found hanswer
      rw [Attempt.offered_of_next hfilled.holds hcall hanswer, ← htasks]
      exact Task.offered?_eq_none_iff_blocked hgrounded hnumbered
    · exact fun hrun => ⟨_, Attempt.next_succeeds hfilled.holds hcall hrun hfilled.own⟩
  · intro rounds hrounds d
    have hdispatches : Dispatches reached.tasks rounds.length d :=
      htasks ▸ Store.dispatches hfilled rounds hrounds
    exact ⟨hdispatches, hdispatches.nodup hnumbered, hdispatches.perm_of_ended,
      fun t ht => hdispatches.blocked ht⟩

/-- Of two chains of tasks the first one is dispatched, and the second one is held up by a task that
has failed. -/
theorem failed_task_holds_up_its_chain :
    let submit (dependsOn : Option Int) := Attempt.atEpoch (.submit
      { submittedBy := "planner", taskType := "build", dependsOn }) []
    let earlier := [submit none, submit (some 1), submit none, submit (some 3), submit (some 4),
      Attempt.atEpoch (.claim "first" 3) [], Attempt.atEpoch (.fail 3 none) []]
    let round : Round := ⟨"second", none, .atEpoch, .atEpoch, .atEpoch⟩
    let rounds := [round, round, round]
    let look := Attempt.atEpoch .nextRunnable []
    let reached := ({} : Store).after earlier
    let d := reached.dispatch rounds
    look.run.Undisturbed reached ∧ (∃ found, look.answer reached = .ok (.task found)) ∧
      (∀ round ∈ rounds, round.Undisturbed reached) ∧
      d.processed.map (·.id) = [1, 2] ∧ d.ended = true ∧
      d.store.tasks.map (fun t => (t.id, t.status)) =
        [(1, .complete), (2, .complete), (3, .failed), (4, .pending), (5, .pending)] ∧
      d.processed.Perm (Task.dispatchable reached.tasks) := by
  intro submit earlier round rounds look reached d
  have havailable : reached.Available :=
    (Store.writing_tended.after {} earlier).available ⟨rfl, rfl, rfl, rfl, rfl⟩
  have hrun : look.run.Undisturbed reached := ⟨rfl, havailable, nofun⟩
  have hround : round.Undisturbed reached :=
    ⟨⟨rfl, havailable, nofun⟩, ⟨rfl, havailable, nofun⟩, ⟨rfl, havailable, nofun⟩⟩
  have hrounds : ∀ round ∈ rounds, round.Undisturbed reached := by
    simp [rounds, hround]
  have hended : d.ended = true := by decide +kernel
  obtain ⟨-, -, hnext, hdispatch⟩ := dispatching_never_gets_stuck {} rfl earlier
  exact ⟨hrun, (hnext look rfl).2 hrun, hrounds, by decide +kernel, hended, by decide +kernel,
    (hdispatch rounds hrounds).2.2.1 hended⟩

end Switchboard
