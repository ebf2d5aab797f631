import Switchboard.Proofs.Density
import Switchboard.Proofs.TaskQueue.Runnable

namespace Switchboard

namespace Task

/-- Every task depends on an older one that is there, if it depends on any. -/
def Grounded (tasks : List Task) : Prop :=
  ∀ t ∈ tasks, ∀ d ∈ t.dependsOn, d < t.id ∧ ∃ u ∈ tasks, u.id = d

def DependsOn (tasks : List Task) (id d : Int) : Prop := ∃ t ∈ tasks, t.id = id ∧ t.dependsOn = some d

/-- The task is pending, and the dependencies from it lead through pending tasks to one that runs or
has failed. -/
inductive Blocked (tasks : List Task) : Task → Prop where
  | held {t u : Task} (hpending : t.status = .pending) (hu : u ∈ tasks)
    (hdependsOn : t.dependsOn = some u.id) (hstatus : u.status = .running ∨ u.status = .failed) :
    Blocked tasks t
  | waits {t u : Task} (hpending : t.status = .pending) (hu : u ∈ tasks)
    (hdependsOn : t.dependsOn = some u.id) (hblocked : Blocked tasks u) : Blocked tasks t

/-- The task runs, has failed or is blocked, and so it holds up the tasks that wait for it. -/
def HoldsUp (tasks : List Task) (t : Task) : Prop :=
  t.status = .running ∨ t.status = .failed ∨ t.Blocked tasks

section Dependencies

variable {tasks others : List Task} {t u : Task} {last : Int}

namespace Grounded

theorem nil : Grounded [] := fun _ ht => absurd ht List.not_mem_nil

theorem map {f : Task → Task} (h : Grounded tasks) (hid : ∀ t, (f t).id = t.id)
    (hdependsOn : ∀ t, (f t).dependsOn = t.dependsOn) : Grounded (tasks.map f) := by
  intro t ht d hd
  obtain ⟨u, hu, rfl⟩ := List.mem_map.1 ht
  rw [hdependsOn] at hd
  obtain ⟨hlt, v, hv, rfl⟩ := h u hu d hd
  rw [hid]
  exact ⟨hlt, f v, List.mem_map_of_mem hv, hid v⟩

theorem concat (h : Grounded tasks) (hnew : ∀ d ∈ t.dependsOn, d < t.id ∧ ∃ u ∈ tasks, u.id = d) :
    Grounded (tasks ++ [t]) := by
  intro u hu d hd
  have hold : d < u.id ∧ ∃ v ∈ tasks, v.id = d := by
    obtain hu | hu := List.mem_append.1 hu
    · exact h u hu d hd
    · obtain rfl := List.mem_singleton.1 hu
      exact hnew d hd
  obtain ⟨hlt, v, hv, hid⟩ := hold
  exact ⟨hlt, v, List.mem_append_left _ hv, hid⟩

theorem lt_of_transGen (h : Grounded tasks) {id d : Int}
    (hpath : Relation.TransGen (DependsOn tasks) id d) : d < id := by
  have hstep {id d : Int} (hdepends : DependsOn tasks id d) : d < id := by
    obtain ⟨t, ht, rfl, hd⟩ := hdepends
    exact (h t ht d hd).1
  induction hpath with
  | single hdepends => exact hstep hdepends
  | tail _ hdepends ih => exact Int.lt_trans (hstep hdepends) ih

end Grounded

namespace Blocked

theorem pending (h : Blocked tasks t) : t.status = .pending := by
  cases h <;> assumption

theorem mono (h : Blocked tasks t) (hsub : ∀ u ∈ tasks, u.HoldsUp tasks → u ∈ others) :
    Blocked others t := by
  induction h with
  | held hpending hu hdependsOn hstatus =>
    exact .held hpending (hsub _ hu (hstatus.imp_right .inl)) hdependsOn hstatus
  | waits hpending hu hdependsOn hblocked ih =>
    exact .waits hpending (hsub _ hu (.inr (.inr hblocked))) hdependsOn ih

theorem not_isReady (h : Blocked tasks t) (hnumbered : Numbered last tasks) : ¬ t.IsReady tasks := by
  intro hready
  cases h with
  | held hpending hu hdependsOn hstatus =>
    simp [hready.complete hnumbered hu hdependsOn] at hstatus
  | waits hpending hu hdependsOn hblocked =>
    cases (hready.complete hnumbered hu hdependsOn).symm.trans hblocked.pending

end Blocked

theorem IsRunnable.not_blocked (h : t.IsRunnable tasks) (hnumbered : Numbered last tasks) :
    ¬ t.Blocked tasks := fun hblocked => hblocked.not_isReady hnumbered h.ready

theorem not_holdsUp_of_pending (hpending : t.status = .pending) (hnot : ¬ t.Blocked tasks) :
    ¬ t.HoldsUp tasks := by
  simp [HoldsUp, hpending, hnot]

theorem not_holdsUp_of_complete (hcomplete : t.status = .complete) : ¬ t.HoldsUp tasks := by
  rintro (hrunning | hfailed | hblocked)
  · cases hcomplete.symm.trans hrunning
  · cases hcomplete.symm.trans hfailed
  · cases hcomplete.symm.trans hblocked.pending

theorem blocked_of_none (hgrounded : Grounded tasks) (hnumbered : Numbered last tasks)
    (hnone : ∀ t ∈ tasks, ¬ t.IsRunnable tasks) (ht : t ∈ tasks) (hpending : t.status = .pending) :
    t.Blocked tasks := by
  -- Dependencies lead to rows further up, so the induction is on the place of the row.
  obtain ⟨i, hi, rfl⟩ := List.mem_iff_getElem.1 ht
  induction i using Nat.strongRecOn with
  | ind i ih =>
    cases hdependsOn : tasks[i].dependsOn with
    | none =>
      refine absurd ⟨hpending, fun d hd => ?_⟩ (hnone _ ht)
      cases hdependsOn.symm.trans hd
    | some d =>
      obtain ⟨hlt, u, hu, rfl⟩ := hgrounded _ ht d hdependsOn
      cases hstatus : u.status with
      | pending =>
        obtain ⟨j, hj, rfl⟩ := List.mem_iff_getElem.1 hu
        have hji : j < i := by
          have hascending := List.pairwise_iff_getElem.1 hnumbered.ascending
          apply Nat.lt_of_not_le
          intro hle
          obtain heq | hij := Nat.eq_or_lt_of_le hle
          · subst heq
            omega
          · have hids : tasks[i].id < tasks[j].id := hascending i j hi hj hij
            omega
        exact .waits hpending hu hdependsOn (ih j hji hj hu hstatus)
      | running => exact .held hpending hu hdependsOn (.inl hstatus)
      | failed => exact .held hpending hu hdependsOn (.inr hstatus)
      | complete =>
        refine absurd ⟨hpending, fun d hd => ?_⟩ (hnone _ ht)
        obtain rfl := Option.some.inj (hdependsOn.symm.trans hd)
        exact ⟨u, hu, rfl, hstatus⟩

theorem offered?_eq_none_iff_blocked (hgrounded : Grounded tasks) (hnumbered : Numbered last tasks) :
    TaskQueue.offered? tasks = none ↔ ∀ t ∈ tasks, t.status = .pending → t.Blocked tasks := by
  rw [TaskQueue.offered?_eq_none]
  constructor
  · exact fun hnone t ht => blocked_of_none hgrounded hnumbered hnone ht
  · exact fun hblocked t ht hrunnable =>
      hrunnable.not_blocked hnumbered (hblocked t ht hrunnable.pending)

end Dependencies

end Task

theorem Effect.grounded {ledger next : Ledger} {now : Timestamp} {call : Call} {answer : Answer}
    (h : Effect now ledger call answer next) (hs : ledger.Sound)
    (hgrounded : Task.Grounded ledger.tasks) : Task.Grounded next.tasks := by
  have hchange {id : Int} {f : Task → Task} (hid : ∀ t, (f t).id = t.id)
      (hdependsOn : ∀ t, (f t).dependsOn = t.dependsOn) :
      Task.Grounded (ledger.changeTask id f).tasks := by
    refine hgrounded.map (fun t => ?_) fun t => ?_
    · split
      · exact hid t
      · rfl
    · split
      · exact hdependsOn t
      · rfl
  cases h with
  | submitted new hdependsOn =>
    refine hgrounded.concat fun d hd => ?_
    obtain ⟨u, hu, rfl⟩ := hdependsOn d hd
    have hle : u.id ≤ ledger.last := hs.tasks.bounded u hu
    have hid : (Task.queued (ledger.last + 1) now new).id = ledger.last + 1 := rfl
    exact ⟨by omega, u, hu, rfl⟩
  | claimed | completed | failed | routed => exact hchange (fun _ => rfl) fun _ => rfl
  | cleaned =>
    rw [Ledger.recordAll_tasks]
    exact hgrounded
  | _ => exact hgrounded

theorem Store.exists_grounded {store : Store} (h : store.tables = {}) (attempts : List Attempt) :
    ∃ ledger : Ledger, ledger.Sound ∧ (store.after attempts).tables.Holds ledger ∧
      Task.Grounded ledger.tasks :=
  Store.invariant (fun ledger => Task.Grounded ledger.tasks) Ledger.sound_empty
    (h ▸ Tables.holds_empty) .nil (fun _ _ _ _ _ hs hgrounded heffect =>
      heffect.grounded hs hgrounded) attempts

end Switchboard
