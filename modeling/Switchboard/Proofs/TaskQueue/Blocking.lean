import Mathlib.Logic.Relation
import Switchboard.Proofs.TaskQueue.Dependency
import Switchboard.Proofs.TaskQueue.Readiness

namespace Switchboard

namespace Task

variable {ledger next : Ledger} {deeds : List Deed} {tasks : List Task} {t u x : Task} {last : Int}

theorem Follows.status_eq (h : u.Follows t deeds) (ht : t.HasEnded) : u.status = t.status := by
  rw [h.ended ht]

theorem pending_of_held (hnumbered : Numbered last tasks)
    (hclaimed : ∀ t ∈ tasks, t.status ≠ .pending → t.IsReady tasks) (ht : t ∈ tasks) (hu : u ∈ tasks)
    (hdependsOn : t.dependsOn = some u.id) (hnot : u.status ≠ .complete) : t.status = .pending := by
  cases hstatus : t.status with
  | pending => rfl
  | _ => exact absurd ((hclaimed t ht (by simp [hstatus])).complete hnumbered hu hdependsOn) hnot

theorem blocked_of_failed (hnumbered : Numbered last tasks)
    (hclaimed : ∀ t ∈ tasks, t.status ≠ .pending → t.IsReady tasks) (hx : x ∈ tasks)
    (hfailed : x.status = .failed) {id : Int}
    (hpath : Relation.TransGen (DependsOn tasks) id x.id) :
    ∃ t ∈ tasks, t.id = id ∧ t.Blocked tasks := by
  induction hpath using Relation.TransGen.head_induction_on with
  | single hdepends =>
    obtain ⟨t, ht, rfl, hdependsOn⟩ := hdepends
    have hpending : t.status = .pending :=
      pending_of_held hnumbered hclaimed ht hx hdependsOn (by simp [hfailed])
    exact ⟨t, ht, rfl, .held hpending hx hdependsOn (.inr hfailed)⟩
  | head hdepends _ ih =>
    obtain ⟨t, ht, rfl, hdependsOn⟩ := hdepends
    obtain ⟨u, hu, rfl, hblocked⟩ := ih
    have hpending : t.status = .pending :=
      pending_of_held hnumbered hclaimed ht hu hdependsOn (by simp [hblocked.pending])
    exact ⟨t, ht, rfl, .waits hpending hu hdependsOn hblocked⟩

theorem DependsOn.continues {id d : Int} (h : DependsOn ledger.tasks id d)
    (hcontinues : ledger.Continues deeds next) : DependsOn next.tasks id d := by
  obtain ⟨t, ht, rfl, hdependsOn⟩ := h
  obtain ⟨u, hu, hfollows⟩ := hcontinues t ht
  exact ⟨u, hu, hfollows.id_eq, hfollows.dependsOn_eq.trans hdependsOn⟩

end Task

namespace Ledger.Continues

variable {ledger next : Ledger} {deeds : List Deed} {x y : Task}

theorem failed (h : ledger.Continues deeds next) (hx : x ∈ ledger.tasks)
    (hfailed : x.status = .failed) : ∃ u ∈ next.tasks, u.id = x.id ∧ u.status = .failed := by
  obtain ⟨u, hu, hfollows⟩ := h x hx
  have hstatus : u.status = x.status := hfollows.status_eq (.inr hfailed)
  exact ⟨u, hu, hfollows.id_eq, hstatus.trans hfailed⟩

theorem not_isReady (h : ledger.Continues deeds next) (hs : next.Sound) (hx : x ∈ ledger.tasks)
    (hfailed : x.status = .failed) (hy : y ∈ ledger.tasks) (hdependsOn : y.dependsOn = some x.id) :
    ∃ z ∈ next.tasks, z.id = y.id ∧ ¬ z.IsReady next.tasks := by
  obtain ⟨u, hu, huid, hufailed⟩ := h.failed hx hfailed
  obtain ⟨z, hz, hfollows⟩ := h y hy
  have hheld : z.dependsOn = some u.id := by rw [hfollows.dependsOn_eq, hdependsOn, huid]
  refine ⟨z, hz, hfollows.id_eq, fun hready => ?_⟩
  have hcomplete : u.status = .complete := hready.complete hs.tasks hu hheld
  cases hufailed.symm.trans hcomplete

end Ledger.Continues

theorem Attempt.offered_ne {look : Attempt} {store : Store} {ledger : Ledger} {t u : Task}
    (hs : ledger.Sound) (h : store.tables.Holds ledger) (hcall : look.call = .nextRunnable)
    (hanswer : look.answer store = .ok (.task (some t))) (hu : u ∈ ledger.tasks)
    (hnot : ¬ u.IsReady ledger.tasks) : t.id ≠ u.id := by
  intro hid
  have hoffered := (offered_of_next h hcall hanswer).symm
  obtain ⟨ht, hrunnable⟩ := TaskQueue.isRunnable_of_offered hoffered
  obtain rfl := hs.tasks.eq_of_id ht hu hid
  exact hnot hrunnable.ready

/-- However clients use a store that was empty: a task that depends on a failed one is never offered
for dispatch, whatever they do later. If every claim comes somewhere after an offer of its task, then
all that depend on the failed task, through however many others, are pending in every later state, and
none of them is offered. No task and no dependency is lost meanwhile. -/
theorem failure_blocks_for_ever (store : Store) (h : store.tables = {})
    (earlier later : List Attempt) :
    let reached := store.after earlier
    let found := reached.after later
    (∀ x ∈ reached.tasks, ∀ y ∈ reached.tasks, x.status = .failed → y.dependsOn = some x.id →
        ∀ (look : Attempt) (t : Task), look.call = .nextRunnable →
          look.answer found = .ok (.task (some t)) → t.id ≠ y.id) ∧
      (Deed.ClaimsFollowOffers (store.deeds (earlier ++ later)) →
        ∀ x ∈ reached.tasks, x.status = .failed →
          ∀ y ∈ found.tasks, Relation.TransGen (Task.DependsOn found.tasks) y.id x.id →
            y.status = .pending ∧
              ∀ (look : Attempt) (t : Task), look.call = .nextRunnable →
                look.answer found = .ok (.task (some t)) → t.id ≠ y.id) ∧
      ∀ y ∈ reached.tasks, (∃ u ∈ found.tasks, u.id = y.id) ∧
        ∀ d, Relation.TransGen (Task.DependsOn reached.tasks) y.id d →
          Relation.TransGen (Task.DependsOn found.tasks) y.id d := by
  intro reached found
  obtain ⟨ledger, hs, hreached⟩ := Store.exists_ledger h earlier
  obtain ⟨last, hslast, hfound, hcontinues⟩ := Store.continues hs hreached later
  have htasks : reached.tasks = ledger.tasks := hreached.tasks_eq
  have hlater : found.tasks = last.tasks := hfound.tasks_eq
  rw [htasks, hlater]
  refine ⟨?_, ?_, ?_⟩
  · intro x hx y hy hfailed hdependsOn look t hcall hanswer
    obtain ⟨z, hz, hid, hnot⟩ := hcontinues.not_isReady hslast hx hfailed hy hdependsOn
    exact hid ▸ Attempt.offered_ne hslast hfound hcall hanswer hz hnot
  · intro hfollow x hx hfailed y hy hpath
    have hafter : (store.after (earlier ++ later)).tasks = last.tasks := by
      rw [Store.after_append]
      exact hlater
    have hclaimed : ∀ t ∈ last.tasks, t.status ≠ .pending → t.IsReady last.tasks := by
      intro t ht hstatus
      rw [← hafter] at ht ⊢
      exact Store.ready_of_claimed h hfollow ht hstatus
    obtain ⟨u, hu, huid, hufailed⟩ := hcontinues.failed hx hfailed
    rw [← huid] at hpath
    obtain ⟨z, hz, hid, hblocked⟩ := Task.blocked_of_failed hslast.tasks hclaimed hu hufailed hpath
    obtain rfl := hslast.tasks.eq_of_id hz hy hid
    have hnot := hblocked.not_isReady hslast.tasks
    exact ⟨hblocked.pending, fun look t hcall hanswer =>
      Attempt.offered_ne hslast hfound hcall hanswer hz hnot⟩
  · intro y hy
    obtain ⟨u, hu, hfollows⟩ := hcontinues y hy
    refine ⟨⟨u, hu, hfollows.id_eq⟩, fun d hpath => ?_⟩
    exact Relation.TransGen.mono (fun _ _ hdepends => hdepends.continues hcontinues) _ _ hpath

/-- The first of three tasks in a chain fails. The others stay pending while a task that was submitted
later is dispatched. -/
theorem rest_of_chain_is_not_offered :
    let submit (dependsOn : Option Int) := Attempt.atEpoch (.submit
      { submittedBy := "planner", taskType := "build", dependsOn }) []
    let look := Attempt.atEpoch .nextRunnable []
    let earlier := [submit none, submit (some 1), submit (some 2), look,
      Attempt.atEpoch (.claim "first" 1) [], Attempt.atEpoch (.fail 1 none) []]
    let later := [submit none, look, Attempt.atEpoch (.claim "second" 4) []]
    let reached := ({} : Store).after earlier
    let found := reached.after later
    Deed.ClaimsFollowOffers (({} : Store).deeds (earlier ++ later)) ∧
      found.tasks.map (fun t => (t.id, t.status)) =
        [(1, .failed), (2, .pending), (3, .pending), (4, .running)] ∧
      ∃ x ∈ reached.tasks, x.status = .failed ∧
        ∃ y ∈ found.tasks, y.id = 3 ∧ Relation.TransGen (Task.DependsOn found.tasks) y.id x.id ∧
          y.status = .pending ∧
          ∀ (look : Attempt) (t : Task), look.call = .nextRunnable →
            look.answer found = .ok (.task (some t)) → t.id ≠ y.id := by
  intro submit look earlier later reached found
  have hfollow : Deed.ClaimsFollowOffers (({} : Store).deeds (earlier ++ later)) := by
    decide +kernel
  have hx : ∃ x ∈ reached.tasks, x.id = 1 ∧ x.status = .failed := by decide +kernel
  have hy : ∃ y ∈ found.tasks, y.id = 3 ∧ y.dependsOn = some 2 := by decide +kernel
  have hmiddle : ∃ t ∈ found.tasks, t.id = 2 ∧ t.dependsOn = some 1 := by decide +kernel
  obtain ⟨x, hx, hxid, hfailed⟩ := hx
  obtain ⟨y, hy, hyid, hdependsOn⟩ := hy
  have hpath : Relation.TransGen (Task.DependsOn found.tasks) y.id x.id := by
    rw [hyid, hxid]
    exact .tail (.single ⟨y, hy, hyid, hdependsOn⟩) hmiddle
  exact ⟨hfollow, by decide +kernel, x, hx, hfailed, y, hy, hyid, hpath,
    (failure_blocks_for_ever {} rfl earlier later).2.1 hfollow x hx hfailed y hy hpath⟩

end Switchboard
