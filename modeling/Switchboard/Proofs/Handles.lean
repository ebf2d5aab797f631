import Mathlib.Logic.Function.Basic
import Switchboard.Proofs.Indifference

namespace Switchboard

open Operation

structure Job where
  now : Timestamp
  errand : Errand

/-- A job, and the number of the handle that performs it. A handle and its clones are one: what
one of them has seen of the schema, all of them have. -/
structure Step where
  handle : Nat
  job : Job

namespace Step

def initialises (step : Step) : Bool := step.job.errand.initialises

/-- What is asked for in steps, leaving out the initialisations. -/
def jobs (steps : List Step) : List Job :=
  (steps.filter (!·.initialises)).map (·.job)

end Step

/-- What the handles of a store have in common. -/
structure Site where
  path : String
  config : Configuration
  /-- The number of polls that a wait without a limit is watched for. -/
  patience : Nat

namespace Site

/-- A handle of the store, by whether it has seen the schema complete. -/
def handle (site : Site) (ready : Bool) : Handle :=
  { path := site.path, config := site.config, ready }

def perform (site : Site) (job : Job) (ready : Bool) (files : Directory) :
    Except Failure Reply × Run :=
  (site.handle ready).serve job.errand {} site.patience job.now files

def performOn (site : Site) (job : Job) (ready : Bool) (store : Store) :
    Except Failure Reply × Run :=
  (site.handle ready).perform (job.errand.operation {} site.patience) job.now store

theorem perform_eq {site : Site} {files : Directory} (h : files.Lasting site.path) (job : Job)
    (ready : Bool) :
    site.perform job ready files = site.performOn job ready (files.storeAt site.path) := by
  unfold perform Handle.serve
  have hreopening := Directory.reopening_eq h.kept {}
  change Operation.perform (job.errand.operation
    (Receive.Others.reopening {} (files.reopened site.path)) site.patience) _ _ = _
  rw [hreopening]
  rfl

end Site

/-- A directory, and which of the handles of a path have seen the schema complete. -/
structure Scene where
  files : Directory
  ready : Nat → Bool := fun _ => false

namespace Scene

variable (site : Site)

def perform (scene : Scene) (step : Step) : Except Failure Reply × Run :=
  site.perform step.job (scene.ready step.handle) scene.files

/-- The handle forgets nothing, and the store that is left is saved, if it is one that is kept. -/
def next (scene : Scene) (step : Step) : Scene :=
  let left := (scene.perform site step).2
  { files := scene.files.save site.path left.store
    ready := Function.update scene.ready step.handle
      ((site.handle (scene.ready step.handle)).after left).ready }

def after (scene : Scene) (steps : List Step) : Scene := steps.foldl (next site) scene

def replies (scene : Scene) : List Step → List (Except Failure Reply)
  | [] => []
  | step :: later =>
    (if step.initialises then [] else [(scene.perform site step).1]) ++
      (scene.next site step).replies later

/-- The path leads to one store for good, and what handles have seen of its schema is true. -/
structure Fits (scene : Scene) : Prop where
  lasting : scene.files.Lasting site.path
  informed : ∀ handle, scene.ready handle →
    ∀ name, (scene.files.storeAt site.path).tables.has name

end Scene

namespace Store

variable (site : Site) (keeps : Store → Bool)

/-- A store without gaps, after a job that a new handle performs. -/
def served (store : Store) (job : Job) : Store :=
  let left := (site.performOn job false store).2.store
  (if keeps left then left else store).furnished

def servedAll (store : Store) (jobs : List Job) : Store :=
  jobs.foldl (served site keeps) store

def replies (store : Store) : List Job → List (Except Failure Reply)
  | [] => []
  | job :: later =>
    (site.performOn job false store).1 :: (store.served site keeps job).replies later

end Store

namespace Scene

variable {site : Site} {scene : Scene} {step : Step}

def start (site : Site) (scene : Scene) (step : Step) : Run :=
  { store := scene.files.storeAt site.path, ready := scene.ready step.handle }

theorem perform_eq (h : scene.Fits site) (step : Step) :
    scene.perform site step = Operation.perform (step.job.errand.operation {} site.patience)
      ⟨site.path, site.config, step.job.now⟩ (scene.start site step) :=
  Site.perform_eq h.lasting _ _

theorem storeAt_next (h : scene.Fits site) (step : Step) :
    (scene.next site step).files.storeAt site.path =
      if scene.files.keeps site.path (scene.perform site step).2.store then
        (scene.perform site step).2.store
      else scene.files.storeAt site.path :=
  h.lasting.storeAt_save _

theorem storeAt_next_of_failsIdly {failure : Failure} (h : scene.Fits site)
    (hfails : FailsIdly (step.job.errand.operation {} site.patience)
      ⟨site.path, site.config, step.job.now⟩ (scene.start site step) failure) :
    (scene.next site step).files.storeAt site.path = scene.files.storeAt site.path := by
  obtain ⟨left, hop, hstore, -⟩ := hfails
  rw [storeAt_next h, perform_eq h, hop]
  dsimp only
  rw [hstore]
  exact ite_self _

theorem ready_next_self (scene : Scene) (step : Step) :
    (scene.next site step).ready step.handle = (scene.perform site step).2.ready :=
  Function.update_self _ _ _

theorem ready_next_of_ne {handle : Nat} (h : handle ≠ step.handle) :
    (scene.next site step).ready handle = scene.ready handle :=
  Function.update_of_ne h _ _

/-- Whoever performs it, a step that does not fail leaves the path with a store without gaps, be it
the one that was left or, under a path that can only be read, the one that was found. -/
theorem has_next_of_opened (h : scene.Fits site)
    (hopened : (scene.files.storeAt site.path).Opened (scene.perform site step).2.store)
    (name : TableName) : ((scene.next site step).files.storeAt site.path).tables.has name := by
  rw [storeAt_next h]
  split
  · exact hopened.has name
  · rename_i hnot
    have hmade : Directory.isMade (scene.perform site step).2.store :=
      Directory.isMade_iff.2 ⟨hopened.stays, name, hopened.has name⟩
    exact hopened.complete (h.lasting.readOnly_of_not_keeps hmade (Bool.eq_false_iff.2 hnot)
      hopened.openable) name

theorem Fits.next (h : scene.Fits site) (step : Step) : (scene.next site step).Fits site where
  lasting := h.lasting.save _
  informed handle hready name := by
    have hperform := step.job.errand.opened_or_failed Receive.Others.byCalls_idle site.patience
      ⟨site.path, site.config, step.job.now⟩ (rfl : (scene.start site step).faults = [])
      (h.informed step.handle)
    rw [← perform_eq h] at hperform
    obtain hopened | ⟨failure, hfails⟩ := hperform
    · exact has_next_of_opened h hopened name
    · rw [storeAt_next_of_failsIdly h hfails]
      by_cases hhandle : handle = step.handle
      · obtain ⟨left, hop, -, hidle⟩ := hfails
        rw [hhandle, ready_next_self, perform_eq h, hop, hidle] at hready
        exact h.informed step.handle hready name
      · rw [ready_next_of_ne hhandle] at hready
        exact h.informed handle hready name

theorem furnished_next_of_initialises (h : scene.Fits site) (hstep : step.initialises) :
    ((scene.next site step).files.storeAt site.path).furnished =
      (scene.files.storeAt site.path).furnished := by
  obtain ⟨hstore, -⟩ | ⟨failure, hfails⟩ :=
    Errand.furnishes_or_fails hstep {} site.patience ⟨site.path, site.config, step.job.now⟩
      (scene.start site step)
  · rw [storeAt_next h, perform_eq h, hstore]
    split
    · exact Store.furnished_furnished _
    · rfl
  · rw [storeAt_next_of_failsIdly h hfails]

theorem perform_eq_served (h : scene.Fits site) (hstep : step.initialises = false) :
    let store := (scene.files.storeAt site.path).furnished
    (scene.perform site step).1 = (site.performOn step.job false store).1 ∧
      ((scene.next site step).files.storeAt site.path).furnished =
        store.served site (scene.files.keeps site.path) step.job := by
  intro store
  obtain ⟨hsame, -⟩ | ⟨failure, hfails, ⟨left, hop, hstore, -⟩⟩ :=
    Errand.indifferent_operation hstep {} site.patience ⟨site.path, site.config, step.job.now⟩
      (scene.start site step) rfl (h.informed step.handle)
  · have hsame : scene.perform site step = site.performOn step.job false store :=
      (perform_eq h step).trans hsame
    rw [storeAt_next h, Store.served, hsame]
    refine ⟨rfl, ?_⟩
    split
    · rfl
    · exact (Store.furnished_furnished _).symm
  · have hop : site.performOn step.job false store = (.error failure, left) := hop
    have hstore : left.store = store := hstore
    obtain ⟨middle, hfailed, -⟩ := id hfails
    rw [storeAt_next_of_failsIdly h hfails, perform_eq h, Store.served, hfailed, hop]
    dsimp only
    rw [hstore, ite_self]
    exact ⟨rfl, (Store.furnished_furnished _).symm⟩

theorem replies_eq_served (h : scene.Fits site) (steps : List Step) :
    let store := (scene.files.storeAt site.path).furnished
    let keeps := scene.files.keeps site.path
    scene.replies site steps = store.replies site keeps (Step.jobs steps) ∧
      ((scene.after site steps).files.storeAt site.path).furnished =
        store.servedAll site keeps (Step.jobs steps) := by
  induction steps generalizing scene with
  | nil => exact ⟨rfl, rfl⟩
  | cons step later ih =>
    -- Whoever has performed the first step, all handles are still right after it.
    obtain ⟨hreplies, hafter⟩ := ih (h.next step)
    have hkeeps : (scene.next site step).files.keeps site.path = scene.files.keeps site.path :=
      h.lasting.keeps_save _
    rw [hkeeps] at hreplies hafter
    intro store keeps
    cases hkind : step.initialises with
    | true =>
      have hjobs : Step.jobs (step :: later) = Step.jobs later := by
        simp [Step.jobs, hkind]
      rw [furnished_next_of_initialises h hkind] at hreplies hafter
      rw [hjobs, replies, hkind, if_pos rfl, List.nil_append]
      exact ⟨hreplies, hafter⟩
    | false =>
      obtain ⟨hreply, hserved⟩ := perform_eq_served h hkind
      have hjobs : Step.jobs (step :: later) = step.job :: Step.jobs later := by
        simp [Step.jobs, hkind]
      rw [hserved] at hreplies hafter
      rw [hjobs, replies, hkind, if_neg Bool.false_ne_true, hreply, hreplies]
      exact ⟨rfl, hafter⟩

theorem Fits.locate_after (h : scene.Fits site) (steps : List Step) :
    (scene.after site steps).files.locate site.path = scene.files.locate site.path := by
  induction steps generalizing scene with
  | nil => rfl
  | cons step later ih => exact (ih (h.next step)).trans (h.lasting.again _)

theorem Fits.lookup_after {place : Place} (h : scene.Fits site)
    (hplace : ∀ address, scene.files.locate site.path ≠ .ok (address, some place))
    (steps : List Step) :
    (scene.after site steps).files.lookup place = scene.files.lookup place := by
  induction steps generalizing scene with
  | nil => rfl
  | cons step later ih =>
    have hnext : (scene.next site step).files.lookup place = scene.files.lookup place :=
      Directory.lookup_save_of_ne hplace _
    refine (ih (h.next step) ?_).trans hnext
    intro address
    rw [Scene.next, h.lasting.again]
    exact hplace address

theorem Fits.sameContent (h : scene.Fits site) {steps others : List Step}
    (hjobs : Step.jobs steps = Step.jobs others) (place : Place) :
    ((scene.after site steps).files.tablesAt place).SameContent
      ((scene.after site others).files.tablesAt place) := by
  by_cases hplace : ∃ address, scene.files.locate site.path = .ok (address, some place)
  · obtain ⟨address, hlocate⟩ := hplace
    have htables (steps : List Step) : ((scene.after site steps).files.storeAt site.path).tables =
        (scene.after site steps).files.tablesAt place := by
      rw [Directory.storeAt_of_locate ((h.locate_after steps).trans hlocate),
        Directory.tables_opened]
    rw [← htables steps, ← htables others]
    have hfurnished := (replies_eq_served h steps).2.trans
      (hjobs ▸ (replies_eq_served h others).2.symm)
    exact (Store.furnished_sameContent _).symm.trans
      (hfurnished ▸ Store.furnished_sameContent _)
  · have hnot := not_exists.1 hplace
    rw [Directory.tablesAt, Directory.tablesAt, h.lookup_after hnot, h.lookup_after hnot]
    exact .refl _

end Scene

end Switchboard
