import Switchboard.Proofs.History

namespace Switchboard

namespace Deed

def claims (id : Int) : Deed → Bool
  | ⟨.claim _ target, _, _⟩ => target == id
  | _ => false

def ends (id : Int) : Deed → Bool
  | ⟨.complete target _, _, _⟩ => target == id
  | ⟨.fail target _, _, _⟩ => target == id
  | _ => false

def moves (id : Int) (deed : Deed) : Bool := deed.claims id || deed.ends id

theorem countP_claims (id : Int) (deeds : List Deed) :
    deeds.countP (·.claims id) = (deeds.filter (·.moves id)).countP (·.claims id) := by
  rw [List.countP_filter]
  exact List.countP_congr fun d _ => by cases h : d.claims id <;> simp [moves, h]

theorem countP_ends (id : Int) (deeds : List Deed) :
    deeds.countP (·.ends id) = (deeds.filter (·.moves id)).countP (·.ends id) := by
  rw [List.countP_filter]
  exact List.countP_congr fun d _ => by cases h : d.ends id <;> simp [moves, h]

/-- A successful note of the agent file and the model of a task. -/
def routes (id : Int) : Deed → Bool
  | ⟨.route target _ _, _, _⟩ => target == id
  | _ => false

end Deed

/-- What the row of a task says of its moves. -/
structure Progress where
  status : TaskStatus
  claimedBy : Option String
  claimedAt : Option Timestamp
  outputPath : Option String
  completedAt : Option Timestamp
  error : Option String

/-- The moves of a task, in their order, and what its row says of them. -/
inductive Life (id : Int) : List Deed → Progress → Prop where
  | pending : Life id [] ⟨.pending, none, none, none, none, none⟩
  | running (dispatcher : String) (claimedAt : Timestamp) :
    Life id [⟨.claim dispatcher id, claimedAt, .done⟩]
      ⟨.running, some dispatcher, some claimedAt, none, none, none⟩
  | complete (dispatcher : String) (claimedAt : Timestamp) (output : Option String)
      (completedAt : Timestamp) :
    Life id [⟨.claim dispatcher id, claimedAt, .done⟩, ⟨.complete id output, completedAt, .done⟩]
      ⟨.complete, some dispatcher, some claimedAt, output, some completedAt, none⟩
  | failed (dispatcher : String) (claimedAt : Timestamp) (error : Option String)
      (completedAt : Timestamp) :
    Life id [⟨.claim dispatcher id, claimedAt, .done⟩, ⟨.fail id error, completedAt, .done⟩]
      ⟨.failed, some dispatcher, some claimedAt, none, some completedAt, error⟩

namespace Task

def progress (t : Task) : Progress where
  status := t.status
  claimedBy := t.claimedBy
  claimedAt := t.claimedAt
  outputPath := t.outputPath
  completedAt := t.completedAt
  error := t.error

def asSubmitted (t : Task) : Task :=
  { t with
    status := .pending, claimedBy := none, agentFile := none, model := none, outputPath := none
    claimedAt := none, completedAt := none, error := none }

def HasEnded (t : Task) : Prop := t.status = .complete ∨ t.status = .failed

/-- Which fields are set, and which are not, goes with the status. -/
def Agrees (t : Task) : Prop :=
  match t.status with
  | .pending => t.claimedBy = none ∧ t.claimedAt = none ∧ t.outputPath = none ∧
      t.completedAt = none ∧ t.error = none
  | .running => t.claimedBy.isSome ∧ t.claimedAt.isSome ∧ t.outputPath = none ∧
      t.completedAt = none ∧ t.error = none
  | .complete => t.claimedBy.isSome ∧ t.claimedAt.isSome ∧ t.completedAt.isSome ∧ t.error = none
  | .failed => t.claimedBy.isSome ∧ t.claimedAt.isSome ∧ t.completedAt.isSome ∧
      t.outputPath = none

/-- The task is what another one of the same id has become: what was submitted is the same, and
nothing has changed since it ended but the agent file and the model, and these not without being
noted. -/
structure Follows (t earlier : Task) (deeds : List Deed) : Prop where
  submitted : t.asSubmitted = earlier.asSubmitted
  ended : earlier.HasEnded → t = { earlier with agentFile := t.agentFile, model := t.model }
  routed : earlier.HasEnded → (∀ d ∈ deeds, d.routes earlier.id = false) → t = earlier

end Task

namespace Life

variable {id : Int} {deeds : List Deed} {t : Task}

theorem claims_le {progress : Progress} (h : Life id deeds progress) :
    deeds.countP (·.claims id) ≤ 1 := by
  cases h <;> simp [Deed.claims]

theorem ends_le {progress : Progress} (h : Life id deeds progress) :
    deeds.countP (·.ends id) ≤ 1 := by
  cases h <;> simp [Deed.ends]

theorem agrees (h : Life id deeds t.progress) : t.Agrees := by
  generalize hprogress : t.progress = progress at h
  cases h <;> simp only [Task.progress, Progress.mk.injEq] at hprogress <;>
    simp [Task.Agrees, hprogress]

theorem claimFor (h : Life id deeds t.progress) (hstatus : t.status = .pending)
    (dispatcher : String) (now : Timestamp) :
    Life id (deeds ++ [⟨.claim dispatcher id, now, .done⟩])
      (t.claimFor dispatcher now).progress := by
  generalize hprogress : t.progress = progress at h
  cases h with
  | pending =>
    obtain ⟨-, -, -, houtput, hcompleted, herror⟩ := Progress.mk.inj hprogress
    have hclaimed : (t.claimFor dispatcher now).progress =
        ⟨.running, some dispatcher, some now, none, none, none⟩ := by
      simp [Task.progress, Task.claimFor, houtput, hcompleted, herror]
    rw [hclaimed]
    exact .running dispatcher now
  | _ => cases hstatus.symm.trans (Progress.mk.inj hprogress).1

theorem of_running (h : Life id deeds t.progress) (hstatus : t.status = .running) :
    ∃ dispatcher claimedAt, deeds = [⟨.claim dispatcher id, claimedAt, .done⟩] ∧
      t.progress = ⟨.running, some dispatcher, some claimedAt, none, none, none⟩ := by
  generalize hprogress : t.progress = progress at h
  cases h with
  | running dispatcher claimedAt => exact ⟨dispatcher, claimedAt, rfl, rfl⟩
  | _ => cases hstatus.symm.trans (Progress.mk.inj hprogress).1

theorem completeWith (h : Life id deeds t.progress) (hstatus : t.status = .running)
    (output : Option String) (now : Timestamp) :
    Life id (deeds ++ [⟨.complete id output, now, .done⟩])
      (t.completeWith output now).progress := by
  obtain ⟨dispatcher, claimedAt, rfl, hprogress⟩ := h.of_running hstatus
  obtain ⟨-, hby, hat, -, -, herror⟩ := Progress.mk.inj hprogress
  have hcomplete : (t.completeWith output now).progress =
      ⟨.complete, some dispatcher, some claimedAt, output, some now, none⟩ := by
    simp [Task.progress, Task.completeWith, hby, hat, herror]
  rw [hcomplete]
  exact .complete dispatcher claimedAt output now

theorem failWith (h : Life id deeds t.progress) (hstatus : t.status = .running)
    (error : Option String) (now : Timestamp) :
    Life id (deeds ++ [⟨.fail id error, now, .done⟩]) (t.failWith error now).progress := by
  obtain ⟨dispatcher, claimedAt, rfl, hprogress⟩ := h.of_running hstatus
  obtain ⟨-, hby, hat, houtput, -, -⟩ := Progress.mk.inj hprogress
  have hfailed : (t.failWith error now).progress =
      ⟨.failed, some dispatcher, some claimedAt, none, some now, error⟩ := by
    simp [Task.progress, Task.failWith, hby, hat, houtput]
  rw [hfailed]
  exact .failed dispatcher claimedAt error now

end Life

/-- Each task has the life that the deeds tell of, and no deed moves a task that is not there. -/
structure Ledger.Lives (ledger : Ledger) (deeds : List Deed) : Prop where
  life : ∀ t ∈ ledger.tasks, Life t.id (deeds.filter (·.moves t.id)) t.progress
  known : ∀ d ∈ deeds, ∀ id, d.moves id → ∃ t ∈ ledger.tasks, t.id = id

namespace Ledger.Lives

variable {ledger next : Ledger} {deeds : List Deed} {d : Deed}

theorem filter_append_of_idle {id : Int} (h : d.moves id = false) :
    (deeds ++ [d]).filter (·.moves id) = deeds.filter (·.moves id) := by
  simp [h]

theorem filter_append_of_moves {id : Int} (h : d.moves id) :
    (deeds ++ [d]).filter (·.moves id) = deeds.filter (·.moves id) ++ [d] := by
  simp [h]

theorem exists_life (h : ledger.Lives deeds) (id : Int) :
    ∃ progress, Life id (deeds.filter (·.moves id)) progress := by
  by_cases hthere : ∃ t ∈ ledger.tasks, t.id = id
  · obtain ⟨t, ht, rfl⟩ := hthere
    exact ⟨_, h.life t ht⟩
  · have hnone : deeds.filter (·.moves id) = [] :=
      List.filter_eq_nil_iff.2 fun d hd hmoves => hthere (h.known d hd id hmoves)
    rw [hnone]
    exact ⟨_, .pending⟩

theorem idle (h : ledger.Lives deeds) (hd : ∀ id, d.moves id = false)
    (htasks : next.tasks = ledger.tasks) : next.Lives (deeds ++ [d]) := by
  constructor
  · intro t ht
    rw [filter_append_of_idle (hd t.id)]
    exact h.life t (htasks ▸ ht)
  · intro c hc id hmoves
    rw [htasks]
    obtain hc | hc := List.mem_append.1 hc
    · exact h.known c hc id hmoves
    · obtain rfl := List.mem_singleton.1 hc
      cases (hd id).symm.trans hmoves

theorem submit (hs : ledger.Sound) (h : ledger.Lives deeds) {now : Timestamp} {new : NewTask}
    (hd : ∀ id, d.moves id = false) :
    (ledger.mint.addTask (.queued (ledger.last + 1) now new)).Lives (deeds ++ [d]) := by
  constructor
  · intro t ht
    rw [filter_append_of_idle (hd t.id)]
    obtain ht | ht := List.mem_append.1 ht
    · exact h.life t ht
    · obtain rfl := List.mem_singleton.1 ht
      have hnone : deeds.filter (·.moves (ledger.last + 1)) = [] := by
        apply List.filter_eq_nil_iff.2
        intro c hc hmoves
        obtain ⟨t, ht, hid⟩ := h.known c hc _ hmoves
        have hle : t.id ≤ ledger.last := hs.tasks.bounded t ht
        omega
      change Life (ledger.last + 1) (deeds.filter (·.moves (ledger.last + 1))) _
      rw [hnone]
      exact .pending
  · intro c hc id hmoves
    obtain hc | hc := List.mem_append.1 hc
    · obtain ⟨t, ht, hid⟩ := h.known c hc id hmoves
      exact ⟨t, List.mem_append_left _ ht, hid⟩
    · obtain rfl := List.mem_singleton.1 hc
      cases (hd id).symm.trans hmoves

theorem change {id : Int} {f : Task → Task} (h : ledger.Lives deeds)
    (hfound : ∃ t ∈ ledger.tasks, t.id = id) (hid : ∀ t, (f t).id = t.id)
    (hd : ∀ other, d.moves other → other = id)
    (hlife : ∀ t ∈ ledger.tasks, t.id = id → Life t.id (deeds.filter (·.moves t.id)) t.progress →
      Life t.id ((deeds ++ [d]).filter (·.moves t.id)) (f t).progress) :
    (ledger.changeTask id f).Lives (deeds ++ [d]) := by
  constructor
  · intro u hu
    obtain ⟨t, ht, rfl⟩ := List.mem_map.1 hu
    by_cases htid : t.id = id
    · rw [if_pos (by simpa using htid), hid]
      exact hlife t ht htid (h.life t ht)
    · rw [if_neg (by simpa using htid)]
      have hidle : d.moves t.id = false := by
        cases hmoves : d.moves t.id with
        | false => rfl
        | true => exact absurd (hd t.id hmoves) htid
      rw [filter_append_of_idle hidle]
      exact h.life t ht
  · intro c hc other hmoves
    have hthere : ∃ t ∈ ledger.tasks, t.id = other := by
      obtain hc | hc := List.mem_append.1 hc
      · exact h.known c hc other hmoves
      · obtain rfl := List.mem_singleton.1 hc
        rw [hd other hmoves]
        exact hfound
    obtain ⟨t, ht, rfl⟩ := hthere
    refine ⟨_, List.mem_map_of_mem ht, ?_⟩
    split
    · exact hid t
    · rfl

theorem move {id : Int} {f : Task → Task} {status : TaskStatus} (hs : ledger.Sound)
    (h : ledger.Lives deeds) (hfound : ∃ t ∈ ledger.tasks, t.id = id ∧ t.status = status)
    (hid : ∀ t, (f t).id = t.id) (hd : ∀ other, d.moves other = (id == other))
    (hlife : ∀ t, t.id = id → t.status = status → ∀ deeds, Life id deeds t.progress →
      Life id (deeds ++ [d]) (f t).progress) :
    (ledger.changeTask id f).Lives (deeds ++ [d]) := by
  obtain ⟨found, hmem, hfoundId, hstatus⟩ := hfound
  refine h.change ⟨found, hmem, hfoundId⟩ hid ?_ ?_
  · intro other hmoves
    rw [hd] at hmoves
    exact (eq_of_beq hmoves).symm
  · rintro t ht rfl hbefore
    obtain rfl := hs.tasks.eq_of_id ht hmem hfoundId.symm
    have hmoves : d.moves t.id := by simp [hd]
    rw [filter_append_of_moves hmoves]
    exact hlife t rfl hstatus _ hbefore

theorem step {now : Timestamp} {call : Call} {answer : Answer} (hs : ledger.Sound)
    (h : ledger.Lives deeds) (heffect : Effect now ledger call answer next) :
    next.Lives (deeds ++ [⟨call, now, answer⟩]) := by
  cases heffect with
  | submitted new hdependsOn => exact h.submit hs fun _ => rfl
  | claimed dispatcher hfound =>
    refine h.move hs hfound (fun _ => rfl) (fun _ => Bool.or_false _) ?_
    rintro t rfl hstatus deeds hlife
    exact hlife.claimFor hstatus dispatcher now
  | completed output hfound =>
    refine h.move hs hfound (fun _ => rfl) (fun _ => Bool.false_or _) ?_
    rintro t rfl hstatus deeds hlife
    exact hlife.completeWith hstatus output now
  | failed error hfound =>
    refine h.move hs hfound (fun _ => rfl) (fun _ => Bool.false_or _) ?_
    rintro t rfl hstatus deeds hlife
    exact hlife.failWith hstatus error now
  | routed agentFile model hfound =>
    refine h.change hfound (fun _ => rfl) nofun fun t ht hid hlife => ?_
    rw [filter_append_of_idle rfl]
    exact hlife
  | cleaned => exact h.idle (fun _ => rfl) Ledger.recordAll_tasks
  | looked answer hlooks =>
    refine h.idle (fun id => ?_) rfl
    cases call with
    | claim | complete | fail => cases hlooks
    | _ => rfl
  | _ => exact h.idle (fun _ => rfl) rfl

end Ledger.Lives

theorem Ledger.lives_empty : ({} : Ledger).Lives [] :=
  ⟨fun _ ht => absurd ht List.not_mem_nil, fun _ hd => absurd hd List.not_mem_nil⟩

theorem Store.lives_after {store : Store} (h : store.tables = {}) (attempts : List Attempt) :
    ∃ ledger, ledger.Sound ∧ (store.after attempts).tables.Holds ledger ∧
      ledger.Lives (store.deeds attempts) := by
  refine Store.history_of_empty (fun deeds ledger => ledger.Lives deeds) h Ledger.lives_empty ?_
    attempts
  intro deeds ledger next now call answer hs hlives heffect
  exact hlives.step hs heffect

namespace Task.Follows

variable {t u : Task} {deeds : List Deed} {d : Deed}

theorem refl (t : Task) : t.Follows t [] := ⟨rfl, fun _ => rfl, fun _ _ => rfl⟩

theorem id_eq (h : u.Follows t deeds) : u.id = t.id := congrArg (·.id) h.submitted

theorem hasEnded (h : u.Follows t deeds) (ht : t.HasEnded) : u.HasEnded := by
  rw [h.ended ht]
  exact ht

theorem idle (h : u.Follows t deeds) : u.Follows t (deeds ++ [d]) :=
  ⟨h.submitted, h.ended, fun ht hroutes =>
    h.routed ht fun c hc => hroutes c (List.mem_append_left _ hc)⟩

theorem move {f : Task → Task} (h : u.Follows t deeds) (hu : ¬ u.HasEnded)
    (hf : (f u).asSubmitted = u.asSubmitted) : (f u).Follows t (deeds ++ [d]) :=
  ⟨hf.trans h.submitted, fun ht => absurd (h.hasEnded ht) hu, fun ht => absurd (h.hasEnded ht) hu⟩

theorem route {agentFile model : String} (h : u.Follows t deeds) (hd : d.routes t.id) :
    (u.routeTo agentFile model).Follows t (deeds ++ [d]) := by
  refine ⟨h.submitted, fun ht => ?_, fun ht hroutes => ?_⟩
  · rw [h.ended ht]
    rfl
  · cases (hroutes d (by simp)).symm.trans hd

end Task.Follows

def Ledger.Continues (earlier : Ledger) (deeds : List Deed) (ledger : Ledger) : Prop :=
  ∀ t ∈ earlier.tasks, ∃ u ∈ ledger.tasks, u.Follows t deeds

namespace Ledger.Continues

variable {earlier ledger next : Ledger} {deeds : List Deed} {d : Deed}

theorem idle (h : earlier.Continues deeds ledger) (htasks : ∀ u ∈ ledger.tasks, u ∈ next.tasks) :
    earlier.Continues (deeds ++ [d]) next := by
  intro t ht
  obtain ⟨u, hu, hfollows⟩ := h t ht
  exact ⟨u, htasks u hu, hfollows.idle⟩

theorem change {id : Int} {f : Task → Task} (h : earlier.Continues deeds ledger)
    (hf : ∀ t, ∀ u ∈ ledger.tasks, u.id = id → u.Follows t deeds →
      (f u).Follows t (deeds ++ [d])) :
    earlier.Continues (deeds ++ [d]) (ledger.changeTask id f) := by
  intro t ht
  obtain ⟨u, hu, hfollows⟩ := h t ht
  refine ⟨_, List.mem_map_of_mem hu, ?_⟩
  split
  · exact hf t u hu (eq_of_beq ‹_›) hfollows
  · exact hfollows.idle

theorem move {id : Int} {f : Task → Task} {status : TaskStatus} (hs : ledger.Sound)
    (h : earlier.Continues deeds ledger)
    (hfound : ∃ t ∈ ledger.tasks, t.id = id ∧ t.status = status)
    (hstatus : status ≠ .complete ∧ status ≠ .failed)
    (hf : ∀ u, (f u).asSubmitted = u.asSubmitted) :
    earlier.Continues (deeds ++ [d]) (ledger.changeTask id f) := by
  obtain ⟨found, hmem, rfl, rfl⟩ := hfound
  apply h.change
  intro t u hu hid hfollows
  obtain rfl := hs.tasks.eq_of_id hu hmem hid
  exact hfollows.move (not_or.2 hstatus) (hf u)

theorem step {now : Timestamp} {call : Call} {answer : Answer} (hs : ledger.Sound)
    (h : earlier.Continues deeds ledger) (heffect : Effect now ledger call answer next) :
    earlier.Continues (deeds ++ [⟨call, now, answer⟩]) next := by
  cases heffect with
  | submitted => exact h.idle fun u hu => List.mem_append_left _ hu
  | claimed dispatcher hfound => exact h.move hs hfound ⟨nofun, nofun⟩ fun _ => rfl
  | completed output hfound => exact h.move hs hfound ⟨nofun, nofun⟩ fun _ => rfl
  | failed error hfound => exact h.move hs hfound ⟨nofun, nofun⟩ fun _ => rfl
  | routed agentFile model hfound =>
    refine h.change fun t u hu hid hfollows => hfollows.route ?_
    rw [← hfollows.id_eq, hid]
    exact beq_self_eq_true _
  | cleaned =>
    apply h.idle
    intro u hu
    rwa [Ledger.recordAll_tasks]
  | _ => exact h.idle fun _ hu => hu

end Ledger.Continues

def Store.tasks (store : Store) : List Task := (store.tables.rows Task).map (·.record)

theorem Tables.Holds.tasks_eq {store : Store} {ledger : Ledger} (h : store.tables.Holds ledger) :
    store.tasks = ledger.tasks := by
  rw [Store.tasks, h.tasks, Entry.map_record_plain]

theorem Store.routed {store : Store} {ledger : Ledger} (hs : ledger.Sound)
    (h : store.tables.Holds ledger) {attempt : Attempt} {id : Int} {agentFile model : String}
    {answer : Answer} (hcall : attempt.call = .route id agentFile model)
    (hanswer : attempt.answer store = .ok answer) :
    (attempt.after store).tasks = store.tasks.map (fun t =>
        if t.id = id then { t with agentFile := some agentFile, model := some model } else t) ∧
      (attempt.after store).tables.rows Message = store.tables.rows Message ∧
      (attempt.after store).tables.rows Event = store.tables.rows Event ∧
      (attempt.after store).tables.rows Registration = store.tables.rows Registration ∧
      (attempt.after store).tables.minted = store.tables.minted ∧
      (attempt.after store).tables.lastId = store.tables.lastId := by
  obtain ⟨next, hnext, heffect⟩ := attempt.effect_of_ok hs h hanswer
  rw [hcall] at heffect
  cases heffect with
  | routed agentFile model hfound =>
    refine ⟨?_, hnext.messages.trans h.messages.symm, hnext.events.trans h.events.symm,
      hnext.registrations.trans h.registrations.symm, hnext.minted.trans h.minted.symm,
      hnext.last.trans h.last.symm⟩
    rw [hnext.tasks_eq, h.tasks_eq]
    apply List.map_congr_left
    intro t _
    by_cases hid : t.id = id <;> simp [hid, Task.routeTo]
  | looked _ hlooks => cases hlooks

/-- However clients have used a store that was empty: a task has been claimed at most once and ended
at most once, after it was claimed; its row tells of exactly these moves, and which fields are set
goes with the status. Whatever the clients do later, what was submitted stays, and a task that has
ended stays as it is, but for its agent file and model; and noting these changes nothing else. -/
theorem tasks_live_once (store : Store) (h : store.tables = {}) (earlier later : List Attempt) :
    let reached := store.after earlier
    let deeds := store.deeds earlier
    (∀ id, deeds.countP (·.claims id) ≤ 1 ∧ deeds.countP (·.ends id) ≤ 1) ∧
      reached.tables.rows Task = reached.tasks.map Entry.plain ∧
      (∀ t ∈ reached.tasks, t.Agrees ∧ Life t.id (deeds.filter (·.moves t.id)) t.progress) ∧
      (∀ t ∈ reached.tasks, ∃ u ∈ (reached.after later).tasks,
        u.Follows t (reached.deeds later)) ∧
      ∀ (attempt : Attempt) (id : Int) (agentFile model : String) (answer : Answer),
        attempt.call = .route id agentFile model → attempt.answer reached = .ok answer →
        let routed := attempt.after reached
        routed.tasks = reached.tasks.map (fun t =>
            if t.id = id then { t with agentFile := some agentFile, model := some model } else t) ∧
          routed.tables.rows Message = reached.tables.rows Message ∧
          routed.tables.rows Event = reached.tables.rows Event ∧
          routed.tables.rows Registration = reached.tables.rows Registration ∧
          routed.tables.minted = reached.tables.minted ∧
          routed.tables.lastId = reached.tables.lastId := by
  obtain ⟨ledger, hs, hholds, hlives⟩ := Store.lives_after h earlier
  have htasks := hholds.tasks_eq
  refine ⟨fun id => ?_, ?_, ?_, ?_, fun _ _ _ _ _ => Store.routed hs hholds⟩
  · obtain ⟨progress, hlife⟩ := hlives.exists_life id
    rw [Deed.countP_claims, Deed.countP_ends]
    exact ⟨hlife.claims_le, hlife.ends_le⟩
  · rw [htasks]
    exact hholds.tasks
  · intro t ht
    rw [htasks] at ht
    exact ⟨(hlives.life t ht).agrees, hlives.life t ht⟩
  · have hcontinues := Store.history (fun deeds next => ledger.Continues deeds next) hs hholds
      (fun t ht => ⟨t, ht, .refl t⟩) (fun _ _ _ _ _ _ hs hc heffect => hc.step hs heffect) later
    obtain ⟨last, -, hlast, hfollows⟩ := hcontinues
    intro t ht
    rw [htasks] at ht
    rw [hlast.tasks_eq]
    exact hfollows t ht

/-- Of two claims of a task the second one fails, and the task ends as the first claimer's. -/
theorem task_is_claimed_once :
    let attempts := [
      Attempt.atEpoch (.submit { submittedBy := "planner", taskType := "build" }) [],
      Attempt.atEpoch (.claim "first" 1) [], Attempt.atEpoch (.claim "second" 1) [],
      Attempt.atEpoch (.complete 1 none) []]
    (({} : Store).after attempts).tasks.map (fun t => (t.status, t.claimedBy)) =
        [(.complete, some "first")] ∧
      (({} : Store).deeds attempts).countP (·.claims 1) ≤ 1 ∧
      (({} : Store).deeds attempts).countP (·.ends 1) ≤ 1 :=
  ⟨by decide +kernel, (tasks_live_once {} rfl _ []).1 1⟩

end Switchboard
