import Switchboard.Proofs.Connection

namespace Switchboard

/-- A relation between runs that goes along with all that statements and transactions do. -/
structure Passing (R : Run → Run → Prop) : Prop where
  refl (run : Run) : R run run
  trans {first second third : Run} : R first second → R second third → R first third
  carry (run : Run) (store : Store) (faults : List (Option EngineError)) :
    R run { run with store, faults }
  rest (run : Run) (milliseconds : Nat) :
    R run { run with
      elapsed := run.elapsed + milliseconds, naps := milliseconds :: run.naps }
  tell (run : Run) (notice : Notice) (h : notice.level ≠ .info) :
    R run { run with notices := notice :: run.notices }

def Run.told (run : Run) : List Notice := run.notices.reverse.filter (·.level = .info)

theorem Run.passing_ready : Passing fun before after => after.ready = before.ready where
  refl _ := rfl
  trans h h' := h'.trans h
  carry _ _ _ := rfl
  rest _ _ := rfl
  tell _ _ _ := rfl

theorem Run.passing_elapsed : Passing fun before after => before.elapsed ≤ after.elapsed where
  refl _ := Nat.le_refl _
  trans := Nat.le_trans
  carry _ _ _ := Nat.le_refl _
  rest _ _ := Nat.le_add_right _ _
  tell _ _ _ := Nat.le_refl _

theorem Run.passing_told : Passing fun before after => after.told = before.told where
  refl _ := rfl
  trans h h' := h'.trans h
  carry _ _ _ := rfl
  rest _ _ := rfl
  tell run notice h := by simp [told, h]

namespace Operation

variable {α β : Type} {R : Run → Run → Prop} {context : Context} {run left : Run}

def Stays (R : Run → Run → Prop) (op : Operation α) : Prop :=
  ∀ (context : Context) (run : Run), R run (perform op context run).2

theorem Stays.of_perform {op : Operation α} {result : Except Failure α} (h : Stays R op)
    (hop : perform op context run = (result, left)) : R run left := by
  simpa [hop] using h context run

theorem Stays.map {op : Operation α} (h : Stays R op) (f : α → β) : Stays R (f <$> op) := by
  intro context run
  rw [perform_map]
  exact h context run

end Operation

open Operation

namespace Passing

variable {α β : Type} {R : Run → Run → Prop} (hR : Passing R)

include hR

theorem stays_pure (a : α) : Stays R (pure a : Operation α) := fun _ run => hR.refl run

theorem stays_throw (failure : Failure) : Stays R (throw failure : Operation α) :=
  fun _ run => hR.refl run

theorem stays_read : Stays R (read : Operation Context) := fun _ run => hR.refl run

theorem stays_get : Stays R (get : Operation Run) := fun _ run => hR.refl run

theorem stays_liftM (result : Except Failure α) : Stays R (liftM result : Operation α) := by
  intro context run
  rw [perform_liftM]
  exact hR.refl run

theorem stays_replace (f : Run → Store) :
    Stays R (modify fun run => { run with store := f run } : Operation PUnit) :=
  fun _ run => hR.carry run _ run.faults

theorem stays_sleep (milliseconds : Nat) : Stays R (sleep milliseconds) :=
  fun _ run => hR.rest run milliseconds

theorem stays_notify {notice : Notice} (h : notice.level ≠ .info) : Stays R (notify notice) :=
  fun _ run => hR.tell run notice h

theorem stays_bind {op : Operation α} {next : α → Operation β} (h : Stays R op)
    (hnext : ∀ a, Stays R (next a)) : Stays R (op >>= next) := by
  intro context run
  have hop := h context run
  rw [perform_bind]
  generalize perform op context run = result at hop ⊢
  obtain ⟨failure | a, middle⟩ := result
  · exact hop
  · exact hR.trans hop (hnext a context middle)

theorem stays_carryOut (s : Statement α) : Stays R (carryOut s) := by
  intro context run
  rw [perform_carryOut]
  split
  · exact hR.carry run run.store _
  · split
    · exact hR.carry run _ _
    · exact hR.carry run run.store _

theorem stays_statement (action : Action) (s : Statement α) : Stays R (statement action s) := by
  refine hR.stays_bind (hR.stays_carryOut s) fun result => ?_
  cases result with
  | ok a => exact hR.stays_pure a
  | error cause => exact hR.stays_throw _

theorem stays_tryLock {whenBusy : EngineError → Operation Unit}
    (h : ∀ cause, Stays R (whenBusy cause)) : Stays R (tryLock whenBusy) := by
  refine hR.stays_bind (hR.stays_carryOut _) fun result => ?_
  cases result with
  | ok _ => exact hR.stays_pure ()
  | error cause =>
    dsimp only
    split
    · exact h cause
    · exact hR.stays_throw _

theorem stays_takeLock (attempt : UInt32) (backoff : Duration) (retries : Nat) :
    Stays R (takeLock attempt backoff retries) := by
  induction retries generalizing attempt backoff with
  | zero =>
    exact hR.stays_tryLock fun cause => hR.stays_bind (hR.stays_read) fun _ => hR.stays_throw _
  | succ retries ih =>
    refine hR.stays_tryLock fun _ => ?_
    refine hR.stays_bind (hR.stays_notify nofun) fun _ => ?_
    refine hR.stays_bind (hR.stays_sleep _) fun _ => ?_
    exact ih (attempt + 1) (nextBackoff backoff)

theorem stays_rollback (before : Store) (failure : Option Failure) :
    Stays R (rollback before failure) := by
  refine hR.stays_bind (hR.stays_carryOut _) fun result => ?_
  cases result with
  | ok _ => exact hR.stays_replace fun _ => before
  | error cause =>
    exact hR.stays_bind (hR.stays_notify nofun) fun _ => hR.stays_replace fun _ => before

theorem stays_commit (before : Store) : Stays R (commit before) := by
  refine hR.stays_bind (hR.stays_carryOut _) fun result => ?_
  cases result with
  | ok _ => exact hR.stays_pure ()
  | error cause => exact hR.stays_bind (hR.stays_replace _) fun _ => hR.stays_throw _

theorem stays_transactionIf {body : Operation α} (h : Stays R body) (keep : α → Bool) :
    Stays R (transactionIf keep body) := by
  refine hR.stays_bind (hR.stays_bind (hR.stays_read) fun _ => hR.stays_takeLock _ _ _) fun _ => ?_
  refine hR.stays_bind (hR.stays_get) fun started => ?_
  have houtcome : Stays R (outcome body) := h
  refine hR.stays_bind houtcome fun result => ?_
  cases result with
  | ok a =>
    dsimp only
    split
    · exact hR.stays_bind (hR.stays_commit _) fun _ => hR.stays_pure a
    · exact hR.stays_bind (hR.stays_rollback _ _) fun _ => hR.stays_pure a
  | error failure =>
    exact hR.stays_bind (hR.stays_rollback _ _) fun _ => hR.stays_throw failure

theorem stays_transaction {body : Operation α} (h : Stays R body) : Stays R (transaction body) :=
  hR.stays_transactionIf h _

theorem stays_openStore : Stays R openStore :=
  hR.stays_bind (hR.stays_read) fun _ => hR.stays_statement _ _

theorem stays_createTable (name : TableName) : Stays R (createTable name) := by
  refine hR.stays_bind (hR.stays_statement _ _) fun _ => ?_
  split
  · exact hR.stays_pure _
  · exact hR.stays_statement _ _

theorem stays_createTables (names : List TableName) : Stays R (names.forM createTable) := by
  induction names with
  | nil => exact hR.stays_pure _
  | cons name names ih => exact hR.stays_bind (hR.stays_createTable name) fun _ => ih

theorem stays_inspectSchema : Stays R inspectSchema := by
  refine hR.stays_bind ?_ fun found => hR.stays_pure _
  generalize TableName.all = names
  induction names with
  | nil => exact hR.stays_pure []
  | cons name names ih =>
    rw [List.mapM_cons]
    refine hR.stays_bind (hR.stays_statement _ _) fun _ => ?_
    exact hR.stays_bind ih fun _ => hR.stays_pure _

theorem stays_connect (hready : ∀ run, R run { run with ready := true }) : Stays R connect := by
  have hnote : Stays R (modify fun run => { run with ready := true } : Operation PUnit) :=
    fun _ run => hready run
  refine hR.stays_bind (hR.stays_openStore) fun _ => ?_
  refine hR.stays_bind (hR.stays_get) fun run => ?_
  split
  · exact hR.stays_pure _
  · refine hR.stays_bind (hR.stays_inspectSchema) fun complete => ?_
    split
    · exact hnote
    · exact hR.stays_bind (hR.stays_transaction (hR.stays_createTables _)) fun _ => hnote

end Passing

end Switchboard
