import Switchboard.Proofs.Statement
import Switchboard.Transaction

namespace Switchboard.Operation

variable {α β : Type} {context : Context} {run left : Run} {failure : Failure}

theorem perform_bind_ok {op : Operation α} {next : α → Operation β} {b : β} :
    perform (op >>= next) context run = (.ok b, left) ↔
      ∃ a middle, perform op context run = (.ok a, middle) ∧
        perform (next a) context middle = (.ok b, left) := by
  rw [perform_bind]
  obtain ⟨failure | a, middle⟩ := perform op context run
  · simp
  · constructor
    · exact fun h => ⟨a, middle, rfl, h⟩
    · rintro ⟨_, _, ⟨⟩, h⟩
      exact h

theorem perform_bind_error {op : Operation α} {next : α → Operation β} :
    perform (op >>= next) context run = (.error failure, left) ↔
      perform op context run = (.error failure, left) ∨
        ∃ a middle, perform op context run = (.ok a, middle) ∧
          perform (next a) context middle = (.error failure, left) := by
  rw [perform_bind]
  obtain ⟨failure | a, middle⟩ := perform op context run
  · simp
  · constructor
    · exact fun h => .inr ⟨a, middle, rfl, h⟩
    · rintro (hop | ⟨_, _, hop, h⟩)
      · cases hop
      · cases hop
        exact h

theorem perform_map_ok {f : α → β} {op : Operation α} {b : β} :
    perform (f <$> op) context run = (.ok b, left) ↔
      ∃ a, perform op context run = (.ok a, left) ∧ f a = b := by
  rw [perform_map]
  obtain ⟨failure | a, middle⟩ := perform op context run
  · simp [Except.map]
  · constructor
    · rintro ⟨⟩
      exact ⟨a, rfl, rfl⟩
    · rintro ⟨_, ⟨⟩, rfl⟩
      rfl

theorem perform_map_error {f : α → β} {op : Operation α} :
    perform (f <$> op) context run = (.error failure, left) ↔
      perform op context run = (.error failure, left) := by
  rw [perform_map]
  obtain ⟨failure | a, middle⟩ := perform op context run <;> simp [Except.map]

@[simp]
theorem perform_discard (op : Operation α) (context : Context) (run : Run) :
    perform (discard op) context run =
      ((perform op context run).1.map fun _ => ⟨⟩, (perform op context run).2) :=
  perform_map (fun _ => PUnit.unit) op context run

@[simp]
theorem perform_liftM (result : Except Failure α) (context : Context) (run : Run) :
    perform (liftM result : Operation α) context run = (result, run) := by
  cases result <;> rfl

theorem perform_carryOut (s : Statement α) (context : Context) (run : Run) :
    perform (carryOut s) context run =
      match run.faults.head?.join with
      | some fault => (.ok (.error fault), { run with faults := run.faults.tail })
      | none =>
        match s.run run.store with
        | .ok (a, store) => (.ok (.ok a), { run with store, faults := run.faults.tail })
        | .error cause => (.ok (.error cause), { run with faults := run.faults.tail }) := by
  unfold carryOut
  simp only [perform_bind, perform_get, perform_set]
  cases run.faults.head?.join with
  | some fault => rfl
  | none =>
    dsimp only
    obtain cause | ⟨a, store⟩ := s.run run.store <;> rfl

theorem perform_carryOut_ok {s : Statement α} {a : α}
    (h : perform (carryOut s) context run = (.ok (.ok a), left)) :
    ∃ store, s.run run.store = .ok (a, store) ∧
      left = { run with store, faults := run.faults.tail } := by
  rw [perform_carryOut] at h
  split at h
  · cases h
  · split at h
    · rename_i b store hs
      cases h
      exact ⟨store, hs, rfl⟩
    · cases h

theorem perform_carryOut_error {s : Statement α} {cause : EngineError}
    (h : perform (carryOut s) context run = (.ok (.error cause), left)) :
    left = { run with faults := run.faults.tail } := by
  rw [perform_carryOut] at h
  split at h
  · cases h
    rfl
  · split at h <;> cases h
    rfl

theorem perform_carryOut_ne_error {s : Statement α} :
    perform (carryOut s) context run ≠ (.error failure, left) := by
  rw [perform_carryOut]
  split
  · exact nofun
  · split <;> exact nofun

theorem perform_statement_ok {action : Action} {s : Statement α} {a : α}
    (h : perform (statement action s) context run = (.ok a, left)) :
    ∃ store, s.run run.store = .ok (a, store) ∧
      left = { run with store, faults := run.faults.tail } := by
  obtain ⟨result, middle, hs, hnext⟩ := perform_bind_ok.1 h
  cases result with
  | ok b =>
    cases hnext
    exact perform_carryOut_ok hs
  | error cause => cases hnext

theorem perform_statement_error {action : Action} {s : Statement α}
    (h : perform (statement action s) context run = (.error failure, left)) :
    left = { run with faults := run.faults.tail } := by
  obtain hs | ⟨result, middle, hs, hnext⟩ := perform_bind_error.1 h
  · exact absurd hs perform_carryOut_ne_error
  · cases result with
    | ok b => cases hnext
    | error cause =>
      cases hnext
      exact perform_carryOut_error hs

/-- However it ends, the operation leaves the store as it found it. -/
def Keeps (op : Operation α) : Prop :=
  ∀ context run, (perform op context run).2.store = run.store

theorem keeps_pure (a : α) : Keeps (pure a : Operation α) := fun _ _ => rfl

theorem keeps_throw (failure : Failure) : Keeps (throw failure : Operation α) := fun _ _ => rfl

theorem keeps_read : Keeps (read : Operation Context) := fun _ _ => rfl

theorem keeps_get : Keeps (get : Operation Run) := fun _ _ => rfl

theorem keeps_notify (notice : Notice) : Keeps (notify notice) := fun _ _ => rfl

theorem keeps_sleep (milliseconds : Nat) : Keeps (sleep milliseconds) := fun _ _ => rfl

theorem keeps_liftM (result : Except Failure α) : Keeps (liftM result : Operation α) := by
  intro context run
  rw [perform_liftM]

theorem Keeps.bind {op : Operation α} {next : α → Operation β} (h : Keeps op)
    (hnext : ∀ a, Keeps (next a)) : Keeps (op >>= next) := by
  intro context run
  have hop := h context run
  rw [perform_bind]
  generalize perform op context run = result at hop ⊢
  obtain ⟨failure | a, middle⟩ := result
  · exact hop
  · exact (hnext a context middle).trans hop

theorem Keeps.map {op : Operation α} (h : Keeps op) (f : α → β) : Keeps (f <$> op) := by
  intro context run
  rw [perform_map]
  exact h context run

theorem keeps_carryOut {s : Statement α} (h : s.Looks) : Keeps (carryOut s) := by
  intro context run
  rw [perform_carryOut]
  split
  · rfl
  · split
    · exact h _ _ _ ‹_›
    · rfl

theorem keeps_statement {action : Action} {s : Statement α} (h : s.Looks) :
    Keeps (statement action s) := by
  apply (keeps_carryOut h).bind
  intro result
  cases result with
  | ok a => exact keeps_pure a
  | error cause => exact keeps_throw _

theorem Keeps.store_eq {op : Operation α} {result : Except Failure α} (h : Keeps op)
    (hop : perform op context run = (result, left)) : left.store = run.store := by
  rw [← h context run, hop]

theorem keeps_tryLock {whenBusy : EngineError → Operation Unit}
    (h : ∀ cause, Keeps (whenBusy cause)) : Keeps (tryLock whenBusy) := by
  apply (keeps_carryOut Statement.looks_takeLock).bind
  intro result
  cases result with
  | ok _ => exact keeps_pure ()
  | error cause =>
    dsimp only
    split
    · exact h cause
    · exact keeps_throw _

theorem keeps_takeLock (attempt : UInt32) (backoff : Duration) (retries : Nat) :
    Keeps (takeLock attempt backoff retries) := by
  induction retries generalizing attempt backoff with
  | zero => exact keeps_tryLock fun cause => keeps_read.bind fun _ => keeps_throw _
  | succ retries ih =>
    apply keeps_tryLock
    intro _
    apply (keeps_notify _).bind
    intro _
    apply (keeps_sleep _).bind
    intro _
    exact ih (attempt + 1) (nextBackoff backoff)

theorem keeps_beginTransaction : Keeps beginTransaction :=
  keeps_read.bind fun _ => keeps_takeLock _ _ _

theorem perform_rollback (before : Store) (reason : Option Failure) (context : Context)
    (run : Run) :
    ∃ left, perform (rollback before reason) context run = (.ok (), left) ∧
      left.store = before := by
  unfold rollback
  dsimp only
  rw [perform_bind]
  generalize hundo : perform (carryOut _) context run = outcome
  obtain ⟨failure | result, middle⟩ := outcome
  · exact absurd hundo perform_carryOut_ne_error
  · cases result <;> exact ⟨_, rfl, rfl⟩

theorem perform_commit_ok {before : Store}
    (h : perform (commit before) context run = (.ok (), left)) : left.store = run.store := by
  obtain ⟨result, middle, hlock, hnext⟩ := perform_bind_ok.1 h
  have hkept := (keeps_carryOut Statement.looks_giveLockBack).store_eq hlock
  cases result with
  | ok _ =>
    cases hnext
    exact hkept
  | error cause => cases hnext

theorem perform_commit_error {before : Store}
    (h : perform (commit before) context run = (.error failure, left)) : left.store = before := by
  obtain hlock | ⟨result, middle, hlock, hnext⟩ := perform_bind_error.1 h
  · exact absurd hlock perform_carryOut_ne_error
  · cases result with
    | ok _ => cases hnext
    | error cause =>
      cases hnext
      rfl

/-- A transaction that succeeds leaves what its body left, or the store as it was if the answer is
not to be kept. -/
theorem perform_transactionIf_ok {keep : α → Bool} {body : Operation α} {a : α}
    (h : perform (transactionIf keep body) context run = (.ok a, left)) :
    ∃ started done, started.store = run.store ∧
      perform body context started = (.ok a, done) ∧
      left.store = if keep a then done.store else run.store := by
  obtain ⟨_, started, hbegin, h₁⟩ := perform_bind_ok.1 h
  have hstarted := keeps_beginTransaction.store_eq hbegin
  obtain ⟨_, _, hget, h₂⟩ := perform_bind_ok.1 h₁
  cases hget
  obtain ⟨result, done, hbody, h₃⟩ := perform_bind_ok.1 h₂
  rw [perform_outcome] at hbody
  obtain ⟨hresult, hdone⟩ := Prod.mk.inj hbody
  cases result with
  | ok b =>
    dsimp only at h₃
    split at h₃
    · obtain ⟨_, kept, hcommit, hpure⟩ := perform_bind_ok.1 h₃
      cases hpure
      refine ⟨started, done, hstarted, Prod.ext (Except.ok.inj hresult) hdone, ?_⟩
      rw [perform_commit_ok hcommit, if_pos ‹_›]
    · obtain ⟨_, undone, hrollback, hpure⟩ := perform_bind_ok.1 h₃
      cases hpure
      obtain ⟨_, hundo, hbefore⟩ := perform_rollback started.store none context done
      cases hundo.symm.trans hrollback
      refine ⟨started, done, hstarted, Prod.ext (Except.ok.inj hresult) hdone, ?_⟩
      rw [hbefore, hstarted, if_neg ‹_›]
  | error reason =>
    obtain ⟨_, undone, hrollback, hthrow⟩ := perform_bind_ok.1 h₃
    cases hthrow

theorem perform_transactionIf_error {keep : α → Bool} {body : Operation α}
    (h : perform (transactionIf keep body) context run = (.error failure, left)) :
    left.store = run.store := by
  obtain hbegin | ⟨_, started, hbegin, h₁⟩ := perform_bind_error.1 h
  · exact keeps_beginTransaction.store_eq hbegin
  have hstarted := keeps_beginTransaction.store_eq hbegin
  obtain hget | ⟨_, _, hget, h₂⟩ := perform_bind_error.1 h₁
  · cases hget
  cases hget
  obtain hbody | ⟨result, done, hbody, h₃⟩ := perform_bind_error.1 h₂
  · rw [perform_outcome] at hbody
    cases hbody
  cases result with
  | ok b =>
    dsimp only at h₃
    split at h₃
    · obtain hcommit | ⟨_, kept, _, hpure⟩ := perform_bind_error.1 h₃
      · rw [perform_commit_error hcommit, hstarted]
      · cases hpure
    · obtain ⟨_, hundo, hbefore⟩ := perform_rollback started.store none context done
      obtain hrollback | ⟨_, undone, _, hpure⟩ := perform_bind_error.1 h₃
      · cases hundo.symm.trans hrollback
      · cases hpure
  | error reason =>
    obtain ⟨_, hundo, hbefore⟩ := perform_rollback started.store (some reason) context done
    obtain hrollback | ⟨_, undone, hrollback, hthrow⟩ := perform_bind_error.1 h₃
    · cases hundo.symm.trans hrollback
    · cases hundo.symm.trans hrollback
      cases hthrow
      rw [hbefore, hstarted]

theorem perform_transaction_ok {body : Operation α} {a : α}
    (h : perform (transaction body) context run = (.ok a, left)) :
    ∃ started done, started.store = run.store ∧
      perform body context started = (.ok a, done) ∧ left.store = done.store := by
  simpa using perform_transactionIf_ok h

theorem perform_transaction_error {body : Operation α}
    (h : perform (transaction body) context run = (.error failure, left)) :
    left.store = run.store :=
  perform_transactionIf_error h

end Switchboard.Operation
