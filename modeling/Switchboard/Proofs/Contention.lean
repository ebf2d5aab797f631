import Mathlib.Algebra.GroupWithZero.Nat
import Switchboard.Proofs.Backoff
import Switchboard.Proofs.Composition
import Switchboard.Proofs.History

namespace Switchboard

/-- The settings are such as texts can describe: the number of retries fits in 32 bits, and the first
pause in 64. -/
structure Configuration.Admitted (config : Configuration) : Prop where
  lockRetries : config.lockRetries ≤ maxLockRetries
  retryBackoff : config.retryBackoff < UInt64.size

def Failure.couldNotBegin : Failure → Bool
  | .lockedOut .. | .statement .beginTransaction _ => true
  | _ => false

namespace Run

variable {run : Run} {m k : Nat}

/-- How the engine answers an attempt to take the lock that comes after so many others. -/
def lockAnswer (run : Run) (attempts : Nat) : Except EngineError Unit :=
  match run.faults[attempts]?.join with
  | some fault => .error fault
  | none => (Statement.takeLock.run run.store).map Prod.fst

/-- The attempt that comes after so many others is told that the store is busy. -/
def BusyAt (run : Run) (attempts : Nat) : Prop :=
  ∃ cause, run.lockAnswer attempts = .error cause ∧ cause.isBusy

def FreeAt (run : Run) (attempts : Nat) : Prop := run.lockAnswer attempts = .ok ()

/-- The run after so many attempts that were told that the store is busy, with a pause after each of
them and a notice before it. Naps and notices are listed newest first. -/
def afterPauses (run : Run) (first : Nat) (attempts : Nat) : Run :=
  { run with
    faults := run.faults.drop attempts
    elapsed := run.elapsed + ((List.range attempts).map (Operation.pauseAfter first)).sum
    naps := ((List.range attempts).map (Operation.pauseAfter first)).reverse ++ run.naps
    notices := ((List.range attempts).map fun k =>
      Notice.databaseBusy (k + 1) (Operation.pauseAfter first k)).reverse ++ run.notices }

theorem lockAnswer_afterPauses (first : Nat) :
    (run.afterPauses first m).lockAnswer k = run.lockAnswer (m + k) := by
  unfold lockAnswer afterPauses
  dsimp only
  rw [List.getElem?_drop]

theorem tail_faults_afterPauses (first : Nat) :
    (run.afterPauses first m).faults.tail = run.faults.drop (m + 1) := by
  simp [afterPauses]

theorem afterPauses_zero (first : Nat) : run.afterPauses first 0 = run := by
  simp [afterPauses]

theorem afterPauses_succ (first : Nat) :
    run.afterPauses first (m + 1) =
      { run.afterPauses first m with
        faults := (run.afterPauses first m).faults.tail
        elapsed := (run.afterPauses first m).elapsed + Operation.pauseAfter first m
        naps := Operation.pauseAfter first m :: (run.afterPauses first m).naps
        notices := .databaseBusy (m + 1) (Operation.pauseAfter first m) ::
          (run.afterPauses first m).notices } := by
  simp [afterPauses, List.range_succ, Nat.add_assoc]

/-- Of some attempts in a row, all are told that the store is busy, or there is a first one that is
not. -/
theorem busyAt_or (n : Nat) :
    (∀ k ≤ n, run.BusyAt k) ∨ ∃ m ≤ n, (∀ k < m, run.BusyAt k) ∧ ¬ run.BusyAt m := by
  induction n with
  | zero =>
    by_cases hfirst : run.BusyAt 0
    · refine .inl fun k hk => ?_
      obtain rfl : k = 0 := by omega
      exact hfirst
    · exact .inr ⟨0, Nat.le_refl 0, fun k hk => absurd hk (Nat.not_lt_zero k), hfirst⟩
  | succ n ih =>
    obtain hbusy | ⟨m, hm, hfirst⟩ := ih
    · by_cases hnext : run.BusyAt (n + 1)
      · refine .inl fun k hk => ?_
        obtain hlast | hle : k = n + 1 ∨ k ≤ n := by omega
        · exact hlast ▸ hnext
        · exact hbusy k hle
      · exact .inr ⟨n + 1, Nat.le_refl _, fun k hk => hbusy k (by omega), hnext⟩
    · exact .inr ⟨m, by omega, hfirst⟩

end Run

namespace Operation

variable {context : Context} {run : Run} {cause : EngineError} {m : Nat}

theorem perform_carryOut_takeLock :
    perform (carryOut Statement.takeLock) context run =
      (.ok (run.lockAnswer 0), { run with faults := run.faults.tail }) := by
  rw [perform_carryOut, Run.lockAnswer, List.head?_eq_getElem?]
  cases run.faults[0]?.join with
  | some fault => rfl
  | none =>
    dsimp only
    cases hrun : Statement.takeLock.run run.store with
    | error cause => rfl
    | ok result =>
      obtain ⟨⟨⟩, store⟩ := result
      obtain rfl := Statement.looks_takeLock _ _ _ hrun
      rfl

theorem perform_tryLock (whenBusy : EngineError → Operation Unit) :
    perform (tryLock whenBusy) context run =
      match run.lockAnswer 0 with
      | .ok () => (.ok (), { run with faults := run.faults.tail })
      | .error cause =>
        if cause.isBusy then
          perform (whenBusy cause) context { run with faults := run.faults.tail }
        else
          (.error (.statement .beginTransaction cause), { run with faults := run.faults.tail }) := by
  unfold tryLock
  rw [perform_bind, perform_carryOut_takeLock]
  cases run.lockAnswer 0 with
  | ok _ => rfl
  | error cause =>
    dsimp only
    split <;> rfl

/-- Attempts that are told that the store is busy are followed by pauses that keep to the schedule,
as long as there are retries left. -/
theorem perform_takeLock_busy {first n : Nat} (hn : n ≤ Configuration.maxLockRetries)
    (hfirst : first < UInt64.size) (hm : m ≤ n) (hbusy : ∀ k < m, run.BusyAt k) :
    perform (takeLock 0 (backoffAfter first 0) n) context run =
      perform (takeLock (.ofNat m) (backoffAfter first m) (n - m)) context
        (run.afterPauses first m) := by
  induction m with
  | zero => rw [Run.afterPauses_zero]; rfl
  | succ m ih =>
    obtain ⟨cause, hanswer, hcause⟩ := hbusy m (by omega)
    have hcount : (UInt32.ofNat m + 1).toNat = m + 1 := by
      have hmax : Configuration.maxLockRetries = 4294967295 := rfl
      rw [UInt32.toNat_add, UInt32.toNat_ofNat_of_lt' (by simp [UInt32.size]; omega)]
      simp
      omega
    have hnext : UInt32.ofNat m + 1 = .ofNat (m + 1) := by simp
    have hleft : n - m = n - (m + 1) + 1 := by omega
    rw [ih (by omega) fun k hk => hbusy k (by omega), hleft, takeLock, perform_tryLock,
      Run.lockAnswer_afterPauses, Nat.add_zero, hanswer]
    dsimp only
    rw [if_pos hcause, hcount, toNat_narrowed_backoffAfter hfirst, toNat_backoffAfter hfirst,
      hnext, nextBackoff_backoffAfter, Run.afterPauses_succ]
    rfl

theorem perform_beginTransaction_busy (hconfig : context.config.Admitted)
    (hm : m ≤ context.config.lockRetries) (hbusy : ∀ k < m, run.BusyAt k) :
    perform beginTransaction context run =
      perform (takeLock (.ofNat m) (backoffAfter context.config.retryBackoff m)
        (context.config.lockRetries - m)) context
        (run.afterPauses context.config.retryBackoff m) :=
  perform_takeLock_busy hconfig.lockRetries hconfig.retryBackoff hm hbusy

theorem perform_takeLock_free {attempt : UInt32} {backoff : Duration} {retries : Nat}
    (h : run.FreeAt 0) :
    perform (takeLock attempt backoff retries) context run =
      (.ok (), { run with faults := run.faults.tail }) := by
  cases retries <;> rw [takeLock, perform_tryLock, h]

theorem perform_takeLock_failed {attempt : UInt32} {backoff : Duration} {retries : Nat}
    (h : run.lockAnswer 0 = .error cause) (hcause : ¬ cause.isBusy) :
    perform (takeLock attempt backoff retries) context run =
      (.error (.statement .beginTransaction cause), { run with faults := run.faults.tail }) := by
  cases retries <;> rw [takeLock, perform_tryLock, h] <;> exact if_neg hcause

theorem perform_beginTransaction_free (hconfig : context.config.Admitted)
    (hm : m ≤ context.config.lockRetries) (hbusy : ∀ k < m, run.BusyAt k) (hfree : run.FreeAt m) :
    perform beginTransaction context run =
      (.ok (), { run.afterPauses context.config.retryBackoff m with
        faults := run.faults.drop (m + 1) }) := by
  have hnow : (run.afterPauses context.config.retryBackoff m).FreeAt 0 :=
    (Run.lockAnswer_afterPauses _).trans hfree
  rw [perform_beginTransaction_busy hconfig hm hbusy, perform_takeLock_free hnow,
    Run.tail_faults_afterPauses]

theorem perform_beginTransaction_lockedOut (hconfig : context.config.Admitted)
    (hbusy : ∀ k ≤ context.config.lockRetries, run.BusyAt k) :
    ∃ cause, run.lockAnswer context.config.lockRetries = .error cause ∧
      perform beginTransaction context run =
        (.error (.lockedOut context.path context.config.lockRetries cause),
          { run.afterPauses context.config.retryBackoff context.config.lockRetries with
            faults := run.faults.drop (context.config.lockRetries + 1) }) := by
  obtain ⟨cause, hanswer, hcause⟩ := hbusy _ (Nat.le_refl _)
  have hcount : (UInt32.ofNat context.config.lockRetries).toNat = context.config.lockRetries := by
    have hmax : Configuration.maxLockRetries = 4294967295 := rfl
    have hretries := hconfig.lockRetries
    exact UInt32.toNat_ofNat_of_lt' (by simp [UInt32.size]; omega)
  refine ⟨cause, hanswer, ?_⟩
  rw [perform_beginTransaction_busy hconfig (Nat.le_refl _) fun k hk => hbusy k (by omega),
    Nat.sub_self, takeLock, perform_tryLock, Run.lockAnswer_afterPauses, Nat.add_zero, hanswer]
  dsimp only
  rw [if_pos hcause, hcount, Run.tail_faults_afterPauses]
  rfl

/-- Either a transaction begins, and then the store has been busy for no more attempts than there are
retries, or it fails at taking the lock. -/
theorem beginTransaction_cases (run : Run) (hconfig : context.config.Admitted) :
    (∃ m ≤ context.config.lockRetries, (∀ k < m, run.BusyAt k) ∧ run.FreeAt m) ∨
      ∃ failure : Failure, failure.couldNotBegin ∧
        (perform beginTransaction context run).1 = .error failure := by
  obtain hbusy | ⟨m, hm, hbusy, hnot⟩ := run.busyAt_or context.config.lockRetries
  · obtain ⟨cause, -, hlocked⟩ := perform_beginTransaction_lockedOut hconfig hbusy
    exact .inr ⟨_, rfl, congrArg Prod.fst hlocked⟩
  cases hanswer : run.lockAnswer m with
  | ok _ => exact .inl ⟨m, hm, hbusy, hanswer⟩
  | error cause =>
    have hnow : (run.afterPauses context.config.retryBackoff m).lockAnswer 0 = .error cause :=
      (Run.lockAnswer_afterPauses _).trans hanswer
    refine .inr ⟨.statement .beginTransaction cause, rfl, ?_⟩
    rw [perform_beginTransaction_busy hconfig hm hbusy,
      perform_takeLock_failed hnow fun hcause => hnot ⟨cause, hanswer, hcause⟩]

end Operation

/-- Some statements to come meet the same faults as others, but for so many answers that the store is
busy, which are left out. -/
inductive Relieved : Nat → List (Option EngineError) → List (Option EngineError) → Prop where
  | nil : Relieved 0 [] []
  | keep (fault : Option EngineError) {n : Nat} {faults calm : List (Option EngineError)}
      (h : Relieved n faults calm) :
    Relieved n (fault :: faults) (fault :: calm)
  | leaveOut {cause : EngineError} (hcause : cause.isBusy) {n : Nat}
      {faults calm : List (Option EngineError)} (h : Relieved n faults calm) :
    Relieved (n + 1) (some cause :: faults) calm

namespace Relieved

variable {n m : Nat} {faults calm : List (Option EngineError)}

theorem refl (faults : List (Option EngineError)) : Relieved 0 faults faults := by
  induction faults with
  | nil => exact .nil
  | cons fault faults ih => exact ih.keep fault

theorem exists_of_tail (h : Relieved n faults.tail calm) :
    ∃ first, Relieved n faults first ∧ first.head?.join = faults.head?.join ∧ first.tail = calm := by
  cases faults with
  | nil =>
    cases h
    exact ⟨[], .nil, rfl, rfl⟩
  | cons fault faults => exact ⟨fault :: calm, h.keep fault, rfl, rfl⟩

theorem leaveOutAll (hbusy : ∀ k < m, ∃ cause : EngineError, faults[k]? = some (some cause) ∧
    cause.isBusy) (h : Relieved n (faults.drop m) calm) : Relieved (m + n) faults calm := by
  induction m generalizing faults with
  | zero => simpa using h
  | succ m ih =>
    obtain ⟨cause, hfirst, hcause⟩ := hbusy 0 (by omega)
    cases faults with
    | nil => cases hfirst
    | cons fault faults =>
      cases hfirst
      have hrest := ih (fun k hk => hbusy (k + 1) (by omega)) h
      rw [Nat.add_right_comm]
      exact hrest.leaveOut hcause

end Relieved

namespace Operation

/-- The pauses of transactions that have been told so many times each that the store is busy. -/
def pausesOf (first : Nat) (waits : List Nat) : List Nat :=
  waits.flatMap fun m => (List.range m).map (pauseAfter first)

/-- What is told of these pauses: which one of its transaction each is, and how long. -/
def warningsOf (first : Nat) (waits : List Nat) : List Notice :=
  waits.flatMap fun m => (List.range m).map fun k =>
    Notice.databaseBusy (k + 1) (pauseAfter first k)

end Operation

namespace Run

/-- Two runs that differ at most in the faults to come, in the time that has passed, and in pauses for
a busy store and notices of them. -/
structure Alike (run other : Run) : Prop where
  store : other.store = run.store
  ready : other.ready = run.ready
  notices : other.notices.filter (!·.tellsBusy) = run.notices.filter (!·.tellsBusy)

/-- From the one run to the other nothing has been waited for but the lock, by transactions that have
been told so many times each that the store is busy. -/
structure Waited (first : Nat) (waits : List Nat) (run left : Run) : Prop where
  naps : left.naps = (Operation.pausesOf first waits).reverse ++ run.naps
  elapsed : left.elapsed = run.elapsed + (Operation.pausesOf first waits).sum
  warnings : left.notices.filter (·.tellsBusy) =
    (Operation.warningsOf first waits).reverse ++ run.notices.filter (·.tellsBusy)

/-- However often the store has been busy, the time from the one run to the other was waited for as
the schedule says, and what was done is done as well from a run in which those answers are left out:
it leads to the same store, and without a pause. -/
def Weathers (context : Context) (run left : Run) (does : Run → Run → Prop) : Prop :=
  ∃ waits, (∀ m ∈ waits, m ≤ context.config.lockRetries) ∧
    run.Waited context.config.retryBackoff waits left ∧
    ∀ k rest, Relieved k left.faults rest →
      ∃ calm, Relieved (waits.sum + k) run.faults calm ∧
        ∀ other, run.Alike other → other.faults = calm →
          ∃ ended, does other ended ∧ left.Alike ended ∧ ended.faults = rest ∧
            other.Waited context.config.retryBackoff [] ended

variable {first : Nat} {waits later : List Nat} {run middle left : Run}

theorem Waited.refl (first : Nat) (run : Run) : run.Waited first [] run :=
  ⟨rfl, rfl, rfl⟩

theorem Waited.trans (h : run.Waited first waits middle) (hlater : middle.Waited first later left) :
    run.Waited first (waits ++ later) left where
  naps := by rw [hlater.naps, h.naps]; simp [Operation.pausesOf]
  elapsed := by rw [hlater.elapsed, h.elapsed]; simp [Operation.pausesOf, Nat.add_assoc]
  warnings := by rw [hlater.warnings, h.warnings]; simp [Operation.warningsOf]

theorem waited_afterPauses (first m : Nat) (faults : List (Option EngineError)) :
    run.Waited first [m] { run.afterPauses first m with faults } where
  naps := by simp [Operation.pausesOf, afterPauses]
  elapsed := by simp [Operation.pausesOf, afterPauses]
  warnings := by
    have hall : ∀ notice ∈ Operation.warningsOf first [m], notice.tellsBusy := by
      simp [Operation.warningsOf, Notice.tellsBusy]
    have hkept := List.filter_eq_self.2 hall
    have hnotices : (run.afterPauses first m).notices =
        (Operation.warningsOf first [m]).reverse ++ run.notices := by
      simp [Operation.warningsOf, afterPauses]
    rw [hnotices, List.filter_append, List.filter_reverse, hkept]

theorem Alike.trans (h : run.Alike middle) (hnext : middle.Alike left) : run.Alike left :=
  ⟨hnext.store.trans h.store, hnext.ready.trans h.ready, hnext.notices.trans h.notices⟩

theorem alike_afterPauses (run : Run) (first m : Nat) (faults : List (Option EngineError)) :
    Alike { run.afterPauses first m with faults } run where
  store := rfl
  ready := rfl
  notices := by simp [afterPauses, List.filter_map, Notice.tellsBusy, Function.comp_def]

variable {context : Context} {does next : Run → Run → Prop}

theorem Weathers.mono (h : run.Weathers context left does)
    (himp : ∀ other ended, run.Alike other → does other ended → next other ended) :
    run.Weathers context left next := by
  obtain ⟨waits, hwaits, hwaited, hrelieved⟩ := h
  refine ⟨waits, hwaits, hwaited, fun k rest hrest => ?_⟩
  obtain ⟨calm, hcalm, hends⟩ := hrelieved k rest hrest
  refine ⟨calm, hcalm, fun other hother hfaults => ?_⟩
  obtain ⟨ended, hdoes, hended⟩ := hends other hother hfaults
  exact ⟨ended, himp other ended hother hdoes, hended⟩

theorem Weathers.trans (h : run.Weathers context middle does)
    (hnext : middle.Weathers context left next) :
    run.Weathers context left fun other ended => ∃ reached, does other reached ∧ next reached ended := by
  obtain ⟨waits, hwaits, hwaited, hrelieved⟩ := h
  obtain ⟨later, hlater, hwaitedLater, hrelievedLater⟩ := hnext
  refine ⟨waits ++ later, ?_, hwaited.trans hwaitedLater, fun k rest hrest => ?_⟩
  · exact fun m hm => (List.mem_append.1 hm).elim (hwaits m) (hlater m)
  -- What is left out later is chosen first, as it is what the first part has to lead to.
  obtain ⟨between, hbetween, hendsLater⟩ := hrelievedLater k rest hrest
  obtain ⟨calm, hcalm, hends⟩ := hrelieved _ between hbetween
  refine ⟨calm, by rwa [List.sum_append, Nat.add_assoc], fun other hother hfaults => ?_⟩
  obtain ⟨reached, hdoes, hreached, hfaultsReached, hpassed⟩ := hends other hother hfaults
  obtain ⟨ended, hdoesNext, hended, hfaultsEnded, hpassedLater⟩ :=
    hendsLater reached hreached hfaultsReached
  exact ⟨ended, ⟨reached, hdoes, hdoesNext⟩, hended, hfaultsEnded, hpassed.trans hpassedLater⟩

end Run

namespace Operation

variable {α β : Type}

/-- Contention for the lock shows in nothing but pauses, unless the operation fails at taking it. -/
def Weathers (op : Operation α) : Prop :=
  ∀ (context : Context) (run left : Run) (result : Except Failure α),
    context.config.Admitted → perform op context run = (result, left) →
    (∀ failure, result = .error failure → failure.couldNotBegin = false) →
    run.Weathers context left fun other ended => perform op context other = (result, ended)

/-- What does not look at the faults to come, at the time that has passed, and at what has been told,
and neither waits nor warns, is not touched by contention. -/
theorem weathers_of_alike {op : Operation α}
    (halike : ∀ context run other, run.Alike other →
      (perform op context other).1 = (perform op context run).1 ∧
        (perform op context run).2.Alike (perform op context other).2)
    (hleft : ∀ context run first, (perform op context run).2.faults = run.faults ∧
      run.Waited first [] (perform op context run).2) :
    Weathers op := by
  intro context run left result hconfig hop hbegun
  obtain ⟨hfaults, hwaited⟩ := hleft context run context.config.retryBackoff
  rw [hop] at hfaults hwaited
  refine ⟨[], nofun, hwaited, fun k rest hrest => ?_⟩
  refine ⟨rest, by simpa [← hfaults] using hrest, fun other hother hcalm => ?_⟩
  obtain ⟨hresult, hended⟩ := halike context run other hother
  obtain ⟨hkept, hpassed⟩ := hleft context other context.config.retryBackoff
  rw [hop] at hresult hended
  exact ⟨(perform op context other).2, Prod.ext hresult rfl, hended, hkept.trans hcalm, hpassed⟩

theorem weathers_pure (a : α) : Weathers (pure a : Operation α) :=
  weathers_of_alike (fun _ _ _ h => ⟨rfl, h⟩) fun _ run first => ⟨rfl, .refl first run⟩

theorem weathers_throw (failure : Failure) : Weathers (throw failure : Operation α) :=
  weathers_of_alike (fun _ _ _ h => ⟨rfl, h⟩) fun _ run first => ⟨rfl, .refl first run⟩

theorem weathers_read : Weathers read :=
  weathers_of_alike (fun _ _ _ h => ⟨rfl, h⟩) fun _ run first => ⟨rfl, .refl first run⟩

theorem weathers_noteReady :
    Weathers (modify fun run => { run with ready := true } : Operation PUnit) :=
  weathers_of_alike (fun _ _ _ h => ⟨rfl, h.store, rfl, h.notices⟩)
    fun _ _ _ => ⟨rfl, rfl, rfl, rfl⟩

theorem weathers_replace (store : Store) :
    Weathers (modify fun run => { run with store } : Operation PUnit) :=
  weathers_of_alike (fun _ _ _ h => ⟨rfl, rfl, h.ready, h.notices⟩)
    fun _ _ _ => ⟨rfl, rfl, rfl, rfl⟩

theorem weathers_notify {notice : Notice} (hnotice : notice.tellsBusy = false) :
    Weathers (notify notice) := by
  refine weathers_of_alike (fun _ _ _ h => ⟨rfl, h.store, h.ready, ?_⟩)
    fun _ _ _ => ⟨rfl, rfl, rfl, ?_⟩
  · have hnotices := h.notices
    simpa [notify, hnotice] using hnotices
  · simp [notify, warningsOf, hnotice]

theorem weathers_get {next : Run → Operation α}
    (hsame : ∀ run other, other.store = run.store → other.ready = run.ready → next other = next run)
    (h : ∀ run, Weathers (next run)) : Weathers (get >>= next) := by
  intro context run left result hconfig hop hbegun
  rw [perform_bind, perform_get] at hop
  refine (h run context run left result hconfig hop hbegun).mono ?_
  intro other ended hother hdone
  rw [perform_bind, perform_get]
  dsimp only
  rw [hsame run other hother.store hother.ready]
  exact hdone

theorem weathers_look {next : Store → Bool → Operation α}
    (h : ∀ store ready, Weathers (next store ready)) :
    Weathers (get >>= fun run => next run.store run.ready) := by
  refine weathers_get (fun run other hstore hready => ?_) fun run => h run.store run.ready
  rw [hstore, hready]

theorem Weathers.bind {op : Operation α} {next : α → Operation β} (h : Weathers op)
    (hnext : ∀ a, Weathers (next a)) : Weathers (op >>= next) := by
  intro context run left result hconfig hop hbegun
  rw [perform_bind] at hop
  cases hfirst : perform op context run with
  | mk outcome middle =>
  rw [hfirst] at hop
  cases outcome with
  | error failure =>
    obtain ⟨rfl, rfl⟩ := Prod.mk.inj hop
    refine (h context run middle _ hconfig hfirst fun other hother => ?_).mono ?_
    · cases hother
      exact hbegun _ rfl
    · intro other ended _ hdone
      rw [perform_bind, hdone]
  | ok a =>
    have hwent := h context run middle (.ok a) hconfig hfirst fun _ hfailed => nomatch hfailed
    refine (hwent.trans
      (hnext a context middle left result hconfig hop hbegun)).mono ?_
    rintro other ended - ⟨reached, hdone, hrest⟩
    rw [perform_bind, hdone]
    exact hrest

theorem Weathers.outcome_bind {body : Operation α} {next : Except Failure α → Operation β}
    (h : Weathers body) (hnext : ∀ result, Weathers (next result))
    (hpass : ∀ failure context run,
      (perform (next (.error failure)) context run).1 = .error failure) :
    Weathers (outcome body >>= next) := by
  intro context run left result hconfig hop hbegun
  rw [perform_bind, perform_outcome] at hop
  cases hbody : perform body context run with
  | mk first middle =>
  rw [hbody] at hop
  have hbegunFirst : ∀ failure, first = .error failure → failure.couldNotBegin = false := by
    rintro failure rfl
    exact hbegun failure ((congrArg Prod.fst hop).symm.trans (hpass failure context middle))
  refine ((h context run middle first hconfig hbody hbegunFirst).trans
    (hnext first context middle left result hconfig hop hbegun)).mono ?_
  rintro other ended - ⟨reached, hdone, hrest⟩
  rw [perform_bind, perform_outcome, hdone]
  exact hrest

/-- Whether a statement is carried out, and what it does, depends on the store and on its own fault
alone. -/
theorem exists_carryOut (s : Statement α) (store : Store) (fault : Option EngineError) :
    ∃ answer kept, ∀ context run, run.store = store → run.faults.head?.join = fault →
      perform (carryOut s) context run =
        (.ok answer, { run with store := kept, faults := run.faults.tail }) := by
  cases fault with
  | some cause =>
    refine ⟨.error cause, store, fun context run hstore hfault => ?_⟩
    rw [perform_carryOut, hfault, ← hstore]
  | none =>
    cases hrun : s.run store with
    | ok result =>
      refine ⟨.ok result.1, result.2, fun context run hstore hfault => ?_⟩
      rw [perform_carryOut, hfault, hstore, hrun]
    | error cause =>
      refine ⟨.error cause, store, fun context run hstore hfault => ?_⟩
      rw [perform_carryOut, hfault, hstore, hrun, ← hstore]

theorem weathers_carryOut (s : Statement α) : Weathers (carryOut s) := by
  intro context run left result hconfig hop hbegun
  obtain ⟨answer, kept, hcarryOut⟩ := exists_carryOut s run.store run.faults.head?.join
  rw [hcarryOut context run rfl rfl] at hop
  obtain ⟨rfl, rfl⟩ := Prod.mk.inj hop
  refine ⟨[], nofun, ⟨rfl, rfl, rfl⟩, fun k rest hrest => ?_⟩
  obtain ⟨calm, hcalm, hhead, htail⟩ := hrest.exists_of_tail
  refine ⟨calm, by simpa using hcalm, fun other hother hfaults => ?_⟩
  subst hfaults
  exact ⟨_, hcarryOut context other hother.store hhead, ⟨rfl, hother.ready, hother.notices⟩, htail,
    rfl, rfl, rfl⟩

theorem weathers_statement (action : Action) (s : Statement α) : Weathers (statement action s) := by
  refine (weathers_carryOut s).bind fun answer => ?_
  cases answer with
  | ok a => exact weathers_pure a
  | error cause => exact weathers_throw _

theorem faults_of_busyAt {run : Run} {m k : Nat} (hfree : run.FreeAt m) (hbusy : run.BusyAt k) :
    ∃ cause : EngineError, run.faults[k]? = some (some cause) ∧ cause.isBusy := by
  obtain ⟨cause, hanswer, hcause⟩ := hbusy
  unfold Run.FreeAt at hfree
  unfold Run.lockAnswer at hfree hanswer
  split at hanswer
  · rename_i fault hfault
    cases hanswer
    exact ⟨cause, Option.join_eq_some_iff.1 hfault, hcause⟩
  · split at hfree
    · cases hfree
    · rw [hfree] at hanswer
      cases hanswer

theorem weathers_beginTransaction : Weathers beginTransaction := by
  intro context run left result hconfig hop hbegun
  obtain ⟨m, hm, hbusy, hfree⟩ | ⟨failure, hfailure, hresult⟩ := beginTransaction_cases run hconfig
  · rw [perform_beginTransaction_free hconfig hm hbusy hfree] at hop
    obtain ⟨rfl, rfl⟩ := Prod.mk.inj hop
    refine ⟨[m], by simpa using hm, Run.waited_afterPauses _ m _, fun k rest hrest => ?_⟩
    have hdrop : Relieved k (run.faults.drop m).tail rest := by simpa using hrest
    obtain ⟨calm, hcalm, hhead, htail⟩ := hdrop.exists_of_tail
    refine ⟨calm, ?_, fun other hother hfaults => ?_⟩
    · exact Relieved.leaveOutAll (fun k hk => faults_of_busyAt hfree (hbusy k hk)) hcalm
    · subst hfaults
      have hfirst : other.FreeAt 0 := by
        have hanswer : other.lockAnswer 0 = run.lockAnswer m := by
          unfold Run.lockAnswer
          rw [← List.head?_eq_getElem?, hhead, List.head?_drop, hother.store]
        exact hanswer.trans hfree
      have hbegins := perform_beginTransaction_free hconfig (Nat.zero_le _)
        (fun k hk => absurd hk (Nat.not_lt_zero k)) hfirst
      rw [Run.afterPauses_zero, List.drop_one] at hbegins
      have hpauses := run.alike_afterPauses context.config.retryBackoff m (run.faults.drop (m + 1))
      exact ⟨_, hbegins, hpauses.trans ⟨hother.store, hother.ready, hother.notices⟩, htail,
        rfl, rfl, rfl⟩
  · rw [hop] at hresult
    exact absurd hfailure (by rw [hbegun failure hresult]; exact Bool.false_ne_true)

theorem weathers_rollback (before : Store) (failure : Option Failure) :
    Weathers (rollback before failure) := by
  refine (weathers_carryOut _).bind fun undone => ?_
  cases undone with
  | ok _ => exact weathers_replace before
  | error cause => exact (weathers_notify rfl).bind fun _ => weathers_replace before

theorem weathers_commit (before : Store) : Weathers (commit before) := by
  refine (weathers_carryOut _).bind fun kept => ?_
  cases kept with
  | ok _ => exact weathers_pure ()
  | error cause => exact (weathers_replace before).bind fun _ => weathers_throw _

theorem weathers_transactionIf (keep : α → Bool) {body : Operation α} (h : Weathers body) :
    Weathers (transactionIf keep body) := by
  refine weathers_beginTransaction.bind fun _ => weathers_get (fun run other hstore _ => ?_) fun run => ?_
  · dsimp only
    rw [hstore]
  refine h.outcome_bind (fun result => ?_) ?_
  · cases result with
    | ok a =>
      dsimp only
      split
      · exact (weathers_commit run.store).bind fun _ => weathers_pure a
      · exact (weathers_rollback run.store none).bind fun _ => weathers_pure a
    | error failure =>
      exact (weathers_rollback run.store (some failure)).bind fun _ => weathers_throw failure
  · intro failure context later
    obtain ⟨left, hrollback, -⟩ := perform_rollback run.store (some failure) context later
    dsimp only
    rw [perform_bind, hrollback]
    rfl

theorem Composed.weathers {P : Failure → Prop} {op : Operation α} (h : Composed P op) :
    Weathers op := by
  induction h with
  | pure a => exact weathers_pure a
  | throw _ => exact weathers_throw _
  | read => exact weathers_read
  | look _ _ ih => exact weathers_look ih
  | noteReady => exact weathers_noteReady
  | notify h => exact weathers_notify h
  | statement action s => exact weathers_statement action s
  | bind _ _ ih ihnext => exact ih.bind ihnext
  | transactionIf keep _ ih => exact weathers_transactionIf keep ih

theorem perform_transactionIf_of_begin {keep : α → Bool} {body : Operation α} {context : Context}
    {run left : Run} {failure : Failure}
    (h : perform beginTransaction context run = (.error failure, left)) :
    perform (transactionIf keep body) context run = (.error failure, left) := by
  unfold transactionIf
  rw [perform_bind, h]

end Operation

def Attempt.meeting (attempt : Attempt) (faults : List (Option EngineError)) : Attempt :=
  { attempt with run := { attempt.run with faults } }

/-- The pauses of contention keep to a schedule, and nothing else comes of it. With `n` retries and a
first pause of `b`, each pause after that is twice as long as the one before it, at most two seconds,
and the machine keeps every one of them exactly. A transaction that is told `m ≤ n` times that the store
is busy makes these pauses, with a warning before each of them, and begins at the next attempt; one that
is told so more often gives up after `n + 1` attempts and `n` pauses and leaves the store as it was. A
call that does not fail at this ends as it does when the answers of a busy store are left out from what
it meets; one that does changes no row. -/
theorem lock_retries_keep_to_the_schedule (context : Context) (hconfig : context.config.Admitted)
    {n b : Nat} (hn : context.config.lockRetries = n) (hb : context.config.retryBackoff = b) :
    (∀ k, Operation.pauseAfter b (k + 1) = min (2 * Operation.pauseAfter b k) 2000 ∧
      Operation.pauseAfter b (k + 1) = min (b * 2 ^ (k + 1)) 2000 ∧
      (Operation.backoffAfter b k).milliseconds.toNat = Operation.pauseAfter b k ∧
      (Duration.narrowed (Operation.backoffAfter b k).milliseconds).toNat =
        Operation.pauseAfter b k ∧
      (Duration.doubled (Operation.backoffAfter b k).milliseconds).toNat =
        2 * Operation.pauseAfter b k ∧
      Operation.nextBackoff (Operation.backoffAfter b k) = Operation.backoffAfter b (k + 1)) ∧
    (∀ (run : Run) (m : Nat), m ≤ n → (∀ k < m, run.BusyAt k) → run.FreeAt m →
      Operation.perform .beginTransaction context run =
        (.ok (),
          { store := run.store
            ready := run.ready
            faults := run.faults.drop (m + 1)
            elapsed := run.elapsed + ((List.range m).map (Operation.pauseAfter b)).sum
            naps := ((List.range m).map (Operation.pauseAfter b)).reverse ++ run.naps
            notices := ((List.range m).map fun k =>
              Notice.databaseBusy (k + 1) (Operation.pauseAfter b k)).reverse ++ run.notices })) ∧
    (∀ run : Run, (∀ k ≤ n, run.BusyAt k) → ∃ failure left, failure.kind = .busy ∧
      left.store = run.store ∧ left.faults = run.faults.drop (n + 1) ∧
      left.naps = ((List.range n).map (Operation.pauseAfter b)).reverse ++ run.naps ∧
      left.notices = ((List.range n).map fun k =>
        Notice.databaseBusy (k + 1) (Operation.pauseAfter b k)).reverse ++ run.notices ∧
      Operation.perform .beginTransaction context run = (.error failure, left) ∧
      ∀ {α : Type} (keep : α → Bool) (body : Operation α),
        Operation.perform (.transactionIf keep body) context run = (.error failure, left)) ∧
    ∀ (attempt : Attempt) (store : Store), attempt.context = context →
      (∀ failure, attempt.answer store = .error failure → failure.couldNotBegin →
        (attempt.after store).tables.SameContent store.tables) ∧
      ((∀ failure, attempt.answer store = .error failure → failure.couldNotBegin = false) →
        ∃ waits calm, (∀ m ∈ waits, m ≤ n) ∧
          Run.Waited b waits { attempt.run with store } (attempt.perform store).2 ∧
          Relieved waits.sum attempt.run.faults calm ∧
          (attempt.meeting calm).answer store = attempt.answer store ∧
          (attempt.meeting calm).after store = attempt.after store ∧
          Run.Waited b [] { (attempt.meeting calm).run with store }
            ((attempt.meeting calm).perform store).2) := by
  subst hn hb
  have hfits := hconfig.retryBackoff
  refine ⟨fun k => ⟨rfl, Operation.pauseAfter_succ _ k, Operation.toNat_backoffAfter hfits k,
    Operation.toNat_narrowed_backoffAfter hfits k, ?_, Operation.nextBackoff_backoffAfter _ k⟩,
    ?_, ?_, ?_⟩
  · rw [Duration.toNat_doubled_milliseconds, Operation.toNat_backoffAfter hfits]
  · intro run m hm hbusy hfree
    exact Operation.perform_beginTransaction_free hconfig hm hbusy hfree
  · intro run hbusy
    obtain ⟨cause, -, hlocked⟩ := Operation.perform_beginTransaction_lockedOut hconfig hbusy
    refine ⟨_, _, ?_, ?_, ?_, ?_, ?_, hlocked,
      fun keep body => Operation.perform_transactionIf_of_begin hlocked⟩ <;> rfl
  · rintro attempt store rfl
    refine ⟨fun failure hfailure _ => ?_, fun hbegun => ?_⟩
    · exact (Attempt.settled_of_error hfailure).sameContent
    · have hweathers := attempt.call.composed_operation.weathers attempt.context
        { attempt.run with store } _ _ hconfig rfl hbegun
      obtain ⟨waits, hwaits, hwaited, hrelieved⟩ := hweathers
      obtain ⟨calm, hcalm, htwin⟩ := hrelieved 0 _ (.refl _)
      obtain ⟨ended, hdone, halike, -, hpassed⟩ :=
        htwin { (attempt.meeting calm).run with store } ⟨rfl, rfl, rfl⟩ rfl
      have hperform : (attempt.meeting calm).perform store = (attempt.answer store, ended) := hdone
      refine ⟨waits, calm, hwaits, hwaited, hcalm, ?_, ?_, ?_⟩
      · exact Attempt.answer_of_perform hperform
      · exact (Attempt.after_of_perform hperform).trans halike.store
      · rw [hperform]
        exact hpassed

/-- A message that is sent to a store whose lock another connection holds for two attempts. -/
def Attempt.contended : Attempt :=
  .atEpoch (.send "worker" "hello" none) (List.replicate 6 none ++ [some .locked, some .locked])

theorem third_attempt_takes_the_lock :
    Configuration.standard.Admitted ∧
      Operation.perform .beginTransaction Attempt.contended.context
          { store := {}, faults := [some .locked, some .locked] } =
        (.ok (),
          { store := {}, elapsed := 150, naps := [100, 50]
            notices := [.databaseBusy 2 100, .databaseBusy 1 50] }) ∧
      Attempt.contended.answer {} = .ok (.id 1) ∧
      ∃ waits calm, (∀ m ∈ waits, m ≤ 5) ∧
        Run.Waited 50 waits Attempt.contended.run (Attempt.contended.perform {}).2 ∧
        Relieved waits.sum Attempt.contended.run.faults calm ∧
        (Attempt.contended.meeting calm).answer {} = .ok (.id 1) :=
  have hadmitted : Configuration.standard.Admitted := ⟨by decide, by decide⟩
  have hanswer : Attempt.contended.answer {} = .ok (.id 1) := by decide +kernel
  have hbusy (k : Nat) (hk : k < 2) :
      Run.BusyAt { store := {}, faults := [some .locked, some .locked] } k := by
    obtain rfl | rfl : k = 0 ∨ k = 1 := by omega
    · exact ⟨.locked, rfl, rfl⟩
    · exact ⟨.locked, rfl, rfl⟩
  have hschedule := lock_retries_keep_to_the_schedule Attempt.contended.context hadmitted rfl rfl
  have hbegins := hschedule.2.1 _ 2 (by decide) hbusy rfl
  have hcalm := (hschedule.2.2.2 Attempt.contended {} rfl).2 fun failure hfailure => by
    rw [hanswer] at hfailure
    cases hfailure
  ⟨hadmitted, hbegins, hanswer,
    hcalm.imp fun waits ⟨calm, hwaits, hwaited, hrelieved, htwin, _⟩ =>
      ⟨calm, hwaits, hwaited, hrelieved, htwin.trans hanswer⟩⟩

end Switchboard
