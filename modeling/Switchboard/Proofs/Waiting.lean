import Switchboard.Proofs.Reception
import Switchboard.Proofs.Announcing

namespace Switchboard

open Operation

theorem Mailbox.elapsed_claimNext (name : String) (passes : Nat) :
    Stays (fun before after => before.elapsed ≤ after.elapsed) (claimNext name passes) := by
  have hR := Run.passing_elapsed
  have hnotify (notice : Notice) :
      Stays (fun before after => before.elapsed ≤ after.elapsed) (notify notice) :=
    fun _ run => Nat.le_refl run.elapsed
  induction passes with
  | zero => exact hR.stays_pure none
  | succ passes ih =>
    refine hR.stays_bind (hR.stays_transaction (hR.stays_claimOldest name)) fun attempt => ?_
    cases attempt with
    | claimed message => exact hR.stays_bind (hnotify _) fun _ => hR.stays_pure _
    | empty => exact hR.stays_pure none
    | lost id => exact hR.stays_bind (hnotify _) fun _ => ih

theorem Mailbox.elapsed_tryReceive (name : String) :
    Stays (fun before after => before.elapsed ≤ after.elapsed) (tryReceive name) := by
  have hR := Run.passing_elapsed
  refine hR.stays_bind (hR.stays_connect fun run => Nat.le_refl run.elapsed) fun _ => ?_
  exact hR.stays_bind (hR.stays_passes name) fun passes => elapsed_claimNext name passes

namespace Receive

variable {others : Others} {name : String} {context : Context} {limit : Option Nat}
  {made polls patience pollInterval elapsed milliseconds : Nat} {run : Run}

theorem nap?_pos {deadline : Nat} (hinterval : 0 < pollInterval)
    (h : nap? pollInterval elapsed (some deadline) = some milliseconds) :
    0 < milliseconds ∧ elapsed < deadline := by
  unfold nap? at h
  dsimp only at h
  split at h
  · cases h
  · cases h
    omega

theorem poll_goes_on {deadline : Nat} (hinterval : 0 < context.config.pollInterval)
    (h : (perform (poll others name (some deadline) made (polls + 1)) context run).1 =
      .ok .stillWaiting) :
    run.elapsed < deadline ∧ ∃ later : Run, run.elapsed < later.elapsed ∧
      (perform (poll others name (some deadline) (made + 1) polls) context later).1 =
        .ok .stillWaiting := by
  have htime := Mailbox.elapsed_tryReceive name context (afterOthers (others.beforePoll made) run)
  rw [perform_poll_succ] at h
  generalize perform (Mailbox.tryReceive name) context
    (afterOthers (others.beforePoll made) run) = received at htime h
  obtain ⟨failure | _ | m, left⟩ := received
  · cases h
  · have hlater : run.elapsed ≤ left.elapsed := htime
    dsimp only at h
    cases hnap : nap? context.config.pollInterval left.elapsed (some deadline) with
    | none =>
      rw [hnap] at h
      cases h
    | some milliseconds =>
      rw [hnap] at h
      obtain ⟨hpos, hbefore⟩ := nap?_pos hinterval hnap
      have hrested : (rested milliseconds left).elapsed = left.elapsed + milliseconds := rfl
      exact ⟨by omega, rested milliseconds left, by omega, h⟩
  · cases h

theorem poll_ends {deadline : Nat} (hinterval : 0 < context.config.pollInterval)
    (henough : deadline ≤ run.elapsed + polls) :
    (perform (poll others name (some deadline) made (polls + 1)) context run).1 ≠
      .ok .stillWaiting := by
  intro h
  -- Every poll after which the wait goes on brings the deadline nearer by a millisecond or more.
  induction polls generalizing made run with
  | zero =>
    obtain ⟨hbefore, -⟩ := poll_goes_on hinterval h
    omega
  | succ polls ih =>
    obtain ⟨-, later, hlater, hrest⟩ := poll_goes_on hinterval h
    exact ih (by omega) hrest

/-- A wait that is not over when the polls for which it is watched have been made has no limit, or
one beyond the longest. -/
theorem limit_of_stillWaiting (hinterval : 0 < context.config.pollInterval)
    (h : (perform (receive others patience name limit) context run).1 = .ok .stillWaiting) :
    limit.filter (· ≤ longestLimit) = none := by
  rw [perform_receive] at h
  split at h
  · cases h
  rename_i shown _
  split at h
  rename_i received waited hwait
  split at h
  rename_i restored left _
  obtain ⟨reception, hreceived⟩ : ∃ reception, received = .ok reception := by
    cases received with
    | ok reception => exact ⟨reception, rfl⟩
    | error failure => cases h
  have hstill : reception = .stillWaiting := by
    rw [hreceived] at h
    cases restored with
    | ok _ => exact Except.ok.inj h
    | error failure => cases h
  rw [hreceived, hstill, wait, perform_bind, perform_get] at hwait
  dsimp only at hwait
  cases hend : limit.filter (· ≤ longestLimit) with
  | none => rfl
  | some milliseconds =>
    have hdeadline : deadline shown.elapsed limit = some (shown.elapsed + milliseconds) := by
      rw [deadline, hend]
      rfl
    rw [hdeadline, watched] at hwait
    exact absurd (congrArg Prod.fst hwait) (poll_ends hinterval (by omega))

end Receive

end Switchboard
