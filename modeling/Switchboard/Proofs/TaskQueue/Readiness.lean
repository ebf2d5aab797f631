import Switchboard.Proofs.TaskQueue.Lifecycle
import Switchboard.Proofs.TaskQueue.Runnable

namespace Switchboard

theorem Store.continues {store : Store} {ledger : Ledger} (hs : ledger.Sound)
    (h : store.tables.Holds ledger) (attempts : List Attempt) :
    ∃ last, last.Sound ∧ (store.after attempts).tables.Holds last ∧
      ledger.Continues (store.deeds attempts) last :=
  Store.history (fun deeds next => ledger.Continues deeds next) hs h
    (fun t ht => ⟨t, ht, .refl t⟩) (fun _ _ _ _ _ _ hs hc heffect => hc.step hs heffect) attempts

namespace Task

variable {ledger next : Ledger} {deeds : List Deed} {t u : Task}

theorem Follows.dependsOn_eq (h : u.Follows t deeds) : u.dependsOn = t.dependsOn :=
  congrArg (·.dependsOn) h.submitted

theorem IsReady.continues (h : t.IsReady ledger.tasks) (hcontinues : ledger.Continues deeds next)
    (hdependsOn : u.dependsOn = t.dependsOn) : u.IsReady next.tasks := by
  intro d hd
  rw [hdependsOn] at hd
  obtain ⟨v, hv, rfl, hcomplete⟩ := h d hd
  obtain ⟨w, hw, hfollows⟩ := hcontinues v hv
  refine ⟨w, hw, hfollows.id_eq, ?_⟩
  rw [hfollows.ended (.inl hcomplete)]
  exact hcomplete

end Task

theorem Life.pending_iff {id : Int} {deeds : List Deed} {progress : Progress}
    (h : Life id deeds progress) :
    progress.status = .pending ↔ ∀ d ∈ deeds, d.claims id = false := by
  cases h <;> simp [Deed.claims]

theorem Ledger.Lives.pending_iff {ledger : Ledger} {deeds : List Deed} {t : Task}
    (h : ledger.Lives deeds) (ht : t ∈ ledger.tasks) :
    t.status = .pending ↔ ∀ d ∈ deeds, d.claims t.id = false := by
  refine (h.life t ht).pending_iff.trans ⟨fun hclaims d hd => ?_, fun hclaims d hd => ?_⟩
  · cases hmoves : d.moves t.id with
    | false => exact (Bool.or_eq_false_iff.1 hmoves).1
    | true => exact hclaims d (List.mem_filter.2 ⟨hd, hmoves⟩)
  · exact hclaims d (List.mem_filter.1 hd).1

namespace Deed

def offers (id : Int) : Deed → Bool
  | ⟨.nextRunnable, _, .task (some t)⟩ => t.id == id
  | _ => false

def claimed? : Deed → Option Int
  | ⟨.claim _ id, _, _⟩ => some id
  | _ => none

theorem claimed?_of_claims {id : Int} {d : Deed} (h : d.claims id) : d.claimed? = some id := by
  unfold claims at h
  split at h
  · exact congrArg some (eq_of_beq h)
  · cases h

theorem of_offers {id : Int} {d : Deed} (h : d.offers id) :
    ∃ t : Task, d.call = .nextRunnable ∧ d.answer = .task (some t) ∧ t.id = id := by
  unfold offers at h
  split at h
  · exact ⟨_, rfl, rfl, eq_of_beq h⟩
  · cases h

/-- Every claim comes somewhere after an offer of the task that it claims. -/
def ClaimsFollowOffers (deeds : List Deed) : Prop :=
  ∀ i : Fin deeds.length, ∀ id ∈ deeds[i].claimed?, ∃ c ∈ deeds.take i, c.offers id

instance (deeds : List Deed) : Decidable (ClaimsFollowOffers deeds) :=
  inferInstanceAs (Decidable (∀ i : Fin deeds.length, ∀ id ∈ deeds[i].claimed?,
    ∃ c ∈ deeds.take i, c.offers id))

theorem ClaimsFollowOffers.exists_offer {deeds : List Deed} (h : ClaimsFollowOffers deeds)
    {id : Int} {d : Deed} (hd : d ∈ deeds) (hclaims : d.claims id) : ∃ c ∈ deeds, c.offers id := by
  obtain ⟨i, hi, rfl⟩ := List.mem_iff_getElem.1 hd
  obtain ⟨c, hc, hoffers⟩ := h ⟨i, hi⟩ id (claimed?_of_claims hclaims)
  exact ⟨c, List.mem_of_mem_take hc, hoffers⟩

end Deed

section Offers

variable {store : Store} {look : Attempt} {t : Task}

theorem Store.offer_lasts (h : store.tables = {}) (earlier : List Attempt)
    (hcall : look.call = .nextRunnable)
    (hanswer : look.answer (store.after earlier) = .ok (.task (some t))) (later : List Attempt) :
    let left := look.after (store.after earlier)
    ∃ ledger : Ledger, ledger.Sound ∧ (left.after later).tables.Holds ledger ∧
      ∃ u ∈ ledger.tasks, u.id = t.id ∧ u.dependsOn = t.dependsOn ∧ u.IsReady ledger.tasks ∧
        (u.status = .pending ↔ ∀ d ∈ left.deeds later, d.claims t.id = false) := by
  intro left
  obtain ⟨reached, hs, hreached, hlives⟩ := Store.lives_after h earlier
  obtain ⟨ht, hrunnable⟩ :=
    TaskQueue.isRunnable_of_offered (Attempt.offered_of_next hreached hcall hanswer).symm
  obtain ⟨last, hslast, hlast, hcontinues⟩ := Store.continues hs hreached (look :: later)
  obtain ⟨u, hu, hfollows⟩ := hcontinues t ht
  refine ⟨last, hslast, hlast, u, hu, hfollows.id_eq, hfollows.dependsOn_eq,
    hrunnable.ready.continues hcontinues hfollows.dependsOn_eq, ?_⟩
  -- Of the deeds of the whole run, only those after the offer can have claimed the task.
  obtain ⟨whole, -, hwhole, hlivesWhole⟩ := Store.lives_after h (earlier ++ look :: later)
  rw [Store.after_append] at hwhole
  have htasks : whole.tasks = last.tasks := hwhole.tasks_eq.symm.trans hlast.tasks_eq
  rw [hlivesWhole.pending_iff (htasks ▸ hu), hfollows.id_eq, Store.deeds_append, Store.deeds,
    Attempt.deed?_of_ok hanswer]
  have hbefore := (hlives.pending_iff ht).1 hrunnable.pending
  constructor
  · exact fun hclaims d hd => hclaims d (List.mem_append_right _ (List.mem_append_right _ hd))
  · intro hclaims d hd
    simp only [Option.toList_some, List.mem_append, List.mem_singleton] at hd
    obtain hd | rfl | hd := hd
    · exact hbefore d hd
    · rw [hcall]
      rfl
    · exact hclaims d hd

theorem Store.ready_of_claimed (h : store.tables = {}) {attempts : List Attempt}
    (hfollow : Deed.ClaimsFollowOffers (store.deeds attempts))
    (ht : t ∈ (store.after attempts).tasks) (hstatus : t.status ≠ .pending) :
    t.IsReady (store.after attempts).tasks := by
  obtain ⟨ledger, hs, hholds, hlives⟩ := Store.lives_after h attempts
  rw [hholds.tasks_eq] at ht ⊢
  have hclaimed : ∃ d ∈ store.deeds attempts, d.claims t.id := by
    have hnot := mt (hlives.pending_iff ht).2 hstatus
    simpa using hnot
  obtain ⟨d, hd, hclaims⟩ := hclaimed
  obtain ⟨c, hc, hoffers⟩ := hfollow.exists_offer hd hclaims
  obtain ⟨before, look, later, rfl, hdeed⟩ := Store.mem_deeds hc
  obtain ⟨hcall, hanswer⟩ := Attempt.deed?_eq_some hdeed
  obtain ⟨offered, hnext, htask, hoffered⟩ := Deed.of_offers hoffers
  rw [hnext] at hcall
  rw [htask] at hanswer
  obtain ⟨last, hslast, hlast, u, hu, hid, -, hready, -⟩ :=
    Store.offer_lasts h before hcall hanswer later
  have hsame : last.tasks = ledger.tasks := by
    rw [← hlast.tasks_eq, ← hholds.tasks_eq, Store.after_append]
    rfl
  rw [hsame] at hu hready
  obtain rfl := hs.tasks.eq_of_id hu ht (hid.trans hoffered)
  exact hready

end Offers

/-- However clients use a store that was empty: a task that was offered for dispatch is ready in every
later state, and a claim of it that nothing disturbs succeeds exactly if nobody has claimed it since.
If every claim comes somewhere after an offer of its task, then every task that has been claimed
depends on nothing, or on a complete task. -/
theorem offers_do_not_go_stale (store : Store) (h : store.tables = {}) (earlier : List Attempt) :
    let reached := store.after earlier
    (∀ (look : Attempt) (t : Task), look.call = .nextRunnable →
      look.answer reached = .ok (.task (some t)) →
      ∀ later : List Attempt,
        let left := look.after reached
        let found := left.after later
        (∃ u ∈ found.tasks, u.id = t.id ∧ u.dependsOn = t.dependsOn ∧ u.IsReady found.tasks) ∧
          ∀ (claim : Attempt) (dispatcher : String), claim.call = .claim dispatcher t.id →
            claim.run.Undisturbed found →
            ((∃ answer, claim.answer found = .ok answer) ↔
              ∀ d ∈ left.deeds later, d.claims t.id = false)) ∧
      (Deed.ClaimsFollowOffers (store.deeds earlier) →
        ∀ t ∈ reached.tasks, t.status ≠ .pending → t.IsReady reached.tasks) := by
  intro reached
  refine ⟨?_, fun hfollow t => Store.ready_of_claimed h hfollow⟩
  intro look t hcall hanswer later left found
  obtain ⟨ledger, hs, hholds, u, hu, hid, hdependsOn, hready, hpending⟩ :=
    Store.offer_lasts h earlier hcall hanswer later
  constructor
  · rw [hholds.tasks_eq]
    exact ⟨u, hu, hid, hdependsOn, hready⟩
  · intro claim dispatcher hclaim hrun
    rw [← hpending]
    constructor
    · rintro ⟨answer, hok⟩
      obtain ⟨v, hv, hvid, hvpending⟩ := Attempt.pending_of_claim hs hholds hclaim hok
      obtain rfl := hs.tasks.eq_of_id hu hv (hid.trans hvid.symm)
      exact hvpending
    · intro hupending
      have hown : found.tables.Own := by
        have hafter : found = store.after (earlier ++ look :: later) :=
          (store.after_append earlier (look :: later)).symm
        rw [hafter]
        exact Store.own_after h _
      exact ⟨.done, Attempt.claim_succeeds hholds hclaim hrun hown ⟨u, hu, hid, hupending⟩⟩

/-- A task that waits for another one is offered once that is complete, and claimed. -/
theorem offered_task_waits_for_its_claim :
    let earlier := [
      Attempt.atEpoch (.submit { submittedBy := "planner", taskType := "build" }) [],
      Attempt.atEpoch (.submit { submittedBy := "planner", taskType := "test", dependsOn := some 1 })
        [],
      Attempt.atEpoch .nextRunnable [], Attempt.atEpoch (.claim "first" 1) [],
      Attempt.atEpoch (.complete 1 none) []]
    let later := [Attempt.atEpoch (.submit { submittedBy := "planner", taskType := "build" }) []]
    let look := Attempt.atEpoch .nextRunnable []
    let claim := Attempt.atEpoch (.claim "second" 2) []
    let reached := ({} : Store).after earlier
    let left := look.after reached
    look.answer reached = .ok (.task (some (.queued 2 .epoch
        { submittedBy := "planner", taskType := "test", dependsOn := some 1 }))) ∧
      claim.run.Undisturbed (left.after later) ∧
      ((∃ answer, claim.answer (left.after later) = .ok answer) ↔
        ∀ d ∈ left.deeds later, d.claims 2 = false) ∧
      Deed.ClaimsFollowOffers (({} : Store).deeds earlier) ∧
      ∀ t ∈ reached.tasks, t.status ≠ .pending → t.IsReady reached.tasks := by
  intro earlier later look claim reached left
  have hanswer : look.answer reached = .ok (.task (some (.queued 2 .epoch
      { submittedBy := "planner", taskType := "test", dependsOn := some 1 }))) := by
    decide +kernel
  have hreached : reached.Available :=
    (Store.writing_tended.after {} earlier).available ⟨rfl, rfl, rfl, rfl, rfl⟩
  have hleft : Store.Tended reached left := Store.writing_tended.after reached [look]
  have hrun : claim.run.Undisturbed (left.after later) :=
    ⟨rfl, (Store.writing_tended.after left later).available (hleft.available hreached), nofun⟩
  have hfollow : Deed.ClaimsFollowOffers (({} : Store).deeds earlier) := by decide +kernel
  have hstable := offers_do_not_go_stale {} rfl earlier
  exact ⟨hanswer, hrun, (hstable.1 look _ rfl hanswer later).2 claim "second" rfl hrun, hfollow,
    hstable.2 hfollow⟩

end Switchboard
