import Switchboard.Proofs.Effect

namespace Switchboard

variable {store : Store} {ledger next : Ledger} {attempt : Attempt}

theorem Attempt.settled_of_error {failure : Failure} (h : attempt.answer store = .error failure) :
    store.Settled (attempt.after store) :=
  attempt.call.recovers_operation attempt.context { attempt.run with store } _ failure
    (Prod.ext h rfl)

theorem Attempt.effect (hs : ledger.Sound) (h : store.tables.Holds ledger) :
    (∃ answer next, attempt.answer store = .ok answer ∧
        (attempt.after store).tables.Holds next ∧
        Effect attempt.context.now ledger attempt.call answer next) ∨
      (∃ failure, attempt.answer store = .error failure) ∧
        (attempt.after store).tables.Holds ledger := by
  rcases hperform : attempt.perform store with ⟨failure | answer, left⟩
  · have hanswer : attempt.answer store = .error failure := Attempt.answer_of_perform hperform
    exact .inr ⟨⟨failure, hanswer⟩, (Attempt.settled_of_error hanswer).sameContent.holds h⟩
  · obtain ⟨next, hnext, heffect⟩ := Call.effect_of_ok hs h hperform
    rw [← Attempt.after_of_perform hperform] at hnext
    exact .inl ⟨answer, next, Attempt.answer_of_perform hperform, hnext, heffect⟩

theorem Attempt.effect_of_ok {answer : Answer} (hs : ledger.Sound) (h : store.tables.Holds ledger)
    (hanswer : attempt.answer store = .ok answer) :
    ∃ next, (attempt.after store).tables.Holds next ∧
      Effect attempt.context.now ledger attempt.call answer next := by
  obtain ⟨other, next, hok, hnext, heffect⟩ | ⟨⟨failure, hfailed⟩, -⟩ := attempt.effect hs h
  · obtain rfl := Except.ok.inj (hok.symm.trans hanswer)
    exact ⟨next, hnext, heffect⟩
  · cases hanswer.symm.trans hfailed

theorem Store.history (P : List Deed → Ledger → Prop) {deeds : List Deed} (hs : ledger.Sound)
    (h : store.tables.Holds ledger) (hP : P deeds ledger)
    (hstep : ∀ (deeds : List Deed) (ledger next : Ledger) (now : Timestamp) (call : Call)
      (answer : Answer), ledger.Sound → P deeds ledger → Effect now ledger call answer next →
      P (deeds ++ [⟨call, now, answer⟩]) next)
    (attempts : List Attempt) :
    ∃ last, last.Sound ∧ (store.after attempts).tables.Holds last ∧
      P (deeds ++ store.deeds attempts) last := by
  induction attempts generalizing store ledger deeds with
  | nil => exact ⟨ledger, hs, h, by simpa [Store.deeds] using hP⟩
  | cons attempt later ih =>
    rw [Store.after_cons, Store.deeds]
    obtain ⟨answer, next, hanswer, hnext, heffect⟩ | ⟨⟨failure, hanswer⟩, hsame⟩ :=
      attempt.effect hs h
    · rw [Attempt.deed?_of_ok hanswer, Option.toList_some, ← List.append_assoc]
      exact ih (heffect.sound hs) hnext (hstep _ _ _ _ _ _ hs hP heffect)
    · rw [Attempt.deed?_of_error hanswer, Option.toList_none, List.nil_append]
      exact ih hs hsame hP

theorem Store.invariant (P : Ledger → Prop) (hs : ledger.Sound) (h : store.tables.Holds ledger)
    (hP : P ledger)
    (hstep : ∀ (ledger next : Ledger) (now : Timestamp) (call : Call) (answer : Answer),
      ledger.Sound → P ledger → Effect now ledger call answer next → P next)
    (attempts : List Attempt) :
    ∃ last, last.Sound ∧ (store.after attempts).tables.Holds last ∧ P last :=
  @Store.history store ledger (fun _ => P) [] hs h hP (fun _ => hstep) attempts

/-- A store without tables holds the empty ledger, and nobody has done anything to it. -/
theorem Store.history_of_empty (P : List Deed → Ledger → Prop) (h : store.tables = {})
    (hP : P [] {})
    (hstep : ∀ (deeds : List Deed) (ledger next : Ledger) (now : Timestamp) (call : Call)
      (answer : Answer), ledger.Sound → P deeds ledger → Effect now ledger call answer next →
      P (deeds ++ [⟨call, now, answer⟩]) next)
    (attempts : List Attempt) :
    ∃ last, last.Sound ∧ (store.after attempts).tables.Holds last ∧
      P (store.deeds attempts) last :=
  Store.history P Ledger.sound_empty (h ▸ Tables.holds_empty) hP hstep attempts

theorem Store.holds_after (hs : ledger.Sound) (h : store.tables.Holds ledger)
    (attempts : List Attempt) :
    ∃ last : Ledger, last.Sound ∧ (store.after attempts).tables.Holds last := by
  obtain ⟨last, hsound, hholds, -⟩ := Store.invariant (fun _ => True) hs h trivial
    (fun _ _ _ _ _ _ _ _ => trivial) attempts
  exact ⟨last, hsound, hholds⟩

/-- A store that clients can reach from an empty one holds the rows of a ledger. -/
theorem Store.exists_ledger (h : store.tables = {}) (attempts : List Attempt) :
    ∃ ledger : Ledger, ledger.Sound ∧ (store.after attempts).tables.Holds ledger :=
  Store.holds_after Ledger.sound_empty (h ▸ Tables.holds_empty) attempts

end Switchboard
