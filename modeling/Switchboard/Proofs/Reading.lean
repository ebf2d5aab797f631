import Switchboard.Proofs.Availability
import Switchboard.Proofs.Looking

namespace Switchboard

namespace Statement

variable {α β : Type} {ledger : Ledger} {s : Statement α} {a : α}

/-- The statement looks, and in a store that holds the ledger it finds this or fails. It finds it if no
table is missing. -/
structure Reads (s : Statement α) (ledger : Ledger) (a : α) : Prop where
  eq_of_ok {store after : Store} {b : α} (h : store.tables.Holds ledger)
    (hrun : s.run store = .ok (b, after)) : b = a ∧ after = store
  run_eq {store : Store} (h : store.tables.Holds ledger) (hhas : ∀ name, store.tables.has name)
    (hown : store.tables.Own) : s.run store = .ok (a, store)

theorem reads_pure (a : α) : (pure a : Statement α).Reads ledger a where
  eq_of_ok _ hrun := by
    cases hrun
    exact ⟨rfl, rfl⟩
  run_eq _ _ _ := rfl

theorem Reads.bind {next : α → Statement β} {b : β} (h : s.Reads ledger a)
    (hnext : (next a).Reads ledger b) : (s >>= next).Reads ledger b where
  eq_of_ok hholds hrun := by
    obtain ⟨found, middle, hs, hb⟩ := run_bind_ok.1 hrun
    obtain ⟨rfl, rfl⟩ := h.eq_of_ok hholds hs
    exact hnext.eq_of_ok hholds hb
  run_eq hholds hhas hown := by
    rw [run_bind_eq (h.run_eq hholds hhas hown)]
    exact hnext.run_eq hholds hhas hown

section Rows

variable [Stored α]

theorem reads_read (records : List α) :
    (read (records.map Entry.plain)).Reads ledger (records.map Entry.plain) := by
  rw [read, Entry.mapM_read_plain]
  exact reads_pure _

variable [Placed α] [Recorded α]

theorem reads_rows (needed : String) :
    (rows α needed).Reads ledger ((Recorded.records ledger : List α).map Entry.plain) where
  eq_of_ok hholds hrun := by
    obtain ⟨rfl, rfl⟩ := rows_ok hrun
    exact ⟨Recorded.rows_eq hholds, rfl⟩
  run_eq hholds hhas hown := run_rows needed hholds (hhas _) hown

theorem reads_select {choose : List (Entry α) → List (Entry α)} {chosen : List α}
    (hchoose : choose ((Recorded.records ledger).map Entry.plain) = chosen.map Entry.plain) :
    (select α choose).Reads ledger (chosen.map Entry.plain) := by
  apply (reads_rows _).bind
  rw [hchoose]
  exact reads_read chosen

end Rows

end Statement

open Operation

/-- The call connects, reads in one statement and works out its answer, in every store that holds the
ledger the same. -/
inductive Call.Tells (call : Call) (ledger : Ledger) : Answer → Prop where
  | intro {α β : Type} {action : Action} {s : Statement α} {next : α → Operation β} {f : β → Answer}
      {a : α} {b : β}
      (hcall : call.operation = f <$> (do
        Operation.connect
        let a ← statement action s
        next a))
      (hs : s.Reads ledger a)
      (hnext : ∀ context run, perform (next a) context run = (.ok b, run)) :
    call.Tells ledger (f b)

/-- Whoever makes the call is told this, if anything, and is told it where nothing stands in the
way. -/
def Store.Tells (store : Store) (call : Call) (answer : Answer) : Prop :=
  ∀ look : Attempt, look.call = call →
    (∀ told, look.answer store = .ok told → told = answer) ∧
      (look.run.Undisturbed store → look.answer store = .ok answer)

section Telling

variable {store : Store} {ledger : Ledger} {call : Call} {look : Attempt} {answer told : Answer}

theorem Attempt.told_eq (h : store.tables.Holds ledger) (hcall : look.call.Tells ledger answer)
    (htold : look.answer store = .ok told) : told = answer := by
  obtain ⟨hcall, hs, hnext⟩ := hcall
  obtain ⟨b, left, hperform, rfl⟩ := (answer_eq_ok hcall).1 htold
  obtain ⟨_, connected, hconnect, h₁⟩ := perform_bind_ok.1 hperform
  obtain ⟨a, found, hstatement, h₂⟩ := perform_bind_ok.1 h₁
  obtain ⟨after, hrun, rfl⟩ := perform_statement_ok hstatement
  obtain ⟨rfl, rfl⟩ := hs.eq_of_ok (connect_holds h hconnect) hrun
  rw [hnext] at h₂
  cases h₂
  rfl

theorem Attempt.answer_eq (h : store.tables.Holds ledger) (hown : store.tables.Own)
    (hcall : look.call.Tells ledger answer) (hlook : look.run.Undisturbed store) :
    look.answer store = .ok answer := by
  obtain @⟨_, _, action, s, _, _, a, _, hcall, hs, hnext⟩ := hcall
  let run : Run := { look.run with store }
  have hrun : run.Undisturbed run.store := hlook.found
  have hserves : run.connected.Serves ledger := hrun.serves h hown
  have hread : s.run run.connected.store = .ok (a, run.connected.store) :=
    hs.run_eq hserves.holds hserves.has hserves.own
  have hdone : Operation.perform (statement action s) look.context run.connected =
      (.ok a, run.connected) := perform_statement hrun.faults hread
  refine (answer_eq_ok hcall).2 ⟨_, run.connected, ?_, rfl⟩
  rw [perform_bind_eq (perform_connect hrun hown), perform_bind_eq hdone]
  exact hnext _ _

theorem Call.Tells.of_holds (hcall : call.Tells ledger answer) (h : store.tables.Holds ledger)
    (hown : store.tables.Own) : store.Tells call answer := by
  rintro look rfl
  exact ⟨fun told => Attempt.told_eq h hcall, Attempt.answer_eq h hown hcall⟩

end Telling

end Switchboard
