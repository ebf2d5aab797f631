import Switchboard.Proofs.Availability
import Switchboard.Proofs.Registry.Effect
import Switchboard.Proofs.Registry.Recording

namespace Switchboard.Registry

open Operation

variable {context : Context} {run : Run} {ledger : Ledger} {name : String} {status : AgentStatus}

theorem append_succeeds {pid : List (Entry Registration) → Cell} (hs : ledger.Sound)
    (h : run.Serves ledger) (hleft : ledger.last < Sequence.maxId) :
    ∃ store, perform (append name pid status) context run =
      (.ok (ledger.last + 1), { run with store }) := by
  obtain ⟨minted, hmint, hserves⟩ := perform_mintId context h hleft
  let row := statusRow (ledger.last + 1) context.now name status (pid (minted.tables.rows _))
  have hid : Row.id row = ledger.last + 1 := (statusRow_spec _ _ _ _ _).1
  obtain ⟨store, hinsert⟩ : ∃ store, (Statement.insertEntry row).run minted = .ok ((), store) :=
    run_insertEntry_minted hs hserves hid
  have hget : (get : Statement Store).run minted = .ok (minted, minted) := rfl
  have hdone : perform (statement (.recordStatus status name) do
      let rows := (← get).tables.rows Registration
      Statement.insertEntry (statusRow (ledger.last + 1) context.now name status (pid rows)))
      context { run with store := minted } = (.ok (), { run with store }) :=
    perform_statement h.undisturbed.faults ((Statement.run_bind_eq hget).trans hinsert)
  unfold append
  rw [perform_bind_eq hmint, perform_bind_eq (perform_read _ _)]
  exact ⟨store, (perform_bind_eq hdone).trans rfl⟩

theorem recordStatus_succeeds (hs : ledger.Sound) (h : run.store.tables.Holds ledger)
    (hrun : run.Undisturbed run.store) (hown : run.store.tables.Own)
    (hleft : ledger.last < Sequence.maxId) :
    ∃ store, perform (recordStatus name status) context run =
        (.ok (ledger.last + 1), { run.connected with store }) ∧
      run.connected.store.Tended store := by
  obtain ⟨store, happend⟩ : ∃ store, perform (appendStatus name status) context run.connected =
      (.ok (ledger.last + 1), { run.connected with store }) :=
    append_succeeds hs (hrun.serves h hown) hleft
  have htended : run.connected.store.Tended
      (perform (appendStatus name status) context run.connected).2.store :=
    writes_append name (lastPid name) status _ Store.writing_tended context run.connected
  rw [happend] at htended
  refine ⟨store, ?_, htended⟩
  unfold recordStatus
  rw [perform_bind_eq (perform_connect hrun hown)]
  exact (hrun.serves h hown).transaction happend

/-- Agents are cleaned one after the other, as long as ids are left for their rows. -/
theorem appendAll_succeeds (context : Context) {names : List String} (hs : ledger.Sound) (h : run.Serves ledger)
    (hleft : ledger.last + names.length ≤ Sequence.maxId) :
    ∃ store, perform (names.forM fun name => discard (appendStatus name .cleaned)) context run =
      (.ok (), { run with store }) := by
  induction names generalizing run ledger with
  | nil => exact ⟨run.store, rfl⟩
  | cons name names ih =>
    rw [List.length_cons] at hleft
    obtain ⟨marked, hmark⟩ : ∃ store, perform (appendStatus name .cleaned) context run =
        (.ok (ledger.last + 1), { run with store }) := append_succeeds hs h (by omega)
    have htended : run.store.Tended
        (perform (appendStatus name .cleaned) context run).2.store :=
      writes_append name (lastPid name) .cleaned _ Store.writing_tended context run
    rw [hmark] at htended
    have hmarked := h.written htended (appendStatus_ok hs h.holds hmark).2
    have hrest : (ledger.recordStatus context.now .cleaned name).last + names.length ≤
        Sequence.maxId := by
      change ledger.last + 1 + _ ≤ _
      omega
    obtain ⟨store, hmarks⟩ := ih (hs.register _ _ _ _) hmarked hrest
    refine ⟨store, ?_⟩
    change perform (discard (appendStatus name .cleaned) >>= fun _ => names.forM _) context run = _
    rw [perform_bind, perform_discard, hmark]
    exact hmarks

theorem cleanup_succeeds {who : Option String} (hs : ledger.Sound)
    (h : run.store.tables.Holds ledger) (hrun : run.Undisturbed run.store)
    (hown : run.store.tables.Own)
    (hleft : ledger.last + (who.elim ledger.present fun name => [name]).length ≤ Sequence.maxId) :
    ∃ left, perform (cleanup who) context run =
      (.ok (who.elim ledger.present fun name => [name]), left) := by
  have hserves := hrun.serves h hown
  obtain ⟨store, hmarks⟩ := appendAll_succeeds context hs hserves hleft
  have hclean : perform (who.elim cleanAll cleanOne) context run.connected =
      (.ok (who.elim ledger.present fun name => [name]), { run.connected with store }) := by
    cases who with
    | none =>
      have hrows : perform (statement .listAgentsToClean (Statement.rows Registration "name"))
          context run.connected = (.ok (ledger.registrations.map Entry.plain), run.connected) :=
        perform_statement hserves.undisturbed.faults
          (Statement.run_rows "name" hserves.holds (hserves.has _) hserves.own)
      exact perform_bind_ok.2 ⟨_, _, hrows, perform_bind_ok.2 ⟨_, _, hmarks, rfl⟩⟩
    | some name =>
      obtain ⟨⟨⟩, _, hmark, hdone⟩ := perform_bind_ok.1 hmarks
      cases hdone
      exact perform_bind_ok.2 ⟨_, _, hmark, rfl⟩
  unfold cleanup
  rw [perform_bind_eq (perform_connect hrun hown), perform_bind_eq (hserves.transaction hclean)]
  exact ⟨_, rfl⟩

end Switchboard.Registry
