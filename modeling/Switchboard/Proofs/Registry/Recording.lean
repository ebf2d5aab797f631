import Switchboard.Proofs.Connection
import Switchboard.Registry

namespace Switchboard

theorem Rows.split_of_place {α : Type} [Row α] {row : α} {rows placed : List α}
    (h : place row rows = some placed) :
    ∃ before after, rows = before ++ after ∧ placed = before ++ row :: after := by
  induction rows generalizing placed with
  | nil =>
    cases h
    exact ⟨[], [], rfl, rfl⟩
  | cons a rest ih =>
    unfold place at h
    split at h
    · cases h
      exact ⟨[], a :: rest, rfl, rfl⟩
    · split at h
      · cases h
      · obtain ⟨tail, htail, rfl⟩ := Option.map_eq_some_iff.1 h
        obtain ⟨before, after, rfl, rfl⟩ := ih htail
        exact ⟨a :: before, after, rfl, rfl⟩

def Store.rowsOf (store : Store) (name : String) : List (Entry Registration) :=
  (store.tables.rows Registration).filter (·.record.name == name)

/-- The ids that are given out have passed those of the rows of a name. -/
def Store.Passed (store : Store) (name : String) : Prop :=
  ∀ e ∈ store.rowsOf name, e.record.id ≤ store.tables.lastId

namespace Registry

open Operation

variable {context : Context} {run left : Run} {name : String} {status : AgentStatus} {id : Int}
  {now : Timestamp} {before after : Store} {row : Entry Registration}

def statusRow (id : Int) (now : Timestamp) (name : String) (status : AgentStatus) (pid : Cell) :
    Entry Registration :=
  ({ record := { id, createdAt := now, name, pid := none, status } } : Entry Registration).put
    Registration.pidColumn pid

/-- From one store to the next, a row is added to the registry that gives a name a status. It takes
the next id and keeps the pid cell of the newest row of the name. The other rows stay as they are.
-/
structure Adds (name : String) (status : AgentStatus) (now : Timestamp) (before : Store)
    (row : Entry Registration) (after : Store) : Prop where
  pid : row.cell Registration.pidColumn = lastPid name (before.tables.rows Registration)
  plain : ∀ column, column ≠ Registration.pidColumn.name → row.stray? column = none
  name : row.record.name = name
  status : row.record.status = status
  createdAt : row.record.createdAt = now
  id : row.record.id = before.tables.lastId + 1
  lastId : after.tables.lastId = row.record.id
  rows : ∃ older newer, before.tables.rows Registration = older ++ newer ∧
    after.tables.rows Registration = older ++ row :: newer

theorem recordStatus_ok_cases
    (h : perform (recordStatus name status) context run = (.ok id, left)) :
    ∃ (connected : Store) (sequence next : Sequence) (rows placed : Rows (Entry Registration)),
      run.store.Settled connected ∧ connected.tables.sequence = some sequence ∧
      sequence.next? = some (id, next) ∧ connected.tables.agents = .holding rows ∧
      rows.insert? (statusRow id context.now name status (lastPid name rows.list)) = some placed ∧
      left.store = { connected with
        tables := { connected.tables with sequence := some next, agents := .holding placed } } := by
  obtain ⟨_, connected, hconnect, htransaction⟩ := perform_bind_ok.1 h
  obtain ⟨started, done, hstarted, hbody, hleft⟩ := perform_transaction_ok htransaction
  obtain ⟨minted, middle, hmint, h₁⟩ := perform_bind_ok.1 hbody
  obtain ⟨store, hstore, rfl⟩ := perform_statement_ok hmint
  obtain ⟨sequence, next, hsequence, hnext, rfl⟩ := Statement.mint_ok hstore
  obtain ⟨_, _, hread, h₂⟩ := perform_bind_ok.1 h₁
  cases hread
  obtain ⟨_, inserted, hinsert, hpure⟩ := perform_bind_ok.1 h₂
  cases hpure
  obtain ⟨store, hstore, rfl⟩ := perform_statement_ok hinsert
  obtain ⟨found, _, hget, hentry⟩ := Statement.run_bind_ok.1 hstore
  cases hget
  obtain ⟨rows, placed, hrows, hplaced, rfl⟩ := Statement.insertEntry_ok hentry
  rw [Tables.rows_of_holding hrows] at hplaced
  rw [hstarted] at hsequence hrows hleft
  exact ⟨connected.store, sequence, next, rows, placed, settles_connect.settled hconnect, hsequence,
    hnext, hrows, hplaced, hleft⟩

theorem statusRow_spec (id : Int) (now : Timestamp) (name : String) (status : AgentStatus)
    (pid : Cell) :
    let row := statusRow id now name status pid
    row.record.id = id ∧ row.record.name = name ∧ row.record.status = status ∧
      row.record.createdAt = now ∧ row.cell Registration.pidColumn = pid ∧
      ∀ column, column ≠ Registration.pidColumn.name → row.stray? column = none := by
  cases pid with
  | null | int n =>
    exact ⟨rfl, rfl, rfl, rfl, rfl, fun _ _ => rfl⟩
  | decimal | text =>
    refine ⟨rfl, rfl, rfl, rfl, rfl, fun column hcolumn => ?_⟩
    have hne : (column == Registration.pidColumn.name) = false := by simpa using hcolumn
    change List.lookup column [(Registration.pidColumn.name, _)] = none
    rw [List.lookup_cons, hne]
    rfl

theorem adds_of_recordStatus
    (h : perform (recordStatus name status) context run = (.ok id, left)) :
    ∃ row, Adds name status context.now run.store row left.store ∧ row.record.id = id := by
  obtain ⟨connected, sequence, next, rows, placed, hsettled, hsequence, hnext, hrows, hplaced,
    hleft⟩ := recordStatus_ok_cases h
  have hsame := hsettled.sameContent
  have hfound : run.store.tables.rows Registration = rows.list :=
    hsame.agents.symm.trans (Tables.rows_of_holding hrows)
  obtain ⟨hid, hname, hstatus, hnow, hpid, hplain⟩ :=
    statusRow_spec id context.now name status (lastPid name rows.list)
  obtain ⟨hlast, hnextLast⟩ : sequence.last + 1 = id ∧ next.last = id := by
    unfold Sequence.next? at hnext
    split at hnext
    · cases hnext
      exact ⟨rfl, rfl⟩
    · cases hnext
  have hlastId : run.store.tables.lastId = sequence.last := by
    rw [← hsame.lastId]
    simp [Tables.lastId, hsequence]
  refine ⟨_, ⟨?_, hplain, hname, hstatus, hnow, ?_, ?_, ?_⟩, hid⟩
  · rw [hpid, hfound]
  · rw [hid, hlastId, hlast]
  · rw [hid, hleft]
    exact hnextLast
  · obtain ⟨older, newer, hbefore, hafter⟩ := Rows.split_of_place (Rows.list_of_insert? hplaced)
    refine ⟨older, newer, hfound.trans hbefore, ?_⟩
    rw [hleft]
    exact hafter

namespace Adds

theorem rowsOf_eq (h : Adds name status now before row after) (hpassed : before.Passed name) :
    after.rowsOf name = before.rowsOf name ++ [row] := by
  obtain ⟨older, newer, hbefore, hafter⟩ := h.rows
  have hascending := after.tables.ascending Registration
  rw [hafter] at hascending
  have hnewer : newer.filter (·.record.name == name) = [] := by
    apply List.filter_eq_nil_iff.2
    intro e he hname
    -- A row of the name behind the new one would have an id that has been passed.
    have hlater := (List.pairwise_cons.1 (List.pairwise_append.1 hascending).2.1).1 e he
    have hearlier : e.record.id ≤ before.tables.lastId := by
      apply hpassed
      unfold Store.rowsOf
      rw [hbefore]
      exact List.mem_filter.2 ⟨List.mem_append_right _ he, hname⟩
    have hid := h.id
    change row.record.id < e.record.id at hlater
    omega
  unfold Store.rowsOf
  rw [hbefore, hafter, List.filter_append, List.filter_append, List.filter_cons, hnewer,
    List.append_nil, if_pos (by simp [h.name])]

theorem newest (h : Adds name status now before row after) (hpassed : before.Passed name) :
    newest? name (after.tables.rows Registration) = some row := by
  change (after.rowsOf name).getLast? = _
  rw [h.rowsOf_eq hpassed, List.getLast?_concat]

theorem passed (h : Adds name status now before row after) (hpassed : before.Passed name) :
    after.Passed name := by
  intro e he
  rw [h.rowsOf_eq hpassed] at he
  rw [h.lastId, h.id]
  obtain he | he := List.mem_append.1 he
  · have := hpassed e he
    omega
  · obtain rfl := List.mem_singleton.1 he
    exact Int.le_of_eq h.id

end Adds

end Registry

end Switchboard
