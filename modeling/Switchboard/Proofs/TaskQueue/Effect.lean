import Switchboard.Proofs.Ledger
import Switchboard.TaskQueue

namespace Switchboard

def Ledger.task? (ledger : Ledger) (id : Int) : Option Task :=
  ledger.tasks.find? (·.id == id)

theorem Ledger.task?_eq_some {ledger : Ledger} {id : Int} {t : Task} (hs : ledger.Sound) :
    ledger.task? id = some t ↔ t ∈ ledger.tasks ∧ t.id = id := by
  constructor
  · intro h
    exact ⟨List.mem_of_find?_eq_some h, by simpa using List.find?_some h⟩
  · rintro ⟨hmem, rfl⟩
    cases hfound : ledger.task? t.id with
    | none => simpa using List.find?_eq_none.1 hfound t hmem
    | some found =>
      have hid : found.id = t.id := by simpa using List.find?_some hfound
      rw [hs.tasks.eq_of_id (List.mem_of_find?_eq_some hfound) hmem hid]

theorem Ledger.task?_eq_none {ledger : Ledger} {id : Int} :
    ledger.task? id = none ↔ ∀ t ∈ ledger.tasks, t.id ≠ id := by
  simp [Ledger.task?]

theorem Ledger.find?_row (ledger : Ledger) (id : Int) :
    ((ledger.tasks.map Entry.plain).find? (·.record.id == id)).toList =
      (ledger.task? id).toList.map Entry.plain := by
  rw [List.find?_map, Option.toList_map]
  rfl

namespace TaskQueue

open Operation

variable {context : Context} {run left : Run} {ledger : Ledger} {id : Int}

theorem load_ok {found : Option Task} (h : run.store.tables.Holds ledger)
    (hload : perform (load id) context run = (.ok found, left)) :
    found = ledger.task? id ∧ left.store = run.store := by
  obtain ⟨entries, selected, hselect, h₁⟩ := perform_bind_ok.1 hload
  obtain ⟨store, hstore, rfl⟩ := perform_statement_ok hselect
  obtain ⟨rfl, rfl⟩ := Statement.select_holds h (ledger.find?_row id) hstore
  cases hfound : ledger.task? id with
  | none =>
    rw [hfound] at h₁
    cases h₁
    exact ⟨rfl, rfl⟩
  | some t =>
    rw [hfound] at h₁
    cases h₁
    exact ⟨rfl, rfl⟩

theorem enqueue_ok {new : NewTask} (hs : ledger.Sound) (h : run.store.tables.Holds ledger)
    (henqueue : perform (enqueue new) context run = (.ok id, left)) :
    (∀ d ∈ new.dependsOn, ∃ t ∈ ledger.tasks, t.id = d) ∧ id = ledger.last + 1 ∧
      left.store.tables.Holds
        (ledger.mint.addTask (.queued (ledger.last + 1) context.now new)) := by
  unfold enqueue at henqueue
  cases hdependsOn : new.dependsOn with
  | none =>
    rw [hdependsOn] at henqueue
    exact ⟨nofun, insertNext_ok hs h (fun _ _ => rfl) henqueue⟩
  | some dependency =>
    rw [hdependsOn] at henqueue
    obtain ⟨found, loaded, hload, h₁⟩ := perform_bind_ok.1 henqueue
    obtain ⟨rfl, hstore⟩ := load_ok h hload
    rw [← hstore] at h
    cases hfound : ledger.task? dependency with
    | none =>
      rw [hfound] at h₁
      cases h₁
    | some t =>
      rw [hfound] at h₁
      refine ⟨?_, insertNext_ok hs h (fun _ _ => rfl) h₁⟩
      rintro d ⟨⟩
      exact ⟨t, (Ledger.task?_eq_some hs).1 hfound⟩

theorem advance_ok {expected : TaskStatus} {columns : List String} {change : Task → Task}
    {keepsId : ∀ t, (change t).id = t.id} (hs : ledger.Sound) (h : run.store.tables.Holds ledger)
    (hadvance : perform (advance id expected columns change keepsId) context run =
      (.ok (), left)) :
    (∃ t ∈ ledger.tasks, t.id = id ∧ t.status = expected) ∧
      left.store.tables.Holds (ledger.changeTask id change) := by
  obtain ⟨count, updated, hupdate, h₁⟩ := perform_bind_ok.1 hadvance
  obtain ⟨store, hstore, rfl⟩ := perform_statement_ok hupdate
  obtain ⟨hcount, hupdated⟩ := Statement.update_holds h (q := fun t =>
    t.id == id && t.status == expected) (fun t => rfl) hstore
  split at h₁
  · obtain ⟨found, loaded, hload, h₂⟩ := perform_bind_ok.1 h₁
    cases found <;> cases h₂
  · rename_i hcounted
    cases h₁
    have hpositive : 0 < count := Nat.pos_of_ne_zero hcounted
    rw [hcount, List.countP_pos_iff] at hpositive
    obtain ⟨t, hmem, hpicked⟩ := hpositive
    obtain ⟨hid, hstatus⟩ : t.id = id ∧ t.status = expected := by simpa using hpicked
    have hpicks : ∀ u ∈ ledger.tasks, (u.id == id && u.status == expected) = (u.id == id) := by
      intro u hu
      by_cases huid : u.id = id
      · obtain rfl := hs.tasks.eq_of_id hu hmem (huid.trans hid.symm)
        simp [hstatus]
      · simp [huid]
    refine ⟨⟨t, hmem, hid, hstatus⟩, ?_⟩
    have hsame : ledger.changeTask id change = { ledger with
        tasks := ledger.tasks.map fun u =>
          if u.id == id && u.status == expected then change u else u } := by
      unfold Ledger.changeTask
      congr 1
      exact List.map_congr_left fun u hu => by rw [hpicks u hu]
    rw [hsame]
    exact hupdated

theorem submit_ok {new : NewTask} (hs : ledger.Sound) (h : run.store.tables.Holds ledger)
    (hsubmit : perform (submit new) context run = (.ok id, left)) :
    (∀ d ∈ new.dependsOn, ∃ t ∈ ledger.tasks, t.id = d) ∧ id = ledger.last + 1 ∧
      left.store.tables.Holds
        (ledger.mint.addTask (.queued (ledger.last + 1) context.now new)) := by
  obtain ⟨_, started, done, submitted, hstarted, hbody, hsubmitted, hreport⟩ :=
    connect_transaction_holds h hsubmit
  cases hreport
  obtain ⟨hdependsOn, rfl, hdone⟩ := enqueue_ok hs hstarted hbody
  exact ⟨hdependsOn, rfl, hsubmitted ▸ hdone⟩

/-- A move at the present time, as its own transaction, of which an observer is told. -/
theorem move_ok {expected : TaskStatus} {columns : List String}
    {change : Timestamp → Task → Task} {notice : Notice}
    (keepsId : ∀ now t, (change now t).id = t.id) (hs : ledger.Sound)
    (h : run.store.tables.Holds ledger)
    (hmove : perform (do
      connect
      let context ← read
      transaction (advance id expected columns (change context.now) (keepsId context.now))
      notify notice) context run = (.ok (), left)) :
    (∃ t ∈ ledger.tasks, t.id = id ∧ t.status = expected) ∧
      left.store.tables.Holds (ledger.changeTask id (change context.now)) := by
  obtain ⟨_, connected, hconnect, h₁⟩ := perform_bind_ok.1 hmove
  have hconnected := connect_holds h hconnect
  obtain ⟨_, _, hread, h₂⟩ := perform_bind_ok.1 h₁
  cases hread
  obtain ⟨_, moved, htransaction, h₃⟩ := perform_bind_ok.1 h₂
  cases h₃
  obtain ⟨started, done, hstarted, hbody, hmoved⟩ := transaction_holds hconnected htransaction
  obtain ⟨hfound, hdone⟩ := advance_ok hs hstarted hbody
  exact ⟨hfound, hmoved ▸ hdone⟩

theorem claim_ok {dispatcher : String} (hs : ledger.Sound) (h : run.store.tables.Holds ledger)
    (hclaim : perform (claim dispatcher id) context run = (.ok (), left)) :
    (∃ t ∈ ledger.tasks, t.id = id ∧ t.status = .pending) ∧ left.store.tables.Holds
      (ledger.changeTask id (Task.claimFor dispatcher context.now)) :=
  move_ok (fun _ _ => rfl) hs h hclaim

theorem complete_ok {output : Option String} (hs : ledger.Sound)
    (h : run.store.tables.Holds ledger)
    (hcomplete : perform (complete id output) context run = (.ok (), left)) :
    (∃ t ∈ ledger.tasks, t.id = id ∧ t.status = .running) ∧ left.store.tables.Holds
      (ledger.changeTask id (Task.completeWith output context.now)) :=
  move_ok (fun _ _ => rfl) hs h hcomplete

theorem fail_ok {error : Option String} (hs : ledger.Sound) (h : run.store.tables.Holds ledger)
    (hfail : perform (fail id error) context run = (.ok (), left)) :
    (∃ t ∈ ledger.tasks, t.id = id ∧ t.status = .running) ∧ left.store.tables.Holds
      (ledger.changeTask id (Task.failWith error context.now)) :=
  move_ok (fun _ _ => rfl) hs h hfail

theorem route_ok {agentFile model : String} (h : run.store.tables.Holds ledger)
    (hroute : perform (route id agentFile model) context run = (.ok (), left)) :
    (∃ t ∈ ledger.tasks, t.id = id) ∧
      left.store.tables.Holds (ledger.changeTask id (Task.routeTo agentFile model)) := by
  obtain ⟨_, connected, hconnect, htransaction⟩ := perform_bind_ok.1 hroute
  obtain ⟨started, done, hstarted, hbody, hrouted⟩ :=
    transaction_holds (connect_holds h hconnect) htransaction
  obtain ⟨count, updated, hupdate, h₁⟩ := perform_bind_ok.1 hbody
  obtain ⟨store, hstore, rfl⟩ := perform_statement_ok hupdate
  obtain ⟨hcount, hupdated⟩ := Statement.update_holds hstarted (q := fun t => t.id == id)
    (fun t => rfl) hstore
  split at h₁
  · cases h₁
  · rename_i hcounted
    cases h₁
    have hpositive : 0 < count := Nat.pos_of_ne_zero hcounted
    rw [hcount, List.countP_pos_iff] at hpositive
    obtain ⟨t, hmem, hpicked⟩ := hpositive
    exact ⟨⟨t, hmem, by simpa using hpicked⟩, hrouted ▸ hupdated⟩

end TaskQueue

end Switchboard
