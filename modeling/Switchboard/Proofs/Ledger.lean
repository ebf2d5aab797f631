import Switchboard.Proofs.Connection

namespace Switchboard

def Entry.plain {α : Type} (record : α) : Entry α := { record }

structure Ledger where
  /-- The ids given out, the newest first. -/
  minted : List Int := []
  last : Int := 0
  messages : List Message := []
  events : List Event := []
  registrations : List Registration := []
  tasks : List Task := []

/-- The tables hold the records of a ledger and nothing else. -/
structure Tables.Holds (tables : Tables) (ledger : Ledger) : Prop where
  minted : tables.minted = ledger.minted
  last : tables.lastId = ledger.last
  messages : tables.rows Message = ledger.messages.map Entry.plain
  events : tables.rows Event = ledger.events.map Entry.plain
  registrations : tables.rows Registration = ledger.registrations.map Entry.plain
  tasks : tables.rows Task = ledger.tasks.map Entry.plain

theorem Tables.holds_empty : ({} : Tables).Holds {} :=
  ⟨rfl, rfl, rfl, rfl, rfl, rfl⟩

theorem Tables.SameContent.holds {tables other : Tables} {ledger : Ledger}
    (h : tables.SameContent other) (hother : other.Holds ledger) : tables.Holds ledger :=
  ⟨h.minted.trans hother.minted, h.lastId.trans hother.last, h.messages.trans hother.messages,
    h.events.trans hother.events, h.agents.trans hother.registrations, h.tasks.trans hother.tasks⟩

theorem Tables.Holds.sameContent {tables other : Tables} {ledger : Ledger} (h : tables.Holds ledger)
    (hother : other.Holds ledger) : tables.SameContent other :=
  ⟨h.messages.trans hother.messages.symm, h.events.trans hother.events.symm,
    h.registrations.trans hother.registrations.symm, h.tasks.trans hother.tasks.symm,
    h.minted.trans hother.minted.symm, h.last.trans hother.last.symm⟩

/-- The ids of the records ascend, and none is beyond the last one given out. -/
structure Numbered {α : Type} [Row α] (last : Int) (records : List α) : Prop where
  bounded : ∀ r ∈ records, Row.id r ≤ last
  ascending : records.Pairwise fun a b => Row.id a < Row.id b

namespace Numbered

variable {α : Type} [Row α] {last : Int} {records : List α}

theorem nil (last : Int) : Numbered last ([] : List α) :=
  ⟨nofun, .nil⟩

theorem mono {later : Int} (h : Numbered last records) (hle : last ≤ later) :
    Numbered later records :=
  ⟨fun r hr => Int.le_trans (h.bounded r hr) hle, h.ascending⟩

theorem concat {r : α} (h : Numbered last records) (hr : Row.id r = last + 1) :
    Numbered (last + 1) (records ++ [r]) := by
  constructor
  · intro a ha
    obtain ha | ha := List.mem_append.1 ha
    · have := h.bounded a ha
      omega
    · obtain rfl := List.mem_singleton.1 ha
      omega
  · refine List.pairwise_append.2 ⟨h.ascending, List.pairwise_singleton _ _, ?_⟩
    intro a ha b hb
    obtain rfl := List.mem_singleton.1 hb
    have := h.bounded a ha
    omega

theorem map {f : α → α} (h : Numbered last records) (hf : ∀ r, Row.id (f r) = Row.id r) :
    Numbered last (records.map f) := by
  constructor
  · intro a ha
    obtain ⟨r, hr, rfl⟩ := List.mem_map.1 ha
    rw [hf]
    exact h.bounded r hr
  · refine List.pairwise_map.2 (h.ascending.imp ?_)
    intro a b hab
    rwa [hf, hf]

theorem eq_of_id {a b : α} (h : Numbered last records) (ha : a ∈ records) (hb : b ∈ records)
    (hid : Row.id a = Row.id b) : a = b :=
  Row.eq_of_ascending h.ascending ha hb hid

theorem filter (h : Numbered last records) (p : α → Bool) : Numbered last (records.filter p) :=
  ⟨fun r hr => h.bounded r (List.mem_filter.1 hr).1, h.ascending.filter p⟩

theorem filter_id {r : α} (h : Numbered last records) (hr : r ∈ records) :
    records.filter (Row.id · == Row.id r) = [r] := by
  have hascending := h.ascending
  clear h
  induction records with
  | nil => cases hr
  | cons a rest ih =>
    obtain ⟨hfirst, hrest⟩ := List.pairwise_cons.1 hascending
    obtain rfl | hr := List.mem_cons.1 hr
    · have hnone : rest.filter (Row.id · == Row.id r) = [] := by
        apply List.filter_eq_nil_iff.2
        intro b hb
        have := hfirst b hb
        simp only [beq_iff_eq]
        omega
      rw [List.filter_cons_of_pos (by simp), hnone]
    · have := hfirst r hr
      rw [List.filter_cons_of_neg (by simp only [beq_iff_eq]; omega)]
      exact ih hr hrest

theorem find?_id {r : α} (h : Numbered last records) (hr : r ∈ records) :
    records.find? (Row.id · == Row.id r) = some r := by
  rw [← List.head?_filter, h.filter_id hr, List.head?_cons]

end Numbered

namespace Ledger

structure Sound (ledger : Ledger) : Prop where
  messages : Numbered ledger.last ledger.messages
  events : Numbered ledger.last ledger.events
  registrations : Numbered ledger.last ledger.registrations
  tasks : Numbered ledger.last ledger.tasks

theorem sound_empty : ({} : Ledger).Sound := ⟨.nil 0, .nil 0, .nil 0, .nil 0⟩

def mint (ledger : Ledger) : Ledger :=
  { ledger with minted := (ledger.last + 1) :: ledger.minted, last := ledger.last + 1 }

theorem Sound.mint {ledger : Ledger} (h : ledger.Sound) : ledger.mint.Sound := by
  have hle : ledger.last ≤ ledger.last + 1 := by omega
  exact ⟨h.messages.mono hle, h.events.mono hle, h.registrations.mono hle, h.tasks.mono hle⟩

def addMessage (ledger : Ledger) (m : Message) : Ledger :=
  { ledger with messages := ledger.messages ++ [m] }

def addEvent (ledger : Ledger) (e : Event) : Ledger :=
  { ledger with events := ledger.events ++ [e] }

def addRegistration (ledger : Ledger) (r : Registration) : Ledger :=
  { ledger with registrations := ledger.registrations ++ [r] }

def addTask (ledger : Ledger) (t : Task) : Ledger :=
  { ledger with tasks := ledger.tasks ++ [t] }

theorem Sound.addMessage {ledger : Ledger} {m : Message} (h : ledger.Sound)
    (hid : m.id = ledger.last + 1) : (ledger.mint.addMessage m).Sound :=
  { h.mint with messages := h.messages.concat hid }

theorem Sound.addEvent {ledger : Ledger} {e : Event} (h : ledger.Sound)
    (hid : e.id = ledger.last + 1) : (ledger.mint.addEvent e).Sound :=
  { h.mint with events := h.events.concat hid }

theorem Sound.addRegistration {ledger : Ledger} {r : Registration} (h : ledger.Sound)
    (hid : r.id = ledger.last + 1) : (ledger.mint.addRegistration r).Sound :=
  { h.mint with registrations := h.registrations.concat hid }

theorem Sound.addTask {ledger : Ledger} {t : Task} (h : ledger.Sound)
    (hid : t.id = ledger.last + 1) : (ledger.mint.addTask t).Sound :=
  { h.mint with tasks := h.tasks.concat hid }

def changeMessages (ledger : Ledger) (p : Message → Bool) (f : Message → Message) : Ledger :=
  { ledger with messages := ledger.messages.map fun m => if p m then f m else m }

theorem changeMessages_of_none (ledger : Ledger) {p : Message → Bool} {f : Message → Message}
    (h : ∀ m ∈ ledger.messages, p m = false) : ledger.changeMessages p f = ledger := by
  unfold changeMessages
  rw [map_of_none h]

theorem Sound.changeMessages {ledger : Ledger} {p : Message → Bool} {f : Message → Message}
    (h : ledger.Sound) (hf : ∀ m, (f m).id = m.id) : (ledger.changeMessages p f).Sound := by
  refine { h with messages := h.messages.map fun m => ?_ }
  split
  · exact hf m
  · rfl

def changeTask (ledger : Ledger) (id : Int) (f : Task → Task) : Ledger :=
  { ledger with tasks := ledger.tasks.map fun t => if t.id == id then f t else t }

theorem Sound.changeTask {ledger : Ledger} {id : Int} {f : Task → Task} (h : ledger.Sound)
    (hf : ∀ t, (f t).id = t.id) : (ledger.changeTask id f).Sound := by
  refine { h with tasks := h.tasks.map fun t => ?_ }
  split
  · exact hf t
  · rfl

end Ledger

namespace Entry

variable {α : Type}

@[simp]
theorem record_plain (record : α) : (plain record).record = record := rfl

@[simp]
theorem change_plain (columns : List String) (f : α → α) (record : α) :
    (plain record).change columns f = plain (f record) := rfl

@[simp]
theorem map_record_plain (records : List α) : (records.map plain).map (·.record) = records := by
  rw [List.map_map]
  exact List.map_id records

theorem mapM_read_plain (columns : List (Column α)) (records : List α) :
    (records.map plain).mapM (read columns) = (.ok (records.map plain) : Except EngineError _) := by
  rw [mapM_eq_ok_iff, List.forall₂_same]
  intro e he
  obtain ⟨r, -, rfl⟩ := List.mem_map.1 he
  exact read_of_stray_eq_nil columns (plain r) rfl

end Entry

/-- Records of a type are a part of the ledger, kept by the table of that type. -/
class Recorded (α : Type) [Stored α] where
  records : Ledger → List α
  setRecords : List α → Ledger → Ledger
  rows_eq {tables : Tables} {ledger : Ledger} (h : tables.Holds ledger) :
    tables.rows α = (records ledger).map Entry.plain
  holds_setTable {tables : Tables} {ledger : Ledger} (h : tables.Holds ledger)
    {rows : Rows (Entry α)} {list : List α} (hrows : rows.list = list.map Entry.plain) :
    (Stored.setTable (.holding rows) tables : Tables).Holds (setRecords list ledger)
  sequence_setTable (table : Table (Entry α)) (tables : Tables) :
    (Stored.setTable table tables).sequence = tables.sequence
  start_setTable (table : Table (Entry α)) (tables : Tables) :
    (Stored.setTable table tables).start = tables.start
  numbered {ledger : Ledger} (h : ledger.Sound) : Numbered ledger.last (records ledger)
  records_mint (ledger : Ledger) : records ledger.mint = records ledger

instance : Recorded Message where
  records ledger := ledger.messages
  setRecords messages ledger := { ledger with messages }
  rows_eq h := h.messages
  holds_setTable h _ _ hrows := { h with messages := hrows }
  sequence_setTable _ _ := rfl
  start_setTable _ _ := rfl
  numbered h := h.messages
  records_mint _ := rfl

instance : Recorded Event where
  records ledger := ledger.events
  setRecords events ledger := { ledger with events }
  rows_eq h := h.events
  holds_setTable h _ _ hrows := { h with events := hrows }
  sequence_setTable _ _ := rfl
  start_setTable _ _ := rfl
  numbered h := h.events
  records_mint _ := rfl

instance : Recorded Registration where
  records ledger := ledger.registrations
  setRecords registrations ledger := { ledger with registrations }
  rows_eq h := h.registrations
  holds_setTable h _ _ hrows := { h with registrations := hrows }
  sequence_setTable _ _ := rfl
  start_setTable _ _ := rfl
  numbered h := h.registrations
  records_mint _ := rfl

instance : Recorded Task where
  records ledger := ledger.tasks
  setRecords tasks ledger := { ledger with tasks }
  rows_eq h := h.tasks
  holds_setTable h _ _ hrows := { h with tasks := hrows }
  sequence_setTable _ _ := rfl
  start_setTable _ _ := rfl
  numbered h := h.tasks
  records_mint _ := rfl

theorem Recorded.list_eq {α : Type} [Stored α] [Recorded α] {tables : Tables} {ledger : Ledger}
    {rows : Rows (Entry α)} (h : tables.Holds ledger)
    (htable : Stored.table tables = .holding rows) :
    rows.list = (Recorded.records ledger).map Entry.plain :=
  (Tables.rows_of_holding htable).symm.trans (Recorded.rows_eq h)

namespace Statement

variable {α : Type} [Stored α] [Recorded α] {store after : Store} {ledger : Ledger}

theorem mint_holds {id : Int} (h : store.tables.Holds ledger)
    (hmint : mint.run store = .ok (id, after)) :
    id = ledger.last + 1 ∧ after.tables.Holds ledger.mint := by
  obtain ⟨sequence, next, hsequence, hnext, rfl⟩ := mint_ok hmint
  have hlast : sequence.last = ledger.last := by simpa [Tables.lastId, hsequence] using h.last
  have hminted : sequence.minted = ledger.minted := by
    simpa [Tables.minted, hsequence] using h.minted
  unfold Sequence.next? at hnext
  split at hnext
  · cases hnext
    refine ⟨by rw [hlast], { h with minted := ?_, last := ?_ }⟩
    · simp [Tables.minted, Ledger.mint, hlast, hminted]
    · simp [Tables.lastId, Ledger.mint, hlast]
  · cases hnext

theorem insertEntry_holds {record : α} (h : store.tables.Holds ledger)
    (hnew : ∀ r ∈ (Recorded.records ledger : List α), Row.id r < Row.id record)
    (hinsert : (insertEntry (Entry.plain record)).run store = .ok ((), after)) :
    after.tables.Holds (Recorded.setRecords (Recorded.records ledger ++ [record]) ledger) := by
  obtain ⟨rows, placed, htable, hplaced, rfl⟩ := insertEntry_ok hinsert
  have hrows := Recorded.list_eq h htable
  have hnewest : ∀ e ∈ rows.list, Row.id e < Row.id (Entry.plain record) := by
    rw [hrows]
    intro e he
    obtain ⟨r, hr, rfl⟩ := List.mem_map.1 he
    exact hnew r hr
  have hlist := Rows.list_of_insert? hplaced
  rw [Rows.place_of_newest hnewest] at hlist
  apply Recorded.holds_setTable h
  rw [← Option.some.inj hlist, hrows, List.map_append]
  rfl

theorem insertEntry_minted {record : α} (hs : ledger.Sound) (h : store.tables.Holds ledger.mint)
    (hid : Row.id record = ledger.last + 1)
    (hinsert : (insertEntry (Entry.plain record)).run store = .ok ((), after)) :
    after.tables.Holds
      (Recorded.setRecords (Recorded.records ledger ++ [record]) ledger.mint) := by
  rw [← Recorded.records_mint ledger]
  refine insertEntry_holds h ?_ hinsert
  rw [Recorded.records_mint]
  intro r hr
  have := (Recorded.numbered hs).bounded r hr
  omega

theorem update_holds {p : Entry α → Bool} {q : α → Bool} {columns : List String} {f : α → α}
    {keepsId : ∀ a, Row.id (f a) = Row.id a} {count : Nat} (h : store.tables.Holds ledger)
    (hp : ∀ r, p (Entry.plain r) = q r)
    (hupdate : (update p columns f keepsId).run store = .ok (count, after)) :
    count = (Recorded.records ledger).countP q ∧
      after.tables.Holds (Recorded.setRecords
        ((Recorded.records ledger).map fun r => if q r then f r else r) ledger) := by
  obtain ⟨rows, changed, htable, rfl, hchanged, rfl⟩ := update_ok hupdate
  have hrows := Recorded.list_eq h htable
  constructor
  · rw [hrows, List.countP_map]
    exact List.countP_congr fun r _ => by simp [hp]
  · apply Recorded.holds_setTable h
    rw [hchanged, hrows, List.map_map, List.map_map]
    apply List.map_congr_left
    intro r _
    simp only [Function.comp_apply, hp]
    split <;> rfl

theorem select_holds {choose : List (Entry α) → List (Entry α)} {entries : List (Entry α)}
    {chosen : List α} (h : store.tables.Holds ledger)
    (hchoose : choose ((Recorded.records ledger).map Entry.plain) = chosen.map Entry.plain)
    (hselect : (select α choose).run store = .ok (entries, after)) :
    entries = chosen.map Entry.plain ∧ after = store := by
  obtain ⟨hread, rfl⟩ := select_ok hselect
  rw [Recorded.rows_eq h, hchoose, Entry.mapM_read_plain] at hread
  exact ⟨(Except.ok.inj hread).symm, rfl⟩

end Statement

namespace Operation

variable {context : Context} {run left : Run} {ledger : Ledger}

theorem connect_holds (h : run.store.tables.Holds ledger)
    (hconnect : perform connect context run = (.ok (), left)) : left.store.tables.Holds ledger :=
  (settles_connect.settled hconnect).sameContent.holds h

theorem transaction_holds {α : Type} {body : Operation α} {a : α}
    (h : run.store.tables.Holds ledger)
    (htransaction : perform (transaction body) context run = (.ok a, left)) :
    ∃ started done, started.store.tables.Holds ledger ∧
      perform body context started = (.ok a, done) ∧ left.store = done.store := by
  obtain ⟨started, done, hstarted, hbody, hleft⟩ := perform_transaction_ok htransaction
  rw [← hstarted] at h
  exact ⟨started, done, h, hbody, hleft⟩

theorem connect_transaction_holds {α β : Type} {body : Operation α} {next : α → Operation β}
    {b : β} (h : run.store.tables.Holds ledger)
    (hperform : perform (do
      connect
      let a ← transaction body
      next a) context run = (.ok b, left)) :
    ∃ a started done ended, started.store.tables.Holds ledger ∧
      perform body context started = (.ok a, done) ∧ ended.store = done.store ∧
      perform (next a) context ended = (.ok b, left) := by
  obtain ⟨_, connected, hconnect, h₁⟩ := perform_bind_ok.1 hperform
  obtain ⟨a, ended, htransaction, hnext⟩ := perform_bind_ok.1 h₁
  obtain ⟨started, done, hstarted, hbody, hended⟩ :=
    transaction_holds (connect_holds h hconnect) htransaction
  exact ⟨a, started, done, ended, hstarted, hbody, hended, hnext⟩

theorem mintId_holds {id : Int} (h : run.store.tables.Holds ledger)
    (hmint : perform mintId context run = (.ok id, left)) :
    id = ledger.last + 1 ∧ left.store.tables.Holds ledger.mint := by
  obtain ⟨store, hstore, rfl⟩ := perform_statement_ok hmint
  exact Statement.mint_holds h hstore

theorem insertNext_ok {α : Type} [Stored α] [Recorded α] {action : Action}
    {record : Int → Context → α} {id : Int} (hs : ledger.Sound) (h : run.store.tables.Holds ledger)
    (hid : ∀ id context, Row.id (record id context) = id)
    (hinsert : perform (do
      let id ← mintId
      let context ← read
      statement action (Statement.insert (record id context))
      pure id) context run = (.ok id, left)) :
    id = ledger.last + 1 ∧ left.store.tables.Holds (Recorded.setRecords
      (Recorded.records ledger ++ [record (ledger.last + 1) context]) ledger.mint) := by
  obtain ⟨_, minted, hmint, h₁⟩ := perform_bind_ok.1 hinsert
  obtain ⟨rfl, hminted⟩ := mintId_holds h hmint
  obtain ⟨_, _, hread, h₂⟩ := perform_bind_ok.1 h₁
  cases hread
  obtain ⟨_, inserted, hstatement, hpure⟩ := perform_bind_ok.1 h₂
  cases hpure
  obtain ⟨store, hstore, rfl⟩ := perform_statement_ok hstatement
  exact ⟨rfl, Statement.insertEntry_minted hs hminted (hid _ _) hstore⟩

end Operation

end Switchboard
