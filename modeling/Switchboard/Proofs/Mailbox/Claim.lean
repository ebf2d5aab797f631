import Switchboard.Mailbox
import Switchboard.Proofs.Connection

namespace Switchboard

namespace Column

variable {α : Type} [Row α] {name : String}

/-- Reading a stray cell of the column leaves the id of the record alone. -/
def KeepsId (column : Column α) : Prop :=
  ∀ cell a b, column.read cell a = .ok b → Row.id b = Row.id a

theorem keepsId_text (get : α → String) (put : String → α → α) : (text name get put).KeepsId := by
  intro cell a b hread
  cases hread
  rfl

theorem keepsId_optionalText (get : α → Option String) (put : Option String → α → α) :
    (optionalText name get put).KeepsId := by
  intro cell a b hread
  cases hread
  rfl

theorem keepsId_of_readTime {column : Column α} {put : Timestamp → α → α}
    (hread : ∀ cell a, column.read cell a = (readTime cell).map fun t => put t a)
    (h : ∀ t a, Row.id (put t a) = Row.id a) : column.KeepsId := by
  intro cell a b hb
  rw [hread] at hb
  cases hcell : readTime cell with
  | ok t =>
    rw [hcell] at hb
    cases hb
    exact h t a
  | error flaw =>
    rw [hcell] at hb
    cases hb

theorem keepsId_flag (get : α → Bool) {put : Bool → α → α}
    (h : ∀ t a, Row.id (put t a) = Row.id a) : (flag name get put).KeepsId := by
  intro cell a b hread
  cases cell with
  | int n =>
    cases hread
    exact h _ a
  | _ => cases hread

end Column

namespace Entry

variable {α : Type} [Row α]

theorem id_of_readColumn {column : Column α} {e found : Entry α} (h : column.KeepsId)
    (hread : e.readColumn column = .ok found) : Row.id found = Row.id e := by
  unfold readColumn at hread
  split at hread
  · cases hread
    rfl
  · split at hread
    · cases hread
      rfl
    · split at hread
      · rename_i record hrecord
        cases hread
        exact h _ _ _ hrecord
      · cases hread

theorem id_of_read {columns : List (Column α)} {e found : Entry α}
    (h : ∀ column ∈ columns, column.KeepsId) (hread : e.read columns = .ok found) :
    Row.id found = Row.id e := by
  induction columns generalizing e with
  | nil =>
    cases hread
    rfl
  | cons column rest ih =>
    obtain ⟨hcolumn, hrest⟩ := List.forall_mem_cons.1 h
    rw [read, List.foldlM_cons] at hread
    cases hfirst : e.readColumn column with
    | error cause =>
      rw [hfirst] at hread
      cases hread
    | ok next =>
      rw [hfirst] at hread
      exact (ih hrest hread).trans (id_of_readColumn hcolumn hfirst)

end Entry

theorem Message.columns_keepId : ∀ column ∈ Message.columns, column.KeepsId := by
  simp only [columns, List.forall_mem_cons]
  exact ⟨Column.keepsId_of_readTime (fun _ _ => rfl) fun _ _ => rfl,
    Column.keepsId_optionalText _ _, Column.keepsId_text _ _, Column.keepsId_text _ _,
    Column.keepsId_flag _ fun _ _ => rfl, Column.keepsId_optionalText _ _,
    Column.keepsId_of_readTime (fun _ _ => rfl) fun _ _ => rfl, nofun⟩

namespace Mailbox

open Operation

variable {context : Context} {run left : Run} {name : String} {failure : Failure}

/-- From some rows to the next a message is claimed: it is what the first row that waits says, and
that row is the only one to change. -/
structure Claims (name : String) (now : Timestamp) (before : List (Entry Message)) (m : Message)
    (after : List (Entry Message)) : Prop where
  first : ∃ oldest rest found, waiting name before = oldest :: rest ∧
    oldest.read Message.columns = .ok found ∧ m = found.record.claimFor name now
  rows : after = before.map fun e =>
    if e.record.id = m.id then e.change claimColumns (Message.claimFor name now) else e

theorem id_of_read {e found : Entry Message} (h : e.read Message.columns = .ok found) :
    found.record.id = e.record.id :=
  Entry.id_of_read Message.columns_keepId h

theorem selectOldest_ok {entries : List (Entry Message)} {store after : Store}
    (h : (Statement.select Message fun rows => (waiting name rows).take 1).run store =
      .ok (entries, after)) :
    after = store ∧
      (entries = [] ∧ waiting name (store.tables.rows Message) = [] ∨
        ∃ oldest rest found, waiting name (store.tables.rows Message) = oldest :: rest ∧
          oldest.read Message.columns = .ok found ∧ entries = [found]) := by
  obtain ⟨hread, rfl⟩ := Statement.select_ok h
  refine ⟨rfl, ?_⟩
  cases hwaiting : waiting name (after.tables.rows Message) with
  | nil =>
    rw [hwaiting] at hread
    cases hread
    exact .inl ⟨rfl, rfl⟩
  | cons oldest rest =>
    have holdest := mapM_eq_ok_iff.1 hread
    rw [hwaiting, List.take_one, List.head?_cons, Option.toList_some,
      List.forall₂_cons_left_iff] at holdest
    obtain ⟨found, others, hfound, hothers, rfl⟩ := holdest
    obtain rfl := List.forall₂_nil_left_iff.1 hothers
    exact .inr ⟨oldest, rest, found, rfl, hfound, rfl⟩

theorem mem_of_waiting {rows rest : List (Entry Message)} {oldest : Entry Message}
    (h : waiting name rows = oldest :: rest) : oldest ∈ rows ∧ oldest.waitsFor name :=
  List.mem_filter.1 (h ▸ List.mem_cons_self : oldest ∈ waiting name rows)

theorem isUnclaimed_of_waitsFor {e : Entry Message} (h : e.waitsFor name) : e.isUnclaimed := by
  simp only [Entry.waitsFor, Message.waitsFor, Bool.and_eq_true] at h
  simp [Entry.isUnclaimed, h.1, h.2.2]

/-- The first row that waits is the only one with its id, so that the guard against other claims
lets it through. -/
theorem picks_oldest {tables : Tables} {oldest : Entry Message} {rest : List (Entry Message)}
    (h : waiting name (tables.rows Message) = oldest :: rest) (e : Entry Message)
    (he : e ∈ tables.rows Message) :
    (e.record.id == oldest.record.id && e.isUnclaimed) = (e.record.id == oldest.record.id) := by
  obtain ⟨hmem, hwaits⟩ := mem_of_waiting h
  by_cases hid : e.record.id = oldest.record.id
  · obtain rfl : e = oldest := Row.eq_of_ascending (tables.ascending Message) he hmem hid
    simp [isUnclaimed_of_waitsFor hwaits]
  · simp [hid]

theorem claimOldest_cases {attempt : ClaimAttempt}
    (h : perform (claimOldest name) context run = (.ok attempt, left)) :
    (attempt = .empty ∧ waiting name (run.store.tables.rows Message) = [] ∧
        left.store = run.store) ∨
      ∃ (m : Message) (claimed : Rows (Entry Message)), attempt = .claimed m ∧
        Claims name context.now (run.store.tables.rows Message) m claimed.list ∧
        left.store = { run.store with
          tables := { run.store.tables with messages := .holding claimed } } := by
  obtain ⟨entries, selected, hselect, h₁⟩ := perform_bind_ok.1 h
  obtain ⟨store, hstore, rfl⟩ := perform_statement_ok hselect
  obtain ⟨rfl, hfound⟩ := selectOldest_ok hstore
  obtain ⟨rfl, hwaiting⟩ | ⟨oldest, rest, found, hwaiting, hread, rfl⟩ := hfound
  · cases h₁
    exact .inl ⟨rfl, hwaiting, rfl⟩
  · have hid := id_of_read hread
    obtain ⟨_, _, hnow, h₂⟩ := perform_bind_ok.1 h₁
    cases hnow
    obtain ⟨count, updated, hupdate, h₃⟩ := perform_bind_ok.1 h₂
    obtain ⟨store, hstore, rfl⟩ := perform_statement_ok hupdate
    obtain ⟨rows, claimed, htable, rfl, hclaimed, rfl⟩ := Statement.update_ok hstore
    have hrows := Tables.rows_of_holding htable
    have hpicks := picks_oldest hwaiting
    rw [hrows] at hwaiting hpicks
    simp only [hid] at h₃ hclaimed
    obtain ⟨hmem, hwaits⟩ := mem_of_waiting hwaiting
    have hpositive : 0 < rows.list.countP fun e =>
        e.record.id == oldest.record.id && e.isUnclaimed := by
      rw [List.countP_pos_iff]
      exact ⟨oldest, hmem, by simp [isUnclaimed_of_waitsFor hwaits]⟩
    rw [if_neg (Nat.ne_of_gt hpositive)] at h₃
    cases h₃
    refine .inr ⟨_, claimed, rfl, ⟨⟨oldest, rest, found, hrows ▸ hwaiting, hread, rfl⟩, ?_⟩, rfl⟩
    rw [hclaimed, hrows]
    apply List.map_congr_left
    intro e he
    rw [hpicks e he]
    simp [Message.claimFor, hid]

theorem claimTransaction_cases {attempt : ClaimAttempt}
    (h : perform (transaction (claimOldest name)) context run = (.ok attempt, left)) :
    (attempt = .empty ∧ waiting name (run.store.tables.rows Message) = [] ∧
        left.store = run.store) ∨
      ∃ (m : Message) (claimed : Rows (Entry Message)), attempt = .claimed m ∧
        Claims name context.now (run.store.tables.rows Message) m claimed.list ∧
        left.store = { run.store with
          tables := { run.store.tables with messages := .holding claimed } } := by
  obtain ⟨started, done, hstarted, hbody, hleft⟩ := perform_transaction_ok h
  rw [hleft, ← hstarted]
  exact claimOldest_cases hbody

theorem tryReceive_cases {message : Option Message}
    (h : perform (tryReceive name) context run = (.ok message, left)) :
    ∃ connected, run.store.Settled connected ∧
      (message = none ∧ waiting name (run.store.tables.rows Message) = [] ∧
          left.store = connected ∨
        ∃ (m : Message) (claimed : Rows (Entry Message)), message = some m ∧
          Claims name context.now (run.store.tables.rows Message) m claimed.list ∧
          left.store = { connected with
            tables := { connected.tables with messages := .holding claimed } }) := by
  obtain ⟨_, connected, hconnect, h₁⟩ := perform_bind_ok.1 h
  have hsettled := settles_connect.settled hconnect
  obtain ⟨_, _, hpasses, h₂⟩ := perform_bind_ok.1 h₁
  cases hpasses
  obtain ⟨attempt, ended, htransaction, h₃⟩ := perform_bind_ok.1 h₂
  rw [← hsettled.sameContent.messages]
  refine ⟨connected.store, hsettled, ?_⟩
  obtain ⟨rfl, hwaiting, hended⟩ | ⟨m, claimed, rfl, hclaims, hended⟩ :=
    claimTransaction_cases htransaction
  · cases h₃
    exact .inl ⟨rfl, hwaiting, hended⟩
  · cases h₃
    exact .inr ⟨m, claimed, rfl, hclaims, hended⟩

theorem tryReceive_error
    (h : perform (tryReceive name) context run = (.error failure, left)) :
    run.store.Settled left.store := by
  obtain hconnect | ⟨_, connected, hconnect, h₁⟩ := perform_bind_error.1 h
  · exact settles_connect.settled hconnect
  refine (settles_connect.settled hconnect).trans (.inl ?_)
  obtain hpasses | ⟨_, _, hpasses, h₂⟩ := perform_bind_error.1 h₁
  · cases hpasses
  cases hpasses
  obtain htransaction | ⟨attempt, ended, htransaction, h₃⟩ := perform_bind_error.1 h₂
  · exact perform_transaction_error htransaction
  · obtain ⟨rfl, -⟩ | ⟨m, claimed, rfl, -⟩ := claimTransaction_cases htransaction
    · cases h₃
    · cases h₃

end Mailbox

end Switchboard
