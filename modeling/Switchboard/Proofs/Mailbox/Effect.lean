import Switchboard.Proofs.Ledger
import Switchboard.Proofs.Mailbox.Snapshot

namespace Switchboard

/-- The messages that wait in the mailbox of a name, oldest first. -/
def Ledger.waiting (ledger : Ledger) (name : String) : List Message :=
  ledger.messages.filter (·.waitsFor name)

theorem Ledger.mem_waiting {ledger : Ledger} {name : String} {m : Message} :
    m ∈ ledger.waiting name ↔ m ∈ ledger.messages ∧ m.waitsFor name :=
  List.mem_filter

theorem Ledger.changeMessages_of_waiting_eq_nil {ledger : Ledger} {name : String}
    (h : ledger.waiting name = []) (f : Message → Message) :
    ledger.changeMessages (·.waitsFor name) f = ledger :=
  ledger.changeMessages_of_none fun m hm => by simpa using List.filter_eq_nil_iff.1 h m hm

def Ledger.mailbox (ledger : Ledger) (name : String) : List Message :=
  ledger.messages.filter (·.target == name)

namespace Mailbox

open Operation

variable {context : Context} {run left : Run} {ledger : Ledger} {name : String}

theorem waiting_plain (name : String) (ledger : Ledger) :
    waiting name (ledger.messages.map Entry.plain) = (ledger.waiting name).map Entry.plain := by
  unfold waiting Ledger.waiting
  rw [List.filter_map]
  rfl

theorem send_ok {target body : String} {sender : Option String} {id : Int} (hs : ledger.Sound)
    (h : run.store.tables.Holds ledger)
    (hsend : perform (send target body sender) context run = (.ok id, left)) :
    id = ledger.last + 1 ∧ left.store.tables.Holds
      (ledger.mint.addMessage (.unclaimed id context.now sender target body)) := by
  obtain ⟨_, started, done, sent, hstarted, hbody, hsent, hreport⟩ :=
    connect_transaction_holds h hsend
  cases hreport
  obtain ⟨rfl, hdone⟩ := insertNext_ok hs hstarted (fun _ _ => rfl) hbody
  exact ⟨rfl, hsent ▸ hdone⟩

theorem Claims.eq_changeMessages {now : Timestamp} {m : Message} {after : List (Entry Message)}
    (h : Claims name now (ledger.messages.map Entry.plain) m after) :
    ∃ first rest, m = first.claimFor name now ∧ ledger.waiting name = first :: rest ∧
      after = (ledger.changeMessages (·.id == first.id) (Message.claimFor name now)).messages.map
        Entry.plain := by
  obtain ⟨⟨oldest, rest, found, hwaiting, hread, rfl⟩, rfl⟩ := h
  rw [waiting_plain] at hwaiting
  obtain ⟨first, others, hfirst, rfl, -⟩ := List.map_eq_cons_iff.1 hwaiting
  rw [Entry.read_of_stray_eq_nil _ _ rfl] at hread
  cases hread
  refine ⟨first, others, rfl, hfirst, ?_⟩
  unfold Ledger.changeMessages
  rw [List.map_map, List.map_map]
  apply List.map_congr_left
  intro m _
  by_cases hid : m.id = first.id <;> simp [hid, Message.claimFor]

theorem tryReceive_ok {message : Option Message} (h : run.store.tables.Holds ledger)
    (hreceive : perform (tryReceive name) context run = (.ok message, left)) :
    (message = none ∧ ledger.waiting name = [] ∧ left.store.tables.Holds ledger) ∨
      ∃ first rest, message = some (first.claimFor name context.now) ∧
        ledger.waiting name = first :: rest ∧
        left.store.tables.Holds
          (ledger.changeMessages (·.id == first.id) (Message.claimFor name context.now)) := by
  obtain ⟨connected, hsettled, hcases⟩ := tryReceive_cases hreceive
  have hconnected := hsettled.sameContent.holds h
  rw [h.messages] at hcases
  obtain ⟨rfl, hwaiting, hleft⟩ | ⟨m, claimed, rfl, hclaims, hleft⟩ := hcases
  · rw [waiting_plain, List.map_eq_nil_iff] at hwaiting
    exact .inl ⟨rfl, hwaiting, hleft ▸ hconnected⟩
  · obtain ⟨first, rest, rfl, hwaiting, hclaimed⟩ := hclaims.eq_changeMessages
    refine .inr ⟨first, rest, rfl, hwaiting, ?_⟩
    rw [hleft]
    exact Recorded.holds_setTable hconnected hclaimed

theorem ClaimsAll.eq_changeMessages {now : Timestamp} {messages : List Message}
    {after : List (Entry Message)}
    (h : ClaimsAll name now (ledger.messages.map Entry.plain) messages after) :
    messages = (ledger.waiting name).map (Message.claimFor name now) ∧
      after = (ledger.changeMessages (·.waitsFor name) (Message.claimFor name now)).messages.map
        Entry.plain := by
  obtain ⟨⟨found, hread, rfl⟩, rfl⟩ := h
  rw [waiting_plain, Entry.mapM_read_plain] at hread
  cases hread
  constructor
  · rw [List.map_map]
    rfl
  · unfold Ledger.changeMessages
    rw [List.map_map, List.map_map]
    apply List.map_congr_left
    intro m _
    have hwaits : (Entry.plain m).waitsFor name = m.waitsFor name := rfl
    simp only [Function.comp_apply, hwaits]
    split <;> rfl

theorem drain_ok {messages : List Message} (h : run.store.tables.Holds ledger)
    (hdrain : perform (drain name) context run = (.ok messages, left)) :
    messages = (ledger.waiting name).map (Message.claimFor name context.now) ∧
      left.store.tables.Holds
        (ledger.changeMessages (·.waitsFor name) (Message.claimFor name context.now)) := by
  obtain ⟨connected, claimed, hsettled, hleft, hclaims⟩ := drain_cases hdrain
  rw [h.messages] at hclaims
  obtain ⟨rfl, hclaimed⟩ := hclaims.eq_changeMessages
  exact ⟨rfl, hleft ▸ Recorded.holds_setTable (hsettled.sameContent.holds h) hclaimed⟩

theorem countP_plain (name : String) (ledger : Ledger) :
    (ledger.messages.map Entry.plain).countP (Entry.waitsFor name) =
      (ledger.waiting name).length := by
  rw [List.countP_map, Ledger.waiting, ← List.countP_eq_length_filter]
  rfl

theorem check_ok {count : Int} (h : run.store.tables.Holds ledger)
    (hcheck : perform (check name) context run = (.ok count, left)) :
    count = (ledger.waiting name).length ∧ left.store.tables.Holds ledger := by
  obtain ⟨_, connected, hconnect, h₁⟩ := perform_bind_ok.1 hcheck
  have hconnected := connect_holds h hconnect
  obtain ⟨entries, selected, hrows, h₂⟩ := perform_bind_ok.1 h₁
  obtain ⟨store, hstore, rfl⟩ := perform_statement_ok hrows
  obtain ⟨rfl, rfl⟩ := Statement.rows_ok hstore
  cases h₂
  refine ⟨?_, hconnected⟩
  rw [hconnected.messages, countP_plain]

theorem mailbox_plain (name : String) (ledger : Ledger) :
    (ledger.messages.map Entry.plain).filter (·.record.target == name) =
      (ledger.mailbox name).map Entry.plain := by
  unfold Ledger.mailbox
  rw [List.filter_map]
  rfl

end Mailbox

end Switchboard
