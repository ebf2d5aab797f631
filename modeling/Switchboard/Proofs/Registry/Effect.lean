import Switchboard.Proofs.Ledger
import Switchboard.Registry

namespace Switchboard

namespace Ledger

def lastPid (ledger : Ledger) (name : String) : Option Int :=
  ((ledger.registrations.filter (·.name == name)).getLast?).bind (·.pid)

def register (ledger : Ledger) (now : Timestamp) (name : String) (pid : Option Int)
    (status : AgentStatus) : Ledger :=
  ledger.mint.addRegistration ⟨ledger.last + 1, now, name, pid, status⟩

/-- Register a status of a name, keeping its last pid. -/
def recordStatus (ledger : Ledger) (now : Timestamp) (status : AgentStatus) (name : String) :
    Ledger :=
  ledger.register now name (ledger.lastPid name) status

/-- Register a status of some names, one after the other. -/
def recordAll (ledger : Ledger) (now : Timestamp) (status : AgentStatus) (names : List String) :
    Ledger :=
  names.foldl (fun ledger => ledger.recordStatus now status) ledger

def present (ledger : Ledger) : List String :=
  (Registry.present (ledger.registrations.map Entry.plain)).map (·.record.name)

theorem Sound.register {ledger : Ledger} (h : ledger.Sound) (now : Timestamp) (name : String)
    (pid : Option Int) (status : AgentStatus) : (ledger.register now name pid status).Sound :=
  h.addRegistration rfl

section RecordAll

variable {ledger : Ledger} {now : Timestamp} {status : AgentStatus} {names : List String}

theorem Sound.recordAll (h : ledger.Sound) : (ledger.recordAll now status names).Sound := by
  induction names generalizing ledger with
  | nil => exact h
  | cons name names ih => exact ih (h.register _ _ _ _)

theorem recordAll_messages : (ledger.recordAll now status names).messages = ledger.messages := by
  induction names generalizing ledger with
  | nil => rfl
  | cons name names ih => exact ih

theorem recordAll_events : (ledger.recordAll now status names).events = ledger.events := by
  induction names generalizing ledger with
  | nil => rfl
  | cons name names ih => exact ih

theorem recordAll_tasks : (ledger.recordAll now status names).tasks = ledger.tasks := by
  induction names generalizing ledger with
  | nil => rfl
  | cons name names ih => exact ih

end RecordAll

end Ledger

namespace Entry

theorem put_pid_plain (r : Registration) (pid : Option Int) :
    (plain r).put Registration.pidColumn (.optionalInt pid) = plain { r with pid } := by
  cases pid <;> rfl

end Entry

namespace Registry

open Operation

variable {context : Context} {run left : Run} {ledger : Ledger} {name : String}

theorem lastPid_plain (name : String) (ledger : Ledger) :
    lastPid name (ledger.registrations.map Entry.plain) = .optionalInt (ledger.lastPid name) := by
  have hnewest : newest? name (ledger.registrations.map Entry.plain) =
      ((ledger.registrations.filter (·.name == name)).getLast?).map Entry.plain := by
    rw [newest?, List.filter_map, List.getLast?_map]
    rfl
  rw [lastPid, hnewest, Ledger.lastPid]
  cases (ledger.registrations.filter (·.name == name)).getLast? <;> rfl

theorem append_ok {pid : List (Entry Registration) → Cell} {value : Option Int}
    {status : AgentStatus} {id : Int} (hs : ledger.Sound) (h : run.store.tables.Holds ledger)
    (hpid : pid (ledger.registrations.map Entry.plain) = .optionalInt value)
    (happend : perform (append name pid status) context run = (.ok id, left)) :
    id = ledger.last + 1 ∧
      left.store.tables.Holds (ledger.register context.now name value status) := by
  obtain ⟨_, minted, hmint, h₁⟩ := perform_bind_ok.1 happend
  obtain ⟨rfl, hminted⟩ := mintId_holds h hmint
  obtain ⟨_, _, hread, h₂⟩ := perform_bind_ok.1 h₁
  cases hread
  obtain ⟨_, inserted, hinsert, hpure⟩ := perform_bind_ok.1 h₂
  cases hpure
  obtain ⟨store, hstore, rfl⟩ := perform_statement_ok hinsert
  obtain ⟨found, _, hget, hentry⟩ := Statement.run_bind_ok.1 hstore
  cases hget
  rw [hminted.registrations] at hentry
  change StateT.run (Statement.insertEntry (Entry.put _ (pid (ledger.registrations.map _))
    (Entry.plain _))) _ = _ at hentry
  rw [hpid, Entry.put_pid_plain] at hentry
  exact ⟨rfl, Statement.insertEntry_minted hs hminted rfl hentry⟩

theorem appendStatus_ok {status : AgentStatus} {id : Int} (hs : ledger.Sound)
    (h : run.store.tables.Holds ledger)
    (happend : perform (appendStatus name status) context run = (.ok id, left)) :
    id = ledger.last + 1 ∧ left.store.tables.Holds (ledger.recordStatus context.now status name) :=
  append_ok hs h (lastPid_plain name ledger) happend

theorem register_ok {pid : Option Int} {id : Int} (hs : ledger.Sound)
    (h : run.store.tables.Holds ledger)
    (hregister : perform (register name pid) context run = (.ok id, left)) :
    id = ledger.last + 1 ∧
      left.store.tables.Holds (ledger.register context.now name pid .running) := by
  obtain ⟨_, started, done, registered, hstarted, hbody, hregistered, hreport⟩ :=
    connect_transaction_holds h hregister
  cases hreport
  obtain ⟨rfl, hdone⟩ := append_ok hs hstarted rfl hbody
  exact ⟨rfl, hregistered ▸ hdone⟩

theorem recordStatus_ok {status : AgentStatus} {id : Int} (hs : ledger.Sound)
    (h : run.store.tables.Holds ledger)
    (hrecord : perform (recordStatus name status) context run = (.ok id, left)) :
    id = ledger.last + 1 ∧
      left.store.tables.Holds (ledger.recordStatus context.now status name) := by
  obtain ⟨_, connected, hconnect, htransaction⟩ := perform_bind_ok.1 hrecord
  obtain ⟨started, done, hstarted, hbody, hrecorded⟩ :=
    transaction_holds (connect_holds h hconnect) htransaction
  obtain ⟨rfl, hdone⟩ := appendStatus_ok hs hstarted hbody
  exact ⟨rfl, hrecorded ▸ hdone⟩

theorem unregister_ok {id : Int} (hs : ledger.Sound) (h : run.store.tables.Holds ledger)
    (hunregister : perform (unregister name) context run = (.ok id, left)) :
    id = ledger.last + 1 ∧
      left.store.tables.Holds (ledger.recordStatus context.now .exited name) := by
  obtain ⟨_, recorded, hrecord, h₁⟩ := perform_bind_ok.1 hunregister
  cases h₁
  obtain ⟨rfl, hrecorded⟩ := recordStatus_ok hs h hrecord
  exact ⟨rfl, hrecorded⟩

theorem appendAll_ok {names : List String} (hs : ledger.Sound) (h : run.store.tables.Holds ledger)
    (happend : perform (names.forM fun name => discard (appendStatus name .cleaned)) context run =
      (.ok (), left)) :
    left.store.tables.Holds (ledger.recordAll context.now .cleaned names) := by
  induction names generalizing run ledger with
  | nil =>
    cases happend
    exact h
  | cons name names ih =>
    obtain ⟨_, marked, hname, hnames⟩ := perform_bind_ok.1 happend
    rw [perform_discard] at hname
    rcases hmark : perform (appendStatus name .cleaned) context run with ⟨failure | id, middle⟩
    · rw [hmark] at hname
      cases hname
    · rw [hmark] at hname
      cases hname
      obtain ⟨-, hmarked⟩ := appendStatus_ok hs h hmark
      exact ih (hs.register _ _ _ _) hmarked hnames

theorem cleanup_ok {who : Option String} {names : List String} (hs : ledger.Sound)
    (h : run.store.tables.Holds ledger)
    (hcleanup : perform (cleanup who) context run = (.ok names, left)) :
    names = who.elim ledger.present (fun name => [name]) ∧
      left.store.tables.Holds (ledger.recordAll context.now .cleaned names) := by
  obtain ⟨_, started, done, cleaned, hstarted, hbody, hcleaned, hreport⟩ :=
    connect_transaction_holds h hcleanup
  cases hreport
  change _ ∧ cleaned.store.tables.Holds _
  rw [hcleaned]
  cases who with
  | none =>
    obtain ⟨rows, listed, hrows, h₁⟩ := perform_bind_ok.1 hbody
    obtain ⟨store, hstore, rfl⟩ := perform_statement_ok hrows
    obtain ⟨rfl, rfl⟩ := Statement.rows_ok hstore
    obtain ⟨_, marked, hmark, hpure⟩ := perform_bind_ok.1 h₁
    cases hpure
    rw [hstarted.registrations] at hmark ⊢
    refine ⟨rfl, appendAll_ok hs ?_ hmark⟩
    exact hstarted
  | some name =>
    obtain ⟨_, marked, hmark, hpure⟩ := perform_bind_ok.1 hbody
    cases hpure
    have hmarks : perform ([name].forM fun name => discard (appendStatus name .cleaned)) context
        started = (.ok (), done) := perform_bind_ok.2 ⟨(), done, hmark, rfl⟩
    exact ⟨rfl, appendAll_ok hs hstarted hmarks⟩

end Registry

end Switchboard
