import Switchboard.EventLog
import Switchboard.Proofs.Atomicity
import Switchboard.Proofs.Mailbox.Effect
import Switchboard.Proofs.Registry.Effect
import Switchboard.Proofs.TaskQueue.Effect

namespace Switchboard

open Operation

namespace EventLog

variable {context : Context} {run left : Run} {ledger : Ledger}

theorem log_ok {kind tag body agent : String} {id : Int} (hs : ledger.Sound)
    (h : run.store.tables.Holds ledger)
    (hlog : perform (log kind tag body agent) context run = (.ok id, left)) :
    id = ledger.last + 1 ∧ left.store.tables.Holds
      (ledger.mint.addEvent ⟨ledger.last + 1, context.now, kind, tag, body, agent⟩) := by
  obtain ⟨_, started, done, logged, hstarted, hbody, hlogged, hreport⟩ :=
    connect_transaction_holds h hlog
  cases hreport
  obtain ⟨rfl, hdone⟩ := insertNext_ok hs hstarted (fun _ _ => rfl) hbody
  exact ⟨rfl, hlogged ▸ hdone⟩

theorem setPipelineState_ok {state agent : String} {id : Int} (hs : ledger.Sound)
    (h : run.store.tables.Holds ledger)
    (hset : perform (setPipelineState state agent) context run = (.ok id, left)) :
    Text.isBlankText state = false ∧ id = ledger.last + 1 ∧ left.store.tables.Holds
      (ledger.mint.addEvent
        ⟨ledger.last + 1, context.now, lifecycleKind, pipelineStateTag, state, agent⟩) := by
  unfold setPipelineState at hset
  split at hset
  · cases hset
  · rename_i hblank
    exact ⟨by simpa using hblank, log_ok hs h hset⟩

end EventLog

variable {store : Store} {ledger next : Ledger} {attempt : Attempt} {answer : Answer}

/-- What a call that succeeds at a time does to a ledger, and what it answers. -/
inductive Effect (now : Timestamp) (ledger : Ledger) : Call → Answer → Ledger → Prop where
  | sent (target body : String) (sender : Option String) :
    Effect now ledger (.send target body sender) (.id (ledger.last + 1))
      (ledger.mint.addMessage (.unclaimed (ledger.last + 1) now sender target body))
  | received {name : String} {first : Message} {rest : List Message}
      (h : ledger.waiting name = first :: rest) :
    Effect now ledger (.tryReceive name) (.message (some (first.claimFor name now)))
      (ledger.changeMessages (·.id == first.id) (Message.claimFor name now))
  | receivedNothing {name : String} (h : ledger.waiting name = []) :
    Effect now ledger (.tryReceive name) (.message none) ledger
  | drained (name : String) :
    Effect now ledger (.drain name)
      (.messages ((ledger.waiting name).map (Message.claimFor name now)))
      (ledger.changeMessages (·.waitsFor name) (Message.claimFor name now))
  | checked (name : String) :
    Effect now ledger (.check name) (.count (ledger.waiting name).length) ledger
  | registered (name : String) (pid : Option Int) :
    Effect now ledger (.register name pid) (.id (ledger.last + 1))
      (ledger.register now name pid .running)
  | recordedStatus (name : String) (status : AgentStatus) :
    Effect now ledger (.recordStatus name status) (.id (ledger.last + 1))
      (ledger.recordStatus now status name)
  | unregistered (name : String) :
    Effect now ledger (.unregister name) (.id (ledger.last + 1))
      (ledger.recordStatus now .exited name)
  | cleaned (who : Option String) (names : List String)
      (h : names = who.elim ledger.present fun name => [name]) :
    Effect now ledger (.cleanup who) (.names names) (ledger.recordAll now .cleaned names)
  | logged (kind tag body agent : String) :
    Effect now ledger (.log kind tag body agent) (.id (ledger.last + 1))
      (ledger.mint.addEvent ⟨ledger.last + 1, now, kind, tag, body, agent⟩)
  | setPipelineState (state agent : String) (h : Text.isBlankText state = false) :
    Effect now ledger (.setPipelineState state agent) (.id (ledger.last + 1))
      (ledger.mint.addEvent ⟨ledger.last + 1, now, lifecycleKind, pipelineStateTag, state, agent⟩)
  | submitted (new : NewTask) (h : ∀ d ∈ new.dependsOn, ∃ t ∈ ledger.tasks, t.id = d) :
    Effect now ledger (.submit new) (.id (ledger.last + 1))
      (ledger.mint.addTask (.queued (ledger.last + 1) now new))
  | claimed (dispatcher : String) {id : Int}
      (h : ∃ t ∈ ledger.tasks, t.id = id ∧ t.status = .pending) :
    Effect now ledger (.claim dispatcher id) .done
      (ledger.changeTask id (Task.claimFor dispatcher now))
  | completed {id : Int} (output : Option String)
      (h : ∃ t ∈ ledger.tasks, t.id = id ∧ t.status = .running) :
    Effect now ledger (.complete id output) .done
      (ledger.changeTask id (Task.completeWith output now))
  | failed {id : Int} (error : Option String)
      (h : ∃ t ∈ ledger.tasks, t.id = id ∧ t.status = .running) :
    Effect now ledger (.fail id error) .done
      (ledger.changeTask id (Task.failWith error now))
  | routed {id : Int} (agentFile model : String) (h : ∃ t ∈ ledger.tasks, t.id = id) :
    Effect now ledger (.route id agentFile model) .done
      (ledger.changeTask id (Task.routeTo agentFile model))
  | looked {call : Call} (answer : Answer) (h : call.looks) (hcheck : ∀ name, call ≠ .check name) :
    Effect now ledger call answer ledger

namespace Effect

variable {now : Timestamp} {call : Call}

theorem sound (h : Effect now ledger call answer next) (hs : ledger.Sound) : next.Sound := by
  cases h with
  | sent => exact hs.addMessage rfl
  | received => exact hs.changeMessages fun _ => rfl
  | receivedNothing => exact hs
  | drained => exact hs.changeMessages fun _ => rfl
  | checked => exact hs
  | registered => exact hs.register _ _ _ _
  | recordedStatus => exact hs.register _ _ _ _
  | unregistered => exact hs.register _ _ _ _
  | cleaned => exact hs.recordAll
  | logged => exact hs.addEvent rfl
  | setPipelineState => exact hs.addEvent rfl
  | submitted => exact hs.addTask rfl
  | claimed => exact hs.changeTask fun _ => rfl
  | completed => exact hs.changeTask fun _ => rfl
  | failed => exact hs.changeTask fun _ => rfl
  | routed => exact hs.changeTask fun _ => rfl
  | looked => exact hs

end Effect

theorem Call.effect_of_ok {call : Call} {context : Context} {run left : Run} (hs : ledger.Sound)
    (h : run.store.tables.Holds ledger)
    (hperform : perform call.operation context run = (.ok answer, left)) :
    ∃ next, left.store.tables.Holds next ∧ Effect context.now ledger call answer next := by
  have hlooks : ∀ call : Call, call.looks → (∀ name, call ≠ .check name) →
      perform call.operation context run = (.ok answer, left) →
      ∃ next, left.store.tables.Holds next ∧ Effect context.now ledger call answer next := by
    intro call hlooks hcheck hperform
    have hsettled := (Call.settles_operation hlooks).settled hperform
    exact ⟨ledger, hsettled.sameContent.holds h, .looked answer hlooks hcheck⟩
  cases call with
  | send target body sender =>
    obtain ⟨id, hsend, rfl⟩ := perform_map_ok.1 hperform
    obtain ⟨rfl, hleft⟩ := Mailbox.send_ok hs h hsend
    exact ⟨_, hleft, .sent target body sender⟩
  | tryReceive name =>
    obtain ⟨message, hreceive, rfl⟩ := perform_map_ok.1 hperform
    obtain ⟨rfl, hwaiting, hleft⟩ | ⟨first, rest, rfl, hwaiting, hleft⟩ :=
      Mailbox.tryReceive_ok h hreceive
    · exact ⟨_, hleft, .receivedNothing hwaiting⟩
    · exact ⟨_, hleft, .received hwaiting⟩
  | drain name =>
    obtain ⟨messages, hdrain, rfl⟩ := perform_map_ok.1 hperform
    obtain ⟨rfl, hleft⟩ := Mailbox.drain_ok h hdrain
    exact ⟨_, hleft, .drained name⟩
  | check name =>
    obtain ⟨count, hcheck, rfl⟩ := perform_map_ok.1 hperform
    obtain ⟨rfl, hleft⟩ := Mailbox.check_ok h hcheck
    exact ⟨_, hleft, .checked name⟩
  | register name pid =>
    obtain ⟨id, hregister, rfl⟩ := perform_map_ok.1 hperform
    obtain ⟨rfl, hleft⟩ := Registry.register_ok hs h hregister
    exact ⟨_, hleft, .registered name pid⟩
  | recordStatus name status =>
    obtain ⟨id, hrecord, rfl⟩ := perform_map_ok.1 hperform
    obtain ⟨rfl, hleft⟩ := Registry.recordStatus_ok hs h hrecord
    exact ⟨_, hleft, .recordedStatus name status⟩
  | unregister name =>
    obtain ⟨id, hunregister, rfl⟩ := perform_map_ok.1 hperform
    obtain ⟨rfl, hleft⟩ := Registry.unregister_ok hs h hunregister
    exact ⟨_, hleft, .unregistered name⟩
  | cleanup who =>
    obtain ⟨names, hcleanup, rfl⟩ := perform_map_ok.1 hperform
    obtain ⟨hnames, hleft⟩ := Registry.cleanup_ok hs h hcleanup
    exact ⟨_, hleft, .cleaned who names hnames⟩
  | log kind tag body agent =>
    obtain ⟨id, hlog, rfl⟩ := perform_map_ok.1 hperform
    obtain ⟨rfl, hleft⟩ := EventLog.log_ok hs h hlog
    exact ⟨_, hleft, .logged kind tag body agent⟩
  | setPipelineState state agent =>
    obtain ⟨id, hset, rfl⟩ := perform_map_ok.1 hperform
    obtain ⟨hblank, rfl, hleft⟩ := EventLog.setPipelineState_ok hs h hset
    exact ⟨_, hleft, .setPipelineState state agent hblank⟩
  | submit new =>
    obtain ⟨id, hsubmit, rfl⟩ := perform_map_ok.1 hperform
    obtain ⟨hdependsOn, rfl, hleft⟩ := TaskQueue.submit_ok hs h hsubmit
    exact ⟨_, hleft, .submitted new hdependsOn⟩
  | claim dispatcher id =>
    obtain ⟨_, hclaim, rfl⟩ := perform_map_ok.1 hperform
    obtain ⟨hfound, hleft⟩ := TaskQueue.claim_ok hs h hclaim
    exact ⟨_, hleft, .claimed dispatcher hfound⟩
  | complete id output =>
    obtain ⟨_, hcomplete, rfl⟩ := perform_map_ok.1 hperform
    obtain ⟨hfound, hleft⟩ := TaskQueue.complete_ok hs h hcomplete
    exact ⟨_, hleft, .completed output hfound⟩
  | fail id error =>
    obtain ⟨_, hfail, rfl⟩ := perform_map_ok.1 hperform
    obtain ⟨hfound, hleft⟩ := TaskQueue.fail_ok hs h hfail
    exact ⟨_, hleft, .failed error hfound⟩
  | route id agentFile model =>
    obtain ⟨_, hroute, rfl⟩ := perform_map_ok.1 hperform
    obtain ⟨hfound, hleft⟩ := TaskQueue.route_ok h hroute
    exact ⟨_, hleft, .routed agentFile model hfound⟩
  | _ => exact hlooks _ rfl nofun hperform

end Switchboard
