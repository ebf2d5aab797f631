import Switchboard.Proofs.Composition
import Switchboard.Proofs.EventLog.Selection

namespace Switchboard

def Event.recordsState (e : Event) : Bool := e.kind == "lifecycle" && e.tag == "pipeline-state"

/-- The state of the pipeline that a deed has written, be it as such or as an event like others. -/
def Deed.writtenState? : Deed → Option String
  | ⟨.setPipelineState state _, _, _⟩ => some state
  | ⟨.log kind tag body _, _, _⟩ =>
    if kind = "lifecycle" ∧ tag = "pipeline-state" then some body else none
  | _ => none

/-- The state that is told of a pipeline when this has been written last. -/
def stateAfter : Option String → String
  | some body => if body = "" then "running" else body
  | none => "running"

/-- The states that the events of a ledger record, oldest first. -/
def Ledger.states (ledger : Ledger) : List String :=
  (ledger.events.filter Event.recordsState).map (·.body)

theorem Ledger.states_addEvent (ledger : Ledger) (e : Event) :
    (ledger.mint.addEvent e).states =
      ledger.states ++ if e.recordsState then [e.body] else [] := by
  change ((ledger.events ++ [e]).filter _).map _ = _
  rw [List.filter_append, List.map_append]
  cases h : e.recordsState <;> simp [h, states]

theorem Effect.states {ledger next : Ledger} {now : Timestamp} {call : Call} {answer : Answer}
    (h : Effect now ledger call answer next) :
    next.states = ledger.states ++ (Deed.writtenState? ⟨call, now, answer⟩).toList := by
  have hsame : ∀ next : Ledger, next.events = ledger.events →
      next.states = ledger.states ++ [] := by
    intro next hnext
    rw [Ledger.states, hnext, List.append_nil]
    rfl
  cases h with
  | logged kind tag body agent =>
    rw [ledger.states_addEvent, Deed.writtenState?]
    by_cases hstate : kind = "lifecycle" ∧ tag = "pipeline-state" <;>
      simp [Event.recordsState, hstate]
  | setPipelineState state agent =>
    rw [ledger.states_addEvent]
    rfl
  | cleaned => exact hsame _ Ledger.recordAll_events
  | looked answer hlooks hcheck =>
    cases call with
    | log | setPipelineState => cases hlooks
    | _ => exact hsame ledger rfl
  | _ => exact hsame _ rfl

theorem Store.states_after {store : Store} (h : store.tables = {}) (attempts : List Attempt) :
    ∃ ledger : Ledger, ledger.Sound ∧ (store.after attempts).tables.Holds ledger ∧
      ledger.states = (store.deeds attempts).filterMap Deed.writtenState? := by
  refine Store.history_of_empty (fun deeds ledger => ledger.states =
    deeds.filterMap Deed.writtenState?) h rfl ?_ attempts
  intro deeds ledger next now call answer _ hstates heffect
  rw [heffect.states, hstates, List.filterMap_append]
  cases hwritten : Deed.writtenState? ⟨call, now, answer⟩ <;> simp [hwritten]

theorem EventFilter.accepts_states :
    ((EventFilter.ofKind lifecycleKind).withTag pipelineStateTag).accepts =
      Event.recordsState := by
  funext e
  simp [accepts, ofKind, withTag, Event.recordsState, lifecycleKind, pipelineStateTag, BEq.comm]

theorem Call.tells_pipelineState (ledger : Ledger) :
    pipelineState.Tells ledger (.text (stateAfter ledger.states.getLast?)) := by
  let filter := (EventFilter.ofKind lifecycleKind).withTag pipelineStateTag
  have hcall : pipelineState.operation = Answer.text <$> (do
      Operation.connect
      let entries ← Operation.statement .readEvents
        (Statement.select Event (EventLog.newestFirst (filter.atMost 1)))
      pure (stateAfter ((entries.map (·.record)).head?.map (·.body)))) := by
    simp only [operation, EventLog.pipelineState, EventLog.latest, EventLog.query,
      EventLog.readEvents, bind_assoc, pure_bind]
    refine congrArg _ (congrArg _ (funext fun _ => congrArg _ (funext fun entries => ?_)))
    cases (entries.map (·.record)).head? with
    | none => rfl
    | some event =>
      rw [Option.map_some, stateAfter]
      simp only [String.isEmpty_iff, defaultPipelineState]
  refine .intro hcall (EventLog.reads_newest ledger filter) fun context run => ?_
  rw [Entry.map_record_plain, Option.head?_toList, EventFilter.accepts_states, Ledger.states,
    List.getLast?_map]
  rfl

section Register

variable {store : Store} {setting : Attempt} {state agent : String}

theorem Attempt.setting_ok {answer : Answer} {ledger : Ledger} (hs : ledger.Sound)
    (h : store.tables.Holds ledger) (hcall : setting.call = .setPipelineState state agent)
    (hanswer : setting.answer store = .ok answer) :
    Text.isBlankText state = false := by
  obtain ⟨next, -, heffect⟩ := setting.effect_of_ok hs h hanswer
  rw [hcall] at heffect
  cases heffect with
  | setPipelineState _ _ hvisible => exact hvisible
  | looked _ hlooks => cases hlooks

theorem Attempt.setting_blank (hcall : setting.call = .setPipelineState state agent)
    (hblank : Text.isBlankText state) :
    setting.perform store = (.error .blankPipelineState, { setting.run with store }) := by
  rw [perform, hcall]
  change Operation.perform (Answer.id <$> EventLog.setPipelineState state agent) _ _ = _
  rw [EventLog.setPipelineState, if_pos hblank]
  rfl

theorem Attempt.blank_of_refused {failure : Failure}
    (hcall : setting.call = .setPipelineState state agent)
    (hanswer : setting.answer store = .error failure) (hkind : failure.kind = .invalidValue) :
    Text.isBlankText state := by
  have hfailed : Operation.perform setting.call.operation setting.context
      { setting.run with store } = (.error failure, (setting.perform store).2) :=
    Prod.ext hanswer rfl
  rw [hcall] at hfailed
  have hset : Operation.Composed (fun _ => Text.isBlankText state = true)
      (EventLog.setPipelineState state agent) := EventLog.composed_setPipelineState id
  obtain hengine | hblank := (hset.map Answer.id).fails hfailed
  · cases failure <;> cases hengine <;> cases hkind
  · exact hblank

end Register

/-- However clients have used a store that was empty, the events that record a state of the pipeline
hold what has been written by whichever call and agent, in the order of the writes, and whoever asks
for the state is told the last of it: the default if that is empty or if there is none. So once a
state has been set it is told until a deed writes another one, whatever else is done or fails. In
every store, setting a state is refused as an invalid value exactly if all of it is blank, and then
nothing has been done at all. -/
theorem last_written_state_is_told (store : Store) (h : store.tables = {})
    (attempts : List Attempt) :
    let reached := store.after attempts
    let written := (store.deeds attempts).filterMap Deed.writtenState?
    (reached.events.filter Event.recordsState).map (·.body) = written ∧
      reached.Tells .pipelineState (.text (stateAfter written.getLast?)) ∧
      ∀ (setting : Attempt) (state agent : String),
        setting.call = .setPipelineState state agent →
        (∀ answer, setting.answer reached = .ok answer →
          let left := setting.after reached
          ∀ later, (∀ d ∈ left.deeds later, d.writtenState? = none) →
            (left.after later).Tells .pipelineState (.text state)) ∧
        ∀ found : Store,
          ((∃ failure, setting.answer found = .error failure ∧ failure.kind = .invalidValue) ↔
            ∀ c ∈ state.toList, Text.isBlank c) ∧
          ((∀ c ∈ state.toList, Text.isBlank c) → setting.perform found =
            (.error .blankPipelineState, { setting.run with store := found })) := by
  intro reached written
  have htold (attempts : List Attempt) : (store.after attempts).Tells .pipelineState
      (.text (stateAfter ((store.deeds attempts).filterMap Deed.writtenState?).getLast?)) := by
    obtain ⟨ledger, -, hholds, hstates⟩ := Store.states_after h attempts
    rw [← hstates]
    exact (Call.tells_pipelineState ledger).of_holds hholds (Store.own_after h attempts)
  obtain ⟨ledger, hs, hholds, hstates⟩ := Store.states_after h attempts
  refine ⟨hholds.events_eq ▸ hstates, htold attempts, fun setting state agent hcall =>
    ⟨?_, fun found => ?_⟩⟩
  · intro answer hanswer left later hlater
    have hvisible : Text.isBlankText state = false := Attempt.setting_ok hs hholds hcall hanswer
    have hne : state ≠ "" := by
      rintro rfl
      cases hvisible
    have hset : (setting.deed? reached).toList.filterMap Deed.writtenState? = [state] := by
      rw [Attempt.deed?_of_ok hanswer, hcall]
      rfl
    have hnone : (left.deeds later).filterMap Deed.writtenState? = [] :=
      List.filterMap_eq_nil_iff.2 hlater
    have hreached := htold (attempts ++ setting :: later)
    rw [Store.after_append, Store.deeds_append, Store.deeds, List.filterMap_append,
      List.filterMap_append, hset, hnone, List.append_nil, List.getLast?_concat, stateAfter,
      if_neg hne] at hreached
    exact hreached
  · have hblank : Text.isBlankText state = true ↔ ∀ c ∈ state.toList, Text.isBlank c :=
      List.all_eq_true
    rw [← hblank]
    refine ⟨⟨?_, fun hstate => ?_⟩, Attempt.setting_blank hcall⟩
    · rintro ⟨failure, hanswer, hkind⟩
      exact Attempt.blank_of_refused hcall hanswer hkind
    · exact ⟨_, congrArg Prod.fst (Attempt.setting_blank hcall hstate), rfl⟩

/-- The state that has been set outlasts a state that is refused, a message, and an event that shares
the kind only. At first, and again after an event that empties it, the pipeline is running. -/
theorem paused_pipeline_stays_paused :
    let earlier := [Attempt.atEpoch (.setPipelineState "building" "lead") [],
      Attempt.atEpoch (.log "test" "pipeline-state" "failed" "worker") []]
    let setting := Attempt.atEpoch (.setPipelineState "paused" "lead") []
    let refused := Attempt.atEpoch (.setPipelineState " \t" "worker") []
    let later := [refused, Attempt.atEpoch (.send "worker" "wait" none) [],
      Attempt.atEpoch (.log "lifecycle" "start" "" "worker") []]
    let emptied := earlier ++ [Attempt.atEpoch (.log "lifecycle" "pipeline-state" "" "worker") []]
    let reached := ({} : Store).after earlier
    let left := setting.after reached
    ({} : Store).Tells .pipelineState (.text "running") ∧
      reached.Tells .pipelineState (.text "building") ∧
      setting.answer reached = .ok (.id 3) ∧
      (left.deeds later).length = 2 ∧
      (left.after later).Tells .pipelineState (.text "paused") ∧
      refused.perform left = (.error .blankPipelineState, { refused.run with store := left }) ∧
      (({} : Store).after emptied).Tells .pipelineState (.text "running") := by
  intro earlier setting refused later emptied reached left
  have hanswer : setting.answer reached = .ok (.id 3) := by decide +kernel
  obtain ⟨-, hfirst, -⟩ := last_written_state_is_told {} rfl []
  obtain ⟨-, htold, hset⟩ := last_written_state_is_told {} rfl earlier
  obtain ⟨-, hemptied, -⟩ := last_written_state_is_told {} rfl emptied
  have hwritten : (({} : Store).deeds earlier).filterMap Deed.writtenState? = ["building"] := by
    decide +kernel
  have hlast : (({} : Store).deeds emptied).filterMap Deed.writtenState? = ["building", ""] := by
    decide +kernel
  rw [hwritten] at htold
  rw [hlast] at hemptied
  exact ⟨hfirst, htold, hanswer, by decide +kernel,
    (hset setting "paused" "lead" rfl).1 _ hanswer later (by decide +kernel),
    ((hset refused " \t" "worker" rfl).2 left).2 (List.all_eq_true.1 rfl), hemptied⟩

end Switchboard
