import Switchboard.Proofs.History
import Switchboard.Proofs.Reception

namespace Switchboard

def idsAfter (last : Int) (n : Nat) : List Int := (List.range n).map fun k : Nat => last + 1 + k

@[simp]
theorem length_idsAfter (last : Int) (n : Nat) : (idsAfter last n).length = n := by
  simp [idsAfter]

theorem idsAfter_add (last : Int) (m n : Nat) :
    idsAfter last (m + n) = idsAfter last m ++ idsAfter (last + m) n := by
  unfold idsAfter
  rw [List.range_add, List.map_append, List.map_map]
  congr 1
  apply List.map_congr_left
  intro k _
  simp only [Function.comp_apply]
  omega

theorem mem_idsAfter {last id : Int} {n : Nat} :
    id ∈ idsAfter last n ↔ last < id ∧ id ≤ last + n := by
  simp only [idsAfter, List.mem_map, List.mem_range]
  constructor
  · rintro ⟨k, hk, rfl⟩
    omega
  · rintro ⟨hlt, hle⟩
    exact ⟨(id - last - 1).toNat, by omega, by omega⟩

theorem nodup_idsAfter (last : Int) (n : Nat) : (idsAfter last n).Nodup := by
  refine List.pairwise_map.2 (List.nodup_range.imp ?_)
  intro a b hab
  omega

/-- The rows of all tables, and the ids given out. -/
structure Index where
  places : List (TableName × Int)
  minted : List Int
  last : Int

namespace Index

variable {first second third : Index} {tables more : List TableName}

/-- Rows are inserted into some tables, one after the other, with the next ids in this order. -/
structure Adds (before : Index) (tables : List TableName) (after : Index) : Prop where
  places : after.places.Perm
    (before.places ++ tables.zip (idsAfter before.last tables.length))
  minted : after.minted = (idsAfter before.last tables.length).reverse ++ before.minted
  last : after.last = before.last + tables.length

theorem Adds.refl (index : Index) : index.Adds [] index :=
  ⟨by simp, rfl, by simp⟩

theorem Adds.trans (h : first.Adds tables second) (h' : second.Adds more third) :
    first.Adds (tables ++ more) third := by
  have hids : idsAfter first.last (tables ++ more).length =
      idsAfter first.last tables.length ++ idsAfter second.last more.length := by
    rw [List.length_append, idsAfter_add, h.last]
  constructor
  · rw [hids, List.zip_append (by simp), ← List.append_assoc]
    exact h'.places.trans (h.places.append_right _)
  · rw [h'.minted, h.minted, hids, List.reverse_append, List.append_assoc]
  · rw [h'.last, h.last, List.length_append]
    omega

theorem Adds.newer (h : first.Adds tables second)
    (hbounded : ∀ place ∈ first.places, place.2 ≤ first.last) :
    (∀ place ∈ first.places, place ∈ second.places) ∧
      ∀ place ∈ second.places, place ∈ first.places ∨ ∀ old ∈ first.places, old.2 < place.2 := by
  constructor
  · intro place hplace
    exact h.places.mem_iff.2 (List.mem_append_left _ hplace)
  · intro place hplace
    obtain hold | hnew := List.mem_append.1 (h.places.mem_iff.1 hplace)
    · exact .inl hold
    · refine .inr fun old hold => ?_
      have hlt := (mem_idsAfter.1 (List.of_mem_zip hnew).2).1
      have hle := hbounded old hold
      omega

end Index

def Tables.placesOf (tables : Tables) (α : Type) [Stored α] : List (TableName × Int) :=
  (tables.rows α).map fun e => (Stored.name α, Row.id e.record)

def Store.index (store : Store) : Index where
  places := store.tables.placesOf Message ++ store.tables.placesOf Event ++
    store.tables.placesOf Registration ++ store.tables.placesOf Task
  minted := store.tables.minted
  last := store.tables.lastId

namespace Ledger

def placesOf {α : Type} [Stored α] (records : List α) : List (TableName × Int) :=
  records.map fun r => (Stored.name α, Row.id r)

def index (ledger : Ledger) : Index where
  places := placesOf ledger.messages ++ placesOf ledger.events ++ placesOf ledger.registrations ++
    placesOf ledger.tasks
  minted := ledger.minted
  last := ledger.last

end Ledger

theorem Tables.Holds.placesOf_eq {tables : Tables} {ledger : Ledger} (h : tables.Holds ledger)
    (α : Type) [Stored α] [Recorded α] :
    tables.placesOf α = Ledger.placesOf (Recorded.records ledger : List α) := by
  rw [placesOf, Recorded.rows_eq h, List.map_map]
  rfl

theorem Tables.Holds.index_eq {store : Store} {ledger : Ledger} (h : store.tables.Holds ledger) :
    store.index = ledger.index := by
  unfold Store.index Ledger.index
  rw [h.placesOf_eq Message, h.placesOf_eq Event, h.placesOf_eq Registration, h.placesOf_eq Task,
    h.minted, h.last]
  rfl

/-- The tables into which a deed inserts rows, one after the other. -/
def Deed.inserts : Deed → List TableName
  | ⟨.send .., _, _⟩ => [.messages]
  | ⟨.register .., _, _⟩ | ⟨.recordStatus .., _, _⟩ | ⟨.unregister _, _, _⟩ => [.agents]
  | ⟨.cleanup _, _, .names names⟩ => names.map fun _ => .agents
  | ⟨.log .., _, _⟩ | ⟨.setPipelineState .., _, _⟩ => [.events]
  | ⟨.submit _, _, _⟩ => [.tasks]
  | _ => []

namespace Ledger

variable {ledger : Ledger}

theorem placesOf_concat {α : Type} [Stored α] (records : List α) (r : α) :
    placesOf (records ++ [r]) = placesOf records ++ [(Stored.name α, Row.id r)] :=
  List.map_append

theorem placesOf_map {α : Type} [Stored α] {f : α → α} (hf : ∀ r, Row.id (f r) = Row.id r)
    (records : List α) : placesOf (records.map f) = placesOf records := by
  unfold placesOf
  rw [List.map_map]
  apply List.map_congr_left
  intro r _
  simp only [Function.comp_apply, hf]

theorem adds_of_split {next : Ledger} (place : TableName × Int)
    (before after : List (TableName × Int)) (hid : place.2 = ledger.last + 1)
    (hold : ledger.index.places = before ++ after)
    (hnew : next.index.places = before ++ place :: after)
    (hminted : next.minted = (ledger.last + 1) :: ledger.minted)
    (hlast : next.last = ledger.last + 1) : ledger.index.Adds [place.1] next.index := by
  have hids : idsAfter ledger.index.last [place.1].length = [place.2] := by
    simp [idsAfter, index, hid]
  constructor
  · rw [hids, hold, hnew, List.append_assoc]
    exact (List.perm_append_singleton place after).symm.append_left before
  · rw [hids, hid]
    exact hminted
  · exact hlast

theorem adds_message {m : Message} (h : Row.id m = ledger.last + 1) :
    ledger.index.Adds [.messages] (ledger.mint.addMessage m).index := by
  refine adds_of_split (Stored.name Message, Row.id m) (placesOf ledger.messages)
    (placesOf ledger.events ++ placesOf ledger.registrations ++ placesOf ledger.tasks) h ?_ ?_ rfl
    rfl
  · simp [index]
  · simp [index, addMessage, mint, placesOf_concat]

theorem adds_event {e : Event} (h : Row.id e = ledger.last + 1) :
    ledger.index.Adds [.events] (ledger.mint.addEvent e).index := by
  refine adds_of_split (Stored.name Event, Row.id e)
    (placesOf ledger.messages ++ placesOf ledger.events)
    (placesOf ledger.registrations ++ placesOf ledger.tasks) h ?_ ?_ rfl rfl
  · simp [index]
  · simp [index, addEvent, mint, placesOf_concat]

theorem adds_registration {r : Registration} (h : Row.id r = ledger.last + 1) :
    ledger.index.Adds [.agents] (ledger.mint.addRegistration r).index := by
  refine adds_of_split (Stored.name Registration, Row.id r)
    (placesOf ledger.messages ++ placesOf ledger.events ++ placesOf ledger.registrations)
    (placesOf ledger.tasks) h ?_ ?_ rfl rfl
  · simp [index]
  · simp [index, addRegistration, mint, placesOf_concat]

theorem adds_task {t : Task} (h : Row.id t = ledger.last + 1) :
    ledger.index.Adds [.tasks] (ledger.mint.addTask t).index := by
  refine adds_of_split (Stored.name Task, Row.id t) ledger.index.places [] h ?_ ?_ rfl rfl
  · simp
  · simp [index, addTask, mint, placesOf_concat]

theorem adds_register (now : Timestamp) (name : String) (pid : Option Int) (status : AgentStatus) :
    ledger.index.Adds [.agents] (ledger.register now name pid status).index :=
  adds_registration rfl

theorem adds_recordAll (now : Timestamp) (status : AgentStatus) (names : List String) :
    ledger.index.Adds (names.map fun _ => .agents) (ledger.recordAll now status names).index := by
  induction names generalizing ledger with
  | nil => exact .refl _
  | cons name names ih => exact (adds_register now name _ status).trans ih

theorem adds_changeMessages {p : Message → Bool} {f : Message → Message}
    (hf : ∀ m, (f m).id = m.id) : ledger.index.Adds [] (ledger.changeMessages p f).index := by
  have hplaces : placesOf (ledger.changeMessages p f).messages = placesOf ledger.messages := by
    apply placesOf_map
    intro m
    split
    · exact hf m
    · rfl
  have hindex : (ledger.changeMessages p f).index = ledger.index := by
    unfold index
    rw [hplaces]
    rfl
  exact hindex ▸ .refl _

theorem adds_changeTask {id : Int} {f : Task → Task} (hf : ∀ t, (f t).id = t.id) :
    ledger.index.Adds [] (ledger.changeTask id f).index := by
  have hplaces : placesOf (ledger.changeTask id f).tasks = placesOf ledger.tasks := by
    apply placesOf_map
    intro t
    split
    · exact hf t
    · rfl
  have hindex : (ledger.changeTask id f).index = ledger.index := by
    unfold index
    rw [hplaces]
    rfl
  exact hindex ▸ .refl _

end Ledger

theorem Effect.adds {ledger next : Ledger} {now : Timestamp} {call : Call} {answer : Answer}
    (h : Effect now ledger call answer next) :
    ledger.index.Adds (Deed.inserts ⟨call, now, answer⟩) next.index := by
  cases h with
  | sent => exact Ledger.adds_message rfl
  | registered | recordedStatus | unregistered => exact Ledger.adds_register _ _ _ _
  | cleaned => exact Ledger.adds_recordAll _ _ _
  | logged | setPipelineState => exact Ledger.adds_event rfl
  | submitted => exact Ledger.adds_task rfl
  | received | drained => exact Ledger.adds_changeMessages fun _ => rfl
  | claimed | completed | failed | routed => exact Ledger.adds_changeTask fun _ => rfl
  | receivedNothing | checked => exact .refl _
  | looked answer hlooks =>
    cases call with
    | send | register | recordStatus | unregister | cleanup | log | setPipelineState | submit =>
      cases hlooks
    | _ => exact .refl _

section Runs

variable {store : Store} {ledger : Ledger}

theorem Store.adds (hs : ledger.Sound) (h : store.tables.Holds ledger) (attempts : List Attempt) :
    store.index.Adds ((store.deeds attempts).flatMap Deed.inserts) (store.after attempts).index := by
  have hnothing : ledger.index.Adds (([] : List Deed).flatMap Deed.inserts) ledger.index := .refl _
  have hhistory := Store.history
    (fun deeds next => ledger.index.Adds (deeds.flatMap Deed.inserts) next.index) hs h hnothing ?_
    attempts
  · obtain ⟨last, -, hlast, hadds⟩ := hhistory
    rw [h.index_eq, hlast.index_eq]
    exact hadds
  · intro deeds middle next now call answer _ hadds heffect
    rw [List.flatMap_append]
    exact hadds.trans (by simpa using heffect.adds)

namespace Index.Adds

variable {index : Index} {tables : List TableName}

theorem length_of_empty (h : ({} : Ledger).index.Adds tables index) :
    index.places.length = tables.length := by
  simpa [Ledger.index, Ledger.placesOf] using h.places.length_eq

theorem ids_of_empty (h : ({} : Ledger).index.Adds tables index) :
    (index.places.map Prod.snd).Perm (idsAfter 0 index.places.length) := by
  have hids := h.places.map Prod.snd
  rw [List.map_append, List.map_snd_zip (by simp)] at hids
  rw [h.length_of_empty]
  exact hids

end Index.Adds

theorem Store.adds_of_empty (h : store.tables = {}) (attempts : List Attempt) :
    ({} : Ledger).index.Adds ((store.deeds attempts).flatMap Deed.inserts)
      (store.after attempts).index := by
  have hempty : store.tables.Holds {} := h ▸ Tables.holds_empty
  have hadds := Store.adds Ledger.sound_empty hempty attempts
  rwa [hempty.index_eq] at hadds

theorem Store.place_eq_of_id (h : store.tables = {}) (attempts : List Attempt)
    {a b : TableName × Int} (ha : a ∈ (store.after attempts).index.places)
    (hb : b ∈ (store.after attempts).index.places) (hid : a.2 = b.2) : a = b := by
  have hids := (Store.adds_of_empty h attempts).ids_of_empty
  have hdistinct := List.pairwise_map.1 (hids.nodup_iff.2 (nodup_idsAfter _ _))
  refine List.Pairwise.forall_of_forall_of_flip (R := fun a b => a.2 = b.2 → a = b)
    (fun _ _ _ => rfl) (hdistinct.imp ?_) (hdistinct.imp ?_) ha hb hid
  · exact fun hne heq => absurd heq hne
  · exact fun hne heq => absurd heq.symm hne

end Runs

def Encounter.Adds (e : Encounter) (tables : List TableName) : Prop :=
  e.found.index.Adds tables e.left.index

namespace Encounter

variable {e : Encounter} {ledger : Ledger} {name : String}

theorem adds (hs : ledger.Sound) (h : e.found.tables.Holds ledger) :
    e.Adds ((e.attempt.deed? e.found).toList.flatMap Deed.inserts) := by
  have hadds := Store.adds hs h [e.attempt]
  rwa [Store.deeds, Store.deeds, List.append_nil] at hadds

theorem adds_of_answer (hs : ledger.Sound) (h : e.found.tables.Holds ledger) {answer : Answer}
    (hanswer : e.answer = .ok answer) :
    e.Adds (Deed.inserts ⟨e.attempt.call, e.attempt.context.now, answer⟩) := by
  have hadds := adds hs h
  rw [Attempt.deed?_of_ok hanswer] at hadds
  simpa using hadds

theorem adds_of_poll (hs : ledger.Sound) (h : e.found.tables.Holds ledger)
    (hcall : e.attempt.call = .tryReceive name) : e.Adds [] := by
  cases hanswer : e.attempt.answer e.found with
  | ok answer =>
    have hadds := adds_of_answer hs h hanswer
    rwa [hcall] at hadds
  | error failure =>
    have hadds := adds hs h
    rwa [Attempt.deed?, hanswer] at hadds

end Encounter

theorem Store.found_of_mem_encounters {store : Store} {turns : List Turn} {e : Encounter}
    (hturns : ∀ turn ∈ turns, ∀ store, ∃ attempts, turn.others store = store.after attempts)
    (he : e ∈ store.encounters turns) : ∃ attempts, e.found = store.after attempts := by
  induction turns generalizing store with
  | nil => cases he
  | cons turn later ih =>
    obtain ⟨hturn, hlater⟩ := List.forall_mem_cons.1 hturns
    obtain ⟨before, hbefore⟩ := hturn store
    obtain rfl | he := List.mem_cons.1 he
    · exact ⟨before, hbefore⟩
    · obtain ⟨attempts, hfound⟩ := ih hlater he
      refine ⟨before ++ turn.attempt :: attempts, ?_⟩
      rw [hfound, Store.after_append, ← hbefore]
      rfl

namespace Receive

open Operation

variable {others : Others} {name : String} {context : Context} {limit : Option Nat}
  {patience : Nat} {run left : Run} {reception : Reception}

theorem encounters_of_received
    (h : perform (receive others patience name limit) context run = (.ok reception, left)) :
    ∃ turns first polls last, Course others name context turns ∧
      left.store = run.store.afterTurns turns ∧
      run.store.encounters turns = first :: (polls ++ [last]) ∧ first.found = run.store ∧
      first.attempt.call = .recordStatus name .waiting ∧ (∃ id, first.answer = .ok (.id id)) ∧
      (∀ poll ∈ polls, poll.attempt.call = .tryReceive name) ∧
      last.attempt.call = .recordStatus name .running ∧ ∃ id, last.answer = .ok (.id id) := by
  rw [perform_receive] at h
  split at h
  · cases h
  · rename_i first shown hwaiting
    split at h
    rename_i received waited hwait
    split at h
    rename_i restored ended hrunning
    obtain ⟨polls, hpolls⟩ := polls_of_wait hwait
    have hfirst := statusTurn_perform id hwaiting
    have hlast := statusTurn_perform others.afterPolls hrunning
    obtain failure | received := received
    · cases h
    obtain failure | last := restored
    · cases h
    · cases h
      refine ⟨_, ⟨_, run.store⟩, shown.store.encounters polls, ⟨_, others.afterPolls waited.store⟩,
        .full run waited fun i hi => by simpa using hpolls.eq_pollTurn i hi, ?_, ?_, rfl, rfl,
        ⟨first, Attempt.answer_of_perform hfirst⟩, ?_, rfl,
        ⟨last, Attempt.answer_of_perform hlast⟩⟩
      · rw [afterTurns_cons_of_perform hfirst, Store.afterTurns_append, ← hpolls.store_eq,
          afterTurns_cons_of_perform hlast]
        rfl
      · rw [encounters_cons_of_perform hfirst, Store.encounters_append, ← hpolls.store_eq,
          encounters_cons_of_perform hlast]
        rfl
      · intro poll hpoll
        obtain ⟨turn, hturn, hattempt⟩ := Store.mem_encounters hpoll
        obtain ⟨i, hi, rfl⟩ := List.mem_iff_getElem.1 hturn
        obtain ⟨pollRun, hpollRun⟩ := hpolls.eq_pollTurn i hi
        rw [hattempt, hpollRun]
        rfl

theorem adds_of_received {store : Store} (hempty : store.tables = {}) {attempts : List Attempt}
    (hothers : others.ByCalls)
    (h : perform (receive others patience name limit) context
      { run with store := store.after attempts } = (.ok reception, left)) :
    ∃ turns first polls last, Course others name context turns ∧
      left.store = (store.after attempts).afterTurns turns ∧
      (store.after attempts).encounters turns = first :: (polls ++ [last]) ∧
      first.found = store.after attempts ∧ first.Adds [.agents] ∧
      (∀ poll ∈ polls, poll.Adds []) ∧ last.Adds [.agents] := by
  obtain ⟨turns, first, polls, last, hcourse, hstore, hturns, hfound, hwaiting, ⟨_, hfirst⟩, hpolls,
    hrunning, ⟨_, hlast⟩⟩ := encounters_of_received h
  have hmeets : ∀ e ∈ (store.after attempts).encounters turns,
      ∃ ledger : Ledger, ledger.Sound ∧ e.found.tables.Holds ledger := by
    intro e he
    obtain ⟨later, hlater⟩ := Store.found_of_mem_encounters (hcourse.calls hothers) he
    rw [hlater, ← Store.after_append]
    exact Store.exists_ledger hempty _
  dsimp only at hturns
  rw [hturns] at hmeets
  refine ⟨turns, first, polls, last, hcourse, hstore, hturns, hfound, ?_, fun poll hpoll => ?_, ?_⟩
  · obtain ⟨ledger, hs, hholds⟩ := hmeets first (by simp)
    have hadds := Encounter.adds_of_answer hs hholds hfirst
    rwa [hwaiting] at hadds
  · obtain ⟨ledger, hs, hholds⟩ := hmeets poll (by simp [hpoll])
    exact Encounter.adds_of_poll hs hholds (hpolls poll hpoll)
  · obtain ⟨ledger, hs, hholds⟩ := hmeets last (by simp)
    have hadds := Encounter.adds_of_answer hs hholds hlast
    rwa [hrunning] at hadds

end Receive

theorem Ledger.recordAll_registrations (ledger : Ledger) (now : Timestamp) (status : AgentStatus)
    (names : List String) :
    ∃ marks, (ledger.recordAll now status names).registrations = ledger.registrations ++ marks ∧
      marks.map (·.id) = idsAfter ledger.last names.length ∧ marks.map (·.name) = names ∧
      ∀ mark ∈ marks, mark.status = status := by
  induction names generalizing ledger with
  | nil => exact ⟨[], (List.append_nil _).symm, by simp [idsAfter], rfl, by simp⟩
  | cons name names ih =>
    obtain ⟨marks, hmarks, hids, hnames, hstatus⟩ := ih (ledger.recordStatus now status name)
    refine ⟨⟨ledger.last + 1, now, name, ledger.lastPid name, status⟩ :: marks, ?_, ?_, ?_, ?_⟩
    · change (Ledger.recordAll _ now status names).registrations = _
      rw [hmarks, List.append_cons]
      rfl
    · have hlast : (ledger.recordStatus now status name).last = ledger.last + 1 := rfl
      rw [List.map_cons, hids, hlast, List.length_cons, Nat.add_comm, idsAfter_add]
      simp [idsAfter]
    · rw [List.map_cons, hnames]
    · exact List.forall_mem_cons.2 ⟨rfl, hstatus⟩

theorem Attempt.marks_of_cleanup {store : Store} {ledger : Ledger} {attempt : Attempt}
    {who : Option String} {names : List String} (hs : ledger.Sound)
    (h : store.tables.Holds ledger) (hcall : attempt.call = .cleanup who)
    (hanswer : attempt.answer store = .ok (.names names)) :
    ∃ marks : List Registration,
      (attempt.after store).tables.rows Registration =
        store.tables.rows Registration ++ marks.map Entry.plain ∧
      marks.map (·.id) = idsAfter store.index.last names.length ∧ marks.map (·.name) = names ∧
      ∀ mark ∈ marks, mark.status = .cleaned := by
  obtain ⟨next, hnext, heffect⟩ := attempt.effect_of_ok hs h hanswer
  rw [hcall] at heffect
  cases heffect with
  | cleaned who names hnames =>
    obtain ⟨marks, hmarks, hids, hmarked, hstatus⟩ :=
      ledger.recordAll_registrations attempt.context.now .cleaned names
    refine ⟨marks, ?_, ?_, hmarked, hstatus⟩
    · rw [hnext.registrations, hmarks, List.map_append, h.registrations]
    · rw [h.index_eq]
      exact hids
  | looked _ hlooks => cases hlooks

/-- Whatever clients have done to a store that was empty, successful or not: the ids of its rows,
whatever the tables, and the ids given out are 1, 2, ..., n, in the order in which the rows were
inserted; so is each row that is inserted later. Agents that are cleaned together take the next ids
in the order of their names, and a receiver takes one id before its wait and one after it. -/
theorem ids_are_dense (store : Store) (h : store.tables = {}) (attempts : List Attempt) :
    let reached := store.after attempts
    let inserted := (store.deeds attempts).flatMap Deed.inserts
    let n := reached.index.places.length
    (reached.index.places.map Prod.snd).Nodup ∧
      (reached.index.places.map Prod.snd).Perm (idsAfter 0 n) ∧
      reached.index.minted = (idsAfter 0 n).reverse ∧ reached.index.last = n ∧
      reached.index.places.Perm (inserted.zip (idsAfter 0 inserted.length)) ∧
      (∀ later : List Attempt,
        reached.index.Adds ((reached.deeds later).flatMap Deed.inserts)
            (reached.after later).index ∧
          (∀ place ∈ reached.index.places, place ∈ (reached.after later).index.places) ∧
          ∀ place ∈ (reached.after later).index.places,
            place ∈ reached.index.places ∨ ∀ old ∈ reached.index.places, old.2 < place.2) ∧
      (∀ (attempt : Attempt) (names : List String), attempt.call = .cleanup none →
        attempt.answer reached = .ok (.names names) →
        ∃ marks : List Registration,
          (attempt.after reached).tables.rows Registration =
            reached.tables.rows Registration ++ marks.map Entry.plain ∧
          marks.map (·.id) = idsAfter n names.length ∧ marks.map (·.name) = names ∧
          ∀ mark ∈ marks, mark.status = .cleaned) ∧
      ∀ (others : Receive.Others) (patience : Nat) (name : String) (limit : Option Nat)
        (context : Context) (run : Run) (reception : Receive.Reception), others.ByCalls →
        let received := Operation.perform (Receive.receive others patience name limit) context
          { run with store := reached }
        received.1 = .ok reception →
        ∃ turns first polls last, Receive.Course others name context turns ∧
          received.2.store = reached.afterTurns turns ∧
          reached.encounters turns = first :: (polls ++ [last]) ∧ first.found = reached ∧
          first.Adds [.agents] ∧ (∀ poll ∈ polls, poll.Adds []) ∧ last.Adds [.agents] := by
  have hadds := Store.adds_of_empty h attempts
  obtain ⟨ledger, hs, hholds⟩ := Store.exists_ledger h attempts
  have hlength := hadds.length_of_empty
  have hids := hadds.ids_of_empty
  have hlast : (store.after attempts).index.last = (store.after attempts).index.places.length := by
    rw [hadds.last, hlength]
    exact Int.zero_add _
  refine ⟨hids.nodup_iff.2 (nodup_idsAfter _ _), hids, ?_, hlast, ?_, fun later => ?_, ?_, ?_⟩
  · rw [hadds.minted, hlength]
    exact List.append_nil _
  · exact hadds.places
  · have hlater := Store.adds hs hholds later
    refine ⟨hlater, hlater.newer fun place hplace => ?_⟩
    have hid := mem_idsAfter.1 (hids.mem_iff.1 (List.mem_map_of_mem hplace))
    omega
  · intro attempt names hcall hanswer
    rw [← hlast]
    exact Attempt.marks_of_cleanup hs hholds hcall hanswer
  · intro others patience name limit context run reception hothers received hreceived
    exact Receive.adds_of_received h hothers (Prod.ext hreceived rfl)

/-- A rejected submission leaves no gap between the rows before it and those after it. -/
theorem rejected_submission_leaves_no_gap :
    let attempts := [Attempt.atEpoch (.register "worker" none) [],
      Attempt.atEpoch (.submit { submittedBy := "planner", taskType := "build", dependsOn := some 1 })
        [],
      Attempt.atEpoch (.send "worker" "hello" none) [],
      Attempt.atEpoch (.log "build" "start" "" "worker") [],
      Attempt.atEpoch (.submit { submittedBy := "planner", taskType := "build" }) []]
    let reached := ({} : Store).after attempts
    reached.index.places = [(.messages, 2), (.events, 3), (.agents, 1), (.tasks, 4)] ∧
      (reached.index.places.map Prod.snd).Perm (idsAfter 0 reached.index.places.length) :=
  ⟨by decide +kernel, (ids_are_dense {} rfl _).2.1⟩

end Switchboard
