import Switchboard.Proofs.Density

namespace Switchboard

namespace EventFilter

variable {α : Type} {filter : EventFilter} {events : List α}

/-- The event has the kind, tag and agent asked for, wherever it comes. -/
def wants (filter : EventFilter) (e : Event) : Bool := { filter with since := none }.accepts e

theorem accepts_after (filter : EventFilter) (cursor : Int) (e : Event) :
    (filter.after cursor).accepts e = (filter.wants e && decide (cursor < e.id)) := by
  simp [wants, accepts, after]

theorem cut_map {β : Type} (filter : EventFilter) (f : α → β) (events : List α) :
    filter.cut (events.map f) = (filter.cut events).map f := by
  unfold cut
  split
  · split
    · rfl
    · rw [List.map_take]
  · rfl

theorem cut_prefix (filter : EventFilter) (events : List α) : filter.cut events <+: events := by
  unfold cut
  split
  · split
    · exact List.prefix_refl _
    · exact List.take_prefix _ _
  · exact List.prefix_refl _

theorem cut_eq_self (hlimit : filter.limit ≠ some 0)
    (h : filter.cut events = [] ∨
      ∀ n, filter.limit = some n → 0 < n → (filter.cut events).length < n) :
    filter.cut events = events := by
  unfold cut at h ⊢
  split at h
  · rename_i n hn
    split at h
    · rename_i hneg
      rw [if_pos hneg]
    · rename_i hneg
      have hpos : 0 < n := by
        have : n ≠ 0 := fun hzero => hlimit (hzero ▸ hn)
        omega
      rw [if_neg hneg]
      obtain hempty | hshort := h
      · rw [List.take_eq_nil_iff] at hempty
        obtain hzero | rfl := hempty
        · omega
        · exact List.take_nil
      · have hlength := hshort n hn hpos
        rw [List.length_take] at hlength
        apply List.take_of_length_le
        omega
  · rfl

end EventFilter

namespace Event

variable {events : List Event}

/-- Events in ascending order of their ids, as those of a log are. -/
def Ascending (events : List Event) : Prop := events.Pairwise fun a b => a.id < b.id

theorem Ascending.filter (h : Ascending events) (p : Event → Bool) :
    Ascending (events.filter p) := List.Pairwise.filter p h

theorem Ascending.filter_append_filter (h : Ascending events) (p : Event → Bool) (cursor : Int) :
    events.filter (fun e => p e && decide (e.id ≤ cursor)) ++
        events.filter (fun e => p e && decide (cursor < e.id)) =
      events.filter p := by
  induction events with
  | nil => rfl
  | cons e rest ih =>
    obtain ⟨hfirst, hrest⟩ := List.pairwise_cons.1 h
    by_cases hle : e.id ≤ cursor
    · have hlt : ¬ cursor < e.id := by omega
      cases hp : p e <;> simp [hp, hle, hlt, ih hrest]
    · have hlt : cursor < e.id := by omega
      have hnone : rest.filter (fun e => p e && decide (e.id ≤ cursor)) = [] := by
        apply List.filter_eq_nil_iff.2
        intro later hlater
        have := hfirst later hlater
        simp only [Bool.and_eq_true, decide_eq_true_eq, not_and]
        omega
      have hih := ih hrest
      rw [hnone, List.nil_append] at hih
      cases hp : p e <;> simp [hp, hle, hlt, hnone, hih]

theorem Ascending.filter_le_last (h : Ascending events) {batch : List Event} {last : Event}
    (hbatch : batch <+: events) (hlast : batch.getLast? = some last) :
    events.filter (fun e => decide (e.id ≤ last.id)) = batch := by
  obtain ⟨rest, rfl⟩ := hbatch
  obtain ⟨before, rfl⟩ := List.getLast?_eq_some_iff.1 hlast
  obtain ⟨hbatch, -, hrest⟩ := List.pairwise_append.1 h
  have hkept : (before ++ [last]).filter (fun e => decide (e.id ≤ last.id)) = before ++ [last] := by
    apply List.filter_eq_self.2
    intro e he
    obtain he | he := List.mem_append.1 he
    · have := (List.pairwise_append.1 hbatch).2.2 e he last (by simp)
      simp only [decide_eq_true_eq]
      omega
    · obtain rfl := List.mem_singleton.1 he
      simp
  have hnone : rest.filter (fun e => decide (e.id ≤ last.id)) = [] := by
    apply List.filter_eq_nil_iff.2
    intro e he
    have := hrest last (by simp) e he
    simp only [decide_eq_true_eq]
    omega
  rw [List.filter_append, hkept, hnone, List.append_nil]

end Event

def Store.events (store : Store) : List Event := (store.tables.rows Event).map (·.record)

theorem Tables.Holds.events_eq {store : Store} {ledger : Ledger} (h : store.tables.Holds ledger) :
    store.events = ledger.events := by
  rw [Store.events, h.events, Entry.map_record_plain]

theorem Ledger.Sound.events_ascending {ledger : Ledger} (hs : ledger.Sound) :
    Event.Ascending ledger.events := hs.events.ascending

namespace EventLog

open Operation

variable {context : Context} {run left : Run} {ledger : Ledger}

theorem accepted_plain (filter : EventFilter) (events : List Event) :
    accepted filter (events.map Entry.plain) = (events.filter filter.accepts).map Entry.plain :=
  List.filter_map

theorem oldestFirst_plain (filter : EventFilter) (events : List Event) :
    oldestFirst filter (events.map Entry.plain) =
      (filter.cut (events.filter filter.accepts)).map Entry.plain := by
  rw [oldestFirst, accepted_plain, EventFilter.cut_map]

theorem newestFirst_plain (filter : EventFilter) (events : List Event) :
    newestFirst filter (events.map Entry.plain) =
      (filter.cut (events.filter filter.accepts).reverse).map Entry.plain := by
  rw [newestFirst, accepted_plain, ← List.map_reverse, EventFilter.cut_map]

theorem tail_ok {filter : EventFilter} {batch : List Event} (h : run.store.tables.Holds ledger)
    (htail : perform (tail filter) context run = (.ok batch, left)) :
    batch = filter.cut (ledger.events.filter filter.accepts) ∧ left.store.tables.Holds ledger := by
  obtain ⟨_, connected, hconnect, h₁⟩ := perform_bind_ok.1 htail
  have hconnected := connect_holds h hconnect
  obtain ⟨entries, selected, hselect, hpure⟩ := perform_bind_ok.1 h₁
  cases hpure
  obtain ⟨store, hstore, rfl⟩ := perform_statement_ok hselect
  obtain ⟨rfl, rfl⟩ :=
    Statement.select_holds hconnected (oldestFirst_plain filter ledger.events) hstore
  exact ⟨Entry.map_record_plain _, hconnected⟩

end EventLog

theorem Attempt.tail_ok {store : Store} {ledger : Ledger} {attempt : Attempt}
    {filter : EventFilter} {batch : List Event} (h : store.tables.Holds ledger)
    (hcall : attempt.call = .tail filter) (hanswer : attempt.answer store = .ok (.events batch)) :
    batch = filter.cut (ledger.events.filter filter.accepts) := by
  obtain ⟨_, left, htail, ⟨⟩⟩ := (answer_eq_ok (by rw [hcall]; rfl)).1 hanswer
  exact (EventLog.tail_ok h htail).1

/-- Events are only added, each of them with an id that had not been given out. -/
structure Ledger.Grows (earlier ledger : Ledger) : Prop where
  last : earlier.last ≤ ledger.last
  events : ∃ more, ledger.events = earlier.events ++ more ∧ ∀ e ∈ more, earlier.last < e.id

namespace Ledger.Grows

variable {first second third ledger next : Ledger}

theorem of_events_eq (hlast : first.last ≤ second.last) (h : second.events = first.events) :
    first.Grows second :=
  ⟨hlast, [], by rw [h, List.append_nil], fun _ he => absurd he List.not_mem_nil⟩

theorem refl (ledger : Ledger) : ledger.Grows ledger := of_events_eq (Int.le_refl _) rfl

theorem trans (h : first.Grows second) (h' : second.Grows third) : first.Grows third := by
  obtain ⟨more, hmore, hnew⟩ := h.events
  obtain ⟨most, hmost, hnewest⟩ := h'.events
  refine ⟨Int.le_trans h.last h'.last, more ++ most, ?_, ?_⟩
  · rw [hmost, hmore, List.append_assoc]
  · intro e he
    obtain he | he := List.mem_append.1 he
    · exact hnew e he
    · exact Int.lt_of_le_of_lt h.last (hnewest e he)

theorem addEvent {e : Event} (hid : e.id = ledger.last + 1) :
    ledger.Grows (ledger.mint.addEvent e) := by
  refine ⟨?_, [e], rfl, ?_⟩
  · change ledger.last ≤ ledger.last + 1
    omega
  · rintro _ (_ | ⟨_, ⟨⟩⟩)
    omega

end Ledger.Grows

theorem Effect.grows {ledger next : Ledger} {now : Timestamp} {call : Call} {answer : Answer}
    (h : Effect now ledger call answer next) : ledger.Grows next := by
  have hlast : ledger.last ≤ next.last := by
    have hadded : next.last = ledger.last + _ := h.adds.last
    omega
  cases h with
  | logged | setPipelineState => exact .addEvent rfl
  | cleaned => exact .of_events_eq hlast Ledger.recordAll_events
  | _ => exact .of_events_eq hlast rfl

theorem Store.grows {store : Store} {ledger : Ledger} (hs : ledger.Sound)
    (h : store.tables.Holds ledger) (attempts : List Attempt) :
    ∃ last, last.Sound ∧ (store.after attempts).tables.Holds last ∧ ledger.Grows last :=
  Store.invariant (fun next => ledger.Grows next) hs h (.refl ledger)
    (fun _ _ _ _ _ _ hgrows heffect => hgrows.trans heffect.grows) attempts

/-- A reader of the log: which events it wants, how far it has come, and what it has read. -/
structure Reader where
  filter : EventFilter
  /-- The reader wants the events after this id. -/
  start : Int
  /-- The last id that it has seen. -/
  cursor : Int := start
  batches : List (List Event) := []

namespace Reader

variable {reader : Reader} {ledger later : Ledger} {batch : List Event}

def covers (reader : Reader) (e : Event) : Bool :=
  decide (reader.start < e.id) && decide (e.id ≤ reader.cursor)

/-- The reader after another batch, with the cursor at the last event of it. -/
def next (reader : Reader) (batch : List Event) : Reader :=
  { reader with
    cursor := (batch.getLast?.map (·.id)).getD reader.cursor
    batches := reader.batches ++ [batch] }

/-- The reader has read all that it wants of what it has passed, and nothing else. It has passed no
id that is still to be given out. -/
structure Tracks (reader : Reader) (ledger : Ledger) : Prop where
  start_le : reader.start ≤ reader.cursor
  known : reader.cursor = reader.start ∨ reader.cursor ≤ ledger.last
  read : reader.batches.flatten =
    ledger.events.filter fun e => reader.filter.wants e && reader.covers e

namespace Tracks

theorem new (filter : EventFilter) (start : Int) (ledger : Ledger) :
    Tracks { filter, start } ledger := by
  refine ⟨Int.le_refl _, .inl rfl, ?_⟩
  have hnone : ledger.events.filter (fun e => filter.wants e &&
      covers { filter, start } e) = [] := by
    apply List.filter_eq_nil_iff.2
    intro e _
    simp only [covers, Bool.and_eq_true, decide_eq_true_eq, not_and]
    omega
  exact hnone.symm

theorem covered_of_grows (h : reader.Tracks ledger) (hgrows : ledger.Grows later)
    (p : Event → Bool) :
    later.events.filter (fun e => p e && reader.covers e) =
      ledger.events.filter fun e => p e && reader.covers e := by
  obtain ⟨more, hmore, hnew⟩ := hgrows.events
  have hnone : more.filter (fun e => p e && reader.covers e) = [] := by
    apply List.filter_eq_nil_iff.2
    intro e he
    have hlt := hnew e he
    have hknown := h.known
    simp only [covers, Bool.and_eq_true, decide_eq_true_eq, not_and]
    omega
  rw [hmore, List.filter_append, hnone, List.append_nil]

theorem grows (h : reader.Tracks ledger) (hgrows : ledger.Grows later) : reader.Tracks later := by
  refine ⟨h.start_le, ?_, ?_⟩
  · have hlast := hgrows.last
    have hknown := h.known
    omega
  · rw [h.read, h.covered_of_grows hgrows]

/-- What the reader has read is where the events that it wants begin; the others come after the
cursor. -/
theorem read_append (hs : ledger.Sound) (h : reader.Tracks ledger) :
    reader.batches.flatten ++ ledger.events.filter (fun e =>
        reader.filter.wants e && decide (reader.cursor < e.id)) =
      ledger.events.filter fun e => reader.filter.wants e && decide (reader.start < e.id) := by
  have hstart := h.start_le
  rw [h.read, ← hs.events_ascending.filter_append_filter
    (fun e => reader.filter.wants e && decide (reader.start < e.id)) reader.cursor]
  congr 1
  · apply List.filter_congr
    intro e _
    rw [covers, Bool.and_assoc]
  · apply List.filter_congr
    intro e _
    by_cases hafter : reader.cursor < e.id
    · have : reader.start < e.id := by omega
      simp [hafter, this]
    · simp [hafter]

theorem poll (hs : ledger.Sound) (h : reader.Tracks ledger)
    (hbatch : batch <+: ledger.events.filter fun e =>
      reader.filter.wants e && decide (reader.cursor < e.id)) :
    (reader.next batch).Tracks ledger := by
  have hstart := h.start_le
  have hunread := h.read_append hs
  cases hlast : batch.getLast? with
  | none =>
    obtain rfl := List.getLast?_eq_none_iff.1 hlast
    refine ⟨h.start_le, h.known, ?_⟩
    change (reader.batches ++ [[]]).flatten = _
    rw [List.flatten_append, h.read]
    exact List.append_nil _
  | some last =>
    have hnext : reader.next batch =
        { reader with cursor := last.id, batches := reader.batches ++ [batch] } := by
      rw [next, hlast]
      rfl
    obtain ⟨hmem, hpicked⟩ := List.mem_filter.1 (hbatch.subset (List.mem_of_getLast? hlast))
    have hafter : reader.cursor < last.id := by
      simpa using (Bool.and_eq_true_iff.1 hpicked).2
    rw [hnext]
    refine ⟨?_, .inr (hs.events.bounded last hmem), ?_⟩
    · change reader.start ≤ last.id
      omega
    · -- Of the events that were not yet read, the batch is those up to its last one.
      have hbatchEq := (hs.events_ascending.filter _).filter_le_last hbatch hlast
      have hread : reader.batches.flatten.filter (fun e => decide (e.id ≤ last.id)) =
          reader.batches.flatten := by
        apply List.filter_eq_self.2
        intro e he
        rw [h.read] at he
        have hcovers := (Bool.and_eq_true_iff.1 (List.mem_filter.1 he).2).2
        simp only [covers, Bool.and_eq_true, decide_eq_true_eq] at hcovers ⊢
        omega
      have hupTo := congrArg (List.filter fun e => decide (e.id ≤ last.id)) hunread
      rw [List.filter_append, hread, hbatchEq, List.filter_filter] at hupTo
      change (reader.batches ++ [batch]).flatten = _
      rw [List.flatten_append, List.flatten_singleton, hupTo]
      apply List.filter_congr
      intro e _
      rw [covers, Bool.and_comm, Bool.and_assoc]

end Tracks

end Reader

/-- A poll of a reader, and what other clients do before it. -/
structure Poll where
  before : List Attempt
  client : Client

namespace Reader

variable {store : Store} {ledger : Ledger} {reader : Reader}

def attempt (reader : Reader) (poll : Poll) : Attempt :=
  poll.client.attempt (.tail (reader.filter.after reader.cursor))

/-- The reader after the answer to its poll. A poll that fails leaves it as it is. -/
def hear (reader : Reader) : Except Failure Answer → Reader
  | .ok (.events batch) => reader.next batch
  | _ => reader

@[simp]
theorem filter_hear (reader : Reader) (answer : Except Failure Answer) :
    (reader.hear answer).filter = reader.filter := by
  unfold hear
  split <;> rfl

@[simp]
theorem start_hear (reader : Reader) (answer : Except Failure Answer) :
    (reader.hear answer).start = reader.start := by
  unfold hear
  split <;> rfl

theorem batch_of_tail (h : store.tables.Holds ledger) {attempt : Attempt} {batch : List Event}
    (hcall : attempt.call = .tail (reader.filter.after reader.cursor))
    (hanswer : attempt.answer store = .ok (.events batch)) :
    batch = reader.filter.cut (ledger.events.filter fun e =>
      reader.filter.wants e && decide (reader.cursor < e.id)) := by
  have haccepts : (reader.filter.after reader.cursor).accepts = fun e =>
      reader.filter.wants e && decide (reader.cursor < e.id) :=
    funext (EventFilter.accepts_after _ _)
  rw [← haccepts]
  exact Attempt.tail_ok h hcall hanswer

theorem Tracks.hear (hs : ledger.Sound) (h : store.tables.Holds ledger)
    (htracks : reader.Tracks ledger) (poll : Poll) :
    (reader.hear ((reader.attempt poll).answer store)).Tracks ledger := by
  unfold Reader.hear
  split
  · rename_i batch hanswer
    apply htracks.poll hs
    rw [batch_of_tail h rfl hanswer]
    exact reader.filter.cut_prefix _
  · exact htracks

end Reader

def Store.followed (store : Store) (reader : Reader) : List Poll → Store × Reader
  | [] => (store, reader)
  | poll :: polls =>
    let found := store.after poll.before
    let attempt := reader.attempt poll
    (attempt.after found).followed (reader.hear (attempt.answer found)) polls

theorem Store.tracks_followed {store : Store} {reader : Reader} {ledger : Ledger}
    (hs : ledger.Sound) (h : store.tables.Holds ledger) (htracks : reader.Tracks ledger)
    (polls : List Poll) :
    ∃ last : Ledger, last.Sound ∧ (store.followed reader polls).1.tables.Holds last ∧
      (store.followed reader polls).2.Tracks last ∧
      (store.followed reader polls).2.filter = reader.filter ∧
      (store.followed reader polls).2.start = reader.start := by
  induction polls generalizing store reader ledger with
  | nil => exact ⟨ledger, hs, h, htracks, rfl, rfl⟩
  | cons poll polls ih =>
    obtain ⟨found, hsfound, hfound, hothers⟩ := Store.grows hs h poll.before
    have hheard := (htracks.grows hothers).hear hsfound hfound poll
    obtain ⟨left, hsleft, hleft, hpoll⟩ := Store.grows hsfound hfound [reader.attempt poll]
    obtain ⟨last, hslast, hlast, htracksLast, hfilter, hstart⟩ := ih hsleft hleft (hheard.grows hpoll)
    rw [Reader.filter_hear] at hfilter
    rw [Reader.start_hear] at hstart
    exact ⟨last, hslast, hlast, htracksLast, hfilter, hstart⟩

/-- Whatever clients do to a store that was empty, before the polls of a reader, between them and
after them: what the reader has read are the events that it wants from its start up to its cursor,
each of them once and in ascending order, and they stay as they are. A poll that gets nothing, or
fewer events than it allows, has read all that there are. -/
theorem tailing_reads_each_event_once (store : Store) (h : store.tables = {})
    (earlier : List Attempt) (filter : EventFilter) (hlimit : filter.limit ≠ some 0) (start : Int)
    (polls : List Poll) (later : List Attempt) :
    let followed := (store.after earlier).followed { filter, start } polls
    let reader := followed.2
    let reached := followed.1.after later
    reader.batches.flatten = reached.events.filter (fun e =>
        filter.wants e && (decide (start < e.id) && decide (e.id ≤ reader.cursor))) ∧
      Event.Ascending reader.batches.flatten ∧
      reached.events.filter (fun e => decide (start < e.id) && decide (e.id ≤ reader.cursor)) =
        followed.1.events.filter (fun e =>
          decide (start < e.id) && decide (e.id ≤ reader.cursor)) ∧
      reached.tables.rows Event = reached.events.map Entry.plain ∧
      ∀ (attempt : Attempt) (batch : List Event),
        attempt.call = .tail (filter.after reader.cursor) →
        attempt.answer reached = .ok (.events batch) →
        (batch = [] ∨ ∀ n, filter.limit = some n → 0 < n → batch.length < n) →
        (reader.next batch).batches.flatten =
          reached.events.filter fun e => filter.wants e && decide (start < e.id) := by
  intro followed reader reached
  obtain ⟨ledger, hs, hholds⟩ := Store.exists_ledger h earlier
  obtain ⟨met, hsmet, hmet, htracks, hfilter, hstart⟩ :=
    Store.tracks_followed hs hholds (.new filter start ledger) polls
  obtain ⟨last, hslast, hlast, hgrows⟩ := Store.grows hsmet hmet later
  change reader.filter = filter at hfilter
  change reader.start = start at hstart
  have htracksLast : reader.Tracks last := htracks.grows hgrows
  have hread := htracksLast.read
  have hcovers : reader.covers = fun e =>
      decide (start < e.id) && decide (e.id ≤ reader.cursor) := by
    funext e
    rw [Reader.covers, hstart]
  rw [hfilter, hcovers] at hread
  have hevents : reached.events = last.events := hlast.events_eq
  rw [hevents]
  refine ⟨hread, ?_, ?_, hlast.events, ?_⟩
  · rw [hread]
    exact hslast.events_ascending.filter _
  · have hsame := htracks.covered_of_grows hgrows fun _ => true
    rw [hmet.events_eq, ← hcovers]
    simpa using hsame
  · intro attempt batch hcall hanswer hshort
    rw [← hfilter] at hcall hlimit hshort
    have hbatch := Reader.batch_of_tail hlast hcall hanswer
    rw [hbatch] at hshort
    rw [EventFilter.cut_eq_self hlimit hshort] at hbatch
    have hall := htracksLast.read_append hslast
    rw [← hbatch, hfilter, hstart] at hall
    change (reader.batches ++ [batch]).flatten = _
    rw [List.flatten_append, List.flatten_singleton, hall]

/-- A reader that is allowed one event at a time reads two of three, the one that it does not want
left out, and its next poll finds that there is no more. -/
theorem reader_catches_up :
    let earlier := [Attempt.atEpoch (.log "build" "start" "" "worker") [],
      Attempt.atEpoch (.log "test" "start" "" "worker") []]
    let filter := (EventFilter.ofKind "build").atMost 1
    let polls := [⟨[], .atEpoch⟩,
      ⟨[Attempt.atEpoch (.log "build" "stop" "" "worker") []], .atEpoch⟩]
    let followed := (({} : Store).after earlier).followed { filter, start := 0 } polls
    filter.limit ≠ some 0 ∧
      (followed.2.attempt ⟨[], .atEpoch⟩).answer followed.1 = .ok (.events []) ∧
      followed.2.batches.flatten.map (·.id) = [1, 3] ∧
      (followed.2.next []).batches.flatten =
        followed.1.events.filter (fun e => filter.wants e && decide (0 < e.id)) :=
  ⟨by decide, by decide +kernel, by decide +kernel,
    (tailing_reads_each_event_once {} rfl _ _ (by decide) 0 _ []).2.2.2.2
      (Client.atEpoch.attempt _) [] rfl (by decide +kernel) (.inl rfl)⟩

end Switchboard
