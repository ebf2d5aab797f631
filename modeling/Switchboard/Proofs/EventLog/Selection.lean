import Switchboard.Proofs.EventLog.Tailing
import Switchboard.Proofs.Reading

namespace Switchboard

namespace EventFilter

/-- The event is of the kind, the tag and the agent that are given, and comes after the bound. What is
not given does not restrict; an empty text is given as any other. -/
structure Matches (filter : EventFilter) (e : Event) : Prop where
  kind : ∀ kind, filter.kind = some kind → e.kind = kind
  tag : ∀ tag, filter.tag = some tag → e.tag = tag
  agent : ∀ agent, filter.agent = some agent → e.agent = agent
  since : ∀ bound, filter.since = some bound → bound < e.id

variable {α : Type} {filter : EventFilter} {e : Event}

theorem all_given_iff {given : Option String} {text : String} :
    given.all (· == text) = true ↔ ∀ wanted, given = some wanted → text = wanted := by
  cases given with
  | none => simp
  | some wanted =>
    rw [Option.all_some, beq_iff_eq]
    constructor
    · rintro rfl other hother
      exact Option.some.inj hother
    · exact fun h => (h wanted rfl).symm

theorem accepts_iff : filter.accepts e = true ↔ filter.Matches e := by
  have hsince : filter.since.all (· < e.id) = true ↔
      ∀ bound, filter.since = some bound → bound < e.id := by
    cases filter.since <;> simp
  rw [accepts, Bool.and_eq_true, Bool.and_eq_true, Bool.and_eq_true, all_given_iff, all_given_iff,
    all_given_iff, hsince]
  exact ⟨fun h => ⟨h.1.1.1, h.1.1.2, h.1.2, h.2⟩, fun h => ⟨⟨⟨h.kind, h.tag⟩, h.agent⟩, h.since⟩⟩

instance (filter : EventFilter) (e : Event) : Decidable (filter.Matches e) :=
  decidable_of_iff _ accepts_iff

theorem cut_of_unlimited (h : ∀ n, filter.limit = some n → n < 0) (items : List α) :
    filter.cut items = items := by
  unfold cut
  split
  · rename_i n hn
    rw [if_pos (h n hn)]
  · rfl

theorem cut_of_limit {n : Nat} (h : filter.limit = some (n : Int)) (items : List α) :
    filter.cut items = items.take n := by
  have hn : ¬ (n : Int) < 0 := by omega
  unfold cut
  rw [h]
  dsimp only
  rw [if_neg hn, Int.toNat_natCast]

theorem cut_one_reverse (filter : EventFilter) (items : List α) :
    (filter.atMost 1).cut items.reverse = items.getLast?.toList := by
  have hone : (filter.atMost 1).limit = some ((1 : Nat) : Int) := rfl
  rw [cut_of_limit hone, List.take_one, List.head?_reverse]

def onward (filter : EventFilter) (cursor : Int) : EventFilter :=
  filter.after (filter.since.elim cursor (max cursor))

theorem accepts_onward (filter : EventFilter) (cursor : Int) (e : Event) :
    (filter.onward cursor).accepts e = (filter.accepts e && decide (cursor < e.id)) := by
  unfold onward accepts after
  cases filter.since with
  | none => simp
  | some bound =>
    have hmax : decide (max cursor bound < e.id) =
        (decide (bound < e.id) && decide (cursor < e.id)) := by
      rw [Bool.eq_iff_iff]
      simp only [decide_eq_true_eq, Bool.and_eq_true]
      omega
    simp only [Option.elim_some, Option.all_some, hmax, Bool.and_assoc]

end EventFilter

/-- The events of a store that a filter is to find, in the order of their ids. -/
def Store.matching (store : Store) (filter : EventFilter) : List Event :=
  store.events.filter fun e => filter.Matches e

theorem Tables.Holds.matching_eq {store : Store} {ledger : Ledger} (h : store.tables.Holds ledger)
    (filter : EventFilter) : store.matching filter = ledger.events.filter filter.accepts := by
  rw [Store.matching, h.events_eq]
  refine List.filter_congr fun e _ => ?_
  rw [Bool.eq_iff_iff, decide_eq_true_iff]
  exact EventFilter.accepts_iff.symm

theorem EventLog.reads_newest (ledger : Ledger) (filter : EventFilter) :
    (Statement.select Event (newestFirst (filter.atMost 1))).Reads ledger
      ((ledger.events.filter filter.accepts).getLast?.toList.map Entry.plain) := by
  apply Statement.reads_select
  rw [← EventFilter.cut_one_reverse filter]
  exact newestFirst_plain (filter.atMost 1) ledger.events

namespace Call

variable {ledger : Ledger}

theorem tells_tail (ledger : Ledger) (filter : EventFilter) :
    (tail filter).Tells ledger
      (.events (filter.cut (ledger.events.filter filter.accepts))) := by
  refine .intro rfl (Statement.reads_select (EventLog.oldestFirst_plain filter ledger.events)) ?_
  intro context run
  rw [Entry.map_record_plain]
  rfl

theorem tells_query (ledger : Ledger) (filter : EventFilter) :
    (query filter).Tells ledger
      (.events (filter.cut (ledger.events.filter filter.accepts).reverse)) := by
  refine .intro rfl (Statement.reads_select (EventLog.newestFirst_plain filter ledger.events)) ?_
  intro context run
  rw [Entry.map_record_plain]
  rfl

theorem tells_latest (ledger : Ledger) (filter : EventFilter) :
    (latest filter).Tells ledger (.event (ledger.events.filter filter.accepts).getLast?) := by
  have hcall : (latest filter).operation = Answer.event <$> (do
      Operation.connect
      let entries ← Operation.statement .readEvents
        (Statement.select Event (EventLog.newestFirst (filter.atMost 1)))
      pure (entries.map (·.record)).head?) := by
    simp only [operation, EventLog.latest, EventLog.query, EventLog.readEvents, bind_assoc,
      pure_bind]
  refine .intro hcall (EventLog.reads_newest ledger filter) fun context run => ?_
  rw [Entry.map_record_plain, Option.head?_toList]
  rfl

end Call

/-- However clients have used a store that was empty, the reads of the event log agree with one list:
the events that match the filter, in the order of their ids, and each of them as it is stored. Where
there is no limit, or a negative one, going forward is told this list and going back its reverse. With a
limit of `n`, the one is told the first `n` events of it and the other the last `n`, newest first. At
whatever cursor somebody goes on, what comes up to it and what is told from there make up the list. The
newest event is the last of the list whatever the limit, and there is none exactly if the list is
empty. -/
theorem event_reads_agree (store : Store) (h : store.tables = {}) (earlier : List Attempt)
    (filter : EventFilter) :
    let reached := store.after earlier
    let all := reached.matching filter
    reached.tables.rows Event = reached.events.map Entry.plain ∧
      (∀ e, e ∈ all ↔ e ∈ reached.events ∧ filter.Matches e) ∧
      Event.Ascending all ∧
      ((∀ n, filter.limit = some n → n < 0) →
        reached.Tells (.tail filter) (.events all) ∧
          reached.Tells (.query filter) (.events all.reverse)) ∧
      (∀ n : Nat, filter.limit = some (n : Int) →
        ∃ newest, newest <:+ all ∧ newest.length = min n all.length ∧
          all.reverse.take n = newest.reverse ∧
          reached.Tells (.tail filter) (.events (all.take n)) ∧
          reached.Tells (.query filter) (.events newest.reverse)) ∧
      (∀ cursor : Int, (∀ n, filter.limit = some n → n < 0) →
        ∃ rest, all = all.filter (fun e => decide (e.id ≤ cursor)) ++ rest ∧
          (∀ e ∈ rest, cursor < e.id) ∧
          reached.Tells (.tail (filter.onward cursor)) (.events rest)) ∧
      reached.Tells (.latest filter) (.event all.getLast?) ∧
      (all.getLast? = none ↔ ∀ e ∈ reached.events, ¬ filter.Matches e) := by
  intro reached all
  obtain ⟨ledger, hs, hholds⟩ := Store.exists_ledger h earlier
  have hown : reached.tables.Own := Store.own_after h earlier
  have hall (other : EventFilter) : reached.matching other = ledger.events.filter other.accepts :=
    hholds.matching_eq other
  have htail (other : EventFilter) :
      reached.Tells (.tail other) (.events (other.cut (reached.matching other))) := by
    rw [hall]
    exact (Call.tells_tail ledger other).of_holds hholds hown
  have hquery (other : EventFilter) :
      reached.Tells (.query other) (.events (other.cut (reached.matching other).reverse)) := by
    rw [hall]
    exact (Call.tells_query ledger other).of_holds hholds hown
  have hascending : Event.Ascending all := by
    rw [show all = _ from hall filter]
    exact hs.events_ascending.filter _
  refine ⟨hholds.events_eq ▸ hholds.events, fun e => ?_, hascending, fun hlimit => ?_,
    fun n hlimit => ?_, fun cursor hlimit => ?_, ?_, ?_⟩
  · simp [all, Store.matching]
  · have hforward := htail filter
    have hback := hquery filter
    rw [EventFilter.cut_of_unlimited hlimit] at hforward hback
    exact ⟨hforward, hback⟩
  · have hforward := htail filter
    have hback := hquery filter
    rw [EventFilter.cut_of_limit hlimit] at hforward hback
    rw [List.take_reverse] at hback
    refine ⟨all.drop (all.length - n), List.drop_suffix _ _, ?_, List.take_reverse, hforward, hback⟩
    rw [List.length_drop]
    omega
  · have honward : (filter.onward cursor).accepts = fun e =>
        filter.accepts e && decide (cursor < e.id) := funext (filter.accepts_onward cursor)
    have hcut : (filter.onward cursor).cut (reached.matching (filter.onward cursor)) =
        reached.matching (filter.onward cursor) := EventFilter.cut_of_unlimited hlimit _
    have hforward := htail (filter.onward cursor)
    rw [hcut] at hforward
    refine ⟨reached.matching (filter.onward cursor), ?_, fun e he => ?_, hforward⟩
    · have hupTo : all.filter (fun e => decide (e.id ≤ cursor)) =
          ledger.events.filter fun e => filter.accepts e && decide (e.id ≤ cursor) := by
        rw [show all = _ from hall filter, List.filter_filter]
        exact List.filter_congr fun e _ => Bool.and_comm _ _
      rw [hupTo, hall, honward, hs.events_ascending.filter_append_filter filter.accepts cursor]
      exact hall filter
    · rw [hall, honward] at he
      exact of_decide_eq_true (Bool.and_eq_true_iff.1 (List.mem_filter.1 he).2).2
  · rw [show all = _ from hall filter]
    exact (Call.tells_latest ledger filter).of_holds hholds hown
  · rw [List.getLast?_eq_none_iff]
    change reached.events.filter _ = [] ↔ _
    rw [List.filter_eq_nil_iff]
    simp

/-- Of three events one is of another kind. Going forward, a reader that is allowed one event is told the
first of the others, and going back the last, which is the newest. -/
theorem first_and_last_build_are_told :
    let earlier := [Attempt.atEpoch (.log "build" "start" "" "worker") [],
      Attempt.atEpoch (.log "test" "start" "" "worker") [],
      Attempt.atEpoch (.log "build" "stop" "" "worker") []]
    let reached := ({} : Store).after earlier
    let first : Event := ⟨1, .epoch, "build", "start", "", "worker"⟩
    let last : Event := ⟨3, .epoch, "build", "stop", "", "worker"⟩
    let builds := EventFilter.ofKind "build"
    reached.Tells (.tail (builds.atMost 1)) (.events [first]) ∧
      reached.Tells (.query (builds.atMost 1)) (.events [last]) ∧
      reached.Tells (.query builds) (.events [last, first]) ∧
      reached.Tells (.tail (builds.onward 1)) (.events [last]) ∧
      reached.Tells (.latest builds) (.event (some last)) := by
  intro earlier reached first last builds
  have hall : reached.matching builds = [first, last] := by decide +kernel
  have hone : reached.matching (builds.atMost 1) = [first, last] := by decide +kernel
  have hunlimited : ∀ n, builds.limit = some n → n < 0 := nofun
  obtain ⟨-, -, -, hreads, -, hsplit, hlatest, -⟩ := event_reads_agree {} rfl earlier builds
  obtain ⟨-, -, -, -, hlimited, -⟩ := event_reads_agree {} rfl earlier (builds.atMost 1)
  obtain ⟨newest, -, -, hnewest, htail, hquery⟩ := hlimited 1 rfl
  obtain ⟨rest, hrest, -, honward⟩ := hsplit 1 hunlimited
  have hback := (hreads hunlimited).2
  rw [hone] at hnewest htail
  rw [← hnewest] at hquery
  rw [hall] at hback hrest hlatest
  obtain rfl : [last] = rest := (List.cons.inj hrest).2
  exact ⟨htail, hquery, hback, honward, hlatest⟩

end Switchboard
