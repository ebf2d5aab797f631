import Switchboard.Proofs.Listing.Rows
import Switchboard.Proofs.Time.Reading

namespace Switchboard

open Text

namespace Event

open Listing

/-- The event that a row tells: four fields are cut off from the left and one from the right. -/
def ofRow? (row : String) : Option Event :=
  let (id, rest) := cutLeft '|' row.toList
  let (time, rest) := cutLeft '|' rest
  let (kind, rest) := cutLeft '|' rest
  let (tag, rest) := cutLeft '|' rest
  let (body, agent) := cutRight '|' rest
  do
    some
      { id := intValue id
        createdAt := ← Timestamp.read? (String.ofList time)
        kind := String.ofList kind
        tag := String.ofList tag
        body := String.ofList body
        agent := String.ofList agent }

/-- No text has a newline in it, and no text but the body a separator. -/
structure Plain (e : Event) : Prop where
  kind : IsCell e.kind
  tag : IsCell e.tag
  agent : IsCell e.agent
  body : '\n' ∉ e.body.toList

def told (e : Event) : Event := { e with createdAt := e.createdAt.cut .millis }

theorem toList_line (e : Event) :
    e.line.toList = (toString e.id).toList ++ '|' :: ((e.createdAt.write .millis).toList ++ '|' ::
      (e.kind.toList ++ '|' :: (e.tag.toList ++ '|' :: (e.body.toList ++ '|' :: e.agent.toList)))) := by
  simp [line]

theorem isCell_write (precision : Timestamp.Precision) (t : Timestamp) :
    IsCell (t.write precision) :=
  ⟨Timestamp.not_mem_write (by decide) (by decide) precision t,
    Timestamp.not_mem_write (by decide) (by decide) precision t⟩

theorem ofRow?_line {e : Event} (h : e.Plain) : ofRow? e.line = some e.told := by
  have hid := (isCell_toString e.id).separator
  have htime := (isCell_write .millis e.createdAt).separator
  simp only [ofRow?, toList_line, cutLeft_append hid, cutLeft_append htime,
    cutLeft_append h.kind.separator, cutLeft_append h.tag.separator,
    cutRight_append h.agent.separator, String.ofList_toList, Timestamp.read?_write,
    intValue_toString]
  rfl

theorem isRow_line {e : Event} (h : e.Plain) : IsRow e.line where
  ne_empty := by
    intro hempty
    have hlist := toList_line e
    rw [hempty] at hlist
    simp at hlist
  newline := by
    have hbar : '\n' ≠ '|' := by decide
    rw [toList_line]
    simp only [List.mem_append, List.mem_cons, not_or]
    exact ⟨(isCell_toString e.id).newline, hbar, (isCell_write .millis e.createdAt).newline, hbar,
      h.kind.newline, hbar, h.tag.newline, hbar, h.body, hbar, h.agent.newline⟩

end Event

namespace Listing

/-- A listing of events tells its events to the millisecond: each is read off its row, so lists with
the same listing are of the same length and agree in all places. -/
theorem event_listings_unambiguous :
    (∀ events others : List Event, (∀ e ∈ events, e.Plain) → (∀ e ∈ others, e.Plain) →
      lines Event.line events = lines Event.line others →
        events.map Event.told = others.map Event.told) ∧
    ∀ events : List Event, events ≠ [] → (∀ e ∈ events, e.Plain) →
      (rows (lines Event.line events)).map Event.ofRow? = events.map fun e => some e.told := by
  constructor
  · intro events others hevents hothers hlines
    refine map_told_of_lines_eq (fun _ => Event.isRow_line) (fun e f he hf hline => ?_) hevents hothers
      hlines
    have hread := congrArg Event.ofRow? hline
    rw [Event.ofRow?_line he, Event.ofRow?_line hf] at hread
    exact Option.some.inj hread
  · intro events hne hevents
    rw [rows_lines hne fun e he => (Event.isRow_line (hevents e he)).newline, List.map_map]
    exact List.map_congr_left fun e he => Event.ofRow?_line (hevents e he)

/-- Separators in a body and a leap second in a year of five digits are told, and what is less than a
millisecond is not. The rows of two events are cut apart. -/
theorem event_listings_unambiguous_leap :
    let early : Event :=
      ⟨-7, ⟨253402387199, 1999000001, by decide⟩, "lifecycle", "", "a||b|", "agent"⟩
    let late : Event := { early with createdAt := ⟨253402387199, 1999000002, by decide⟩ }
    let next : Event := ⟨8, .epoch, "", "tag", "|", ""⟩
    early.Plain ∧ late.Plain ∧ next.Plain ∧
      lines Event.line [early, next] = lines Event.line [late, next] ∧
      [early, next].map Event.told = [late, next].map Event.told ∧
      (rows (lines Event.line [early, next])).map Event.ofRow? =
        [some early.told, some next.told] := by
  intro early late next
  have hearly : early.Plain := ⟨by decide, by decide, by decide, by decide⟩
  have hlate : late.Plain := ⟨hearly.kind, hearly.tag, hearly.agent, hearly.body⟩
  have hnext : next.Plain := ⟨by decide, by decide, by decide, by decide⟩
  have hlines : lines Event.line [early, next] = lines Event.line [late, next] := by decide +kernel
  have hall {first : Event} (hfirst : first.Plain) : ∀ e ∈ [first, next], e.Plain :=
    List.forall_mem_cons.2 ⟨hfirst, List.forall_mem_singleton.2 hnext⟩
  exact ⟨hearly, hlate, hnext, hlines,
    event_listings_unambiguous.1 _ _ (hall hearly) (hall hlate) hlines,
    event_listings_unambiguous.2 _ (List.cons_ne_nil _ _) (hall hearly)⟩

end Listing

end Switchboard
