import Switchboard.Proofs.Json.Reading
import Switchboard.Proofs.Listing.Rows
import Switchboard.Proofs.Time.Reading

namespace Switchboard

open Text

namespace Json

@[simp]
theorem int64?_int {n : Int} (h : FitsInt64 n) : int64? (.int n) = some n :=
  if_pos h

@[simp]
theorem text?_text (s : String) : text? (.text s) = some s := rfl

@[simp]
theorem bool?_bool (b : Bool) : bool? (.bool b) = some b := rfl

@[simp]
theorem nullable?_optionalText (s : Option String) :
    nullable? text? (optionalText s) = some s := by
  cases s <;> rfl

theorem nullable?_optionalInt {n : Option Int} (h : ∀ found ∈ n, FitsInt64 found) :
    nullable? int64? (optionalInt n) = some n := by
  cases n with
  | none => rfl
  | some n => exact congrArg (Option.map some) (int64?_int (h n rfl))

end Json

namespace Timestamp

@[simp]
theorem ofJson?_toJson (t : Timestamp) : ofJson? t.toJson = some t :=
  read?_write .exact t

@[simp]
theorem nullable?_toJson (t : Option Timestamp) :
    Json.nullable? ofJson? ((t.map toJson).getD .null) = some t := by
  cases t with
  | none => rfl
  | some t =>
    have hread := ofJson?_toJson t
    unfold toJson at hread
    simp only [Option.map_some, Option.getD_some, toJson, Json.nullable?, hread]

end Timestamp

@[simp]
theorem Priority.ofJson?_toJson (priority : Priority) :
    Vocabulary.ofJson? (Vocabulary.toJson priority) = some priority := by
  cases priority <;> rfl

@[simp]
theorem TaskStatus.ofJson?_toJson (status : TaskStatus) :
    Vocabulary.ofJson? (Vocabulary.toJson status) = some status := by
  cases status <;> rfl

@[simp]
theorem AgentStatus.ofJson?_toJson (status : AgentStatus) :
    Vocabulary.ofJson? (Vocabulary.toJson status) = some status := by
  cases status <;> rfl

theorem Message.ofJson?_toJson {m : Message} (h : FitsInt64 m.id) : ofJson? m.toJson = some m := by
  simp [ofJson?, toJson, Json.record?, required?, optional?, List.lookup_cons, h]

theorem Event.ofJson?_toJson {e : Event} (h : FitsInt64 e.id) : ofJson? e.toJson = some e := by
  simp [ofJson?, toJson, Json.record?, required?, List.lookup_cons, h]

theorem AgentRecord.ofJson?_toJson {a : AgentRecord} (hpid : ∀ pid ∈ a.pid, FitsInt64 pid)
    (hpending : FitsInt64 a.pending) : ofJson? a.toJson = some a := by
  simp [ofJson?, toJson, Json.record?, required?, optional?, List.lookup_cons, hpending,
    Json.nullable?_optionalInt hpid]

theorem Task.ofJson?_toJson {t : Task} (hid : FitsInt64 t.id)
    (hdependsOn : ∀ id ∈ t.dependsOn, FitsInt64 id) : ofJson? t.toJson = some t := by
  simp [ofJson?, toJson, Json.record?, required?, optional?, List.lookup_cons, bind, Option.bind, hid,
    Json.nullable?_optionalInt hdependsOn]

namespace Json

attribute [simp] Whole.null Whole.bool Whole.int Whole.text

@[simp]
theorem whole_optionalText (s : Option String) : (optionalText s).Whole := by
  cases s with
  | none => exact .null
  | some s => exact .text s

@[simp]
theorem whole_optionalInt (n : Option Int) : (optionalInt n).Whole := by
  cases n with
  | none => exact .null
  | some n => exact .int n

end Json

@[simp]
theorem Timestamp.whole_toJson (t : Timestamp) : t.toJson.Whole := .text _

@[simp]
theorem Timestamp.whole_optional (t : Option Timestamp) :
    ((t.map toJson).getD .null).Whole := by
  cases t with
  | none => exact .null
  | some t => exact t.whole_toJson

@[simp]
theorem Vocabulary.whole_toJson {α : Type} [Vocabulary α] (a : α) : (toJson a).Whole := .text _

theorem Message.whole_toJson (m : Message) : m.toJson.Whole :=
  .object (by simp)

theorem Event.whole_toJson (e : Event) : e.toJson.Whole :=
  .object (by simp)

theorem AgentRecord.whole_toJson (a : AgentRecord) : a.toJson.Whole :=
  .object (by simp)

theorem Task.whole_toJson (t : Task) : t.toJson.Whole :=
  .object (by simp)

namespace Listing

/-- The text is empty if there are no items. Else it has a row for each item, and the row in an item's
place is read as that item. -/
def Tells {α : Type} (read : Json → Option α) (text : String) (items : List α) : Prop :=
  (items = [] → text = "") ∧
    (items ≠ [] → (rows text).map (fun row => (Json.read? row).bind read) = items.map some)

theorem tells_jsonLines {α : Type} {toJson : α → Json} {ofJson? : Json → Option α} {items : List α}
    (hwhole : ∀ item, (toJson item).Whole) (hread : ∀ item ∈ items, ofJson? (toJson item) = some item) :
    Tells ofJson? (jsonLines toJson items) items := by
  refine ⟨fun hnil => hnil ▸ rfl, fun hne => ?_⟩
  rw [jsonLines, rows_lines hne fun item _ => Json.newline_not_mem_write (hwhole item), List.map_map]
  refine List.map_congr_left fun item hitem => ?_
  rw [Function.comp_apply, Json.read?_write (hwhole item), Option.bind_some, hread item hitem]

/-- A listing of JSON objects tells the items of which it was made, whatever their texts and times are,
if their numbers fit into 64 bits. -/
theorem json_listings_decode :
    (∀ messages : List Message, (∀ m ∈ messages, FitsInt64 m.id) →
      Tells Message.ofJson? (jsonLines Message.toJson messages) messages) ∧
    (∀ events : List Event, (∀ e ∈ events, FitsInt64 e.id) →
      Tells Event.ofJson? (jsonLines Event.toJson events) events) ∧
    (∀ agents : List AgentRecord,
      (∀ a ∈ agents, (∀ pid ∈ a.pid, FitsInt64 pid) ∧ FitsInt64 a.pending) →
        Tells AgentRecord.ofJson? (jsonLines AgentRecord.toJson agents) agents) ∧
    ∀ tasks : List Task, (∀ t ∈ tasks, FitsInt64 t.id ∧ ∀ id ∈ t.dependsOn, FitsInt64 id) →
      Tells Task.ofJson? (jsonLines Task.toJson tasks) tasks := by
  refine ⟨fun messages h => ?_, fun events h => ?_, fun agents h => ?_, fun tasks h => ?_⟩
  · exact tells_jsonLines Message.whole_toJson fun m hm => Message.ofJson?_toJson (h m hm)
  · exact tells_jsonLines Event.whole_toJson fun e he => Event.ofJson?_toJson (h e he)
  · exact tells_jsonLines AgentRecord.whole_toJson fun a ha =>
      AgentRecord.ofJson?_toJson (h a ha).1 (h a ha).2
  · exact tells_jsonLines Task.whole_toJson fun t ht => Task.ofJson?_toJson (h t ht).1 (h t ht).2

/-- Control characters, quotes, ends of lines and the least and the largest number are among what is
told, of two items each. -/
theorem json_listings_decode_control :
    let messages : List Message :=
      [.unclaimed 9223372036854775807 .epoch none "\t" "\x00\r\n\"\\",
        .unclaimed 1 .epoch (some "\n") "" "\n\n"]
    let events : List Event := [⟨1, .epoch, "", "\n", "\x1f", "/"⟩, ⟨1, .epoch, "", "", "\n", ""⟩]
    let agents : List AgentRecord :=
      [⟨"a", some 12, .exited, 0, .epoch⟩, ⟨"\n", none, .cleaned, 1, .epoch⟩]
    let tasks : List Task :=
      [.queued 2 .epoch
          { submittedBy := "", taskType := "\n", dependsOn := some (-9223372036854775808) },
        .queued 1 .epoch { submittedBy := "\n", taskType := "" }]
    FitsInt64 (-9223372036854775808) ∧ FitsInt64 9223372036854775807 ∧
      Tells Message.ofJson? (jsonLines Message.toJson messages) messages ∧
      Tells Event.ofJson? (jsonLines Event.toJson events) events ∧
      Tells AgentRecord.ofJson? (jsonLines AgentRecord.toJson agents) agents ∧
      Tells Task.ofJson? (jsonLines Task.toJson tasks) tasks := by
  intro messages events agents tasks
  obtain ⟨hmessages, hevents, hagents, htasks⟩ := json_listings_decode
  exact ⟨by decide, by decide, hmessages messages (by decide), hevents events (by decide),
    hagents agents (by decide), htasks tasks (by decide)⟩

end Listing

end Switchboard
