import Switchboard.Proofs.CommandLine.Pieces
import Switchboard.Proofs.CommandLine.RoundTrip

namespace Switchboard.CommandLine

open Arguments

/-- The least number of positionals, the path of the store being one. -/
@[simp]
def Subcommand.fewest : Subcommand → Nat
  | .init | .agents | .listTasks | .nextTask | .cleanup | .tail | .pipelineState => 1
  | .check | .drain | .unregister | .query | .completeTask | .failTask | .recv | .register | .log
  | .send => 2
  | .submitTask | .claimTask => 3
  | .routeTask => 4

def Subcommand.most : Subcommand → Option Nat
  | .init | .agents | .listTasks | .nextTask => some 1
  | .check | .drain | .unregister | .query | .completeTask | .failTask | .cleanup | .tail
  | .pipelineState => some 2
  | .submitTask | .claimTask | .recv | .register => some 3
  | .routeTask | .log => some 4
  | .send => none

/-- The positionals that are left when the largest number is taken away. -/
def Subcommand.surplus (sub : Subcommand) (positionals : List String) : List String :=
  sub.most.elim [] positionals.drop

/-- What an argument has to be, where it cannot be just any text. -/
inductive ArgumentType where
  | int64
  | nat64
  | limit
  | priority
  | status

def ArgumentType.Valid : ArgumentType → String → Prop
  | .int64, text => ∃ n, Text.DenotesInt text.toList n ∧ Text.FitsInt64 n
  | .nat64, text => ∃ n, Text.DenotesNat text.toList n ∧ n ≤ Text.maxNat64
  | .limit, text => ∃ n, Text.DenotesInt text.toList n ∧ Text.FitsInt64 n ∧ 1 ≤ n
  | .priority, text => text ∈ ["high", "normal", "low"]
  | .status, text => text ∈ ["pending", "running", "complete", "failed"]

/-- The positionals with a type, by their places; the path of the store has the place 0. -/
@[simp]
def Subcommand.typedPositionals : Subcommand → List (Nat × ArgumentType)
  | .recv => [(2, .nat64)]
  | .register | .claimTask => [(2, .int64)]
  | .completeTask | .failTask | .routeTask => [(1, .int64)]
  | _ => []

@[simp]
def Subcommand.typedFlags : Subcommand → List (String × ArgumentType)
  | .tail | .query => [("since", .int64), ("limit", .limit)]
  | .submitTask => [("priority", .priority), ("depends-on", .int64)]
  | .listTasks => [("status", .status)]
  | _ => []

namespace Arguments

def ValidAt (args : Arguments) (place : Nat) (type : ArgumentType) : Prop :=
  ∀ text ∈ args.positionals[place]?, type.Valid text

def ValidFlag (args : Arguments) (flag : String) (type : ArgumentType) : Prop :=
  ∀ text ∈ args.value? flag, type.Valid text

/-- Every argument that is given and has a type is valid. -/
structure Valid (args : Arguments) (sub : Subcommand) : Prop where
  positionals : ∀ typed ∈ sub.typedPositionals, args.ValidAt typed.1 typed.2
  flags : ∀ typed ∈ sub.typedFlags, args.ValidFlag typed.1 typed.2

/-- The arguments are as many as the subcommand takes, and valid. -/
structure Suit (args : Arguments) (sub : Subcommand) : Prop where
  fewest : sub.fewest ≤ args.positionals.length
  most : ∀ m ∈ sub.most, args.positionals.length ≤ m
  valid : args.Valid sub

def leave (left : List String → List String) (args : Arguments) : Arguments :=
  { args with positionals := left args.positionals }

end Arguments

/-- The error is about a flag among the words of a subcommand. -/
inductive FlagError (sub : Subcommand) (words : List String) : UsageError → Prop where
  | unknown {word : String} (mem : word ∈ words) :
    FlagError sub words (.unknownFlag word (Vocabulary.word sub))
  | missing {name : String} (value : name ∈ sub.flags.values) :
    FlagError sub words (.missing ("--" ++ name))

def UsageError.IsSurplus : UsageError → Prop
  | .unexpected .. => True
  | _ => False

namespace Take

variable {α β : Type} {m : Take α} {next : α → Take β}
  {before between after : List String → List String} {meets meets' : Arguments → Prop}
  {reading : Reading α} {type : ArgumentType} {args : Arguments}

/-- With the positionals `before` left, the taking finds something in exactly the arguments that meet a
condition, and leaves the positionals `after` of them. In others it finds a fault, but not that there are
too many. -/
structure Demands (m : Take α) (before after : List String → List String)
    (meets : Arguments → Prop) : Prop where
  found : ∀ args, meets args → ∃ a, m.run (args.leave before) = .ok (a, args.leave after)
  refused : ∀ args, ¬ meets args → ∃ e, m.run (args.leave before) = .error e ∧ ¬ e.IsSurplus

theorem Demands.congr (h : Demands m before after meets) (hmeets : ∀ args, meets args ↔ meets' args) :
    Demands m before after meets' where
  found args hargs := h.found args ((hmeets args).2 hargs)
  refused args hargs := h.refused args fun hmeets' => hargs ((hmeets args).1 hmeets')

theorem demands_pure (a : α) : Demands (pure a) before before fun _ => True where
  found _ _ := ⟨a, rfl⟩
  refused _ h := absurd trivial h

theorem Demands.bind (h : Demands m before between meets)
    (hnext : ∀ a, Demands (next a) between after meets') :
    Demands (m >>= next) before after fun args => meets args ∧ meets' args where
  found args := by
    rintro ⟨hmeets, hmeets'⟩
    obtain ⟨a, hm⟩ := h.found args hmeets
    obtain ⟨b, hb⟩ := (hnext a).found args hmeets'
    refine ⟨b, ?_⟩
    rw [StateT.run_bind, hm]
    exact hb
  refused args hnot := by
    by_cases hmeets : meets args
    · obtain ⟨a, hm⟩ := h.found args hmeets
      obtain ⟨e, he, hsurplus⟩ := (hnext a).refused args fun hmeets' => hnot ⟨hmeets, hmeets'⟩
      refine ⟨e, ?_, hsurplus⟩
      rw [StateT.run_bind, hm]
      exact he
    · obtain ⟨e, he, hsurplus⟩ := h.refused args hmeets
      refine ⟨e, ?_, hsurplus⟩
      rw [StateT.run_bind, he]
      rfl

theorem Demands.map {f : α → β} (h : Demands m before after meets) :
    Demands (f <$> m) before after meets := by
  rw [map_eq_pure_bind]
  exact (h.bind fun a => demands_pure (f a)).congr fun _ => and_iff_left trivial

theorem demands_value (flag : String) : Demands (value flag) before before fun _ => True where
  found args _ := ⟨args.value? flag, rfl⟩
  refused _ h := absurd trivial h

theorem demands_switch (flag : String) : Demands (switch flag) before before fun _ => True where
  found args _ := ⟨args.hasSwitch flag, rfl⟩
  refused _ h := absurd trivial h

theorem demands_message : Demands message before (fun _ => []) fun _ => True where
  found args _ := by
    obtain ⟨positionals, values, switches⟩ := args
    rw [Arguments.leave]
    cases before positionals with
    | nil => exact ⟨none, rfl⟩
    | cons word words => exact ⟨some _, rfl⟩
  refused _ h := absurd trivial h

variable (place : Nat) (name : String)

theorem leave_drop_of_le (h : args.positionals.length ≤ place) :
    args.leave (List.drop place) = { args with positionals := [] } := by
  rw [Arguments.leave, List.drop_eq_nil_of_le h]

theorem leave_drop_of_lt (h : place < args.positionals.length) :
    args.leave (List.drop place) =
      { args with positionals := args.positionals[place] :: args.positionals.drop (place + 1) } := by
  rw [Arguments.leave, List.drop_eq_getElem_cons h]

theorem validAt_of_le (h : args.positionals.length ≤ place) : args.ValidAt place type := by
  rw [ValidAt, List.getElem?_eq_none h]
  nofun

theorem validAt_iff_of_lt (h : place < args.positionals.length) :
    args.ValidAt place type ↔ type.Valid args.positionals[place] := by
  simp [ValidAt, List.getElem?_eq_getElem h]

theorem demands_optional :
    Demands optional (List.drop place) (List.drop (place + 1)) fun _ => True where
  found args _ := by
    by_cases hplace : place < args.positionals.length
    · rw [leave_drop_of_lt place hplace]
      exact ⟨some _, rfl⟩
    · have hle : args.positionals.length ≤ place := Nat.le_of_not_lt hplace
      rw [leave_drop_of_le place hle, leave_drop_of_le (place + 1) (by omega)]
      exact ⟨none, rfl⟩
  refused _ h := absurd trivial h

theorem demands_required :
    Demands (required name) (List.drop place) (List.drop (place + 1))
      fun args => place < args.positionals.length where
  found args hplace := by
    rw [leave_drop_of_lt place hplace]
    exact ⟨_, rfl⟩
  refused args hplace := by
    rw [leave_drop_of_le place (Nat.le_of_not_lt hplace)]
    exact ⟨_, rfl, id⟩

section Typed

variable (h : ∀ text, (∃ a, reading text = .ok a) ↔ type.Valid text)

include h

theorem demands_parsed (raw : String) :
    Demands (parsed name reading raw) before before fun _ => type.Valid raw where
  found _ hvalid := by
    obtain ⟨a, hread⟩ := (h raw).2 hvalid
    rw [parsed, hread]
    exact ⟨a, rfl⟩
  refused _ hvalid := by
    cases hread : reading raw with
    | ok a => exact absurd ((h raw).1 ⟨a, hread⟩) hvalid
    | error reason =>
      rw [parsed, hread]
      exact ⟨_, rfl, id⟩

theorem demands_requiredAs :
    Demands (requiredAs name reading) (List.drop place) (List.drop (place + 1))
      fun args => place < args.positionals.length ∧ args.ValidAt place type where
  found args := by
    rintro ⟨hplace, hvalid⟩
    rw [leave_drop_of_lt place hplace]
    exact (demands_parsed name h _).found args ((validAt_iff_of_lt place hplace).1 hvalid)
  refused args hnot := by
    by_cases hplace : place < args.positionals.length
    · rw [validAt_iff_of_lt place hplace] at hnot
      rw [leave_drop_of_lt place hplace]
      exact (demands_parsed name h _).refused args fun hvalid => hnot ⟨hplace, hvalid⟩
    · rw [leave_drop_of_le place (Nat.le_of_not_lt hplace)]
      exact ⟨_, rfl, id⟩

theorem demands_optionalAs :
    Demands (optionalAs name reading) (List.drop place) (List.drop (place + 1))
      fun args => args.ValidAt place type where
  found args hvalid := by
    by_cases hplace : place < args.positionals.length
    · rw [leave_drop_of_lt place hplace]
      exact (demands_parsed name h _).map.found args ((validAt_iff_of_lt place hplace).1 hvalid)
    · have hle : args.positionals.length ≤ place := Nat.le_of_not_lt hplace
      rw [leave_drop_of_le place hle, leave_drop_of_le (place + 1) (by omega)]
      exact ⟨none, rfl⟩
  refused args hnot := by
    by_cases hplace : place < args.positionals.length
    · rw [validAt_iff_of_lt place hplace] at hnot
      rw [leave_drop_of_lt place hplace]
      exact (demands_parsed name h _).map.refused args hnot
    · exact absurd (validAt_of_le place (Nat.le_of_not_lt hplace)) hnot

omit h in
theorem run_valueAs (flag : String) (left : List String → List String) (args : Arguments) :
    (valueAs flag reading).run (args.leave left) =
      (match args.value? flag with
        | some raw => some <$> parsed ("--" ++ flag) reading raw
        | none => pure none : Take (Option α)).run (args.leave left) := rfl

theorem demands_valueAs (flag : String) :
    Demands (valueAs flag reading) before before fun args => args.ValidFlag flag type where
  found args hvalid := by
    rw [run_valueAs]
    cases hvalue : args.value? flag with
    | none => exact ⟨none, rfl⟩
    | some raw => exact (demands_parsed _ h raw).map.found args (hvalid raw hvalue)
  refused args hnot := by
    rw [run_valueAs]
    rw [ValidFlag] at hnot
    cases hvalue : args.value? flag with
    | none => simp [hvalue] at hnot
    | some raw =>
      refine (demands_parsed _ h raw).map.refused args ?_
      simpa [hvalue] using hnot

end Typed

theorem int64_valid (text : String) : (∃ n, int64 text = .ok n) ↔ ArgumentType.int64.Valid text :=
  exists_congr fun _ => int64_eq_ok_iff

theorem nat64_valid (text : String) : (∃ n, nat64 text = .ok n) ↔ ArgumentType.nat64.Valid text :=
  exists_congr fun _ => nat64_eq_ok_iff

theorem positive_valid (text : String) :
    (∃ n, positive text = .ok n) ↔ ArgumentType.limit.Valid text :=
  exists_congr fun _ => positive_eq_ok_iff

theorem read_ok_iff [Vocabulary α] (text : String) :
    (∃ a : α, Vocabulary.read text = .ok a) ↔ text ∈ (Vocabulary.all : List α).map Vocabulary.word := by
  rw [List.mem_map]
  unfold Vocabulary.read
  cases hword : (Vocabulary.ofWord? text : Option α) with
  | some a =>
    have hmem := List.mem_of_find?_eq_some hword
    have ha := List.find?_some hword
    exact iff_of_true ⟨a, rfl⟩ ⟨a, hmem, eq_of_beq ha⟩
  | none =>
    refine iff_of_false nofun ?_
    rintro ⟨a, hmem, ha⟩
    exact List.find?_eq_none.1 hword a hmem (beq_iff_eq.2 ha)

theorem priority_valid (text : String) :
    (∃ p : Priority, Vocabulary.read text = .ok p) ↔ ArgumentType.priority.Valid text :=
  read_ok_iff text

theorem status_valid (text : String) :
    (∃ s : TaskStatus, Vocabulary.read text = .ok s) ↔ ArgumentType.status.Valid text :=
  read_ok_iff text

/-- The request, before anything is said of positionals that are too many. -/
def unfinished (sub : Subcommand) : Take Request := do
  let store ← required "db"
  let command ← command sub
  pure { store, command }

theorem request_eq (sub : Subcommand) :
    request sub = unfinished sub >>= fun r => finish (Vocabulary.word sub) >>= fun _ => pure r := by
  simp [request, unfinished]

theorem valid_iff (args : Arguments) (sub : Subcommand) : args.Valid sub ↔
    (∀ typed ∈ sub.typedPositionals, args.ValidAt typed.1 typed.2) ∧
      ∀ typed ∈ sub.typedFlags, args.ValidFlag typed.1 typed.2 :=
  ⟨fun h => ⟨h.positionals, h.flags⟩, fun h => ⟨h.1, h.2⟩⟩

theorem demands_of_command (sub : Subcommand)
    (h : Demands (command sub) (List.drop 1) sub.surplus meets)
    (hmeets : ∀ args, 0 < args.positionals.length ∧ meets args ↔
      sub.fewest ≤ args.positionals.length ∧ args.Valid sub) :
    Demands (unfinished sub) (List.drop 0) sub.surplus
      fun args => sub.fewest ≤ args.positionals.length ∧ args.Valid sub := by
  refine ((demands_required 0 "db").bind fun _ => h.bind fun _ => demands_pure _).congr fun args => ?_
  rw [← hmeets, and_true]

theorem demands_newTask : Demands newTask (List.drop 1) (List.drop 3) fun args =>
    2 < args.positionals.length ∧ args.ValidFlag "priority" .priority ∧
      args.ValidFlag "depends-on" .int64 := by
  refine ((demands_required 1 "submitted_by").bind fun _ => (demands_required 2 "task_type").bind fun _ =>
    (demands_valueAs priority_valid _).bind fun _ => (demands_valueAs int64_valid _).bind fun _ =>
    (demands_value _).bind fun _ => (demands_value _).bind fun _ => (demands_value _).bind fun _ =>
    demands_pure _).congr fun args => ?_
  simp
  omega

theorem demands_unfinished (sub : Subcommand) : Demands (unfinished sub) (List.drop 0) sub.surplus
    fun args => sub.fewest ≤ args.positionals.length ∧ args.Valid sub := by
  -- Each subcommand takes its arguments in an order of its own; what all of them demand together is then
  -- compared with its row of the tables.
  cases sub with
  | init =>
    refine demands_of_command _ (demands_pure _) fun args => ?_
    simp [valid_iff]
    omega
  | send =>
    refine demands_of_command _ ((demands_required 1 "target").bind fun _ =>
      (demands_value _).bind fun _ => demands_message.bind fun _ => demands_pure _) fun args => ?_
    simp [valid_iff]
    omega
  | recv =>
    refine demands_of_command _ ((demands_required 1 "name").bind fun _ =>
      (demands_optionalAs 2 _ nat64_valid).bind fun _ => demands_pure _) fun args => ?_
    simp [valid_iff]
    grind
  | register =>
    refine demands_of_command _ ((demands_required 1 "name").bind fun _ =>
      (demands_optionalAs 2 _ int64_valid).bind fun _ => demands_pure _) fun args => ?_
    simp [valid_iff]
    grind
  | check | drain | unregister =>
    refine demands_of_command _ ((demands_required 1 "name").bind fun _ => demands_pure _) fun args => ?_
    simp [valid_iff]
    omega
  | agents | nextTask =>
    refine demands_of_command _ ((demands_switch _).bind fun _ => demands_pure _) fun args => ?_
    simp [valid_iff]
    omega
  | cleanup =>
    refine demands_of_command _ ((demands_optional 1).bind fun _ => demands_pure _) fun args => ?_
    simp [valid_iff]
    omega
  | log =>
    refine demands_of_command _ ((demands_required 1 "kind").bind fun _ =>
      (demands_optional 2).bind fun _ => (demands_optional 3).bind fun _ =>
      (demands_value _).bind fun _ => demands_pure _) fun args => ?_
    simp [valid_iff]
    omega
  | tail =>
    refine demands_of_command _ ((demands_optional 1).bind fun _ =>
      (demands_valueAs int64_valid _).bind fun _ => (demands_valueAs positive_valid _).bind fun _ =>
      (demands_switch _).bind fun _ => demands_pure _) fun args => ?_
    simp [valid_iff]
    grind
  | query =>
    refine demands_of_command _ ((demands_required 1 "kind").bind fun _ =>
      (demands_valueAs int64_valid _).bind fun _ => (demands_valueAs positive_valid _).bind fun _ =>
      (demands_value _).bind fun _ => (demands_value _).bind fun _ =>
      (demands_switch _).bind fun _ => demands_pure _) fun args => ?_
    simp [valid_iff]
    grind
  | submitTask =>
    refine demands_of_command _ (demands_newTask.bind fun _ => demands_pure _) fun args => ?_
    simp [valid_iff]
    grind
  | claimTask =>
    refine demands_of_command _ ((demands_required 1 "dispatcher").bind fun _ =>
      (demands_requiredAs 2 _ int64_valid).bind fun _ => demands_pure _) fun args => ?_
    simp [valid_iff]
    grind
  | completeTask | failTask =>
    refine demands_of_command _ ((demands_requiredAs 1 _ int64_valid).bind fun _ =>
      (demands_value _).bind fun _ => demands_pure _) fun args => ?_
    simp [valid_iff]
    grind
  | listTasks =>
    refine demands_of_command _ ((demands_valueAs status_valid _).bind fun _ =>
      (demands_value _).bind fun _ => (demands_switch _).bind fun _ => demands_pure _) fun args => ?_
    simp [valid_iff]
    grind
  | routeTask =>
    refine demands_of_command _ ((demands_requiredAs 1 _ int64_valid).bind fun _ =>
      (demands_required 2 "agent_file").bind fun _ => (demands_required 3 "model").bind fun _ =>
      demands_pure _) fun args => ?_
    simp [valid_iff]
    grind
  | pipelineState =>
    refine demands_of_command _ ((demands_optional 1).bind fun _ => (demands_value _).bind fun _ =>
      demands_pure _) fun args => ?_
    simp [valid_iff]
    omega

end Take

namespace Subcommand

variable {sub : Subcommand} {words : List String} {args : Arguments} {e : UsageError}
  {word : String}

theorem fewest_le_most (sub : Subcommand) : ∀ m ∈ sub.most, sub.fewest ≤ m := by
  cases sub <;> decide

theorem run'_request_of_found {r : Request}
    (h : (Take.unfinished sub).run args = .ok (r, args.leave sub.surplus)) :
    (Take.request sub).run' args =
      match sub.surplus args.positionals with
      | [] => .ok r
      | word :: _ => .error (.unexpected word (Vocabulary.word sub)) := by
  have hrun : (Take.request sub).run args =
      ((Take.finish (Vocabulary.word sub) >>= fun _ => pure r : Take Request)).run
        (args.leave sub.surplus) := by
    rw [Take.request_eq, StateT.run_bind, h]
    rfl
  rw [StateT.run'_eq, hrun, Arguments.leave]
  cases sub.surplus args.positionals <;> rfl

theorem run'_request_of_refused (h : (Take.unfinished sub).run args = .error e) :
    (Take.request sub).run' args = .error e := by
  have hrun : (Take.request sub).run args = .error e := by
    rw [Take.request_eq, StateT.run_bind, h]
    rfl
  rw [StateT.run'_eq, hrun]
  rfl

theorem parse_eq_of_split (hsplit : split (Vocabulary.word sub) sub.flags words = .ok args) :
    sub.parse words = (Take.request sub).run' args := by
  rw [Subcommand.parse, hsplit]
  rfl

theorem parse_of_split_eq_error (hsplit : split (Vocabulary.word sub) sub.flags words = .error e) :
    sub.parse words = .error e := by
  rw [Subcommand.parse, hsplit]
  rfl

theorem flagError_of_split_eq_error
    (hsplit : split (Vocabulary.word sub) sub.flags words = .error e) : FlagError sub words e := by
  obtain ⟨pieces, more, hbegins, hoffends⟩ := exists_of_split_eq_error sub.sound_flags hsplit
  cases hoffends with
  | unknown unknown =>
    apply FlagError.unknown
    simp [hbegins.words_eq]
  | missing hvalue => exact .missing hvalue

theorem suit_or_surplus_or_not_demanded (sub : Subcommand) (args : Arguments) :
    args.Suit sub ∨ (args.Valid sub ∧ ∃ m ∈ sub.most, ∃ word, args.positionals[m]? = some word) ∨
      ¬ (sub.fewest ≤ args.positionals.length ∧ args.Valid sub) := by
  by_cases h : sub.fewest ≤ args.positionals.length ∧ args.Valid sub
  · by_cases hmost : ∀ m ∈ sub.most, args.positionals.length ≤ m
    · exact .inl ⟨h.1, hmost, h.2⟩
    · simp only [not_forall, Nat.not_le] at hmost
      obtain ⟨m, hm, hlt⟩ := hmost
      exact .inr (.inl ⟨h.2, m, hm, _, List.getElem?_eq_getElem hlt⟩)
  · exact .inr (.inr h)

section Split

variable (hsplit : split (Vocabulary.word sub) sub.flags words = .ok args)

include hsplit

theorem parse_of_suit (h : args.Suit sub) : ∃ r, sub.parse words = .ok r := by
  obtain ⟨r, hfound⟩ : ∃ r, (Take.unfinished sub).run args = .ok (r, args.leave sub.surplus) :=
    (Take.demands_unfinished sub).found args ⟨h.fewest, h.valid⟩
  have hsurplus : sub.surplus args.positionals = [] := by
    cases hmost : sub.most with
    | none => simp [surplus, hmost]
    | some m => simpa [surplus, hmost] using h.most m hmost
  refine ⟨r, ?_⟩
  rw [parse_eq_of_split hsplit, run'_request_of_found hfound, hsurplus]

theorem parse_of_surplus (hvalid : args.Valid sub) {m : Nat} (hm : m ∈ sub.most)
    (hword : args.positionals[m]? = some word) :
    sub.parse words = .error (.unexpected word (Vocabulary.word sub)) := by
  obtain ⟨hlt, hget⟩ := List.getElem?_eq_some_iff.1 hword
  have hfewest : sub.fewest ≤ args.positionals.length :=
    Nat.le_trans (sub.fewest_le_most m hm) (Nat.le_of_lt hlt)
  obtain ⟨r, hfound⟩ : ∃ r, (Take.unfinished sub).run args = .ok (r, args.leave sub.surplus) :=
    (Take.demands_unfinished sub).found args ⟨hfewest, hvalid⟩
  have hsurplus : sub.surplus args.positionals = word :: args.positionals.drop (m + 1) := by
    rw [surplus, Option.mem_def.1 hm, Option.elim_some, List.drop_eq_getElem_cons hlt, hget]
  rw [parse_eq_of_split hsplit, run'_request_of_found hfound, hsurplus]

theorem parse_of_not_demanded (h : ¬ (sub.fewest ≤ args.positionals.length ∧ args.Valid sub)) :
    ∃ e, sub.parse words = .error e ∧ ¬ e.IsSurplus := by
  obtain ⟨e, hrefused, hsurplus⟩ : ∃ e, (Take.unfinished sub).run args = .error e ∧ ¬ e.IsSurplus :=
    (Take.demands_unfinished sub).refused args h
  refine ⟨e, ?_, hsurplus⟩
  rw [parse_eq_of_split hsplit, run'_request_of_refused hrefused]

theorem parse_of_not_suit (h : ¬ args.Suit sub) : ∃ e, sub.parse words = .error e := by
  obtain hsuit | ⟨hvalid, m, hm, word, hword⟩ | hnot := suit_or_surplus_or_not_demanded sub args
  · exact absurd hsuit h
  · exact ⟨_, parse_of_surplus hsplit hvalid hm hword⟩
  · obtain ⟨e, hparse, -⟩ := parse_of_not_demanded hsplit hnot
    exact ⟨e, hparse⟩

theorem parse_eq_ok_iff : (∃ r, sub.parse words = .ok r) ↔ args.Suit sub := by
  constructor
  · rintro ⟨r, hr⟩
    by_contra hsuit
    obtain ⟨e, he⟩ := parse_of_not_suit hsplit hsuit
    rw [hr] at he
    cases he
  · exact parse_of_suit hsplit

theorem parse_eq_unexpected_iff {command : String} :
    sub.parse words = .error (.unexpected word command) ↔
      command = Vocabulary.word sub ∧ args.Valid sub ∧
        ∃ m ∈ sub.most, args.positionals[m]? = some word := by
  constructor
  · intro hparse
    obtain hsuit | ⟨hvalid, m, hm, word', hword⟩ | hnot := suit_or_surplus_or_not_demanded sub args
    · obtain ⟨r, hr⟩ := parse_of_suit hsplit hsuit
      rw [hparse] at hr
      cases hr
    · rw [parse_of_surplus hsplit hvalid hm hword] at hparse
      cases hparse
      exact ⟨rfl, hvalid, m, hm, hword⟩
    · obtain ⟨e, he, hsurplus⟩ := parse_of_not_demanded hsplit hnot
      rw [hparse] at he
      cases he
      exact absurd trivial hsurplus
  · rintro ⟨rfl, hvalid, m, hm, hword⟩
    exact parse_of_surplus hsplit hvalid hm hword

end Split

end Subcommand

/-- A command line is read as a request exactly if its words can be taken apart and the arguments suit
the subcommand; otherwise it is refused. Flags are looked at first, and surplus positionals last. -/
theorem command_line_is_read_iff_arguments_suit (sub : Subcommand) (words : List String)
    (hshort : words.head? ≠ some "-h") (hlong : words.head? ≠ some "--help") :
    ((∃ r, Order.parse (Vocabulary.word sub :: words) = .ok (.run r)) ↔
      ∃ args, split (Vocabulary.word sub) sub.flags words = .ok args ∧ args.Suit sub) ∧
    ((¬ ∃ args, split (Vocabulary.word sub) sub.flags words = .ok args ∧ args.Suit sub) →
      ∃ e, Order.parse (Vocabulary.word sub :: words) = .error e) ∧
    (∀ e, split (Vocabulary.word sub) sub.flags words = .error e →
      Order.parse (Vocabulary.word sub :: words) = .error e ∧ FlagError sub words e) ∧
    ∀ word command,
      Order.parse (Vocabulary.word sub :: words) = .error (.unexpected word command) ↔
        command = Vocabulary.word sub ∧
          ∃ args, split (Vocabulary.word sub) sub.flags words = .ok args ∧ args.Valid sub ∧
            ∃ m ∈ sub.most, args.positionals[m]? = some word := by
  have hok : (∃ r, (sub.parse words).map Order.run = .ok (.run r)) ↔ ∃ r, sub.parse words = .ok r := by
    cases sub.parse words <;> simp [Except.map]
  have herror (e : UsageError) :
      (sub.parse words).map Order.run = .error e ↔ sub.parse words = .error e := by
    cases sub.parse words <;> simp [Except.map]
  simp only [Order.parse_cons hshort hlong, hok, herror]
  cases hsplit : split (Vocabulary.word sub) sub.flags words with
  | error e =>
    have hflag := Subcommand.flagError_of_split_eq_error hsplit
    rw [Subcommand.parse_of_split_eq_error hsplit]
    refine ⟨⟨nofun, nofun⟩, fun _ => ⟨e, rfl⟩, ?_, fun word command => ⟨?_, nofun⟩⟩
    · rintro _ ⟨⟩
      exact ⟨rfl, hflag⟩
    · rintro ⟨⟩
      cases hflag
  | ok args =>
    simp only [Except.ok.injEq, exists_eq_left']
    exact ⟨Subcommand.parse_eq_ok_iff hsplit, Subcommand.parse_of_not_suit hsplit, nofun,
      fun word command => Subcommand.parse_eq_unexpected_iff hsplit⟩

/-- Only the last limit has to be one. Of four positionals, the third is told. -/
theorem last_limit_is_read_and_third_positional_is_surplus :
    (∃ r, Order.parse ["tail", "run.db", "--limit=0", "alerts", "--limit=+5"] = .ok (.run r)) ∧
      Order.parse ["tail", "run.db", "--limit=0", "alerts", "--limit=+5", "more", "again"] =
        .error (.unexpected "more" "tail") := by
  have hvalid (positionals : List String) : Arguments.Valid
      { positionals, values := [("limit", "0"), ("limit", "+5")] } .tail := by
    refine ⟨nofun, List.forall_mem_cons.2 ⟨nofun, List.forall_mem_singleton.2 ?_⟩⟩
    rintro _ ⟨⟩
    exact (Take.positive_valid "+5").1 ⟨5, by decide +kernel⟩
  have hread := command_line_is_read_iff_arguments_suit .tail
    ["run.db", "--limit=0", "alerts", "--limit=+5"] (by decide) (by decide)
  have hsurplus := command_line_is_read_iff_arguments_suit .tail
    ["run.db", "--limit=0", "alerts", "--limit=+5", "more", "again"] (by decide) (by decide)
  constructor
  · refine hread.1.2 ⟨_, ?_, ?_, ?_, hvalid ["run.db", "alerts"]⟩
    · decide +kernel
    · decide
    · decide
  · refine (hsurplus.2.2.2 "more" "tail").2
      ⟨rfl, _, ?_, hvalid ["run.db", "alerts", "more", "again"], 2, rfl, rfl⟩
    decide +kernel

end Switchboard.CommandLine
