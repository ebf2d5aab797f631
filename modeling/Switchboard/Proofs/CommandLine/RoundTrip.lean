import Switchboard.Proofs.CommandLine.Take

namespace Switchboard.CommandLine

/-- What is written where leaving it out says the default. The default is written out only if it is to be
explicit. -/
def written {α : Type} [DecidableEq α] (explicit : Bool) (default a : α) : Option α :=
  if explicit ∨ a ≠ default then some a else none

theorem getD_written {α : Type} [DecidableEq α] (explicit : Bool) (default a : α) :
    (written explicit default a).getD default = a := by
  unfold written
  split
  · rfl
  · simp_all

namespace Command

/-- The numbers are ones that 64 bits can hold, and a limit is at least 1. -/
def WellFormed : Command → Prop
  | .recv _ seconds => ∀ n ∈ seconds, n ≤ Text.maxNat64
  | .register _ pid => ∀ n ∈ pid, Text.FitsInt64 n
  | .tail _ since limit _ | .query _ _ _ since limit _ =>
    (∀ n ∈ since, Text.FitsInt64 n) ∧ ∀ n ∈ limit, Text.FitsInt64 n ∧ 1 ≤ n
  | .submitTask task => ∀ n ∈ task.dependsOn, Text.FitsInt64 n
  | .claimTask _ id | .completeTask id _ | .failTask id _ | .routeTask id _ _ => Text.FitsInt64 id
  | _ => True

variable (explicit : String → Bool)

def positionals : Command → List String
  | .init | .agents _ | .listTasks .. | .nextTask _ => []
  | .send target _ body => target :: body.toList
  | .recv name seconds => name :: (seconds.map toString).toList
  | .check name | .drain name | .unregister name => [name]
  | .register name pid => name :: (pid.map toString).toList
  | .cleanup name => name.toList
  | .log kind tag body _ =>
    match written (explicit "body") "" body with
    | some body => [kind, tag, body]
    | none => kind :: (written (explicit "tag") "" tag).toList
  | .tail kind .. => kind.toList
  | .query kind .. => [kind]
  | .submitTask task => [task.submittedBy, task.taskType]
  | .claimTask dispatcher id => [dispatcher, toString id]
  | .completeTask id _ | .failTask id _ => [toString id]
  | .routeTask id agentFile model => [toString id, agentFile, model]
  | .pipelineState state _ => state.toList

def flags : Command → List (String × Option String)
  | .send _ sender _ => [("from", sender)]
  | .log _ _ _ agent | .pipelineState _ agent =>
    [("agent", written (explicit "agent") "" agent)]
  | .tail _ since limit _ => [("since", since.map toString), ("limit", limit.map toString)]
  | .query _ tag agent since limit _ =>
    [("tag", tag), ("agent", agent), ("since", since.map toString), ("limit", limit.map toString)]
  | .submitTask task =>
    [("problem", task.problemId), ("scope", task.concernScope), ("payload", task.payloadPath),
      ("priority", (written (explicit "priority") .normal task.priority).map Vocabulary.word),
      ("depends-on", task.dependsOn.map toString)]
  | .completeTask _ output => [("output", output)]
  | .failTask _ error => [("error", error)]
  | .listTasks status taskType _ => [("status", status.map Vocabulary.word), ("type", taskType)]
  | _ => []

def values (c : Command) : List (String × String) :=
  (c.flags explicit).filterMap fun flag => flag.2.map (flag.1, ·)

def json : Command → Bool
  | .agents json | .tail _ _ _ json | .query _ _ _ _ _ json | .listTasks _ _ json
  | .nextTask json => json
  | _ => false

end Command

namespace Request

variable (explicit : String → Bool)

def arguments (r : Request) (values : List (String × String)) : Arguments where
  positionals := r.store :: r.command.positionals explicit
  values
  switches := if r.command.json then ["json"] else []

/-- The command line of a request, with its values in some order. -/
def line (r : Request) (values : List (String × String)) : List String :=
  Vocabulary.word r.command.subcommand :: (r.arguments explicit values).words

end Request

theorem Subcommand.sound_flags (sub : Subcommand) : sub.flags.Sound := by
  cases sub <;> constructor <;> decide

theorem Subcommand.ofWord?_word (sub : Subcommand) :
    Vocabulary.ofWord? (Vocabulary.word sub) = some sub := by
  cases sub <;> rfl

theorem read_word_status (status : TaskStatus) :
    Vocabulary.read (Vocabulary.word status) = .ok status := by
  cases status <;> rfl

theorem read_word_priority (priority : Priority) :
    Vocabulary.read (Vocabulary.word priority) = .ok priority := by
  cases priority <;> rfl

section Written

open Take

variable {explicit : String → Bool} {args : Arguments} {words : List String}

theorem Command.names_flags (explicit : String → Bool) (c : Command) :
    (c.flags explicit).map Prod.fst = c.subcommand.flags.values := by
  cases c <;> rfl

theorem Command.json_mem_flags (c : Command) (h : c.json) :
    "json" ∈ c.subcommand.flags.switches := by
  cases c <;> simp_all [Command.json, Command.subcommand, Subcommand.flags]

theorem Take.yields_newTask {task : NewTask} (h : (Command.submitTask task).WellFormed)
    (hvalues : ∀ flag ∈ (Command.submitTask task).flags explicit, args.value? flag.1 = flag.2) :
    newTask.Yields args [task.submittedBy, task.taskType] task [] := by
  simp only [Command.flags, List.forall_mem_cons] at hvalues
  obtain ⟨hproblem, hscope, hpayload, hpriority, hdepends, -⟩ := hvalues
  refine yields_required.bind <| yields_required.bind ?_
  refine (yields_valueAs hpriority fun p _ => read_word_priority p).bind ?_
  refine (yields_valueAs hdepends fun n hn => int64_toString (h n hn)).bind ?_
  refine (yields_value hproblem).bind <| (yields_value hscope).bind <|
    (yields_value hpayload).bind ?_
  rw [getD_written]
  exact yields_pure _

theorem Take.yields_log {kind tag body agent : String}
    (hagent : args.value? "agent" = written (explicit "agent") "" agent) :
    (command .log).Yields args ((Command.log kind tag body agent).positionals explicit)
      (.log kind tag body agent) [] := by
  have hbody := getD_written (explicit "body") "" body
  dsimp only [Command.positionals]
  cases hwritten : written (explicit "body") "" body with
  | some text =>
    rw [hwritten, Option.getD_some] at hbody
    subst hbody
    refine yields_required.bind <| yields_optional_cons.bind <| yields_optional_cons.bind <|
      (yields_value hagent).bind ?_
    rw [getD_written]
    exact yields_pure _
  | none =>
    rw [hwritten, Option.getD_none] at hbody
    subst hbody
    refine yields_required.bind <| (yields_optional _).bind <| (yields_optional none).bind <|
      (yields_value hagent).bind ?_
    rw [getD_written, getD_written]
    exact yields_pure _

theorem Take.yields_command {c : Command} (h : c.WellFormed)
    (hvalues : ∀ flag ∈ c.flags explicit, args.value? flag.1 = flag.2)
    (hjson : args.hasSwitch "json" = c.json) :
    (command c.subcommand).Yields args (c.positionals explicit) c [] := by
  simp only [Command.flags] at hvalues
  cases c with
  | init => exact yields_pure _
  | send target sender body =>
    obtain ⟨hsender, -⟩ := List.forall_mem_cons.1 hvalues
    exact yields_required.bind <| (yields_value hsender).bind <|
      (yields_message body).bind (yields_pure _)
  | recv name seconds =>
    exact yields_required.bind <|
      (yields_optionalAs fun n hn => nat64_toString (h n hn)).bind (yields_pure _)
  | check name => exact yields_required.bind (yields_pure _)
  | drain name => exact yields_required.bind (yields_pure _)
  | register name pid =>
    exact yields_required.bind <|
      (yields_optionalAs fun n hn => int64_toString (h n hn)).bind (yields_pure _)
  | unregister name => exact yields_required.bind (yields_pure _)
  | agents json => exact (yields_switch hjson).bind (yields_pure _)
  | cleanup name => exact (yields_optional name).bind (yields_pure _)
  | log kind tag body agent => exact yields_log (List.forall_mem_cons.1 hvalues).1
  | tail kind since limit json =>
    obtain ⟨hsince, hvalues⟩ := List.forall_mem_cons.1 hvalues
    obtain ⟨hlimit, -⟩ := List.forall_mem_cons.1 hvalues
    refine (yields_optional kind).bind ?_
    refine (yields_valueAs hsince fun n hn => int64_toString (h.1 n hn)).bind ?_
    refine (yields_valueAs hlimit fun n hn => positive_toString (h.2 n hn).1 (h.2 n hn).2).bind ?_
    exact (yields_switch hjson).bind (yields_pure _)
  | query kind tag agent since limit json =>
    simp only [List.forall_mem_cons] at hvalues
    obtain ⟨htag, hagent, hsince, hlimit, -⟩ := hvalues
    refine yields_required.bind ?_
    refine (yields_valueAs hsince fun n hn => int64_toString (h.1 n hn)).bind ?_
    refine (yields_valueAs hlimit fun n hn => positive_toString (h.2 n hn).1 (h.2 n hn).2).bind ?_
    exact (yields_value htag).bind <| (yields_value hagent).bind <|
      (yields_switch hjson).bind (yields_pure _)
  | submitTask task => exact (yields_newTask h hvalues).bind (yields_pure _)
  | claimTask dispatcher id =>
    exact yields_required.bind <| (yields_requiredAs (int64_toString h)).bind (yields_pure _)
  | completeTask id output =>
    obtain ⟨houtput, -⟩ := List.forall_mem_cons.1 hvalues
    exact (yields_requiredAs (int64_toString h)).bind <|
      (yields_value houtput).bind (yields_pure _)
  | failTask id error =>
    obtain ⟨herror, -⟩ := List.forall_mem_cons.1 hvalues
    exact (yields_requiredAs (int64_toString h)).bind <|
      (yields_value herror).bind (yields_pure _)
  | listTasks status taskType json =>
    obtain ⟨hstatus, hvalues⟩ := List.forall_mem_cons.1 hvalues
    obtain ⟨htype, -⟩ := List.forall_mem_cons.1 hvalues
    refine (yields_valueAs hstatus fun s _ => read_word_status s).bind ?_
    exact (yields_value htype).bind <| (yields_switch hjson).bind (yields_pure _)
  | nextTask json => exact (yields_switch hjson).bind (yields_pure _)
  | routeTask id agentFile model =>
    exact (yields_requiredAs (int64_toString h)).bind <|
      yields_required.bind <| yields_required.bind (yields_pure _)
  | pipelineState state agent =>
    obtain ⟨hagent, -⟩ := List.forall_mem_cons.1 hvalues
    refine (yields_optional state).bind <| (yields_value hagent).bind ?_
    rw [getD_written]
    exact yields_pure _

theorem Take.yields_request {r : Request} (h : r.command.WellFormed)
    (hvalues : ∀ flag ∈ r.command.flags explicit, args.value? flag.1 = flag.2)
    (hjson : args.hasSwitch "json" = r.command.json) :
    (request r.command.subcommand).Yields args (r.store :: r.command.positionals explicit) r [] :=
  yields_required.bind <| (yields_command h hvalues hjson).bind <| yields_finish.bind (yields_pure r)

end Written

theorem Subcommand.word_ne (sub : Subcommand) :
    Vocabulary.word sub ∉ ["-h", "--help", "help"] ∧
      Vocabulary.word sub ∉ ["-V", "-v", "--version"] := by
  cases sub <;> decide

theorem Subcommand.help_notMem_flags (sub : Subcommand) :
    "help" ∉ sub.flags.values ++ sub.flags.switches := by
  cases sub <;> decide

theorem Order.parse_cons {sub : Subcommand} {words : List String} (hshort : words.head? ≠ some "-h")
    (hlong : words.head? ≠ some "--help") :
    Order.parse (Vocabulary.word sub :: words) = (sub.parse words).map .run := by
  obtain ⟨hhelp, hversion⟩ := sub.word_ne
  rw [Order.parse, if_neg (not_or.2 ⟨hshort, hlong⟩), if_neg hhelp, if_neg hversion,
    sub.ofWord?_word]

namespace Request

variable {explicit : String → Bool} {r : Request} {values : List (String × String)}

theorem fits_arguments (hvalues : values.Perm (r.command.values explicit)) :
    (r.arguments explicit values).Fits r.command.subcommand.flags where
  values flag hflag := by
    obtain ⟨given, hgiven, hsome⟩ := List.mem_filterMap.1 (hvalues.mem_iff.1 hflag)
    obtain ⟨_, -, rfl⟩ := Option.map_eq_some_iff.1 hsome
    rw [← r.command.names_flags explicit]
    exact List.mem_map_of_mem hgiven
  switches name hname := by
    obtain ⟨store, command⟩ := r
    dsimp only [arguments] at hname
    split at hname
    · rw [List.mem_singleton.1 hname]
      exact command.json_mem_flags ‹_›
    · cases hname

theorem hasSwitch_arguments : (r.arguments explicit values).hasSwitch "json" = r.command.json := by
  unfold arguments Arguments.hasSwitch
  cases r.command.json <;> rfl

theorem head?_words_arguments (hvalues : values.Perm (r.command.values explicit)) {word : String}
    (hword : word ∈ ["-h", "--help"]) : (r.arguments explicit values).words.head? ≠ some word := by
  intro hhead
  obtain rfl | ⟨name, hname, value, hflag⟩ := Arguments.flag?_of_head?_words
    r.command.subcommand.sound_flags (fits_arguments hvalues) hhead
  · exact absurd hword (by decide)
  · rw [List.mem_cons, List.mem_singleton] at hword
    obtain rfl | rfl := hword
    · have hshort : Arguments.flag? "-h" = none := by decide
      rw [hshort] at hflag
      cases hflag
    · have hlong : Arguments.flag? "--help" = some ("help", none) := by decide
      rw [hlong] at hflag
      cases hflag
      exact r.command.subcommand.help_notMem_flags hname

theorem parse_line (h : r.command.WellFormed) (hvalues : values.Perm (r.command.values explicit)) :
    Order.parse (r.line explicit values) = .ok (.run r) := by
  have hsound := r.command.subcommand.sound_flags
  have hnames : ((r.command.flags explicit).map Prod.fst).Nodup := by
    rw [r.command.names_flags explicit]
    cases r.command.subcommand <;> decide
  have hread : ∀ flag ∈ r.command.flags explicit,
      (r.arguments explicit values).value? flag.1 = flag.2 :=
    fun _ hmem => Arguments.value?_of_perm hnames hvalues hmem
  have hrun : (Take.request r.command.subcommand).run' (r.arguments explicit values) = .ok r :=
    (Take.yields_request h hread hasSwitch_arguments).run'_eq
  rw [line, Order.parse_cons (head?_words_arguments hvalues (by decide))
    (head?_words_arguments hvalues (by decide)), Subcommand.parse,
    Arguments.split_words hsound (fits_arguments hvalues)]
  change Except.map Order.run
    ((Take.request r.command.subcommand).run' (r.arguments explicit values)) = _
  rw [hrun, Except.map]

end Request

namespace Take

theorem ensures_newTask : newTask.Ensures fun task => ∀ n ∈ task.dependsOn, Text.FitsInt64 n := by
  refine ensures_next fun _ => ensures_next fun _ => ensures_next fun _ => ?_
  refine (ensures_valueAs fun _ _ => int64_fits).bind fun depends hdepends => ?_
  exact ensures_next fun _ => ensures_next fun _ => ensures_next fun _ => ensures_pure hdepends

theorem ensures_command (sub : Subcommand) : (command sub).Ensures Command.WellFormed := by
  cases sub with
  | init => exact ensures_pure trivial
  | send =>
    exact ensures_next fun _ => ensures_next fun _ => ensures_next fun _ => ensures_pure trivial
  | recv =>
    refine ensures_next fun _ => ?_
    exact (ensures_optionalAs fun _ _ => nat64_le).bind fun _ h => ensures_pure h
  | check | drain | unregister | agents | cleanup | nextTask =>
    exact ensures_next fun _ => ensures_pure trivial
  | register =>
    refine ensures_next fun _ => ?_
    exact (ensures_optionalAs fun _ _ => int64_fits).bind fun _ h => ensures_pure h
  | log =>
    refine ensures_next fun _ => ensures_next fun _ => ?_
    exact ensures_next fun _ => ensures_next fun _ => ensures_pure trivial
  | tail =>
    refine ensures_next fun _ => ?_
    refine (ensures_valueAs fun _ _ => int64_fits).bind fun _ hsince => ?_
    refine (ensures_valueAs fun _ _ => positive_fits).bind fun _ hlimit => ?_
    exact ensures_next fun _ => ensures_pure ⟨hsince, hlimit⟩
  | query =>
    refine ensures_next fun _ => ?_
    refine (ensures_valueAs fun _ _ => int64_fits).bind fun _ hsince => ?_
    refine (ensures_valueAs fun _ _ => positive_fits).bind fun _ hlimit => ?_
    refine ensures_next fun _ => ensures_next fun _ => ensures_next fun _ => ?_
    exact ensures_pure ⟨hsince, hlimit⟩
  | submitTask => exact ensures_newTask.bind fun _ h => ensures_pure h
  | claimTask =>
    refine ensures_next fun _ => ?_
    exact (ensures_requiredAs fun _ _ => int64_fits).bind fun _ h => ensures_pure h
  | completeTask | failTask =>
    refine (ensures_requiredAs fun _ _ => int64_fits).bind fun _ h => ?_
    exact ensures_next fun _ => ensures_pure h
  | listTasks =>
    exact ensures_next fun _ => ensures_next fun _ => ensures_next fun _ => ensures_pure trivial
  | routeTask =>
    refine (ensures_requiredAs fun _ _ => int64_fits).bind fun _ h => ?_
    exact ensures_next fun _ => ensures_next fun _ => ensures_pure h
  | pipelineState => exact ensures_next fun _ => ensures_next fun _ => ensures_pure trivial

theorem ensures_request (sub : Subcommand) :
    (request sub).Ensures fun r => r.command.WellFormed := by
  refine ensures_next fun _ => (ensures_command sub).bind fun _ h => ?_
  exact ensures_next fun _ => ensures_pure h

end Take

theorem Subcommand.wellFormed_of_parse {sub : Subcommand} {words : List String} {r : Request}
    (h : sub.parse words = .ok r) : r.command.WellFormed := by
  rw [Subcommand.parse] at h
  cases hsplit : Arguments.split (Vocabulary.word sub) sub.flags words with
  | error flaw =>
    rw [hsplit] at h
    cases h
  | ok args =>
    rw [hsplit] at h
    obtain ⟨⟨_, left⟩, hrun, rfl⟩ := exists_of_map_eq_ok (f := Prod.fst) h
    exact Take.ensures_request sub args _ left hrun

theorem Order.wellFormed_of_parse {words : List String} {r : Request}
    (h : Order.parse words = .ok (.run r)) : r.command.WellFormed := by
  cases words with
  | nil => cases h
  | cons first rest =>
    rw [Order.parse] at h
    split at h
    · cases h
    · split at h
      · cases h
      · split at h
        · cases h
        · split at h
          · obtain ⟨_, hparse, heq⟩ := exists_of_map_eq_ok h
            cases heq
            exact Subcommand.wellFormed_of_parse hparse
          · cases h

/-- Command lines round-trip. However the values of a well-formed request are ordered, and whichever
defaults are written out, its line reads as exactly that request. Conversely every line that is read as
a request gives a well-formed one. So the requests that command lines can express are the well-formed
ones. -/
theorem command_lines_round_trip :
    (∀ (r : Request) (explicit : String → Bool) (values : List (String × String)),
      r.command.WellFormed → values.Perm (r.command.values explicit) →
        Order.parse (r.line explicit values) = .ok (.run r)) ∧
    (∀ (words : List String) (r : Request),
      Order.parse words = .ok (.run r) → r.command.WellFormed) ∧
    ∀ r : Request, (∃ words, Order.parse words = .ok (.run r)) ↔ r.command.WellFormed := by
  refine ⟨fun r explicit values => Request.parse_line, fun words r => Order.wellFormed_of_parse, ?_⟩
  intro r
  constructor
  · rintro ⟨words, h⟩
    exact Order.wellFormed_of_parse h
  · intro h
    exact ⟨r.line (fun _ => false) (r.command.values fun _ => false), Request.parse_line h (.refl _)⟩

/-- Numbers at both ends of their range, a kind that looks like a flag, and the flags in an order of one's
own. -/
theorem extreme_tail_round_trips :
    Order.parse ["tail", "--limit=9223372036854775807", "--since=-9223372036854775808", "--json", "--",
        "bus.db", "--help"] =
      .ok (.run
        { store := "bus.db"
          command := .tail (some "--help") (some (-9223372036854775808)) (some 9223372036854775807)
            true }) ∧
    (Command.tail (some "--help") (some (-9223372036854775808)) (some 9223372036854775807)
      true).WellFormed := by
  have hparse := command_lines_round_trip.1
    { store := "bus.db"
      command := .tail (some "--help") (some (-9223372036854775808)) (some 9223372036854775807) true }
    (fun _ => false) [("limit", "9223372036854775807"), ("since", "-9223372036854775808")]
    ⟨fun n hn => by cases hn; decide, fun n hn => by cases hn; decide⟩ (.swap _ _ [])
  exact ⟨hparse, command_lines_round_trip.2.1 _ _ hparse⟩

end Switchboard.CommandLine
