import Switchboard.Proofs.CommandLine.Body
import Switchboard.Proofs.CommandLine.Ending
import Switchboard.Proofs.Mailbox.Delivery

namespace Switchboard

open Operation

namespace Directory

theorem Leads.reopening_eq {files : Directory} {path : String} {place : Place}
    (h : files.Leads path place) (others : Receive.Others) :
    others.reopening (files.reopened path) = others := by
  obtain ⟨address, hlocate, -⟩ := h
  refine Directory.reopening_eq (fun address' hnone => ?_) others
  rw [hlocate] at hnone
  cases hnone

/-- At the place to which the path leads there is a store as clients make them, which was empty at
first. Nothing stands in the way of its use, and ids are left for a message and for the two rows of a
receiver. -/
structure Usable (files : Directory) (path : String) (place : Place) : Prop where
  leads : files.Leads path place
  reached : ∃ (base : Store) (earlier : List Attempt), base.tables = {} ∧
    files.storeAt path = base.after earlier
  available : (files.storeAt path).Available
  left : (files.storeAt path).tables.lastId + 3 ≤ Sequence.maxId

end Directory

namespace CommandLine

/-- The words ask for a command at a place, and the variables give a configuration to carry it out
with. -/
structure Asks (words : List String) (env : Environment) (files : Directory) (place : Place)
    (command : Command) : Prop where
  reads : ∃ path, Order.parse words = .ok (.run ⟨path, command⟩) ∧ files.Leads path place
  configured : ∃ config, Configuration.ofLookup (variablesOf env files).get? = .ok config

/-- What is printed is the body with the end of its line, or nothing if there is nothing in it. -/
structure Prints (report : Report) (body : String) : Prop where
  exitCode : report.exitCode = 0
  output : report.output = if body = "" then "" else body ++ "\n"

/-- Whoever is next to take from the mailbox of a name prints the body, by a wait for a message as well
as by a drain. During the wait nobody else acts, and if it has no end it is watched for one poll at
least. -/
structure Delivers (files : Directory) (place : Place) (name body : String) : Prop where
  recv : ∀ words env now around seconds, Asks words env files place (.recv name seconds) →
    around.others = {} →
    ((recvLimit seconds).filter (· ≤ Receive.longestLimit) = none → 0 < around.patience) →
    Prints (run words env now around files).1 body
  drain : ∀ words env now around, Asks words env files place (.drain name) →
    Prints (run words env now around files).1 body

/-- After the run of a `send` a message is ready to be delivered. -/
structure Sends (done : Report × Directory) (place : Place) (target body : String) : Prop where
  exitCode : done.1.exitCode = 0
  output : ∃ id : Int, done.1.output = s!"sent:{target}:{id}\n"
  delivers : Delivers done.2 place target body

section Calls

variable {request : Request} {config : Configuration} {now : Timestamp} {around : Surroundings}
  {files : Directory} {words : List String} {env : Environment}

def client (path : String) (config : Configuration) (now : Timestamp) : Client where
  context := { path, config, now }
  run := { store := {} }

theorem Request.perform_call {call : Call} (h : request.command.errand around = .ok (.call call)) :
    let attempt := (client request.store config now).attempt call
    let store := files.storeAt request.store
    request.perform config now around files =
      ((attempt.answer store).map .answer, (attempt.perform store).2) := by
  dsimp only
  unfold Request.perform
  rw [h]
  exact perform_map _ _ _ _

theorem printed_sent (target : String) (id : Int) :
    printed s!"sent:{target}:{id}" = s!"sent:{target}:{id}\n" := by
  rw [printed_eq, if_neg (by simp [toString])]
  rfl

end Calls

section Delivery

variable {files : Directory} {place : Place} {name target path : String} {base : Store}
  {earlier : List Attempt} {item : Item}

theorem delivers_of_queue (hbase : base.tables = {})
    (hstore : ∀ path, files.Leads path place → files.storeAt path = base.after earlier)
    (havailable : (base.after earlier).Available)
    (hleft : (base.after earlier).tables.lastId + 2 ≤ Sequence.maxId)
    (hqueue : (base.after earlier).queue name = [item]) : Delivers files place name item.body where
  recv := by
    rintro words env now around seconds ⟨⟨path, hparse, hleads⟩, config, hconfig⟩ hothers hwatched
    have hrun : ({ store := {} } : Run).Undisturbed (base.after earlier) :=
      ⟨rfl, havailable, nofun⟩
    obtain ⟨m, rfl, hreceive⟩ := Receive.receive_delivers_head hbase { path, config, now } hrun hleft
      hqueue hwatched
    have hdone : (Request.perform ⟨path, .recv name seconds⟩ config now around files).1 =
        .ok (.reception (.delivered m)) := by
      change (Operation.perform (Reply.reception <$> Receive.receive
        (around.others.reopening (files.reopened path)) _ _ _) _
          { store := files.storeAt path }).1 = _
      rw [hleads.reopening_eq, hothers, hstore path hleads, perform_map]
      exact congrArg (Except.map Reply.reception) hreceive
    rw [run_of_prepare (prepare_eq_ok hparse hconfig)]
    dsimp only
    rw [hdone]
    exact ⟨rfl, printed_eq m.body⟩
  drain := by
    rintro words env now around ⟨⟨path, hparse, hleads⟩, config, hconfig⟩
    have hrun : ((client path config now).attempt (.drain name)).run.Undisturbed (base.after earlier) :=
      ⟨rfl, havailable, nofun⟩
    obtain ⟨m, rfl, hdrain⟩ := Attempt.drain_single hbase rfl hrun hqueue
    rw [run_of_prepare (prepare_eq_ok hparse hconfig), Request.perform_call rfl]
    dsimp only
    rw [hstore path hleads, hdrain]
    exact ⟨rfl, printed_eq _⟩

theorem sends_of_errand {words : List String} {env : Environment} {now : Timestamp}
    {around : Surroundings} {config : Configuration} {given sender : Option String} {body : String}
    (h : files.Usable path place)
    (hqueue : (files.storeAt path).queue target = [])
    (hparse : Order.parse words = .ok (.run ⟨path, .send target sender given⟩))
    (hconfig : Configuration.ofLookup (variablesOf env files).get? = .ok config)
    (herrand : (Command.send target sender given).errand around =
      .ok (.call (.send target body sender))) :
    Sends (run words env now around files) place target body := by
  obtain ⟨hleads, ⟨base, earlier, hbase, hreached⟩, havailable, hleft⟩ := h
  rw [hreached] at hqueue havailable hleft
  let send := (client path config now).attempt (.send target body sender)
  have hrun : send.run.Undisturbed (base.after earlier) := ⟨rfl, havailable, nofun⟩
  obtain ⟨id, hanswer, hsent, hlast⟩ := Store.exists_sent hbase rfl hrun (by omega)
  have hafter : base.after (earlier ++ [send]) = send.after (base.after earlier) :=
    base.after_append earlier [send]
  rw [hqueue, List.nil_append, ← hafter] at hsent
  rw [← hafter] at hlast
  have hopen : (base.after (earlier ++ [send])).Available :=
    hafter ▸ (Store.writing_tended.after (base.after earlier) [send]).available havailable
  have hhas : (base.after (earlier ++ [send])).tables.has .messages :=
    Store.has_messages_of_queue hsent
  rw [run_of_prepare (prepare_eq_ok hparse hconfig), Request.perform_call herrand]
  dsimp only
  rw [hreached, hanswer]
  refine ⟨rfl, ⟨id, printed_sent target id⟩, ?_⟩
  refine delivers_of_queue hbase (fun other hother => ?_) hopen (by omega) hsent
  rw [← Attempt.after, ← hafter] at hother ⊢
  exact Directory.storeAt_save hleads (Directory.isMade_iff.2 ⟨hopen.openable, _, hhas⟩) hother

end Delivery

/-- Bodies survive the command line. If nothing stands in the way and nothing waits for the target, what
a `send` takes for the body is what the next `recv` or `drain` prints. From input that is the bytes of a
text it takes the text without the line ends after it, and from words after a `--` these words with
single spaces between them. Input that is the bytes of no text is refused: nothing is printed and no
row is changed. -/
theorem bodies_survive_the_command_line (files : Directory) (path : String) (place : Place)
    (h : files.Usable path place) (target : String)
    (hqueue : (files.storeAt path).queue target = []) (env : Environment)
    (hconfig : ∃ config, Configuration.ofLookup (variablesOf env files).get? = .ok config)
    (now : Timestamp) (around : Surroundings) :
    (∀ words sender, Order.parse words = .ok (.run ⟨path, .send target sender none⟩) →
      let done := run words env now around files
      (∀ text, around.input = Text.Utf8.encode text →
        ∃ body, IsBodyOf text body ∧ Sends done place target body) ∧
      ((∀ text, around.input ≠ Text.Utf8.encode text) →
        done.1.exitCode = 7 ∧ done.1.output = "" ∧
          ∀ other, (done.2.tablesAt other).SameContent (files.tablesAt other))) ∧
    ∀ (pieces : List Piece) (words message : List String),
      (∀ p ∈ pieces, p.Fits Subcommand.send.flags) →
      pieces.head? ≠ some (.positional "-h") →
      pieces.filterMap Piece.positional? ++ words = path :: target :: message → message ≠ [] →
      Sends (run ("send" :: (pieces.flatMap Piece.words ++ "--" :: words)) env now around files)
        place target (" ".intercalate message) := by
  obtain ⟨config, hconfig⟩ := hconfig
  refine ⟨fun words sender hparse => ⟨fun text hinput => ?_, fun hinput => ?_⟩, ?_⟩
  · obtain ⟨body, hbody, hisBody⟩ := exists_bodyOfInput text
    refine ⟨body, hisBody, sends_of_errand h hqueue hparse hconfig ?_⟩
    rw [Command.errand, hinput, hbody]
    rfl
  · obtain ⟨flaw, hbody⟩ := bodyOfInput_eq_error hinput
    have hdone : Request.perform ⟨path, .send target sender none⟩ config now around files =
        (.error (.undecodableInput flaw), { store := files.storeAt path }) := by
      rw [Request.perform, Command.errand, hbody]
      rfl
    rw [run_of_prepare (prepare_eq_ok hparse hconfig)]
    dsimp only
    rw [hdone]
    exact ⟨rfl, rfl, Directory.save_sameContent (.refl _)⟩
  · intro pieces words message hfits hhelp hpositionals hmessage
    obtain ⟨sender, hparse⟩ := parse_send hfits hhelp hpositionals hmessage
    exact sends_of_errand h hqueue hparse hconfig rfl

/-- Of the input only the last line ends are left out. Words that look like flags or are empty are kept
after a `--`. -/
theorem line_ends_inside_a_body_survive :
    let around : Surroundings := { input := [97, 13, 10, 98, 13, 10, 10] }
    let place : Place := ⟨0, Address.bytes "coord.db"⟩
    let sent := run ["send", "coord.db", "worker"] [] .epoch around []
    let done := run ["recv", "coord.db", "worker", "1"] [] .epoch {} sent.2
    Sends sent place "worker" "a\r\nb" ∧ done.1.exitCode = 0 ∧ done.1.output = "a\r\nb\n" ∧
      Sends (run ["send", "coord.db", "worker", "--", "--from", "", "-h"] [] .epoch around []) place
        "worker" "--from  -h" := by
  intro around place sent done
  have hlocate : Directory.locate [] "coord.db" =
      .ok ({ path := Address.bytes "coord.db" }, some place) := by decide +kernel
  have hstore : Directory.storeAt [] "coord.db" = {} := by
    rw [Directory.storeAt, hlocate]
    change Directory.blankStore _ place = {}
    rw [Directory.blankStore, if_neg (by decide +kernel)]
    rfl
  have husable : Directory.Usable [] "coord.db" place :=
    ⟨⟨_, hlocate, rfl⟩, ⟨{}, [], rfl, hstore⟩, hstore ▸ ⟨rfl, rfl, rfl, rfl, rfl⟩,
      hstore ▸ by decide⟩
  have hconfig : Configuration.ofLookup (variablesOf [] []).get? = .ok .standard := by
    decide +kernel
  obtain ⟨hinput, hwords⟩ := bodies_survive_the_command_line [] "coord.db" place husable "worker"
    (hstore ▸ rfl) [] ⟨_, hconfig⟩ .epoch around
  obtain ⟨body, hbody, hsends⟩ := (hinput ["send", "coord.db", "worker"] none (by decide +kernel)).1
    "a\r\nb\r\n\n" (by decide +kernel)
  have hexpected : IsBodyOf "a\r\nb\r\n\n" "a\r\nb" :=
    ⟨⟨['\r', '\n', '\n'], by decide, by simp⟩, by simp⟩
  obtain rfl : body = "a\r\nb" := hbody.unique hexpected
  have hleads : sent.2.Leads "coord.db" place := by
    have hsame : Directory.locate sent.2 "coord.db" =
        .ok ({ path := Address.bytes "coord.db" }, some place) := by decide +kernel
    exact ⟨_, hsame, rfl⟩
  have hasks : Asks ["recv", "coord.db", "worker", "1"] [] sent.2 place (.recv "worker" (some 1)) :=
    ⟨⟨"coord.db", by decide +kernel, hleads⟩, .standard, by decide +kernel⟩
  obtain ⟨hcode, houtput⟩ := hsends.delivers.recv _ _ .epoch {} _ hasks rfl (by decide)
  have hjoined : " ".intercalate ["--from", "", "-h"] = "--from  -h" := by decide
  have hspoken := hwords [.positional "coord.db", .positional "worker"] ["--from", "", "-h"]
    ["--from", "", "-h"] (by decide) (by decide) (by decide) (by decide)
  rw [hjoined] at hspoken
  exact ⟨hsends, hcode, houtput, hspoken⟩

end CommandLine

end Switchboard
