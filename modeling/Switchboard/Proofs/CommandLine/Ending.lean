import Switchboard.CommandLine.Program
import Switchboard.Proofs.CommandLine.Errand
import Switchboard.Proofs.Configuration
import Switchboard.Proofs.Contention
import Switchboard.Proofs.Indifference
import Switchboard.Proofs.Waiting

namespace Switchboard

open Operation

theorem FailureKind.exitCode_ne_zero (kind : FailureKind) : kind.exitCode ≠ 0 := by
  cases kind <;> decide

namespace Configuration

variable {lookup : String → Option String} {failure : Failure} {config : Configuration}

theorem kind_of_ofLookup (h : ofLookup lookup = .error failure) :
    failure.kind = .configuration := by
  obtain ⟨name, inner, -, rfl⟩ | ⟨config, -, -, rfl⟩ := ofLookup_eq_error h
  · rfl
  · rfl

theorem pollInterval_pos (h : ofLookup lookup = .ok config) : 0 < config.pollInterval :=
  (ofLookup_eq_ok_iff.1 h).1.positive.pollInterval.1

/-- Whatever the texts say, a configuration that they describe is one under which the pauses of
contention keep to their schedule. -/
theorem admitted_of_ofLookup (h : ofLookup lookup = .ok config) : config.Admitted := by
  obtain ⟨hdescribes, hretries⟩ := ofLookup_eq_ok_iff.1 h
  exact ⟨hretries, Nat.lt_succ_of_le hdescribes.positive.retryBackoff.2⟩

end Configuration

/-- A directory after a store was left under a path: the store is found as it was left, if somebody has
made it, and no other file is touched. -/
structure Directory.Saved (files : Directory) (path : String) (store : Store) (after : Directory) :
    Prop where
  found : isMade store → ∀ place other, files.Leads path place → after.Leads other place →
    after.storeAt other = store
  spared : ∀ place, (∀ address, files.locate path ≠ .ok (address, some place)) →
    after.lookup place = files.lookup place

theorem Directory.saved_save (files : Directory) (path : String) (store : Store) :
    files.Saved path store (files.save path store) where
  found hmade _ _ hleads := storeAt_save hleads hmade
  spared _ hplace := lookup_save_of_ne hplace store

namespace CommandLine

/-- The variables of a run: those of the environment, and those that a file adds. -/
def variablesOf (env : Environment) (files : Directory) : Environment :=
  (files.text? environmentFile).elim env env.addFile

def Request.perform (request : Request) (config : Configuration) (now : Timestamp)
    (around : Surroundings) (files : Directory) : Except Failure Reply × Run :=
  match request.command.errand around with
  | .error failure => (.error failure, { store := files.storeAt request.store })
  | .ok errand =>
    Handle.serve { path := request.store, config } errand around.others around.patience now files

/-- The report says of a command what came of it: that it succeeded and what it is to print, that a
wait has timed out, or that it failed, which is the last that is printed for people to read. Of a wait
that goes on nothing is printed. -/
def Report.Concludes (report : Report) (request : Request) (parentPid : Option Int) :
    Except Failure Reply → Prop
  | .ok (.reception .stillWaiting) =>
    (∃ name seconds, request.command = .recv name seconds ∧
      (recvLimit seconds).filter (· ≤ Receive.longestLimit) = none) ∧ report.output = ""
  | .ok (.reception .timedOut) =>
    (∃ name seconds, request.command = .recv name seconds) ∧
      report.exitCode = 1 ∧ report.output = "TIMEOUT\n" ∧ report.complaint = ""
  | .ok reply =>
    let text := request.command.rendering request.store parentPid reply
    report.exitCode = 0 ∧ report.output = (if text = "" then "" else text ++ "\n") ∧
      report.complaint = ""
  | .error failure =>
    report.exitCode = failure.kind.exitCode ∧ report.exitCode ≠ 0 ∧ report.output = "" ∧
      ∀ level time, ∃ told, report.log level time = told ++ "error: " ++ failure.message ++ "\n"

theorem printed_eq (text : String) : printed text = if text = "" then "" else text ++ "\n" := by
  unfold printed
  simp [String.isEmpty_iff]

theorem endedLines_singleton (line : String) : endedLines [line] = line ++ "\n" := by
  simp [endedLines, String.join]

section Report

variable {request : Request} {config : Configuration} {now : Timestamp} {around : Surroundings}
  {files : Directory} {words : List String} {env : Environment}

theorem prepare_eq_ok {vars : Environment} (hparse : Order.parse words = .ok (.run request))
    (hconfig : Configuration.ofLookup vars.get? = .ok config) :
    prepare words vars = .ok (request, config) := by
  rw [prepare, hparse]
  dsimp only
  rw [hconfig]

theorem run_of_prepare
    (h : prepare words (variablesOf env files) = .ok (request, config)) :
    let done := request.perform config now around files
    run words env now around files =
      (report (done.1.map (request.command.output request.store around.parentPid)) done.2,
        files.save request.store done.2.store) := by
  dsimp only
  unfold run
  dsimp only
  rw [← variablesOf, h]
  dsimp only
  unfold Handle.perform Request.perform
  have herrand : request.command.errand (around.reopening (files.reopened request.store)) =
      request.command.errand around := rfl
  rw [perform_execute, herrand]
  cases request.command.errand around with
  | error failure => rfl
  | ok errand => rfl

theorem Command.recv_of_errand {command : Command} {name : String} {limit : Option Nat}
    (h : command.errand around = .ok (.receive name limit)) :
    ∃ seconds, command = .recv name seconds ∧ limit = recvLimit seconds := by
  cases command with
  | recv other seconds =>
    cases h
    exact ⟨seconds, rfl, rfl⟩
  | send target sender body =>
    cases body with
    | some body => cases h
    | none =>
      rw [errand] at h
      cases hinput : bodyOfInput around.input with
      | ok body =>
        rw [hinput] at h
        cases h
      | error failure =>
        rw [hinput] at h
        cases h
  | pipelineState state agent => cases state <;> cases h
  | _ => cases h

theorem Request.perform_reception {reception : Receive.Reception} {left : Run}
    (h : request.perform config now around files = (.ok (.reception reception), left)) :
    ∃ name seconds, request.command = .recv name seconds ∧
      Operation.perform (Receive.receive (around.others.reopening (files.reopened request.store))
          around.patience name (recvLimit seconds))
        { path := request.store, config, now } { store := files.storeAt request.store } =
          (.ok reception, left) := by
  unfold perform at h
  cases herrand : request.command.errand around with
  | error failure =>
    rw [herrand] at h
    cases h
  | ok errand =>
    rw [herrand] at h
    cases errand with
    | call call =>
      obtain ⟨_, _, hreply⟩ := perform_map_ok.1 h
      cases hreply
    | receive name limit =>
      obtain ⟨seconds, hcommand, rfl⟩ := Command.recv_of_errand herrand
      obtain ⟨_, hreceive, hreply⟩ := perform_map_ok.1 h
      cases hreply
      exact ⟨name, seconds, hcommand, hreceive⟩

theorem Request.perform_ok {reply : Reply} {left : Run}
    (h : request.perform config now around files = (.ok reply, left)) :
    Directory.isMade left.store := by
  unfold perform at h
  cases herrand : request.command.errand around with
  | error failure =>
    rw [herrand] at h
    cases h
  | ok errand =>
    rw [herrand] at h
    exact Errand.isMade_of_ok rfl rfl h

theorem Request.perform_error {failure : Failure} {left : Run}
    (h : request.perform config now around files = (.error failure, left))
    (hrecv : ∀ name seconds, request.command ≠ .recv name seconds) :
    (files.storeAt request.store).Settled left.store := by
  unfold perform at h
  cases herrand : request.command.errand around with
  | error failure =>
    rw [herrand] at h
    cases h
    exact .inl rfl
  | ok errand =>
    rw [herrand] at h
    cases errand with
    | call call => exact call.recovers_operation _ _ _ _ (perform_map_error.1 h)
    | receive name limit =>
      obtain ⟨seconds, hcommand, -⟩ := Command.recv_of_errand herrand
      exact absurd hcommand (hrecv name seconds)

theorem Report.Concludes.timedOut {report : Report} {parentPid : Option Int}
    {outcome : Except Failure Reply} (h : report.Concludes request parentPid outcome)
    (hcode : report.exitCode ≠ 0) (houtput : report.output ≠ "") :
    report.exitCode = 1 ∧ report.output = "TIMEOUT\n" ∧
      ∃ name seconds, request.command = .recv name seconds := by
  obtain failure | reply := outcome
  · exact absurd h.2.2.1 houtput
  cases reply with
  | answer answer => exact absurd h.1 hcode
  | reception reception =>
    cases reception with
    | delivered message => exact absurd h.1 hcode
    | stillWaiting => exact absurd h.2 houtput
    | timedOut =>
      obtain ⟨⟨name, seconds, hcommand⟩, hone, htimeout, -⟩ := h
      exact ⟨hone, htimeout, name, seconds, hcommand⟩

theorem log_report_error (failure : Failure) (left : Run) (level : Option Level) (time : String) :
    ∃ told, (report (.error failure) left).log level time =
      told ++ "error: " ++ failure.message ++ "\n" := by
  refine ⟨{ report (.error failure) left with complaint := "" }.log level time, ?_⟩
  change _ ++ endedLines ["error: " ++ failure.message] =
    (_ ++ "") ++ "error: " ++ failure.message ++ "\n"
  rw [endedLines_singleton, String.append_empty]
  simp only [String.append_assoc]

theorem Request.concludes (hinterval : 0 < config.pollInterval) :
    let done := request.perform config now around files
    (report (done.1.map (request.command.output request.store around.parentPid)) done.2).Concludes
      request around.parentPid done.1 := by
  dsimp only
  rcases hdone : request.perform config now around files with ⟨failure | reply, left⟩
  · exact ⟨rfl, failure.kind.exitCode_ne_zero, rfl, log_report_error failure left⟩
  cases reply with
  | answer answer => exact ⟨rfl, printed_eq _, rfl⟩
  | reception reception =>
    obtain ⟨name, seconds, hcommand, hreceive⟩ := Request.perform_reception hdone
    cases reception with
    | delivered message => exact ⟨rfl, printed_eq _, rfl⟩
    | timedOut =>
      refine ⟨⟨name, seconds, hcommand⟩, rfl, ?_, rfl⟩
      rw [hcommand]
      rfl
    | stillWaiting =>
      exact ⟨⟨name, seconds, hcommand,
        Receive.limit_of_stillWaiting hinterval (congrArg Prod.fst hreceive)⟩, rfl⟩

end Report

/-- How a run ends by its command line and its variables. A command line that cannot be read and a
bad configuration end it with exit code 2, nothing printed, and every file as it was; help and the
version are given whatever the variables are; of any other command is reported what came of it, and
the store that it leaves is found in the directory afterwards. -/
def Ends (words : List String) (vars : Environment) (now : Timestamp) (around : Surroundings)
    (files : Directory) (done : Report × Directory) : Prop :=
  match Order.parse words with
  | .error e => done = ({ exitCode := 2, complaint := usageComplaint e }, files)
  | .ok .help => done = ({ exitCode := 0, output := helpText }, files)
  | .ok .version => done = ({ exitCode := 0, output := printed versionText }, files)
  | .ok (.run request) =>
    match Configuration.ofLookup vars.get? with
    | .error failure =>
      done = ({ exitCode := 2, complaint := "error: " ++ failure.message ++ "\n" }, files)
    | .ok config =>
      let (reply, left) := request.perform config now around files
      done.1.Concludes request around.parentPid reply ∧
        files.Saved request.store left.store done.2 ∧
        (reply.isOk → Directory.isMade left.store)

section Run

variable {words : List String} {env : Environment} {now : Timestamp} {around : Surroundings}
  {files : Directory}

theorem run_of_refused {report : Report}
    (h : prepare words (variablesOf env files) = .error report) :
    run words env now around files = (report, files) := by
  unfold run
  dsimp only
  rw [← variablesOf, h]

theorem run_ends : Ends words (variablesOf env files) now around files
    (run words env now around files) := by
  unfold Ends
  cases hparse : Order.parse words with
  | error e => exact run_of_refused (by rw [prepare, hparse]; rfl)
  | ok order =>
    cases order with
    | help => exact run_of_refused (by rw [prepare, hparse])
    | version => exact run_of_refused (by rw [prepare, hparse])
    | run request =>
      dsimp only
      cases hconfig : Configuration.ofLookup (variablesOf env files).get? with
      | error failure =>
        have hcode : failure.kind.exitCode = 2 := by
          rw [Configuration.kind_of_ofLookup hconfig]
          rfl
        refine run_of_refused ?_
        rw [prepare, hparse]
        dsimp only
        rw [hconfig]
        dsimp only
        rw [failureReport, hcode, endedLines_singleton]
      | ok config =>
        rw [run_of_prepare (prepare_eq_ok hparse hconfig)]
        refine ⟨Request.concludes (Configuration.pollInterval_pos hconfig),
          Directory.saved_save _ _ _, fun hok => ?_⟩
        rcases hdone : request.perform config now around files with ⟨failure | reply, left⟩
        · rw [hdone] at hok
          cases hok
        · exact Request.perform_ok hdone

theorem timedOut_of_printed {done : Report × Directory}
    (h : Ends words (variablesOf env files) now around files done) (hcode : done.1.exitCode ≠ 0)
    (houtput : done.1.output ≠ "") :
    done.1.exitCode = 1 ∧ done.1.output = "TIMEOUT\n" ∧
      ∃ request name seconds, Order.parse words = .ok (.run request) ∧
        request.command = .recv name seconds := by
  unfold Ends at h
  cases hparse : Order.parse words with
  | error e =>
    rw [hparse] at h
    cases h
    exact absurd rfl houtput
  | ok order =>
    rw [hparse] at h
    cases order with
    | help | version =>
      cases h
      exact absurd rfl hcode
    | run request =>
      dsimp only at h
      split at h
      · cases h
        exact absurd rfl houtput
      · obtain ⟨hone, htimeout, name, seconds, hcommand⟩ := h.1.timedOut hcode houtput
        exact ⟨hone, htimeout, request, name, seconds, rfl, hcommand⟩

theorem run_keeps (hcode : (run words env now around files).1.exitCode ≠ 0)
    (hrecv : ∀ request name seconds, Order.parse words = .ok (.run request) →
      request.command ≠ .recv name seconds) (place : Place) :
    ((run words env now around files).2.tablesAt place).SameContent (files.tablesAt place) := by
  cases hprepare : prepare words (variablesOf env files) with
  | error report =>
    rw [run_of_refused hprepare]
    exact .refl _
  | ok prepared =>
    obtain ⟨request, config⟩ := prepared
    have hparse : Order.parse words = .ok (.run request) := by
      unfold prepare at hprepare
      split at hprepare <;> try cases hprepare
      split at hprepare <;> cases hprepare
      assumption
    rw [run_of_prepare hprepare] at hcode ⊢
    dsimp only at hcode ⊢
    rcases hdone : request.perform config now around files with ⟨failure | reply, left⟩
    · have hkept := Request.perform_error hdone (hrecv request · · hparse)
      exact Directory.save_sameContent hkept.sameContent place
    · rw [hdone] at hcode
      cases reply with
      | answer answer => exact absurd rfl hcode
      | reception reception =>
        obtain ⟨name, seconds, hcommand, -⟩ := Request.perform_reception hdone
        exact absurd hcommand (hrecv request name seconds hparse)

end Run

-- The second connection to a store that is nowhere kept finds no tables.
example : (run ["recv", ":memory:", "bob", "1"] [] .epoch {} []).1.exitCode = 3 := by
  decide +kernel

end CommandLine

end Switchboard
