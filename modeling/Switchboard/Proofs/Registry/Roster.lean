import Mathlib.Data.List.Sort
import Switchboard.Proofs.Mailbox.Availability
import Switchboard.Proofs.Mailbox.Queue
import Switchboard.Proofs.Text.ByteOrder

namespace Switchboard

/-- Both sorts are stable, so they agree also where different items are of the same rank. -/
theorem mergeSort_eq_insertionSort {α : Type} {le : α → α → Bool}
    (htrans : ∀ a b c, le a b → le b c → le a c) (htotal : ∀ a b, le a b || le b a) (xs : List α) :
    xs.mergeSort le = xs.insertionSort (le · ·) := by
  induction xs with
  | nil => simp
  | cons x xs ih =>
    obtain ⟨before, behind, hsort, htail, hbefore⟩ := List.mergeSort_cons htrans htotal x xs
    have hall : ∀ y ∈ before, decide (¬ le x y) = true := fun y hy => by simpa using hbefore y hy
    have hbehind : ∀ y ∈ behind, le x y := by
      have hsorted := List.pairwise_mergeSort htrans htotal (x :: xs)
      rw [hsort] at hsorted
      exact (List.pairwise_cons.1 (List.pairwise_append.1 hsorted).2.1).1
    have hinsert : behind.orderedInsert (le · ·) x = x :: behind := by
      cases behind with
      | nil => rfl
      | cons y ys => exact List.orderedInsert_cons_of_le _ ys (hbehind y List.mem_cons_self)
    rw [List.orderedInsert_eq_take_drop] at hinsert
    rw [List.insertionSort_cons, ← ih, htail, hsort, List.orderedInsert_eq_take_drop,
      List.takeWhile_append_of_pos hall, List.dropWhile_append_of_pos hall, List.append_assoc, hinsert]

namespace Registry

theorem byName_trans (a b c : Entry Registration) (hab : !decide (b.record.name < a.record.name))
    (hbc : !decide (c.record.name < b.record.name)) : !decide (c.record.name < a.record.name) := by
  simp only [Bool.not_eq_true', decide_eq_false_iff_not, String.not_lt] at hab hbc ⊢
  exact String.le_trans hab hbc

theorem byName_total (a b : Entry Registration) :
    !decide (b.record.name < a.record.name) || !decide (a.record.name < b.record.name) := by
  simp only [Bool.or_eq_true, Bool.not_eq_true', decide_eq_false_iff_not, String.not_lt]
  exact String.le_total _ _

theorem present_eq_insertionSort : present = fun rows =>
    ((newest rows).filter (!·.isCleaned)).insertionSort fun a b =>
      !decide (b.record.name < a.record.name) :=
  funext fun _ => mergeSort_eq_insertionSort byName_trans byName_total _

end Registry

namespace Ledger

variable {ledger : Ledger} {name : String} {r : Registration}

def newest? (ledger : Ledger) (name : String) : Option Registration :=
  (ledger.registrations.filter (·.name == name)).getLast?

theorem lastPid_eq (ledger : Ledger) (name : String) :
    ledger.lastPid name = (ledger.newest? name).bind (·.pid) := rfl

theorem mem_of_newest (h : ledger.newest? name = some r) :
    r ∈ ledger.registrations ∧ r.name = name := by
  have hmem := List.mem_of_getLast? h
  simpa using hmem

theorem newest?_eq_none : ledger.newest? name = none ↔ ∀ r ∈ ledger.registrations, r.name ≠ name := by
  unfold newest?
  rw [List.getLast?_eq_none_iff, List.filter_eq_nil_iff]
  simp

theorem newest?_plain (ledger : Ledger) (name : String) :
    Registry.newest? name (ledger.registrations.map Entry.plain) =
      (ledger.newest? name).map Entry.plain := by
  rw [Registry.newest?, List.filter_map, List.getLast?_map]
  rfl

def listed (ledger : Ledger) : List Registration :=
  (Registry.present (ledger.registrations.map Entry.plain)).map (·.record)

theorem isCleaned_plain (r : Registration) : (Entry.plain r).isCleaned = (r.status == .cleaned) :=
  rfl

theorem mem_present {e : Entry Registration} :
    e ∈ Registry.present (ledger.registrations.map Entry.plain) ↔
      ∃ r ∈ ledger.registrations, e = Entry.plain r ∧
        (ledger.newest? r.name).any (·.id == r.id) ∧ r.status ≠ .cleaned := by
  simp only [Registry.present, List.mem_mergeSort, Registry.newest, List.mem_filter, List.mem_map,
    Bool.not_eq_true', newest?_plain, Option.any_map]
  constructor
  · rintro ⟨⟨⟨r, hr, rfl⟩, hnewest⟩, hcleaned⟩
    exact ⟨r, hr, rfl, hnewest, by simpa [isCleaned_plain] using hcleaned⟩
  · rintro ⟨r, hr, rfl, hnewest, hcleaned⟩
    exact ⟨⟨⟨r, hr, rfl⟩, hnewest⟩, by simpa [isCleaned_plain] using hcleaned⟩

theorem present_plain (ledger : Ledger) :
    Registry.present (ledger.registrations.map Entry.plain) = ledger.listed.map Entry.plain := by
  have hplain : ∀ e ∈ Registry.present (ledger.registrations.map Entry.plain),
      Entry.plain e.record = id e := by
    intro e he
    obtain ⟨r, -, rfl, -⟩ := mem_present.1 he
    rfl
  rw [listed, List.map_map]
  exact (List.map_id _).symm.trans (List.map_congr_left hplain).symm

theorem mem_listed (hs : ledger.Sound) :
    r ∈ ledger.listed ↔ ledger.newest? r.name = some r ∧ r.status ≠ .cleaned := by
  have hlisted : r ∈ ledger.listed ↔ r ∈ ledger.registrations ∧
      (ledger.newest? r.name).any (·.id == r.id) ∧ r.status ≠ .cleaned := by
    unfold listed
    rw [List.mem_map]
    constructor
    · rintro ⟨e, he, rfl⟩
      obtain ⟨r, hr, rfl, hnewest, hcleaned⟩ := mem_present.1 he
      exact ⟨hr, hnewest, hcleaned⟩
    · rintro ⟨hr, hnewest, hcleaned⟩
      exact ⟨.plain r, mem_present.2 ⟨r, hr, rfl, hnewest, hcleaned⟩, rfl⟩
  rw [hlisted]
  constructor
  · rintro ⟨hr, hnewest, hcleaned⟩
    obtain ⟨u, hu, hid⟩ := (Option.any_eq_true _ _).1 hnewest
    obtain rfl := hs.registrations.eq_of_id (mem_of_newest hu).1 hr (eq_of_beq hid)
    exact ⟨hu, hcleaned⟩
  · rintro ⟨hnewest, hcleaned⟩
    exact ⟨(mem_of_newest hnewest).1, by simp [hnewest], hcleaned⟩

theorem listed_ascending (hs : ledger.Sound) :
    (ledger.listed.map (·.name)).Pairwise (· < ·) := by
  have hle : ledger.listed.Pairwise fun a b => ¬ b.name < a.name := by
    refine List.pairwise_map.2 ((List.pairwise_mergeSort Registry.byName_trans
      Registry.byName_total _).imp fun hab => ?_)
    simpa using hab
  have hnodup : ledger.listed.Nodup := by
    have hids : (ledger.registrations.map Entry.plain).Nodup :=
      List.pairwise_map.2 (hs.registrations.ascending.imp fun hlt heq => by
        cases heq
        omega)
    have hpresent : (Registry.present (ledger.registrations.map Entry.plain)).Nodup :=
      (List.mergeSort_perm _ _).nodup_iff.2 ((hids.filter _).filter _)
    rw [present_plain] at hpresent
    exact (List.pairwise_map.1 hpresent).imp fun hne heq => hne (congrArg _ heq)
  refine List.pairwise_map.2 ((hle.and hnodup).imp_of_mem ?_)
  rintro a b ha hb ⟨hle, hne⟩
  have hnames : a.name ≠ b.name := by
    intro hname
    have hnewest := ((mem_listed hs).1 ha).1
    rw [hname, ((mem_listed hs).1 hb).1] at hnewest
    exact hne (Option.some.inj hnewest).symm
  exact Std.lt_of_le_of_ne (String.not_lt.1 hle) hnames

def agent (ledger : Ledger) (r : Registration) : AgentRecord where
  name := r.name
  pid := r.pid
  status := r.status
  pending := (ledger.waiting r.name).length
  since := r.createdAt

def roster (ledger : Ledger) : List AgentRecord := ledger.listed.map ledger.agent

theorem present_eq (ledger : Ledger) : ledger.present = ledger.roster.map (·.name) := by
  rw [present, present_plain, roster, List.map_map, List.map_map]
  rfl

theorem record_plain (ledger : Ledger) (r : Registration) :
    Registry.record (ledger.messages.map Entry.plain) (.plain r) = .ok (ledger.agent r) := by
  unfold Registry.record agent
  rw [← Mailbox.countP_plain]
  rfl

theorem mapM_record_plain (ledger : Ledger) (records : List Registration) :
    (records.map Entry.plain).mapM (Registry.record (ledger.messages.map Entry.plain)) =
      (.ok (records.map ledger.agent) : Except Failure _) := by
  rw [mapM_eq_ok_iff, List.forall₂_map_left_iff, List.forall₂_map_right_iff, List.forall₂_same]
  exact fun r _ => ledger.record_plain r

end Ledger

namespace Call

theorem tells_roster (ledger : Ledger) : roster.Tells ledger (.roster ledger.roster) := by
  have hread : (Statement.read (Registry.present (ledger.registrations.map Entry.plain))).Reads
      ledger (ledger.listed.map Entry.plain) := by
    rw [ledger.present_plain]
    exact Statement.reads_read _
  refine .intro rfl ((Statement.reads_rows _).bind ((Statement.reads_rows _).bind
    (hread.bind (Statement.reads_pure _)))) ?_
  intro context run
  change Operation.perform (liftM ((ledger.listed.map Entry.plain).mapM _ : Except Failure _)) _ _ = _
  rw [Operation.perform_liftM]
  exact congrArg (·, run) (ledger.mapM_record_plain _)

theorem tells_status (ledger : Ledger) (name : String) :
    (status name).Tells ledger (.status ((ledger.newest? name).map (·.status))) := by
  refine .intro rfl (Statement.reads_rows _) ?_
  intro context run
  have hnewest : Registry.newest? name ((Recorded.records ledger).map Entry.plain) =
      (ledger.newest? name).map Entry.plain := ledger.newest?_plain name
  rw [hnewest]
  cases ledger.newest? name <;> rfl

end Call

/-- What a registration says besides its pid. -/
structure Mark where
  name : String
  status : AgentStatus
  since : Timestamp
  deriving DecidableEq

def Registration.mark (r : Registration) : Mark := ⟨r.name, r.status, r.createdAt⟩

namespace Deed

def marks : Deed → List Mark
  | ⟨.register name _, now, _⟩ => [⟨name, .running, now⟩]
  | ⟨.recordStatus name status, now, _⟩ => [⟨name, status, now⟩]
  | ⟨.unregister name, now, _⟩ => [⟨name, .exited, now⟩]
  | ⟨.cleanup _, now, .names names⟩ => names.map fun name => ⟨name, .cleaned, now⟩
  | _ => []

def givenPid? (name : String) : Deed → Option (Option Int)
  | ⟨.register other pid, _, _⟩ => if other = name then some pid else none
  | _ => none

end Deed

def latestMark? (deeds : List Deed) (name : String) : Option Mark :=
  ((deeds.flatMap Deed.marks).filter (·.name == name)).getLast?

def lastGivenPid (deeds : List Deed) (name : String) : Option Int :=
  (deeds.filterMap (Deed.givenPid? name)).getLast?.join

namespace Ledger

variable {ledger next : Ledger} {deeds : List Deed} {now : Timestamp} {call : Call} {answer : Answer}

theorem lastPid_register (ledger : Ledger) (now : Timestamp) (name : String) (pid : Option Int)
    (status : AgentStatus) (other : String) :
    (ledger.register now name pid status).lastPid other =
      if name = other then pid else ledger.lastPid other := by
  unfold lastPid register
  change ((List.filter _ (ledger.registrations ++ [_])).getLast?).bind _ = _
  rw [List.filter_append]
  by_cases hname : name = other <;> simp [hname]

theorem lastPid_recordStatus (ledger : Ledger) (now : Timestamp) (status : AgentStatus)
    (name other : String) :
    (ledger.recordStatus now status name).lastPid other = ledger.lastPid other := by
  unfold recordStatus
  rw [lastPid_register]
  by_cases hname : name = other <;> simp [hname]

theorem lastPid_recordAll (ledger : Ledger) (now : Timestamp) (status : AgentStatus)
    (names : List String) (other : String) :
    (ledger.recordAll now status names).lastPid other = ledger.lastPid other := by
  induction names generalizing ledger with
  | nil => rfl
  | cons name names ih => exact (ih _).trans (ledger.lastPid_recordStatus now status name other)

theorem marks_register (ledger : Ledger) (now : Timestamp) (name : String) (pid : Option Int)
    (status : AgentStatus) :
    (ledger.register now name pid status).registrations.map Registration.mark =
      ledger.registrations.map Registration.mark ++ [⟨name, status, now⟩] :=
  List.map_append

theorem marks_recordAll (ledger : Ledger) (now : Timestamp) (status : AgentStatus)
    (names : List String) :
    (ledger.recordAll now status names).registrations.map Registration.mark =
      ledger.registrations.map Registration.mark ++ names.map fun name => ⟨name, status, now⟩ := by
  induction names generalizing ledger with
  | nil => exact (List.append_nil _).symm
  | cons name names ih =>
    have hfirst := ledger.marks_register now name (ledger.lastPid name) status
    have hrest := ih (ledger.recordStatus now status name)
    rw [recordStatus, hfirst, List.append_assoc] at hrest
    exact hrest

end Ledger

theorem Effect.enrolls {ledger next : Ledger} {now : Timestamp} {call : Call} {answer : Answer}
    (h : Effect now ledger call answer next) :
    next.registrations.map Registration.mark =
        ledger.registrations.map Registration.mark ++ Deed.marks ⟨call, now, answer⟩ ∧
      ∀ name, next.lastPid name =
        (Deed.givenPid? name ⟨call, now, answer⟩).getD (ledger.lastPid name) := by
  have hsame : ∀ next : Ledger, next.registrations = ledger.registrations →
      next.registrations.map Registration.mark =
          ledger.registrations.map Registration.mark ++ [] ∧
        ∀ name, next.lastPid name = ledger.lastPid name := by
    intro next hnext
    unfold Ledger.lastPid
    rw [hnext, List.append_nil]
    exact ⟨rfl, fun _ => rfl⟩
  cases h with
  | registered name pid =>
    refine ⟨ledger.marks_register now name pid .running, fun other => ?_⟩
    rw [ledger.lastPid_register, Deed.givenPid?]
    by_cases hname : name = other <;> simp [hname]
  | recordedStatus name status =>
    exact ⟨ledger.marks_register .., ledger.lastPid_recordStatus now status name⟩
  | unregistered name =>
    exact ⟨ledger.marks_register .., ledger.lastPid_recordStatus now .exited name⟩
  | cleaned who names =>
    exact ⟨ledger.marks_recordAll now .cleaned names, ledger.lastPid_recordAll now .cleaned names⟩
  | looked answer hlooks hcheck =>
    cases call with
    | register | recordStatus | unregister | cleanup => cases hlooks
    | _ => exact hsame ledger rfl
  | _ => exact hsame _ rfl

theorem latestMark?_eq {ledger : Ledger} {deeds : List Deed}
    (h : ledger.registrations.map Registration.mark = deeds.flatMap Deed.marks) (name : String) :
    latestMark? deeds name = (ledger.newest? name).map Registration.mark := by
  rw [latestMark?, ← h, List.filter_map, List.getLast?_map]
  rfl

theorem lastGivenPid_concat (deeds : List Deed) (d : Deed) (name : String) :
    lastGivenPid (deeds ++ [d]) name = (d.givenPid? name).getD (lastGivenPid deeds name) := by
  unfold lastGivenPid
  rw [List.filterMap_append]
  cases hgiven : d.givenPid? name <;> simp [hgiven]

/-- What the registrations of a ledger tell of the deeds. -/
structure Ledger.Roll (ledger : Ledger) (deeds : List Deed) : Prop where
  marks : ledger.registrations.map Registration.mark = deeds.flatMap Deed.marks
  pids : ∀ name, ledger.lastPid name = lastGivenPid deeds name

theorem Ledger.Roll.step {ledger next : Ledger} {deeds : List Deed} {now : Timestamp} {call : Call}
    {answer : Answer} (h : ledger.Roll deeds) (heffect : Effect now ledger call answer next) :
    next.Roll (deeds ++ [⟨call, now, answer⟩]) := by
  obtain ⟨hmarks, hpids⟩ := heffect.enrolls
  constructor
  · rw [hmarks, h.marks, List.flatMap_append, List.flatMap_singleton]
  · intro name
    rw [hpids, h.pids, lastGivenPid_concat]

theorem Store.roll_after {store : Store} (h : store.tables = {}) (attempts : List Attempt) :
    ∃ ledger : Ledger, ledger.Sound ∧ (store.after attempts).tables.Holds ledger ∧
      ledger.Roll (store.deeds attempts) :=
  Store.history_of_empty (fun deeds ledger => ledger.Roll deeds) h ⟨rfl, fun _ => rfl⟩
    (fun _ _ _ _ _ _ _ hroll heffect => hroll.step heffect) attempts

def Store.registrations (store : Store) : List Registration :=
  (store.tables.rows Registration).map (·.record)

theorem Tables.Holds.registrations_eq {store : Store} {ledger : Ledger}
    (h : store.tables.Holds ledger) : store.registrations = ledger.registrations := by
  rw [Store.registrations, h.registrations, Entry.map_record_plain]

/-- A roster lists, in the byte order of their names, those agents whose latest mark is not that they
have been cleaned away. It shows that mark of them, the pid that was given last, and how many messages
wait for them. -/
structure Store.Shows (store : Store) (deeds : List Deed) (agents : List AgentRecord) : Prop where
  ascending : (agents.map fun a => Text.bytes a.name).Pairwise (· < ·)
  listed : ∀ name, (∃ a ∈ agents, a.name = name) ↔
    ∃ mark, latestMark? deeds name = some mark ∧ mark.status ≠ .cleaned
  mark : ∀ a ∈ agents, latestMark? deeds a.name = some ⟨a.name, a.status, a.since⟩
  pid : ∀ a ∈ agents, a.pid = lastGivenPid deeds a.name
  pending : ∀ a ∈ agents, a.pending = (store.queue a.name).length ∧
    store.Tells (.check a.name) (.count a.pending)

theorem Ledger.Roll.shows {store : Store} {ledger : Ledger} {deeds : List Deed}
    (h : ledger.Roll deeds) (hs : ledger.Sound) (hholds : store.tables.Holds ledger)
    (hown : store.tables.Own) : store.Shows deeds ledger.roster := by
  have hagents : ∀ a ∈ ledger.roster, ∃ r, ledger.newest? r.name = some r ∧ r.status ≠ .cleaned ∧
      ledger.agent r = a := by
    intro a ha
    obtain ⟨r, hr, rfl⟩ := List.mem_map.1 ha
    obtain ⟨hnewest, hcleaned⟩ := (Ledger.mem_listed hs).1 hr
    exact ⟨r, hnewest, hcleaned, rfl⟩
  constructor
  · have hnames : ledger.roster.map (fun a => Text.bytes a.name) =
        (ledger.listed.map (·.name)).map Text.bytes := by
      rw [Ledger.roster, List.map_map, List.map_map]
      rfl
    rw [hnames]
    exact List.pairwise_map.2 ((Ledger.listed_ascending hs).imp Text.bytes_lt)
  · intro name
    rw [latestMark?_eq h.marks]
    constructor
    · rintro ⟨a, ha, rfl⟩
      obtain ⟨r, hnewest, hcleaned, rfl⟩ := hagents a ha
      exact ⟨r.mark, congrArg (Option.map _) hnewest, hcleaned⟩
    · rintro ⟨mark, hmark, hcleaned⟩
      obtain ⟨r, hnewest, rfl⟩ := Option.map_eq_some_iff.1 hmark
      obtain rfl := (Ledger.mem_of_newest hnewest).2
      have hlisted : r ∈ ledger.listed := (Ledger.mem_listed hs).2 ⟨hnewest, hcleaned⟩
      exact ⟨ledger.agent r, List.mem_map_of_mem hlisted, rfl⟩
  · intro a ha
    obtain ⟨r, hnewest, -, rfl⟩ := hagents a ha
    rw [latestMark?_eq h.marks]
    exact congrArg (Option.map _) hnewest
  · intro a ha
    obtain ⟨r, hnewest, -, rfl⟩ := hagents a ha
    rw [← h.pids, ledger.lastPid_eq]
    change r.pid = (ledger.newest? r.name).bind _
    rw [hnewest, Option.bind_some]
  · intro a ha
    obtain ⟨r, -, -, rfl⟩ := hagents a ha
    refine ⟨?_, (Call.tells_check ledger r.name).of_holds hholds hown⟩
    rw [hholds.queue_eq, Ledger.queue, List.length_map]
    rfl

/-- Whoever cleans is told the names that are marked: the one that was asked for, or all that are
listed. -/
theorem Attempt.names_of_cleanup {attempt : Attempt} {store : Store} {ledger : Ledger}
    {who : Option String} {answer : Answer} (hs : ledger.Sound) (h : store.tables.Holds ledger)
    (hcall : attempt.call = .cleanup who) (hanswer : attempt.answer store = .ok answer) :
    answer = .names (who.elim (ledger.roster.map (·.name)) fun name => [name]) := by
  obtain ⟨next, -, heffect⟩ := attempt.effect_of_ok hs h hanswer
  rw [hcall] at heffect
  cases heffect with
  | cleaned who names hnames => rw [hnames, ledger.present_eq]
  | looked _ hlooks => cases hlooks

/-- However clients use a store that was empty, the registry is the list of all marks that deeds have
added, and the roster is the fold of it in which the latest mark of a name wins. Receivers who wait
add two marks each, as attempts of the run. The status of an agent is that of its latest mark,
`cleaned` or not, and there is none exactly if the agent has no row. -/
theorem roster_shows_latest_marks (store : Store) (h : store.tables = {})
    (attempts : List Attempt) :
    let reached := store.after attempts
    let deeds := store.deeds attempts
    reached.tables.rows Registration = reached.registrations.map Entry.plain ∧
      reached.registrations.Pairwise (fun a b => a.id < b.id) ∧
      reached.registrations.map Registration.mark = deeds.flatMap Deed.marks ∧
      (∃ agents : List AgentRecord, reached.Tells .roster (.roster agents) ∧
        reached.Shows deeds agents ∧
        ∀ (attempt : Attempt) (who : Option String) (answer : Answer),
          attempt.call = .cleanup who → attempt.answer reached = .ok answer →
          answer = .names (who.elim (agents.map (·.name)) fun name => [name])) ∧
      ∀ name : String,
        reached.Tells (.status name) (.status ((latestMark? deeds name).map (·.status))) ∧
          (latestMark? deeds name = none ↔ ∀ r ∈ reached.registrations, r.name ≠ name) := by
  intro reached deeds
  obtain ⟨ledger, hs, hholds, hroll⟩ := Store.roll_after h attempts
  have hown : reached.tables.Own := Store.own_after h attempts
  have hregistrations : reached.registrations = ledger.registrations := hholds.registrations_eq
  rw [hregistrations]
  refine ⟨hholds.registrations, hs.registrations.ascending, hroll.marks,
    ⟨ledger.roster, (Call.tells_roster ledger).of_holds hholds hown, hroll.shows hs hholds hown,
      fun attempt who answer => Attempt.names_of_cleanup hs hholds⟩, fun name => ⟨?_, ?_⟩⟩
  · rw [latestMark?_eq hroll.marks, Option.map_map]
    exact (Call.tells_status ledger name).of_holds hholds hown
  · rw [latestMark?_eq hroll.marks, Option.map_eq_none_iff]
    exact Ledger.newest?_eq_none

/-- An agent that waits keeps its pid, one that was cleaned away is not listed, and one that came later
is listed first if its name comes first. -/
theorem waiting_agent_is_listed_with_its_pid :
    let attempts := [Attempt.atEpoch (.register "worker" (some 7)) [],
      Attempt.atEpoch (.register "helper" none) [], Attempt.atEpoch (.cleanup (some "helper")) [],
      Attempt.atEpoch (.send "worker" "hello" none) [],
      Attempt.atEpoch (.recordStatus "worker" .waiting) [],
      Attempt.atEpoch (.register "Zoe" none) []]
    let reached := ({} : Store).after attempts
    let agents : List AgentRecord :=
      [⟨"Zoe", none, .running, 0, .epoch⟩, ⟨"worker", some 7, .waiting, 1, .epoch⟩]
    (Attempt.atEpoch .roster []).answer reached = .ok (.roster agents) ∧
      reached.Shows (({} : Store).deeds attempts) agents ∧
      reached.Tells (.status "helper") (.status (some .cleaned)) := by
  intro attempts reached agents
  obtain ⟨-, -, -, ⟨shown, htells, hshows, -⟩, hstatus⟩ := roster_shows_latest_marks {} rfl attempts
  have hanswer : (Attempt.atEpoch .roster []).answer reached = .ok (.roster agents) := by
    change (Operation.perform (Answer.roster <$> Registry.roster) _ _).1 = _
    unfold Registry.roster
    rw [Registry.present_eq_insertionSort]
    decide +kernel
  have hlatest : latestMark? (({} : Store).deeds attempts) "helper" =
      some ⟨"helper", .cleaned, .epoch⟩ := by
    decide +kernel
  have hagents : agents = shown := Answer.roster.inj ((htells _ rfl).1 _ hanswer)
  have hhelper := (hstatus "helper").1
  rw [hlatest] at hhelper
  exact ⟨hanswer, hagents ▸ hshows, hhelper⟩

end Switchboard
