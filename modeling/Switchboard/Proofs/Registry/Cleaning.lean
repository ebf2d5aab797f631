import Switchboard.Proofs.Numbering
import Switchboard.Proofs.Registry.Availability
import Switchboard.Proofs.Registry.Roster

namespace Switchboard

namespace Ledger

variable {ledger : Ledger} {now : Timestamp} {status : AgentStatus} {name : String}
  {names : List String}

theorem newest?_register (ledger : Ledger) (now : Timestamp) (name : String) (pid : Option Int)
    (status : AgentStatus) (other : String) :
    (ledger.register now name pid status).newest? other =
      if name = other then some ⟨ledger.last + 1, now, name, pid, status⟩
      else ledger.newest? other := by
  unfold newest? register
  change (List.filter _ (ledger.registrations ++ [_])).getLast? = _
  rw [List.filter_append]
  by_cases hname : name = other <;> simp [hname]

theorem newest?_recordStatus (ledger : Ledger) (now : Timestamp) (status : AgentStatus)
    (name other : String) :
    (ledger.recordStatus now status name).newest? other =
      if name = other then some ⟨ledger.last + 1, now, name, ledger.lastPid name, status⟩
      else ledger.newest? other :=
  ledger.newest?_register now name _ status other

theorem newest?_recordAll_of_notMem (h : name ∉ names) :
    (ledger.recordAll now status names).newest? name = ledger.newest? name := by
  induction names generalizing ledger with
  | nil => rfl
  | cons first names ih =>
    rw [List.mem_cons, not_or] at h
    have hfirst := ledger.newest?_recordStatus now status first name
    rw [if_neg fun heq => h.1 heq.symm] at hfirst
    exact (ih h.2).trans hfirst

theorem newest?_recordAll_of_mem (ledger : Ledger) (now : Timestamp) (status : AgentStatus)
    (h : name ∈ names) :
    ∃ r, (ledger.recordAll now status names).newest? name = some r ∧ r.status = status := by
  induction names generalizing ledger with
  | nil => cases h
  | cons first names ih =>
    by_cases hrest : name ∈ names
    · exact ih _ hrest
    · obtain rfl : name = first := (List.mem_cons.1 h).resolve_right hrest
      have hfirst := ledger.newest?_recordStatus now status name name
      rw [if_pos rfl] at hfirst
      exact ⟨_, (newest?_recordAll_of_notMem hrest).trans hfirst, rfl⟩

theorem listed_recordAll_present (hs : ledger.Sound) :
    (ledger.recordAll now .cleaned ledger.present).listed = [] := by
  refine List.eq_nil_iff_forall_not_mem.2 fun r hr => ?_
  obtain ⟨hnewest, hcleaned⟩ := (mem_listed hs.recordAll).1 hr
  by_cases hmem : r.name ∈ ledger.present
  · obtain ⟨u, hu, hstatus⟩ := ledger.newest?_recordAll_of_mem now .cleaned hmem
    obtain rfl := Option.some.inj (hnewest.symm.trans hu)
    exact hcleaned hstatus
  · rw [newest?_recordAll_of_notMem hmem] at hnewest
    have hlisted : r ∈ ledger.listed := (mem_listed hs).2 ⟨hnewest, hcleaned⟩
    refine hmem ?_
    rw [present_eq, roster, List.map_map]
    exact List.mem_map_of_mem hlisted

theorem present_of_listed (ledger : Ledger) (h : ledger.listed = []) : ledger.present = [] := by
  rw [present_eq, roster, h]
  rfl

theorem listed_register (hs : ledger.Sound) (hnone : ledger.listed = []) (now : Timestamp)
    (name : String) (pid : Option Int) :
    (ledger.register now name pid .running).listed =
      [⟨ledger.last + 1, now, name, pid, .running⟩] := by
  have hall (r : Registration) : r ∈ (ledger.register now name pid .running).listed ↔
      r = ⟨ledger.last + 1, now, name, pid, .running⟩ := by
    rw [mem_listed (hs.register _ _ _ _), newest?_register]
    split
    · rename_i hname
      constructor
      · rintro ⟨heq, -⟩
        exact (Option.some.inj heq).symm
      · rintro rfl
        exact ⟨rfl, nofun⟩
    · rename_i hname
      constructor
      · intro hr
        have hlisted := (mem_listed hs).2 hr
        rw [hnone] at hlisted
        cases hlisted
      · rintro rfl
        exact absurd rfl hname
  have hnodup : (ledger.register now name pid .running).listed.Nodup := by
    refine (List.pairwise_map.1 (listed_ascending (hs.register now name pid .running))).imp ?_
    rintro a b hlt rfl
    exact String.lt_irrefl _ hlt
  have hsingle : [(⟨ledger.last + 1, now, name, pid, .running⟩ : Registration)].Nodup :=
    List.pairwise_singleton _ _
  exact List.perm_singleton.1 ((List.perm_ext_iff_of_nodup hnodup hsingle).2
    fun r => (hall r).trans List.mem_singleton.symm)

end Ledger

/-- That each of some names has been cleaned by a deed of its own, in their order. -/
def cleanings (now : Timestamp) (names : List String) : List Deed :=
  names.map fun name => ⟨.cleanup (some name), now, .names [name]⟩

def cleaningEach (clients : List Client) (names : List String) : List Attempt :=
  List.zipWith (fun client name => client.attempt (.cleanup (some name))) clients names

section OneByOne

variable {store : Store} {ledger : Ledger} {now : Timestamp}

theorem Effect.of_cleanup {who : Option String} {answer : Answer} {next : Ledger}
    (h : Effect now ledger (.cleanup who) answer next) :
    answer = .names (who.elim ledger.present fun name => [name]) ∧
      next = ledger.recordAll now .cleaned (who.elim ledger.present fun name => [name]) := by
  cases h with
  | cleaned _ names hnames =>
    subst hnames
    exact ⟨rfl, rfl⟩
  | looked _ hlooks => cases hlooks

theorem Store.after_cleanings (hs : ledger.Sound) (h : store.tables.Holds ledger)
    {steps : List Attempt} {names : List String} (hdeeds : store.deeds steps = cleanings now names) :
    (store.after steps).tables.Holds (ledger.recordAll now .cleaned names) := by
  induction steps generalizing store ledger names with
  | nil =>
    obtain rfl := List.map_eq_nil_iff.1 hdeeds.symm
    exact h
  | cons attempt steps ih =>
    rw [Store.deeds] at hdeeds
    obtain ⟨answer, next, hanswer, hnext, heffect⟩ | ⟨⟨failure, hanswer⟩, hsame⟩ :=
      attempt.effect hs h
    · rw [Attempt.deed?_of_ok hanswer, Option.toList_some, List.singleton_append] at hdeeds
      obtain ⟨name, rest, rfl, hdeed, hrest⟩ := List.map_eq_cons_iff.1 hdeeds.symm
      obtain ⟨hcall, hnow, hanswer⟩ := Deed.mk.inj hdeed
      rw [← hcall, ← hnow] at heffect
      obtain ⟨-, rfl⟩ := heffect.of_cleanup
      exact ih (hs.register _ _ _ _) hnext hrest.symm
    · rw [Attempt.deed?_of_error hanswer, Option.toList_none, List.nil_append] at hdeeds
      exact ih hs hsame hdeeds

/-- Where nothing stands in the way, an agent is cleaned as long as an id is left, and so are all that
are listed if there is one for each. -/
theorem Attempt.cleanup_succeeds {attempt : Attempt} (who : Option String) (hs : ledger.Sound)
    (h : store.tables.Holds ledger) (hown : store.tables.Own) (hcall : attempt.call = .cleanup who)
    (hrun : attempt.run.Undisturbed store)
    (hleft : ledger.last + (who.elim ledger.present fun name => [name]).length ≤ Sequence.maxId) :
    attempt.answer store = .ok (.names (who.elim ledger.present fun name => [name])) := by
  obtain ⟨left, hcleanup⟩ := Registry.cleanup_succeeds hs h hrun.found hown hleft
  exact (answer_eq_ok (by rw [hcall]; rfl)).2 ⟨_, left, hcleanup, rfl⟩

theorem Store.deeds_cleaningEach (hs : ledger.Sound) (h : store.tables.Holds ledger)
    (hown : store.tables.Own) {clients : List Client} {names : List String}
    (hlength : clients.length = names.length)
    (hclients : ∀ client ∈ clients, client.run.Undisturbed store ∧ client.context.now = now)
    (hleft : ledger.last + names.length ≤ Sequence.maxId) :
    store.deeds (cleaningEach clients names) = cleanings now names := by
  induction names generalizing store ledger clients with
  | nil =>
    obtain rfl := List.length_eq_zero_iff.1 hlength
    rfl
  | cons name names ih =>
    obtain _ | ⟨client, clients⟩ := clients
    · cases hlength
    obtain ⟨⟨hclient, rfl⟩, hrest⟩ := List.forall_mem_cons.1 hclients
    rw [List.length_cons] at hleft
    let attempt := client.attempt (.cleanup (some name))
    have hanswer : attempt.answer store = .ok (.names [name]) :=
      Attempt.cleanup_succeeds (some name) hs h hown rfl hclient
        (by change ledger.last + 1 ≤ _; omega)
    have htended : store.Tended (attempt.after store) :=
      Store.writing_tended.after store [attempt]
    obtain ⟨next, hnext, heffect⟩ := attempt.effect_of_ok hs h hanswer
    obtain ⟨-, rfl⟩ := heffect.of_cleanup
    change (attempt.deed? store).toList ++ (attempt.after store).deeds _ = _
    rw [Attempt.deed?_of_ok hanswer, Option.toList_some, List.singleton_append, cleanings,
      List.map_cons]
    congr 1
    refine ih (heffect.sound hs) hnext (htended.own hown) (Nat.succ.inj hlength) (fun other hother => ?_) ?_
    · exact ⟨(hrest other hother).1.tended htended, (hrest other hother).2⟩
    · change ledger.last + 1 + _ ≤ _
      omega

theorem Attempt.cleanup_effect {attempt : Attempt} {answer : Answer} (hs : ledger.Sound)
    (h : store.tables.Holds ledger) (hcall : attempt.call = .cleanup none)
    (hanswer : attempt.answer store = .ok answer) :
    answer = .names ledger.present ∧ (attempt.after store).tables.Holds
      (ledger.recordAll attempt.context.now .cleaned ledger.present) := by
  obtain ⟨next, hnext, heffect⟩ := attempt.effect_of_ok hs h hanswer
  rw [hcall] at heffect
  obtain ⟨rfl, rfl⟩ := heffect.of_cleanup
  exact ⟨rfl, hnext⟩

theorem Attempt.cleanup_nobody {attempt : Attempt} {answer : Answer} (hs : ledger.Sound)
    (h : store.tables.Holds ledger) (hnone : ledger.listed = [])
    (hcall : attempt.call = .cleanup none) (hanswer : attempt.answer store = .ok answer) :
    answer = .names [] ∧ (attempt.after store).tables.SameContent store.tables := by
  have hpresent : ledger.present = [] := ledger.present_of_listed hnone
  obtain ⟨rfl, hafter⟩ := Attempt.cleanup_effect hs h hcall hanswer
  rw [hpresent] at hafter ⊢
  exact ⟨rfl, hafter.sameContent h⟩

theorem Attempt.cleanup_nobody_succeeds {attempt : Attempt} (hs : ledger.Sound)
    (h : store.tables.Holds ledger) (hown : store.tables.Own) (hnone : ledger.listed = [])
    (hbound : store.tables.lastId ≤ Sequence.maxId) (hcall : attempt.call = .cleanup none)
    (hrun : attempt.run.Undisturbed store) : attempt.answer store = .ok (.names []) := by
  have hpresent : ledger.present = [] := ledger.present_of_listed hnone
  have hleft : ledger.last + ledger.present.length ≤ Sequence.maxId := by
    rw [hpresent, ← h.last]
    simpa using hbound
  have hanswer := Attempt.cleanup_succeeds none hs h hown hcall hrun hleft
  rwa [Option.elim_none, hpresent] at hanswer

theorem Attempt.register_back {attempt : Attempt} {answer : Answer} {name : String}
    {pid : Option Int} (hs : ledger.Sound) (h : store.tables.Holds ledger) (hown : store.tables.Own)
    (hnone : ledger.listed = []) (hcall : attempt.call = .register name pid)
    (hanswer : attempt.answer store = .ok answer) :
    (attempt.after store).Tells .roster (.roster
      [⟨name, pid, .running, (ledger.waiting name).length, attempt.context.now⟩]) := by
  have htended : store.Tended (attempt.after store) := Store.writing_tended.after store [attempt]
  obtain ⟨next, hnext, heffect⟩ := attempt.effect_of_ok hs h hanswer
  rw [hcall] at heffect
  cases heffect with
  | registered =>
    have htells := (Call.tells_roster _).of_holds hnext (htended.own hown)
    rwa [Ledger.roster, Ledger.listed_register hs hnone] at htells
  | looked _ hlooks => cases hlooks

end OneByOne

def Store.newestRegistration? (store : Store) (name : String) : Option Registration :=
  (store.registrations.filter (·.name == name)).getLast?

theorem lastGivenPid_append (deeds : List Deed) {more : List Deed} {name : String}
    (h : ∀ d ∈ more, d.givenPid? name = none) :
    lastGivenPid (deeds ++ more) name = lastGivenPid deeds name := by
  unfold lastGivenPid
  rw [List.filterMap_append, List.filterMap_eq_nil_iff.2 h, List.append_nil]

/-- A name that has been marked has a registration, and the newest one has the pid that was given
last. -/
theorem Store.newestRegistration?_after {store : Store} (h : store.tables = {})
    (attempts : List Attempt) (name : String) {mark : Mark}
    (hmark : mark ∈ (store.deeds attempts).flatMap Deed.marks) (hname : mark.name = name) :
    ∃ r, (store.after attempts).newestRegistration? name = some r ∧
      r.pid = lastGivenPid (store.deeds attempts) name := by
  obtain ⟨ledger, -, hholds, hroll⟩ := Store.roll_after h attempts
  have hnewest : (store.after attempts).newestRegistration? name = ledger.newest? name := by
    rw [Store.newestRegistration?, hholds.registrations_eq, Ledger.newest?]
  rw [hnewest, ← hroll.pids, ledger.lastPid_eq]
  cases hlast : ledger.newest? name with
  | some r => exact ⟨r, rfl, rfl⟩
  | none =>
    rw [← hroll.marks] at hmark
    obtain ⟨r, hr, rfl⟩ := List.mem_map.1 hmark
    exact absurd hname (Ledger.newest?_eq_none.1 hlast r hr)

/-- Cleaning takes no pid away. Until another one is given, the newest registration of a name has the
one that was given last before. -/
theorem Store.pid_after_cleaning {store : Store} (h : store.tables = {}) (earlier later : List Attempt)
    {cleaning : Attempt} {names : List String} {name : String}
    (hcall : cleaning.call = .cleanup none)
    (hanswer : cleaning.answer (store.after earlier) = .ok (.names names)) (hname : name ∈ names)
    (hlater : ∀ d ∈ (cleaning.after (store.after earlier)).deeds later, d.givenPid? name = none) :
    ∃ r, ((cleaning.after (store.after earlier)).after later).newestRegistration? name = some r ∧
      r.pid = lastGivenPid (store.deeds earlier) name := by
  let deed : Deed := ⟨.cleanup none, cleaning.context.now, .names names⟩
  have hdeeds : store.deeds (earlier ++ cleaning :: later) =
      store.deeds earlier ++ deed :: (cleaning.after (store.after earlier)).deeds later := by
    rw [Store.deeds_append, Store.deeds, Attempt.deed?_of_ok hanswer, hcall]
    rfl
  have hquiet : ∀ d ∈ deed :: (cleaning.after (store.after earlier)).deeds later,
      d.givenPid? name = none := List.forall_mem_cons.2 ⟨rfl, hlater⟩
  have hmark : (⟨name, .cleaned, cleaning.context.now⟩ : Mark) ∈
      (store.deeds (earlier ++ cleaning :: later)).flatMap Deed.marks := by
    rw [hdeeds, List.flatMap_append, List.flatMap_cons]
    exact List.mem_append_right _ (List.mem_append_left _ (List.mem_map_of_mem hname))
  obtain ⟨r, hr, hpid⟩ := Store.newestRegistration?_after h _ name hmark rfl
  rw [Store.after_append] at hr
  rw [hdeeds, lastGivenPid_append _ hquiet] at hpid
  exact ⟨r, hr, hpid⟩

/-- However clients have used a store that was empty, cleaning all agents is cleaning each of those
that are listed. It answers the names of the roster, in their order, and leaves the same rows and the
same next id as calls that clean these names one after the other at the same time. Where nothing stands
in the way and ids are left, it succeeds, and so do those calls. Then nobody is listed, each of the names
is `cleaned`, and cleaning all once more answers nobody and changes nothing. No message, event or task
is touched: an agent that comes back is listed with all that has been waiting for it; and as long as no
pid is given for a name, its newest registration keeps the one that the roster showed. -/
theorem cleaning_all_is_cleaning_each (store : Store) (h : store.tables = {})
    (earlier : List Attempt) (cleaner : Client) :
    let reached := store.after earlier
    let cleaning := cleaner.attempt (.cleanup none)
    let cleaned := cleaning.after reached
    ∃ agents : List AgentRecord, reached.Tells .roster (.roster agents) ∧
      let names := agents.map (·.name)
      (reached.tables.lastId + names.length ≤ Sequence.maxId →
        (cleaner.run.Undisturbed reached → cleaning.answer reached = .ok (.names names)) ∧
        ∀ clients : List Client, clients.length = names.length →
          (∀ client ∈ clients,
            client.run.Undisturbed reached ∧ client.context.now = cleaner.context.now) →
          reached.deeds (cleaningEach clients names) = cleanings cleaner.context.now names) ∧
      ∀ answer, cleaning.answer reached = .ok answer →
        answer = .names names ∧
        (∀ steps, reached.deeds steps = cleanings cleaner.context.now names →
          (reached.after steps).tables.SameContent cleaned.tables) ∧
        cleaned.tables.rows Message = reached.tables.rows Message ∧
        cleaned.tables.rows Event = reached.tables.rows Event ∧
        cleaned.tables.rows Task = reached.tables.rows Task ∧
        cleaned.Tells .roster (.roster []) ∧
        (∀ again : Attempt, again.call = .cleanup none →
          (again.run.Undisturbed cleaned → again.answer cleaned = .ok (.names [])) ∧
          ∀ found, again.answer cleaned = .ok found →
            found = .names [] ∧ (again.after cleaned).tables.SameContent cleaned.tables) ∧
        ∀ a ∈ agents,
          cleaned.Tells (.status a.name) (.status (some .cleaned)) ∧
          (∀ later, (∀ d ∈ cleaned.deeds later, d.givenPid? a.name = none) →
            ∃ r, (cleaned.after later).newestRegistration? a.name = some r ∧ r.pid = a.pid) ∧
          ∀ (back : Attempt) (pid : Option Int) (id : Answer), back.call = .register a.name pid →
            back.answer cleaned = .ok id →
            (back.after cleaned).Tells .roster (.roster
              [⟨a.name, pid, .running, a.pending, back.context.now⟩]) := by
  intro reached cleaning cleaned
  obtain ⟨ledger, hs, hholds, hroll⟩ := Store.roll_after h earlier
  have hown : reached.tables.Own := Store.own_after h earlier
  have hcleanedOwn : cleaned.tables.Own :=
    (Store.writing_tended.after reached [cleaning]).own hown
  refine ⟨ledger.roster, (Call.tells_roster ledger).of_holds hholds hown, ?_, ?_⟩
  · rw [← ledger.present_eq, hholds.last]
    intro hleft
    refine ⟨fun hrun => Attempt.cleanup_succeeds none hs hholds hown rfl hrun hleft, ?_⟩
    intro clients hlength hclients
    exact Store.deeds_cleaningEach hs hholds hown hlength hclients hleft
  intro answer hanswer
  obtain ⟨rfl, hcleaned⟩ := Attempt.cleanup_effect hs hholds rfl hanswer
  have hcleaned : cleaned.tables.Holds
      (ledger.recordAll cleaner.context.now .cleaned ledger.present) := hcleaned
  have hsound : (ledger.recordAll cleaner.context.now .cleaned ledger.present).Sound := hs.recordAll
  have hnone : (ledger.recordAll cleaner.context.now .cleaned ledger.present).listed = [] :=
    Ledger.listed_recordAll_present hs
  refine ⟨by rw [ledger.present_eq], fun steps hsteps => ?_, ?_, ?_, ?_, ?_, fun again hagain => ?_,
    fun a ha => ?_⟩
  · rw [← ledger.present_eq] at hsteps
    exact (Store.after_cleanings hs hholds hsteps).sameContent hcleaned
  · rw [hcleaned.messages, hholds.messages, Ledger.recordAll_messages]
  · rw [hcleaned.events, hholds.events, Ledger.recordAll_events]
  · rw [hcleaned.tasks, hholds.tasks, Ledger.recordAll_tasks]
  · have htells := (Call.tells_roster _).of_holds hcleaned hcleanedOwn
    rwa [Ledger.roster, hnone] at htells
  · refine ⟨fun hrun => ?_, fun found => Attempt.cleanup_nobody hsound hcleaned hnone hagain⟩
    have hbound : cleaned.tables.lastId ≤ Sequence.maxId := by
      have hafter := Store.lastId_le h (earlier ++ [cleaning])
      rwa [Store.after_append] at hafter
    exact Attempt.cleanup_nobody_succeeds hsound hcleaned hcleanedOwn hnone hbound hagain hrun
  obtain ⟨r, hr, rfl⟩ := List.mem_map.1 ha
  have hlisted : r.name ∈ ledger.present := by
    rw [ledger.present_eq]
    exact List.mem_map_of_mem ha
  refine ⟨?_, fun later hlater => ?_, fun back pid id hback hid => ?_⟩
  · obtain ⟨u, hu, hstatus⟩ :=
      ledger.newest?_recordAll_of_mem cleaner.context.now .cleaned hlisted
    have htells := (Call.tells_status _ r.name).of_holds hcleaned hcleanedOwn
    rw [hu, Option.map_some, hstatus] at htells
    exact htells
  · obtain ⟨hnewest, -⟩ := (Ledger.mem_listed hs).1 hr
    have hpid : r.pid = lastGivenPid (store.deeds earlier) r.name := by
      rw [← hroll.pids, ledger.lastPid_eq, hnewest, Option.bind_some]
    obtain ⟨u, hu, hkept⟩ :=
      Store.pid_after_cleaning h earlier later rfl hanswer hlisted hlater
    exact ⟨u, hu, hkept.trans hpid.symm⟩
  · have htells := Attempt.register_back hsound hcleaned hcleanedOwn hnone hback hid
    unfold Ledger.waiting at htells
    rwa [Ledger.recordAll_messages] at htells

/-- Two agents are cleaned away, the one that came last before the other, after a third one has gone.
When one of them comes back, the message that it has not received is still waiting. -/
theorem cleaned_agent_comes_back_to_its_mail :
    let earlier := [Attempt.atEpoch (.register "worker" (some 7)) [],
      Attempt.atEpoch (.register "helper" none) [], Attempt.atEpoch (.cleanup (some "helper")) [],
      Attempt.atEpoch (.send "worker" "hello" none) [], Attempt.atEpoch (.register "Zoe" none) []]
    let reached := ({} : Store).after earlier
    let cleaning := Client.atEpoch.attempt (.cleanup none)
    let cleaned := cleaning.after reached
    let each := cleaningEach [.atEpoch, .atEpoch] ["Zoe", "worker"]
    let back := Attempt.atEpoch (.register "worker" none) []
    cleaning.answer reached = .ok (.names ["Zoe", "worker"]) ∧
      reached.deeds each = cleanings .epoch ["Zoe", "worker"] ∧
      (reached.after each).tables.SameContent cleaned.tables ∧
      cleaned.Tells .roster (.roster []) ∧
      cleaned.Tells (.status "Zoe") (.status (some .cleaned)) ∧
      cleaned.Tells (.status "worker") (.status (some .cleaned)) ∧
      (back.after cleaned).Tells .roster (.roster [⟨"worker", none, .running, 1, .epoch⟩]) := by
  intro earlier reached cleaning cleaned each back
  have hlisted : (Attempt.atEpoch .roster []).answer reached =
      .ok (.roster [⟨"Zoe", none, .running, 0, .epoch⟩,
        ⟨"worker", some 7, .running, 1, .epoch⟩]) := by
    change (Operation.perform (Answer.roster <$> Registry.roster) _ _).1 = _
    unfold Registry.roster
    rw [Registry.present_eq_insertionSort]
    decide +kernel
  have hback : back.answer cleaned = .ok (.id 8) := by
    dsimp only [back, cleaned, cleaning, reached, earlier]
    unfold Attempt.after Attempt.perform Client.attempt Call.operation
    unfold Registry.cleanup Registry.cleanAll
    rw [Registry.present_eq_insertionSort]
    decide +kernel
  obtain ⟨agents, htells, hsucceed, hcleaned⟩ := cleaning_all_is_cleaning_each {} rfl earlier .atEpoch
  obtain rfl := Answer.roster.inj ((htells _ rfl).1 _ hlisted)
  have hrun : Client.atEpoch.run.Undisturbed reached :=
    ⟨rfl, (Store.writing_tended.after {} earlier).available ⟨rfl, rfl, rfl, rfl, rfl⟩, nofun⟩
  obtain ⟨hsucceeds, hdeeds⟩ := hsucceed (by decide +kernel)
  have hanswer := hsucceeds hrun
  have hdeeds : reached.deeds each = cleanings .epoch ["Zoe", "worker"] :=
    hdeeds [.atEpoch, .atEpoch] rfl
      (List.forall_mem_cons.2 ⟨⟨hrun, rfl⟩, List.forall_mem_singleton.2 ⟨hrun, rfl⟩⟩)
  obtain ⟨-, hsame, -, -, -, hnobody, -, hagents⟩ := hcleaned _ hanswer
  obtain ⟨hfirst, -⟩ := hagents _ List.mem_cons_self
  obtain ⟨hsecond, -, hcomes⟩ := hagents _ (List.mem_cons_of_mem _ List.mem_cons_self)
  exact ⟨hanswer, hdeeds, hsame each hdeeds, hnobody, hfirst, hsecond, hcomes back none _ rfl hback⟩

end Switchboard
