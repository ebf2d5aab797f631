import Mathlib.Algebra.Order.Floor.Div
import Switchboard.Proofs.Mailbox.Availability
import Switchboard.Proofs.Mailbox.Queue
import Switchboard.Proofs.Registry.Availability
import Switchboard.Proofs.Registry.Bracket

namespace Switchboard

open Operation

/-- A store that clients have filled, in which no table is missing and nothing stands in the way. -/
structure Store.Orderly (store : Store) : Prop where
  ledger : ∃ ledger : Ledger, ledger.Sound ∧ store.tables.Holds ledger
  own : store.tables.Own
  available : store.Available
  has : ∀ name, store.tables.has name

theorem Store.Orderly.after {store : Store} (h : store.Orderly) (attempts : List Attempt) :
    (store.after attempts).Orderly := by
  obtain ⟨ledger, hs, hholds⟩ := h.ledger
  have htended := Store.writing_tended.after store attempts
  exact ⟨Store.holds_after hs hholds attempts, htended.own h.own, htended.available h.available,
    fun name => htended.has name (h.has name)⟩

namespace Receive

def pollTime (interval : Nat) : Option Nat → Nat → Nat
  | none, i => i * interval
  | some limit, i => min (i * interval) limit

/-- How many polls are made if none of them finds a message. Without a limit it is those that are
watched. -/
def pollCount (interval patience : Nat) : Option Nat → Nat
  | none => patience
  | some limit => limit ⌈/⌉ interval + 1

def unanswered : Option Nat → Reception
  | none => .stillWaiting
  | some _ => .timedOut

section Schedule

variable {interval patience i : Nat} {limit : Option Nat}

theorem succ_lt_pollCount (patience : Nat) {t : Nat} (h : 0 < interval) :
    i + 1 < pollCount interval patience (some t) ↔ i * interval < t := by
  rw [pollCount, Nat.add_lt_add_iff_right, ← not_le, ceilDiv_le_iff_le_mul h, not_le, Nat.mul_comm]

theorem pollTime_pollCount {t : Nat} (h : 0 < interval) :
    pollTime interval (some t) (pollCount interval patience (some t)) = t := by
  have hreached : ¬ pollCount interval patience (some t) * interval < t := fun hlt =>
    absurd ((succ_lt_pollCount patience h).2 hlt) (by omega)
  exact min_eq_right (not_lt.1 hreached)

theorem pollTime_mono {k : Nat} (h : i ≤ k) :
    pollTime interval limit i ≤ pollTime interval limit k := by
  have hle := Nat.mul_le_mul_right interval h
  cases limit with
  | none => exact hle
  | some t => exact min_le_min_right t hle

theorem pollTime_ceilDiv {s t : Nat} (h : 0 < interval) (hs : s ≤ t) :
    s ≤ pollTime interval (some t) (s ⌈/⌉ interval) ∧
      ∀ j < s ⌈/⌉ interval, pollTime interval (some t) j < s := by
  refine ⟨le_min (Nat.mul_comm interval _ ▸ le_smul_ceilDiv h) hs, fun j hj => ?_⟩
  rw [← not_le, ceilDiv_le_iff_le_mul h, not_le, Nat.mul_comm] at hj
  exact (min_le_left _ _).trans_lt hj

theorem nap?_next (start : Nat) (hnext : ∀ t ∈ limit, i * interval < t) :
    ∃ milliseconds, nap? interval (start + pollTime interval limit i) (limit.map (start + ·)) =
        some milliseconds ∧
      pollTime interval limit (i + 1) = pollTime interval limit i + milliseconds := by
  cases limit with
  | none => exact ⟨interval, rfl, Nat.succ_mul i interval⟩
  | some t =>
    have hlt : i * interval < t := hnext t rfl
    have htime : pollTime interval (some t) i = i * interval := min_eq_left hlt.le
    refine ⟨min interval (t - i * interval), ?_, ?_⟩
    · rw [htime, Option.map_some, nap?, if_neg (by omega), Nat.add_sub_add_left]
    · rw [htime, pollTime, Nat.succ_mul]
      omega

theorem nap?_last (start : Nat) {t : Nat} (hlast : t ≤ i * interval) :
    nap? interval (start + pollTime interval (some t) i) (some (start + t)) = none := by
  rw [pollTime, min_eq_right hlast, nap?, if_pos (Nat.le_refl _)]

end Schedule

theorem Others.LeaveOut.byCalls {others : Others} {name : String} (h : others.LeaveOut name) :
    others.ByCalls where
  beforePoll i found := (h.beforePoll i found).imp fun _ => And.left
  afterPolls found := (h.afterPolls found).imp fun _ => And.left

/-- The store that a poll finds if those before it have claimed nothing, so that all that happens is
what the others do before each poll. -/
def Others.present (others : Others) (store : Store) : Nat → Store
  | 0 => others.beforePoll 0 store
  | i + 1 => others.beforePoll (i + 1) (others.present store i)

theorem Others.ByCalls.orderly_present {others : Others} {store : Store} (h : others.ByCalls)
    (hstore : store.Orderly) (i : Nat) : (others.present store i).Orderly := by
  induction i with
  | zero =>
    obtain ⟨attempts, hattempts⟩ := h.beforePoll 0 store
    rw [present, hattempts]
    exact hstore.after attempts
  | succ i ih =>
    obtain ⟨attempts, hattempts⟩ := h.beforePoll (i + 1) (others.present store i)
    rw [present, hattempts]
    exact ih.after attempts

/-- A poll claims the message at the head of the queue. If there is none it leaves the store as it
is. -/
theorem perform_tryReceive (name : String) (context : Context) (run : Run)
    (hfaults : run.faults = []) (hready : run.ready = true) (hstore : run.store.Orderly) :
    (run.store.queue name = [] ∧ ∃ notices,
        perform (Mailbox.tryReceive name) context run = (.ok none, { run with notices })) ∨
      ∃ m rest store notices, run.store.queue name = m.item :: rest ∧ store.Orderly ∧
        perform (Mailbox.tryReceive name) context run =
          (.ok (some m), { run with store, notices }) := by
  obtain ⟨ledger, hs, hholds⟩ := hstore.ledger
  have hconnected : run.connected = run := by
    unfold Run.connected
    rw [Tables.completed_of_has hstore.has, ← hready]
  obtain ⟨message, store, notices, hreceive⟩ : ∃ message store notices,
      perform (Mailbox.tryReceive name) context run =
        (.ok message, { run.connected with store, notices }) :=
    Mailbox.tryReceive_succeeds ⟨hfaults, hstore.available, fun _ => hstore.has⟩ hstore.own
      (Mailbox.legible_of_holds hholds name)
  rw [hconnected] at hreceive
  rw [hholds.queue_eq, Ledger.queue]
  obtain ⟨rfl, hwaiting, -⟩ | ⟨first, rest, rfl, hwaiting, -⟩ :=
    Mailbox.tryReceive_ok hholds hreceive
  · -- No table was missing, so that connecting has made none.
    obtain ⟨connected, hsettled, ⟨-, -, hleft⟩ | ⟨m, -, hsome, -⟩⟩ :=
      Mailbox.tryReceive_cases hreceive
    · have hkept : store = run.store := by
        obtain hsame | hcompleted := hsettled
        · exact hleft.trans hsame
        · rw [Tables.completed_of_has hstore.has] at hcompleted
          exact hleft.trans hcompleted
      exact .inl ⟨by rw [hwaiting, List.map_nil], notices, hkept ▸ hreceive⟩
    · cases hsome
  · have hafter : (pollTurn id name context run).attempt.after run.store = store :=
      Attempt.after_of_perform (pollTurn_perform id hreceive)
    refine .inr ⟨first.claimFor name context.now, rest.map Message.item, store, notices, ?_,
      hafter ▸ hstore.after [(pollTurn id name context run).attempt], hreceive⟩
    rw [hwaiting, List.map_cons]
    rfl

/-- A receiver that no poll before has given a message is about to make a poll. -/
structure AtPoll (others : Others) (interval : Nat) (limit : Option Nat) (start : Nat)
    (base : Store) (made : Nat) (run : Run) : Prop where
  faults : run.faults = []
  ready : run.ready = true
  orderly : run.store.Orderly
  elapsed : run.elapsed = start + pollTime interval limit made
  found : others.beforePoll made run.store = others.present base made

/-- How the polls end that follow some that have been made: the first one that finds a message
delivers it, or all are made and none finds any. The last two arguments are what is received and
when. -/
inductive Ends (mailbox : Nat → List Item) (interval patience : Nat) (limit : Option Nat)
    (made : Nat) : Nat → Except Failure Reception → Nat → Prop where
  | delivered {i : Nat} {m : Message} {rest : List Item}
      (hcount : made + i < pollCount interval patience limit)
      (hempty : ∀ j < i, mailbox (made + j) = []) (h : mailbox (made + i) = m.item :: rest) :
    Ends mailbox interval patience limit made (i + 1) (.ok (.delivered m))
      (pollTime interval limit (made + i))
  | unanswered {polls : Nat} (hcount : made + polls = pollCount interval patience limit)
      (hempty : ∀ j < polls, mailbox (made + j) = []) :
    Ends mailbox interval patience limit made polls (.ok (Receive.unanswered limit))
      (pollTime interval limit (made + polls))

theorem Ends.cons {mailbox : Nat → List Item} {interval patience made polls time : Nat}
    {limit : Option Nat} {received : Except Failure Reception} (hempty : mailbox made = [])
    (h : Ends mailbox interval patience limit (made + 1) polls received time) :
    Ends mailbox interval patience limit made (polls + 1) received time := by
  have hshift (j : Nat) : made + 1 + j = made + (j + 1) := by omega
  have hbefore {i : Nat} (h : ∀ j < i, mailbox (made + 1 + j) = []) :
      ∀ j < i + 1, mailbox (made + j) = [] := by
    intro j hj
    cases j with
    | zero => exact hempty
    | succ j => exact hshift j ▸ h j (by omega)
  cases h with
  | delivered hcount hrest hfound =>
    rw [hshift] at hcount hfound ⊢
    exact .delivered hcount (hbefore hrest) hfound
  | unanswered hcount hrest =>
    rw [hshift] at hcount ⊢
    exact .unanswered hcount (hbefore hrest)

/-- A poll is made at its time, and what it finds is known. -/
structure Made (found : Nat → Store) (interval : Nat) (limit : Option Nat) (start i : Nat)
    (turn : Turn) : Prop where
  time : turn.attempt.run.elapsed = start + pollTime interval limit i
  found : turn.others turn.attempt.run.store = found i

/-- The polls that follow some that have been made are made at their times, and end in time. -/
structure Timely (found : Nat → Store) (name : String) (interval patience : Nat)
    (limit : Option Nat) (start made : Nat) (turns : List Turn)
    (received : Except Failure Reception) (waited : Run) : Prop where
  polls : ∀ i (hi : i < turns.length), Made found interval limit start (made + i) turns[i]
  ends : ∃ time, waited.elapsed = start + time ∧
    Ends (fun i => (found i).queue name) interval patience limit made turns.length received time
  faults : waited.faults = []
  ready : waited.ready = true
  orderly : waited.store.Orderly

section Timely

variable {found : Nat → Store} {name : String} {interval patience start made : Nat}
  {limit : Option Nat} {turn : Turn} {received : Except Failure Reception} {waited : Run}

theorem Timely.cons {turns : List Turn} (hempty : (found made).queue name = [])
    (hturn : Made found interval limit start made turn)
    (h : Timely found name interval patience limit start (made + 1) turns received waited) :
    Timely found name interval patience limit start made (turn :: turns) received waited where
  polls i hi := by
    cases i with
    | zero => exact hturn
    | succ i =>
      have hshift : made + 1 + i = made + (i + 1) := by omega
      rw [List.getElem_cons_succ, ← hshift]
      exact h.polls i (Nat.lt_of_succ_lt_succ hi)
  ends := by
    obtain ⟨time, htime, hends⟩ := h.ends
    exact ⟨time, htime, hends.cons hempty⟩
  faults := h.faults
  ready := h.ready
  orderly := h.orderly

theorem Timely.single {time : Nat} (hturn : Made found interval limit start made turn)
    (hends : Ends (fun i => (found i).queue name) interval patience limit made 1 received time)
    (htime : waited.elapsed = start + time) (hfaults : waited.faults = [])
    (hready : waited.ready = true) (horderly : waited.store.Orderly) :
    Timely found name interval patience limit start made [turn] received waited where
  polls i hi := by
    obtain rfl : i = 0 := by simpa using hi
    exact hturn
  ends := ⟨time, htime, hends⟩
  faults := hfaults
  ready := hready
  orderly := horderly

end Timely

section Wait

variable {others : Others} {name : String} {context : Context} {deadline limit : Option Nat}
  {base : Store} {start patience made polls : Nat} {run left : Run}

theorem perform_poll_delivered {m : Message}
    (h : perform (Mailbox.tryReceive name) context (afterOthers (others.beforePoll made) run) =
      (.ok (some m), left)) :
    perform (poll others name deadline made (polls + 1)) context run =
      (.ok (.delivered m), left) := by
  rw [perform_poll_succ, h]

theorem perform_poll_timedOut
    (h : perform (Mailbox.tryReceive name) context (afterOthers (others.beforePoll made) run) =
      (.ok none, left))
    (hnap : nap? context.config.pollInterval left.elapsed deadline = none) :
    perform (poll others name deadline made (polls + 1)) context run =
      (.ok .timedOut, { left with notices := .receiveTimedOut name :: left.notices }) := by
  rw [perform_poll_succ, h]
  dsimp only
  rw [hnap]

theorem perform_poll_again {milliseconds : Nat}
    (h : perform (Mailbox.tryReceive name) context (afterOthers (others.beforePoll made) run) =
      (.ok none, left))
    (hnap : nap? context.config.pollInterval left.elapsed deadline = some milliseconds) :
    perform (poll others name deadline made (polls + 1)) context run =
      perform (poll others name deadline (made + 1) polls) context (rested milliseconds left) := by
  rw [perform_poll_succ, h]
  dsimp only
  rw [hnap]

theorem AtPoll.next {milliseconds : Nat} (notices : List Notice)
    (h : AtPoll others context.config.pollInterval limit start base made run)
    (horderly : (others.present base made).Orderly)
    (htime : pollTime context.config.pollInterval limit (made + 1) =
      pollTime context.config.pollInterval limit made + milliseconds) :
    AtPoll others context.config.pollInterval limit start base (made + 1)
      (rested milliseconds { afterOthers (others.beforePoll made) run with notices }) where
  faults := h.faults
  ready := h.ready
  orderly := by
    change (others.beforePoll made run.store).Orderly
    rwa [h.found]
  elapsed := by
    rw [htime, ← Nat.add_assoc, ← h.elapsed]
    rfl
  found := congrArg (others.beforePoll (made + 1)) h.found

/-- How many polls are to come: if there is a limit, those that are made until it is reached are
enough. -/
structure Enough (interval patience : Nat) (limit : Option Nat) (made polls : Nat) : Prop where
  limited : ∀ t ∈ limit, made < pollCount interval patience limit ∧
    pollCount interval patience limit ≤ made + polls
  unlimited : limit = none → made + polls = patience

/-- However many polls have been made without finding a message, those to come are made at their
times. The first of them that finds a message delivers it. -/
theorem poll_timely (name : String) (hinterval : 0 < context.config.pollInterval)
    (hpresent : ∀ i, (others.present base i).Orderly)
    (henough : Enough context.config.pollInterval patience limit made polls)
    (h : AtPoll others context.config.pollInterval limit start base made run) :
    ∃ turns received waited,
      perform (poll others name (limit.map (start + ·)) made polls) context run =
        (received, waited) ∧
      Polls others name context (limit.map (start + ·)) made run turns received waited ∧
      Timely (others.present base) name context.config.pollInterval patience limit start made
        turns received waited := by
  induction polls generalizing made run with
  | zero =>
    cases limit with
    | none =>
      exact ⟨[], _, run, rfl, .unwatched made run, ⟨nofun, ⟨_, h.elapsed,
        .unanswered (henough.unlimited rfl) nofun⟩, h.faults, h.ready, h.orderly⟩⟩
    | some t =>
      -- A wait with a limit is over before the polls that are watched are.
      obtain ⟨hmade, hpolls⟩ := henough.limited t rfl
      omega
  | succ polls ih =>
    have hstore : (afterOthers (others.beforePoll made) run).store = others.present base made :=
      h.found
    have horderly := hpresent made
    have hmade : Made (others.present base) context.config.pollInterval limit start made
        (pollTurn (others.beforePoll made) name context run) := ⟨h.elapsed, h.found⟩
    have hcount : made < pollCount context.config.pollInterval patience limit := by
      cases limit with
      | none =>
        have := henough.unlimited rfl
        rw [pollCount]
        omega
      | some t => exact (henough.limited t rfl).1
    obtain ⟨hempty, notices, hreceive⟩ | ⟨m, rest, store, notices, hqueue, hleft, hreceive⟩ :=
      perform_tryReceive name context (afterOthers (others.beforePoll made) run) h.faults h.ready
        (hstore ▸ horderly)
    · rw [hstore] at hempty
      by_cases hmore : ∀ t ∈ limit, made * context.config.pollInterval < t
      · obtain ⟨milliseconds, hnap, htime⟩ := nap?_next start hmore
        rw [← h.elapsed] at hnap
        have hrest : Enough context.config.pollInterval patience limit (made + 1) polls := by
          refine ⟨fun t ht => ?_, fun hnone => ?_⟩
          · have := (henough.limited t ht).2
            obtain rfl := Option.mem_def.1 ht
            exact ⟨(succ_lt_pollCount patience hinterval).2 (hmore t rfl), by omega⟩
          · have := henough.unlimited hnone
            omega
        obtain ⟨turns, received, waited, hperform, hpolls, htimely⟩ :=
          ih hrest (h.next notices horderly htime)
        exact ⟨_, received, waited, (perform_poll_again hreceive hnap).trans hperform,
          .again hreceive hnap hpolls, htimely.cons hempty hmade⟩
      · -- This poll is made at the limit, so it is the last one.
        obtain ⟨t, rfl, hlast⟩ : ∃ t, limit = some t ∧
            t ≤ made * context.config.pollInterval := by
          simpa using hmore
        have hnap := nap?_last start hlast
        rw [← h.elapsed] at hnap
        have hdone : made + 1 = pollCount context.config.pollInterval patience (some t) := by
          have hnot := mt (succ_lt_pollCount patience hinterval).1
            (Nat.not_lt.2 hlast)
          omega
        have hsame : pollTime context.config.pollInterval (some t) (made + 1) =
            pollTime context.config.pollInterval (some t) made := by
          rw [hdone, pollTime_pollCount hinterval, pollTime, min_eq_right hlast]
        refine ⟨_, _, _, perform_poll_timedOut hreceive hnap, .timedOut hreceive hnap,
          .single hmade (.unanswered hdone fun j hj => ?_) ?_ h.faults h.ready ?_⟩
        · obtain rfl := Nat.lt_one_iff.1 hj
          exact hempty
        · rw [hsame]
          exact h.elapsed
        · exact hstore ▸ horderly
    · rw [hstore] at hqueue
      exact ⟨_, _, _, perform_poll_delivered hreceive, .delivered hreceive,
        .single hmade (.delivered hcount nofun hqueue) h.elapsed h.faults h.ready hleft⟩

end Wait

/-- A wait goes by its schedule, where `found i` is the store that its poll `i` finds if those
before it claim nothing. -/
structure OnSchedule (found : Nat → Store) (name : String) (interval patience : Nat)
    (limit : Option Nat) (start : Nat) (turns : List Turn) (received : Except Failure Reception)
    (waited : Run) : Prop where
  polls : ∀ i (hi : i < turns.length), Made found interval limit start i turns[i]
  /-- The first poll that finds a message is the last one, and delivers the oldest message. -/
  delivered : ∀ i < pollCount interval patience limit, (∀ j < i, (found j).queue name = []) →
    (found i).queue name ≠ [] → ∃ m rest, (found i).queue name = m.item :: rest ∧
      received = .ok (.delivered m) ∧ turns.length = i + 1 ∧
      waited.elapsed = start + pollTime interval limit i
  unanswered : (∀ i < pollCount interval patience limit, (found i).queue name = []) →
    received = .ok (unanswered limit) ∧ turns.length = pollCount interval patience limit ∧
      waited.elapsed = start + pollTime interval limit (pollCount interval patience limit)

section OnSchedule

variable {found : Nat → Store} {name : String} {interval patience start t : Nat}
  {limit : Option Nat} {turns : List Turn} {received : Except Failure Reception} {waited : Run}

theorem Timely.onSchedule
    (h : Timely found name interval patience limit start 0 turns received waited) :
    OnSchedule found name interval patience limit start turns received waited := by
  obtain ⟨time, htime, hends⟩ := h.ends
  generalize hlength : turns.length = polls at hends
  refine ⟨fun i hi => by simpa using h.polls i hi, ?_, ?_⟩
  · intro i hi hbefore hfound
    cases hends with
    | @delivered k m rest hcount hempty hqueue =>
      rw [Nat.zero_add] at hqueue htime
      obtain hlt | rfl | hlt := Nat.lt_trichotomy i k
      · exact absurd (Nat.zero_add i ▸ hempty i hlt) hfound
      · exact ⟨m, rest, hqueue, rfl, hlength, htime⟩
      · rw [hbefore k hlt] at hqueue
        cases hqueue
    | unanswered hcount hempty =>
      exact absurd (Nat.zero_add i ▸ hempty i (by omega)) hfound
  · intro hnone
    cases hends with
    | delivered hcount hempty hqueue =>
      rw [hnone _ hcount] at hqueue
      cases hqueue
    | unanswered hcount hempty =>
      rw [Nat.zero_add] at hcount htime
      exact ⟨rfl, hlength.trans hcount, hcount ▸ htime⟩

namespace OnSchedule

theorem exists_delivered
    (h : OnSchedule found name interval patience limit start turns received waited) {i : Nat}
    (hi : i < pollCount interval patience limit) (hfound : (found i).queue name ≠ []) :
    ∃ k ≤ i, ∃ m rest, (∀ j < k, (found j).queue name = []) ∧
      (found k).queue name = m.item :: rest ∧ received = .ok (.delivered m) ∧
      waited.elapsed = start + pollTime interval limit k := by
  classical
  have hexists : ∃ k, (found k).queue name ≠ [] := ⟨i, hfound⟩
  have hle : Nat.find hexists ≤ i := Nat.find_min' hexists hfound
  have hbefore : ∀ j < Nat.find hexists, (found j).queue name = [] := fun j hj => by
    simpa using Nat.find_min hexists hj
  obtain ⟨m, rest, hqueue, hreceived, -, htime⟩ :=
    h.delivered _ (by omega) hbefore (Nat.find_spec hexists)
  exact ⟨_, hle, m, rest, hbefore, hqueue, hreceived, htime⟩

theorem cases (h : OnSchedule found name interval patience limit start turns received waited) :
    (∃ k < pollCount interval patience limit, ∃ m, received = .ok (.delivered m) ∧
        (found k).queue name ≠ [] ∧ waited.elapsed = start + pollTime interval limit k) ∨
      received = .ok (Receive.unanswered limit) ∧
        ∀ i < pollCount interval patience limit, (found i).queue name = [] := by
  by_cases hempty : ∀ i < pollCount interval patience limit, (found i).queue name = []
  · exact .inr ⟨(h.unanswered hempty).1, hempty⟩
  · push Not at hempty
    obtain ⟨i, hi, hfound⟩ := hempty
    obtain ⟨k, hk, m, rest, -, hqueue, hreceived, htime⟩ := h.exists_delivered hi hfound
    exact .inl ⟨k, by omega, m, hreceived, by simp [hqueue], htime⟩

end OnSchedule

/-- A message that is there at a time is heeded: the first poll at that time or after it delivers a
message, unless an earlier poll has. It delivers that one if no other has been there before. -/
structure Heeds (found : Nat → Store) (name : String) (interval limit start : Nat)
    (received : Except Failure Reception) (waited : Run) (s : Nat) : Prop where
  le : s ≤ pollTime interval (some limit) (s ⌈/⌉ interval)
  first : ∀ j < s ⌈/⌉ interval, pollTime interval (some limit) j < s
  delivered : ∀ item ∈ (found (s ⌈/⌉ interval)).queue name,
    ∃ m, received = .ok (.delivered m) ∧
      waited.elapsed ≤ start + pollTime interval (some limit) (s ⌈/⌉ interval) ∧
      ((∀ j < s ⌈/⌉ interval, (found j).queue name = []) →
        ((found (s ⌈/⌉ interval)).queue name).head? = some item → m.item = item)

theorem OnSchedule.heeds
    (h : OnSchedule found name interval patience (some t) start turns received waited)
    (hinterval : 0 < interval) {s : Nat} (hs : s ≤ t) :
    Heeds found name interval t start received waited s := by
  obtain ⟨hle, hfirst⟩ := pollTime_ceilDiv hinterval hs
  refine ⟨hle, hfirst, fun item hitem => ?_⟩
  have hi : s ⌈/⌉ interval < pollCount interval patience (some t) := by
    have hmul : t ≤ interval * (t ⌈/⌉ interval) := le_smul_ceilDiv hinterval
    exact Nat.lt_succ_of_le ((ceilDiv_le_iff_le_mul hinterval).2 (hs.trans hmul))
  obtain ⟨k, hk, m, rest, -, hqueue, hreceived, htime⟩ :=
    h.exists_delivered hi (List.ne_nil_of_mem hitem)
  refine ⟨m, hreceived, htime ▸ Nat.add_le_add_left (pollTime_mono hk) start, ?_⟩
  intro hbefore hhead
  obtain rfl : k = s ⌈/⌉ interval := by
    refine hk.eq_of_not_lt fun hlt => ?_
    rw [hbefore k hlt] at hqueue
    cases hqueue
  rw [hqueue] at hhead
  exact Option.some.inj hhead

/-- What a limit means to who waits: a message is delivered by then, or the receiver gives up when
the limit is reached. -/
structure KeepsLimit (found : Nat → Store) (name : String) (interval limit start : Nat)
    (turns : List Turn) (received : Except Failure Reception) (waited : Run) : Prop where
  ends : received = .ok .timedOut ∨ ∃ m, received = .ok (.delivered m)
  timedOut_iff : received = .ok .timedOut ↔ ∀ i ≤ limit ⌈/⌉ interval, (found i).queue name = []
  timedOut : received = .ok .timedOut →
    turns.length = limit ⌈/⌉ interval + 1 ∧ waited.elapsed = start + limit
  elapsed_le : waited.elapsed ≤ start + limit
  heeds : ∀ s ≤ limit, Heeds found name interval limit start received waited s

theorem OnSchedule.keepsLimit
    (h : OnSchedule found name interval patience (some t) start turns received waited)
    (hinterval : 0 < interval) :
    KeepsLimit found name interval t start turns received waited := by
  have hheeds : ∀ s ≤ t, Heeds found name interval t start received waited s := fun s hs =>
    h.heeds hinterval hs
  obtain ⟨k, hk, m, rfl, hfound, htime⟩ | ⟨rfl, hempty⟩ := h.cases
  · have hle : pollTime interval (some t) k ≤ t := min_le_right _ _
    refine ⟨.inr ⟨m, rfl⟩, ⟨nofun, fun hempty => ?_⟩, nofun, by omega, hheeds⟩
    exact absurd (hempty k (Nat.le_of_lt_succ hk)) hfound
  · obtain ⟨-, hlength, htime⟩ := h.unanswered hempty
    rw [pollTime_pollCount hinterval] at htime
    exact ⟨.inl rfl, ⟨fun _ i hi => hempty i (Nat.lt_succ_of_le hi), fun _ => rfl⟩,
      fun _ => ⟨hlength, htime⟩, htime.le, hheeds⟩

end OnSchedule

theorem enough_watched {interval : Nat} (hinterval : 0 < interval) (patience start : Nat)
    (limit : Option Nat) :
    Enough interval patience limit 0 (watched patience (limit.map (start + ·))) := by
  refine ⟨?_, ?_⟩
  · rintro t ⟨⟩
    have hle : t ⌈/⌉ interval ≤ t :=
      (ceilDiv_le_iff_le_mul hinterval).2 (Nat.le_mul_of_pos_left t hinterval)
    rw [pollCount, Option.map_some, watched]
    omega
  · rintro rfl
    exact Nat.zero_add patience

theorem wait_onSchedule {others : Others} (name : String) {context : Context} {run : Run}
    (hothers : others.ByCalls) (patience : Nat) (limit : Option Nat)
    (hinterval : 0 < context.config.pollInterval) (hfaults : run.faults = [])
    (hready : run.ready = true) (hstore : run.store.Orderly) :
    ∃ turns received waited,
      perform (wait others patience name limit) context run = (received, waited) ∧
      Polls others name context (deadline run.elapsed limit) 0 run turns received waited ∧
      Timely (others.present run.store) name context.config.pollInterval patience
        (limit.filter (· ≤ longestLimit)) run.elapsed 0 turns received waited := by
  have hpoll : AtPoll others context.config.pollInterval (limit.filter (· ≤ longestLimit))
      run.elapsed run.store 0 run := by
    refine ⟨hfaults, hready, hstore, ?_, rfl⟩
    cases limit.filter (· ≤ longestLimit) <;> simp [pollTime]
  obtain ⟨turns, received, waited, hperform, hpolls, htimely⟩ :=
    poll_timely name hinterval (hothers.orderly_present hstore)
      (enough_watched hinterval patience run.elapsed _) hpoll
  refine ⟨turns, received, waited, ?_, hpolls, htimely⟩
  rw [wait, perform_bind, perform_get]
  exact hperform

/-- Where nothing stands in the way, a status is recorded as long as an id is left, and no table is
missing afterwards. -/
theorem exists_recordStatus {store : Store} (h : store.tables = {}) (earlier : List Attempt)
    (name : String) (status : AgentStatus) (context : Context) {run : Run}
    (hrun : run.Undisturbed (store.after earlier))
    (hleft : (store.after earlier).tables.lastId < Sequence.maxId) :
    ∃ id shown, perform (Registry.recordStatus name status) context
        { run with store := store.after earlier } = (.ok id, shown) ∧
      shown.faults = [] ∧ shown.ready = true ∧ shown.store.Orderly := by
  obtain ⟨ledger, hs, hholds⟩ := Store.exists_ledger h earlier
  have hown : (store.after earlier).tables.Own := Store.own_after h earlier
  obtain ⟨shown, hshown, htended⟩ : ∃ shown, perform (Registry.recordStatus name status) context
      { run with store := store.after earlier } = (.ok (ledger.last + 1),
        { ({ run with store := store.after earlier } : Run).connected with store := shown }) ∧
      ({ run with store := store.after earlier } : Run).connected.store.Tended shown :=
    Registry.recordStatus_succeeds hs hholds hrun.found hown (hholds.last ▸ hleft)
  have hafter : (statusTurn id name status context run).attempt.after (store.after earlier) =
      shown := Attempt.after_of_perform (statusTurn_perform id hshown)
  obtain ⟨next, hnext, hheld⟩ :=
    Store.holds_after hs hholds [(statusTurn id name status context run).attempt]
  have hserves := hrun.found.serves hholds hown
  refine ⟨_, _, hshown, hrun.faults, rfl, ⟨next, hnext, ?_⟩, htended.own hserves.own,
    htended.available hserves.undisturbed.available,
    fun name => htended.has name (hserves.has name)⟩
  rw [← hafter]
  exact hheld

theorem receive_answers_wait {others : Others} {patience : Nat} {name : String} {limit : Option Nat}
    {context : Context} {run shown waited : Run} {id : Int} {received : Except Failure Reception}
    (hothers : others.ByCalls)
    (hshown : perform (Registry.recordStatus name .waiting) context run = (.ok id, shown))
    (hwait : perform (wait others patience name limit) context shown = (received, waited))
    (hfaults : waited.faults = []) (hstore : waited.store.Orderly)
    (hleft : (others.afterPolls waited.store).tables.lastId < Sequence.maxId) :
    (perform (receive others patience name limit) context run).1 = received := by
  have horderly : (others.afterPolls waited.store).Orderly := by
    obtain ⟨attempts, hattempts⟩ := hothers.afterPolls waited.store
    exact hattempts ▸ hstore.after attempts
  obtain ⟨ledger, hs, hholds⟩ := horderly.ledger
  have hundisturbed : (afterOthers others.afterPolls waited).Undisturbed
      (afterOthers others.afterPolls waited).store :=
    ⟨hfaults, horderly.available, fun _ => horderly.has⟩
  obtain ⟨store, hrestored, -⟩ : ∃ store, perform (Registry.recordStatus name .running) context
        (afterOthers others.afterPolls waited) =
      (.ok (ledger.last + 1), { (afterOthers others.afterPolls waited).connected with store }) ∧
      _ :=
    Registry.recordStatus_succeeds hs hholds hundisturbed horderly.own (hholds.last ▸ hleft)
  rw [perform_receive, hshown]
  dsimp only
  rw [hwait]
  dsimp only
  rw [hrestored]
  cases received <;> rfl

/-- However clients have used a store that was empty, and whatever they call while a receiver waits:
if nothing disturbs the receiver, it shows as waiting, polls at the times of its schedule, and
answers what the first poll that finds a message claims. With a limit it keeps to it. Without one,
or with one beyond the longest, it never gives up. -/
theorem receiver_polls_on_schedule (store : Store) (h : store.tables = {})
    (earlier : List Attempt) (others : Others) (hothers : others.ByCalls) (patience : Nat)
    (name : String) (limit : Option Nat) (context : Context)
    (hinterval : 0 < context.config.pollInterval) (run : Run)
    (hrun : run.Undisturbed (store.after earlier))
    (hleft : (store.after earlier).tables.lastId < Sequence.maxId) :
    let interval := context.config.pollInterval
    let start : Run := { run with store := store.after earlier }
    ∃ id shown turns received waited,
      perform (Registry.recordStatus name .waiting) context start = (.ok id, shown) ∧
      perform (wait others patience name limit) context shown = (received, waited) ∧
      Polls others name context (deadline shown.elapsed limit) 0 shown turns received waited ∧
      ((others.afterPolls waited.store).tables.lastId < Sequence.maxId →
        (perform (receive others patience name limit) context start).1 = received) ∧
      let found := others.present shown.store
      OnSchedule found name interval patience (limit.filter (· ≤ longestLimit)) shown.elapsed turns
        received waited ∧
      (∀ t ≤ longestLimit, limit = some t →
        KeepsLimit found name interval t shown.elapsed turns received waited) ∧
      ((∀ t ∈ limit, longestLimit < t) → received ≠ .ok .timedOut ∧
        ∀ i (hi : i < turns.length),
          turns[i].attempt.run.elapsed = shown.elapsed + i * interval) := by
  intro interval start
  obtain ⟨id, shown, hshown, hfaults, hready, horderly⟩ :=
    exists_recordStatus h earlier name .waiting context hrun hleft
  obtain ⟨turns, received, waited, hwait, hpolls, htimely⟩ :=
    wait_onSchedule name hothers patience limit hinterval hfaults hready horderly
  refine ⟨id, shown, turns, received, waited, hshown, hwait, hpolls, fun hleft => ?_,
    htimely.onSchedule, fun t ht hlimit => ?_, fun hunlimited => ?_⟩
  · exact receive_answers_wait hothers hshown hwait htimely.faults htimely.orderly hleft
  · have hbound : limit.filter (· ≤ longestLimit) = some t := by
      rw [hlimit, Option.filter_some, if_pos (by simpa using ht)]
    rw [hbound] at htimely
    exact htimely.onSchedule.keepsLimit hinterval
  · have hbound : limit.filter (· ≤ longestLimit) = none := by
      rw [Option.filter_eq_none_iff]
      intro t ht
      simpa using hunlimited t ht
    rw [hbound] at htimely
    refine ⟨?_, fun i hi => (htimely.onSchedule.polls i hi).time⟩
    obtain ⟨-, -, m, rfl, -⟩ | ⟨rfl, -⟩ := htimely.onSchedule.cases
    · exact nofun
    · exact nofun

/-- A message that is sent between the first poll and the second one is delivered by the second one,
after the interval. The limit would have been reached before the third one. -/
theorem message_between_polls_is_delivered :
    let context := Client.atEpoch.context
    let run := Client.atEpoch.run
    let others := Others.sending "worker" "hello"
    let m := (Message.unclaimed 2 .epoch none "worker" "hello").claimFor "worker" .epoch
    (perform (receive others 0 "worker" (some 700)) context run).1 = .ok (.delivered m) ∧
      ∃ shown turns waited,
        perform (Registry.recordStatus "worker" .waiting) context run = (.ok 1, shown) ∧
        perform (wait others 0 "worker" (some 700)) context shown =
          (.ok (.delivered m), waited) ∧
        turns.length = 2 ∧ waited.elapsed = shown.elapsed + 500 ∧
        KeepsLimit (others.present shown.store) "worker" 500 700 shown.elapsed turns
          (.ok (.delivered m)) waited := by
  intro context run others m
  let entered := perform (Registry.recordStatus "worker" .waiting) context run
  have hid : entered.1 = .ok 1 := by decide +kernel
  have hfirst : (others.present entered.2.store 0).queue "worker" = [] := by decide +kernel
  have hsecond : (others.present entered.2.store 1).queue "worker" ≠ [] := by decide +kernel
  have hreceived : (perform (receive others 0 "worker" (some 700)) context run).1 =
      .ok (.delivered m) := by decide +kernel
  have hleft : (perform (wait others 0 "worker" (some 700)) context
      entered.2).2.store.tables.lastId < Sequence.maxId := by decide +kernel
  obtain ⟨id, shown, turns, received, waited, hshown, hwait, -, hanswer, hschedule, hkeeps, -⟩ :=
    receiver_polls_on_schedule {} rfl [] others
      (Others.leaveOut_sending "worker" "hello" "worker").byCalls 0 "worker" (some 700) context
      (by decide) run ⟨rfl, ⟨rfl, rfl, rfl, rfl, rfl⟩, nofun⟩ (by decide)
  have hentered : entered = (.ok id, shown) := hshown
  -- From here on what the calls come to is not worked out again.
  clear_value entered
  subst hentered
  obtain rfl : id = 1 := Except.ok.inj hid
  rw [hwait] at hleft
  obtain rfl : received = .ok (.delivered m) := (hanswer hleft).symm.trans hreceived
  have hbefore : ∀ j < 1, ((others.present shown.store) j).queue "worker" = [] := fun j hj =>
    Nat.lt_one_iff.1 hj ▸ hfirst
  obtain ⟨-, -, -, -, hlength, htime⟩ := hschedule.delivered 1 (by decide) hbefore hsecond
  exact ⟨hreceived, shown, turns, waited, hshown, hwait, hlength, htime,
    hkeeps 700 (by decide) rfl⟩

end Receive

end Switchboard
