import Switchboard.Configuration
import Switchboard.Proofs.Text.Margin
import Switchboard.Proofs.Text.Numeral

namespace Switchboard.Configuration

open Text

/-- What a setting counts as by its text: its default if it has none or a blank one, and else the
positive number that the text between its blank margins denotes. -/
inductive Counts (default : Nat) : Option String → Nat → Prop where
  | absent : Counts default none default
  | blank {text : String} (trimmed : Trimmed text.toList []) : Counts default (some text) default
  | number {text : String} {inner : List Char} {n : Nat} (trimmed : Trimmed text.toList inner)
    (denotes : DenotesNat inner n) (pos : 1 ≤ n) (le : n ≤ maxNat64) : Counts default (some text) n

/-- There is a text, and what stands between its blank margins is the numeral of no positive number that
64 bits can hold. -/
structure IsBad (setting : Option String) (inner : List Char) : Prop where
  trimmed : ∃ text ∈ setting, Trimmed text.toList inner
  ne_nil : inner ≠ []
  no_number : ¬ ∃ n, DenotesNat inner n ∧ 1 ≤ n ∧ n ≤ maxNat64

def settings : List String := [busyTimeoutName, pollIntervalName, lockRetriesName, retryBackoffName]

/-- The settings count as the fields of the configuration. -/
structure Describes (lookup : String → Option String) (config : Configuration) : Prop where
  busyTimeout : Counts standard.busyTimeout (lookup busyTimeoutName) config.busyTimeout
  pollInterval : Counts standard.pollInterval (lookup pollIntervalName) config.pollInterval
  lockRetries : Counts standard.lockRetries (lookup lockRetriesName) config.lockRetries
  retryBackoff : Counts standard.retryBackoff (lookup retryBackoffName) config.retryBackoff

variable {lookup : String → Option String} {setting : Option String} {name : String}
  {default n : Nat} {inner : List Char} {config : Configuration} {failure : Failure}

theorem positive_of_counts (h : Counts default (lookup name) n) :
    positive lookup name default = .ok n := by
  unfold positive
  generalize lookup name = setting at h
  cases h with
  | absent => rfl
  | blank trimmed =>
    rw [Option.getD_some, trimmed.trim_eq]
    rfl
  | @number text inner n trimmed denotes pos le =>
    have hread : readNat64 inner = .ok n := readNat64_eq_ok_iff.2 ⟨denotes, le⟩
    have hne : inner ≠ [] := by
      rintro rfl
      exact denotesNat_nil denotes
    rw [Option.getD_some, trimmed.trim_eq]
    simp [hread, hne, Nat.lt_of_succ_le pos]

theorem positive_of_isBad (h : IsBad (lookup name) inner) :
    positive lookup name default = .error (.badSetting name (String.ofList inner)) := by
  obtain ⟨⟨text, htext, trimmed⟩, hne, hnumber⟩ := h
  unfold positive
  rw [Option.mem_def.1 htext, Option.getD_some, trimmed.trim_eq]
  cases hread : readNat64 inner with
  | error flaw => simp [hread, hne]
  | ok n =>
    obtain ⟨denotes, le⟩ := readNat64_eq_ok_iff.1 hread
    have hzero : ¬ 0 < n := fun hpos => hnumber ⟨n, denotes, hpos, le⟩
    simp [hread, hne, hzero]

theorem counts_or_isBad (default : Nat) (setting : Option String) :
    (∃ n, Counts default setting n) ∨ ∃ inner, IsBad setting inner := by
  cases setting with
  | none => exact .inl ⟨default, .absent⟩
  | some text =>
    have trimmed := trimmed_trim text.toList
    generalize trim text.toList = inner at trimmed
    by_cases hne : inner = []
    · subst hne
      exact .inl ⟨default, .blank trimmed⟩
    · by_cases hnumber : ∃ n, DenotesNat inner n ∧ 1 ≤ n ∧ n ≤ maxNat64
      · obtain ⟨n, denotes, pos, le⟩ := hnumber
        exact .inl ⟨n, .number trimmed denotes pos le⟩
      · exact .inr ⟨inner, ⟨text, rfl, trimmed⟩, hne, hnumber⟩

theorem positive_eq_ok_iff :
    positive lookup name default = .ok n ↔ Counts default (lookup name) n := by
  refine ⟨fun h => ?_, positive_of_counts⟩
  obtain ⟨m, hm⟩ | ⟨inner, hbad⟩ := counts_or_isBad default (lookup name)
  · rw [positive_of_counts hm] at h
    cases h
    exact hm
  · rw [positive_of_isBad hbad] at h
    cases h

theorem positive_eq_error_iff : positive lookup name default = .error failure ↔
    ∃ inner, IsBad (lookup name) inner ∧ failure = .badSetting name (String.ofList inner) := by
  constructor
  · intro h
    obtain ⟨m, hm⟩ | ⟨inner, hbad⟩ := counts_or_isBad default (lookup name)
    · rw [positive_of_counts hm] at h
      cases h
    · rw [positive_of_isBad hbad] at h
      cases h
      exact ⟨inner, hbad, rfl⟩
  · rintro ⟨inner, hbad, rfl⟩
    exact positive_of_isBad hbad

theorem Counts.unique {m : Nat} (hn : Counts default setting n) (hm : Counts default setting m) :
    n = m := by
  have hok {k : Nat} (h : Counts default setting k) :
      positive (fun _ => setting) "" default = .ok k := positive_of_counts h
  exact Except.ok.inj ((hok hn).symm.trans (hok hm))

theorem Counts.not_isBad (h : Counts default (lookup name) n) : ¬ IsBad (lookup name) inner := by
  intro hbad
  have hok := positive_of_counts h
  rw [positive_of_isBad hbad] at hok
  cases hok

theorem Counts.pos (h : Counts default setting n) (hdefault : 1 ≤ default) : 1 ≤ n := by
  cases h with
  | absent | blank => exact hdefault
  | number _ _ pos _ => exact pos

theorem Counts.le (h : Counts default setting n) (hdefault : default ≤ maxNat64) : n ≤ maxNat64 := by
  cases h with
  | absent | blank => exact hdefault
  | number _ _ _ le => exact le

theorem counts_toString (pos : 1 ≤ n) (le : n ≤ maxNat64) :
    Counts default (some (toString n)) n := by
  refine .number (trimmed_self ?_) (denotesNat_toString n) pos le
  intro c hc
  rw [Nat.toString_eq_repr, Nat.toList_repr] at hc
  exact not_isBlank_of_isDigit ((isDigits_toDigits n).isDigit c hc)

/-- The first bad setting of a list, and what stands between the blank margins of its text. -/
def IsFirstBad (lookup : String → Option String) (names : List String) (name : String)
    (inner : List Char) : Prop :=
  ∃ before after, names = before ++ name :: after ∧
    (∀ other ∈ before, ∀ text, ¬ IsBad (lookup other) text) ∧ IsBad (lookup name) inner

variable {first : String} {names : List String}

theorem IsFirstBad.of_isBad (h : IsBad (lookup first) inner) :
    IsFirstBad lookup (first :: names) first inner :=
  ⟨[], names, rfl, by simp, h⟩

theorem IsFirstBad.cons (hfirst : Counts default (lookup first) n)
    (h : IsFirstBad lookup names name inner) : IsFirstBad lookup (first :: names) name inner := by
  obtain ⟨before, after, rfl, hbefore, hbad⟩ := h
  exact ⟨first :: before, after, rfl,
    List.forall_mem_cons.2 ⟨fun _ => hfirst.not_isBad, hbefore⟩, hbad⟩

theorem IsFirstBad.cases (h : IsFirstBad lookup (first :: names) name inner) :
    (first = name ∧ IsBad (lookup name) inner) ∨
      ((∀ text, ¬ IsBad (lookup first) text) ∧ IsFirstBad lookup names name inner) := by
  obtain ⟨before, after, heq, hbefore, hbad⟩ := h
  cases before with
  | nil => exact .inl ⟨(List.cons.inj heq).1, hbad⟩
  | cons other before =>
    obtain ⟨rfl, rfl⟩ := List.cons.inj heq
    obtain ⟨hfirst, hbefore⟩ := List.forall_mem_cons.1 hbefore
    exact .inr ⟨hfirst, before, after, rfl, hbefore, hbad⟩

theorem not_isFirstBad_nil : ¬ IsFirstBad lookup [] name inner := by
  rintro ⟨before, after, heq, -⟩
  simp at heq

theorem exists_counts (default : Nat) (h : ∀ text, ¬ IsBad setting text) :
    ∃ n, Counts default setting n :=
  (counts_or_isBad default setting).resolve_right (not_exists.2 h)

theorem ofLookup_eq_ok_iff : ofLookup lookup = .ok config ↔
    Describes lookup config ∧ config.lockRetries ≤ maxLockRetries := by
  constructor
  · intro h
    obtain ⟨_, hbusy, h⟩ := bind_eq_ok.1 h
    obtain ⟨_, hpoll, h⟩ := bind_eq_ok.1 h
    obtain ⟨_, hretries, h⟩ := bind_eq_ok.1 h
    obtain ⟨_, hbackoff, h⟩ := bind_eq_ok.1 h
    split at h <;> cases h
    exact ⟨⟨positive_eq_ok_iff.1 hbusy, positive_eq_ok_iff.1 hpoll, positive_eq_ok_iff.1 hretries,
      positive_eq_ok_iff.1 hbackoff⟩, ‹_›⟩
  · rintro ⟨⟨hbusy, hpoll, hretries, hbackoff⟩, hrange⟩
    rw [ofLookup, positive_of_counts hbusy, positive_of_counts hpoll, positive_of_counts hretries,
      positive_of_counts hbackoff]
    exact if_pos hrange

theorem ofLookup_eq_error (h : ofLookup lookup = .error failure) :
    (∃ name inner, IsFirstBad lookup settings name inner ∧
      failure = .badSetting name (String.ofList inner)) ∨
    ∃ config, Describes lookup config ∧ maxLockRetries < config.lockRetries ∧
      failure = .settingOutOfRange lockRetriesName := by
  obtain hbusy | ⟨busyTimeout, hbusy, h⟩ := bind_eq_error.1 h
  · obtain ⟨inner, hbad, rfl⟩ := positive_eq_error_iff.1 hbusy
    exact .inl ⟨_, _, .of_isBad hbad, rfl⟩
  have hbusy := positive_eq_ok_iff.1 hbusy
  obtain hpoll | ⟨pollInterval, hpoll, h⟩ := bind_eq_error.1 h
  · obtain ⟨inner, hbad, rfl⟩ := positive_eq_error_iff.1 hpoll
    exact .inl ⟨_, _, .cons hbusy (.of_isBad hbad), rfl⟩
  have hpoll := positive_eq_ok_iff.1 hpoll
  obtain hretries | ⟨lockRetries, hretries, h⟩ := bind_eq_error.1 h
  · obtain ⟨inner, hbad, rfl⟩ := positive_eq_error_iff.1 hretries
    exact .inl ⟨_, _, .cons hbusy (.cons hpoll (.of_isBad hbad)), rfl⟩
  have hretries := positive_eq_ok_iff.1 hretries
  obtain hbackoff | ⟨retryBackoff, hbackoff, h⟩ := bind_eq_error.1 h
  · obtain ⟨inner, hbad, rfl⟩ := positive_eq_error_iff.1 hbackoff
    exact .inl ⟨_, _, .cons hbusy (.cons hpoll (.cons hretries (.of_isBad hbad))), rfl⟩
  have hbackoff := positive_eq_ok_iff.1 hbackoff
  split at h
  · cases h
  · rename_i hrange
    cases h
    exact .inr ⟨⟨busyTimeout, pollInterval, lockRetries, retryBackoff⟩,
      ⟨hbusy, hpoll, hretries, hbackoff⟩, Nat.not_le.1 hrange, rfl⟩

theorem ofLookup_of_isFirstBad (h : IsFirstBad lookup settings name inner) :
    ofLookup lookup = .error (.badSetting name (String.ofList inner)) := by
  obtain ⟨rfl, hbad⟩ | ⟨hbusy, h⟩ := h.cases
  · exact bind_eq_error.2 (.inl (positive_of_isBad hbad))
  obtain ⟨_, hbusy⟩ := exists_counts standard.busyTimeout hbusy
  refine bind_eq_error.2 (.inr ⟨_, positive_of_counts hbusy, ?_⟩)
  obtain ⟨rfl, hbad⟩ | ⟨hpoll, h⟩ := h.cases
  · exact bind_eq_error.2 (.inl (positive_of_isBad hbad))
  obtain ⟨_, hpoll⟩ := exists_counts standard.pollInterval hpoll
  refine bind_eq_error.2 (.inr ⟨_, positive_of_counts hpoll, ?_⟩)
  obtain ⟨rfl, hbad⟩ | ⟨hretries, h⟩ := h.cases
  · exact bind_eq_error.2 (.inl (positive_of_isBad hbad))
  obtain ⟨_, hretries⟩ := exists_counts standard.lockRetries hretries
  refine bind_eq_error.2 (.inr ⟨_, positive_of_counts hretries, ?_⟩)
  obtain ⟨rfl, hbad⟩ | ⟨_, h⟩ := h.cases
  · exact bind_eq_error.2 (.inl (positive_of_isBad hbad))
  exact absurd h not_isFirstBad_nil

theorem ofLookup_of_tooManyRetries (h : Describes lookup config)
    (hretries : maxLockRetries < config.lockRetries) :
    ofLookup lookup = .error (.settingOutOfRange lockRetriesName) := by
  rw [ofLookup, positive_of_counts h.busyTimeout, positive_of_counts h.pollInterval,
    positive_of_counts h.lockRetries, positive_of_counts h.retryBackoff]
  exact if_neg (Nat.not_le.2 hretries)

theorem Describes.not_isBad (h : Describes lookup config) :
    ∀ name ∈ settings, ∀ inner, ¬ IsBad (lookup name) inner := by
  simp only [settings, List.forall_mem_cons]
  exact ⟨fun _ => h.busyTimeout.not_isBad, fun _ => h.pollInterval.not_isBad,
    fun _ => h.lockRetries.not_isBad, fun _ => h.retryBackoff.not_isBad, nofun⟩

theorem exists_describes (h : ∀ name ∈ settings, ∀ inner, ¬ IsBad (lookup name) inner) :
    ∃ config, Describes lookup config := by
  simp only [settings, List.forall_mem_cons] at h
  obtain ⟨hbusy, hpoll, hretries, hbackoff, -⟩ := h
  obtain ⟨busyTimeout, hbusy⟩ := exists_counts standard.busyTimeout hbusy
  obtain ⟨pollInterval, hpoll⟩ := exists_counts standard.pollInterval hpoll
  obtain ⟨lockRetries, hretries⟩ := exists_counts standard.lockRetries hretries
  obtain ⟨retryBackoff, hbackoff⟩ := exists_counts standard.retryBackoff hbackoff
  exact ⟨⟨busyTimeout, pollInterval, lockRetries, retryBackoff⟩, hbusy, hpoll, hretries, hbackoff⟩

/-- Each field is a positive number that 64 bits can hold. -/
structure Positive (config : Configuration) : Prop where
  busyTimeout : 1 ≤ config.busyTimeout ∧ config.busyTimeout ≤ maxNat64
  pollInterval : 1 ≤ config.pollInterval ∧ config.pollInterval ≤ maxNat64
  lockRetries : 1 ≤ config.lockRetries ∧ config.lockRetries ≤ maxNat64
  retryBackoff : 1 ≤ config.retryBackoff ∧ config.retryBackoff ≤ maxNat64

theorem Describes.positive (h : Describes lookup config) : config.Positive where
  busyTimeout := ⟨h.busyTimeout.pos (by decide), h.busyTimeout.le (by decide)⟩
  pollInterval := ⟨h.pollInterval.pos (by decide), h.pollInterval.le (by decide)⟩
  lockRetries := ⟨h.lockRetries.pos (by decide), h.lockRetries.le (by decide)⟩
  retryBackoff := ⟨h.retryBackoff.pos (by decide), h.retryBackoff.le (by decide)⟩

/-- The fields of the configuration stand in these texts in decimal digits. -/
structure WrittenIn (config : Configuration) (texts : String → Option String) : Prop where
  busyTimeout : texts busyTimeoutName = some (toString config.busyTimeout)
  pollInterval : texts pollIntervalName = some (toString config.pollInterval)
  lockRetries : texts lockRetriesName = some (toString config.lockRetries)
  retryBackoff : texts retryBackoffName = some (toString config.retryBackoff)

theorem WrittenIn.describes (h : config.WrittenIn lookup) (hpositive : config.Positive) :
    Describes lookup config where
  busyTimeout := h.busyTimeout ▸ counts_toString hpositive.busyTimeout.1 hpositive.busyTimeout.2
  pollInterval := h.pollInterval ▸ counts_toString hpositive.pollInterval.1 hpositive.pollInterval.2
  lockRetries := h.lockRetries ▸ counts_toString hpositive.lockRetries.1 hpositive.lockRetries.2
  retryBackoff := h.retryBackoff ▸ counts_toString hpositive.retryBackoff.1 hpositive.retryBackoff.2

/-- A configuration is accepted exactly if every setting is sane: none of the four is bad, and there
are no more retries than 32 bits can count. It then holds the numbers that the settings count as, all of
them positive, and what is written of it in decimal digits describes it again. Otherwise the first bad
setting is told with what stands between the blank margins of its text; that there are too many retries
is told only if no setting is bad. -/
theorem sane_settings_are_accepted (lookup : String → Option String) :
    ((∃ config, ofLookup lookup = .ok config) ↔
      (∀ name ∈ settings, ∀ inner, ¬ IsBad (lookup name) inner) ∧
        ∀ n, Counts standard.lockRetries (lookup lockRetriesName) n → n ≤ 4294967295) ∧
    (∀ config, ofLookup lookup = .ok config →
      Describes lookup config ∧ config.Positive ∧
        ∀ texts, config.WrittenIn texts → ofLookup texts = .ok config) ∧
    (∀ failure, ofLookup lookup = .error failure ↔
      (∃ name inner, IsFirstBad lookup settings name inner ∧
        failure = .badSetting name (String.ofList inner)) ∨
      (∀ name ∈ settings, ∀ inner, ¬ IsBad (lookup name) inner) ∧
        (∃ n, Counts standard.lockRetries (lookup lockRetriesName) n ∧ 4294967295 < n) ∧
          failure = .settingOutOfRange lockRetriesName) ∧
    (∀ name text, (Failure.badSetting name text).message =
      "Configuration error" ++ ": " ++ (name ++ " must be a positive integer, got '" ++ text ++ "'")) ∧
    ∀ name, (Failure.settingOutOfRange name).message =
      "Configuration error" ++ ": " ++ (name ++ " is out of range") := by
  refine ⟨⟨?_, ?_⟩, ?_, fun failure => ⟨?_, ?_⟩, fun _ _ => rfl, fun _ => rfl⟩
  · rintro ⟨config, h⟩
    obtain ⟨hdescribes, hrange⟩ := ofLookup_eq_ok_iff.1 h
    refine ⟨hdescribes.not_isBad, fun n hn => ?_⟩
    rwa [hn.unique hdescribes.lockRetries]
  · rintro ⟨hsane, hretries⟩
    obtain ⟨config, hdescribes⟩ := exists_describes hsane
    exact ⟨config, ofLookup_eq_ok_iff.2 ⟨hdescribes, hretries _ hdescribes.lockRetries⟩⟩
  · intro config h
    obtain ⟨hdescribes, hrange⟩ := ofLookup_eq_ok_iff.1 h
    refine ⟨hdescribes, hdescribes.positive, fun texts hwritten => ?_⟩
    exact ofLookup_eq_ok_iff.2 ⟨hwritten.describes hdescribes.positive, hrange⟩
  · intro h
    obtain hbad | ⟨config, hdescribes, hrange, hfailure⟩ := ofLookup_eq_error h
    · exact .inl hbad
    · exact .inr ⟨hdescribes.not_isBad, ⟨_, hdescribes.lockRetries, hrange⟩, hfailure⟩
  · rintro (⟨name, inner, hbad, rfl⟩ | ⟨hsane, ⟨n, hn, hrange⟩, rfl⟩)
    · exact ofLookup_of_isFirstBad hbad
    · obtain ⟨config, hdescribes⟩ := exists_describes hsane
      refine ofLookup_of_tooManyRetries hdescribes ?_
      rwa [hdescribes.lockRetries.unique hn]

/-- Blank margins, a plus sign and leading zeros do not matter, and the most retries there can be are
accepted. -/
theorem padded_settings_are_accepted :
    ∃ config : Configuration, config.busyTimeout = 250 ∧ config.lockRetries = 4294967295 ∧
      ofLookup (fun name =>
        if name = busyTimeoutName then some " +0250\n"
        else if name = lockRetriesName then some "4294967295" else none) = .ok config ∧
      ofLookup (fun name =>
        if name = busyTimeoutName then some "250"
        else if name = pollIntervalName then some "500"
        else if name = lockRetriesName then some "4294967295" else some "50") = .ok config := by
  have h : ofLookup (fun name =>
      if name = busyTimeoutName then some " +0250\n"
      else if name = lockRetriesName then some "4294967295" else none) =
      .ok { busyTimeout := 250, pollInterval := 500, lockRetries := 4294967295, retryBackoff := 50 } := rfl
  obtain ⟨-, -, hwritten⟩ := (sane_settings_are_accepted _).2.1 _ h
  exact ⟨_, rfl, rfl, h, hwritten _ ⟨by decide, by decide, by decide, by decide⟩⟩

end Switchboard.Configuration
