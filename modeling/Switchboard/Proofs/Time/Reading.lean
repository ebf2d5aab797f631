import Switchboard.Proofs.Text.Margin
import Switchboard.Proofs.Text.Numeral
import Switchboard.Proofs.Time.Calendar
import Switchboard.Time.Reader

namespace Switchboard

open Text Time

namespace Time.Reader

/-- Of the digits in front, all are taken if there are as many of them as can be, or if no further
digit comes after them. -/
theorem takeWhile_isDigit_take {width : Nat} {digits rest : List Char}
    (h : ∀ c ∈ digits, c.isDigit) (hlength : digits.length ≤ width)
    (hrest : digits.length = width ∨ ∀ c ∈ rest.head?, ¬ c.isDigit) :
    ((digits ++ rest).take width).takeWhile Char.isDigit = digits := by
  obtain ⟨more, rfl⟩ := Nat.exists_eq_add_of_le hlength
  have hnone : (rest.take more).takeWhile Char.isDigit = [] := by
    obtain hfull | hrest := hrest
    · obtain rfl : more = 0 := by omega
      rfl
    · cases rest with
      | nil => simp
      | cons c rest =>
        cases more with
        | zero => rfl
        | succ more => exact List.takeWhile_cons_of_neg (hrest c rfl)
  rw [List.take_length_add_append, List.takeWhile_append_of_pos h, hnone, List.append_nil]

theorem number_eq {width : Nat} {digits rest : List Char} (h : IsDigits digits)
    (hlength : digits.length ≤ width)
    (hrest : digits.length = width ∨ ∀ c ∈ rest.head?, ¬ c.isDigit)
    (hvalue : digitsValue digits ≤ maxInt64) :
    number width (digits ++ rest) = some (digitsValue digits, rest) := by
  have hrun := takeWhile_isDigit_take h.isDigit hlength hrest
  have hread : readDigits maxInt64 .tooLarge 0 digits = .ok (digitsValue digits) :=
    (readDigits_zero_eq_ok_iff h.ne_nil).2 ⟨h, rfl, hvalue⟩
  simp [number, hrun, h.ne_nil, hread]

theorem number_padded {width n : Nat} (rest : List Char) (hwidth : 0 < width) (h : n < 10 ^ width)
    (hvalue : n ≤ maxInt64) : number width ((padded width n).toList ++ rest) = some (n, rest) := by
  have hlength := length_padded hwidth h
  rw [number_eq (isDigits_padded width n) (Nat.le_of_eq hlength) (.inl hlength) (by simpa using hvalue),
    digitsValue_padded]

theorem skipBlanks_cons {c : Char} (h : ¬ isBlank c) (rest : List Char) :
    skipBlanks (c :: rest) = c :: rest :=
  List.dropWhile_cons_of_neg h

theorem skipBlanks_digits {digits : List Char} (h : IsDigits digits) (rest : List Char) :
    skipBlanks (digits ++ rest) = digits ++ rest := by
  obtain ⟨c, cs, rfl⟩ := List.exists_cons_of_ne_nil h.ne_nil
  exact skipBlanks_cons (not_isBlank_of_isDigit (h.isDigit c List.mem_cons_self)) _

theorem field_padded {n : Nat} (rest : List Char) (h : n < 100) :
    field ((padded 2 n).toList ++ rest) = some (n, rest) := by
  rw [field, skipBlanks_digits (isDigits_padded 2 n)]
  exact number_padded rest (by decide) h (Nat.le_trans (Nat.le_of_lt h) (by decide))

theorem separator_cons {c : Char} (h : ¬ isBlank c) (rest : List Char) :
    separator c (c :: rest) = some rest := by
  simp [separator, skipBlanks_cons h]

theorem year_digits {digits : List Char} (h : IsDigits digits) (rest : List Char) :
    year (digits ++ rest) = (number 4 (digits ++ rest)).map fun (n, rest) => ((n : Int), rest) := by
  rw [year, skipBlanks_digits h]
  split
  · exact absurd ‹_› (h.append_ne_sign (by decide) rest _)
  · exact absurd ‹_› (h.append_ne_sign (by decide) rest _)
  · rfl

theorem year_minus (rest : List Char) :
    year ('-' :: rest) = (number rest.length rest).map fun (n, rest) => (-(n : Int), rest) := by
  rw [year, skipBlanks_cons (by decide)]
  rfl

theorem year_plus (rest : List Char) :
    year ('+' :: rest) = (number rest.length rest).map fun (n, rest) => ((n : Int), rest) := by
  rw [year, skipBlanks_cons (by decide)]
  rfl

theorem year_yearText {y : Int} {rest : List Char} (h : y.natAbs ≤ maxInt64)
    (hrest : ∀ c ∈ rest.head?, ¬ c.isDigit) :
    year ((Timestamp.yearText y).toList ++ rest) = some (y, rest) := by
  have hsigned (n : Nat) (hn : n ≤ maxInt64) :
      number ((padded 4 n).toList ++ rest).length ((padded 4 n).toList ++ rest) =
        some (n, rest) := by
    rw [number_eq (isDigits_padded 4 n) (by simp) (.inr hrest) (by simpa using hn),
      digitsValue_padded]
  unfold Timestamp.yearText
  split
  · have hnumber : number 4 ((padded 4 y.toNat).toList ++ rest) = some (y.toNat, rest) :=
      number_padded rest (by decide) (by omega) (by omega)
    rw [year_digits (isDigits_padded 4 y.toNat), hnumber]
    simp only [Option.map_some, Int.toNat_of_nonneg ‹0 ≤ y ∧ y ≤ 9999›.1]
  · split
    · have hwritten : ("+" ++ padded 4 y.toNat).toList ++ rest =
          '+' :: ((padded 4 y.toNat).toList ++ rest) := by simp
      rw [hwritten, year_plus, hsigned y.toNat (by omega)]
      simp only [Option.map_some, Int.toNat_of_nonneg ‹0 ≤ y›]
    · have hwritten : ("-" ++ padded 4 y.natAbs).toList ++ rest =
          '-' :: ((padded 4 y.natAbs).toList ++ rest) := by simp
      have hback : -(y.natAbs : Int) = y := by omega
      rw [hwritten, year_minus, hsigned y.natAbs h]
      simp only [Option.map_some, hback]

end Time.Reader

namespace Timestamp

def Precision.kept : Precision → Nat → Nat
  | .millis, nanos => nanos / 1000000 * 1000000
  | .exact, nanos => nanos

end Timestamp

namespace Time.Reader

theorem fraction_padded {width n : Nat} {rest : List Char} (hwidth : 0 < width) (hnine : width ≤ 9)
    (h : n < 10 ^ width) (hrest : ∀ c ∈ rest.head?, ¬ c.isDigit) :
    fraction (("." ++ padded width n).toList ++ rest) = some (n * 10 ^ (9 - width), rest) := by
  have hwritten : ("." ++ padded width n).toList ++ rest =
      '.' :: ((padded width n).toList ++ rest) := by simp
  have hdigits := isDigits_padded width n
  have hlength := length_padded hwidth h
  have hvalue : n ≤ maxInt64 :=
    Nat.le_trans (Nat.le_of_lt h) (Nat.le_trans (Nat.pow_le_pow_right (by decide) hnine) (by decide))
  have hnumber : number 9 ((padded width n).toList ++ rest) = some (n, rest) := by
    rw [number_eq hdigits (by omega) (.inr hrest) (by simpa using hvalue), digitsValue_padded]
  have hrun : (((padded width n).toList ++ rest).take 9).takeWhile Char.isDigit =
      (padded width n).toList := takeWhile_isDigit_take hdigits.isDigit (by omega) (.inr hrest)
  have hdrop : rest.dropWhile Char.isDigit = rest := by
    cases rest with
    | nil => rfl
    | cons c rest => exact List.dropWhile_cons_of_neg (hrest c rfl)
  simp only [hwritten, fraction, hrun, hnumber, Option.map_some, hlength, hdrop, Nat.pow_eq]

theorem fraction_none {rest : List Char} (hrest : ∀ c ∈ rest.head?, c ≠ '.') :
    fraction rest = some (0, rest) := by
  unfold fraction
  split
  · exact absurd rfl (hrest _ rfl)
  · rfl

theorem fraction_fractionText (precision : Timestamp.Precision) {nanos : Nat} {rest : List Char}
    (h : nanos < nanosPerSecond) (hrest : ∀ c ∈ rest.head?, ¬ c.isDigit ∧ c ≠ '.') :
    fraction ((Timestamp.fractionText precision nanos).toList ++ rest) =
      some (precision.kept nanos, rest) := by
  have hsecond : nanosPerSecond = 1000000000 := rfl
  have hdigit (c : Char) (hc : c ∈ rest.head?) : ¬ c.isDigit := (hrest c hc).1
  unfold Timestamp.fractionText Timestamp.Precision.kept
  cases precision with
  | millis => exact fraction_padded (by decide) (by decide) (by omega) hdigit
  | exact =>
    dsimp only
    split
    · subst nanos
      exact fraction_none fun c hc => (hrest c hc).2
    · split
      · rw [fraction_padded (by decide) (by decide) (by omega) hdigit]
        have hback : nanos / 1000000 * 10 ^ (9 - 3) = nanos := by omega
        rw [hback]
      · split
        · rw [fraction_padded (by decide) (by decide) (by omega) hdigit]
          have hback : nanos / 1000 * 10 ^ (9 - 6) = nanos := by omega
          rw [hback]
        · rw [fraction_padded (by decide) (by decide) (by omega) hdigit]
          have hback : nanos * 10 ^ (9 - 9) = nanos := by omega
          rw [hback]

/-- The parts of a point in time as they are written, with the digits that tell its nanoseconds. -/
def written (precision : Timestamp.Precision) (t : Timestamp) : Parts where
  date := Date.ofDayNumber (t.seconds / 86400)
  hour := (t.seconds % 86400).toNat / 3600
  minute := (t.seconds % 86400).toNat / 60 % 60
  second := if nanosPerSecond ≤ t.nanos then (t.seconds % 86400).toNat % 60 + 1
    else (t.seconds % 86400).toNat % 60
  nanos := precision.kept (if nanosPerSecond ≤ t.nanos then t.nanos - nanosPerSecond else t.nanos)
  offset := 0

theorem year_bounds (t : Timestamp) :
    -262143 ≤ (Date.ofDayNumber (t.seconds / 86400)).year ∧
      (Date.ofDayNumber (t.seconds / 86400)).year ≤ 262142 := by
  obtain ⟨hfirst, hlast, -⟩ := t.valid
  unfold firstSecond at hfirst
  unfold lastSecond at hlast
  exact year_ofDayNumber (by omega) (by omega)

theorem parts_write (precision : Timestamp.Precision) (t : Timestamp) :
    parts (t.write precision).toList = some (written precision t, []) := by
  obtain ⟨hyear, hyear'⟩ := year_bounds t
  obtain ⟨hmonth, hday⟩ := (exists_ofDayNumber (t.seconds / 86400)).bounds
  obtain ⟨-, -, hnanos⟩ := t.valid
  have hclock : (t.seconds % 86400).toNat < 86400 := by omega
  have hmax : maxInt64 = 9223372036854775807 := rfl
  have hsecond : (if nanosPerSecond ≤ t.nanos then (t.seconds % 86400).toNat % 60 + 1
      else (t.seconds % 86400).toNat % 60) < 100 := by
    split <;> omega
  have hfraction : (if nanosPerSecond ≤ t.nanos then t.nanos - nanosPerSecond else t.nanos) <
      nanosPerSecond := by
    split <;> omega
  have hdash (rest : List Char) : separator '-' ('-' :: rest) = some rest :=
    separator_cons (by decide) rest
  have hcolon (rest : List Char) : separator ':' (':' :: rest) = some rest :=
    separator_cons (by decide) rest
  have hend : offset ['Z'] = some (0, []) := by
    rw [offset, skipBlanks_cons (by decide)]
    rfl
  unfold parts Timestamp.write
  simp only [String.toList_append, List.append_assoc, String.reduceToList, List.cons_append,
    List.nil_append]
  rw [year_yearText (by omega) (by simp)]
  simp only [Option.bind_eq_bind, Option.bind_some, hdash]
  rw [field_padded _ (by omega)]
  simp only [Option.bind_some, hdash]
  rw [field_padded _ (by omega)]
  simp only [Option.bind_some]
  rw [field_padded _ (by omega)]
  simp only [Option.bind_some, hcolon]
  rw [field_padded _ (by omega)]
  simp only [Option.bind_some, hcolon]
  rw [field_padded _ hsecond]
  simp only [Option.bind_some]
  rw [fraction_fractionText precision hfraction (by simp)]
  simp only [Option.bind_some, hend]
  rfl

end Time.Reader

namespace Timestamp

/-- The point in time without the part of its second that is not told. -/
def cut (precision : Precision) (t : Timestamp) : Timestamp where
  seconds := t.seconds
  nanos := precision.kept t.nanos
  valid := by
    obtain ⟨hfirst, hlast, hnanos⟩ := t.valid
    refine ⟨hfirst, hlast, ?_⟩
    cases precision with
    | millis =>
      unfold nanosPerSecond at *
      dsimp only [Precision.kept]
      omega
    | exact => exact hnanos

@[simp]
theorem cut_exact (t : Timestamp) : t.cut .exact = t := rfl

theorem ofUnix?_eq_some {t : Timestamp} {seconds : Int} {nanos : Nat} (hseconds : seconds = t.seconds)
    (hnanos : nanos = t.nanos) : ofUnix? seconds nanos = some t := by
  subst hseconds hnanos
  exact dif_pos t.valid

end Timestamp

open Time.Reader

theorem Time.Reader.timestamp?_written (precision : Timestamp.Precision) (t : Timestamp) :
    (written precision t).timestamp? = some (t.cut precision) := by
  obtain ⟨hfirst, hlast, hnanos⟩ := t.valid
  have hday := dayNumber_ofDayNumber (t.seconds / 86400)
  have hwell : (written precision t).WellFormed := by
    refine ⟨exists_ofDayNumber _, (year_bounds t).1, (year_bounds t).2, ?_, ?_, ?_,
      by simp [written]⟩
    all_goals
      unfold written
      dsimp only
    · omega
    · omega
    · split <;> omega
  unfold Parts.timestamp?
  rw [if_pos hwell]
  unfold written
  dsimp only
  rw [hday]
  by_cases hleap : nanosPerSecond ≤ t.nanos
  · -- A leap second comes after the last second of a minute.
    have hlastSecond : t.seconds % 60 = 59 := by omega
    have hsixty : (t.seconds % 86400).toNat % 60 + 1 = 60 := by omega
    simp only [if_pos hleap, hsixty, if_true]
    refine Timestamp.ofUnix?_eq_some (by dsimp only [Timestamp.cut]; omega) ?_
    cases precision with
    | millis =>
      unfold nanosPerSecond at *
      dsimp only [Timestamp.cut, Timestamp.Precision.kept]
      omega
    | exact => exact Nat.add_sub_cancel' hleap
  · have hsixty : (t.seconds % 86400).toNat % 60 ≠ 60 := by omega
    simp only [if_neg hleap, if_neg hsixty, Nat.zero_add]
    exact Timestamp.ofUnix?_eq_some (by dsimp only [Timestamp.cut]; omega) rfl

/-- What is written of a point in time is read as that point, but for the part of its second that
is not told. -/
theorem Timestamp.read?_write (precision : Precision) (t : Timestamp) :
    read? (t.write precision) = some (t.cut precision) := by
  unfold read?
  rw [Time.Reader.parts_write]
  exact Time.Reader.timestamp?_written precision t

namespace Timestamp

/-- Only digits, signs, letters and marks of written times occur in the text. -/
def IsTimeText (s : String) : Prop :=
  ∀ c ∈ s.toList, c.isDigit ∨ c ∈ ['+', '-', 'T', ':', '.', 'Z']

theorem isTimeText_mark {s : String} {mark : Char} (hs : s.toList = [mark])
    (hmark : mark ∈ ['+', '-', 'T', ':', '.', 'Z']) : IsTimeText s := by
  intro c hc
  rw [hs] at hc
  exact .inr (List.mem_singleton.1 hc ▸ hmark)

theorem IsTimeText.append {s t : String} (hs : IsTimeText s) (ht : IsTimeText t) :
    IsTimeText (s ++ t) := by
  intro c hc
  rw [String.toList_append] at hc
  obtain hc | hc := List.mem_append.1 hc
  · exact hs c hc
  · exact ht c hc

theorem isTimeText_padded (width n : Nat) : IsTimeText (padded width n) :=
  fun c hc => .inl ((isDigits_padded width n).isDigit c hc)

theorem isTimeText_yearText (year : Int) : IsTimeText (yearText year) := by
  unfold yearText
  split
  · exact isTimeText_padded _ _
  · split
    · exact (isTimeText_mark rfl (by decide)).append (isTimeText_padded _ _)
    · exact (isTimeText_mark rfl (by decide)).append (isTimeText_padded _ _)

theorem isTimeText_fractionText (precision : Precision) (nanos : Nat) :
    IsTimeText (fractionText precision nanos) := by
  have hpoint (width n : Nat) : IsTimeText ("." ++ padded width n) :=
    (isTimeText_mark rfl (by decide)).append (isTimeText_padded _ _)
  unfold fractionText
  cases precision with
  | millis => exact hpoint _ _
  | exact =>
    dsimp only
    split
    · exact fun c hc => nomatch hc
    · split
      · exact hpoint _ _
      · split <;> exact hpoint _ _

theorem isTimeText_write (precision : Precision) (t : Timestamp) :
    IsTimeText (t.write precision) := by
  have hdash : IsTimeText "-" := isTimeText_mark rfl (by decide)
  have hcolon : IsTimeText ":" := isTimeText_mark rfl (by decide)
  have hclock : IsTimeText "T" := isTimeText_mark rfl (by decide)
  have hzone : IsTimeText "Z" := isTimeText_mark rfl (by decide)
  have hfield (n : Nat) : IsTimeText (padded 2 n) := isTimeText_padded 2 n
  exact ((isTimeText_yearText _).append hdash |>.append (hfield _) |>.append hdash
    |>.append (hfield _) |>.append hclock |>.append (hfield _) |>.append hcolon
    |>.append (hfield _) |>.append hcolon |>.append (hfield _)
    |>.append (isTimeText_fractionText _ _)).append hzone

theorem not_mem_write {c : Char} (hdigit : ¬ c.isDigit)
    (hmark : c ∉ ['+', '-', 'T', ':', '.', 'Z']) (precision : Precision) (t : Timestamp) :
    c ∉ (t.write precision).toList :=
  fun hmem => (isTimeText_write precision t c hmem).elim hdigit hmark

end Timestamp

end Switchboard
