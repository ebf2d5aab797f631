import Mathlib.Algebra.GroupWithZero.Nat
import Switchboard.Text.Numeral

namespace Switchboard

theorem exists_of_map_eq_ok {ε α β : Type} {f : α → β} {x : Except ε α} {b : β}
    (h : x.map f = .ok b) : ∃ a, x = .ok a ∧ f a = b := by
  cases x with
  | error e => cases h
  | ok a => exact ⟨a, rfl, Except.ok.inj h⟩

theorem mapError_eq_ok_iff {ε δ α : Type} {f : ε → δ} {x : Except ε α} {a : α} :
    x.mapError f = .ok a ↔ x = .ok a := by
  constructor
  · intro h
    cases x with
    | error e => cases h
    | ok found =>
      cases h
      rfl
  · rintro rfl
    rfl

section Bind

variable {ε α β : Type} {first : Except ε α} {next : α → Except ε β}

theorem bind_eq_ok {b : β} :
    (first >>= next) = .ok b ↔ ∃ a, first = .ok a ∧ next a = .ok b := by
  cases first <;> simp [bind, Except.bind]

theorem bind_eq_error {e : ε} :
    (first >>= next) = .error e ↔ first = .error e ∨ ∃ a, first = .ok a ∧ next a = .error e := by
  cases first <;> simp [bind, Except.bind]

end Bind

namespace Text

structure IsDigits (digits : List Char) : Prop where
  ne_nil : digits ≠ []
  isDigit : ∀ c ∈ digits, c.isDigit

def digitsValue (digits : List Char) : Nat := Nat.ofDigitChars 10 digits 0

/-- Digits, perhaps after a plus sign, denote the number that they make up. -/
def DenotesNat (text : List Char) (n : Nat) : Prop :=
  ∃ digits, IsDigits digits ∧ (text = digits ∨ text = '+' :: digits) ∧ n = digitsValue digits

def DenotesInt (text : List Char) (n : Int) : Prop :=
  (∃ m : Nat, DenotesNat text m ∧ n = m) ∨
    ∃ digits, IsDigits digits ∧ text = '-' :: digits ∧ n = -(digitsValue digits : Int)

variable {limit value n : Nat} {overflow : NumeralFlaw} {text digits : List Char}

theorem digitValue?_eq (c : Char) :
    digitValue? c = if c.isDigit then some (c.toNat - '0'.toNat) else none := by
  unfold digitValue?
  simp only [Char.isDigit_iff_toNat]
  rfl

theorem le_ofDigitChars (digits : List Char) (value : Nat) :
    value ≤ Nat.ofDigitChars 10 digits value := by
  rw [Nat.ofDigitChars_eq_ofDigitChars_zero]
  have hpow : 1 * value ≤ 10 ^ digits.length * value :=
    Nat.mul_le_mul_right value (Nat.one_le_pow _ _ (by decide))
  omega

/-- The digits are read to their end exactly if the number that they make up is within the limit: no
number on the way is larger. -/
theorem readDigits_eq_ok_iff (hvalue : value ≤ limit) :
    readDigits limit overflow value digits = .ok n ↔
      (∀ c ∈ digits, c.isDigit) ∧ n = Nat.ofDigitChars 10 digits value ∧ n ≤ limit := by
  induction digits generalizing value with
  | nil =>
    simp only [readDigits, Except.ok.injEq, List.not_mem_nil, false_implies, implies_true,
      Nat.ofDigitChars_nil, true_and]
    omega
  | cons c rest ih =>
    rw [readDigits, digitValue?_eq, List.forall_mem_cons, Nat.ofDigitChars_cons, Nat.mul_comm 10]
    by_cases hdigit : c.isDigit
    · have hle := le_ofDigitChars rest (value * 10 + (c.toNat - '0'.toNat))
      rw [if_pos hdigit]
      dsimp only
      split
      · rw [ih ‹_›]
        simp [hdigit]
      · -- Further digits do not make the number smaller again.
        rename_i hlarge
        refine iff_of_false nofun fun ⟨_, hn, hlimit⟩ => ?_
        omega
    · rw [if_neg hdigit]
      exact iff_of_false nofun fun h => hdigit h.1.1

theorem readDigits_zero_eq_ok_iff (hne : digits ≠ []) :
    readDigits limit overflow 0 digits = .ok n ↔
      IsDigits digits ∧ n = digitsValue digits ∧ n ≤ limit := by
  rw [readDigits_eq_ok_iff (Nat.zero_le limit)]
  exact and_congr_left fun _ => ⟨fun h => ⟨hne, h⟩, fun h => h.isDigit⟩

theorem IsDigits.append_ne_sign (h : IsDigits digits) {sign : Char} (hsign : ¬ sign.isDigit)
    (rest tail : List Char) : digits ++ rest ≠ sign :: tail := by
  obtain ⟨c, cs, rfl⟩ := List.exists_cons_of_ne_nil h.ne_nil
  intro heq
  rw [List.cons_append] at heq
  exact hsign ((List.cons.inj heq).1 ▸ h.isDigit c List.mem_cons_self)

theorem IsDigits.ne_sign (h : IsDigits digits) {sign : Char} (hsign : ¬ sign.isDigit)
    (rest : List Char) : digits ≠ sign :: rest := by
  simpa using h.append_ne_sign hsign [] rest

theorem denotesNat_nil : ¬ DenotesNat [] n := by
  rintro ⟨digits, hdigits, rfl | h, -⟩
  · exact hdigits.ne_nil rfl
  · cases h

theorem denotesNat_plus : DenotesNat ('+' :: digits) n ↔ IsDigits digits ∧ n = digitsValue digits := by
  constructor
  · rintro ⟨found, hfound, heq | heq, hn⟩
    · exact absurd heq.symm (hfound.ne_sign (by decide) digits)
    · cases heq
      exact ⟨hfound, hn⟩
  · rintro ⟨hdigits, hn⟩
    exact ⟨digits, hdigits, .inr rfl, hn⟩

theorem denotesNat_unsigned (hplus : ∀ rest, text ≠ '+' :: rest) :
    DenotesNat text n ↔ IsDigits text ∧ n = digitsValue text := by
  constructor
  · rintro ⟨digits, hdigits, rfl | heq, hn⟩
    · exact ⟨hdigits, hn⟩
    · exact absurd heq (hplus digits)
  · rintro ⟨htext, hn⟩
    exact ⟨text, htext, .inl rfl, hn⟩

theorem denotesInt_minus {n : Int} :
    DenotesInt ('-' :: digits) n ↔ IsDigits digits ∧ n = -(digitsValue digits : Int) := by
  constructor
  · rintro (⟨m, ⟨found, hfound, heq | heq, -⟩, -⟩ | ⟨found, hfound, heq, hn⟩)
    · exact absurd heq.symm (hfound.ne_sign (by decide) digits)
    · cases heq
    · cases heq
      exact ⟨hfound, hn⟩
  · rintro ⟨hdigits, hn⟩
    exact .inr ⟨digits, hdigits, rfl, hn⟩

theorem denotesInt_natural {n : Int} (hminus : ∀ rest, text ≠ '-' :: rest) :
    DenotesInt text n ↔ ∃ m : Nat, DenotesNat text m ∧ n = m := by
  refine or_iff_left ?_
  rintro ⟨digits, -, heq, -⟩
  exact hminus digits heq

theorem readNat64_eq_ok_iff : readNat64 text = .ok n ↔ DenotesNat text n ∧ n ≤ maxNat64 := by
  unfold readNat64
  split
  · exact iff_of_false nofun fun h => denotesNat_nil h.1
  · exact iff_of_false nofun fun h => (denotesNat_plus.1 h.1).1.ne_nil rfl
  · rename_i digits hne
    rw [denotesNat_plus, readDigits_zero_eq_ok_iff (hne ·), and_assoc]
  · rename_i hnil _ hplus
    rw [denotesNat_unsigned hplus, readDigits_zero_eq_ok_iff hnil, and_assoc]

theorem map_ofNat_eq_ok_iff {read : Except NumeralFlaw Nat} {denoted : Nat → Prop} {n : Int}
    (h : ∀ m, read = .ok m ↔ denoted m ∧ m ≤ maxInt64) :
    read.map Int.ofNat = .ok n ↔ (∃ m : Nat, denoted m ∧ n = m) ∧ FitsInt64 n := by
  have hmax : maxInt64 = 9223372036854775807 := rfl
  unfold FitsInt64
  constructor
  · intro hread
    obtain ⟨m, hm, rfl⟩ := exists_of_map_eq_ok hread
    obtain ⟨hdenoted, hle⟩ := (h m).1 hm
    refine ⟨⟨m, hdenoted, rfl⟩, ?_⟩
    rw [Int.ofNat_eq_natCast]
    omega
  · rintro ⟨⟨m, hdenoted, rfl⟩, hfits⟩
    rw [(h m).2 ⟨hdenoted, by omega⟩]
    rfl

theorem readInt64_eq_ok_iff {n : Int} :
    readInt64 text = .ok n ↔ DenotesInt text n ∧ FitsInt64 n := by
  unfold readInt64
  split
  · rw [denotesInt_natural (by simp)]
    exact iff_of_false nofun fun ⟨⟨m, hm, _⟩, _⟩ => denotesNat_nil hm
  · rw [denotesInt_natural (by simp)]
    exact iff_of_false nofun fun ⟨⟨m, hm, _⟩, _⟩ => (denotesNat_plus.1 hm).1.ne_nil rfl
  · rw [denotesInt_minus]
    exact iff_of_false nofun fun h => h.1.1.ne_nil rfl
  · rename_i digits hne
    rw [denotesInt_natural (by simp)]
    refine map_ofNat_eq_ok_iff fun m => ?_
    rw [denotesNat_plus, readDigits_zero_eq_ok_iff (hne ·), and_assoc]
  · rename_i digits hne
    have hmax : maxInt64 = 9223372036854775807 := rfl
    rw [denotesInt_minus]
    unfold FitsInt64
    constructor
    · intro hread
      obtain ⟨m, hm, rfl⟩ := exists_of_map_eq_ok hread
      obtain ⟨hdigits, rfl, hle⟩ := (readDigits_zero_eq_ok_iff (hne ·)).1 hm
      rw [Int.ofNat_eq_natCast]
      exact ⟨⟨hdigits, rfl⟩, by omega, by omega⟩
    · rintro ⟨⟨hdigits, rfl⟩, hfits⟩
      rw [(readDigits_zero_eq_ok_iff (hne ·)).2 ⟨hdigits, rfl, by omega⟩]
      rfl
  · rename_i hnil _ _ hplus hminus
    rw [denotesInt_natural hminus]
    refine map_ofNat_eq_ok_iff fun m => ?_
    rw [denotesNat_unsigned hplus, readDigits_zero_eq_ok_iff hnil, and_assoc]

theorem isDigits_toDigits (n : Nat) : IsDigits (Nat.toDigits 10 n) where
  ne_nil := Nat.toDigits_ne_nil
  isDigit _ := Nat.isDigit_of_mem_toDigits (by decide) (by decide)

theorem denotesNat_toString (n : Nat) : DenotesNat (toString n).toList n := by
  rw [Nat.toString_eq_repr, Nat.toList_repr]
  exact ⟨_, isDigits_toDigits n, .inl rfl, Nat.ofDigitChars_ten_toDigits.symm⟩

theorem denotesInt_toString (n : Int) : DenotesInt (toString n).toList n := by
  rw [Int.toString_eq_repr, Int.repr_eq_if]
  by_cases hsign : 0 ≤ n
  · rw [if_pos hsign, ← Nat.toString_eq_repr]
    exact .inl ⟨_, denotesNat_toString _, (Int.toNat_of_nonneg hsign).symm⟩
  · rw [if_neg hsign, String.toList_append, Nat.toList_repr]
    refine .inr ⟨_, isDigits_toDigits _, rfl, ?_⟩
    rw [digitsValue, Nat.ofDigitChars_ten_toDigits]
    omega

/-- What digits make up, below zero if a minus sign is before them. -/
def intValue : List Char → Int
  | '-' :: digits => -(digitsValue digits : Int)
  | digits => digitsValue digits

@[simp]
theorem intValue_toString (n : Int) : intValue (toString n).toList = n := by
  rw [Int.toString_eq_repr, Int.repr_eq_if]
  split
  · rw [Nat.toList_repr]
    unfold intValue
    split
    · rename_i heq
      exact absurd heq ((isDigits_toDigits _).ne_sign (by decide) _)
    · rw [digitsValue, Nat.ofDigitChars_ten_toDigits, Int.toNat_of_nonneg ‹0 ≤ n›]
  · rw [String.toList_append, Nat.toList_repr]
    show -(digitsValue (Nat.toDigits 10 (-n).toNat) : Int) = n
    rw [digitsValue, Nat.ofDigitChars_ten_toDigits]
    omega

theorem toString_injective {m n : Int} (h : toString m = toString n) : m = n := by
  rw [← intValue_toString m, h, intValue_toString]

theorem toString_ne_nil (n : Int) : (toString n).toList ≠ [] := by
  rw [Int.toString_eq_repr, Int.repr_eq_if]
  split
  · rw [Nat.toList_repr]
    exact Nat.toDigits_ne_nil
  · simp

theorem isDigit_or_minus_of_mem_toString {n : Int} {c : Char} (h : c ∈ (toString n).toList) :
    c.isDigit ∨ c = '-' := by
  rw [Int.toString_eq_repr, Int.repr_eq_if] at h
  split at h
  · rw [Nat.toList_repr] at h
    exact .inl ((isDigits_toDigits _).isDigit c h)
  · rw [String.toList_append, Nat.toList_repr] at h
    obtain hminus | hdigit := List.mem_append.1 h
    · exact .inr (List.mem_singleton.1 hminus)
    · exact .inl ((isDigits_toDigits _).isDigit c hdigit)

theorem not_mem_toString {c : Char} (h : ¬ (c.isDigit ∨ c = '-')) (n : Int) :
    c ∉ (toString n).toList :=
  fun hmem => h (isDigit_or_minus_of_mem_toString hmem)

theorem toList_padded (width n : Nat) :
    (padded width n).toList =
      List.replicate (width - (Nat.toDigits 10 n).length) '0' ++ Nat.toDigits 10 n := by
  rw [padded, String.toList_append, String.toList_ofList, Nat.toString_eq_repr, Nat.toList_repr,
    Nat.repr_eq_ofList_toDigits, String.length_ofList]

theorem isDigits_padded (width n : Nat) : IsDigits (padded width n).toList where
  ne_nil := by simp [toList_padded]
  isDigit c hc := by
    rw [toList_padded] at hc
    obtain hc | hc := List.mem_append.1 hc
    · rw [List.eq_of_mem_replicate hc]
      rfl
    · exact (isDigits_toDigits n).isDigit c hc

@[simp]
theorem digitsValue_padded (width n : Nat) : digitsValue (padded width n).toList = n := by
  rw [toList_padded, digitsValue, Nat.ofDigitChars_append, Nat.ofDigitChars_replicate_zero,
    Nat.mul_zero, Nat.ofDigitChars_ten_toDigits]

theorem length_padded {width n : Nat} (hwidth : 0 < width) (h : n < 10 ^ width) :
    (padded width n).toList.length = width := by
  have hle := (Nat.length_toDigits_le_iff (by decide) hwidth).2 h
  rw [toList_padded, List.length_append, List.length_replicate]
  omega

end Text

end Switchboard
