import Switchboard.Json.Reader
import Switchboard.Proofs.Text.Margin
import Switchboard.Proofs.Text.Numeral

namespace Switchboard

open Text

theorem Text.toDigits_eq_zero_cons {n : Nat} {rest : List Char}
    (h : Nat.toDigits 10 n = '0' :: rest) : rest = [] := by
  induction n using Nat.strongRecOn generalizing rest with
  | ind n ih =>
    by_cases hsmall : n < 10
    · rw [Nat.toDigits_of_lt_base hsmall] at h
      exact (List.cons.inj h).2.symm
    · rw [Nat.toDigits_of_base_le (by decide) (Nat.le_of_not_lt hsmall)] at h
      have hne : Nat.toDigits 10 (n / 10) ≠ [] := Nat.toDigits_ne_nil
      obtain ⟨c, front, hfront⟩ := List.exists_cons_of_ne_nil hne
      rw [hfront, List.cons_append] at h
      obtain ⟨rfl, -⟩ := List.cons.inj h
      have hzero : n / 10 = 0 := by
        have hback := Nat.ofDigitChars_ten_toDigits (n := n / 10)
        rw [hfront, ih (n / 10) (by omega) hfront] at hback
        exact hback.symm
      omega

namespace Json

/-- The value holds no number with a fraction or an exponent. -/
inductive Whole : Json → Prop where
  | null : Whole .null
  | bool (value : Bool) : Whole (.bool value)
  | int (value : Int) : Whole (.int value)
  | text (value : String) : Whole (.text value)
  | list {items : List Json} (h : ∀ item ∈ items, Whole item) : Whole (.list items)
  | object {members : List (String × Json)} (h : ∀ member ∈ members, Whole member.2) :
    Whole (.object members)

namespace Reader

variable {cs rest : List Char} {fuel : Nat}

theorem skipBlanks_cons {c : Char} (h : ¬ isBlank c) (rest : List Char) :
    skipBlanks (c :: rest) = c :: rest :=
  List.dropWhile_cons_of_neg h

theorem hex4_control {n : Nat} (h : n < 0x20) :
    hex4 '0' '0' (Nat.digitChar (n / 16)) (Nat.digitChar (n % 16)) = some n := by
  decide +revert

theorem escaped_control {c : Char} (h : c.toNat < 0x20) (rest : List Char) :
    escaped ('u' :: '0' :: '0' :: Nat.digitChar (c.toNat / 16) :: Nat.digitChar (c.toNat % 16) ::
      rest) = some (c, rest) := by
  have hhigh : ¬ (0xD800 ≤ c.toNat ∧ c.toNat ≤ 0xDBFF) := by omega
  have hlow : ¬ (0xDC00 ≤ c.toNat ∧ c.toNat ≤ 0xDFFF) := by omega
  simp only [escaped, hex4_control h, Option.bind_eq_bind, Option.bind_some, if_neg hhigh,
    if_neg hlow, Char.ofNat_toNat]

theorem stringTail_backslash {c : Char} (h : escaped cs = some (c, rest)) :
    stringTail (fuel + 1) ('\\' :: cs) =
      (stringTail fuel rest).map fun (cs, rest) => (c :: cs, rest) := by
  simp only [stringTail, h, Option.bind_eq_bind, Option.bind_some]
  cases stringTail fuel rest <;> rfl

theorem stringTail_plain {c : Char} (hquote : c ≠ '"') (hbackslash : c ≠ '\\')
    (hcontrol : ¬ c.toNat < 0x20) (rest : List Char) :
    stringTail (fuel + 1) (c :: rest) =
      (stringTail fuel rest).map fun (cs, rest) => (c :: cs, rest) := by
  rw [stringTail, if_neg hcontrol]
  · exact hquote
  · exact hbackslash

theorem stringTail_escapeChar (c : Char) (rest : List Char) :
    stringTail (fuel + 1) (escapeChar c ++ rest) =
      (stringTail fuel rest).map fun (cs, rest) => (c :: cs, rest) := by
  unfold escapeChar
  split
  case h_8 hquote hbackslash _ _ _ _ _ =>
    split
    · exact stringTail_backslash (escaped_control ‹_› rest)
    · exact stringTail_plain hquote hbackslash ‹_› rest
  all_goals exact stringTail_backslash rfl

theorem stringTail_flatMap (cs rest : List Char) (h : cs.length < fuel) :
    stringTail fuel (cs.flatMap escapeChar ++ '"' :: rest) = some (cs, rest) := by
  induction cs generalizing fuel with
  | nil =>
    obtain ⟨fuel, rfl⟩ := Nat.exists_eq_add_one_of_ne_zero (Nat.ne_zero_of_lt h)
    rfl
  | cons c cs ih =>
    obtain ⟨fuel, rfl⟩ := Nat.exists_eq_add_one_of_ne_zero (Nat.ne_zero_of_lt h)
    rw [List.flatMap_cons, List.append_assoc, stringTail_escapeChar, ih (Nat.lt_of_succ_lt_succ h)]
    rfl

theorem escapeChar_ne_nil (c : Char) : escapeChar c ≠ [] := by
  unfold escapeChar
  split
  case h_8 => split <;> exact List.cons_ne_nil _ _
  all_goals exact List.cons_ne_nil _ _

theorem length_le_flatMap_escapeChar (cs : List Char) :
    cs.length ≤ (cs.flatMap escapeChar).length := by
  induction cs with
  | nil => exact Nat.le_refl 0
  | cons c cs ih =>
    have hpos := List.length_pos_iff.2 (escapeChar_ne_nil c)
    rw [List.flatMap_cons, List.length_append, List.length_cons]
    omega

theorem writeText_append (s : String) (rest : List Char) :
    writeText s ++ rest = '"' :: (s.toList.flatMap escapeChar ++ '"' :: rest) := by
  simp [writeText]

theorem string_writeText (s : String) (rest : List Char) :
    string (writeText s ++ rest) = some (s, rest) := by
  have hfuel : s.toList.length <
      (s.toList.flatMap escapeChar ++ '"' :: rest).length + 1 := by
    have hle := length_le_flatMap_escapeChar s.toList
    rw [List.length_append]
    omega
  simp only [writeText_append, string, stringTail_flatMap _ _ hfuel, Option.map_some,
    String.ofList_toList]

/-- A number in front ends here: neither a digit nor a point nor an exponent goes on with it. -/
def EndsNumber (rest : List Char) : Prop :=
  ∀ c ∈ rest.head?, ¬ c.isDigit ∧ c ≠ '.' ∧ c ≠ 'e' ∧ c ≠ 'E'

theorem natOfDigits_eq (ds : List Char) : natOfDigits ds = digitsValue ds := by
  unfold natOfDigits digitsValue Nat.ofDigitChars
  congr 1
  funext n c
  rw [Nat.mul_comm]

theorem digits_append {ds : List Char} (h : IsDigits ds) (hrest : EndsNumber rest) :
    digits (ds ++ rest) = some (ds, rest) := by
  have hrun : (ds ++ rest).takeWhile Char.isDigit = ds := by
    rw [List.takeWhile_append_of_pos h.isDigit]
    cases rest with
    | nil => simp
    | cons c rest => rw [List.takeWhile_cons_of_neg (hrest c rfl).1, List.append_nil]
  simp [digits, hrun, h.ne_nil]

theorem wholeDigits_toDigits (n : Nat) (hrest : EndsNumber rest) :
    wholeDigits (Nat.toDigits 10 n ++ rest) = some (Nat.toDigits 10 n, rest) := by
  have hdigits := digits_append (isDigits_toDigits n) hrest
  generalize hds : Nat.toDigits 10 n = ds at hdigits ⊢
  unfold wholeDigits
  split
  · rename_i heq
    cases ds with
    | nil => exact absurd hds Nat.toDigits_ne_nil
    | cons c ds =>
      obtain ⟨rfl, rfl⟩ := List.cons.inj heq
      rw [toDigits_eq_zero_cons hds]
      rfl
  · exact hdigits

theorem pointDigits_end (hrest : EndsNumber rest) : pointDigits rest = some ([], rest) := by
  unfold pointDigits
  split
  · exact absurd rfl (hrest _ rfl).2.1
  · rfl

theorem exponent_end (hrest : EndsNumber rest) : exponent rest = some ([], rest) := by
  cases rest with
  | nil => rfl
  | cons c rest =>
    have hnone : ¬ (c = 'e' ∨ c = 'E') := by simpa using (hrest c rfl).2.2
    unfold exponent
    exact if_neg hnone

theorem number_minus (n : Nat) (hrest : EndsNumber rest) :
    number ('-' :: (Nat.toDigits 10 n ++ rest)) = some (.int (-n), rest) := by
  simp only [number, wholeDigits_toDigits n hrest, pointDigits_end hrest, exponent_end hrest,
    natOfDigits_eq, digitsValue, Nat.ofDigitChars_ten_toDigits, Option.bind_eq_bind,
    Option.bind_some]
  rfl

theorem number_digits (n : Nat) (hrest : EndsNumber rest) :
    number (Nat.toDigits 10 n ++ rest) = some (.int n, rest) := by
  have hwhole := wholeDigits_toDigits n hrest
  have hsign (tail : List Char) : Nat.toDigits 10 n ++ rest ≠ '-' :: tail :=
    (isDigits_toDigits n).append_ne_sign (by decide) rest tail
  generalize Nat.toDigits 10 n ++ rest = cs at hwhole hsign ⊢
  unfold number
  split
  rename_i heq
  split at heq
  · exact absurd rfl (hsign _)
  · cases heq
    simp only [hwhole, pointDigits_end hrest, exponent_end hrest, natOfDigits_eq, digitsValue,
      Nat.ofDigitChars_ten_toDigits, Option.bind_eq_bind, Option.bind_some]
    rfl

theorem number_toString (n : Int) (hrest : EndsNumber rest) :
    number ((toString n).toList ++ rest) = some (.int n, rest) := by
  rw [Int.toString_eq_repr, Int.repr_eq_if]
  split
  · rw [Nat.toList_repr, number_digits n.toNat hrest, Int.toNat_of_nonneg ‹0 ≤ n›]
  · have hback : -((-n).toNat : Int) = n := by omega
    rw [String.toList_append, Nat.toList_repr]
    have hminus := number_minus (-n).toNat hrest
    rw [hback] at hminus
    exact hminus

theorem ne_of_isDigit_or_minus {c d : Char} (hc : c.isDigit ∨ c = '-')
    (hd : ¬ (d.isDigit ∨ d = '-')) : c ≠ d := by
  rintro rfl
  exact hd hc

theorem exists_toString_cons (n : Int) :
    ∃ c cs, (toString n).toList = c :: cs ∧ (c.isDigit ∨ c = '-') ∧ ¬ isBlank c := by
  obtain ⟨c, cs, hcs⟩ := List.exists_cons_of_ne_nil (toString_ne_nil n)
  have hc : c.isDigit ∨ c = '-' := isDigit_or_minus_of_mem_toString (hcs ▸ List.mem_cons_self)
  refine ⟨c, cs, hcs, hc, fun hblank => ?_⟩
  simp only [isBlank, Bool.or_eq_true, decide_eq_true_eq] at hblank
  obtain ((rfl | rfl) | rfl) | rfl := hblank <;> exact absurd hc (by decide)

theorem exists_chars_cons {value : Json} (h : value.Whole) :
    ∃ c cs, value.chars = c :: cs ∧ ¬ isBlank c ∧ c ≠ ']' := by
  cases h with
  | null => exact ⟨_, _, rfl, by decide, by decide⟩
  | bool b => cases b <;> exact ⟨_, _, rfl, by decide, by decide⟩
  | text s => exact ⟨_, _, rfl, by decide, by decide⟩
  | list h => exact ⟨_, _, rfl, by decide, by decide⟩
  | object h => exact ⟨_, _, rfl, by decide, by decide⟩
  | int n =>
    obtain ⟨c, cs, hcs, hc, hblank⟩ := exists_toString_cons n
    exact ⟨c, cs, by rw [chars, hcs], hblank, ne_of_isDigit_or_minus hc (by decide)⟩

theorem value_int (n : Int) (hrest : EndsNumber rest) :
    value (fuel + 1) ((Json.int n).chars ++ rest) = some (.int n, rest) := by
  rw [chars]
  have hnumber := number_toString n hrest
  obtain ⟨c, cs, hcs, hc, hblank⟩ := exists_toString_cons n
  rw [hcs, List.cons_append] at hnumber ⊢
  rw [value, skipBlanks_cons hblank]
  split
  iterate 6
    rename_i heq
    cases heq
    exact absurd hc (by decide)
  exact hnumber

theorem endsNumber_cons {c : Char} (h : c = ',' ∨ c = ']' ∨ c = '}') (rest : List Char) :
    EndsNumber (c :: rest) := by
  rintro d hd
  cases hd
  obtain rfl | rfl | rfl := h <;> decide

/-- What is written of a value is read as the value, given as much fuel as there are characters. -/
def ReadBack (value : Json) : Prop :=
  ∀ fuel rest, value.chars.length ≤ fuel → EndsNumber rest →
    Reader.value fuel (value.chars ++ rest) = some (value, rest)

theorem readBack_of_succ {value : Json} (hwhole : value.Whole)
    (h : ∀ fuel rest, value.chars.length ≤ fuel + 1 → EndsNumber rest →
      Reader.value (fuel + 1) (value.chars ++ rest) = some (value, rest)) : ReadBack value := by
  intro fuel rest hfuel hrest
  obtain ⟨c, cs, hcs, -⟩ := exists_chars_cons hwhole
  obtain ⟨fuel, rfl⟩ : ∃ more, fuel = more + 1 :=
    Nat.exists_eq_add_one_of_ne_zero (by rw [hcs, List.length_cons] at hfuel; omega)
  exact h fuel rest hfuel hrest

theorem items_itemChars {items : List Json} (hne : items ≠ []) (h : ∀ item ∈ items, ReadBack item)
    (hfuel : (itemChars items).length < fuel) (rest : List Char) :
    Reader.items fuel (itemChars items ++ ']' :: rest) = some (items, rest) := by
  induction items generalizing fuel with
  | nil => exact absurd rfl hne
  | cons item more ih =>
    obtain ⟨fuel, rfl⟩ := Nat.exists_eq_add_one_of_ne_zero (Nat.ne_zero_of_lt hfuel)
    have hitem := h item List.mem_cons_self
    cases more with
    | nil =>
      rw [itemChars] at hfuel ⊢
      simp only [Reader.items, hitem fuel (']' :: rest) (by omega) (endsNumber_cons (by decide) rest),
        Option.bind_eq_bind, Option.bind_some]
      rfl
    | cons next more =>
      have hmore (hfuel : (itemChars (next :: more)).length < fuel) :=
        ih (List.cons_ne_nil _ _) (fun item hitem => h item (List.mem_cons_of_mem _ hitem)) hfuel
      rw [itemChars] at hfuel ⊢
      · rw [List.length_append, List.length_cons] at hfuel
        simp only [List.append_assoc, List.cons_append, Reader.items, Option.bind_eq_bind,
          hitem fuel (',' :: _) (by omega) (endsNumber_cons (.inl rfl) _), Option.bind_some]
        rw [skipBlanks_cons (by decide)]
        simp only [hmore (by omega), Option.map_some]
      · exact List.cons_ne_nil _ _
      · exact List.cons_ne_nil _ _

theorem skipBlanks_writeText (name : String) (rest : List Char) :
    skipBlanks (writeText name ++ rest) = writeText name ++ rest :=
  skipBlanks_cons (by decide) _

theorem members_memberChars {members : List (String × Json)} (hne : members ≠ [])
    (h : ∀ member ∈ members, ReadBack member.2) (hfuel : (memberChars members).length < fuel)
    (rest : List Char) :
    Reader.members fuel (memberChars members ++ '}' :: rest) = some (members, rest) := by
  induction members generalizing fuel with
  | nil => exact absurd rfl hne
  | cons member more ih =>
    obtain ⟨name, member⟩ := member
    obtain ⟨fuel, rfl⟩ := Nat.exists_eq_add_one_of_ne_zero (Nat.ne_zero_of_lt hfuel)
    have hmember : ReadBack member := h _ List.mem_cons_self
    have hcolon (rest : List Char) : skipBlanks (':' :: rest) = ':' :: rest :=
      skipBlanks_cons (by decide) rest
    cases more with
    | nil =>
      rw [memberChars] at hfuel ⊢
      rw [List.length_append, List.length_cons] at hfuel
      simp only [List.append_assoc, List.cons_append, Reader.members, skipBlanks_writeText,
        string_writeText, Option.bind_eq_bind, Option.bind_some, hcolon,
        hmember fuel ('}' :: rest) (by omega) (endsNumber_cons (by decide) rest)]
      rfl
    | cons next more =>
      have hmore (hfuel : (memberChars (next :: more)).length < fuel) :=
        ih (List.cons_ne_nil _ _) (fun member hmember => h member (List.mem_cons_of_mem _ hmember))
          hfuel
      rw [memberChars] at hfuel ⊢
      · simp only [List.length_append, List.length_cons] at hfuel
        simp only [List.append_assoc, List.cons_append, Reader.members, skipBlanks_writeText,
          string_writeText, Option.bind_eq_bind, Option.bind_some, hcolon,
          hmember fuel (',' :: _) (by omega) (endsNumber_cons (.inl rfl) _)]
        rw [skipBlanks_cons (by decide)]
        simp only [hmore (by omega), Option.map_some]
      · exact List.cons_ne_nil _ _
      · exact List.cons_ne_nil _ _

theorem exists_itemChars_cons {items : List Json} (hne : items ≠ [])
    (h : ∀ item ∈ items, item.Whole) :
    ∃ c cs, itemChars items = c :: cs ∧ ¬ isBlank c ∧ c ≠ ']' := by
  obtain ⟨item, more, rfl⟩ := List.exists_cons_of_ne_nil hne
  obtain ⟨c, cs, hcs, hc⟩ := exists_chars_cons (h item List.mem_cons_self)
  cases more with
  | nil => exact ⟨c, cs, by rw [itemChars, hcs], hc⟩
  | cons next more => exact ⟨c, cs ++ ',' :: itemChars (next :: more), by simp [itemChars, hcs], hc⟩

theorem exists_memberChars_cons {members : List (String × Json)} (hne : members ≠ []) :
    ∃ cs, memberChars members = '"' :: cs := by
  obtain ⟨⟨name, value⟩, more, rfl⟩ := List.exists_cons_of_ne_nil hne
  cases more with
  | nil => exact ⟨_, rfl⟩
  | cons next more => exact ⟨_, rfl⟩

theorem value_list {items : List Json} (h : ∀ item ∈ items, item.Whole)
    (hread : ∀ item ∈ items, ReadBack item)
    (hfuel : (Json.list items).chars.length ≤ fuel + 1) (rest : List Char) :
    value (fuel + 1) ((Json.list items).chars ++ rest) = some (.list items, rest) := by
  rw [chars] at hfuel ⊢
  simp only [List.length_append, List.length_cons, List.length_nil] at hfuel
  simp only [List.append_assoc, List.cons_append, List.nil_append, value]
  rw [skipBlanks_cons (by decide)]
  by_cases hne : items = []
  · subst items
    simp only [itemChars, List.nil_append]
    rw [skipBlanks_cons (by decide)]
    rfl
  · have hitems := items_itemChars hne hread (by omega : _ < fuel) rest
    obtain ⟨c, cs, hcs, hblank, hend⟩ := exists_itemChars_cons hne h
    rw [hcs, List.cons_append] at hitems
    simp only [hcs, List.cons_append, skipBlanks_cons hblank]
    split
    · rename_i heq
      exact absurd (List.cons.inj heq).1 hend
    · rw [hitems]
      rfl

theorem value_object {members : List (String × Json)}
    (hread : ∀ member ∈ members, ReadBack member.2)
    (hfuel : (Json.object members).chars.length ≤ fuel + 1) (rest : List Char) :
    value (fuel + 1) ((Json.object members).chars ++ rest) = some (.object members, rest) := by
  rw [chars] at hfuel ⊢
  simp only [List.length_append, List.length_cons, List.length_nil] at hfuel
  simp only [List.append_assoc, List.cons_append, List.nil_append, value]
  rw [skipBlanks_cons (by decide)]
  by_cases hne : members = []
  · subst members
    simp only [memberChars, List.nil_append]
    rw [skipBlanks_cons (by decide)]
    rfl
  · have hmembers := members_memberChars hne hread (by omega : _ < fuel) rest
    obtain ⟨cs, hcs⟩ := exists_memberChars_cons hne
    rw [hcs, List.cons_append] at hmembers
    simp only [hcs, List.cons_append]
    rw [skipBlanks_cons (by decide)]
    split
    · rename_i heq
      cases heq
    · rw [hmembers]
      rfl

theorem value_text (s : String) (rest : List Char) :
    value (fuel + 1) ((Json.text s).chars ++ rest) = some (.text s, rest) := by
  have hread := string_writeText s rest
  rw [writeText_append] at hread
  rw [chars, writeText_append]
  simp only [value]
  rw [skipBlanks_cons (by decide)]
  simp only [hread, Option.map_some]

theorem readBack {value : Json} (h : value.Whole) : ReadBack value := by
  induction h with
  | null =>
    refine readBack_of_succ .null fun fuel rest _ _ => ?_
    simp only [chars, String.reduceToList, List.cons_append, List.nil_append, Reader.value]
    rw [skipBlanks_cons (by decide)]
    rfl
  | bool b =>
    refine readBack_of_succ (.bool b) fun fuel rest _ _ => ?_
    cases b
    all_goals
      simp only [chars, String.reduceToList, List.cons_append, List.nil_append, Reader.value]
      rw [skipBlanks_cons (by decide)]
      rfl
  | int n => exact readBack_of_succ (.int n) fun _ _ _ hrest => value_int n hrest
  | text s => exact readBack_of_succ (.text s) fun _ rest _ _ => value_text s rest
  | list h ih =>
    exact readBack_of_succ (.list h) fun _ rest hfuel _ => value_list h ih hfuel rest
  | object h ih =>
    exact readBack_of_succ (.object h) fun _ rest hfuel _ => value_object ih hfuel rest

end Reader

theorem read?_write {value : Json} (h : value.Whole) : read? value.write = some value := by
  have hend : Reader.EndsNumber [] := nofun
  have hread := Reader.readBack h (value.chars.length + 1) [] (Nat.le_succ _) hend
  rw [List.append_nil] at hread
  simp only [read?, write, String.toList_ofList, hread, Option.bind_eq_bind, Option.bind_some]
  rfl

theorem printable_escapeChar {c d : Char} (h : d ∈ escapeChar c) : 0x20 ≤ d.toNat := by
  unfold escapeChar at h
  split at h
  case h_8 =>
    split at h
    · have hdigits (n : Nat) (hn : n < 0x20) : 0x20 ≤ (Nat.digitChar n).toNat := by decide +revert
      simp only [List.mem_cons, List.not_mem_nil, or_false] at h
      obtain rfl | rfl | rfl | rfl | rfl | rfl := h
      · decide
      · decide
      · decide
      · decide
      · exact hdigits _ (by omega)
      · exact hdigits _ (by omega)
    · rw [List.mem_singleton.1 h]
      omega
  all_goals
    simp only [List.mem_cons, List.not_mem_nil, or_false] at h
    obtain rfl | rfl := h <;> decide

theorem printable_writeText {s : String} {c : Char} (h : c ∈ writeText s) : 0x20 ≤ c.toNat := by
  rw [writeText, List.mem_append, List.mem_cons, List.mem_singleton, List.mem_flatMap] at h
  obtain (rfl | ⟨d, -, hd⟩) | rfl := h
  · decide
  · exact printable_escapeChar hd
  · decide

theorem mem_itemChars {items : List Json} {c : Char} (h : c ∈ itemChars items) :
    c = ',' ∨ ∃ item ∈ items, c ∈ item.chars := by
  induction items with
  | nil => cases h
  | cons item more ih =>
    cases more with
    | nil => exact .inr ⟨item, List.mem_singleton_self item, h⟩
    | cons next more =>
      rw [itemChars, List.mem_append, List.mem_cons] at h
      · obtain h | rfl | h := h
        · exact .inr ⟨item, List.mem_cons_self, h⟩
        · exact .inl rfl
        · exact (ih h).imp_right fun ⟨found, hfound, hc⟩ =>
            ⟨found, List.mem_cons_of_mem _ hfound, hc⟩
      · exact List.cons_ne_nil _ _

theorem mem_memberChars {members : List (String × Json)} {c : Char}
    (h : c ∈ memberChars members) : (c = ',' ∨ c = ':') ∨
      ∃ member ∈ members, c ∈ writeText member.1 ∨ c ∈ member.2.chars := by
  induction members with
  | nil => cases h
  | cons member more ih =>
    obtain ⟨name, value⟩ := member
    cases more with
    | nil =>
      rw [memberChars, List.mem_append, List.mem_cons] at h
      obtain h | rfl | h := h
      · exact .inr ⟨_, List.mem_cons_self, .inl h⟩
      · exact .inl (.inr rfl)
      · exact .inr ⟨_, List.mem_cons_self, .inr h⟩
    | cons next more =>
      rw [memberChars, List.mem_append, List.mem_append, List.mem_cons, List.mem_cons] at h
      · obtain (h | rfl | h) | rfl | h := h
        · exact .inr ⟨_, List.mem_cons_self, .inl h⟩
        · exact .inl (.inr rfl)
        · exact .inr ⟨_, List.mem_cons_self, .inr h⟩
        · exact .inl (.inl rfl)
        · exact (ih h).imp_right fun ⟨found, hfound, hc⟩ =>
            ⟨found, List.mem_cons_of_mem _ hfound, hc⟩
      · exact List.cons_ne_nil _ _

theorem printable_chars {value : Json} (h : value.Whole) : ∀ c ∈ value.chars, 0x20 ≤ c.toNat := by
  induction h with
  | null => simp [chars]
  | bool b => cases b <;> simp [chars]
  | int n =>
    intro c hc
    obtain hdigit | rfl := isDigit_or_minus_of_mem_toString hc
    · have hzero := (Char.isDigit_iff_toNat.1 hdigit).1
      exact Nat.le_trans (by decide) hzero
    · decide
  | text s => exact fun c => printable_writeText
  | list h ih =>
    intro c hc
    rw [chars, List.mem_append, List.mem_cons, List.mem_singleton] at hc
    obtain (rfl | hc) | rfl := hc
    · decide
    · obtain rfl | ⟨item, hitem, hc⟩ := mem_itemChars hc
      · decide
      · exact ih item hitem c hc
    · decide
  | object h ih =>
    intro c hc
    rw [chars, List.mem_append, List.mem_cons, List.mem_singleton] at hc
    obtain (rfl | hc) | rfl := hc
    · decide
    · obtain (rfl | rfl) | ⟨member, hmember, hc | hc⟩ := mem_memberChars hc
      · decide
      · decide
      · exact printable_writeText hc
      · exact ih member hmember c hc
    · decide

theorem newline_not_mem_write {value : Json} (h : value.Whole) : '\n' ∉ value.write.toList := by
  intro hmem
  rw [write, String.toList_ofList] at hmem
  exact absurd (printable_chars h _ hmem) (by decide)

end Json

end Switchboard
