import Switchboard.Text.Utf8

namespace Switchboard.Text.Utf8

variable {index taken payload owed low high : Nat} {bytes rest : List UInt8} {cs : List Char}

/-- The last byte of a character is between the bounds, and the rest is decoded. -/
theorem decodeInside_last (h : decodeInside index taken ⟨payload, 1, low, high⟩ bytes = .ok cs) :
    ∃ b rest more, bytes = b :: rest ∧ low ≤ b.toNat ∧ b.toNat ≤ high ∧
      decodeFrom (index + taken + 1) rest = .ok more ∧
        cs = Char.ofNat (payload * 64 + (b.toNat - 0x80)) :: more := by
  cases bytes with
  | nil => cases h
  | cons b rest =>
    rw [decodeInside] at h
    split at h
    · rename_i hbounds
      rw [if_pos rfl] at h
      dsimp only at h hbounds
      cases hrest : decodeFrom (index + taken + 1) rest with
      | error flaw =>
        rw [hrest] at h
        cases h
      | ok more =>
        rw [hrest] at h
        cases h
        exact ⟨b, rest, more, rfl, hbounds.1, hbounds.2, hrest, rfl⟩
    · cases h

theorem decodeInside_more
    (h : decodeInside index taken ⟨payload, owed + 2, low, high⟩ bytes = .ok cs) :
    ∃ b rest, bytes = b :: rest ∧ low ≤ b.toNat ∧ b.toNat ≤ high ∧
      decodeInside index (taken + 1) ⟨payload * 64 + (b.toNat - 0x80), owed + 1, 0x80, 0xBF⟩ rest =
        .ok cs := by
  cases bytes with
  | nil => cases h
  | cons b rest =>
    rw [decodeInside] at h
    split at h
    · rename_i hbounds
      rw [if_neg (by dsimp only; omega)] at h
      exact ⟨b, rest, rfl, hbounds.1, hbounds.2, h⟩
    · cases h

theorem decodeInside_last_cons {b : UInt8} (hlow : low ≤ b.toNat) (hhigh : b.toNat ≤ high) :
    decodeInside index taken ⟨payload, 1, low, high⟩ (b :: rest) =
      (decodeFrom (index + taken + 1) rest).map
        (Char.ofNat (payload * 64 + (b.toNat - 0x80)) :: ·) := by
  rw [decodeInside, if_pos ⟨hlow, hhigh⟩, if_pos rfl]

theorem decodeInside_more_cons {b : UInt8} (hlow : low ≤ b.toNat) (hhigh : b.toNat ≤ high) :
    decodeInside index taken ⟨payload, owed + 2, low, high⟩ (b :: rest) =
      decodeInside index (taken + 1) ⟨payload * 64 + (b.toNat - 0x80), owed + 1, 0x80, 0xBF⟩
        rest := by
  rw [decodeInside, if_pos ⟨hlow, hhigh⟩, if_neg (by dsimp only; omega)]
  rfl

theorem leading?_two {b : Nat} (h : 0xC2 ≤ b ∧ b ≤ 0xDF) :
    leading? b = some ⟨b - 0xC0, 1, 0x80, 0xBF⟩ :=
  if_pos h

theorem leading?_three {b : Nat} (h : 0xE0 ≤ b ∧ b ≤ 0xEF) :
    leading? b = some ⟨b - 0xE0, 2, if b = 0xE0 then 0xA0 else 0x80,
      if b = 0xED then 0x9F else 0xBF⟩ := by
  unfold leading?
  rw [if_neg (by omega)]
  by_cases hfirst : b = 0xE0
  · subst b
    rfl
  · by_cases hsurrogate : b = 0xED
    · subst b
      rfl
    · rw [if_neg hfirst, if_neg hsurrogate, if_pos (by omega), if_neg hfirst, if_neg hsurrogate]

theorem leading?_four {b : Nat} (h : 0xF0 ≤ b ∧ b ≤ 0xF4) :
    leading? b = some ⟨b - 0xF0, 3, if b = 0xF0 then 0x90 else 0x80,
      if b = 0xF4 then 0x8F else 0xBF⟩ := by
  unfold leading?
  rw [if_neg (by omega), if_neg (by omega), if_neg (by omega), if_neg (by omega)]
  by_cases hfirst : b = 0xF0
  · subst b
    rfl
  · by_cases hlast : b = 0xF4
    · subst b
      rfl
    · rw [if_neg hfirst, if_pos (by omega), if_neg hfirst, if_neg hlast]

theorem leading?_none {b : Nat} (h : b < 0xC2 ∨ 0xF4 < b) : leading? b = none := by
  unfold leading?
  repeat rw [if_neg (by omega)]

theorem toNat_ofNat {n : Nat} (h : n.isValidChar) : (Char.ofNat n).toNat = n := by
  rw [Char.ofNat, dif_pos h]
  rfl

theorem utf8EncodeChar_one {a : UInt8} (ha : a.toNat < 0x80) :
    String.utf8EncodeChar (Char.ofNat a.toNat) = [a] := by
  have hvalue : (Char.ofNat a.toNat).val.toNat = a.toNat := toNat_ofNat (.inl (by omega))
  rw [String.utf8EncodeChar, hvalue, if_pos (by omega), UInt8.ofNat_toNat]

theorem utf8EncodeChar_two {a b : UInt8} (ha : 0xC2 ≤ a.toNat ∧ a.toNat ≤ 0xDF)
    (hb : 0x80 ≤ b.toNat ∧ b.toNat ≤ 0xBF) :
    String.utf8EncodeChar (Char.ofNat ((a.toNat - 0xC0) * 64 + (b.toNat - 0x80))) = [a, b] := by
  generalize hn : (a.toNat - 0xC0) * 64 + (b.toNat - 0x80) = n
  have hvalue : (Char.ofNat n).val.toNat = n := toNat_ofNat (.inl (by omega))
  have hfirst : n / 64 % 0x20 + 0xC0 = a.toNat := by omega
  have hsecond : n % 0x40 + 0x80 = b.toNat := by omega
  rw [String.utf8EncodeChar, hvalue, if_neg (by omega), if_pos (by omega), hfirst, hsecond,
    UInt8.ofNat_toNat, UInt8.ofNat_toNat]

theorem utf8EncodeChar_three {a b c : UInt8} (ha : 0xE0 ≤ a.toNat ∧ a.toNat ≤ 0xEF)
    (hlow : (if a.toNat = 0xE0 then 0xA0 else 0x80) ≤ b.toNat)
    (hhigh : b.toNat ≤ if a.toNat = 0xED then 0x9F else 0xBF)
    (hc : 0x80 ≤ c.toNat ∧ c.toNat ≤ 0xBF) :
    String.utf8EncodeChar
      (Char.ofNat (((a.toNat - 0xE0) * 64 + (b.toNat - 0x80)) * 64 + (c.toNat - 0x80))) =
        [a, b, c] := by
  have hb : 0x80 ≤ b.toNat ∧ b.toNat ≤ 0xBF ∧ (a.toNat = 0xE0 → 0xA0 ≤ b.toNat) ∧
      (a.toNat = 0xED → b.toNat ≤ 0x9F) := by
    split at hlow <;> split at hhigh <;> omega
  generalize hn : ((a.toNat - 0xE0) * 64 + (b.toNat - 0x80)) * 64 + (c.toNat - 0x80) = n
  -- The bounds on the second byte leave out what two bytes can encode, and the surrogates.
  have hvalid : n.isValidChar := by
    unfold Nat.isValidChar
    omega
  have hvalue : (Char.ofNat n).val.toNat = n := toNat_ofNat hvalid
  have hfirst : n / 4096 % 0x10 + 0xE0 = a.toNat := by omega
  have hsecond : n / 64 % 0x40 + 0x80 = b.toNat := by omega
  have hthird : n % 0x40 + 0x80 = c.toNat := by omega
  rw [String.utf8EncodeChar, hvalue, if_neg (by omega), if_neg (by omega), if_pos (by omega), hfirst,
    hsecond, hthird, UInt8.ofNat_toNat, UInt8.ofNat_toNat, UInt8.ofNat_toNat]

theorem utf8EncodeChar_four {a b c d : UInt8} (ha : 0xF0 ≤ a.toNat ∧ a.toNat ≤ 0xF4)
    (hlow : (if a.toNat = 0xF0 then 0x90 else 0x80) ≤ b.toNat)
    (hhigh : b.toNat ≤ if a.toNat = 0xF4 then 0x8F else 0xBF)
    (hc : 0x80 ≤ c.toNat ∧ c.toNat ≤ 0xBF) (hd : 0x80 ≤ d.toNat ∧ d.toNat ≤ 0xBF) :
    String.utf8EncodeChar
      (Char.ofNat ((((a.toNat - 0xF0) * 64 + (b.toNat - 0x80)) * 64 + (c.toNat - 0x80)) * 64 +
        (d.toNat - 0x80))) = [a, b, c, d] := by
  have hb : 0x80 ≤ b.toNat ∧ b.toNat ≤ 0xBF ∧ (a.toNat = 0xF0 → 0x90 ≤ b.toNat) ∧
      (a.toNat = 0xF4 → b.toNat ≤ 0x8F) := by
    split at hlow <;> split at hhigh <;> omega
  generalize hn : (((a.toNat - 0xF0) * 64 + (b.toNat - 0x80)) * 64 + (c.toNat - 0x80)) * 64 +
    (d.toNat - 0x80) = n
  -- The bounds on the second byte leave out what three bytes can encode, and what is no character.
  have hvalid : n.isValidChar := by
    unfold Nat.isValidChar
    omega
  have hvalue : (Char.ofNat n).val.toNat = n := toNat_ofNat hvalid
  have hfirst : n / 262144 % 0x08 + 0xF0 = a.toNat := by omega
  have hsecond : n / 4096 % 0x40 + 0x80 = b.toNat := by omega
  have hthird : n / 64 % 0x40 + 0x80 = c.toNat := by omega
  have hfourth : n % 0x40 + 0x80 = d.toNat := by omega
  rw [String.utf8EncodeChar, hvalue, if_neg (by omega), if_neg (by omega), if_neg (by omega), hfirst,
    hsecond, hthird, hfourth, UInt8.ofNat_toNat, UInt8.ofNat_toNat, UInt8.ofNat_toNat,
    UInt8.ofNat_toNat]

/-- What is decoded begins with a character, and its encoding is in front of the bytes. -/
theorem exists_utf8EncodeChar {a : UInt8} (h : decodeFrom index (a :: rest) = .ok cs) :
    ∃ c more tail next, a :: rest = String.utf8EncodeChar c ++ tail ∧
      decodeFrom next tail = .ok more ∧ cs = c :: more := by
  rw [decodeFrom] at h
  split at h
  · cases hrest : decodeFrom (index + 1) rest with
    | error flaw =>
      rw [hrest] at h
      cases h
    | ok more =>
      rw [hrest] at h
      cases h
      exact ⟨_, more, rest, _, by rw [utf8EncodeChar_one ‹_›]; rfl, hrest, rfl⟩
  · by_cases htwo : 0xC2 ≤ a.toNat ∧ a.toNat ≤ 0xDF
    · rw [leading?_two htwo] at h
      obtain ⟨b, tail, more, rfl, hlow, hhigh, htail, rfl⟩ := decodeInside_last h
      exact ⟨_, more, tail, _, by rw [utf8EncodeChar_two htwo ⟨hlow, hhigh⟩]; rfl, htail, rfl⟩
    · by_cases hthree : 0xE0 ≤ a.toNat ∧ a.toNat ≤ 0xEF
      · rw [leading?_three hthree] at h
        obtain ⟨b, tail, rfl, hlow, hhigh, h⟩ := decodeInside_more h
        obtain ⟨c, tail, more, rfl, hlow', hhigh', htail, rfl⟩ := decodeInside_last h
        exact ⟨_, more, tail, _,
          by rw [utf8EncodeChar_three hthree hlow hhigh ⟨hlow', hhigh'⟩]; rfl, htail, rfl⟩
      · by_cases hfour : 0xF0 ≤ a.toNat ∧ a.toNat ≤ 0xF4
        · rw [leading?_four hfour] at h
          obtain ⟨b, tail, rfl, hlow, hhigh, h⟩ := decodeInside_more h
          obtain ⟨c, tail, rfl, hlow', hhigh', h⟩ := decodeInside_more h
          obtain ⟨d, tail, more, rfl, hlow'', hhigh'', htail, rfl⟩ := decodeInside_last h
          exact ⟨_, more, tail, _,
            by rw [utf8EncodeChar_four hfour hlow hhigh ⟨hlow', hhigh'⟩ ⟨hlow'', hhigh''⟩]; rfl,
            htail, rfl⟩
        · rw [leading?_none (by omega)] at h
          cases h

theorem decodeFrom_two {a b : UInt8} (ha : 0xC2 ≤ a.toNat ∧ a.toNat ≤ 0xDF)
    (hb : 0x80 ≤ b.toNat ∧ b.toNat ≤ 0xBF) :
    decodeFrom index (a :: b :: rest) = (decodeFrom (index + 2) rest).map
      (Char.ofNat ((a.toNat - 0xC0) * 64 + (b.toNat - 0x80)) :: ·) := by
  rw [decodeFrom, if_neg (by omega), leading?_two ha]
  exact decodeInside_last_cons hb.1 hb.2

theorem decodeFrom_three {a b c : UInt8} (ha : 0xE0 ≤ a.toNat ∧ a.toNat ≤ 0xEF)
    (hlow : (if a.toNat = 0xE0 then 0xA0 else 0x80) ≤ b.toNat)
    (hhigh : b.toNat ≤ if a.toNat = 0xED then 0x9F else 0xBF)
    (hc : 0x80 ≤ c.toNat ∧ c.toNat ≤ 0xBF) :
    decodeFrom index (a :: b :: c :: rest) = (decodeFrom (index + 3) rest).map
      (Char.ofNat (((a.toNat - 0xE0) * 64 + (b.toNat - 0x80)) * 64 + (c.toNat - 0x80)) :: ·) := by
  rw [decodeFrom, if_neg (by omega), leading?_three ha]
  exact (decodeInside_more_cons hlow hhigh).trans (decodeInside_last_cons hc.1 hc.2)

theorem decodeFrom_four {a b c d : UInt8} (ha : 0xF0 ≤ a.toNat ∧ a.toNat ≤ 0xF4)
    (hlow : (if a.toNat = 0xF0 then 0x90 else 0x80) ≤ b.toNat)
    (hhigh : b.toNat ≤ if a.toNat = 0xF4 then 0x8F else 0xBF)
    (hc : 0x80 ≤ c.toNat ∧ c.toNat ≤ 0xBF) (hd : 0x80 ≤ d.toNat ∧ d.toNat ≤ 0xBF) :
    decodeFrom index (a :: b :: c :: d :: rest) = (decodeFrom (index + 4) rest).map
      (Char.ofNat ((((a.toNat - 0xF0) * 64 + (b.toNat - 0x80)) * 64 + (c.toNat - 0x80)) * 64 +
        (d.toNat - 0x80)) :: ·) := by
  rw [decodeFrom, if_neg (by omega), leading?_four ha]
  exact (decodeInside_more_cons hlow hhigh).trans
    ((decodeInside_more_cons hc.1 hc.2).trans (decodeInside_last_cons hd.1 hd.2))

theorem exists_byte {n : Nat} (h : n < 256) : ∃ b : UInt8, UInt8.ofNat n = b ∧ b.toNat = n :=
  ⟨_, rfl, by rw [UInt8.toNat_ofNat', Nat.mod_eq_of_lt h]⟩

theorem decodeFrom_utf8EncodeChar (c : Char) (rest : List UInt8) (index : Nat) :
    ∃ next, decodeFrom index (String.utf8EncodeChar c ++ rest) =
      (decodeFrom next rest).map (c :: ·) := by
  have hvalid : c.toNat.isValidChar := c.valid
  unfold Nat.isValidChar at hvalid
  have hback : Char.ofNat c.toNat = c := Char.ofNat_toNat c
  unfold String.utf8EncodeChar
  rw [Char.toNat_val]
  generalize c.toNat = n at hvalid hback
  obtain ⟨d, hd, hdn⟩ := exists_byte (by omega : n % 0x40 + 0x80 < 256)
  obtain ⟨b, hb, hbn⟩ := exists_byte (by omega : n / 64 % 0x40 + 0x80 < 256)
  dsimp only
  rw [hd, hb]
  split
  · obtain ⟨a, ha, han⟩ := exists_byte (by omega : n < 256)
    rw [ha, List.cons_append, List.nil_append, decodeFrom, han, if_pos (by omega), hback]
    exact ⟨_, rfl⟩
  · split
    · obtain ⟨a, ha, han⟩ := exists_byte (by omega : n / 64 % 0x20 + 0xC0 < 256)
      have hvalue : (a.toNat - 0xC0) * 64 + (d.toNat - 0x80) = n := by omega
      rw [ha, List.cons_append, List.cons_append, List.nil_append,
        decodeFrom_two (by omega) (by omega), hvalue, hback]
      exact ⟨_, rfl⟩
    · split
      · obtain ⟨a, ha, han⟩ := exists_byte (by omega : n / 4096 % 0x10 + 0xE0 < 256)
        have hvalue : ((a.toNat - 0xE0) * 64 + (b.toNat - 0x80)) * 64 + (d.toNat - 0x80) = n := by
          omega
        rw [ha, List.cons_append, List.cons_append, List.cons_append, List.nil_append,
          decodeFrom_three (by omega) (by split <;> omega) (by split <;> omega) (by omega), hvalue, hback]
        exact ⟨_, rfl⟩
      · obtain ⟨a, ha, han⟩ := exists_byte (by omega : n / 262144 % 0x08 + 0xF0 < 256)
        obtain ⟨e, he, hen⟩ := exists_byte (by omega : n / 4096 % 0x40 + 0x80 < 256)
        have hvalue : (((a.toNat - 0xF0) * 64 + (e.toNat - 0x80)) * 64 + (b.toNat - 0x80)) * 64 +
            (d.toNat - 0x80) = n := by
          omega
        rw [ha, he, List.cons_append, List.cons_append, List.cons_append, List.cons_append,
          List.nil_append, decodeFrom_four (by omega) (by split <;> omega) (by split <;> omega)
            (by omega) (by omega), hvalue, hback]
        exact ⟨_, rfl⟩

theorem decodeFrom_flatMap (cs : List Char) (index : Nat) :
    decodeFrom index (cs.flatMap String.utf8EncodeChar) = .ok cs := by
  induction cs generalizing index with
  | nil => exact rfl
  | cons c cs ih =>
    obtain ⟨next, hnext⟩ := decodeFrom_utf8EncodeChar c (cs.flatMap String.utf8EncodeChar) index
    rw [List.flatMap_cons, hnext, ih next]
    rfl

theorem eq_flatMap_of_decodeFrom (h : decodeFrom index bytes = .ok cs) :
    bytes = cs.flatMap String.utf8EncodeChar := by
  induction hlength : bytes.length using Nat.strongRecOn generalizing bytes cs index with
  | ind length ih =>
    cases bytes with
    | nil =>
      cases h
      rfl
    | cons a rest =>
      obtain ⟨c, more, tail, next, hsplit, htail, rfl⟩ := exists_utf8EncodeChar h
      have hshorter : tail.length < length := by
        have hpos := List.length_pos_iff.2 (String.utf8EncodeChar_ne_nil (c := c))
        rw [← hlength, hsplit, List.length_append]
        omega
      rw [hsplit, List.flatMap_cons, ← ih _ hshorter htail rfl]

def encode (text : String) : List UInt8 := text.toUTF8.data.toList

theorem decode_eq_ok_iff : decode bytes = .ok cs ↔ bytes = encode (String.ofList cs) := by
  have hencode : encode (String.ofList cs) = cs.flatMap String.utf8EncodeChar := by
    rw [encode, String.toUTF8_eq_toByteArray, String.toByteArray_ofList, List.utf8Encode,
      List.data_toByteArray]
  rw [hencode]
  constructor
  · exact eq_flatMap_of_decodeFrom
  · rintro rfl
    exact decodeFrom_flatMap cs 0

end Switchboard.Text.Utf8
