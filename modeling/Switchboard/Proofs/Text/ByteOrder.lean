import Mathlib.Algebra.Group.Nat.Defs

namespace Switchboard.Text

def bytes (s : String) : List UInt8 := s.toUTF8.data.toList

theorem bytes_eq (s : String) : bytes s = s.toList.flatMap String.utf8EncodeChar := by
  rw [bytes, String.toUTF8_eq_toByteArray, ← String.utf8Encode_toList, List.utf8Encode,
    List.data_toByteArray]

/-- The first bytes come before the second ones, whatever follows them. -/
def Before (l m : List UInt8) : Prop := ∀ s t : List UInt8, l ++ s < m ++ t

namespace Before

variable {l m : List UInt8}

theorem of_head {a b : Nat} (h : a < b) (hb : b < 256) (l m : List UInt8) :
    Before (UInt8.ofNat a :: l) (UInt8.ofNat b :: m) := by
  intro s t
  have hlt : UInt8.ofNat a < UInt8.ofNat b := by
    rw [UInt8.lt_iff_toNat_lt, UInt8.toNat_ofNat', UInt8.toNat_ofNat']
    omega
  exact List.cons_lt_cons_iff.2 (.inl hlt)

theorem append (h : Before l m) (s t : List UInt8) : Before (l ++ s) (m ++ t) := by
  intro s' t'
  rw [List.append_assoc, List.append_assoc]
  exact h _ _

theorem append_left (h : Before l m) (s : List UInt8) : Before (s ++ l) (s ++ m) := by
  intro s' t'
  rw [List.append_assoc, List.append_assoc]
  exact List.append_left_lt (h s' t')

end Before

/-- The bytes of a number of so many times six bits and a few more, which go with a mark into the
first byte. -/
def sextets (mark : Nat) : Nat → Nat → List UInt8
  | 0, v => [UInt8.ofNat (v + mark)]
  | n + 1, v => sextets mark n (v / 64) ++ [UInt8.ofNat (v % 64 + 0x80)]

def encode (v : Nat) : List UInt8 :=
  if v ≤ 0x7f then sextets 0 0 v
  else if v ≤ 0x7ff then sextets 0xc0 1 v
  else if v ≤ 0xffff then sextets 0xe0 2 v
  else sextets 0xf0 3 v

theorem toNat_le (c : Char) : c.val.toNat ≤ 0x10ffff := by
  have hvalid : c.val.toNat.isValidChar := c.valid
  unfold Nat.isValidChar at hvalid
  omega

theorem encode_eq (c : Char) : String.utf8EncodeChar c = encode c.val.toNat := by
  have hle := toNat_le c
  unfold String.utf8EncodeChar encode
  generalize c.val.toNat = v at hle
  dsimp only
  split
  · rfl
  split
  · simp only [sextets, List.nil_append, List.cons_append]
    rw [Nat.mod_eq_of_lt (a := v / 64) (by omega)]
  split
  · simp only [sextets, List.nil_append, List.cons_append, Nat.div_div_eq_div_mul]
    rw [Nat.mod_eq_of_lt (a := v / 4096) (by omega)]
  · simp only [sextets, List.nil_append, List.cons_append, Nat.div_div_eq_div_mul]
    rw [Nat.mod_eq_of_lt (a := v / 262144) (by omega)]

theorem sextets_eq_cons (mark n v : Nat) :
    ∃ rest, sextets mark n v = UInt8.ofNat (v / 64 ^ n + mark) :: rest := by
  induction n generalizing v with
  | zero => exact ⟨[], by simp [sextets]⟩
  | succ n ih =>
    obtain ⟨rest, hrest⟩ := ih (v / 64)
    refine ⟨rest ++ [UInt8.ofNat (v % 64 + 0x80)], ?_⟩
    rw [sextets, hrest, Nat.div_div_eq_div_mul, Nat.pow_succ', List.cons_append]

theorem before_sextets {mark n v w : Nat} (h : v < w) (hw : w / 64 ^ n + mark < 256) :
    Before (sextets mark n v) (sextets mark n w) := by
  induction n generalizing v w with
  | zero =>
    rw [Nat.pow_zero, Nat.div_one] at hw
    exact .of_head (by omega) hw [] []
  | succ n ih =>
    rw [Nat.pow_succ', ← Nat.div_div_eq_div_mul] at hw
    obtain hhigh | hhigh := Nat.lt_or_eq_of_le (Nat.div_le_div_right (c := 64) (Nat.le_of_lt h))
    · exact (ih hhigh hw).append _ _
    · rw [sextets, sextets, hhigh]
      exact (Before.of_head (by omega) (by omega) [] []).append_left _

theorem before_of_mark {mark mark' n n' v w : Nat}
    (h : v / 64 ^ n + mark < w / 64 ^ n' + mark') (hw : w / 64 ^ n' + mark' < 256) :
    Before (sextets mark n v) (sextets mark' n' w) := by
  obtain ⟨rest, hrest⟩ := sextets_eq_cons mark n v
  obtain ⟨rest', hrest'⟩ := sextets_eq_cons mark' n' w
  rw [hrest, hrest']
  exact .of_head h hw rest rest'

theorem before_encode {v w : Nat} (h : v < w) (hw : w ≤ 0x10ffff) :
    Before (encode v) (encode w) := by
  unfold encode
  by_cases hone : w ≤ 0x7f
  · rw [if_pos hone, if_pos (show v ≤ 0x7f by omega)]
    exact before_sextets h (by omega)
  rw [if_neg hone]
  by_cases htwo : w ≤ 0x7ff
  · rw [if_pos htwo]
    split
    · exact before_of_mark (by omega) (by omega)
    · rw [if_pos (show v ≤ 0x7ff by omega)]
      exact before_sextets h (by omega)
  rw [if_neg htwo]
  by_cases hthree : w ≤ 0xffff
  · rw [if_pos hthree]
    split
    · exact before_of_mark (by omega) (by omega)
    split
    · exact before_of_mark (by omega) (by omega)
    · rw [if_pos (show v ≤ 0xffff by omega)]
      exact before_sextets h (by omega)
  · rw [if_neg hthree]
    split
    · exact before_of_mark (by omega) (by omega)
    split
    · exact before_of_mark (by omega) (by omega)
    split
    · exact before_of_mark (by omega) (by omega)
    · exact before_sextets h (by omega)

theorem before_of_lt {c d : Char} (h : c < d) :
    Before (String.utf8EncodeChar c) (String.utf8EncodeChar d) := by
  rw [encode_eq, encode_eq]
  exact before_encode h (toNat_le d)

theorem flatMap_encode_lt {l m : List Char} (h : l < m) :
    l.flatMap String.utf8EncodeChar < m.flatMap String.utf8EncodeChar := by
  induction m generalizing l with
  | nil => exact absurd h (List.not_lt_nil l)
  | cons d m ih =>
    cases l with
    | nil =>
      obtain ⟨b, rest, hbytes⟩ := List.exists_cons_of_ne_nil (String.utf8EncodeChar_ne_nil (c := d))
      rw [List.flatMap_nil, List.flatMap_cons, hbytes]
      exact List.nil_lt_cons b _
    | cons c l =>
      rw [List.flatMap_cons, List.flatMap_cons]
      obtain hlt | ⟨rfl, hrest⟩ := List.cons_lt_cons_iff.1 h
      · exact before_of_lt hlt _ _
      · exact List.append_left_lt (ih hrest)

theorem bytes_lt {s t : String} (h : s < t) : bytes s < bytes t := by
  rw [bytes_eq, bytes_eq]
  exact flatMap_encode_lt (String.lt_iff.1 h)

end Switchboard.Text
