namespace Switchboard.Text.Utf8

inductive Flaw where
  /-- The character that starts at byte `index` goes wrong after `length` bytes. -/
  | invalid (length index : Nat)
  /-- The bytes end inside the character that starts at byte `index`. -/
  | incomplete (index : Nat)
  deriving DecidableEq, Repr

def Flaw.message : Flaw → String
  | .invalid length index => s!"invalid utf-8 sequence of {length} bytes from index {index}"
  | .incomplete index => s!"incomplete utf-8 byte sequence from index {index}"

/-- A character of which some bytes are still to come: the payload bits so far, the number of
bytes owed, and the bounds of the next one. -/
structure Owing where
  payload : Nat
  owed : Nat
  low : Nat
  high : Nat

/-- What the first byte of a character of more than one byte announces. The bounds of the second
byte keep out overlong forms, surrogates and numbers above the last character. -/
def leading? (b : Nat) : Option Owing :=
  if 0xC2 ≤ b ∧ b ≤ 0xDF then some ⟨b - 0xC0, 1, 0x80, 0xBF⟩
  else if b = 0xE0 then some ⟨0, 2, 0xA0, 0xBF⟩
  else if b = 0xED then some ⟨0xD, 2, 0x80, 0x9F⟩
  else if 0xE1 ≤ b ∧ b ≤ 0xEF then some ⟨b - 0xE0, 2, 0x80, 0xBF⟩
  else if b = 0xF0 then some ⟨0, 3, 0x90, 0xBF⟩
  else if 0xF1 ≤ b ∧ b ≤ 0xF3 then some ⟨b - 0xF0, 3, 0x80, 0xBF⟩
  else if b = 0xF4 then some ⟨4, 3, 0x80, 0x8F⟩
  else none

mutual

def decodeFrom (index : Nat) : List UInt8 → Except Flaw (List Char)
  | [] => .ok []
  | b :: rest =>
    if b.toNat < 0x80 then (decodeFrom (index + 1) rest).map (Char.ofNat b.toNat :: ·)
    else match leading? b.toNat with
      | none => .error (.invalid 1 index)
      | some owing => decodeInside index 1 owing rest

def decodeInside (index taken : Nat) (owing : Owing) : List UInt8 → Except Flaw (List Char)
  | [] => .error (.incomplete index)
  | b :: rest =>
    if owing.low ≤ b.toNat ∧ b.toNat ≤ owing.high then
      let payload := owing.payload * 64 + (b.toNat - 0x80)
      if owing.owed = 1 then (decodeFrom (index + taken + 1) rest).map (Char.ofNat payload :: ·)
      else decodeInside index (taken + 1) ⟨payload, owing.owed - 1, 0x80, 0xBF⟩ rest
    else .error (.invalid taken index)

end

def decode (bytes : List UInt8) : Except Flaw (List Char) :=
  decodeFrom 0 bytes

end Switchboard.Text.Utf8
