namespace Switchboard.Text

def isBlank (c : Char) : Bool :=
  let n := c.toNat
  (0x9 ≤ n && n ≤ 0xD) || n == 0x20 || n == 0x85 || n == 0xA0 || n == 0x1680 ||
    (0x2000 ≤ n && n ≤ 0x200A) || n == 0x2028 || n == 0x2029 || n == 0x202F || n == 0x205F ||
    n == 0x3000

def dropEndWhile (p : Char → Bool) (cs : List Char) : List Char :=
  (cs.reverse.dropWhile p).reverse

def trim (cs : List Char) : List Char :=
  dropEndWhile isBlank (cs.dropWhile isBlank)

/-- No character of the text is visible: it is empty or blank throughout. -/
def isBlankText (s : String) : Bool :=
  s.toList.all isBlank

theorem dropWhile_eq_nil_iff (p : Char → Bool) (cs : List Char) :
    cs.dropWhile p = [] ↔ cs.all p = true := by
  induction cs with
  | nil => simp
  | cons c cs ih => by_cases h : p c = true <;> simp [h, ih]

theorem all_of_all_dropWhile (p : Char → Bool) (cs : List Char)
    (h : (cs.dropWhile p).all p = true) : cs.all p = true := by
  induction cs with
  | nil => rfl
  | cons c cs ih =>
    by_cases hc : p c = true
    · simpa [hc] using ih (by simpa [hc] using h)
    · simp [hc] at h

theorem trim_eq_nil_iff (cs : List Char) : trim cs = [] ↔ cs.all isBlank = true := by
  have hrev : trim cs = [] ↔ (cs.dropWhile isBlank).all isBlank = true := by
    rw [trim, dropEndWhile, List.reverse_eq_nil_iff, dropWhile_eq_nil_iff, List.all_reverse]
  constructor
  · intro h
    exact all_of_all_dropWhile isBlank cs (hrev.1 h)
  · intro h
    rw [hrev, (dropWhile_eq_nil_iff isBlank cs).2 h]
    rfl

end Switchboard.Text
