import Switchboard.Text.Blank

namespace Switchboard.Text

/-- What is left of a text when every blank character at its beginning and at its end is taken away. -/
structure Trimmed (text inner : List Char) : Prop where
  margins : ∃ left right, text = left ++ inner ++ right ∧
    (∀ c ∈ left, isBlank c) ∧ ∀ c ∈ right, isBlank c
  head : ∀ c ∈ inner.head?, ¬ isBlank c
  last : ∀ c ∈ inner.getLast?, ¬ isBlank c

variable {p : Char → Bool} {cs left rest text inner : List Char}

theorem head?_dropWhile_neg (p : Char → Bool) (cs : List Char) :
    ∀ c ∈ (cs.dropWhile p).head?, ¬ p c := by
  intro c hc
  have hneg := List.head?_dropWhile_not p cs
  rw [Option.mem_def.1 hc] at hneg
  simpa using hneg

theorem dropWhile_append_eq (hleft : ∀ c ∈ left, p c) (hrest : ∀ c ∈ rest.head?, ¬ p c) :
    (left ++ rest).dropWhile p = rest := by
  rw [List.dropWhile_append_of_pos hleft]
  cases rest with
  | nil => rfl
  | cons c rest => rw [List.dropWhile_cons_of_neg (hrest c rfl)]

theorem dropEndWhile_append_eq {right : List Char} (hright : ∀ c ∈ right, p c)
    (hcs : ∀ c ∈ cs.getLast?, ¬ p c) : dropEndWhile p (cs ++ right) = cs := by
  rw [dropEndWhile, List.reverse_append, dropWhile_append_eq, List.reverse_reverse]
  · simpa using hright
  · simpa using hcs

theorem Trimmed.trim_eq (h : Trimmed text inner) : trim text = inner := by
  obtain ⟨⟨left, right, rfl, hleft, hright⟩, hhead, hlast⟩ := h
  cases inner with
  | nil =>
    rw [trim_eq_nil_iff, List.all_eq_true]
    simp only [List.append_nil, List.forall_mem_append]
    exact ⟨hleft, hright⟩
  | cons c inner =>
    have hfront : ∀ d ∈ (c :: inner ++ right).head?, ¬ isBlank d := hhead
    rw [trim, List.append_assoc, dropWhile_append_eq hleft hfront, dropEndWhile_append_eq hright hlast]

theorem exists_dropEndWhile_append (p : Char → Bool) (cs : List Char) :
    ∃ right, cs = dropEndWhile p cs ++ right ∧ (∀ c ∈ right, p c) ∧
      ∀ c ∈ (dropEndWhile p cs).getLast?, ¬ p c := by
  have hback := List.takeWhile_append_dropWhile (p := p) (l := cs.reverse)
  refine ⟨(cs.reverse.takeWhile p).reverse, ?_, ?_, ?_⟩
  · rw [dropEndWhile, ← List.reverse_append, hback, List.reverse_reverse]
  · exact fun c hc => List.all_eq_true.1 List.all_takeWhile c (List.mem_reverse.1 hc)
  · intro c hc
    rw [dropEndWhile, List.getLast?_reverse] at hc
    exact head?_dropWhile_neg p _ c hc

theorem trimmed_trim (text : List Char) : Trimmed text (trim text) := by
  have hfront := List.takeWhile_append_dropWhile (p := isBlank) (l := text)
  obtain ⟨right, hinner, hright, hlast⟩ :=
    exists_dropEndWhile_append isBlank (text.dropWhile isBlank)
  refine ⟨⟨text.takeWhile isBlank, right, ?_, ?_, hright⟩, fun c hc => ?_, hlast⟩
  · rw [List.append_assoc, trim, ← hinner, hfront]
  · exact List.all_eq_true.1 List.all_takeWhile
  · refine head?_dropWhile_neg isBlank text c ?_
    rw [hinner, ← trim, List.head?_append, Option.mem_def.1 hc]
    rfl

theorem trimmed_self (h : ∀ c ∈ text, ¬ isBlank c) : Trimmed text text where
  margins := ⟨[], [], by simp, by simp, by simp⟩
  head c hc := h c (List.mem_of_mem_head? hc)
  last c hc := h c (List.mem_of_getLast? hc)

theorem not_isBlank_of_isDigit {c : Char} (h : c.isDigit) : ¬ isBlank c := by
  obtain ⟨hzero, hnine⟩ := Char.isDigit_iff_toNat.1 h
  have hvalues : '0'.toNat = 48 ∧ '9'.toNat = 57 := by decide
  simp only [isBlank, Bool.or_eq_true, Bool.and_eq_true, decide_eq_true_eq, beq_iff_eq]
  omega

end Switchboard.Text
