import Mathlib.Order.Bounds.Defs
import Switchboard.Text.EditDistance

namespace Switchboard.Text

/-- One edit of a text: a character more, a character less, or another one in its place. -/
inductive Edit : List Char → List Char → Prop where
  | insert (before after : List Char) (c : Char) : Edit (before ++ after) (before ++ c :: after)
  | delete (before after : List Char) (c : Char) : Edit (before ++ c :: after) (before ++ after)
  | substitute (before after : List Char) (c d : Char) :
    Edit (before ++ c :: after) (before ++ d :: after)

/-- So many edits, one after the other, turn the first text into the second. -/
inductive Edits : Nat → List Char → List Char → Prop where
  | refl (text : List Char) : Edits 0 text text
  | head {n : Nat} {text next target : List Char} (edit : Edit text next)
    (rest : Edits n next target) : Edits (n + 1) text target

variable {n : Nat} {x y c d : Char} {xs ys zs : List Char}

theorem distanceRow_cons (y : Char) (ys xs : List Char) :
    distanceRow (y :: ys) xs = editDistance xs (y :: ys) :: distanceRow ys xs := by
  induction xs with
  | nil => rfl
  | cons x xs ih =>
    have hstep (target : List Char) :
        distanceRow target (x :: xs) = extendRow x target (distanceRow target xs) := rfl
    rw [editDistance, hstep, hstep, ih]
    rfl

theorem editDistance_nil_left (ys : List Char) : editDistance [] ys = ys.length := by
  cases ys <;> rfl

theorem editDistance_nil_right (xs : List Char) : editDistance xs [] = xs.length := by
  induction xs with
  | nil => rfl
  | cons x xs ih =>
    rw [List.length_cons, ← ih]
    rfl

theorem editDistance_cons_cons (x : Char) (xs : List Char) (y : Char) (ys : List Char) :
    editDistance (x :: xs) (y :: ys) =
      if x = y then editDistance xs ys
      else min (min (editDistance xs (y :: ys)) (editDistance (x :: xs) ys)) (editDistance xs ys) + 1 := by
  have hrow : distanceRow (y :: ys) (x :: xs) =
      extendRow x (y :: ys) (editDistance xs (y :: ys) :: distanceRow ys xs) := by
    rw [← distanceRow_cons]
    rfl
  rw [editDistance, hrow]
  rfl

theorem editDistance_cons_self (c : Char) (xs ys : List Char) :
    editDistance (c :: xs) (c :: ys) = editDistance xs ys := by
  rw [editDistance_cons_cons, if_pos rfl]

theorem editDistance_self (xs : List Char) : editDistance xs xs = 0 := by
  induction xs with
  | nil => rfl
  | cons x xs ih => rw [editDistance_cons_self, ih]

theorem editDistance_comm (xs ys : List Char) : editDistance xs ys = editDistance ys xs := by
  induction xs generalizing ys with
  | nil => rw [editDistance_nil_left, editDistance_nil_right]
  | cons x xs ihx =>
    induction ys with
    | nil => rw [editDistance_nil_left, editDistance_nil_right]
    | cons y ys ihy =>
      rw [editDistance_cons_cons, editDistance_cons_cons, ihx, ihx, ihy]
      simp only [eq_comm, Nat.min_comm]

theorem editDistance_cons_le_of_le (h : ∀ y ys, editDistance xs ys ≤ editDistance xs (y :: ys) + 1)
    (x : Char) (ys : List Char) : editDistance (x :: xs) ys ≤ editDistance xs ys + 1 := by
  cases ys with
  | nil => simp [editDistance_nil_right]
  | cons y ys =>
    have hless := h y ys
    rw [editDistance_cons_cons]
    split <;> omega

theorem editDistance_le_cons_right (xs : List Char) (y : Char) (ys : List Char) :
    editDistance xs ys ≤ editDistance xs (y :: ys) + 1 := by
  induction xs generalizing y ys with
  | nil =>
    simp only [editDistance_nil_left, List.length_cons]
    omega
  | cons x xs ih =>
    have hmore := editDistance_cons_le_of_le ih x ys
    have hless := ih y ys
    rw [editDistance_cons_cons]
    split <;> omega

theorem editDistance_cons_left_le (x : Char) (xs ys : List Char) :
    editDistance (x :: xs) ys ≤ editDistance xs ys + 1 :=
  editDistance_cons_le_of_le (editDistance_le_cons_right xs) x ys

theorem editDistance_le_cons_left (x : Char) (xs ys : List Char) :
    editDistance xs ys ≤ editDistance (x :: xs) ys + 1 := by
  rw [editDistance_comm xs, editDistance_comm (x :: xs)]
  exact editDistance_le_cons_right ys x xs

theorem editDistance_cons_right_le (xs : List Char) (y : Char) (ys : List Char) :
    editDistance xs (y :: ys) ≤ editDistance xs ys + 1 := by
  rw [editDistance_comm xs, editDistance_comm xs]
  exact editDistance_cons_left_le y ys xs

theorem editDistance_substitute_le (c d : Char) (xs zs : List Char) :
    editDistance (c :: xs) zs ≤ editDistance (d :: xs) zs + 1 := by
  induction zs with
  | nil => simp [editDistance_nil_right]
  | cons z zs ih =>
    have hless := editDistance_cons_left_le c xs (z :: zs)
    have hmore := editDistance_cons_right_le (c :: xs) z zs
    have hnext : editDistance (c :: xs) (z :: zs) ≤ editDistance xs zs + 1 := by
      rw [editDistance_cons_cons]
      split <;> omega
    rw [editDistance_cons_cons d]
    split <;> omega

theorem editDistance_cons_le_cons
    (h : ∀ zs, editDistance xs zs ≤ editDistance ys zs + 1) (b : Char) (zs : List Char) :
    editDistance (b :: xs) zs ≤ editDistance (b :: ys) zs + 1 := by
  induction zs with
  | nil =>
    have hlength := h []
    simp only [editDistance_nil_right, List.length_cons] at hlength ⊢
    omega
  | cons z zs ih =>
    have hwhole := h (z :: zs)
    have hrest := h zs
    rw [editDistance_cons_cons, editDistance_cons_cons]
    split <;> omega

theorem editDistance_append_le_append
    (h : ∀ zs, editDistance xs zs ≤ editDistance ys zs + 1) (before zs : List Char) :
    editDistance (before ++ xs) zs ≤ editDistance (before ++ ys) zs + 1 := by
  induction before generalizing zs with
  | nil => exact h zs
  | cons b before ih => exact editDistance_cons_le_cons ih b zs

theorem Edit.editDistance_le (h : Edit xs ys) (zs : List Char) :
    editDistance xs zs ≤ editDistance ys zs + 1 := by
  cases h with
  | insert before after c =>
    exact editDistance_append_le_append (editDistance_le_cons_left c after) before zs
  | delete before after c =>
    exact editDistance_append_le_append (editDistance_cons_left_le c after) before zs
  | substitute before after c d =>
    exact editDistance_append_le_append (editDistance_substitute_le c d after) before zs

theorem Edits.editDistance_le (h : Edits n xs ys) : editDistance xs ys ≤ n := by
  induction h with
  | refl text => exact Nat.le_of_eq (editDistance_self text)
  | @head n text next target edit rest ih =>
    have hedit := edit.editDistance_le target
    omega

theorem Edit.cons (c : Char) (h : Edit xs ys) : Edit (c :: xs) (c :: ys) := by
  cases h with
  | insert before after d => exact .insert (c :: before) after d
  | delete before after d => exact .delete (c :: before) after d
  | substitute before after d e => exact .substitute (c :: before) after d e

theorem Edits.cons (c : Char) (h : Edits n xs ys) : Edits n (c :: xs) (c :: ys) := by
  induction h with
  | refl text => exact .refl (c :: text)
  | head edit _ ih => exact .head (edit.cons c) ih

theorem Edits.delete (x : Char) (h : Edits n xs ys) : Edits (n + 1) (x :: xs) ys :=
  .head (.delete [] xs x) h

theorem Edits.insert (y : Char) (h : Edits n xs ys) : Edits (n + 1) xs (y :: ys) :=
  .head (.insert [] xs y) (h.cons y)

theorem Edits.substitute (x y : Char) (h : Edits n xs ys) : Edits (n + 1) (x :: xs) (y :: ys) :=
  .head (.substitute [] xs x y) (h.cons y)

theorem edits_editDistance (xs ys : List Char) : Edits (editDistance xs ys) xs ys := by
  -- The two inductions follow the table: a row for each character of `xs`, a cell for each of `ys`.
  induction xs generalizing ys with
  | nil =>
    rw [editDistance_nil_left]
    induction ys with
    | nil => exact .refl []
    | cons y ys ih => exact ih.insert y
  | cons x xs ihx =>
    induction ys with
    | nil =>
      have hrest := ihx []
      rw [editDistance_nil_right] at hrest ⊢
      exact hrest.delete x
    | cons y ys ihy =>
      have hdelete := (ihx (y :: ys)).delete x
      have hinsert := ihy.insert y
      have hsubstitute := (ihx ys).substitute x y
      rw [editDistance_cons_cons]
      by_cases heq : x = y
      · subst heq
        rw [if_pos rfl]
        exact (ihx ys).cons x
      · rw [if_neg heq]
        generalize editDistance xs (y :: ys) = deleted at hdelete ⊢
        generalize editDistance (x :: xs) ys = inserted at hinsert ⊢
        generalize editDistance xs ys = substituted at hsubstitute ⊢
        have hleast : min (min deleted inserted) substituted = deleted ∨
            min (min deleted inserted) substituted = inserted ∨
              min (min deleted inserted) substituted = substituted := by omega
        obtain hleast | hleast | hleast := hleast
        · rwa [hleast]
        · rwa [hleast]
        · rwa [hleast]

theorem isLeast_editDistance (xs ys : List Char) :
    IsLeast {n | Edits n xs ys} (editDistance xs ys) :=
  ⟨edits_editDistance xs ys, fun _ h => h.editDistance_le⟩

theorem eq_of_editDistance_eq_zero (h : editDistance xs ys = 0) : xs = ys := by
  have hedits := edits_editDistance xs ys
  rw [h] at hedits
  cases hedits
  rfl

end Switchboard.Text
