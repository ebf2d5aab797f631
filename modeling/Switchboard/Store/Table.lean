namespace Switchboard

class Row (α : Type) where
  id : α → Int

/-- Rows in ascending order of their ids, no id twice. -/
structure Rows (α : Type) [Row α] where
  list : List α
  ascending : list.Pairwise fun a b => Row.id a < Row.id b

namespace Rows

variable {α : Type} [Row α]

def empty : Rows α := ⟨[], .nil⟩

/-- Put a row at its place in a list, unless its id is taken. -/
def place (row : α) : List α → Option (List α)
  | [] => some [row]
  | a :: rest =>
    if Row.id row < Row.id a then some (row :: a :: rest)
    else if Row.id row = Row.id a then none
    else (place row rest).map (a :: ·)

theorem mem_of_place {row : α} {rows placed : List α} (h : place row rows = some placed) (a : α) :
    a ∈ placed ↔ a = row ∨ a ∈ rows := by
  induction rows generalizing placed with
  | nil => simp_all [place, eq_comm]
  | cons b rest ih =>
    unfold place at h
    split at h
    · cases h
      simp
    · split at h
      · simp at h
      · obtain ⟨tail, htail, rfl⟩ := Option.map_eq_some_iff.1 h
        simp only [List.mem_cons, ih htail]
        exact or_left_comm

theorem place_ascending {row : α} {rows placed : List α} (h : place row rows = some placed)
    (ha : rows.Pairwise fun a b => Row.id a < Row.id b) :
    placed.Pairwise fun a b => Row.id a < Row.id b := by
  induction rows generalizing placed with
  | nil =>
    cases h
    simp
  | cons b rest ih =>
    rw [List.pairwise_cons] at ha
    unfold place at h
    split at h
    · rename_i hlt
      cases h
      refine List.pairwise_cons.2 ⟨?_, List.pairwise_cons.2 ha⟩
      intro c hc
      obtain rfl | hc := List.mem_cons.1 hc
      · exact hlt
      · exact Int.lt_trans hlt (ha.1 c hc)
    · split at h
      · simp at h
      · rename_i hlt hne
        obtain ⟨tail, htail, rfl⟩ := Option.map_eq_some_iff.1 h
        refine List.pairwise_cons.2 ⟨?_, ih htail ha.2⟩
        intro c hc
        obtain rfl | hc := (mem_of_place htail c).1 hc
        · omega
        · exact ha.1 c hc

theorem place_of_newest {row : α} {rows : List α} (h : ∀ a ∈ rows, Row.id a < Row.id row) :
    place row rows = some (rows ++ [row]) := by
  induction rows with
  | nil => rfl
  | cons a rest ih =>
    obtain ⟨ha, hrest⟩ := List.forall_mem_cons.1 h
    have hlt : ¬ Row.id row < Row.id a := by omega
    have hne : Row.id row ≠ Row.id a := by omega
    simp [place, hlt, hne, ih hrest]

def insert? (rows : Rows α) (row : α) : Option (Rows α) :=
  match h : place row rows.list with
  | some list => some ⟨list, place_ascending h rows.ascending⟩
  | none => none

theorem list_of_insert? {rows placed : Rows α} {row : α} (h : rows.insert? row = some placed) :
    place row rows.list = some placed.list := by
  unfold insert? at h
  split at h
  · rename_i list hlist
    cases h
    exact hlist
  · cases h

theorem list_insert?_of_newest {rows : Rows α} {row : α}
    (h : ∀ a ∈ rows.list, Row.id a < Row.id row) :
    ∃ placed, rows.insert? row = some placed ∧ placed.list = rows.list ++ [row] := by
  unfold insert?
  split
  · rename_i list hlist
    exact ⟨_, rfl, Option.some.inj (hlist.symm.trans (place_of_newest h))⟩
  · rename_i hnone
    rw [place_of_newest h] at hnone
    cases hnone

def ofList? (rows : List α) : Option (Rows α) :=
  rows.foldr (fun row rows => rows.bind fun rows => rows.insert? row) (some empty)

def update (rows : Rows α) (p : α → Bool) (f : α → α) (keepsId : ∀ a, Row.id (f a) = Row.id a) :
    Rows α where
  list := rows.list.map fun a => if p a then f a else a
  ascending := by
    refine List.pairwise_map.2 (rows.ascending.imp ?_)
    intro a b hab
    have key : ∀ c, Row.id (if p c then f c else c) = Row.id c := by
      intro c
      split
      · exact keepsId c
      · rfl
    simpa only [key] using hab

@[simp]
theorem list_update (rows : Rows α) (p : α → Bool) (f : α → α)
    (keepsId : ∀ a, Row.id (f a) = Row.id a) :
    (rows.update p f keepsId).list = rows.list.map fun a => if p a then f a else a := rfl

end Rows

/-- A table of a store. It may be missing, or be one that somebody else made, with an id for its
only column. -/
inductive Table (α : Type) [Row α] where
  | absent
  | foreign
  | holding (rows : Rows α)

namespace Table

variable {α : Type} [Row α]

def toList : Table α → List α
  | .holding rows => rows.list
  | _ => []

def isPresent : Table α → Bool
  | .absent => false
  | _ => true

def isForeign : Table α → Bool
  | .foreign => true
  | _ => false

end Table

end Switchboard
