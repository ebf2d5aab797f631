import Switchboard.Proofs.Listing.Rows

namespace Switchboard.Listing

def divider : String := "---"

/-- What stands between the dividers of a text. A divider goes with the newline on each side of it. -/
def cutAtDividers (text : String) : List String :=
  ((rows text).splitOn divider).map ("\n".intercalate ·)

theorem rows_eq (text : String) : rows text = (text.toList.splitOn '\n').map String.ofList :=
  String.toList_split_char

theorem rows_append (text rest : String) : rows (text ++ "\n" ++ rest) = rows text ++ rows rest := by
  have hlist : (text ++ "\n" ++ rest).toList = text.toList ++ '\n' :: rest.toList := by simp
  rw [rows_eq, rows_eq, rows_eq, hlist, List.splitOn_append_cons_self, List.map_append]

theorem intercalate_rows (text : String) : "\n".intercalate (rows text) = text := by
  have hrows : (rows text).map String.toList = text.toList.splitOn '\n' := by
    simp [rows_eq, Function.comp_def]
  rw [← String.toList_inj, String.toList_intercalate, hrows]
  exact List.intercalate_splitOn '\n'

theorem rows_divider : rows divider = [divider] := by
  have hdivider : '\n' ∉ divider.toList := by decide
  rw [rows_eq, List.splitOn_eq_singleton hdivider, List.map_singleton, String.ofList_toList]

theorem bodies_cons (m : Message) {rest : List Message} (hrest : rest ≠ []) :
    bodies (m :: rest) = m.body ++ "\n" ++ (divider ++ "\n" ++ bodies rest) := by
  have hbodies : rest.map (·.body) ≠ [] := by simpa using hrest
  have hmark : "\n---\n" = "\n" ++ divider ++ "\n" := rfl
  unfold bodies
  rw [List.map_cons, String.intercalate_cons_of_ne_nil hbodies, hmark]
  simp only [String.append_assoc]

theorem rows_bodies_cons (m : Message) {rest : List Message} (hrest : rest ≠ []) :
    rows (bodies (m :: rest)) = rows m.body ++ divider :: rows (bodies rest) := by
  rw [bodies_cons m hrest, rows_append, rows_append, rows_divider, List.singleton_append]

theorem rows_bodies_singleton (m : Message) : rows (bodies [m]) = rows m.body := by
  unfold bodies
  rw [List.map_singleton, String.intercalate_singleton]

theorem rows_bodies {messages : List Message} (hne : messages ≠ []) :
    rows (bodies messages) = [divider].intercalate (messages.map fun m => rows m.body) := by
  induction messages with
  | nil => exact absurd rfl hne
  | cons m rest ih =>
    by_cases hrest : rest = []
    · subst rest
      rw [rows_bodies_singleton, List.map_singleton, List.intercalate_singleton]
    · have hmap : rest.map (fun m => rows m.body) ≠ [] := by simpa using hrest
      rw [rows_bodies_cons m hrest, ih hrest, List.map_cons, List.intercalate_cons_of_ne_nil hmap,
        List.append_assoc, List.singleton_append]

theorem count_rows_bodies {messages : List Message} (hne : messages ≠ []) :
    (rows (bodies messages)).count divider + 1 =
      messages.length + (messages.map fun m => (rows m.body).count divider).sum := by
  induction messages with
  | nil => exact absurd rfl hne
  | cons m rest ih =>
    by_cases hrest : rest = []
    · subst rest
      simp only [rows_bodies_singleton, List.length_singleton, List.map_singleton,
        List.sum_singleton]
      omega
    · have hcount := ih hrest
      rw [rows_bodies_cons m hrest, List.count_append, List.count_cons_self, List.length_cons,
        List.map_cons, List.sum_cons]
      omega

theorem length_splitOn {α : Type} [DecidableEq α] (mark : α) (items : List α) :
    (items.splitOn mark).length = items.count mark + 1 := by
  induction items with
  | nil => rfl
  | cons item items ih =>
    rw [List.splitOn_cons_eq_if_modifyHead, List.count_cons]
    by_cases hitem : item = mark
    · simp [hitem, ih]
    · simp [hitem, ih]

/-- A batch is cut back into its bodies, in their order and to the last character, exactly if none of
them has a divider among its rows. -/
theorem drained_bodies_are_cut_back {messages : List Message} (hne : messages ≠ []) :
    cutAtDividers (bodies messages) = messages.map (·.body) ↔
      ∀ m ∈ messages, divider ∉ rows m.body := by
  constructor
  · -- With a divider in a body there would be more pieces than messages.
    intro hcut m hm
    have hlength := congrArg List.length hcut
    rw [cutAtDividers, List.length_map, List.length_map, length_splitOn,
      count_rows_bodies hne] at hlength
    have hsum : (messages.map fun m => (rows m.body).count divider).sum = 0 := by omega
    have hcount : (rows m.body).count divider = 0 :=
      List.sum_eq_zero_iff_forall_eq_nat.1 hsum _ (List.mem_map_of_mem hm)
    exact List.count_eq_zero.1 hcount
  · intro hbodies
    have hgroups : ∀ group ∈ messages.map fun m => rows m.body, divider ∉ group :=
      List.forall_mem_map.2 hbodies
    have hmap : messages.map (fun m => rows m.body) ≠ [] := by simpa using hne
    rw [cutAtDividers, rows_bodies hne, List.splitOn_intercalate divider hgroups hmap, List.map_map]
    apply List.map_congr_left
    intro m _
    exact intercalate_rows m.body

/-- Empty bodies and newlines at both ends of a body are cut back. A body that ends in a divider is not,
though nothing in it stands between two newlines. -/
theorem newlines_around_bodies_are_cut_back :
    let message (body : String) : Message := .unclaimed 1 .epoch none "worker" body
    let bare := ["", "\n", "\n\n--\n", "--- ", "-", ""].map message
    let divided := ["a\n---", "b"].map message
    bare ≠ [] ∧ (∀ m ∈ bare, divider ∉ rows m.body) ∧
      cutAtDividers (bodies bare) = ["", "\n", "\n\n--\n", "--- ", "-", ""] ∧
      divided ≠ [] ∧ cutAtDividers (bodies divided) ≠ ["a\n---", "b"] := by
  intro message bare divided
  have hbare : bare ≠ [] := List.cons_ne_nil _ _
  have hdivided : divided ≠ [] := List.cons_ne_nil _ _
  have hrows : ∀ m ∈ bare, divider ∉ rows m.body := by
    simp only [rows_eq]
    decide
  have hmark : ¬ ∀ m ∈ divided, divider ∉ rows m.body := by
    simp only [rows_eq]
    decide
  exact ⟨hbare, hrows, (drained_bodies_are_cut_back hbare).2 hrows, hdivided,
    mt (drained_bodies_are_cut_back hdivided).1 hmark⟩

end Switchboard.Listing
