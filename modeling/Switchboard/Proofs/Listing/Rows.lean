import Switchboard.Listing
import Switchboard.Proofs.Text.Numeral

namespace Switchboard.Listing

open Text

def rows (text : String) : List String :=
  (text.split '\n').toList.map (·.copy)

variable {α : Type} {line : α → String} {items others : List α}

/-- The text is that of a row: there is something in it, but no newline. -/
structure IsRow (text : String) : Prop where
  ne_empty : text ≠ ""
  newline : '\n' ∉ text.toList

theorem rows_intercalate {texts : List String} (h : ∀ text ∈ texts, '\n' ∉ text.toList) :
    rows ("\n".intercalate texts) = if texts = [] then [""] else texts :=
  String.toList_split_intercalate h

theorem rows_lines (hne : items ≠ []) (h : ∀ item ∈ items, '\n' ∉ (line item).toList) :
    rows (lines line items) = items.map line := by
  rw [lines, rows_intercalate (List.forall_mem_map.2 h), if_neg (by simpa using hne)]

theorem map_eq_of_lines_eq (hitems : ∀ item ∈ items, IsRow (line item))
    (hothers : ∀ item ∈ others, IsRow (line item))
    (h : lines line items = lines line others) : items.map line = others.map line := by
  have hempty {found : List α} (hfound : ∀ item ∈ found, IsRow (line item)) :
      found.map line ≠ [""] := by
    intro heq
    obtain ⟨item, hitem, hline⟩ := List.mem_map.1 (heq ▸ List.mem_singleton_self "")
    exact (hfound item hitem).ne_empty hline
  have hrows := congrArg rows h
  rw [lines, lines,
    rows_intercalate (List.forall_mem_map.2 fun item hitem => (hitems item hitem).newline),
    rows_intercalate (List.forall_mem_map.2 fun item hitem => (hothers item hitem).newline)] at hrows
  split at hrows <;> split at hrows
  · rw [‹items.map line = []›, ‹others.map line = []›]
  · exact absurd hrows.symm (hempty hothers)
  · exact absurd hrows (hempty hitems)
  · exact hrows

/-- If what is told of an item is told by its row, equal listings tell the same of the items in the same
places. -/
theorem map_told_of_lines_eq {β : Type} {told : α → β} {good : α → Prop}
    (hrow : ∀ item, good item → IsRow (line item))
    (htold : ∀ item other, good item → good other → line item = line other → told item = told other)
    (hitems : ∀ item ∈ items, good item) (hothers : ∀ item ∈ others, good item)
    (h : lines line items = lines line others) : items.map told = others.map told := by
  have hrows := map_eq_of_lines_eq (fun item hitem => hrow item (hitems item hitem))
    (fun item hitem => hrow item (hothers item hitem)) h
  clear h
  induction items generalizing others with
  | nil => rw [List.map_eq_nil_iff.1 hrows.symm]
  | cons item rest ih =>
    obtain ⟨other, more, rfl, hhere, hthere⟩ := List.map_eq_cons_iff.1 hrows.symm
    obtain ⟨hitem, hrest⟩ := List.forall_mem_cons.1 hitems
    obtain ⟨hother, hmore⟩ := List.forall_mem_cons.1 hothers
    rw [List.map_cons, List.map_cons, htold item other hitem hother hhere.symm,
      ih hrest hmore hthere.symm]

/-- Neither a separator nor a newline is in the text. -/
structure IsCell (text : String) : Prop where
  separator : '|' ∉ text.toList
  newline : '\n' ∉ text.toList

instance (text : String) : Decidable (IsCell text) :=
  decidable_of_iff ('|' ∉ text.toList ∧ '\n' ∉ text.toList)
    ⟨fun h => ⟨h.1, h.2⟩, fun h => ⟨h.separator, h.newline⟩⟩

theorem IsCell.append {text more : String} (h : IsCell text) (hmore : IsCell more) :
    IsCell (text ++ more) where
  separator := by
    rw [String.toList_append, List.mem_append]
    exact fun hmem => hmem.elim h.separator hmore.separator
  newline := by
    rw [String.toList_append, List.mem_append]
    exact fun hmem => hmem.elim h.newline hmore.newline

theorem isCell_toString (n : Int) : IsCell (toString n) :=
  ⟨not_mem_toString (by decide) n, not_mem_toString (by decide) n⟩

def cutLeft (mark : Char) (cs : List Char) : List Char × List Char :=
  (cs.takeWhile (· ≠ mark), (cs.dropWhile (· ≠ mark)).drop 1)

def cutRight (mark : Char) (cs : List Char) : List Char × List Char :=
  ((cutLeft mark cs.reverse).2.reverse, (cutLeft mark cs.reverse).1.reverse)

theorem cutLeft_append {mark : Char} {field : List Char} (h : mark ∉ field) (rest : List Char) :
    cutLeft mark (field ++ mark :: rest) = (field, rest) := by
  have hpos : ∀ c ∈ field, decide (c ≠ mark) = true := by
    intro c hc
    exact decide_eq_true (ne_of_mem_of_not_mem hc h)
  unfold cutLeft
  rw [List.takeWhile_append_of_pos hpos, List.dropWhile_append_of_pos hpos]
  simp

theorem cutRight_append {mark : Char} {field : List Char} (h : mark ∉ field) (rest : List Char) :
    cutRight mark (rest ++ mark :: field) = (rest, field) := by
  have hreverse : (rest ++ mark :: field).reverse = field.reverse ++ mark :: rest.reverse := by simp
  have hfield : mark ∉ field.reverse := by simpa using h
  rw [cutRight, hreverse, cutLeft_append hfield, List.reverse_reverse, List.reverse_reverse]

end Switchboard.Listing
