import Switchboard.Proofs.Listing.Rows

namespace Switchboard

namespace Listing

theorem cutLeft_cell {cell : String} (h : IsCell cell) (rest : String) :
    cutLeft '|' (cell ++ " | " ++ rest).toList = (cell.toList ++ [' '], ' ' :: rest.toList) := by
  have hcell : '|' ∉ cell.toList ++ [' '] := by simpa using h.separator
  have hsplit : (cell ++ " | " ++ rest).toList =
      (cell.toList ++ [' ']) ++ '|' :: ' ' :: rest.toList := by simp
  rw [hsplit, cutLeft_append hcell]

theorem not_isCell_append (cell rest : String) : ¬ IsCell (cell ++ " | " ++ rest) :=
  fun h => h.separator (by simp)

theorem cells_eq {cells others : List String} (hcells : cells ≠ []) (hothers : others ≠ [])
    (h : ∀ cell ∈ cells, IsCell cell) (h' : ∀ cell ∈ others, IsCell cell)
    (heq : " | ".intercalate cells = " | ".intercalate others) : cells = others := by
  induction cells generalizing others with
  | nil => exact absurd rfl hcells
  | cons cell rest ih =>
    obtain ⟨other, more, rfl⟩ := List.exists_cons_of_ne_nil hothers
    obtain ⟨hcell, hrest⟩ := List.forall_mem_cons.1 h
    obtain ⟨hother, hmore⟩ := List.forall_mem_cons.1 h'
    by_cases hlast : rest = [] <;> by_cases hlast' : more = []
    · subst rest more
      rw [String.intercalate_singleton, String.intercalate_singleton] at heq
      rw [heq]
    · subst rest
      rw [String.intercalate_singleton, String.intercalate_cons_of_ne_nil hlast'] at heq
      exact absurd (heq ▸ hcell) (not_isCell_append other _)
    · subst more
      rw [String.intercalate_singleton, String.intercalate_cons_of_ne_nil hlast] at heq
      exact absurd (heq ▸ hother) (not_isCell_append cell _)
    · rw [String.intercalate_cons_of_ne_nil hlast, String.intercalate_cons_of_ne_nil hlast'] at heq
      have hcut := congrArg (cutLeft '|') (congrArg String.toList heq)
      rw [cutLeft_cell hcell, cutLeft_cell hother] at hcut
      obtain ⟨hhere, hthere⟩ := Prod.mk.inj hcut
      rw [String.toList_inj.1 (List.append_cancel_right hhere),
        ih hlast hlast' hrest hmore (String.toList_inj.1 (List.cons.inj hthere).2)]

theorem newline_not_mem_intercalate {cells : List String} (h : ∀ cell ∈ cells, IsCell cell) :
    '\n' ∉ (" | ".intercalate cells).toList := by
  induction cells with
  | nil => simp
  | cons cell rest ih =>
    obtain ⟨hcell, hrest⟩ := List.forall_mem_cons.1 h
    by_cases hlast : rest = []
    · subst rest
      rw [String.intercalate_singleton]
      exact hcell.newline
    · rw [String.intercalate_cons_of_ne_nil hlast, String.toList_append, String.toList_append]
      simp only [List.mem_append, not_or]
      exact ⟨⟨hcell.newline, by decide⟩, ih hrest⟩

end Listing

namespace Task

open Listing

def cells (fields : List (String × Option String)) : List String :=
  fields.flatMap fun field => cell field.1 field.2

theorem cells_cons_none (key : String) (fields : List (String × Option String)) :
    cells ((key, none) :: fields) = cells fields := rfl

theorem cells_cons_some (key value : String) (fields : List (String × Option String)) :
    cells ((key, some value) :: fields) = (key ++ "=" ++ value) :: cells fields := rfl

theorem mem_cells {fields : List (String × Option String)} {text : String}
    (h : text ∈ cells fields) :
    ∃ key value, (key, some value) ∈ fields ∧ text = key ++ "=" ++ value := by
  obtain ⟨⟨key, found⟩, hfield, htext⟩ := List.mem_flatMap.1 h
  cases found with
  | none => cases htext
  | some value => exact ⟨key, value, hfield, List.mem_singleton.1 htext⟩

theorem key_eq {key key' value value' : String} (h : '=' ∉ key.toList) (h' : '=' ∉ key'.toList)
    (heq : key ++ "=" ++ value = key' ++ "=" ++ value') : key = key' ∧ value = value' := by
  have hcut := congrArg (cutLeft '=') (congrArg String.toList heq)
  simp only [String.toList_append, String.reduceToList, List.append_assoc, List.singleton_append,
    cutLeft_append h, cutLeft_append h'] at hcut
  obtain ⟨hkey, hvalue⟩ := Prod.mk.inj hcut
  exact ⟨String.toList_inj.1 hkey, String.toList_inj.1 hvalue⟩

theorem not_mem_cells {fields : List (String × Option String)} {key : String}
    (hkey : '=' ∉ key.toList) (hkeys : ∀ k ∈ fields.map Prod.fst, '=' ∉ k.toList)
    (hnew : key ∉ fields.map Prod.fst) (value : String) : key ++ "=" ++ value ∉ cells fields := by
  intro hmem
  obtain ⟨key', value', hfield, heq⟩ := mem_cells hmem
  have hkey' := List.mem_map_of_mem (f := Prod.fst) hfield
  exact hnew ((key_eq hkey (hkeys key' hkey') heq).1 ▸ hkey')

theorem fields_eq {fields others : List (String × Option String)}
    (hsame : fields.map Prod.fst = others.map Prod.fst)
    (hkeys : ∀ key ∈ fields.map Prod.fst, '=' ∉ key.toList) (hnodup : (fields.map Prod.fst).Nodup)
    (h : cells fields = cells others) : fields = others := by
  induction fields generalizing others with
  | nil => exact (List.map_eq_nil_iff.1 hsame.symm).symm
  | cons field rest ih =>
    obtain ⟨⟨key', value'⟩, more, rfl⟩ : ∃ other more, others = other :: more :=
      List.exists_cons_of_ne_nil fun hnil => by simp [hnil] at hsame
    obtain ⟨key, value⟩ := field
    obtain ⟨rfl, hrest⟩ : key = key' ∧ rest.map Prod.fst = more.map Prod.fst := by
      simpa using hsame
    obtain ⟨hkey, hmore⟩ := List.forall_mem_cons.1 hkeys
    obtain ⟨hnew, hdistinct⟩ := List.nodup_cons.1 hnodup
    cases value with
    | none =>
      cases value' with
      | none => rw [ih hrest hmore hdistinct h]
      | some value' =>
        rw [cells_cons_none, cells_cons_some] at h
        exact absurd (h ▸ List.mem_cons_self) (not_mem_cells hkey hmore hnew value')
    | some value =>
      cases value' with
      | none =>
        rw [cells_cons_none, cells_cons_some] at h
        exact absurd (h ▸ List.mem_cons_self)
          (not_mem_cells hkey (hrest ▸ hmore) (hrest ▸ hnew) value)
      | some value' =>
        rw [cells_cons_some, cells_cons_some] at h
        obtain ⟨hhere, hthere⟩ := List.cons.inj h
        rw [(key_eq hkey hkey hhere).2, ih hrest hmore hdistinct hthere]

/-- The fields of a request that may be absent, with their keys. -/
def requestFields (t : Task) : List (String × Option String) :=
  [("problem", t.problemId), ("scope", t.concernScope), ("payload", t.payloadPath),
   ("depends_on", t.dependsOn.map toString)]

/-- The fields of an outcome that may be absent, with their keys. -/
def outcomeFields (t : Task) : List (String × Option String) :=
  [("claimed_by", t.claimedBy), ("agent_file", t.agentFile), ("model", t.model),
   ("output", t.outputPath), ("error", t.error)]

theorem requestCells_eq (t : Task) : t.requestCells = cells t.requestFields := by
  simp [requestCells, requestFields, cells]

theorem requestCells_append_outcomeCells (t : Task) :
    t.requestCells ++ t.outcomeCells = cells (t.requestFields ++ t.outcomeFields) := by
  simp [requestCells, requestFields, outcomeCells, outcomeFields, cells]

/-- Neither a separator nor a newline is in the texts of a task. -/
structure Plain (t : Task) : Prop where
  taskType : IsCell t.taskType
  submittedBy : IsCell t.submittedBy
  optional : ∀ text ∈ [t.problemId, t.concernScope, t.payloadPath, t.claimedBy, t.agentFile, t.model,
    t.outputPath, t.error], ∀ found ∈ text, IsCell found

theorem isCell_cells {fields : List (String × Option String)}
    (hkeys : ∀ key ∈ fields.map Prod.fst, IsCell key)
    (hvalues : ∀ value ∈ fields.map Prod.snd, ∀ found ∈ value, IsCell found) :
    ∀ text ∈ cells fields, IsCell text := by
  intro text htext
  obtain ⟨key, value, hfield, rfl⟩ := mem_cells htext
  have hkey := hkeys key (List.mem_map_of_mem (f := Prod.fst) hfield)
  have hvalue := hvalues (some value) (List.mem_map_of_mem (f := Prod.snd) hfield) value rfl
  exact (hkey.append (by decide)).append hvalue

theorem Plain.requestValues {t : Task} (h : t.Plain) :
    ∀ value ∈ t.requestFields.map Prod.snd, ∀ found ∈ value, IsCell found := by
  have hdependsOn : ∀ found ∈ t.dependsOn.map toString, IsCell found := by
    intro found hfound
    obtain ⟨id, -, rfl⟩ := Option.map_eq_some_iff.1 hfound
    exact isCell_toString id
  have hoptional := h.optional
  simp only [List.forall_mem_cons, requestFields, List.map_cons, List.map_nil] at hoptional ⊢
  exact ⟨hoptional.1, hoptional.2.1, hoptional.2.2.1, hdependsOn, nofun⟩

theorem Plain.outcomeValues {t : Task} (h : t.Plain) :
    ∀ value ∈ t.outcomeFields.map Prod.snd, ∀ found ∈ value, IsCell found := by
  have hoptional := h.optional
  simp only [List.forall_mem_cons, outcomeFields, List.map_cons, List.map_nil] at hoptional ⊢
  exact hoptional.2.2.2

theorem isCell_word_priority (priority : Priority) : IsCell (Vocabulary.word priority) := by
  cases priority <;> decide

theorem isCell_word_status (status : TaskStatus) : IsCell (Vocabulary.word status) := by
  cases status <;> decide

theorem Plain.identityCells {t : Task} (h : t.Plain) : ∀ text ∈ t.identityCells, IsCell text := by
  simp only [Task.identityCells, List.forall_mem_cons]
  exact ⟨(by decide : IsCell "id=").append (isCell_toString t.id),
    (by decide : IsCell "type=").append h.taskType, (by decide : IsCell "by=").append h.submittedBy,
    (by decide : IsCell "prio=").append (isCell_word_priority t.priority), nofun⟩

theorem word_priority_injective {p q : Priority} (h : Vocabulary.word p = Vocabulary.word q) :
    p = q := by
  cases p <;> cases q <;> first | rfl | exact absurd h (by decide)

theorem word_status_injective {p q : TaskStatus} (h : Vocabulary.word p = Vocabulary.word q) :
    p = q := by
  cases p <;> cases q <;> first | rfl | exact absurd h (by decide)

theorem identityCells_inj {t u : Task} (h : t.identityCells = u.identityCells) :
    t.id = u.id ∧ t.taskType = u.taskType ∧ t.submittedBy = u.submittedBy ∧
      t.priority = u.priority := by
  simp only [Task.identityCells, List.cons.injEq, String.append_right_inj] at h
  exact ⟨Text.toString_injective h.1, h.2.1, h.2.2.1, word_priority_injective h.2.2.2.1⟩

/-- The keys of the optional fields in the order of their cells. -/
def requestKeys : List String := ["problem", "scope", "payload", "depends_on"]
def outcomeKeys : List String := ["claimed_by", "agent_file", "model", "output", "error"]

theorem equals_not_mem_keys : ∀ key ∈ requestKeys ++ outcomeKeys, '=' ∉ key.toList := by
  decide

theorem nodup_keys : (requestKeys ++ outcomeKeys).Nodup := by
  decide

theorem isCell_keys : ∀ key ∈ requestKeys ++ outcomeKeys, IsCell key := by
  decide

def untimed (t : Task) : Task :=
  { t with createdAt := .epoch, claimedAt := none, completedAt := none }

def rowCells (t : Task) : List String :=
  t.identityCells ++ ["status=" ++ Vocabulary.word t.status] ++
    cells (t.requestFields ++ t.outcomeFields)

theorem line_eq (t : Task) : t.line = " | ".intercalate t.rowCells := by
  rw [line, rowCells, ← requestCells_append_outcomeCells, List.append_assoc _ t.requestCells]

theorem Plain.rowCells {t : Task} (h : t.Plain) : ∀ text ∈ t.rowCells, IsCell text := by
  have hstatus : IsCell ("status=" ++ Vocabulary.word t.status) :=
    (by decide : IsCell "status=").append (isCell_word_status t.status)
  have hvalues : ∀ value ∈ (t.requestFields ++ t.outcomeFields).map Prod.snd,
      ∀ found ∈ value, IsCell found := by
    rw [List.map_append]
    exact List.forall_mem_append.2 ⟨h.requestValues, h.outcomeValues⟩
  exact List.forall_mem_append.2 ⟨List.forall_mem_append.2
    ⟨h.identityCells, List.forall_mem_singleton.2 hstatus⟩, isCell_cells isCell_keys hvalues⟩

theorem requestFields_inj {t u : Task} (h : t.requestFields = u.requestFields) :
    t.problemId = u.problemId ∧ t.concernScope = u.concernScope ∧ t.payloadPath = u.payloadPath ∧
      t.dependsOn = u.dependsOn := by
  simp only [requestFields, List.cons.injEq, Prod.mk.injEq, true_and, and_true] at h
  exact ⟨h.1, h.2.1, h.2.2.1, Option.map_injective (fun _ _ => Text.toString_injective) h.2.2.2⟩

theorem outcomeFields_inj {t u : Task} (h : t.outcomeFields = u.outcomeFields) :
    t.claimedBy = u.claimedBy ∧ t.agentFile = u.agentFile ∧ t.model = u.model ∧
      t.outputPath = u.outputPath ∧ t.error = u.error := by
  simpa [outcomeFields] using h

theorem untimed_eq_of_line_eq {t u : Task} (ht : t.Plain) (hu : u.Plain) (h : t.line = u.line) :
    t.untimed = u.untimed := by
  rw [line_eq, line_eq] at h
  have hcells := cells_eq (List.cons_ne_nil _ _) (List.cons_ne_nil _ _) ht.rowCells hu.rowCells h
  -- The identity and the status have their cells in every row, so their number is the same.
  have hlength : (t.identityCells ++ ["status=" ++ Vocabulary.word t.status]).length =
      (u.identityCells ++ ["status=" ++ Vocabulary.word u.status]).length := rfl
  obtain ⟨hnamed, hoptional⟩ := List.append_inj hcells hlength
  obtain ⟨hidentity, hstatus⟩ := List.append_inj hnamed rfl
  have hfields : t.requestFields ++ t.outcomeFields = u.requestFields ++ u.outcomeFields :=
    fields_eq rfl equals_not_mem_keys nodup_keys hoptional
  obtain ⟨hrequest, houtcome⟩ := List.append_inj hfields rfl
  obtain ⟨hid, htype, hby, hpriority⟩ := identityCells_inj hidentity
  obtain ⟨hproblem, hscope, hpayload, hdependsOn⟩ := requestFields_inj hrequest
  obtain ⟨hclaimedBy, hagentFile, hmodel, houtput, herror⟩ := outcomeFields_inj houtcome
  have hword := (String.append_right_inj _).1 (List.cons.inj hstatus).1
  simp only [untimed, Task.mk.injEq, true_and]
  exact ⟨hid, hby, htype, hproblem, hscope, hpayload, hpriority, hdependsOn,
    word_status_injective hword, hclaimedBy, hagentFile, hmodel, houtput, herror⟩

/-- What is offered for dispatch is the same: who wants what, and after which task. -/
structure SameRequest (t u : Task) : Prop where
  id : t.id = u.id
  taskType : t.taskType = u.taskType
  submittedBy : t.submittedBy = u.submittedBy
  priority : t.priority = u.priority
  problemId : t.problemId = u.problemId
  concernScope : t.concernScope = u.concernScope
  payloadPath : t.payloadPath = u.payloadPath
  dependsOn : t.dependsOn = u.dependsOn

theorem sameRequest_of_dispatchLine_eq {t u : Task} (ht : t.Plain) (hu : u.Plain)
    (h : t.dispatchLine = u.dispatchLine) : t.SameRequest u := by
  have hplain {v : Task} (hv : v.Plain) : ∀ text ∈ v.identityCells ++ v.requestCells, IsCell text := by
    rw [requestCells_eq]
    exact List.forall_mem_append.2 ⟨hv.identityCells,
      isCell_cells (List.forall_mem_append.1 isCell_keys).1 hv.requestValues⟩
  have hcells : t.identityCells ++ t.requestCells = u.identityCells ++ u.requestCells :=
    cells_eq (List.cons_ne_nil _ _) (List.cons_ne_nil _ _) (hplain ht) (hplain hu) h
  obtain ⟨hidentity, hoptional⟩ := List.append_inj hcells rfl
  rw [requestCells_eq, requestCells_eq] at hoptional
  have hrequest : t.requestFields = u.requestFields :=
    fields_eq rfl (List.forall_mem_append.1 equals_not_mem_keys).1
      (List.nodup_append.1 nodup_keys).1 hoptional
  obtain ⟨hid, htype, hby, hpriority⟩ := identityCells_inj hidentity
  obtain ⟨hproblem, hscope, hpayload, hdependsOn⟩ := requestFields_inj hrequest
  exact ⟨hid, htype, hby, hpriority, hproblem, hscope, hpayload, hdependsOn⟩

theorem isRow_line {t : Task} (h : t.Plain) : IsRow t.line where
  ne_empty := by
    intro hempty
    have hlist := congrArg String.toList hempty
    simp [line, identityCells] at hlist
  newline := by
    rw [line_eq]
    exact newline_not_mem_intercalate h.rowCells

end Task

namespace Listing

/-- A listing of tasks tells its tasks but for their times, and the row of a task that is offered for
dispatch tells what is wanted. -/
theorem task_listings_unambiguous :
    (∀ tasks others : List Task, (∀ t ∈ tasks, t.Plain) → (∀ t ∈ others, t.Plain) →
      lines Task.line tasks = lines Task.line others →
        tasks.map Task.untimed = others.map Task.untimed) ∧
    ∀ t u : Task, t.Plain → u.Plain → t.dispatchLine = u.dispatchLine → t.SameRequest u := by
  refine ⟨fun tasks others htasks hothers h => ?_, fun t u => Task.sameRequest_of_dispatchLine_eq⟩
  exact map_told_of_lines_eq (fun _ => Task.isRow_line) (fun _ _ => Task.untimed_eq_of_line_eq) htasks
    hothers h

/-- The same task, queued at another time, has the same row among others, with an equals sign and
blanks in its texts. -/
theorem task_listings_unambiguous_requeued :
    let new : NewTask := { submittedBy := " ", taskType := "by=a ", problemId := some "" }
    let early : Task := .queued 3 .epoch new
    let late : Task := .queued 3 ⟨1, 0, by decide⟩ new
    let next : Task := .queued 4 .epoch { submittedBy := "", taskType := "", dependsOn := some 3 }
    early.Plain ∧ late.Plain ∧ next.Plain ∧
      lines Task.line [early, next] = lines Task.line [late, next] ∧
      [early, next].map Task.untimed = [late, next].map Task.untimed ∧
      early.dispatchLine = late.dispatchLine ∧ early.SameRequest late := by
  intro new early late next
  have hearly : early.Plain := ⟨by decide, by decide, by decide⟩
  have hlate : late.Plain := ⟨by decide, by decide, by decide⟩
  have hnext : next.Plain := ⟨by decide, by decide, by decide⟩
  have hall {first : Task} (hfirst : first.Plain) : ∀ t ∈ [first, next], t.Plain :=
    List.forall_mem_cons.2 ⟨hfirst, List.forall_mem_singleton.2 hnext⟩
  exact ⟨hearly, hlate, hnext, rfl,
    task_listings_unambiguous.1 _ _ (hall hearly) (hall hlate) rfl,
    rfl, task_listings_unambiguous.2 _ _ hearly hlate rfl⟩

end Listing

end Switchboard
