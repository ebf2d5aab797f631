import Mathlib.Data.List.Forall2
import Switchboard.Store.Statement

namespace Switchboard

/-- Rows in ascending order of their ids are told apart by them. -/
theorem Row.eq_of_ascending {α : Type} [Row α] {rows : List α} {a b : α}
    (h : rows.Pairwise fun a b => Row.id a < Row.id b) (ha : a ∈ rows) (hb : b ∈ rows)
    (hid : Row.id a = Row.id b) : a = b := by
  refine List.Pairwise.forall_of_forall_of_flip (R := fun a b => Row.id a = Row.id b → a = b)
    (fun _ _ _ => rfl) (h.imp ?_) (h.imp ?_) ha hb hid
  · intro c d hlt heq
    omega
  · intro c d hlt heq
    omega

/-- In ascending order no row comes after the last one. -/
theorem Row.le_last {α : Type} [Row α] {rows : List α} {a last : α}
    (h : rows.Pairwise fun a b => Row.id a < Row.id b) (hlast : rows.getLast? = some last)
    (ha : a ∈ rows) : Row.id a ≤ Row.id last := by
  obtain ⟨before, rfl⟩ := List.getLast?_eq_some_iff.1 hlast
  obtain hmem | hmem := List.mem_append.1 ha
  · exact Int.le_of_lt ((List.pairwise_append.1 h).2.2 a hmem last (List.mem_singleton_self last))
  · obtain rfl := List.mem_singleton.1 hmem
    exact Int.le_refl _

theorem map_of_none {α : Type} {rows : List α} {p : α → Bool} {f : α → α}
    (h : ∀ a ∈ rows, p a = false) : (rows.map fun a => if p a then f a else a) = rows := by
  rw [List.map_congr_left (g := id) fun a ha => by simp [h a ha], List.map_id]

/-- A traversal succeeds exactly if each of its steps does. -/
theorem mapM_eq_ok_iff {ε α β : Type} {f : α → Except ε β} {as : List α} {bs : List β} :
    as.mapM f = .ok bs ↔ List.Forall₂ (fun a b => f a = .ok b) as bs := by
  induction as generalizing bs with
  | nil => cases bs <;> simp [pure, Except.pure]
  | cons a as ih =>
    rw [List.mapM_cons, List.forall₂_cons_left_iff]
    simp only [← ih]
    cases f a with
    | error e => simp [bind, Except.bind]
    | ok b =>
      cases as.mapM f with
      | error e => simp [bind, Except.bind]
      | ok rest => simp [bind, Except.bind, pure, Except.pure, eq_comm]

theorem exists_mapM_eq_ok {ε α β : Type} {f : α → Except ε β} {as : List α}
    (h : ∀ a ∈ as, ∃ b, f a = .ok b) : ∃ bs, as.mapM f = .ok bs := by
  simp only [mapM_eq_ok_iff]
  induction as with
  | nil => exact ⟨[], .nil⟩
  | cons a as ih =>
    obtain ⟨⟨b, ha⟩, hothers⟩ := List.forall_mem_cons.1 h
    obtain ⟨bs, hrest⟩ := ih hothers
    exact ⟨b :: bs, .cons ha hrest⟩

theorem Tables.rows_of_holding {α : Type} [Stored α] {tables : Tables} {rows : Rows (Entry α)}
    (h : Stored.table tables = .holding rows) : tables.rows α = rows.list := by
  rw [Tables.rows, h]
  rfl

theorem Tables.ascending (tables : Tables) (α : Type) [Stored α] :
    (tables.rows α).Pairwise fun a b => Row.id a < Row.id b := by
  unfold rows
  cases (Stored.table tables : Table (Entry α)) with
  | holding rows => exact rows.ascending
  | _ => exact .nil

namespace Statement

variable {α β : Type} {store after : Store}

theorem run_bind_ok {s : Statement α} {next : α → Statement β} {b : β} :
    (s >>= next).run store = .ok (b, after) ↔
      ∃ a middle, s.run store = .ok (a, middle) ∧ (next a).run middle = .ok (b, after) := by
  rw [StateT.run_bind]
  obtain cause | ⟨a, middle⟩ := s.run store
  · simp [bind, Except.bind]
  · constructor
    · exact fun h => ⟨a, middle, rfl, h⟩
    · rintro ⟨_, _, ⟨⟩, h⟩
      exact h

def Looks (s : Statement α) : Prop :=
  ∀ store a after, s.run store = .ok (a, after) → after = store

theorem looks_pure (a : α) : Looks (pure a : Statement α) := by
  intro store b after h
  cases h
  rfl

theorem looks_throw (cause : EngineError) : Looks (throw cause : Statement α) := by
  intro store a after h
  cases h

theorem looks_get : Looks (get : Statement Store) := by
  intro store a after h
  cases h
  rfl

theorem looks_liftM (result : Except EngineError α) : Looks (liftM result : Statement α) := by
  intro store a after h
  cases result <;> cases h
  rfl

theorem Looks.bind {s : Statement α} {next : α → Statement β} (h : Looks s)
    (hnext : ∀ a, Looks (next a)) : Looks (s >>= next) := by
  intro store b after hrun
  obtain ⟨a, middle, hs, hb⟩ := run_bind_ok.1 hrun
  exact (hnext a _ _ _ hb).trans (h _ _ _ hs)

theorem looks_failIf (condition : Bool) (cause : EngineError) : Looks (failIf condition cause) := by
  unfold failIf
  split
  · exact looks_throw cause
  · exact looks_pure ()

theorem looks_openFile : Looks openFile := by
  apply looks_get.bind
  intro store
  cases store.unopenable with
  | some cause => exact looks_throw cause
  | none => exact looks_pure ()

theorem looks_takeLock : Looks takeLock :=
  looks_get.bind fun _ => looks_failIf _ _

theorem looks_giveLockBack : Looks giveLockBack := looks_pure ()

theorem looks_hasTable (name : TableName) : Looks (hasTable name) :=
  looks_get.bind fun _ => looks_pure _

theorem looks_createIndex (name : TableName) : Looks (createIndex name) := by
  apply looks_get.bind
  intro store
  split
  · split
    · exact looks_throw _
    · exact looks_pure ()
  · exact looks_pure ()

theorem looks_tableOf (α : Type) [Stored α] (lack : EngineError) : Looks (tableOf α lack) := by
  apply looks_get.bind
  intro store
  split
  · exact looks_pure _
  · exact looks_throw _
  · exact looks_throw _

theorem looks_rows (α : Type) [Stored α] (needed : String) : Looks (rows α needed) :=
  (looks_tableOf α _).bind fun _ => looks_pure _

theorem looks_read {α : Type} [Stored α] (entries : List (Entry α)) : Looks (read entries) :=
  looks_liftM _

theorem looks_select (α : Type) [Stored α] (choose : List (Entry α) → List (Entry α)) :
    Looks (select α choose) :=
  (looks_rows α _).bind fun _ => looks_read _

theorem failIf_ok {condition : Bool} {cause : EngineError}
    (h : (failIf condition cause).run store = .ok ((), after)) : after = store :=
  looks_failIf _ _ _ _ _ h

theorem tableOf_ok [Stored α] {lack : EngineError} {rows : Rows (Entry α)}
    (h : (tableOf α lack).run store = .ok (rows, after)) :
    (Stored.table store.tables : Table (Entry α)) = .holding rows ∧ after = store := by
  obtain ⟨found, middle, hget, hmatch⟩ := run_bind_ok.1 h
  cases hget
  split at hmatch
  · cases hmatch
    exact ⟨‹_›, rfl⟩
  · cases hmatch
  · cases hmatch

theorem rows_ok [Stored α] {needed : String} {entries : List (Entry α)}
    (h : (rows α needed).run store = .ok (entries, after)) :
    entries = store.tables.rows α ∧ after = store := by
  obtain ⟨rows, middle, htable, hpure⟩ := run_bind_ok.1 h
  obtain ⟨htable, rfl⟩ := tableOf_ok htable
  cases hpure
  exact ⟨(Tables.rows_of_holding htable).symm, rfl⟩

theorem select_ok [Stored α] {choose : List (Entry α) → List (Entry α)} {entries : List (Entry α)}
    (h : (select α choose).run store = .ok (entries, after)) :
    (choose (store.tables.rows α)).mapM (Entry.read Stored.reading) =
      (.ok entries : Except EngineError _) ∧ after = store := by
  obtain ⟨found, middle, hrows, hread⟩ := run_bind_ok.1 h
  obtain ⟨rfl, rfl⟩ := rows_ok hrows
  unfold read at hread
  generalize (choose (middle.tables.rows α)).mapM (Entry.read Stored.reading) = result at hread ⊢
  cases result <;> cases hread
  exact ⟨rfl, rfl⟩

theorem mint_ok {id : Int} (h : mint.run store = .ok (id, after)) :
    ∃ sequence next, store.tables.sequence = some sequence ∧ sequence.next? = some (id, next) ∧
      after = { store with tables := { store.tables with sequence := some next } } := by
  obtain ⟨found, middle, hget, h₁⟩ := run_bind_ok.1 h
  cases hget
  split at h₁
  · cases h₁
  · rename_i sequence hsequence
    obtain ⟨_, _, hwritable, h₂⟩ := run_bind_ok.1 h₁
    obtain rfl := failIf_ok hwritable
    obtain ⟨_, _, hallowed, h₃⟩ := run_bind_ok.1 h₂
    obtain rfl := failIf_ok hallowed
    split at h₃
    · cases h₃
    · rename_i next hnext
      cases h₃
      exact ⟨sequence, _, hsequence, hnext, rfl⟩

theorem insertEntry_ok [Stored α] {entry : Entry α}
    (h : (insertEntry entry).run store = .ok ((), after)) :
    ∃ rows placed, (Stored.table store.tables : Table (Entry α)) = .holding rows ∧
      rows.insert? entry = some placed ∧
      after = { store with tables := Stored.setTable (.holding placed) store.tables } := by
  obtain ⟨rows, middle, htable, h₁⟩ := run_bind_ok.1 h
  obtain ⟨htable, rfl⟩ := tableOf_ok htable
  obtain ⟨found, _, hget, h₂⟩ := run_bind_ok.1 h₁
  cases hget
  obtain ⟨_, _, hwritable, h₃⟩ := run_bind_ok.1 h₂
  obtain rfl := failIf_ok hwritable
  obtain ⟨_, _, hallowed, h₄⟩ := run_bind_ok.1 h₃
  obtain rfl := failIf_ok hallowed
  split at h₄
  · cases h₄
  · rename_i placed hplaced
    cases h₄
    exact ⟨rows, placed, htable, hplaced, rfl⟩

theorem update_ok [Stored α] {p : Entry α → Bool} {columns : List String} {f : α → α}
    {keepsId : ∀ a, Row.id (f a) = Row.id a} {count : Nat}
    (h : (update p columns f keepsId).run store = .ok (count, after)) :
    ∃ rows changed : Rows (Entry α), Stored.table store.tables = .holding rows ∧
      count = rows.list.countP p ∧
      changed.list = rows.list.map (fun e => if p e then e.change columns f else e) ∧
      after = { store with tables := Stored.setTable (.holding changed) store.tables } := by
  obtain ⟨rows, middle, htable, h₁⟩ := run_bind_ok.1 h
  obtain ⟨htable, rfl⟩ := tableOf_ok htable
  obtain ⟨found, _, hget, h₂⟩ := run_bind_ok.1 h₁
  cases hget
  obtain ⟨_, _, hwritable, h₃⟩ := run_bind_ok.1 h₂
  obtain rfl := failIf_ok hwritable
  obtain ⟨_, _, hallowed, h₄⟩ := run_bind_ok.1 h₃
  obtain rfl := failIf_ok hallowed
  cases h₄
  exact ⟨rows, _, htable, rfl, rfl, rfl⟩

end Statement

end Switchboard
