import Switchboard.Proofs.Connection
import Switchboard.Receive
import Switchboard.Store.Directory

namespace Switchboard

namespace Directory

variable {files : Directory} {path other : String} {place : Place} {address : Address}
  {store : Store}

def tablesAt (files : Directory) (place : Place) : Tables :=
  match files.lookup place with
  | some (.store store) => store.tables
  | _ => {}

/-- The path leads to a place, and a store there can be written under it. -/
def Leads (files : Directory) (path : String) (place : Place) : Prop :=
  ∃ address, files.locate path = .ok (address, some place) ∧ address.isReadOnly = false

theorem tables_blankStore (address : Address) (place : Place) :
    (blankStore address place).tables = {} := by
  unfold blankStore
  repeat (first | rfl | split)

theorem tables_opened (files : Directory) (address : Address) (place : Place) :
    (files.opened address place).tables = files.tablesAt place := by
  unfold opened tablesAt
  cases files.lookup place with
  | none =>
    dsimp only
    split
    · exact tables_blankStore address place
    · rfl
  | some file =>
    cases file with
    | store store => rfl
    | text content =>
      dsimp only
      split
      · exact tables_blankStore address place
      · rfl

theorem storeAt_of_locate (h : files.locate path = .ok (address, some place)) :
    files.storeAt path = files.opened address place := by
  rw [storeAt, h]

theorem readOnly_of_blankStore (hreadOnly : address.isReadOnly)
    (hopenable : (blankStore address place).unopenable = none) :
    (blankStore address place).readOnly = true := by
  unfold blankStore at hopenable ⊢
  split
  · rename_i hlong
    rw [if_pos hlong] at hopenable
    cases hopenable
  · rename_i hshort
    rw [if_neg hshort] at hopenable
    by_cases himmutable : address.immutable
    · rw [if_pos himmutable]
    · have haccess : address.access = .readOnly := by
        simpa [Address.isReadOnly, himmutable] using hreadOnly
      rw [if_neg himmutable, if_pos haccess] at hopenable
      cases hopenable

theorem readOnly_of_opened (hreadOnly : address.isReadOnly)
    (hopenable : (files.opened address place).unopenable = none) :
    (files.opened address place).readOnly = true := by
  unfold opened at hopenable ⊢
  cases hfound : files.lookup place with
  | none =>
    rw [hfound] at hopenable
    dsimp only at hopenable ⊢
    split at hopenable
    · rename_i hcreate
      rw [if_pos hcreate]
      exact readOnly_of_blankStore hreadOnly hopenable
    · cases hopenable
  | some file =>
    rw [hfound] at hopenable
    cases file with
    | store store => simp [hreadOnly]
    | text content =>
      dsimp only at hopenable ⊢
      split at hopenable
      · rename_i hblank
        rw [if_pos hblank]
        exact readOnly_of_blankStore hreadOnly hopenable
      · cases hopenable

theorem isMade_iff :
    isMade store ↔ store.unopenable = none ∧ ∃ name, store.tables.has name := by
  rw [isMade, Bool.and_eq_true, Option.isNone_iff_eq_none, List.any_eq_true]
  exact and_congr_right fun _ => exists_congr fun name => and_iff_right name.mem_all

def keeps (files : Directory) (path : String) (store : Store) : Bool :=
  match files.locate path with
  | .ok (address, some _) => isMade store && !address.isReadOnly
  | _ => false

theorem save_of_locate (h : files.locate path = .ok (address, some place)) (store : Store) :
    files.save path store =
      if files.keeps path store then files.put place (.store store) else files := by
  rw [save, keeps, h]

theorem put_put (files : Directory) (place : Place) (file other : File) :
    (files.put place file).put place other = files.put place other := by
  simp [put, List.filter_filter]

theorem storeAt_save (h : files.Leads path place) (hmade : isMade store)
    (h' : (files.save path store).Leads other place) :
    (files.save path store).storeAt other = store := by
  obtain ⟨address, hlocate, hwritable⟩ := h
  obtain ⟨address', hlocate', hwritable'⟩ := h'
  have hkeeps : files.keeps path store := by simp [keeps, hlocate, hmade, hwritable]
  rw [save_of_locate hlocate, if_pos hkeeps] at hlocate' ⊢
  rw [storeAt_of_locate hlocate', opened, lookup_put_self]
  simp [hwritable']

theorem lookup_save_of_ne (h : ∀ address, files.locate path ≠ .ok (address, some place))
    (store : Store) : (files.save path store).lookup place = files.lookup place := by
  unfold save
  split
  · rename_i address kept hlocate
    split
    · exact lookup_put_of_ne _ _ fun hplace => h address (hplace ▸ hlocate)
    · rfl
  · rfl

theorem save_sameContent (h : store.tables.SameContent (files.storeAt path).tables)
    (place : Place) :
    ((files.save path store).tablesAt place).SameContent (files.tablesAt place) := by
  by_cases hplace : ∃ address, files.locate path = .ok (address, some place)
  · obtain ⟨address, hlocate⟩ := hplace
    rw [storeAt_of_locate hlocate, tables_opened] at h
    rw [save_of_locate hlocate]
    split
    · rw [tablesAt, lookup_put_self]
      exact h
    · exact .refl _
  · rw [tablesAt, lookup_save_of_ne (not_exists.1 hplace)]
    exact .refl _

theorem locate_of_parts {name : FileName} (haddress : Address.ofText path = .ok address)
    (hkept : address.isFleeting = false) (hroot : address.path.head? ≠ some slash)
    (hparts : parts address.path = [name]) (hhere : name ≠ here) (habove : name ≠ above)
    (hlength : name.length ≤ maxNameSize) (files : Directory) :
    files.locate path = .ok (address, some ⟨0, name⟩) := by
  have hplace : files.placeOf address.path = .ok ⟨0, name⟩ := by
    unfold placeOf
    rw [if_neg hroot, hparts]
    simp only [List.foldlM_cons, follow, if_neg hhere, if_neg habove, if_pos hlength]
    rfl
  rw [locate, haddress]
  change (if address.isFleeting then _ else _ : Except EngineError (Address × Option Place)) = _
  rw [hkept, if_neg Bool.false_ne_true, hplace]
  rfl

theorem reopened_eq (h : ∀ address, files.locate path ≠ .ok (address, none)) (store : Store) :
    files.reopened path store = store := by
  unfold reopened
  split
  · rename_i address hlocate
    exact absurd hlocate (h address)
  · rfl

theorem reopening_eq (h : ∀ address, files.locate path ≠ .ok (address, none))
    (others : Receive.Others) : others.reopening (files.reopened path) = others := by
  unfold Receive.Others.reopening
  simp only [reopened_eq h]

/-- There is a file for the store, and the path leads to it again whatever is saved there. -/
structure Lasting (files : Directory) (path : String) : Prop where
  kept : ∀ address, files.locate path ≠ .ok (address, none)
  again : ∀ store, (files.save path store).locate path = files.locate path

namespace Lasting

theorem cases (h : files.Lasting path) :
    (∃ cause, files.locate path = .error cause) ∨
      ∃ address place, files.locate path = .ok (address, some place) := by
  rcases hlocate : files.locate path with cause | ⟨address, _ | place⟩
  · exact .inl ⟨cause, rfl⟩
  · exact absurd hlocate (h.kept address)
  · exact .inr ⟨address, place, rfl⟩

theorem keeps_save (h : files.Lasting path) (store : Store) :
    (files.save path store).keeps path = files.keeps path := by
  funext left
  rw [keeps, keeps, h.again]

theorem storeAt_save (h : files.Lasting path) (store : Store) :
    (files.save path store).storeAt path =
      if files.keeps path store then store else files.storeAt path := by
  obtain ⟨cause, hlocate⟩ | ⟨address, place, hlocate⟩ := h.cases
  · simp [save, keeps, hlocate]
  · by_cases hkeeps : files.keeps path store
    · have hwritable : address.isReadOnly = false := by
        rw [keeps, hlocate] at hkeeps
        simpa using (Bool.and_eq_true_iff.1 hkeeps).2
      rw [if_pos hkeeps, storeAt_of_locate ((h.again store).trans hlocate), save_of_locate hlocate,
        if_pos hkeeps, opened, lookup_put_self]
      simp [hwritable]
    · rw [if_neg hkeeps, save_of_locate hlocate, if_neg hkeeps]

theorem save (h : files.Lasting path) (store : Store) : (files.save path store).Lasting path := by
  refine ⟨fun address => ?_, fun last => ?_⟩
  · rw [h.again]
    exact h.kept address
  · obtain ⟨cause, hlocate⟩ | ⟨address, place, hlocate⟩ := h.cases
    · have hsame : files.save path store = files := by simp [Directory.save, hlocate]
      rw [hsame]
      exact h.again last
    · have hlocate' := (h.again store).trans hlocate
      rw [save_of_locate hlocate', h.keeps_save]
      split
      · -- Saving twice comes to saving what was saved last.
        rename_i hkeeps
        have hlast := h.again last
        rw [save_of_locate hlocate, if_pos hkeeps] at hlast
        rw [h.again, save_of_locate hlocate]
        split
        · rw [put_put]
          exact hlast
        · exact hlast
      · rfl

theorem of_locate (hlocate : ∀ files : Directory, files.locate path = .ok (address, some place))
    (files : Directory) : files.Lasting path where
  kept found hfound := by
    rw [hlocate] at hfound
    cases hfound
  again _ := (hlocate _).trans (hlocate _).symm

theorem readOnly_of_not_keeps (h : files.Lasting path) (hmade : isMade store)
    (hnot : files.keeps path store = false) (hopenable : (files.storeAt path).unopenable = none) :
    (files.storeAt path).readOnly = true := by
  obtain ⟨cause, hlocate⟩ | ⟨address, place, hlocate⟩ := h.cases
  · rw [storeAt, hlocate] at hopenable
    cases hopenable
  · rw [storeAt_of_locate hlocate] at hopenable ⊢
    refine readOnly_of_opened ?_ hopenable
    simpa [keeps, hlocate, hmade] using hnot

end Lasting

end Directory

end Switchboard
