import Switchboard.Proofs.CommandLine.Arguments
import Switchboard.Proofs.Text.Numeral
import Switchboard.CommandLine.Parser

namespace Switchboard.CommandLine.Take

variable {α β : Type} {args : Arguments} {words left last : List String} {name flag word : String}
variable {m : Take α} {next : α → Take β} {a : α} {b : β}

theorem int64_eq_ok_iff {s : String} {n : Int} :
    int64 s = .ok n ↔ Text.DenotesInt s.toList n ∧ Text.FitsInt64 n :=
  mapError_eq_ok_iff.trans Text.readInt64_eq_ok_iff

theorem nat64_eq_ok_iff {s : String} {n : Nat} :
    nat64 s = .ok n ↔ Text.DenotesNat s.toList n ∧ n ≤ Text.maxNat64 :=
  mapError_eq_ok_iff.trans Text.readNat64_eq_ok_iff

theorem positive_eq_ok_iff {s : String} {n : Int} :
    positive s = .ok n ↔ Text.DenotesInt s.toList n ∧ Text.FitsInt64 n ∧ 1 ≤ n := by
  rw [positive, bind_eq_ok, ← and_assoc, ← int64_eq_ok_iff]
  constructor
  · rintro ⟨m, hm, hn⟩
    split at hn <;> cases hn
    exact ⟨hm, by omega⟩
  · rintro ⟨hn, hpos⟩
    exact ⟨n, hn, if_pos (by omega)⟩

theorem int64_toString {n : Int} (h : Text.FitsInt64 n) : int64 (toString n) = .ok n :=
  int64_eq_ok_iff.2 ⟨Text.denotesInt_toString n, h⟩

theorem nat64_toString {n : Nat} (h : n ≤ Text.maxNat64) : nat64 (toString n) = .ok n :=
  nat64_eq_ok_iff.2 ⟨Text.denotesNat_toString n, h⟩

theorem positive_toString {n : Int} (h : Text.FitsInt64 n) (hpos : 1 ≤ n) :
    positive (toString n) = .ok n :=
  positive_eq_ok_iff.2 ⟨Text.denotesInt_toString n, h, hpos⟩

theorem int64_fits {s : String} {n : Int} (h : int64 s = .ok n) : Text.FitsInt64 n :=
  (int64_eq_ok_iff.1 h).2

theorem nat64_le {s : String} {n : Nat} (h : nat64 s = .ok n) : n ≤ Text.maxNat64 :=
  (nat64_eq_ok_iff.1 h).2

theorem positive_fits {s : String} {n : Int} (h : positive s = .ok n) :
    Text.FitsInt64 n ∧ 1 ≤ n :=
  (positive_eq_ok_iff.1 h).2

/-- With these words left of the arguments, the taking finds `a` and leaves the words `left`. -/
def Yields (m : Take α) (args : Arguments) (words : List String) (a : α) (left : List String) : Prop :=
  m.run { args with positionals := words } = .ok (a, { args with positionals := left })

theorem yields_pure (a : α) : (pure a : Take α).Yields args words a words := rfl

theorem Yields.bind (h : m.Yields args words a left) (hnext : (next a).Yields args left b last) :
    (m >>= next).Yields args words b last := by
  rw [Yields, StateT.run_bind, h]
  exact hnext

theorem Yields.run'_eq (h : m.Yields args args.positionals a left) : m.run' args = .ok a :=
  congrArg (Except.map Prod.fst) h

theorem yields_parsed {reading : Reading α} {raw : String} (h : reading raw = .ok a) :
    (parsed name reading raw).Yields args words a words := by
  rw [parsed, h]
  exact yields_pure a

theorem yields_required : (required name).Yields args (word :: left) word left := rfl

theorem yields_requiredAs {reading : Reading α} {raw : String} (h : reading raw = .ok a) :
    (requiredAs name reading).Yields args (raw :: left) a left :=
  yields_required.bind (yields_parsed h)

theorem yields_optional (found : Option String) : optional.Yields args found.toList found [] := by
  cases found <;> rfl

theorem yields_optional_cons : optional.Yields args (word :: left) (some word) left := rfl

theorem yields_map {f : α → β} (h : m.Yields args words a left) :
    (f <$> m).Yields args words (f a) left := by
  rw [Yields, StateT.run_map, h]
  rfl

theorem yields_optionalAs {reading : Reading α} {write : α → String} {found : Option α}
    (h : ∀ a ∈ found, reading (write a) = .ok a) :
    (optionalAs name reading).Yields args (found.map write).toList found [] := by
  refine (yields_optional _).bind ?_
  cases found with
  | none => exact yields_pure none
  | some a => exact yields_map (yields_parsed (h a rfl))

theorem yields_value {found : Option String} (h : args.value? flag = found) :
    (value flag).Yields args words found words := by
  rw [← h]
  rfl

theorem yields_valueAs {reading : Reading α} {write : α → String} {found : Option α}
    (hvalue : args.value? flag = found.map write) (h : ∀ a ∈ found, reading (write a) = .ok a) :
    (valueAs flag reading).Yields args words found words := by
  refine (yields_value hvalue).bind ?_
  cases found with
  | none => exact yields_pure none
  | some a => exact yields_map (yields_parsed (h a rfl))

theorem yields_switch {given : Bool} (h : args.hasSwitch flag = given) :
    (switch flag).Yields args words given words := by
  rw [← h]
  rfl

theorem yields_message_words (h : words ≠ []) :
    message.Yields args words (some (" ".intercalate words)) [] := by
  refine Yields.bind (rfl : rest.Yields args words words []) ?_
  cases words with
  | nil => exact absurd rfl h
  | cons word words => exact yields_pure _

theorem yields_message (found : Option String) : message.Yields args found.toList found [] := by
  cases found with
  | none => rfl
  | some body =>
    have hjoin : " ".intercalate [body] = body := by simp
    exact hjoin ▸ yields_message_words (List.cons_ne_nil body [])

theorem yields_finish : (finish name).Yields args [] () [] := rfl

def Ensures (m : Take α) (P : α → Prop) : Prop :=
  ∀ args a left, m.run args = .ok (a, left) → P a

variable {P : α → Prop} {Q : β → Prop}

theorem ensures_trivial (m : Take α) : m.Ensures fun _ => True := fun _ _ _ _ => trivial

theorem ensures_pure (h : P a) : (pure a : Take α).Ensures P := by
  intro args found left hrun
  cases hrun
  exact h

theorem ensures_throw (error : UsageError) : (throw error : Take α).Ensures P := by
  intro args found left hrun
  cases hrun

theorem Ensures.bind (h : m.Ensures P) (hnext : ∀ a, P a → (next a).Ensures Q) :
    (m >>= next).Ensures Q := by
  intro args b last hrun
  rw [StateT.run_bind] at hrun
  cases hm : m.run args with
  | error reason =>
    rw [hm] at hrun
    cases hrun
  | ok found =>
    rw [hm] at hrun
    exact hnext found.1 (h _ _ _ hm) _ _ _ hrun

theorem ensures_next (h : ∀ a, (next a).Ensures Q) : (m >>= next).Ensures Q :=
  (ensures_trivial m).bind fun a _ => h a

theorem ensures_parsed {reading : Reading α} {raw : String} (h : ∀ a, reading raw = .ok a → P a) :
    (parsed name reading raw).Ensures P := by
  rw [parsed]
  split
  · exact ensures_pure (h _ ‹_›)
  · exact ensures_throw _

theorem ensures_requiredAs {reading : Reading α} (h : ∀ raw a, reading raw = .ok a → P a) :
    (requiredAs name reading).Ensures P :=
  ensures_next fun raw => ensures_parsed (h raw)

theorem ensures_some (h : m.Ensures P) : (some <$> m).Ensures fun found => ∀ a ∈ found, P a := by
  rw [map_eq_pure_bind]
  refine h.bind fun a ha => ensures_pure ?_
  rintro _ ⟨⟩
  exact ha

theorem ensures_optionalAs {reading : Reading α} (h : ∀ raw a, reading raw = .ok a → P a) :
    (optionalAs name reading).Ensures fun found => ∀ a ∈ found, P a := by
  apply ensures_next
  intro found
  cases found with
  | none => exact ensures_pure nofun
  | some raw => exact ensures_some (ensures_parsed (h raw))

theorem ensures_valueAs {reading : Reading α} (h : ∀ raw a, reading raw = .ok a → P a) :
    (valueAs flag reading).Ensures fun found => ∀ a ∈ found, P a := by
  apply ensures_next
  intro found
  cases found with
  | none => exact ensures_pure nofun
  | some raw => exact ensures_some (ensures_parsed (h raw))

end Switchboard.CommandLine.Take
