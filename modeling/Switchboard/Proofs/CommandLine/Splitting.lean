import Mathlib.Logic.Relation
import Switchboard.Proofs.CommandLine.Pieces

namespace Switchboard.CommandLine

open Arguments

variable {command name value word : String} {spec : FlagSpec} {words more : List String}
  {p q : Piece} {pieces : List Piece} {rest : Option (List String)} {args : Arguments}
  {e : UsageError}

namespace Piece

def name? : Piece → Option String
  | .positional _ => none
  | .joined name _ | .apart name _ | .switch name => some name

def positional? : Piece → Option String
  | .positional word => some word
  | _ => none

def value? : Piece → Option (String × String)
  | .joined name value | .apart name value => some (name, value)
  | _ => none

def switch? : Piece → Option String
  | .switch name => some name
  | _ => none

@[simp]
theorem positional?_switch (name : String) : (switch name).positional? = none := rfl

@[simp]
theorem value?_switch (name : String) : (switch name).value? = none := rfl

@[simp]
theorem switch?_switch (name : String) : (switch name).switch? = some name := rfl

theorem switch?_eq_some_iff : p.switch? = some name ↔ p = .switch name := by
  cases p <;> simp [switch?]

end Piece

theorem gather_eq (pieces : List Piece) (args : Arguments) :
    gather pieces args =
      { positionals := pieces.filterMap Piece.positional? ++ args.positionals
        values := pieces.filterMap Piece.value? ++ args.values
        switches := pieces.filterMap Piece.switch? ++ args.switches } := by
  induction pieces with
  | nil => rfl
  | cons p pieces ih =>
    change p.addTo (gather pieces args) = _
    rw [ih]
    cases p <;> rfl

theorem gather_positionals (pieces : List Piece) (rest : List String) :
    gather pieces { positionals := rest } =
      { positionals := pieces.filterMap Piece.positional? ++ rest
        values := pieces.filterMap Piece.value?
        switches := pieces.filterMap Piece.switch? } := by
  rw [gather_eq]
  simp

/-- What words say, piece by piece: the positionals in order, for each flag the last value that it is
given, and the switches that are set. -/
structure Says (pieces : List Piece) (rest : Option (List String)) (args : Arguments) : Prop where
  positionals : args.positionals = pieces.filterMap Piece.positional? ++ rest.getD []
  value? : ∀ name value, args.value? name = some value ↔
    ∃ before p after, pieces = before ++ p :: after ∧ p.value? = some (name, value) ∧
      ∀ q ∈ after, ∀ other, q.value? ≠ some (name, other)
  hasSwitch : ∀ name, args.hasSwitch name ↔ .switch name ∈ pieces

theorem value?_gather (rest : List String) (name value : String) :
    (gather pieces { positionals := rest }).value? name = some value ↔
      ∃ before p after, pieces = before ++ p :: after ∧ p.value? = some (name, value) ∧
        ∀ q ∈ after, ∀ other, q.value? ≠ some (name, other) := by
  rw [gather_positionals, Arguments.value?, List.lookup_eq_some_iff]
  constructor
  · rintro ⟨later, earlier, heq, hlater⟩
    rw [List.reverse_eq_iff, List.reverse_append, List.reverse_cons, List.append_assoc,
      List.singleton_append] at heq
    obtain ⟨before, tail, rfl, -, htail⟩ := List.filterMap_eq_append_iff.1 heq
    obtain ⟨between, p, after, rfl, -, hp, hafter⟩ := List.filterMap_eq_cons_iff.1 htail
    refine ⟨before ++ between, p, after, by simp, hp, fun q hq other hother => ?_⟩
    have hmem : (name, other) ∈ later.reverse := by
      rw [← hafter]
      exact List.mem_filterMap.2 ⟨q, hq, hother⟩
    simpa using hlater _ (List.mem_reverse.1 hmem)
  · rintro ⟨before, p, after, rfl, hp, hafter⟩
    refine ⟨(after.filterMap Piece.value?).reverse, (before.filterMap Piece.value?).reverse, ?_, ?_⟩
    · simp [List.filterMap_append, hp]
    · rintro ⟨flag, other⟩ hmem
      obtain ⟨q, hq, hvalue⟩ := List.mem_filterMap.1 (List.mem_reverse.1 hmem)
      have hne : name ≠ flag := by
        rintro rfl
        exact hafter q hq other hvalue
      simpa using hne

theorem said_gather (pieces : List Piece) (rest : Option (List String)) :
    Says pieces rest (gather pieces { positionals := rest.getD [] }) where
  positionals := by rw [gather_positionals]
  value? := value?_gather (rest.getD [])
  hasSwitch name := by
    rw [gather_positionals, Arguments.hasSwitch, List.contains_iff_mem, List.mem_filterMap]
    simp only [Piece.switch?_eq_some_iff, exists_eq_right]

/-- All that can be asked of arguments: the positionals, the value of each flag, and whether a switch is
set. -/
structure View where
  positionals : List String
  value? : String → Option String
  hasSwitch : String → Bool

def Arguments.view (args : Arguments) : View where
  positionals := args.positionals
  value? := args.value?
  hasSwitch := args.hasSwitch

/-- The same said in another way. A flag can be moved with its value past a positional or another flag,
its value can be given in the other form, and a switch can be given again. -/
inductive Reworded : List Piece → List Piece → Prop where
  | swap (before after : List Piece) {p q : Piece} (h : p.name? ≠ q.name?) :
    Reworded (before ++ p :: q :: after) (before ++ q :: p :: after)
  | form (before after : List Piece) (name value : String) :
    Reworded (before ++ .joined name value :: after) (before ++ .apart name value :: after)
  | again (before between after : List Piece) (name : String) :
    Reworded (before ++ .switch name :: (between ++ after))
      (before ++ .switch name :: (between ++ .switch name :: after))

theorem view_gather (pieces : List Piece) (args : Arguments) :
    (gather pieces args).view =
      { positionals := pieces.filterMap Piece.positional? ++ args.positionals
        value? := fun name =>
          (args.value? name).or ((pieces.filterMap Piece.value?).reverse.lookup name)
        hasSwitch := fun name =>
          (pieces.filterMap Piece.switch?).contains name || args.hasSwitch name } := by
  rw [gather_eq]
  simp only [Arguments.view, View.mk.injEq, true_and]
  constructor
  · funext name
    simp [Arguments.value?, List.reverse_append, List.lookup_append]
  · funext name
    simp [Arguments.hasSwitch]

theorem view_gather_congr {args' : Arguments} (h : args.view = args'.view) (pieces : List Piece) :
    (gather pieces args).view = (gather pieces args').view := by
  obtain ⟨hpositionals, hvalue, hswitch⟩ := View.mk.inj h
  rw [view_gather, view_gather, hpositionals, hvalue, hswitch]

theorem value?_addValue (flag value name : String) (args : Arguments) :
    (addValue flag value args).value? name =
      (args.value? name).or (if name = flag then some value else none) := by
  rw [Arguments.value?, addValue, List.reverse_cons, List.lookup_append, List.lookup_cons]
  by_cases hname : name = flag
  · simp [Arguments.value?, hname]
  · simp [Arguments.value?, hname, beq_false_of_ne hname]

theorem view_addValue_comm {flag other : String} (h : flag ≠ other) (value value' : String) :
    (addValue flag value (addValue other value' args)).view =
      (addValue other value' (addValue flag value args)).view := by
  have hvalue (name : String) : (addValue flag value (addValue other value' args)).value? name =
      (addValue other value' (addValue flag value args)).value? name := by
    simp only [value?_addValue]
    by_cases hname : name = flag
    · subst hname
      simp [h]
    · simp [hname]
  exact View.mk.injEq .. ▸ ⟨rfl, funext hvalue, rfl⟩

theorem view_addSwitch_comm (flag other : String) :
    (addSwitch flag (addSwitch other args)).view = (addSwitch other (addSwitch flag args)).view := by
  simp only [Arguments.view, addSwitch, View.mk.injEq, true_and]
  refine ⟨rfl, funext fun name => ?_⟩
  simp [Arguments.hasSwitch, Bool.or_left_comm]

theorem Piece.view_addTo_comm (h : p.name? ≠ q.name?) (args : Arguments) :
    (p.addTo (q.addTo args)).view = (q.addTo (p.addTo args)).view := by
  cases p with
  | positional word =>
    cases q with
    | positional other => exact absurd rfl h
    | joined _ _ | apart _ _ | switch _ => rfl
  | joined name value | apart name value =>
    have hne {other : String} (hname : some name ≠ some other) : name ≠ other := fun heq =>
      hname (congrArg some heq)
    cases q with
    | positional _ | switch _ => rfl
    | joined other value' | apart other value' => exact view_addValue_comm (hne h) value value'
  | switch name =>
    cases q with
    | positional _ | joined _ _ | apart _ _ => rfl
    | switch other => exact view_addSwitch_comm name other

theorem Reworded.view_gather_eq {pieces' : List Piece} (h : Reworded pieces pieces')
    (args : Arguments) : (gather pieces args).view = (gather pieces' args).view := by
  cases h with
  | @swap before after p q h =>
    rw [gather, gather, List.foldr_append, List.foldr_append]
    exact view_gather_congr (Piece.view_addTo_comm h (gather after args)) before
  | form before after name value =>
    rw [gather, gather, List.foldr_append, List.foldr_append]
    rfl
  | again before between after name =>
    -- The two switches need not be neighbours, so what is between them is gathered at once.
    rw [gather, gather, List.foldr_append, List.foldr_append]
    refine view_gather_congr ?_ before
    change (gather (.switch name :: (between ++ after)) args).view =
      (gather (.switch name :: (between ++ .switch name :: after)) args).view
    rw [view_gather, view_gather]
    simp only [List.filterMap_append, List.filterMap_cons, Piece.positional?_switch,
      Piece.value?_switch, Piece.switch?_switch, View.mk.injEq, true_and]
    funext flag
    by_cases hflag : flag = name
    · simp [hflag]
    · simp [hflag]

theorem Reworded.fits_iff {pieces' : List Piece} (h : Reworded pieces pieces') :
    (∀ p ∈ pieces, p.Fits spec) ↔ ∀ p ∈ pieces', p.Fits spec := by
  cases h with
  | swap before after h =>
    simp only [List.forall_mem_append, List.forall_mem_cons, and_left_comm]
  | form before after name value =>
    simp only [List.forall_mem_append, List.forall_mem_cons, Piece.Fits]
  | again before between after name =>
    simp only [List.forall_mem_append, List.forall_mem_cons]
    tauto

theorem view_gather_of_reworded {pieces' : List Piece} (h : Relation.EqvGen Reworded pieces pieces') :
    ((∀ p ∈ pieces, p.Fits spec) ↔ ∀ p ∈ pieces', p.Fits spec) ∧
      ∀ args, (gather pieces args).view = (gather pieces' args).view := by
  induction h with
  | rel _ _ h => exact ⟨h.fits_iff, h.view_gather_eq⟩
  | refl _ => exact ⟨.rfl, fun _ => rfl⟩
  | symm _ _ _ ih => exact ⟨ih.1.symm, fun args => (ih.2 args).symm⟩
  | trans _ _ _ _ _ ih ih' => exact ⟨ih.1.trans ih'.1, fun args => (ih.2 args).trans (ih'.2 args)⟩

/-- Words are read piece by piece. They can be taken apart exactly if they are pieces that fit and then
nothing, or a `--` with any words after it. There is one such reading at most, and the arguments are what
it says. Otherwise the error is about the first word that begins no piece. Rewording the pieces makes no
difference, whatever comes after them. -/
theorem words_are_read_piece_by_piece (command : String) (spec : FlagSpec) (hspec : spec.Sound) :
    (∀ words, (∃ args, split command spec words = .ok args) ↔
      ∃ pieces rest, BeginsWith spec words pieces (ending rest)) ∧
    (∀ words pieces rest, BeginsWith spec words pieces (ending rest) →
      (∃ args, split command spec words = .ok args ∧ Says pieces rest args) ∧
      ∀ pieces' rest', BeginsWith spec words pieces' (ending rest') → pieces' = pieces ∧ rest' = rest) ∧
    (∀ words e, split command spec words = .error e ↔
      ∃ pieces more, BeginsWith spec words pieces more ∧ Offends command spec more e) ∧
    ∀ words pieces more, BeginsWith spec words pieces more →
      ∀ pieces', Relation.EqvGen Reworded pieces pieces' →
        (split command spec (pieces'.flatMap Piece.words ++ more)).map Arguments.view =
          (split command spec words).map Arguments.view := by
  refine ⟨fun words => ⟨?_, ?_⟩, fun words pieces rest h => ⟨?_, ?_⟩, fun words e => ⟨?_, ?_⟩,
    fun words pieces more h pieces' hreworded => ?_⟩
  · rintro ⟨args, hsplit⟩
    obtain ⟨pieces, more, hbegins, ⟨rest, rfl⟩ | ⟨e, hoffends⟩⟩ := exists_pieces command spec words
    · exact ⟨pieces, rest, hbegins⟩
    · rw [hbegins.split_eq_error hspec hoffends] at hsplit
      cases hsplit
  · rintro ⟨pieces, rest, h⟩
    exact ⟨_, h.split_eq_ok hspec⟩
  · exact ⟨_, h.split_eq_ok hspec, said_gather pieces rest⟩
  · exact fun pieces' rest' h' => h.unique hspec h'
  · exact exists_of_split_eq_error hspec
  · rintro ⟨pieces, more, hbegins, hoffends⟩
    exact hbegins.split_eq_error hspec hoffends
  · obtain ⟨hfits, hview⟩ : ((∀ p ∈ pieces, p.Fits spec) ↔ ∀ p ∈ pieces', p.Fits spec) ∧ _ :=
      view_gather_of_reworded hreworded
    have h' : BeginsWith spec (pieces'.flatMap Piece.words ++ more) pieces' more :=
      ⟨rfl, hfits.1 h.fits⟩
    rw [h.split_eq hspec, h'.split_eq hspec]
    cases split command spec more with
    | error e => rfl
    | ok args => exact congrArg Except.ok (hview args).symm

/-- A value may hold a `=` or be a `--`, the last value counts, and a `--` after the `--` is a
positional. -/
theorem last_tag_is_two_dashes :
    ∃ args, split "query" { values := ["tag"], switches := ["json"] }
        ["run.db", "--tag=a=b", "--json", "--tag", "--", "-", "--", "--"] = .ok args ∧
      args.positionals = ["run.db", "-", "--"] ∧ args.value? "tag" = some "--" ∧
        args.hasSwitch "json" := by
  have hfits : ∀ p ∈ [Piece.positional "run.db", .joined "tag" "a=b", .switch "json",
      .apart "tag" "--", .positional "-"], p.Fits { values := ["tag"], switches := ["json"] } := by
    decide
  obtain ⟨-, hreads, -, -⟩ := words_are_read_piece_by_piece "query"
    { values := ["tag"], switches := ["json"] } ⟨by decide, by decide⟩
  obtain ⟨⟨args, hsplit, hsaid⟩, -⟩ := hreads
    ["run.db", "--tag=a=b", "--json", "--tag", "--", "-", "--", "--"] _ (some ["--"])
    ⟨by decide, hfits⟩
  refine ⟨args, hsplit, hsaid.positionals, (hsaid.value? _ _).2 ?_, (hsaid.hasSwitch _).2 ?_⟩
  · exact ⟨[.positional "run.db", .joined "tag" "a=b", .switch "json"], .apart "tag" "--",
      [.positional "-"], rfl, rfl, by simp [Piece.value?]⟩
  · simp

end Switchboard.CommandLine
