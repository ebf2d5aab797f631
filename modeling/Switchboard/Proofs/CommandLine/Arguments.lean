import Mathlib.Data.List.Nodup
import Switchboard.CommandLine.Arguments

namespace Switchboard.CommandLine

structure IsFlagName (name : String) : Prop where
  ne_empty : name.toList ≠ []
  plain : '=' ∉ name.toList

instance (name : String) : Decidable (IsFlagName name) :=
  decidable_of_iff (name.toList ≠ [] ∧ '=' ∉ name.toList)
    ⟨fun ⟨hne, hplain⟩ => ⟨hne, hplain⟩, fun ⟨hne, hplain⟩ => ⟨hne, hplain⟩⟩

/-- No flag is of both kinds, and every flag has a name that words can tell. -/
structure FlagSpec.Sound (spec : FlagSpec) : Prop where
  values : ∀ name ∈ spec.values, IsFlagName name
  switches : ∀ name ∈ spec.switches, IsFlagName name ∧ name ∉ spec.values

namespace Arguments

variable {name value command : String} {spec : FlagSpec} {args : Arguments}

def valueWord (name value : String) : String := "--" ++ name ++ "=" ++ value

def switchWord (name : String) : String := "--" ++ name

theorem flag?_eq {word : String} {rest : List Char} (h : IsFlagName name)
    (hword : word.toList = '-' :: '-' :: (name.toList ++ rest))
    (hrest : rest.takeWhile (· ≠ '=') = []) :
    flag? word = some (name, rest.tail?.map String.ofList) := by
  obtain ⟨c, cs, hname⟩ := List.exists_cons_of_ne_nil h.ne_empty
  have htake : (c :: (cs ++ rest)).takeWhile (· ≠ '=') = c :: cs := by
    have hplain : ∀ c ∈ name.toList, decide (c ≠ '=') = true := fun c hc =>
      decide_eq_true fun heq => h.plain (heq ▸ hc)
    rw [← List.cons_append, ← hname, List.takeWhile_append_of_pos hplain, hrest, List.append_nil]
  have hdrop : (c :: (cs ++ rest)).drop (c :: cs).length = rest := by
    rw [← List.cons_append, List.drop_left]
  rw [hname] at hword
  simp only [flag?, hword, List.cons_append, htake, hdrop]
  rw [← hname, String.ofList_toList]
  cases rest <;> rfl

theorem flag?_valueWord (h : IsFlagName name) :
    flag? (valueWord name value) = some (name, some value) := by
  have hword : (valueWord name value).toList =
      '-' :: '-' :: (name.toList ++ '=' :: value.toList) := by
    simp [valueWord]
  rw [flag?_eq h hword (List.takeWhile_cons_of_neg (by decide)), List.tail?_cons, Option.map_some,
    String.ofList_toList]

theorem flag?_switchWord (h : IsFlagName name) : flag? (switchWord name) = some (name, none) := by
  have hword : (switchWord name).toList = '-' :: '-' :: (name.toList ++ []) := by
    simp [switchWord]
  exact flag?_eq h hword rfl

theorem ne_dashes_of_flag? {word : String} (h : (flag? word).isSome) : word ≠ "--" := by
  rintro rfl
  exact absurd h (by decide)

theorem split_valueWord (h : IsFlagName name) (hmem : name ∈ spec.values) (words : List String) :
    split command spec (valueWord name value :: words) =
      (split command spec words).map (addValue name value) := by
  have hflag : flag? (valueWord name value) = some (name, some value) := flag?_valueWord h
  rw [split, if_neg (ne_dashes_of_flag? (by simp [hflag])), hflag]
  dsimp only
  rw [if_pos hmem]

theorem split_switchWord (h : IsFlagName name) (hmem : name ∈ spec.switches)
    (hvalue : name ∉ spec.values) (words : List String) :
    split command spec (switchWord name :: words) =
      (split command spec words).map (addSwitch name) := by
  have hflag := flag?_switchWord h
  rw [split, if_neg (ne_dashes_of_flag? (by simp [hflag])), hflag]
  dsimp only
  rw [if_neg hvalue, if_pos ⟨hmem, rfl⟩]

def words (args : Arguments) : List String :=
  args.values.map (fun flag => valueWord flag.1 flag.2) ++ args.switches.map switchWord ++
    "--" :: args.positionals

/-- The flags are ones that the subcommand takes. -/
structure Fits (args : Arguments) (spec : FlagSpec) : Prop where
  values : ∀ flag ∈ args.values, flag.1 ∈ spec.values
  switches : ∀ name ∈ args.switches, name ∈ spec.switches

theorem split_switches (hspec : spec.Sound) (positionals : List String) {switches : List String}
    (h : ∀ name ∈ switches, name ∈ spec.switches) :
    split command spec (switches.map switchWord ++ "--" :: positionals) =
      .ok { positionals, switches } := by
  induction switches with
  | nil =>
    rw [List.map_nil, List.nil_append, split, if_pos rfl]
  | cons name rest ih =>
    have hmem := h name List.mem_cons_self
    obtain ⟨hname, hvalue⟩ := hspec.switches name hmem
    rw [List.map_cons, List.cons_append, split_switchWord hname hmem hvalue,
      ih fun name hrest => h name (List.mem_cons_of_mem _ hrest)]
    rfl

theorem split_words (hspec : spec.Sound) (h : args.Fits spec) :
    split command spec args.words = .ok args := by
  obtain ⟨positionals, values, switches⟩ := args
  obtain ⟨hvalues, hswitches⟩ := h
  dsimp only at hvalues hswitches
  unfold words
  induction values with
  | nil => exact split_switches hspec positionals hswitches
  | cons flag rest ih =>
    have hmem := hvalues flag List.mem_cons_self
    have hrest := ih fun other hother => hvalues other (List.mem_cons_of_mem _ hother)
    dsimp only at hrest ⊢
    rw [List.map_cons, List.cons_append, List.cons_append,
      split_valueWord (hspec.values _ hmem) hmem, hrest]
    rfl

theorem flag?_of_head?_words (hspec : spec.Sound) (h : args.Fits spec) {word : String}
    (hhead : args.words.head? = some word) :
    word = "--" ∨ ∃ name ∈ spec.values ++ spec.switches, ∃ value, flag? word = some (name, value) := by
  obtain ⟨positionals, values, switches⟩ := args
  obtain ⟨hvalues, hswitches⟩ := h
  cases values with
  | cons flag rest =>
    have hmem := hvalues flag List.mem_cons_self
    cases hhead
    exact .inr ⟨flag.1, List.mem_append_left _ hmem, _, flag?_valueWord (hspec.values _ hmem)⟩
  | nil =>
    cases switches with
    | cons name rest =>
      have hmem := hswitches name List.mem_cons_self
      cases hhead
      have hname := (hspec.switches name hmem).1
      exact .inr ⟨name, List.mem_append_right _ hmem, _, flag?_switchWord hname⟩
    | nil =>
      cases hhead
      exact .inl rfl

theorem value?_eq_some (h : args.value? name = some value) : (name, value) ∈ args.values := by
  obtain ⟨_, _, heq, -⟩ := List.lookup_eq_some_iff.1 h
  have hmem : (name, value) ∈ args.values.reverse := by simp [heq]
  exact List.mem_reverse.1 hmem

theorem value?_eq_none (h : args.value? name = none) : (name, value) ∉ args.values := by
  intro hmem
  have hne := List.lookup_eq_none_iff.1 h _ (List.mem_reverse.2 hmem)
  exact absurd hne (by simp)

theorem value?_of_perm {flags : List (String × Option String)} {text : Option String}
    (hnames : (flags.map Prod.fst).Nodup)
    (hperm : args.values.Perm (flags.filterMap fun flag => flag.2.map (flag.1, ·)))
    (hmem : (name, text) ∈ flags) : args.value? name = text := by
  have hgiven (value : String) : (name, value) ∈ args.values ↔ text = some value := by
    rw [hperm.mem_iff, List.mem_filterMap]
    constructor
    · rintro ⟨other, hother, hvalue⟩
      obtain ⟨_, hother', heq⟩ := Option.map_eq_some_iff.1 hvalue
      cases heq
      have hsame := List.inj_on_of_nodup_map hnames hmem hother rfl
      rw [← hother', ← hsame]
    · rintro rfl
      exact ⟨(name, some value), hmem, rfl⟩
  cases hfound : args.value? name with
  | some value => exact ((hgiven value).1 (value?_eq_some hfound)).symm
  | none =>
    rw [eq_comm, Option.eq_none_iff_forall_ne_some]
    intro value hvalue
    exact value?_eq_none hfound ((hgiven value).2 hvalue)

end Arguments

end Switchboard.CommandLine
