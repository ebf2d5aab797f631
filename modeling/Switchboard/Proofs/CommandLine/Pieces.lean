import Switchboard.Proofs.CommandLine.Arguments

namespace Switchboard.CommandLine

open Arguments

/-- Words that stand together before a `--`. -/
inductive Piece where
  | positional (word : String)
  | joined (name value : String)
  | apart (name value : String)
  | switch (name : String)
  deriving DecidableEq, Repr

namespace Piece

def words : Piece → List String
  | .positional word => [word]
  | .joined name value => [valueWord name value]
  | .apart name value => [switchWord name, value]
  | .switch name => [switchWord name]

def Fits (spec : FlagSpec) : Piece → Prop
  | .positional word => ¬ ['-', '-'] <+: word.toList
  | .joined name _ | .apart name _ => name ∈ spec.values
  | .switch name => name ∈ spec.switches

instance (spec : FlagSpec) (p : Piece) : Decidable (p.Fits spec) :=
  match p with
  | .positional word => inferInstanceAs (Decidable (¬ ['-', '-'] <+: word.toList))
  | .joined name _ | .apart name _ => inferInstanceAs (Decidable (name ∈ spec.values))
  | .switch name => inferInstanceAs (Decidable (name ∈ spec.switches))

def addTo : Piece → Arguments → Arguments
  | .positional word => addPositional word
  | .joined name value | .apart name value => addValue name value
  | .switch name => addSwitch name

def first? (spec : FlagSpec) : List String → Option (Piece × List String)
  | [] => none
  | word :: rest =>
    if word = "--" then none
    else
      match flag? word with
      | none => some (.positional word, rest)
      | some (name, inline) =>
        if name ∈ spec.values then
          match inline, rest with
          | some value, rest => some (.joined name value, rest)
          | none, value :: rest => some (.apart name value, rest)
          | none, [] => none
        else if name ∈ spec.switches ∧ inline = none then some (.switch name, rest)
        else none

end Piece

/-- What comes after the pieces: nothing, or a `--` and more positionals. -/
def ending : Option (List String) → List String
  | none => []
  | some rest => "--" :: rest

/-- The words are these pieces, each of which fits, and then more words. -/
structure BeginsWith (spec : FlagSpec) (words : List String) (pieces : List Piece)
    (more : List String) : Prop where
  words_eq : words = pieces.flatMap Piece.words ++ more
  fits : ∀ p ∈ pieces, p.Fits spec

/-- A word that looks like a flag, but is none of the subcommand. -/
inductive Unknown (spec : FlagSpec) : String → Prop where
  | bare {name : String} (isName : IsFlagName name) (not_value : name ∉ spec.values)
    (not_switch : name ∉ spec.switches) : Unknown spec (switchWord name)
  | valued {name value : String} (plain : '=' ∉ name.toList) (not_value : name ∉ spec.values) :
    Unknown spec (valueWord name value)

/-- The first of these words begins no piece, and what is wrong with it. -/
inductive Offends (command : String) (spec : FlagSpec) : List String → UsageError → Prop where
  | unknown {word : String} {rest : List String} (unknown : Unknown spec word) :
    Offends command spec (word :: rest) (.unknownFlag word command)
  | missing {name : String} (value : name ∈ spec.values) :
    Offends command spec [switchWord name] (.missing ("--" ++ name))

variable {command name value word : String} {spec : FlagSpec} {words more : List String}
  {p q : Piece} {pieces : List Piece} {rest : Option (List String)} {args : Arguments}
  {e : UsageError}

theorem flag?_of_dashes {c : Char} {cs : List Char} (hword : word.toList = '-' :: '-' :: c :: cs) :
    flag? word = some (String.ofList ((c :: cs).takeWhile (· ≠ '=')),
      ((c :: cs).dropWhile (· ≠ '=')).tail?.map String.ofList) := by
  have hdrop {xs ys zs : List Char} (h : xs = ys ++ zs) : xs.drop ys.length = zs := by
    rw [h, List.drop_left]
  have hsplit : c :: cs = (c :: cs).takeWhile (· ≠ '=') ++ (c :: cs).dropWhile (· ≠ '=') :=
    List.takeWhile_append_dropWhile.symm
  simp only [flag?, hword, hdrop hsplit]
  cases (c :: cs).dropWhile (· ≠ '=') <;> rfl

theorem flag?_eq_none_iff : flag? word = none ↔ word = "--" ∨ ¬ ['-', '-'] <+: word.toList := by
  constructor
  · intro h
    rw [← String.toList_inj, or_iff_not_imp_right, not_not]
    rintro ⟨cs, hword⟩
    cases cs with
    | nil => exact hword.symm
    | cons c cs =>
      rw [flag?_of_dashes hword.symm] at h
      cases h
  · rintro (rfl | hword)
    · rfl
    · unfold flag?
      split
      · rename_i c cs heq
        exact absurd ⟨c :: cs, heq.symm⟩ hword
      · rfl

theorem exists_of_flag? {inline : Option String} (h : flag? word = some (name, inline)) :
    ∃ c cs, word.toList = '-' :: '-' :: c :: cs ∧ '=' ∉ name.toList ∧
      c :: cs = name.toList ++ (inline.map fun value => '=' :: value.toList).getD [] := by
  have hsome : ¬ (word = "--" ∨ ¬ ['-', '-'] <+: word.toList) := by
    rw [← flag?_eq_none_iff, h]
    nofun
  obtain ⟨hdashes, hprefix⟩ := not_or.1 hsome
  obtain ⟨cs, hword⟩ := not_not.1 hprefix
  cases cs with
  | nil => exact absurd (String.toList_inj.1 hword.symm) hdashes
  | cons c cs =>
    rw [flag?_of_dashes hword.symm] at h
    cases h
    refine ⟨c, cs, hword.symm, ?_, ?_⟩
    · intro hmem
      rw [String.toList_ofList] at hmem
      simpa using List.all_eq_true.1 List.all_takeWhile _ hmem
    · have hsplit := List.takeWhile_append_dropWhile (p := (· ≠ '=')) (l := c :: cs)
      have hhead := List.head?_dropWhile_not (· ≠ '=') (c :: cs)
      rw [String.toList_ofList]
      generalize (c :: cs).dropWhile (· ≠ '=') = after at hsplit hhead ⊢
      cases after with
      | nil => simpa using hsplit.symm
      | cons d after =>
        have hd : d = '=' := by simpa using hhead
        subst hd
        simpa using hsplit.symm

theorem eq_valueWord_of_flag? (h : flag? word = some (name, some value)) :
    word = valueWord name value ∧ '=' ∉ name.toList := by
  obtain ⟨c, cs, hword, hplain, hcs⟩ := exists_of_flag? h
  refine ⟨String.toList_inj.1 ?_, hplain⟩
  rw [hword, hcs]
  simp [valueWord]

theorem eq_switchWord_of_flag? (h : flag? word = some (name, none)) :
    word = switchWord name ∧ IsFlagName name := by
  obtain ⟨c, cs, hword, hplain, hcs⟩ := exists_of_flag? h
  have hname : name.toList = c :: cs := by simpa using hcs.symm
  refine ⟨String.toList_inj.1 ?_, ⟨?_, hplain⟩⟩
  · rw [hword, ← hname]
    simp [switchWord]
  · simp [hname]

theorem flag?_valueWord_of_plain (hplain : '=' ∉ name.toList) :
    flag? (valueWord name value) = some (name, some value) := by
  by_cases hempty : name.toList = []
  · obtain rfl : name = "" := String.toList_inj.1 hempty
    have hword : (valueWord "" value).toList = '-' :: '-' :: '=' :: value.toList := by
      simp [valueWord]
    rw [flag?_of_dashes hword]
    simp
  · exact flag?_valueWord ⟨hempty, hplain⟩

namespace Piece

theorem first?_words (hspec : spec.Sound) (hp : p.Fits spec) (more : List String) :
    first? spec (p.words ++ more) = some (p, more) := by
  cases p with
  | positional word =>
    have hdashes : word ≠ "--" := by
      rintro rfl
      exact hp (List.prefix_refl _)
    have hflag : flag? word = none := flag?_eq_none_iff.2 (.inr hp)
    simp [words, first?, hdashes, hflag]
  | joined name value =>
    have hflag : flag? (valueWord name value) = some (name, some value) :=
      flag?_valueWord (hspec.values name hp)
    have hdashes : valueWord name value ≠ "--" := ne_dashes_of_flag? (by simp [hflag])
    have hvalue : name ∈ spec.values := hp
    simp [words, first?, hdashes, hflag, hvalue]
  | apart name value =>
    have hflag := flag?_switchWord (hspec.values name hp)
    have hdashes : switchWord name ≠ "--" := ne_dashes_of_flag? (by simp [hflag])
    have hvalue : name ∈ spec.values := hp
    simp [words, first?, hdashes, hflag, hvalue]
  | switch name =>
    obtain ⟨hname, hvalue⟩ := hspec.switches name hp
    have hflag := flag?_switchWord hname
    have hdashes : switchWord name ≠ "--" := ne_dashes_of_flag? (by simp [hflag])
    have hswitch : name ∈ spec.switches := hp
    simp [words, first?, hdashes, hflag, hvalue, hswitch]

theorem first?_ending (spec : FlagSpec) (rest : Option (List String)) :
    first? spec (ending rest) = none := by
  cases rest <;> rfl

theorem eq_of_first? (h : first? spec words = some (p, more)) :
    p.Fits spec ∧ words = p.words ++ more := by
  cases words with
  | nil => cases h
  | cons word rest =>
    rw [first?] at h
    split at h
    · cases h
    · rename_i hdashes
      split at h
      · rename_i hflag
        cases h
        exact ⟨(flag?_eq_none_iff.1 hflag).resolve_left hdashes, rfl⟩
      · rename_i name inline hflag
        split at h
        · rename_i hvalue
          split at h
          · cases h
            exact ⟨hvalue, congrArg (· :: _) (eq_valueWord_of_flag? hflag).1⟩
          · cases h
            exact ⟨hvalue, congrArg (· :: _) (eq_switchWord_of_flag? hflag).1⟩
          · cases h
        · split at h
          · rename_i hswitch
            obtain ⟨hmem, rfl⟩ := hswitch
            cases h
            exact ⟨hmem, congrArg (· :: _) (eq_switchWord_of_flag? hflag).1⟩
          · cases h

theorem cases_of_first?_eq_none (h : first? spec words = none) :
    (∃ rest, words = ending rest) ∨ ∃ e, Offends command spec words e := by
  cases words with
  | nil => exact .inl ⟨none, rfl⟩
  | cons word rest =>
    rw [first?] at h
    split at h
    · rename_i hdashes
      exact .inl ⟨some rest, congrArg (· :: rest) hdashes⟩
    · split at h
      · cases h
      · rename_i name inline hflag
        refine .inr ?_
        split at h
        · rename_i hvalue
          split at h
          · cases h
          · cases h
          · rw [(eq_switchWord_of_flag? hflag).1]
            exact ⟨_, .missing hvalue⟩
        · rename_i hvalue
          split at h
          · cases h
          · rename_i hswitch
            refine ⟨_, .unknown ?_⟩
            cases inline with
            | none =>
              obtain ⟨rfl, hname⟩ := eq_switchWord_of_flag? hflag
              exact .bare hname hvalue fun hmem => hswitch ⟨hmem, rfl⟩
            | some value =>
              obtain ⟨rfl, hplain⟩ := eq_valueWord_of_flag? hflag
              exact .valued hplain hvalue

theorem split_of_first? (h : first? spec words = some (p, more)) :
    split command spec words = (split command spec more).map p.addTo := by
  cases words with
  | nil => cases h
  | cons word rest =>
    revert h
    rw [first?, split]
    by_cases hdashes : word = "--"
    · rw [if_pos hdashes]
      intro h
      cases h
    · rw [if_neg hdashes, if_neg hdashes]
      cases flag? word with
      | none =>
        intro h
        cases h
        rfl
      | some flag =>
        obtain ⟨name, inline⟩ := flag
        dsimp only
        by_cases hvalue : name ∈ spec.values
        · rw [if_pos hvalue, if_pos hvalue]
          cases inline with
          | some value =>
            intro h
            cases h
            rfl
          | none =>
            cases rest with
            | nil =>
              intro h
              cases h
            | cons value rest =>
              intro h
              cases h
              rfl
        · rw [if_neg hvalue, if_neg hvalue]
          by_cases hswitch : name ∈ spec.switches ∧ inline = none
          · rw [if_pos hswitch, if_pos hswitch]
            intro h
            cases h
            rfl
          · rw [if_neg hswitch]
            intro h
            cases h

end Piece

def gather (pieces : List Piece) (args : Arguments) : Arguments := pieces.foldr Piece.addTo args

theorem BeginsWith.cons (hp : p.Fits spec) (h : BeginsWith spec words pieces more) :
    BeginsWith spec (p.words ++ words) (p :: pieces) more := by
  obtain ⟨rfl, hfits⟩ := h
  exact ⟨by simp, List.forall_mem_cons.2 ⟨hp, hfits⟩⟩

theorem BeginsWith.split_eq (hspec : spec.Sound) (h : BeginsWith spec words pieces more) :
    split command spec words = (split command spec more).map (gather pieces) := by
  obtain ⟨rfl, hfits⟩ := h
  induction pieces with
  | nil =>
    change split command spec more = (split command spec more).map id
    cases split command spec more <;> rfl
  | cons p pieces ih =>
    obtain ⟨hp, hrest⟩ := List.forall_mem_cons.1 hfits
    rw [List.flatMap_cons, List.append_assoc, Piece.split_of_first? (Piece.first?_words hspec hp _),
      ih hrest]
    cases split command spec more <;> rfl

theorem split_ending (command : String) (spec : FlagSpec) (rest : Option (List String)) :
    split command spec (ending rest) = .ok { positionals := rest.getD [] } := by
  cases rest <;> rfl

theorem Offends.split_eq (hspec : spec.Sound) (h : Offends command spec words e) :
    split command spec words = .error e := by
  cases h with
  | unknown unknown =>
    cases unknown with
    | bare isName not_value not_switch =>
      have hflag := flag?_switchWord isName
      rw [split, if_neg (ne_dashes_of_flag? (by simp [hflag])), hflag]
      simp [not_value, not_switch]
    | @valued name value plain not_value =>
      have hflag : flag? (valueWord name value) = some (name, some value) :=
        flag?_valueWord_of_plain plain
      rw [split, if_neg (ne_dashes_of_flag? (by simp [hflag])), hflag]
      simp [not_value]
  | missing hvalue =>
    have hflag := flag?_switchWord (hspec.values _ hvalue)
    rw [split, if_neg (ne_dashes_of_flag? (by simp [hflag])), hflag]
    simp [hvalue]

theorem Piece.length_words_pos (p : Piece) : 0 < p.words.length := by
  cases p <;> simp [words]

theorem exists_pieces (command : String) (spec : FlagSpec) (words : List String) :
    ∃ pieces more, BeginsWith spec words pieces more ∧
      ((∃ rest, more = ending rest) ∨ ∃ e, Offends command spec more e) := by
  -- What is left after a piece is shorter, as every piece takes a word at least.
  induction hlength : words.length using Nat.strongRecOn generalizing words with
  | ind n ih =>
    cases hfirst : Piece.first? spec words with
    | none => exact ⟨[], words, ⟨rfl, nofun⟩, Piece.cases_of_first?_eq_none hfirst⟩
    | some found =>
      obtain ⟨p, more⟩ := found
      obtain ⟨hp, rfl⟩ := Piece.eq_of_first? hfirst
      have hpos := p.length_words_pos
      have hless : more.length < n := by
        rw [← hlength, List.length_append]
        omega
      obtain ⟨pieces, last, hbegins, hlast⟩ := ih _ hless more rfl
      exact ⟨p :: pieces, last, hbegins.cons hp, hlast⟩

theorem BeginsWith.split_eq_ok (hspec : spec.Sound)
    (h : BeginsWith spec words pieces (ending rest)) :
    split command spec words = .ok (gather pieces { positionals := rest.getD [] }) := by
  rw [h.split_eq hspec, split_ending]
  rfl

theorem BeginsWith.split_eq_error (hspec : spec.Sound) (h : BeginsWith spec words pieces more)
    (hoffends : Offends command spec more e) : split command spec words = .error e := by
  rw [h.split_eq hspec, hoffends.split_eq hspec]
  rfl

theorem exists_of_split_eq_error (hspec : spec.Sound) (hsplit : split command spec words = .error e) :
    ∃ pieces more, BeginsWith spec words pieces more ∧ Offends command spec more e := by
  obtain ⟨pieces, more, hbegins, ⟨rest, rfl⟩ | ⟨e', hoffends⟩⟩ := exists_pieces command spec words
  · rw [hbegins.split_eq_ok hspec] at hsplit
    cases hsplit
  · rw [hbegins.split_eq_error hspec hoffends] at hsplit
    cases hsplit
    exact ⟨pieces, more, hbegins, hoffends⟩

theorem ending_injective {rest rest' : Option (List String)} (h : ending rest = ending rest') :
    rest = rest' := by
  cases rest <;> cases rest' <;> cases h <;> rfl

theorem BeginsWith.unique (hspec : spec.Sound) {pieces' : List Piece} {rest' : Option (List String)}
    (h : BeginsWith spec words pieces (ending rest))
    (h' : BeginsWith spec words pieces' (ending rest')) : pieces' = pieces ∧ rest' = rest := by
  obtain ⟨rfl, hfits⟩ := h
  obtain ⟨heq, hfits'⟩ := h'
  -- Two readings of the same words begin with the same piece, the one that `first?` finds.
  induction pieces generalizing pieces' with
  | nil =>
    have hnone := Piece.first?_ending spec rest
    cases pieces' with
    | nil => exact ⟨rfl, (ending_injective heq).symm⟩
    | cons p' pieces' =>
      obtain ⟨hp', -⟩ := List.forall_mem_cons.1 hfits'
      rw [List.flatMap_nil, List.nil_append, List.flatMap_cons, List.append_assoc] at heq
      rw [heq, Piece.first?_words hspec hp'] at hnone
      cases hnone
  | cons p pieces ih =>
    obtain ⟨hp, hrest⟩ := List.forall_mem_cons.1 hfits
    rw [List.flatMap_cons, List.append_assoc] at heq
    have hfirst := Piece.first?_words hspec hp (pieces.flatMap Piece.words ++ ending rest)
    cases pieces' with
    | nil =>
      rw [heq, List.flatMap_nil, List.nil_append, Piece.first?_ending] at hfirst
      cases hfirst
    | cons p' pieces' =>
      obtain ⟨hp', hrest'⟩ := List.forall_mem_cons.1 hfits'
      rw [List.flatMap_cons, List.append_assoc] at heq
      rw [heq, Piece.first?_words hspec hp'] at hfirst
      obtain ⟨rfl, hmore⟩ := Prod.mk.inj (Option.some.inj hfirst)
      obtain ⟨rfl, rfl⟩ := ih hrest hmore.symm hrest'
      exact ⟨rfl, rfl⟩

end Switchboard.CommandLine
