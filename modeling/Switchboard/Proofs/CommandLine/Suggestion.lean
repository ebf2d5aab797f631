import Switchboard.CommandLine.Parser
import Switchboard.Proofs.CommandLine.RoundTrip
import Switchboard.Proofs.Text.EditDistance

namespace Switchboard.CommandLine

open Text

def distance (text : String) (sub : Subcommand) : Nat :=
  editDistance text.toList (Vocabulary.word sub).toList

variable {text : String} {sub : Subcommand}

section First

variable {α : Type}

/-- No candidate of the list is better than this one, and those before it are worse. -/
def IsFirstLeast (key : α → Nat) (list : List α) (a : α) : Prop :=
  ∃ before after, list = before ++ a :: after ∧
    (∀ b ∈ before, key a < key b) ∧ ∀ b ∈ after, key a ≤ key b

variable {key : α → Nat} {list : List α} {a b : α}

theorem IsFirstLeast.mem (h : IsFirstLeast key list a) : a ∈ list := by
  obtain ⟨before, after, rfl, -, -⟩ := h
  simp

theorem IsFirstLeast.le (h : IsFirstLeast key list a) (hb : b ∈ list) : key a ≤ key b := by
  obtain ⟨before, after, rfl, hbefore, hafter⟩ := h
  rw [List.mem_append, List.mem_cons] at hb
  obtain hb | rfl | hb := hb
  · exact Nat.le_of_lt (hbefore b hb)
  · exact Nat.le_refl _
  · exact hafter b hb

theorem IsFirstLeast.unique (ha : IsFirstLeast key list a) (hb : IsFirstLeast key list b) :
    a = b := by
  obtain ⟨before, after, rfl, hbefore, hafter⟩ := ha
  obtain ⟨before', after', heq, hbefore', hafter'⟩ := hb
  rw [List.append_eq_append_iff] at heq
  obtain ⟨between, rfl, heq⟩ | ⟨between, rfl, heq⟩ := heq
  · cases between with
    | nil => exact (List.cons.inj heq).1
    | cons c between =>
      obtain ⟨rfl, rfl⟩ := List.cons.inj heq
      have hlt := hbefore' a (by simp)
      have hle := hafter b (by simp)
      omega
  · cases between with
    | nil => exact (List.cons.inj heq).1.symm
    | cons c between =>
      obtain ⟨rfl, rfl⟩ := List.cons.inj heq
      have hlt := hbefore b (by simp)
      have hle := hafter' a (by simp)
      omega

theorem IsFirstLeast.cons_of_lt (h : IsFirstLeast key list a) (hlt : key a < key b) :
    IsFirstLeast key (b :: list) a := by
  obtain ⟨before, after, rfl, hbefore, hafter⟩ := h
  exact ⟨b :: before, after, rfl, List.forall_mem_cons.2 ⟨hlt, hbefore⟩, hafter⟩

theorem IsFirstLeast.cons_cons_of_le (h : IsFirstLeast key (b :: list) a) {c : α}
    (hle : key b ≤ key c) : IsFirstLeast key (b :: c :: list) a := by
  obtain ⟨before, after, heq, hbefore, hafter⟩ := h
  cases before with
  | nil =>
    obtain ⟨rfl, rfl⟩ := List.cons.inj heq
    exact ⟨[], c :: list, rfl, by simp, List.forall_mem_cons.2 ⟨hle, hafter⟩⟩
  | cons first before =>
    obtain ⟨rfl, rfl⟩ := List.cons.inj heq
    have hlt := hbefore b List.mem_cons_self
    refine ⟨b :: c :: before, after, rfl, ?_, hafter⟩
    simp only [List.forall_mem_cons] at hbefore ⊢
    exact ⟨hlt, Nat.lt_of_lt_of_le hlt hle, hbefore.2⟩

theorem IsFirstLeast.of_filter {far : Nat}
    (h : IsFirstLeast key (list.filter fun b => key b ≤ far) a) : IsFirstLeast key list a := by
  obtain ⟨before, after, heq, hbefore, hafter⟩ := h
  have hmem : a ∈ list.filter fun b => decide (key b ≤ far) := by simp [heq]
  have hfar : key a ≤ far := by simpa using (List.mem_filter.1 hmem).2
  -- What was passed over stands before this candidate or after it, and is worse in either place.
  obtain ⟨list₁, list₂, rfl, rfl, hrest⟩ := List.filter_eq_append_iff.1 heq
  obtain ⟨between, list₃, rfl, hbetween, -, rfl⟩ := List.filter_eq_cons_iff.1 hrest
  refine ⟨list₁ ++ between, list₃, by simp, ?_, ?_⟩
  · intro b hb
    obtain hb | hb := List.mem_append.1 hb
    · by_cases hnear : key b ≤ far
      · exact hbefore b (List.mem_filter.2 ⟨hb, decide_eq_true hnear⟩)
      · omega
    · have hb := hbetween b hb
      simp only [decide_eq_true_eq] at hb
      omega
  · intro b hb
    by_cases hnear : key b ≤ far
    · exact hafter b (List.mem_filter.2 ⟨hb, decide_eq_true hnear⟩)
    · omega

theorem IsFirstLeast.of_map {β : Type} {f : β → α} {list : List β}
    (h : IsFirstLeast key (list.map f) a) :
    ∃ b, f b = a ∧ IsFirstLeast (fun b => key (f b)) list b := by
  obtain ⟨before, after, heq, hbefore, hafter⟩ := h
  obtain ⟨before, rest, rfl, rfl, hrest⟩ := List.map_eq_append_iff.1 heq
  obtain ⟨b, after, rfl, rfl, rfl⟩ := List.map_eq_cons_iff.1 hrest
  exact ⟨b, rfl, before, after, rfl, fun c hc => hbefore _ (List.mem_map_of_mem hc),
    fun c hc => hafter _ (List.mem_map_of_mem hc)⟩

end First

theorem isFirstLeast_foldl_nearer (c : Subcommand × Nat) (cs : List (Subcommand × Nat)) :
    IsFirstLeast Prod.snd (c :: cs) (cs.foldl nearer c) := by
  induction cs generalizing c with
  | nil => exact ⟨[], [], rfl, by simp, by simp⟩
  | cons d cs ih =>
    have hrest := ih (nearer c d)
    rw [List.foldl_cons]
    unfold nearer at hrest ⊢
    split at hrest
    · rename_i hlt
      rw [if_pos hlt]
      exact hrest.cons_of_lt (Nat.lt_of_le_of_lt (hrest.le List.mem_cons_self) hlt)
    · rename_i hle
      rw [if_neg hle]
      exact hrest.cons_cons_of_le (Nat.not_lt.1 hle)

theorem Subcommand.mem_all (sub : Subcommand) : sub ∈ (Vocabulary.all : List Subcommand) := by
  cases sub <;> decide

theorem suggest_eq_none_iff : suggest text = none ↔ ∀ sub, maxEdits < distance text sub := by
  have hfilter : suggest text = none ↔ (((Vocabulary.all : List Subcommand).map fun sub =>
      (sub, distance text sub)).filter fun c => c.2 ≤ maxEdits) = [] := by
    rw [suggest]
    split
    · exact iff_of_true rfl ‹_›
    · rename_i hcons
      exact iff_of_false nofun fun hnil => nomatch hcons.symm.trans hnil
  rw [hfilter, List.filter_eq_nil_iff, List.forall_mem_map]
  simp only [decide_eq_true_eq, Nat.not_le]
  exact ⟨fun h sub => h sub sub.mem_all, fun h sub _ => h sub⟩

theorem suggest_eq_some (h : suggest text = some sub) :
    distance text sub ≤ maxEdits ∧ IsFirstLeast (distance text) Vocabulary.all sub := by
  rw [suggest] at h
  split at h
  · cases h
  · rename_i c cs hcandidates
    cases h
    have hfold := isFirstLeast_foldl_nearer c cs
    rw [← hcandidates] at hfold
    have hnear := (List.mem_filter.1 hfold.mem).2
    obtain ⟨sub, hsub, hleast⟩ := hfold.of_filter.of_map
    rw [← hsub] at hnear ⊢
    exact ⟨of_decide_eq_true hnear, hleast⟩

theorem suggest_eq_some_iff : suggest text = some sub ↔
    distance text sub ≤ maxEdits ∧ IsFirstLeast (distance text) Vocabulary.all sub := by
  refine ⟨suggest_eq_some, fun ⟨hnear, hleast⟩ => ?_⟩
  cases hsuggest : suggest text with
  | none =>
    have hfar := suggest_eq_none_iff.1 hsuggest sub
    omega
  | some other => rw [(suggest_eq_some hsuggest).2.unique hleast]

theorem distance_word_self (sub : Subcommand) : distance (Vocabulary.word sub) sub = 0 :=
  editDistance_self _

theorem eq_of_distance_word_eq_zero {other : Subcommand}
    (h : distance (Vocabulary.word sub) other = 0) : other = sub := by
  have hword := String.toList_inj.1 (eq_of_editDistance_eq_zero h)
  have hother := other.ofWord?_word
  rw [← hword, sub.ofWord?_word] at hother
  exact (Option.some.inj hother).symm

theorem suggest_word (sub : Subcommand) : suggest (Vocabulary.word sub) = some sub := by
  have hself := distance_word_self sub
  cases hsuggest : suggest (Vocabulary.word sub) with
  | none =>
    have hfar := suggest_eq_none_iff.1 hsuggest sub
    omega
  | some other =>
    have hle := (suggest_eq_some hsuggest).2.le sub.mem_all
    have hzero : distance (Vocabulary.word sub) other = 0 := by omega
    rw [eq_of_distance_word_eq_zero hzero]

/-- The nearest subcommand is suggested. How far a subcommand is from a text is the least number of
edits that turn the text into its name. Nothing is suggested for a text from which every one of the
twenty subcommands is more than three edits away; otherwise the suggestion is the first listed of those
with the least distance. So a text within three edits of a subcommand gets a suggestion that no other
subcommand beats, and the name of each subcommand suggests it. -/
theorem nearest_command_is_suggested (text : String) :
    (∀ sub, IsLeast {n | Edits n text.toList (Vocabulary.word sub).toList} (distance text sub)) ∧
    ((Vocabulary.all : List Subcommand).length = 20 ∧ ∀ sub, sub ∈ (Vocabulary.all : List Subcommand)) ∧
    (suggest text = none ↔ ∀ sub, 3 < distance text sub) ∧
    (∀ sub, suggest text = some sub ↔
      distance text sub ≤ 3 ∧ ∃ before after, Vocabulary.all = before ++ sub :: after ∧
        (∀ other ∈ before, distance text sub < distance text other) ∧
        ∀ other ∈ after, distance text sub ≤ distance text other) ∧
    ((∃ sub, distance text sub ≤ 3) →
      ∃ sub, suggest text = some sub ∧ ∀ other, distance text sub ≤ distance text other) ∧
    ∀ sub, suggest (Vocabulary.word sub) = some sub := by
  refine ⟨fun sub => isLeast_editDistance _ _, ⟨rfl, Subcommand.mem_all⟩, suggest_eq_none_iff,
    fun sub => suggest_eq_some_iff, ?_, suggest_word⟩
  rintro ⟨near, hnear⟩
  cases hsuggest : suggest text with
  | none => exact absurd hnear (Nat.not_le.2 (suggest_eq_none_iff.1 hsuggest near))
  | some sub => exact ⟨sub, rfl, fun other => (suggest_eq_some hsuggest).2.le other.mem_all⟩

/-- Two subcommands are equally near, and the one that is listed first is suggested. -/
theorem first_of_two_near_commands_is_suggested :
    distance "secn" .send = 2 ∧ distance "secn" .recv = 2 ∧ suggest "secn" = some .send := by
  obtain ⟨-, -, -, hsome, -, -⟩ := nearest_command_is_suggested "secn"
  have hsend : distance "secn" .send = 2 := by decide
  refine ⟨hsend, by decide, (hsome .send).2 ⟨by omega, [.init], _, rfl, ?_, ?_⟩⟩
  · decide
  · decide +kernel

end Switchboard.CommandLine
