import Switchboard.CommandLine.Execution
import Switchboard.Proofs.CommandLine.RoundTrip
import Switchboard.Proofs.CommandLine.Splitting
import Switchboard.Proofs.Text.Margin
import Switchboard.Proofs.Text.Utf8

namespace Switchboard.CommandLine

/-- What is left of a text when every line end after it is taken away. -/
structure IsBodyOf (text body : String) : Prop where
  ends : ∃ ends, text.toList = body.toList ++ ends ∧ ∀ c ∈ ends, c = '\n' ∨ c = '\r'
  last : ∀ c ∈ body.toList.getLast?, ¬ (c = '\n' ∨ c = '\r')

theorem isLineEnd_iff {c : Char} : isLineEnd c ↔ c = '\n' ∨ c = '\r' := by
  simp [isLineEnd]

theorem IsBodyOf.unique {text body other : String} (h : IsBodyOf text body)
    (hother : IsBodyOf text other) : body = other := by
  have heq {found : String} (h : IsBodyOf text found) :
      Text.dropEndWhile isLineEnd text.toList = found.toList := by
    obtain ⟨⟨ends, htext, hends⟩, hlast⟩ := h
    rw [htext]
    exact Text.dropEndWhile_append_eq (fun c hc => isLineEnd_iff.2 (hends c hc))
      fun c hc => mt isLineEnd_iff.1 (hlast c hc)
  exact String.toList_inj.1 ((heq h).symm.trans (heq hother))

theorem exists_bodyOfInput (text : String) :
    ∃ body, bodyOfInput (Text.Utf8.encode text) = .ok body ∧ IsBodyOf text body := by
  have hdecoded : Text.Utf8.decode (Text.Utf8.encode text) = .ok text.toList :=
    Text.Utf8.decode_eq_ok_iff.2 (by rw [String.ofList_toList])
  obtain ⟨ends, htext, hends, hlast⟩ := Text.exists_dropEndWhile_append isLineEnd text.toList
  refine ⟨String.ofList (Text.dropEndWhile isLineEnd text.toList), ?_, ⟨ends, ?_, ?_⟩, ?_⟩
  · rw [bodyOfInput, hdecoded]
  · rw [String.toList_ofList]
    exact htext
  · exact fun c hc => isLineEnd_iff.1 (hends c hc)
  · rw [String.toList_ofList]
    exact fun c hc => mt isLineEnd_iff.2 (hlast c hc)

theorem bodyOfInput_eq_error {bytes : List UInt8}
    (h : ∀ text, bytes ≠ Text.Utf8.encode text) :
    ∃ flaw, bodyOfInput bytes = .error (.undecodableInput flaw) := by
  unfold bodyOfInput
  cases hdecoded : Text.Utf8.decode bytes with
  | ok cs => exact absurd (Text.Utf8.decode_eq_ok_iff.1 hdecoded) (h _)
  | error flaw => exact ⟨flaw, rfl⟩

open Take

theorem Piece.first?_help (sub : Subcommand) (rest : List String) :
    first? sub.flags ("--help" :: rest) = none := by
  obtain ⟨hvalue, hswitch⟩ := not_or.1 (mt List.mem_append.2 sub.help_notMem_flags)
  have hflag : Arguments.flag? "--help" = some ("help", none) := by decide
  simp [first?, hflag, hvalue, hswitch]

theorem Piece.head?_words_ne {sub : Subcommand} {pieces : List Piece} (rest : List String)
    (hfits : ∀ p ∈ pieces, p.Fits sub.flags) (hhelp : pieces.head? ≠ some (.positional "-h")) :
    (pieces.flatMap words ++ "--" :: rest).head? ≠ some "-h" ∧
      (pieces.flatMap words ++ "--" :: rest).head? ≠ some "--help" := by
  cases pieces with
  | nil => exact ⟨by simp, by simp⟩
  | cons p pieces =>
    have hfirst := first?_words sub.sound_flags (List.forall_mem_cons.1 hfits).1
      (pieces.flatMap words ++ "--" :: rest)
    rw [← List.append_assoc, ← List.flatMap_cons] at hfirst
    constructor <;> intro hhead
    · obtain ⟨tail, hwords⟩ := List.head?_eq_some_iff.1 hhead
      have hshort : first? sub.flags ("-h" :: tail) = some (.positional "-h", tail) := by
        have hflag : Arguments.flag? "-h" = none := by decide
        simp [first?, hflag]
      rw [hwords, hshort] at hfirst
      cases hfirst
      exact hhelp rfl
    · obtain ⟨tail, hwords⟩ := List.head?_eq_some_iff.1 hhead
      rw [hwords, first?_help] at hfirst
      cases hfirst

/-- The words after a `--` are positionals. A `send` whose positionals go on after the path of the
store and the target has them for its message. -/
theorem parse_send {pieces : List Piece} {words message : List String} {path target : String}
    (hfits : ∀ p ∈ pieces, p.Fits Subcommand.send.flags)
    (hhelp : pieces.head? ≠ some (.positional "-h"))
    (hpositionals : pieces.filterMap Piece.positional? ++ words = path :: target :: message)
    (hmessage : message ≠ []) :
    ∃ sender, Order.parse ("send" :: (pieces.flatMap Piece.words ++ "--" :: words)) =
      .ok (.run ⟨path, .send target sender (some (" ".intercalate message))⟩) := by
  obtain ⟨hshort, hlong⟩ := Piece.head?_words_ne words hfits hhelp
  have hbegins : BeginsWith Subcommand.send.flags (pieces.flatMap Piece.words ++ "--" :: words) pieces
      (ending (some words)) := ⟨rfl, hfits⟩
  have hsplit : Arguments.split "send" Subcommand.send.flags
      (pieces.flatMap Piece.words ++ "--" :: words) = .ok (gather pieces { positionals := words }) :=
    hbegins.split_eq_ok Subcommand.send.sound_flags
  rw [gather_positionals, hpositionals] at hsplit
  let args : Arguments :=
    { positionals := path :: target :: message
      values := pieces.filterMap Piece.value?
      switches := pieces.filterMap Piece.switch? }
  have htaken : (request .send).Yields args args.positionals
      ⟨path, .send target (args.value? "from") (some (" ".intercalate message))⟩ [] := by
    have hcommand : (command .send).Yields args (target :: message) _ [] :=
      yields_required.bind <| (yields_value rfl).bind <|
        (yields_message_words hmessage).bind (yields_pure _)
    exact yields_required.bind <| hcommand.bind <| yields_finish.bind (yields_pure _)
  refine ⟨args.value? "from", ?_⟩
  change Order.parse (Vocabulary.word Subcommand.send :: _) = _
  rw [Order.parse_cons hshort hlong, Subcommand.parse]
  change Except.map Order.run (Arguments.split "send" _ _ >>= _) = _
  rw [hsplit]
  change Except.map Order.run ((request .send).run' args) = _
  rw [htaken.run'_eq, Except.map]

end Switchboard.CommandLine
