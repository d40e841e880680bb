import SerialDialogue.Proofs.Pattern
import SerialDialogue.Proofs.Session.Cuts

/-!
# The lower-case form of a session

A session tests its patterns on a lower-case form of its text that is made character by
character and cut on its own.  Where that form is not the lower-case form of the text, some
pattern is found in the one and not in the other; this file says exactly where that is.
-/

namespace SerialDialogue

namespace Text

theorem not_hasFinalSigma_iff (text : List Char) :
    ¬ HasFinalSigma [] text ↔
      ∀ before behind, text = before ++ 'Σ' :: behind → ¬ endsWord before.reverse behind := by
  simp [HasFinalSigma]

theorem contains_self (s : String) : s.contains s = true :=
  String.contains_string_iff.2 List.infix_rfl

/-- Lowered texts in which the same lowered texts are found are equal: each of the two is found in
the other one. -/
theorem lowercase_eq_of_contains {first second : String}
    (alike : ∀ text, (lowercase first).contains (lowercase text) =
      (lowercase second).contains (lowercase text)) : lowercase first = lowercase second := by
  have inside := (alike first).symm.trans (contains_self _)
  have inside' := (alike second).trans (contains_self _)
  rw [String.contains_string_iff] at inside inside'
  exact String.toList_inj.1 (inside.eq_of_length_le inside'.length_le)

end Text

namespace Session

/-- The session finds in its text what the patterns find there. -/
def Faithful (session : Session) : Prop :=
  ∀ raw pattern, Pattern.compile? raw = .ok pattern →
    session.isMatch pattern = pattern.isMatch session.text session.line

/-- A session finds what the patterns find just in case its lower-case form is that of its
text. -/
theorem faithful_iff_lowered_eq {session : Session}
    (lower : ∀ c ∈ session.lowered.toList, Text.IsLower c) :
    session.Faithful ↔ session.lowered = Text.lowercase session.text := by
  constructor
  · intro faithful
    have alike : Text.lowercase session.lowered = Text.lowercase session.text := by
      refine Text.lowercase_eq_of_contains fun text => ?_
      have found := faithful _ _ (Pattern.compile?_quoted text)
      rw [Pattern.isMatch_eq_matchesLowered] at found
      rw [Text.lowercase_of_isLower lower]
      exact found
    rwa [Text.lowercase_of_isLower lower] at alike
  · intro same raw pattern _
    rw [Pattern.isMatch_eq_matchesLowered, isMatch, same]

theorem isMatch_ofSubstring_iff (session : Session) (text : String) :
    session.isMatch (.ofSubstring text) = true ↔
      (Text.lowercase text).toList <:+: session.lowered.toList := by
  rw [isMatch, Pattern.matchesLowered_ofSubstring, String.contains_string_iff]

/-- A session finds the texts that are in its text just in case both of its texts are in step. -/
theorem inStep_iff_forall {session : Session}
    (lower : ∀ c ∈ session.lowered.toList, Text.IsLower c) :
    session.InStep ↔ ∀ text, session.isMatch (.ofSubstring text) = true ↔
      (Text.lowercase text).toList <:+: Text.lowerEach session.text.toList := by
  constructor
  · intro inStep text
    rw [isMatch_ofSubstring_iff, inStep]
  · intro exactly
    let whole := String.ofList (Text.lowerEach session.text.toList)
    have lowerWhole : Text.lowercase whole = whole := Text.lowercase_of_isLower fun c member =>
      Text.isLower_of_mem_lowerEach (String.toList_ofList ▸ member)
    have alike : Text.lowercase session.lowered = Text.lowercase whole := by
      refine Text.lowercase_eq_of_contains fun text => Bool.eq_iff_iff.2 ?_
      rw [Text.lowercase_of_isLower lower, lowerWhole, String.contains_string_iff,
        String.contains_string_iff, ← isMatch_ofSubstring_iff, exactly, String.toList_ofList]
    rw [Text.lowercase_of_isLower lower, lowerWhole] at alike
    rw [InStep, alike, String.toList_ofList]

namespace Remembers

variable {session : Session} {stream : List Char} (remembers : session.Remembers stream)

include remembers

theorem isLower {c : Char} (member : c ∈ session.lowered.toList) : Text.IsLower c :=
  Text.isLower_of_mem_lowerEach (remembers.lowered.subset member)

theorem inStep_iff : session.InStep ↔
    Text.byteCount session.lowered.toList =
      Text.byteCount (Text.lowerEach session.text.toList) := by
  constructor
  · exact congrArg Text.byteCount
  · exact Text.eq_of_suffix_of_byteCount_eq remembers.lowered
      (Text.lowerEach_suffix remembers.text)

/-- The lower-case form of a session is that of its text where no capital sigma ends a word
of the text and both are in step. -/
theorem lowered_eq_iff : session.lowered = Text.lowercase session.text ↔
    ¬ Text.HasFinalSigma [] session.text.toList ∧ session.InStep := by
  rw [← Text.lowerBehind_eq_lowerEach_iff, ← String.toList_inj, Text.lowercase_toList]
  constructor
  · intro same
    have inStep : session.InStep := by
      rw [remembers.inStep_iff, same, Text.byteCount_lowerBehind]
    exact ⟨same.symm.trans inStep, inStep⟩
  · rintro ⟨alike, inStep⟩
    exact inStep.trans alike.symm

end Remembers

/-- Exactly when a session finds in its text what the patterns find there, whatever was done
to it: no capital sigma ends a word of the text, and the lower-case form that the session
keeps has the bytes of the lower-case forms of the characters.  It has them as long as the
text was never cut, and also where no character changes its size.  Patterns that are no
substrings are always found alike. -/
theorem isMatch_iff (operations : List Operation) :
    let session := after operations
    ((∀ raw pattern, Pattern.compile? raw = .ok pattern →
        session.isMatch pattern = pattern.isMatch session.text session.line) ↔
      (∀ before behind, session.text.toList = before ++ 'Σ' :: behind →
          ¬ Text.endsWord before.reverse behind) ∧
        session.lowered.utf8ByteSize =
          (String.ofList (Text.lowerEach session.text.toList)).utf8ByteSize) ∧
      (Text.byteCount (stream operations) ≤ limit ∨
          (∀ c ∈ stream operations, Text.KeepsSize c) →
        session.lowered.utf8ByteSize =
          (String.ofList (Text.lowerEach session.text.toList)).utf8ByteSize) ∧
      ∀ pattern : Pattern, pattern.kind ≠ .substring →
        session.isMatch pattern = pattern.isMatch session.text session.line := by
  intro session
  have remembers : session.Remembers (stream operations) := remembers_after operations
  rw [Text.utf8ByteSize_ofList, Text.utf8ByteSize_eq_byteCount, ← remembers.inStep_iff]
  refine ⟨?_, ?_, ?_⟩
  · refine (faithful_iff_lowered_eq fun c => remembers.isLower).trans ?_
    rw [remembers.lowered_eq_iff, Text.not_hasFinalSigma_iff]
  · rintro (fits | keeps)
    · exact inStep_of_byteCount_le fits
    · exact inStep_of_keepsSize keeps
  · intro pattern other
    exact (pattern.isMatch_of_ne_substring other _ _ _).symm

/-- A word of two Greek capitals is not found by its own lower-case form. -/
theorem isMatch_final_sigma_ne :
    ∃ pattern, Pattern.compile? "'ας'" = .ok pattern ∧
      (after [.push 'Α', .push 'Σ']).isMatch pattern = false ∧
      pattern.isMatch (after [.push 'Α', .push 'Σ']).text (after [.push 'Α', .push 'Σ']).line =
        true := by
  have text : (after [.push 'Α', .push 'Σ']).text = "ΑΣ" := rfl
  have lowered : (after [.push 'Α', .push 'Σ']).lowered = "ασ" := rfl
  have needle : Text.lowercase "ας" = "ας" := by
    rw [← String.toList_inj, Text.lowercase_toList]
    decide +kernel
  have whole : Text.lowercase "ΑΣ" = "ας" := by
    rw [← String.toList_inj, Text.lowercase_toList]
    decide +kernel
  refine ⟨.ofSubstring "ας", Pattern.compile?_quoted "ας", ?_, ?_⟩
  · rw [isMatch, Pattern.matchesLowered_ofSubstring, lowered, needle,
      String.contains_string_eq_false_iff]
    intro found
    have same : "ας".toList = "ασ".toList := found.eq_of_length (by decide)
    exact absurd same (by decide)
  · rw [Pattern.isMatch_eq_matchesLowered, Pattern.matchesLowered_ofSubstring, text, whole,
      needle]
    exact Text.contains_self "ας"

/-! ## The lower-case form behind cuts -/

/-- How the lower-case form of a session lies to its text, whatever was done to it.  Each of the two
is what the last cut left of the characters before it, and what has come in since.  They are in step
exactly where the lower-case form of what that cut left of the text fits in what a cut leaves and
would not with one more character; so they are as long as the text was never cut, and also where no
character changes its size.  And exactly where they are in step the session finds every text that is
in its text, and no other one. -/
theorem lowered_of_last_cut (operations : List Operation) :
    let session := after operations
    (∃ front rest, stream operations = front ++ rest ∧
      (front = [] ∨ limit < Text.byteCount front) ∧
      session.text.toList = Text.recentChars (limit / 2) front ++ rest ∧
      session.lowered.toList =
        Text.recentChars (limit / 2) (Text.lowerEach front) ++ Text.lowerEach rest ∧
      let kept := Text.lowerEach (Text.recentChars (limit / 2) front)
      (session.InStep ↔ Text.byteCount kept ≤ limit / 2 ∧
        ∀ c, c :: kept <:+ Text.lowerEach front → limit / 2 < Text.byteCount (c :: kept))) ∧
    (Text.byteCount (stream operations) ≤ limit ∨
        (∀ c ∈ stream operations, Text.KeepsSize c) → session.InStep) ∧
    (session.InStep ↔ ∀ text, session.isMatch (.ofSubstring text) = true ↔
      (Text.lowercase text).toList <:+: Text.lowerEach session.text.toList) := by
  intro session
  have remembers : session.Remembers (stream operations) := remembers_after operations
  obtain ⟨front, rest, whole, cut⟩ := exists_cutBehind operations
  refine ⟨⟨front, rest, whole, cut.exceeds, cut.text, cut.lowered, cut.inStep_iff_full⟩, ?_, ?_⟩
  · rintro (fits | keeps)
    · exact inStep_of_byteCount_le fits
    · exact inStep_of_keepsSize keeps
  · exact inStep_iff_forall fun c => remembers.isLower

/-- The Kelvin sign has three bytes and its lower-case form has one.  Of so many of them a cut
leaves half, but the whole lower-case form, in which more of them are found than are left. -/
theorem not_inStep_kelvin :
    let session := after (List.map .push (List.replicate 3334 '\u212a'))
    ¬ session.InStep ∧ session.text.toList = List.replicate 1666 '\u212a' ∧
      session.lowered.toList = List.replicate 3334 'k' ∧
      session.isMatch (.ofSubstring (String.ofList (List.replicate 1667 'k'))) = true := by
  intro session
  obtain ⟨front, rest, whole, cut⟩ :=
    exists_cutBehind (List.map .push (List.replicate 3334 '\u212a'))
  rw [stream_map_push, eq_comm, List.append_eq_replicate_iff] at whole
  obtain ⟨total, kelvins, others⟩ := whole
  have width : '\u212a'.utf8Size = 3 := by decide
  have lower : Text.lowerChar '\u212a' = ['k'] := by decide +kernel
  have narrow : 'k'.utf8Size = 1 := by decide
  -- Only the last of the characters does not fit, and nothing has come in behind it.
  have cutLast : front.length = 3334 ∧ rest = [] := by
    rcases cut.exceeds with uncut | exceeds
    · have fits := cut.fits
      rw [cut.text, Text.byteCount_append, others, Text.byteCount_replicate, width] at fits
      rw [uncut, List.length_nil] at total
      simp only [limit] at fits
      omega
    · rw [kelvins, Text.byteCount_replicate, width] at exceeds
      simp only [limit] at exceeds
      exact ⟨by omega, List.length_eq_zero_iff.1 (by omega)⟩
  have text : session.text.toList = List.replicate 1666 '\u212a' := by
    rw [cut.text, kelvins, cutLast.1, cutLast.2, List.append_nil, Text.recentChars_replicate, width]
    rfl
  have lowered : session.lowered.toList = List.replicate 3334 'k' := by
    rw [cut.lowered, kelvins, cutLast.1, cutLast.2, Text.lowerEach_replicate lower,
      Text.recentChars_replicate, narrow, Text.lowerEach_nil, List.append_nil]
    rfl
  refine ⟨fun inStep => ?_, text, lowered, ?_⟩
  · have same := congrArg List.length inStep
    rw [text, lowered, Text.lowerEach_replicate lower, List.length_replicate,
      List.length_replicate] at same
    exact absurd same (by decide)
  · have itself (c : Char) (member : c ∈ List.replicate 1667 'k') : Text.IsLower c := by
      rw [List.eq_of_mem_replicate member]
      decide +kernel
    rw [isMatch_ofSubstring_iff, lowered,
      Text.lowercase_of_isLower (String.toList_ofList ▸ itself), String.toList_ofList]
    refine List.infix_replicate_iff.2 ⟨?_, by rw [List.length_replicate]⟩
    rw [List.length_replicate]
    decide

end Session

end SerialDialogue
