import SerialDialogue.Pattern
import SerialDialogue.Proofs.Text.Trim

/-!
# What patterns are tested on

Which pattern a text in single quotes stands for, and what patterns of each kind look at.  What
comes behind a text or a line does not matter to a pattern that matches already, unless it is a
regular expression.
-/

namespace SerialDialogue

theorem Text.framing_concat (first last : Char) (inner : List Char) :
    framing (first :: (inner ++ [last])) =
      if first.toNat < 0x80 ∧ last.toNat < 0x80 then .framed first inner last else .bare := by
  cases inner with
  | nil => simp [framing]
  | cons c inner => simp [framing, List.getLast_cons, List.dropLast_cons_of_ne_nil]

theorem Text.framing_framed {first last : Char} (ascii : first.toNat < 0x80)
    (ascii' : last.toNat < 0x80) (inner : List Char) :
    framing (first :: (inner ++ [last])) = .framed first inner last := by
  rw [framing_concat, if_pos ⟨ascii, ascii'⟩]

/-- A line that goes on has the same beginning behind its blanks. -/
theorem Text.dropBlankEnds_prefix_concat (line : List Char) (c : Char) :
    dropBlankEnds line <+: dropBlankEnds (line ++ [c]) := by
  unfold dropBlankEnds dropBlankEnd dropBlankStart
  rw [List.dropWhile_append]
  by_cases nothing : line.dropWhile isBlank = []
  · rw [nothing]
    exact List.nil_prefix
  · rw [if_neg (by simpa using nothing)]
    by_cases blank : isBlank c
    · simp [dropEnd, blank]
    · have kept : dropEnd isBlank (line.dropWhile isBlank ++ [c]) =
          line.dropWhile isBlank ++ [c] := by
        simp [dropEnd, blank]
      rw [kept]
      exact (dropEnd_prefix_self _ _).trans (List.prefix_append _ [c])

namespace Pattern

/-- The pattern that looks for a text whatever the letter case. -/
def ofSubstring (text : String) : Pattern :=
  ⟨text, .substring (Text.lowercase text)⟩

theorem compile?_quoted (text : String) :
    compile? ("'" ++ text ++ "'") = .ok (ofSubstring text) := by
  have framed : Text.framing ("'" ++ text ++ "'").toList = .framed '\'' text.toList '\'' := by
    rw [String.toList_append, String.toList_append]
    exact Text.framing_framed (by decide) (by decide) text.toList
  rw [compile?, framed]
  simp [ofSubstring]

theorem matchesLowered_ofSubstring (text lowered line : String) :
    (ofSubstring text).matchesLowered lowered line = lowered.contains (Text.lowercase text) :=
  rfl

/-- A pattern of any kind may be given the lower-case form of the text: those that are no
substrings look at the line only. -/
theorem isMatch_eq_matchesLowered (pattern : Pattern) (received line : String) :
    pattern.isMatch received line = pattern.matchesLowered (Text.lowercase received) line := by
  unfold isMatch matchesLowered
  cases pattern.matcher with
  | substring needle => rfl
  | lineStart text => rfl
  | regex regex => rfl

theorem isMatch_of_ne_substring {pattern : Pattern} (other : pattern.kind ≠ .substring)
    (received lowered line : String) :
    pattern.isMatch received line = pattern.matchesLowered lowered line := by
  rw [isMatch_eq_matchesLowered]
  unfold kind at other
  unfold matchesLowered
  cases matcher : pattern.matcher with
  | substring needle => simp [matcher] at other
  | lineStart text => rfl
  | regex regex => rfl

/-- A substring is found in a longer text as well, whatever the line. -/
theorem matchesLowered_of_prefix {pattern : Pattern} (substring : pattern.kind = .substring)
    {lowered longer line line' : String} (further : lowered.toList <+: longer.toList)
    (matching : pattern.matchesLowered lowered line) : pattern.matchesLowered longer line' := by
  unfold kind at substring
  unfold matchesLowered at matching ⊢
  cases matcher : pattern.matcher with
  | substring needle =>
      simp only [matcher, String.contains_string_iff] at matching ⊢
      exact matching.trans further.isInfix
  | lineStart text => simp [matcher] at substring
  | regex regex => simp [matcher] at substring

/-- A line begins as it did when it goes on, blanks around it apart. -/
theorem matchesLowered_push {pattern : Pattern} (lineStart : pattern.kind = .lineStart)
    {lowered lowered' line : String} (c : Char) (matching : pattern.matchesLowered lowered line) :
    pattern.matchesLowered lowered' (line.push c) := by
  unfold kind at lineStart
  unfold matchesLowered at matching ⊢
  cases matcher : pattern.matcher with
  | substring needle => simp [matcher] at lineStart
  | lineStart text =>
      simp only [matcher, List.isPrefixOf_iff_prefix] at matching ⊢
      rw [String.toList_push]
      exact matching.trans (Text.dropBlankEnds_prefix_concat line.toList c)
  | regex regex => simp [matcher] at lineStart

theorem matchesLowered_iff_of_lineStart {pattern : Pattern} {text : String}
    (looksFor : pattern.matcher = .lineStart text) (lowered line : String) :
    pattern.matchesLowered lowered line = true ↔
      text.toList <+: Text.dropBlankEnds line.toList := by
  rw [matchesLowered, looksFor]
  exact List.isPrefixOf_iff_prefix

theorem matchesLine_iff_of_lineStart {pattern : Pattern} {text : String}
    (looksFor : pattern.matcher = .lineStart text) (line : String) :
    pattern.matchesLine line = true ↔ text.toList <+: Text.dropBlankEnds line.toList := by
  rw [matchesLine, isMatch_eq_matchesLowered]
  exact matchesLowered_iff_of_lineStart looksFor _ line

theorem matchesLine_iff_of_substring {pattern : Pattern} {needle : String}
    (looksFor : pattern.matcher = .substring needle) {line : String}
    (noSigma : 'Σ' ∉ line.toList) :
    pattern.matchesLine line = true ↔ needle.toList <:+: Text.lowerEach line.toList := by
  rw [matchesLine, isMatch_eq_matchesLowered, matchesLowered, looksFor]
  dsimp only
  rw [String.contains_string_iff, Text.lowercase_toList, Text.lowerBehind_eq_lowerEach noSigma]

end Pattern

end SerialDialogue
