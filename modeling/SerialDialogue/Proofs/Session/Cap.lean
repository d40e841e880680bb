import SerialDialogue.Proofs.Pattern
import SerialDialogue.Proofs.Session.Cuts
import SerialDialogue.Proofs.Session.FirstMatch

/-!
# The cap of a session

The texts that a session remembers are cut when they grow too long.  What is cut off the
lower-case form is never needed: a text that is looked for is found as soon as it has come in,
and it lies at the very end of the form then, where nothing is cut.
-/

namespace SerialDialogue

namespace Text

/-! ## The newest occurrence -/

/-- What occurs with the last characters and did not occur without them ends among them. -/
theorem exists_suffix_of_infix_append {needle front last : List Char}
    (occurs : needle <:+: front ++ last) (newly : ¬ needle <:+: front) :
    ∃ tail, needle ++ tail <:+ front ++ last ∧ tail <:+ last ∧ tail ≠ last := by
  obtain ⟨before, tail, split⟩ := occurs
  rcases List.append_eq_append_iff.1 split with ⟨middle, inFront, -⟩ | ⟨middle, behind, inLast⟩
  · exact absurd ⟨before, middle, inFront.symm⟩ newly
  · refine ⟨tail, ⟨before, ?_⟩, ⟨middle, inLast.symm⟩, ?_⟩
    · rw [← split, List.append_assoc]
    · rintro rfl
      have nothing : middle = [] := by simpa using inLast
      rw [nothing, List.append_nil] at behind
      exact newly ⟨before, [], (List.append_nil _).trans behind⟩

/-- Behind the first character of a lower-case form there are at most two bytes. -/
theorem byteCount_tail_lowerChar {c : Char} {tail : List Char} (suffix : tail <:+ lowerChar c)
    (proper : tail ≠ lowerChar c) : byteCount tail ≤ 2 := by
  rcases lowerChar_eq_or c with ⟨d, single⟩ | double
  · rw [single] at suffix proper
    rcases List.suffix_cons_iff.1 suffix with whole | nothing
    · exact absurd whole proper
    · rw [List.suffix_nil.1 nothing]
      exact Nat.zero_le _
  · rw [double] at suffix proper
    have accent : byteCount [Char.ofNat 0x307] = 2 := by decide
    rcases List.suffix_cons_iff.1 suffix with whole | behind
    · exact absurd whole proper
    · rcases List.suffix_cons_iff.1 behind with rfl | nothing
      · exact Nat.le_of_eq accent
      · rw [List.suffix_nil.1 nothing]
        exact Nat.zero_le _

/-- What a character completes lies at the end, up to two bytes. -/
theorem exists_suffix_of_completed {needle front : List Char} {c : Char}
    (occurs : needle <:+: lowerEach (front ++ [c])) (newly : ¬ needle <:+: lowerEach front) :
    ∃ tail, needle ++ tail <:+ lowerEach (front ++ [c]) ∧
      byteCount (needle ++ tail) ≤ byteCount needle + 2 := by
  have split : lowerEach (front ++ [c]) = lowerEach front ++ lowerChar c := by simp
  rw [split] at occurs ⊢
  obtain ⟨tail, suffix, within, proper⟩ := exists_suffix_of_infix_append occurs newly
  refine ⟨tail, suffix, ?_⟩
  have := byteCount_tail_lowerChar within proper
  rw [byteCount_append]
  omega

end Text

namespace Session

/-- The lower-case form of the session is that of all its stream, or it is nearly half as long
as the text may become. -/
def KeepsEnough (session : Session) (stream : List Char) : Prop :=
  session.lowered.toList = Text.lowerEach stream ∨
    limit / 2 ≤ Text.byteCount session.lowered.toList + 3

theorem CutBehind.keepsEnough {session : Session} {front rest : List Char}
    (cut : session.CutBehind front rest) : session.KeepsEnough (front ++ rest) := by
  unfold KeepsEnough
  rw [cut.lowered, Text.byteCount_append, Text.lowerEach_append]
  rcases Text.recentChars_eq_or_le (limit / 2) (Text.lowerEach front) with uncut | long
  · exact .inl (by rw [uncut])
  · exact .inr (Nat.le_trans long (by omega))

theorem CutBehind.keepsEnough_pushAll {session : Session} {front rest : List Char}
    (cut : session.CutBehind front rest) (text : List Char) :
    (session.pushAll text).KeepsEnough (front ++ rest ++ text) := by
  induction text generalizing session front rest with
  | nil =>
      rw [List.append_nil]
      exact cut.keepsEnough
  | cons c text ih =>
      obtain ⟨front', rest', whole, further⟩ := cut.exists_push c
      have behind := ih further
      rwa [whole, List.append_assoc _ [c]] at behind

theorem remembers_forgetText (session : Session) : session.forgetText.Remembers [] :=
  ⟨List.suffix_refl [], List.suffix_refl []⟩

theorem matchesBehind_iff {session : Session} {pattern : Pattern} {needle : String}
    (looksFor : pattern.matcher = .substring needle) (taken : List Char) :
    session.MatchesBehind pattern taken ↔
      needle.toList <:+: (session.pushAll taken).lowered.toList := by
  rw [MatchesBehind, isMatch, Pattern.matchesLowered, looksFor]
  exact String.contains_string_iff

/-- The longest text, in bytes, that is surely found. -/
def longestNeedle : Nat := 4990

section Needle

variable (session : Session) {pattern : Pattern} {needle : String}
  (looksFor : pattern.matcher = .substring needle)

include looksFor

theorem infix_of_matchesBehind {taken : List Char}
    (matching : session.forgetText.MatchesBehind pattern taken) :
    needle.toList <:+: Text.lowerEach taken := by
  have remembers := session.remembers_forgetText.pushAll taken
  exact ((matchesBehind_iff looksFor taken).1 matching).trans remembers.lowered.isInfix

theorem matchesBehind_of_shortest (short : needle.utf8ByteSize ≤ longestNeedle)
    {taken : List Char}
    (shortest : Shortest (fun taken => needle.toList <:+: Text.lowerEach taken) taken) :
    session.forgetText.MatchesBehind pattern taken := by
  rw [matchesBehind_iff looksFor]
  have remembers := session.remembers_forgetText.pushAll taken
  have start : session.forgetText.CutBehind [] [] := cutBehind_nil rfl rfl
  have enough : (session.forgetText.pushAll taken).KeepsEnough taken :=
    start.keepsEnough_pushAll taken
  rcases enough with whole | long
  · rw [whole]
    exact shortest.2.1
  · rcases List.eq_nil_or_concat taken with rfl | ⟨front, c, split⟩
    · exact absurd rfl shortest.1
    · obtain rfl : taken = front ++ [c] := split.trans List.concat_eq_append
      by_cases nothing : needle.toList = []
      · rw [nothing]
        exact List.nil_infix
      · have newly : ¬ needle.toList <:+: Text.lowerEach front := by
          intro sooner
          have nonempty : front ≠ [] := by
            rintro rfl
            exact nothing (List.infix_nil.1 sooner)
          have same := shortest.2.2 front (List.prefix_append _ _) nonempty sooner
          simp at same
        obtain ⟨tail, suffix, size⟩ := Text.exists_suffix_of_completed shortest.2.1 newly
        -- The occurrence and what follows it fit into what is kept.
        have fits : Text.byteCount (needle.toList ++ tail) ≤
            Text.byteCount (session.forgetText.pushAll (front ++ [c])).lowered.toList := by
          rw [Text.utf8ByteSize_eq_byteCount, longestNeedle] at short
          simp only [limit] at long
          omega
        have kept := Text.suffix_of_byteCount_le suffix remembers.lowered fits
        exact (List.prefix_append needle.toList tail).isInfix.trans kept.isInfix

/-- A text is found with the character that completes it. -/
theorem shortest_matchesBehind_iff (short : needle.utf8ByteSize ≤ longestNeedle)
    (taken : List Char) :
    Shortest (session.forgetText.MatchesBehind pattern) taken ↔
      Shortest (fun taken => needle.toList <:+: Text.lowerEach taken) taken :=
  Shortest.iff_of_imp (fun _ => session.infix_of_matchesBehind looksFor)
    (fun _ => session.matchesBehind_of_shortest looksFor short)

end Needle

/-- The cap never hides a match.  Since the text was forgotten, a substring is found for the
first time with the first characters whose lower-case forms, which nothing was cut from,
contain it; where there are none it is never found.  Taking characters for the pattern stops
there, or nowhere. -/
theorem first_match_iff (session : Session) {pattern : Pattern} {needle : String}
    (looksFor : pattern.matcher = .substring needle)
    (short : needle.utf8ByteSize ≤ longestNeedle) (text : List Char) :
    let start := session.forgetText
    let found (taken : List Char) : Prop := needle.toList <:+: Text.lowerEach taken
    let outcome := start.take (.found (.ofLine pattern start.line)) text
    (∀ taken, taken <+: text →
      (Shortest (fun taken => (start.pushAll taken).isMatch pattern = true) taken ↔
        Shortest found taken)) ∧
      ((∀ taken, taken <+: text → taken ≠ [] → ¬ found taken) →
        ∀ taken, taken <+: text → (start.pushAll taken).isMatch pattern = true → taken = []) ∧
      (outcome.goal = none → Shortest found (text.take outcome.count)) ∧
      (outcome.goal ≠ none → ∀ taken, taken <+: text → taken ≠ [] → ¬ found taken) := by
  intro start found outcome
  have alike := session.shortest_matchesBehind_iff looksFor short
  obtain ⟨taken, split, counted, -, sought⟩ := start.exists_take_found pattern text
  refine ⟨fun taken _ => alike taken, fun noneFound taken early matching => ?_, fun reached => ?_,
    fun left => ?_⟩
  · exact Classical.byContradiction fun nonempty =>
      noneFound taken early nonempty (session.infix_of_matchesBehind looksFor matching)
  · rw [counted]
    exact (alike taken).1 (sought.reached reached)
  · obtain ⟨-, nothing, unmatched⟩ := sought.left left
    obtain rfl : text = taken := by rw [split, nothing, List.append_nil]
    intro earlier early nonempty occurs
    obtain ⟨first, within, shortest⟩ := @Shortest.exists_of_test found _ nonempty occurs
    exact unmatched first (within.trans early) shortest.1 ((alike first).2 shortest).2.1

/-- A fresh session finds a word with its last letter. -/
theorem first_match_ok :
    (Pattern.ofSubstring "OK").matcher = .substring (Text.lowercase "OK") ∧
      (Text.lowercase "OK").utf8ByteSize ≤ longestNeedle ∧
        Shortest (fun taken => ((forgetText {}).pushAll taken).isMatch (.ofSubstring "OK") = true)
          ['O', 'K'] := by
  have lowered : Text.lowercase "OK" = "ok" := by
    rw [← String.toList_inj, Text.lowercase_toList]
    decide +kernel
  have short : (Text.lowercase "OK").utf8ByteSize ≤ longestNeedle := by
    rw [lowered]
    decide
  refine ⟨rfl, short, ((first_match_iff {} rfl short ['O', 'K']).1 _ List.prefix_rfl).2 ?_⟩
  rw [lowered]
  refine ⟨by decide, ⟨[], [], by decide +kernel⟩, fun earlier early _ occurs => ?_⟩
  match earlier, early, occurs with
  | [], _, occurs => exact absurd (List.infix_nil.1 occurs) (by decide)
  | [c], early, occurs =>
      obtain ⟨rfl, -⟩ := List.cons_prefix_cons.1 early
      exact absurd occurs.length_le (by decide +kernel)
  | c :: d :: rest, early, _ => exact early.eq_of_length_le (by simp)

end Session

end SerialDialogue
