import SerialDialogue.Proofs.Rehearsal
import SerialDialogue.Proofs.Script.Reading

/-!
# Live and line by line

A device sends lines, each with a newline behind it.  A live session tests its pattern after every
character, on a line that is not complete yet or on everything that came before it; a replay tests
whole lines.  Both find the same line.  A line that goes on keeps its beginning, so that a prefix
is found in a part of the line only where it is found in the line; and a text without newlines
occurs within one line.
-/

namespace SerialDialogue

/-! ## Occurrences in lines -/

namespace Text

theorem dropBlankEnds_prefix_append (line more : List Char) :
    dropBlankEnds line <+: dropBlankEnds (line ++ more) := by
  induction more generalizing line with
  | nil => simp
  | cons c more ih =>
      have later := ih (line ++ [c])
      rw [← List.append_cons] at later
      exact (dropBlankEnds_prefix_concat line c).trans later

/-- What holds no mark occurs on one side of it. -/
theorem infix_or_infix_of_marked {mark : Char} {needle front behind : List Char}
    (unmarked : mark ∉ needle) (occurs : needle <:+: front ++ mark :: behind) :
    needle <:+: front ∨ needle <:+: behind := by
  rcases List.infix_append_iff.1 occurs with
    inFront | fromMark | ⟨first, second, split, ends, starts⟩
  · exact .inl inFront
  · rcases List.infix_cons_iff.1 fromMark with starts | inBehind
    · rcases List.prefix_cons_iff.1 starts with nothing | ⟨rest, withMark, -⟩
      · exact .inl (nothing ▸ List.nil_infix)
      · exact absurd (withMark ▸ List.mem_cons_self) unmarked
    · exact .inr inBehind
  · rcases List.prefix_cons_iff.1 starts with nothing | ⟨rest, withMark, -⟩
    · rw [nothing, List.append_nil] at split
      exact .inl (split ▸ ends.isInfix)
    · have inside : mark ∈ needle := by simp [split, withMark]
      exact absurd inside unmarked

theorem exists_infix_of_infix_marked {mark : Char} {needle : List Char}
    (unmarked : mark ∉ needle) (nonempty : needle ≠ []) {pieces : List (List Char)}
    (occurs : needle <:+: marked mark pieces) : ∃ piece ∈ pieces, needle <:+: piece := by
  induction pieces with
  | nil => exact absurd (List.infix_nil.1 occurs) nonempty
  | cons piece later ih =>
      rw [marked_cons] at occurs
      rcases infix_or_infix_of_marked unmarked occurs with here | behind
      · exact ⟨piece, List.mem_cons_self, here⟩
      · obtain ⟨other, member, there⟩ := ih behind
        exact ⟨other, List.mem_cons_of_mem piece member, there⟩

/-! ## Newlines in lower case -/

theorem lowerChar_newline : lowerChar '\n' = ['\n'] := by
  decide +kernel

theorem lowerEach_marked (pieces : List (List Char)) :
    lowerEach (marked '\n' pieces) = marked '\n' (pieces.map lowerEach) := by
  induction pieces with
  | nil => rfl
  | cons piece later ih => simp [ih, lowerChar_newline]

theorem newline_lt_target : ∀ run ∈ lowercaseRuns, '\n'.toNat < run.target := by
  decide +kernel

theorem toLower_ne_newline : ∀ n < 0x80, n ≠ '\n'.toNat → (Char.ofNat n).toLower ≠ '\n' := by
  decide +kernel

theorem eq_newline_of_mem_lowerChar {c : Char} (member : '\n' ∈ lowerChar c) : c = '\n' := by
  apply Classical.byContradiction
  intro other
  unfold lowerChar at member
  split at member
  · rename_i ascii
    have number : c.toNat ≠ '\n'.toNat := fun same => other (Char.toNat_inj.1 same)
    have kept := toLower_ne_newline c.toNat ascii number
    rw [Char.ofNat_toNat] at kept
    exact kept (List.mem_singleton.1 member).symm
  · split at member
    · revert member
      decide
    · split at member
      · rename_i run found
        have among := List.mem_of_find?_eq_some found
        have covers := List.find?_some found
        have lower := congrArg Char.toNat (List.mem_singleton.1 member)
        rw [toNat_ofNat_lower among covers, CaseRun.lower] at lower
        have := newline_lt_target run among
        omega
      · exact other (List.mem_singleton.1 member).symm

theorem newline_not_mem_lowerBehind {text : List Char} (inLine : '\n' ∉ text)
    (before : List Char) : '\n' ∉ lowerBehind before text := by
  induction text generalizing before with
  | nil => exact List.not_mem_nil
  | cons c rest ih =>
      obtain ⟨other, inLine⟩ := not_or.1 (mt List.mem_cons.2 inLine)
      rw [lowerBehind_cons, List.mem_append]
      rintro (here | behind)
      · split at here
        · simp at here
        · exact other (eq_newline_of_mem_lowerChar here).symm
      · exact ih inLine (c :: before) behind

end Text

/-! ## Patterns of scripts -/

/-- The pattern is that of an expect in a script. -/
def Pattern.Scripted (pattern : Pattern) : Prop :=
  ∃ body steps raw, Script.parse? body = .ok steps ∧ Step.expect raw pattern ∈ steps

/-- A pattern of a script is written on one line. -/
theorem Pattern.Scripted.exists_compile? {pattern : Pattern} (scripted : pattern.Scripted) :
    ∃ raw, '\n' ∉ raw.toList ∧ compile? raw = .ok pattern := by
  obtain ⟨body, steps, raw, parsed, member⟩ := scripted
  obtain ⟨line, among, -, accepts⟩ := Script.exists_line_of_mem parsed member
  obtain ⟨words, -, compiled⟩ := Script.accepts_iff.1 accepts
  have inLine : '\n' ∉ line := Script.newline_not_mem_of_mem_trimmed among
  exact ⟨raw, fun inside => inLine (words.argument_suffix.subset inside), compiled⟩

theorem Pattern.newline_not_mem_needle {raw : String} {pattern : Pattern} {needle : String}
    (compiled : compile? raw = .ok pattern) (inLine : '\n' ∉ raw.toList)
    (looksFor : pattern.matcher = .substring needle) : '\n' ∉ needle.toList := by
  rw [compile?] at compiled
  split at compiled
  · cases compiled
  · cases compiled
  · rename_i first inner last framed
    have whole := Text.eq_of_framing framed
    have inLine' : '\n' ∉ inner := fun inside => inLine (by simp [whole, inside])
    dsimp only at compiled
    split at compiled
    · cases compiled
      obtain rfl := Matcher.substring.inj looksFor
      rw [Text.lowercase_toList, String.toList_ofList]
      exact Text.newline_not_mem_lowerBehind inLine' []
    · split at compiled
      · cases compiled
        cases looksFor
      · split at compiled
        · split at compiled
          · cases compiled
            cases looksFor
          · cases compiled
        · cases compiled

/-! ## The line of a character -/

theorem prefix_marked_of_part (front later : List String) {line : String} {part : List Char}
    (within : part <+: line.toList ++ ['\n']) :
    Text.marked '\n' (front.map String.toList) ++ part <+:
      Text.marked '\n' ((front ++ line :: later).map String.toList) := by
  rw [List.map_append, List.map_cons, Text.marked_append, Text.marked_cons, List.append_cons]
  apply (List.prefix_append_right_inj _).2
  exact within.trans (List.prefix_append _ _)

/-- The last of the characters is in the line of this number, or is the newline behind it. -/
def ReadsLine (lines : List String) (index : Nat) (taken : List Char) : Prop :=
  ∃ front line later part, lines = front ++ line :: later ∧ front.length = index ∧
    taken = Text.marked '\n' (front.map String.toList) ++ part ∧ part ≠ [] ∧
      part <+: line.toList ++ ['\n']

theorem exists_readsLine {lines : List String} {taken : List Char}
    (early : taken <+: Text.marked '\n' (lines.map String.toList)) (nonempty : taken ≠ []) :
    ∃ index, ReadsLine lines index taken := by
  induction lines generalizing taken with
  | nil => exact absurd (List.prefix_nil.1 early) nonempty
  | cons line later ih =>
      rw [List.map_cons, Text.marked_cons, List.append_cons] at early
      rcases List.prefix_or_prefix_of_prefix early (List.prefix_append _ _) with within | beyond
      · exact ⟨0, [], line, later, taken, rfl, rfl, rfl, nonempty, within⟩
      · obtain ⟨behind, rfl⟩ := beyond
        by_cases nothing : behind = []
        · rw [nothing, List.append_nil] at nonempty ⊢
          exact ⟨0, [], line, later, _, rfl, rfl, rfl, nonempty, List.prefix_rfl⟩
        · have early' := (List.prefix_append_right_inj _).1 early
          obtain ⟨index, front, last, more, part, split, count, rfl, nonempty', within⟩ :=
            ih early' nothing
          refine ⟨index + 1, line :: front, last, more, part, congrArg (line :: ·) split,
            congrArg (· + 1) count, ?_, nonempty', within⟩
          simp

theorem matchesAt_iff_exists_append {pattern : Pattern} {lines : List String} {index : Nat} :
    pattern.MatchesAt lines index ↔ ∃ front hit later, lines = front ++ hit :: later ∧
      front.length = index ∧ pattern.matchesLine hit = true := by
  constructor
  · rintro ⟨hit, here, found⟩
    obtain ⟨bound, same⟩ := List.getElem?_eq_some_iff.1 here
    refine ⟨lines.take index, hit, lines.drop (index + 1), ?_, ?_, found⟩
    · rw [← same, List.getElem_cons_drop, List.take_append_drop]
    · rw [List.length_take]
      omega
  · rintro ⟨front, hit, later, rfl, rfl, found⟩
    exact ⟨hit, by simp, found⟩

/-! ## Patterns that are found by the line -/

/-- A test that passes first where the pattern matches first, and passes behind whole lines
and some characters of the next one only where one of these lines matches. -/
structure FoundByLine (pattern : Pattern) (lines : List String) (found : List Char → Prop) :
    Prop where
  first : ∀ taken, Shortest (Session.MatchesBehind {} pattern) taken ↔ Shortest found taken
  reached : ∀ front hit later, lines = front ++ hit :: later → pattern.matchesLine hit = true →
    ∃ part, part ≠ [] ∧ part <+: hit.toList ++ ['\n'] ∧
      found (Text.marked '\n' (front.map String.toList) ++ part)
  within : ∀ front hit later part, lines = front ++ hit :: later → part ≠ [] →
    part <+: hit.toList ++ ['\n'] → found (Text.marked '\n' (front.map String.toList) ++ part) →
      ∃ line ∈ front ++ [hit], pattern.matchesLine line = true

namespace FoundByLine

variable {pattern : Pattern} {lines : List String} {found : List Char → Prop}
  (byLine : FoundByLine pattern lines found)

include byLine

theorem firstAt {index : Nat} {taken : List Char}
    (shortest : Shortest (Session.MatchesBehind {} pattern) taken)
    (reads : ReadsLine lines index taken) : pattern.FirstAt lines 0 index := by
  obtain ⟨front, line, later, part, rfl, rfl, rfl, nonempty, within⟩ := reads
  have shortest' := (byLine.first _).1 shortest
  have noneBefore : ∀ hit ∈ front, pattern.matchesLine hit = false := by
    intro hit member
    apply Bool.eq_false_iff.2
    intro matching
    obtain ⟨before, between, rfl⟩ := List.append_of_mem member
    obtain ⟨part', nonempty', within', passes⟩ := byLine.reached before hit
      (between ++ line :: later) (by simp) matching
    -- The characters that pass in the earlier line are fewer, and come first.
    have early := prefix_marked_of_part before between within'
    have same := shortest'.2.2 _ (early.trans (List.prefix_append _ part))
      (List.append_ne_nil_of_right_ne_nil _ nonempty') passes
    have longer := congrArg List.length same
    have short := early.length_le
    have := List.length_pos_iff.2 nonempty
    rw [List.length_append] at longer
    simp only [List.length_append] at longer short
    omega
  obtain ⟨hit, member, matching⟩ := byLine.within front line later part rfl nonempty within
    shortest'.2.1
  refine ⟨Nat.zero_le _, matchesAt_iff_exists_append.2 ⟨front, line, later, rfl, rfl, ?_⟩,
    fun other _ there => ?_⟩
  · rcases List.mem_append.1 member with inFront | here
    · simp [noneBefore hit inFront] at matching
    · exact List.mem_singleton.1 here ▸ matching
  · apply Nat.le_of_not_lt
    intro before
    obtain ⟨hit, hitAt, matching⟩ := there
    rw [List.getElem?_append_left before] at hitAt
    simp [noneBefore hit (List.mem_of_getElem? hitAt)] at matching

theorem exists_shortest {index : Nat} (matchesAt : pattern.MatchesAt lines index) :
    ∃ taken, taken <+: Text.marked '\n' (lines.map String.toList) ∧
      Shortest (Session.MatchesBehind {} pattern) taken := by
  obtain ⟨front, hit, later, rfl, -, matching⟩ := matchesAt_iff_exists_append.1 matchesAt
  obtain ⟨part, nonempty, within, passes⟩ := byLine.reached front hit later rfl matching
  obtain ⟨taken, early, shortest⟩ :=
    Shortest.exists_of_test (List.append_ne_nil_of_right_ne_nil _ nonempty) passes
  exact ⟨taken, early.trans (prefix_marked_of_part front later within),
    (byLine.first taken).2 shortest⟩

end FoundByLine

/-- The line in progress is a part of the line, or nothing behind its newline. -/
theorem Session.line_pushAll_part (front : List String) {line : String} {part : List Char}
    (inLine : '\n' ∉ line.toList) (within : part <+: line.toList ++ ['\n']) :
    (pushAll {} (Text.marked '\n' (front.map String.toList) ++ part)).line.toList <+:
      line.toList := by
  let pieces := front.map String.toList
  rcases List.prefix_concat_iff.1 within with whole | partly
  · have marked : Text.marked '\n' pieces ++ part = Text.marked '\n' (pieces ++ [line.toList]) := by
      rw [whole, Text.marked_append]
      simp
    have fresh : (pushAll {} (Text.marked '\n' (pieces ++ [line.toList]) ++ [])).line =
        String.ofList [] :=
      line_pushAll_marked rfl _ List.suffix_rfl List.not_mem_nil
    rw [List.append_nil, ← marked] at fresh
    rw [fresh]
    exact List.nil_prefix
  · have inPart : '\n' ∉ part := fun inside => inLine (partly.subset inside)
    rw [line_pushAll_marked rfl pieces List.suffix_rfl inPart, String.toList_ofList]
    exact partly

theorem foundByLine_of_lineStart {pattern : Pattern} {text : String}
    (looksFor : pattern.matcher = .lineStart text) {lines : List String}
    (inLines : ∀ line ∈ lines, '\n' ∉ line.toList) :
    FoundByLine pattern lines (Session.MatchesBehind {} pattern) := by
  have found (taken : List Char) : Session.MatchesBehind {} pattern taken ↔
      text.toList <+: Text.dropBlankEnds (Session.pushAll {} taken).line.toList :=
    Pattern.matchesLowered_iff_of_lineStart looksFor _ _
  refine ⟨fun _ => Iff.rfl, fun front hit later split matching => ?_,
    fun front hit later part split _ within passes => ?_⟩
  · have inLine : '\n' ∉ hit.toList := inLines hit (by simp [split])
    have starts := (Pattern.matchesLine_iff_of_lineStart looksFor hit).1 matching
    by_cases nothing : hit.toList = []
    · -- An empty line is complete with its newline, and the next one is empty as well.
      refine ⟨['\n'], List.cons_ne_nil _ _, by rw [nothing]; exact List.prefix_rfl, ?_⟩
      rw [nothing] at starts
      rw [found, List.prefix_nil.1 starts]
      exact List.nil_prefix
    · refine ⟨hit.toList, nothing, List.prefix_append _ _, ?_⟩
      rw [found, Session.line_pushAll_marked rfl _ List.suffix_rfl inLine, String.toList_ofList]
      exact starts
  · have inLine : '\n' ∉ hit.toList := inLines hit (by simp [split])
    have starts := (found _).1 passes
    obtain ⟨more, whole⟩ := Session.line_pushAll_part front inLine within
    refine ⟨hit, List.mem_append_right _ List.mem_cons_self, ?_⟩
    rw [Pattern.matchesLine_iff_of_lineStart looksFor, ← whole]
    exact starts.trans (Text.dropBlankEnds_prefix_append _ more)

theorem foundByLine_of_substring {pattern : Pattern} {needle : String}
    (looksFor : pattern.matcher = .substring needle) (short : pattern.IsShort)
    (inLine : '\n' ∉ needle.toList) {lines : List String}
    (noSigma : ∀ line ∈ lines, 'Σ' ∉ line.toList) :
    FoundByLine pattern lines fun taken => needle.toList <:+: Text.lowerEach taken := by
  refine ⟨Session.shortest_matchesBehind_iff {} looksFor (short needle looksFor),
    fun front hit later split matching => ?_, fun front hit later part split _ within occurs => ?_⟩
  · have occurs := (Pattern.matchesLine_iff_of_substring looksFor
      (noSigma hit (by simp [split]))).1 matching
    refine ⟨hit.toList ++ ['\n'], List.concat_ne_nil _ _, List.prefix_rfl, ?_⟩
    rw [Text.lowerEach_append, Text.lowerEach_append]
    exact occurs.trans ((List.prefix_append _ _).isInfix.trans (List.suffix_append _ _).isInfix)
  · by_cases nothing : needle.toList = []
    · have everywhere : needle.toList <:+: Text.lowerEach hit.toList := by
        rw [nothing]
        exact List.nil_infix
      exact ⟨hit, List.mem_append_right _ List.mem_cons_self,
        (Pattern.matchesLine_iff_of_substring looksFor (noSigma hit (by simp [split]))).2
          everywhere⟩
    · obtain ⟨more, whole⟩ := prefix_marked_of_part front [] within
      have occurs' : needle.toList <:+:
          Text.marked '\n' (((front ++ [hit]).map String.toList).map Text.lowerEach) := by
        rw [← Text.lowerEach_marked, ← whole, Text.lowerEach_append]
        exact occurs.trans (List.prefix_append _ _).isInfix
      obtain ⟨piece, among, here⟩ := Text.exists_infix_of_infix_marked inLine nothing occurs'
      rw [List.map_map] at among
      obtain ⟨line, member, rfl⟩ := List.mem_map.1 among
      have inLines : line ∈ lines := by
        rw [split, List.append_cons]
        exact List.mem_append_left _ member
      exact ⟨line, member,
        (Pattern.matchesLine_iff_of_substring looksFor (noSigma line inLines)).2 here⟩

/-- A live session finds a pattern on the line on which a replay finds it.  The pattern is a prefix
of lines, or a text that is looked for in a script and is not too long.  The characters of the
lines, a newline behind each, are pushed one by one into a fresh session.  The first of them with
which the pattern matches is in the first line that matches as a whole, or is its newline, and
there is none just in case no line matches.  Taking characters for the pattern stops there. -/
theorem first_match_line_iff (lines : List String) (inLines : ∀ line ∈ lines, '\n' ∉ line.toList)
    (pattern : Pattern)
    (plain : pattern.kind = .lineStart ∨ pattern.kind = .substring ∧ pattern.Scripted ∧
      pattern.IsShort ∧ ∀ line ∈ lines, 'Σ' ∉ line.toList) :
    let session : Session := {}
    let stream := Text.marked '\n' (lines.map String.toList)
    let test (taken : List Char) : Prop := (session.pushAll taken).isMatch pattern = true
    let outcome := session.take (.found (.ofLine pattern session.line)) stream
    (∀ index,
      (∃ taken, taken <+: stream ∧ Shortest test taken ∧ ReadsLine lines index taken) ↔
        pattern.FirstAt lines 0 index) ∧
      (Unmet test stream ↔ ∀ index, ¬ pattern.MatchesAt lines index) ∧
      (outcome.goal = none → Shortest test (stream.take outcome.count)) ∧
      (outcome.goal ≠ none → Unmet test stream) := by
  intro session stream test outcome
  obtain ⟨found, byLine⟩ : ∃ found, FoundByLine pattern lines found := by
    unfold Pattern.kind at plain
    cases looksFor : pattern.matcher with
    | substring needle =>
        obtain other | ⟨-, scripted, short, noSigma⟩ := plain
        · simp [looksFor] at other
        · obtain ⟨raw, inRaw, compiled⟩ := scripted.exists_compile?
          have inNeedle := Pattern.newline_not_mem_needle compiled inRaw looksFor
          exact ⟨_, foundByLine_of_substring looksFor short inNeedle noSigma⟩
    | lineStart text => exact ⟨_, foundByLine_of_lineStart looksFor inLines⟩
    | regex regex => simp [looksFor] at plain
  obtain ⟨taken, split, counted, -, sought⟩ := session.exists_take_found pattern stream
  refine ⟨fun index => ⟨?_, fun firstAt => ?_⟩, ⟨fun unmet index matchesAt => ?_,
    fun noneFound earlier early nonempty passes => ?_⟩, fun reached => ?_, fun left => ?_⟩
  · rintro ⟨taken, -, shortest, reads⟩
    exact byLine.firstAt shortest reads
  · obtain ⟨taken, early, shortest⟩ := byLine.exists_shortest firstAt.found
    obtain ⟨other, reads⟩ := exists_readsLine early shortest.1
    have same : other = index := (byLine.firstAt shortest reads).unique firstAt
    exact ⟨taken, early, shortest, same ▸ reads⟩
  · obtain ⟨taken, early, shortest⟩ := byLine.exists_shortest matchesAt
    exact unmet taken early shortest.1 shortest.2.1
  · obtain ⟨taken, within, shortest⟩ := Shortest.exists_of_test nonempty passes
    obtain ⟨index, reads⟩ := exists_readsLine (within.trans early) shortest.1
    exact noneFound index (byLine.firstAt shortest reads).found
  · rw [counted]
    exact sought.reached reached
  · obtain ⟨-, nothing, unmet⟩ := sought.left left
    rw [split, nothing, List.append_nil]
    exact unmet

/-- A word of a script is found while the second of two lines is read. -/
theorem first_match_line_login :
    let lines := ["boot", "Login:"]
    let pattern := Pattern.ofSubstring "login"
    (pattern.kind = .substring ∧ pattern.Scripted ∧ pattern.IsShort) ∧
      (∀ line ∈ lines, '\n' ∉ line.toList ∧ 'Σ' ∉ line.toList) ∧
      pattern.FirstAt lines 0 1 ∧
      ∃ taken, taken <+: "boot\nLogin:\n".toList ∧
        Shortest (Session.MatchesBehind {} pattern) taken ∧ ReadsLine lines 1 taken := by
  intro lines pattern
  have lowered : Text.lowercase "login" = "login" := by
    rw [← String.toList_inj, Text.lowercase_toList]
    decide +kernel
  have looksFor : pattern.matcher = .substring "login" :=
    congrArg Matcher.substring lowered
  have scripted : pattern.Scripted :=
    ⟨"expect 'login'", [.expect "'login'" pattern], "'login'", by rfl, List.mem_cons_self⟩
  have short : pattern.IsShort := by
    intro needle same
    obtain rfl := Matcher.substring.inj (looksFor.symm.trans same)
    decide
  have plainLines : ∀ line ∈ lines, '\n' ∉ line.toList ∧ 'Σ' ∉ line.toList := by
    decide +kernel
  have finds (line : String) (noSigma : 'Σ' ∉ line.toList) :=
    Pattern.matchesLine_iff_of_substring looksFor noSigma
  have firstAt : pattern.FirstAt lines 0 1 := by
    refine ⟨Nat.zero_le 1, ⟨"Login:", rfl, ?_⟩, fun other _ there => ?_⟩
    · exact (finds _ (by decide +kernel)).2 ⟨[], [':'], by decide +kernel⟩
    · apply Nat.pos_of_ne_zero
      rintro rfl
      obtain ⟨line, here, matching⟩ := there
      obtain rfl : "boot" = line := Option.some.inj here
      have occurs := (finds _ (by decide +kernel)).1 matching
      exact absurd occurs.length_le (by decide +kernel)
  refine ⟨⟨rfl, scripted, short⟩, plainLines, firstAt, ?_⟩
  exact ((first_match_line_iff lines (fun line member => (plainLines line member).1) pattern
    (.inr ⟨rfl, scripted, short, fun line member => (plainLines line member).2⟩)).1 1).2 firstAt

end SerialDialogue
