import Mathlib.Data.List.Forall2
import SerialDialogue.Proofs.Text.Lines
import SerialDialogue.Proofs.Text.Trim
import SerialDialogue.Script

/-!
# Which scripts are read

A script is cut at its newlines, and the blanks around every line are dropped.  It is read if
every line that is left with something is a step, and otherwise the first one that is no step is
reported.  Lines are counted from the first one with something on it.
-/

namespace SerialDialogue

/-! ## Steps and their arguments -/

/-- The step keeps an argument that its verb takes, and what that means. -/
def Step.Meant : Step → Prop
  | send raw => ¬ raw.isEmpty
  | expect raw pattern => ¬ raw.isEmpty ∧ Pattern.compile? raw = .ok pattern
  | monitor raw bound => Bound.parse? raw = .ok bound

theorem Verb.read_eq_ok_iff {verb : Verb} {argument : String} {step : Step} :
    verb.read argument = .ok step ↔ verb = step.verb ∧ argument = step.raw ∧ step.Meant := by
  constructor
  · intro reads
    cases verb with
    | send =>
        rw [Verb.read] at reads
        split at reads
        · cases reads
        · rename_i nonempty
          cases reads
          exact ⟨rfl, rfl, nonempty⟩
    | expect =>
        rw [Verb.read] at reads
        split at reads
        · cases reads
        · rename_i nonempty
          split at reads
          · rename_i compiled
            cases reads
            exact ⟨rfl, rfl, nonempty, compiled⟩
          · cases reads
    | monitor =>
        rw [Verb.read] at reads
        cases means : Bound.parse? argument with
        | error cause => simp [means, Except.map] at reads
        | ok bound =>
            rw [means] at reads
            cases reads
            exact ⟨rfl, rfl, means⟩
    | attempt => cases reads
  · rintro ⟨rfl, rfl, meant⟩
    cases step with
    | send raw => exact if_neg meant
    | expect raw pattern =>
        obtain ⟨nonempty, compiled⟩ := meant
        rw [Step.verb, Step.raw, Verb.read, if_neg nonempty, compiled]
    | monitor raw bound =>
        have means : Bound.parse? raw = .ok bound := meant
        rw [Step.verb, Step.raw, Verb.read, means]
        rfl

namespace Script

/-- The lines of a text without the blanks around each. -/
def trimmed (body : List Char) : List (List Char) :=
  (body.splitOn '\n').map Text.dropBlankEnds

/-- The first word of a line, and an argument behind the blanks behind it.  The argument is empty
where no blank is behind the word. -/
structure Words (line word argument : List Char) : Prop where
  word_solid : ∀ c ∈ word, ¬ Text.isBlank c
  exists_gap : ∃ gap, Text.Blank gap ∧ line = word ++ (gap ++ argument) ∧
    (gap = [] → argument = [])
  argument_solid : ∀ c ∈ argument.head?, ¬ Text.isBlank c

/-- The first word of a line is a verb, which makes the step of the argument. -/
def Accepts (line : List Char) (step : Step) : Prop :=
  ∃ verb ∈ Verb.scripted, ∃ argument,
    Words line verb.text.toList argument ∧ verb.read (String.ofList argument) = .ok step

/-- The first word of a line is a verb that refuses the argument, or it is no verb. -/
def Rejects (line : List Char) (reason : Reason) : Prop :=
  (∃ verb ∈ Verb.scripted, ∃ argument,
    Words line verb.text.toList argument ∧ verb.read (String.ofList argument) = .error reason) ∨
    (∀ verb ∈ Verb.scripted, ∀ argument, ¬ Words line verb.text.toList argument) ∧
      reason = .unknownCommand

/-! ## One line -/

theorem Words.argument_suffix {line word argument : List Char}
    (words : Words line word argument) : argument <:+ line := by
  obtain ⟨gap, -, whole, -⟩ := words.exists_gap
  rw [whole, ← List.append_assoc]
  exact List.suffix_append (word ++ gap) argument

theorem words_iff {line word argument : List Char} :
    Words line word argument ↔ splitWord line = (word, argument) := by
  constructor
  · rintro ⟨solid, ⟨gap, blank, rfl, gapless⟩, start⟩
    have inWord : ∀ c ∈ word, (!Text.isBlank c) = true := by
      intro c member
      simpa using solid c member
    have afterWord : ∀ c ∈ (gap ++ argument).head?, (!Text.isBlank c) = false := by
      intro c first
      cases gap with
      | nil => simp [gapless rfl] at first
      | cons d gap =>
          obtain rfl : d = c := by simpa using first
          simpa using blank d List.mem_cons_self
    have afterGap : ∀ c ∈ argument.head?, Text.isBlank c = false := by
      intro c first
      simpa using start c first
    obtain ⟨taken, rest⟩ := Text.takeWhile_append_of_boundary inWord afterWord
    obtain ⟨-, left⟩ := Text.takeWhile_append_of_boundary blank afterGap
    rw [splitWord, taken, rest, Text.dropBlankStart, left]
  · intro cut
    obtain ⟨rfl, rfl⟩ := Prod.mk.inj cut
    refine ⟨?_, ⟨(line.dropWhile (!Text.isBlank ·)).takeWhile Text.isBlank, ?_, ?_, ?_⟩, ?_⟩
    · intro c member
      simpa using List.mem_takeWhile_imp member
    · intro c member
      exact List.mem_takeWhile_imp member
    · rw [Text.dropBlankStart, List.takeWhile_append_dropWhile, List.takeWhile_append_dropWhile]
    · intro gapless
      cases rest : line.dropWhile (!Text.isBlank ·) with
      | nil => rfl
      | cons c later =>
          have blank : Text.isBlank c := by
            simpa [rest] using List.head?_dropWhile_not (!Text.isBlank ·) line
          rw [rest, List.takeWhile_cons_of_pos blank] at gapless
          cases gapless
    · intro c first
      have solid := List.head?_dropWhile_not Text.isBlank (line.dropWhile (!Text.isBlank ·))
      rw [Text.dropBlankStart] at first
      rw [Option.mem_def.1 first] at solid
      simpa using solid

theorem ofText?_eq_some_iff {word : String} {verb : Verb} :
    Verb.ofText? word = some verb ↔ verb ∈ Verb.scripted ∧ verb.text = word := by
  constructor
  · intro found
    exact ⟨List.mem_of_find?_eq_some found, by simpa using List.find?_some found⟩
  · rintro ⟨member, rfl⟩
    revert member
    cases verb <;> decide

/-- What becomes of a line, by its first word and the rest of it. -/
theorem readLine_eq_iff {line : List Char} {result : Except Reason Step} :
    readLine line = result ↔
      (∃ verb ∈ Verb.scripted, ∃ argument,
        Words line verb.text.toList argument ∧ verb.read (String.ofList argument) = result) ∨
        (∀ verb ∈ Verb.scripted, ∀ argument, ¬ Words line verb.text.toList argument) ∧
          result = .error .unknownCommand := by
  have named (verb : Verb) : verb ∈ Verb.scripted ∧ verb.text.toList = (splitWord line).1 ↔
      Verb.ofText? (String.ofList (splitWord line).1) = some verb := by
    rw [ofText?_eq_some_iff, ← String.toList_inj, String.toList_ofList]
  rw [readLine]
  dsimp only
  cases word : Verb.ofText? (String.ofList (splitWord line).1) with
  | some verb =>
      obtain ⟨scripted, text⟩ := (named verb).2 word
      have words : Words line verb.text.toList (splitWord line).2 := words_iff.2 (by rw [text])
      constructor
      · intro reads
        exact .inl ⟨verb, scripted, _, words, reads⟩
      · rintro (⟨other, scripted', argument, words', reads⟩ | ⟨none, -⟩)
        · have cut := words_iff.1 words'
          have same := (named other).1 ⟨scripted', by rw [cut]⟩
          obtain rfl := Option.some.inj (word.symm.trans same)
          rw [cut]
          exact reads
        · exact absurd words (none verb scripted _)
  | none =>
      have unnamed : ∀ verb ∈ Verb.scripted, ∀ argument,
          ¬ Words line verb.text.toList argument := by
        intro verb scripted argument words
        have found := (named verb).1 ⟨scripted, by rw [words_iff.1 words]⟩
        rw [word] at found
        cases found
      constructor
      · rintro rfl
        exact .inr ⟨unnamed, rfl⟩
      · rintro (⟨verb, scripted, argument, words, -⟩ | ⟨-, rfl⟩)
        · exact absurd words (unnamed verb scripted argument)
        · rfl

theorem readLine_eq_ok_iff {line : List Char} {step : Step} :
    readLine line = .ok step ↔ Accepts line step := by
  rw [readLine_eq_iff, Accepts]
  simp

theorem readLine_eq_error_iff {line : List Char} {reason : Reason} :
    readLine line = .error reason ↔ Rejects line reason := by
  rw [readLine_eq_iff, Rejects]
  simp only [Except.error.injEq]

theorem accepts_iff {line : List Char} {step : Step} :
    Accepts line step ↔ Words line step.verb.text.toList step.raw.toList ∧ step.Meant := by
  constructor
  · rintro ⟨verb, -, argument, words, reads⟩
    obtain ⟨rfl, whole, meant⟩ := Verb.read_eq_ok_iff.1 reads
    rw [← whole, String.toList_ofList]
    exact ⟨words, meant⟩
  · rintro ⟨words, meant⟩
    have scripted : step.verb ∈ Verb.scripted := by
      cases step <;> simp [Step.verb, Verb.scripted]
    exact ⟨step.verb, scripted, step.raw.toList, words,
      Verb.read_eq_ok_iff.2 ⟨rfl, String.ofList_toList, meant⟩⟩

/-! ## Several lines -/

theorem map_cons_eq_ok_iff {step : Step} {rest : Except Failure (List Step)}
    {steps : List Step} :
    rest.map (step :: ·) = .ok steps ↔ ∃ later, rest = .ok later ∧ steps = step :: later := by
  cases rest <;> simp [Except.map, eq_comm]

theorem map_cons_eq_error_iff {step : Step} {rest : Except Failure (List Step)}
    {failure : Failure} : rest.map (step :: ·) = .error failure ↔ rest = .error failure := by
  cases rest <;> simp [Except.map]

/-- The steps of lines are those of the lines with something on them. -/
theorem readLines_eq_ok_iff {number : Nat} {lines : List (List Char)} {steps : List Step} :
    readLines number lines = .ok steps ↔
      List.Forall₂ Accepts (lines.filter (!·.isEmpty)) steps := by
  induction lines generalizing number steps with
  | nil =>
      rw [readLines, List.filter_nil, List.forall₂_nil_left_iff, Except.ok.injEq, eq_comm]
  | cons line later ih =>
      rw [readLines]
      by_cases empty : line.isEmpty
      · rw [if_pos empty, ih]
        simp [empty]
      · rw [if_neg empty, List.filter_cons_of_pos (by simpa using empty),
          List.forall₂_cons_left_iff]
        cases here : readLine line with
        | error reason =>
            simp only [reduceCtorEq, false_iff]
            rintro ⟨step, _, accepts, -⟩
            rw [readLine_eq_ok_iff.2 accepts] at here
            cases here
        | ok step =>
            dsimp only
            rw [map_cons_eq_ok_iff]
            constructor
            · rintro ⟨rest, behind, rfl⟩
              exact ⟨step, rest, readLine_eq_ok_iff.1 here, ih.1 behind, rfl⟩
            · rintro ⟨step', rest, accepts, behind, rfl⟩
              obtain rfl := Except.ok.inj (here.symm.trans (readLine_eq_ok_iff.2 accepts))
              exact ⟨rest, ih.2 behind, rfl⟩

/-- The first line that is no step, and what is reported of it. -/
structure FirstRejected (lines before after : List (List Char)) (line : List Char)
    (reason : Reason) : Prop where
  split : lines = before ++ line :: after
  not_empty : line ≠ []
  rejected : Rejects line reason
  accepted : ∀ earlier ∈ before, earlier ≠ [] → ∃ step, Accepts earlier step

theorem not_rejects_of_accepts {line : List Char} {step : Step} {reason : Reason}
    (accepts : Accepts line step) : ¬ Rejects line reason := by
  intro rejects
  have read := readLine_eq_ok_iff.2 accepts
  rw [readLine_eq_error_iff.2 rejects] at read
  cases read

namespace FirstRejected

variable {line bad : List Char} {later before after : List (List Char)} {reason : Reason}

theorem cons_iff (fine : line ≠ [] → ∃ step, Accepts line step) :
    FirstRejected (line :: later) before after bad reason ↔
      ∃ before', before = line :: before' ∧ FirstRejected later before' after bad reason := by
  constructor
  · intro first
    cases before with
    | nil =>
        obtain ⟨rfl, -⟩ := List.cons.inj first.split
        obtain ⟨step, accepts⟩ := fine first.not_empty
        exact absurd first.rejected (not_rejects_of_accepts accepts)
    | cons other before =>
        obtain ⟨rfl, split⟩ := List.cons.inj first.split
        exact ⟨before, rfl, split, first.not_empty, first.rejected,
          fun earlier member => first.accepted earlier (List.mem_cons_of_mem _ member)⟩
  · rintro ⟨before', rfl, first⟩
    refine ⟨congrArg (line :: ·) first.split, first.not_empty, first.rejected, ?_⟩
    exact List.forall_mem_cons.2 ⟨fine, first.accepted⟩

theorem cons_iff_of_rejects (not_empty : line ≠ []) {cause : Reason}
    (rejects : Rejects line cause) :
    FirstRejected (line :: later) before after bad reason ↔
      before = [] ∧ after = later ∧ bad = line ∧ reason = cause := by
  constructor
  · intro first
    cases before with
    | nil =>
        obtain ⟨rfl, rfl⟩ := List.cons.inj first.split
        have read := readLine_eq_error_iff.2 rejects
        rw [readLine_eq_error_iff.2 first.rejected] at read
        exact ⟨rfl, rfl, rfl, Except.error.inj read⟩
    | cons other before =>
        obtain ⟨rfl, -⟩ := List.cons.inj first.split
        obtain ⟨step, accepts⟩ := first.accepted line List.mem_cons_self not_empty
        exact absurd rejects (not_rejects_of_accepts accepts)
  · rintro ⟨rfl, rfl, rfl, rfl⟩
    exact ⟨rfl, not_empty, rejects, by simp⟩

end FirstRejected

theorem readLines_eq_error_iff {number : Nat} {lines : List (List Char)} {failure : Failure} :
    readLines number lines = .error failure ↔
      ∃ before line after reason, FirstRejected lines before after line reason ∧
        failure = .parse (number + before.length) (String.ofList line) reason := by
  induction lines generalizing number with
  | nil =>
      simp only [readLines, reduceCtorEq, false_iff]
      rintro ⟨before, line, after, reason, first, -⟩
      cases before <;> cases first.split
  | cons line later ih =>
      -- A line that is no reason to stop counts as one more line before.
      have further (fine : line ≠ [] → ∃ step, Accepts line step) :
          readLines (number + 1) later = .error failure ↔
            ∃ before bad after reason, FirstRejected (line :: later) before after bad reason ∧
              failure = .parse (number + before.length) (String.ofList bad) reason := by
        rw [ih]
        constructor
        · rintro ⟨before, bad, after, reason, first, rfl⟩
          refine ⟨line :: before, bad, after, reason,
            (FirstRejected.cons_iff fine).2 ⟨before, rfl, first⟩, ?_⟩
          rw [List.length_cons, Nat.add_right_comm, Nat.add_assoc]
        · rintro ⟨_, bad, after, reason, whole, rfl⟩
          obtain ⟨before, rfl, first⟩ := (FirstRejected.cons_iff fine).1 whole
          refine ⟨before, bad, after, reason, first, ?_⟩
          rw [List.length_cons, Nat.add_right_comm, Nat.add_assoc]
      rw [readLines]
      by_cases empty : line.isEmpty
      · rw [if_pos empty]
        exact further fun nonempty => absurd (List.isEmpty_iff.1 empty) nonempty
      · rw [if_neg empty]
        cases here : readLine line with
        | error reason =>
            have stops {before after bad cause} :=
              @FirstRejected.cons_iff_of_rejects line bad later before after cause
                (by simpa using empty) reason (readLine_eq_error_iff.1 here)
            simp only [stops, Except.error.injEq]
            constructor
            · rintro rfl
              exact ⟨[], line, later, reason, ⟨rfl, rfl, rfl, rfl⟩, rfl⟩
            · rintro ⟨_, _, _, _, ⟨rfl, rfl, rfl, rfl⟩, rfl⟩
              rfl
        | ok step =>
            dsimp only
            rw [map_cons_eq_error_iff]
            exact further fun _ => ⟨step, readLine_eq_ok_iff.1 here⟩

/-! ## Blanks around a script -/

theorem map_dropBlankEnds_eq_replicate {pieces : List (List Char)}
    (blank : ∀ piece ∈ pieces, Text.Blank piece) :
    pieces.map Text.dropBlankEnds = List.replicate pieces.length [] := by
  rw [List.eq_replicate_iff]
  refine ⟨List.length_map _, fun line member => ?_⟩
  obtain ⟨piece, among, rfl⟩ := List.mem_map.1 member
  exact Text.dropBlankEnds_eq_nil_iff.2 (blank piece among)

variable {text front back : List Char}

theorem blank_of_mem_splitOn (blank : Text.Blank text) :
    ∀ piece ∈ text.splitOn '\n', Text.Blank piece :=
  fun _ member c inside => blank c (Text.subset_of_mem_splitOn member inside)

theorem exists_trimmed_append_left (blank : Text.Blank front) (text : List Char) :
    ∃ count, trimmed (front ++ text) = List.replicate count [] ++ trimmed text := by
  have pieces := blank_of_mem_splitOn blank
  obtain ⟨others, last, piece, later, cut, behind, joined⟩ :=
    Text.exists_splitOn_append '\n' front text
  rw [cut] at pieces
  have same : Text.dropBlankEnds (last ++ piece) = Text.dropBlankEnds piece := by
    simpa using Text.dropBlankEnds_append_append (pieces last (by simp))
      (List.forall_mem_nil _) piece
  have ahead : others.map Text.dropBlankEnds = List.replicate others.length [] :=
    map_dropBlankEnds_eq_replicate fun piece member => pieces piece (by simp [member])
  refine ⟨others.length, ?_⟩
  rw [trimmed, trimmed, joined, behind, List.map_append, List.map_cons, same, ahead,
    List.map_cons]

theorem exists_trimmed_append_right (blank : Text.Blank back) (text : List Char) :
    ∃ count, trimmed (text ++ back) = trimmed text ++ List.replicate count [] := by
  have pieces := blank_of_mem_splitOn blank
  obtain ⟨others, last, piece, later, cut, behind, joined⟩ :=
    Text.exists_splitOn_append '\n' text back
  rw [behind] at pieces
  have same : Text.dropBlankEnds (last ++ piece) = Text.dropBlankEnds last := by
    simpa using Text.dropBlankEnds_append_append (List.forall_mem_nil _)
      (pieces piece (by simp)) last
  have rest : later.map Text.dropBlankEnds = List.replicate later.length [] :=
    map_dropBlankEnds_eq_replicate fun piece member => pieces piece (by simp [member])
  refine ⟨later.length, ?_⟩
  rw [trimmed, trimmed, joined, cut, List.map_append, List.map_cons, same, rest]
  simp

theorem readLines_append_replicate (number : Nat) (lines : List (List Char)) (count : Nat) :
    readLines number (lines ++ List.replicate count []) = readLines number lines := by
  induction lines generalizing number with
  | nil =>
      induction count generalizing number with
      | zero => rfl
      | succ count ih => exact ih (number + 1)
  | cons line later ih => simp only [List.cons_append, readLines, ih]

theorem exists_trimmed_eq_cons (tight : Text.Tight text) (nonempty : text ≠ []) :
    ∃ line later, trimmed text = line :: later ∧ line ≠ [] := by
  cases text with
  | nil => exact absurd rfl nonempty
  | cons c rest =>
      have solid : ¬ Text.isBlank c := tight.head c rfl
      have inLine : (c == '\n') = false := by
        rw [beq_eq_false_iff_ne]
        rintro rfl
        exact solid rfl
      cases cut : rest.splitOn '\n' with
      | nil => exact absurd cut (List.splitOn_ne_nil _ _)
      | cons piece later =>
          refine ⟨Text.dropBlankEnds (c :: piece), later.map Text.dropBlankEnds, ?_, ?_⟩
          · simp [trimmed, List.splitOn_cons_eq_if_modifyHead, inLine, cut]
          · intro nothing
            exact solid (Text.dropBlankEnds_eq_nil_iff.1 nothing c List.mem_cons_self)

/-- A script is read from its first line with something on it, which has the number one. -/
theorem parse?_eq (body : String) :
    parse? body = readLines 1 ((trimmed body.toList).dropWhile List.isEmpty) := by
  obtain ⟨front, back, before, behind, whole⟩ := Text.exists_eq_dropBlankEnds body.toList
  have tight := Text.tight_dropBlankEnds body.toList
  have core : lines body = trimmed (Text.dropBlankEnds body.toList) := by
    rw [lines, trimmed, Text.pieces_eq_splitOn]
  rw [parse?, core]
  generalize Text.dropBlankEnds body.toList = inner at whole tight
  rw [whole]
  -- The blanks around the script make empty lines only, in front of its lines and behind them.
  obtain ⟨ahead, left⟩ := exists_trimmed_append_left before (inner ++ back)
  obtain ⟨after, right⟩ := exists_trimmed_append_right behind inner
  have empty (count : Nat) : ∀ line ∈ List.replicate count ([] : List Char), line.isEmpty := by
    simp [List.mem_replicate]
  rw [left, right, List.dropWhile_append_of_pos (empty ahead)]
  by_cases nothing : inner = []
  · have blank : trimmed inner ++ List.replicate after [] = List.replicate (after + 1) [] := by
      rw [nothing]
      rfl
    rw [blank, List.dropWhile_eq_nil_iff.2 (empty (after + 1)), nothing]
    rfl
  · obtain ⟨line, later, cut, not_empty⟩ := exists_trimmed_eq_cons tight nothing
    rw [cut, List.cons_append, List.dropWhile_cons_of_neg (by simpa using not_empty),
      ← List.cons_append, readLines_append_replicate]

/-! ## Whole scripts -/

theorem parse?_eq_ok_iff {body : String} {steps : List Step} :
    parse? body = .ok steps ↔
      List.Forall₂ Accepts ((trimmed body.toList).filter (!·.isEmpty)) steps := by
  let lines := trimmed body.toList
  have empty : (lines.takeWhile List.isEmpty).filter (!·.isEmpty) = [] := by
    rw [List.filter_eq_nil_iff]
    intro line member
    simpa using List.mem_takeWhile_imp member
  have same : (lines.dropWhile List.isEmpty).filter (!·.isEmpty) = lines.filter (!·.isEmpty) := by
    conv_rhs => rw [← List.takeWhile_append_dropWhile (p := List.isEmpty) (l := lines)]
    rw [List.filter_append, empty, List.nil_append]
  rw [parse?_eq, readLines_eq_ok_iff]
  exact iff_of_eq (congrArg (List.Forall₂ Accepts · steps) same)

theorem newline_not_mem_of_mem_trimmed {text line : List Char} (member : line ∈ trimmed text) :
    '\n' ∉ line := by
  obtain ⟨piece, among, rfl⟩ := List.mem_map.1 member
  rw [← Text.pieces_eq_splitOn] at among
  exact fun inside =>
    Text.not_mem_of_mem_pieces among ((Text.dropBlankEnds_infix piece).subset inside)

/-- Each step of a script stands on a line of its own. -/
theorem exists_line_of_mem {body : String} {steps : List Step} (parsed : parse? body = .ok steps)
    {step : Step} (member : step ∈ steps) :
    ∃ line ∈ trimmed body.toList, line ≠ [] ∧ Accepts line step := by
  obtain ⟨same, accepts⟩ := List.forall₂_iff_get.1 (parse?_eq_ok_iff.1 parsed)
  obtain ⟨i, inside, rfl⟩ := List.getElem_of_mem member
  rw [← same] at inside
  obtain ⟨among, nonempty⟩ := List.mem_filter.1 (List.getElem_mem inside)
  exact ⟨_, among, by simpa using nonempty, accepts i inside _⟩

/-- The lines are counted from the first one with something on it. -/
theorem parse?_eq_error_iff {body : String} {failure : Failure} :
    parse? body = .error failure ↔
      ∃ before line after reason, FirstRejected (trimmed body.toList) before after line reason ∧
        failure = .parse ((before.dropWhile List.isEmpty).length + 1) (String.ofList line)
          reason := by
  let lines := trimmed body.toList
  have whole := List.takeWhile_append_dropWhile (p := List.isEmpty) (l := lines)
  have empty : ∀ line ∈ lines.takeWhile List.isEmpty, line.isEmpty :=
    fun line member => List.mem_takeWhile_imp member
  rw [parse?_eq, readLines_eq_error_iff]
  constructor
  · rintro ⟨before, line, after, reason, first, rfl⟩
    have begins : before.dropWhile List.isEmpty = before := by
      cases before with
      | nil => rfl
      | cons start before =>
          have nonempty := List.head?_dropWhile_not List.isEmpty lines
          rw [first.split] at nonempty
          exact List.dropWhile_cons_of_neg (by simpa using nonempty)
    refine ⟨lines.takeWhile List.isEmpty ++ before, line, after, reason, ?_, ?_⟩
    · refine ⟨?_, first.not_empty, first.rejected, ?_⟩
      · rw [List.append_assoc, ← first.split, whole]
      · intro earlier member nonempty
        rcases List.mem_append.1 member with ahead | inside
        · exact absurd (List.isEmpty_iff.1 (empty earlier ahead)) nonempty
        · exact first.accepted earlier inside nonempty
    · rw [List.dropWhile_append_of_pos empty, begins, Nat.add_comm]
  · rintro ⟨before, line, after, reason, first, rfl⟩
    refine ⟨before.dropWhile List.isEmpty, line, after, reason, ?_, by rw [Nat.add_comm]⟩
    refine ⟨?_, first.not_empty, first.rejected, ?_⟩
    · rw [first.split, List.dropWhile_append]
      split
      · rename_i nothing
        rw [List.isEmpty_iff.1 nothing, List.nil_append,
          List.dropWhile_cons_of_neg (by simpa using first.not_empty)]
      · rfl
    · intro earlier member
      exact first.accepted earlier ((List.dropWhile_suffix _).subset member)

/-- Blanks around a script make no difference. -/
theorem parse?_append_append (before : Text.Blank front) (behind : Text.Blank back)
    (body : String) : parse? (String.ofList (front ++ (body.toList ++ back))) = parse? body := by
  have same : lines (String.ofList (front ++ (body.toList ++ back))) = lines body := by
    rw [lines, String.toList_ofList, Text.dropBlankEnds_append_append before behind, lines]
  rw [parse?, same, parse?]

/-- A script is read exactly if every line with something on it is a step, and then as those
steps; otherwise the first line that is none is reported, with its number behind the empty lines
that the script begins with.  Blanks around the script and around its lines make no difference. -/
theorem parse?_reads_lines (body : String) :
    (∀ steps, parse? body = .ok steps ↔
      List.Forall₂ Accepts ((trimmed body.toList).filter (!·.isEmpty)) steps) ∧
      ((∃ steps, parse? body = .ok steps) ↔
        ∀ line ∈ trimmed body.toList, line ≠ [] → ∃ step, Accepts line step) ∧
      (∀ failure, parse? body = .error failure ↔
        ∃ before line after reason,
          FirstRejected (trimmed body.toList) before after line reason ∧
            failure = .parse ((before.dropWhile List.isEmpty).length + 1) (String.ofList line)
              reason) ∧
      (∀ front back, Text.Blank front → Text.Blank back →
        parse? (String.ofList (front ++ (body.toList ++ back))) = parse? body) ∧
      ∀ other : String, trimmed other.toList = trimmed body.toList →
        parse? other = parse? body := by
  refine ⟨fun steps => parse?_eq_ok_iff, ⟨?_, ?_⟩, fun failure => parse?_eq_error_iff,
    fun front back before behind => parse?_append_append before behind body, ?_⟩
  · rintro ⟨steps, read⟩ line member nonempty
    have both := (parse?_eq_ok_iff.1 read).imp
      fun line step accepts => And.intro (Exists.intro step accepts) accepts
    exact ((List.forall₂_and_left _ _).1 both).1 line
      (List.mem_filter.2 ⟨member, by simpa using nonempty⟩)
  · intro all
    cases read : parse? body with
    | ok steps => exact ⟨steps, rfl⟩
    | error failure =>
        obtain ⟨before, line, after, reason, first, -⟩ := parse?_eq_error_iff.1 read
        obtain ⟨step, accepts⟩ := all line (by simp [first.split]) first.not_empty
        exact absurd first.rejected (not_rejects_of_accepts accepts)
  · intro other same
    rw [parse?_eq, same, parse?_eq]

end Script

end SerialDialogue
