import SerialDialogue.Proofs.Script.Reading

/-!
# Scripts that are written again

The steps of a script, written one on a line, are a script again and are read as the same steps.
A step keeps the words of its line.  They have no blanks at their ends and no newline inside, so
that with one blank between them they are the words of a line again.
-/

namespace SerialDialogue

/-- The step has the words of a line of some script. -/
structure Step.Legible (step : Step) : Prop where
  meant : step.Meant
  tight : Text.Tight step.raw.toList
  inLine : '\n' ∉ step.raw.toList

namespace Verb

theorem text_solid (verb : Verb) : ∀ c ∈ verb.text.toList, ¬ Text.isBlank c := by
  cases verb <;> simp [Verb.text, Text.isBlank]

theorem text_ne_nil (verb : Verb) : verb.text.toList ≠ [] := by
  cases verb <;> simp [Verb.text]

end Verb

namespace Step

/-- A step is written as its verb and its argument, with one blank between them if there is an
argument. -/
theorem Meant.text_eq {step : Step} (meant : step.Meant) :
    ∃ gap, step.text.toList = step.verb.text.toList ++ (gap ++ step.raw.toList) ∧
      (gap = [' '] ∧ step.raw.toList ≠ [] ∨ gap = [] ∧ step.raw.toList = []) := by
  cases step with
  | send raw =>
      refine ⟨[' '], ?_, .inl ⟨rfl, by simpa [Step.raw, Step.Meant] using meant⟩⟩
      simp [Step.text, Step.verb, Verb.text, Step.raw]
  | expect raw pattern =>
      refine ⟨[' '], ?_, .inl ⟨rfl, by simpa [Step.raw] using meant.1⟩⟩
      simp [Step.text, Step.verb, Verb.text, Step.raw]
  | monitor raw bound =>
      by_cases bare : raw.isEmpty
      · have nothing : raw.toList = [] := by simpa using bare
        refine ⟨[], ?_, .inr ⟨rfl, nothing⟩⟩
        simp [Step.text, bare, Step.verb, Verb.text, Step.raw, nothing]
      · refine ⟨[' '], ?_, .inl ⟨rfl, by simpa [Step.raw] using bare⟩⟩
        simp [Step.text, bare, Step.verb, Verb.text, Step.raw]

namespace Legible

variable {step : Step}

theorem accepts (legible : step.Legible) : Script.Accepts step.text.toList step := by
  obtain ⟨gap, whole, shape⟩ := legible.meant.text_eq
  refine Script.accepts_iff.2 ⟨?_, legible.meant⟩
  refine ⟨step.verb.text_solid, ⟨gap, ?_, whole, ?_⟩, legible.tight.head⟩
  · rcases shape with ⟨rfl, -⟩ | ⟨rfl, -⟩
    · exact List.forall_mem_singleton.2 rfl
    · exact List.forall_mem_nil _
  · rintro rfl
    rcases shape with ⟨impossible, -⟩ | ⟨-, nothing⟩
    · cases impossible
    · exact nothing

theorem text_ne_nil (legible : step.Legible) : step.text.toList ≠ [] := by
  obtain ⟨gap, whole, -⟩ := legible.meant.text_eq
  rw [whole]
  exact List.append_ne_nil_of_left_ne_nil step.verb.text_ne_nil _

theorem text_tight (legible : step.Legible) : Text.Tight step.text.toList := by
  obtain ⟨gap, whole, shape⟩ := legible.meant.text_eq
  rw [whole]
  constructor
  · intro c first
    rw [List.head?_append_of_ne_nil _ step.verb.text_ne_nil] at first
    exact step.verb.text_solid c (List.mem_of_mem_head? first)
  · intro c last
    rcases shape with ⟨-, nonempty⟩ | ⟨rfl, nothing⟩
    · rw [← List.append_assoc, List.getLast?_append_of_ne_nil _ nonempty] at last
      exact legible.tight.last c last
    · rw [nothing, List.append_nil, List.append_nil] at last
      exact step.verb.text_solid c (List.mem_of_mem_getLast? last)

theorem newline_not_mem_text (legible : step.Legible) : '\n' ∉ step.text.toList := by
  obtain ⟨gap, whole, shape⟩ := legible.meant.text_eq
  have inVerb : '\n' ∉ step.verb.text.toList := fun inside => step.verb.text_solid _ inside rfl
  have inGap : '\n' ∉ gap := by
    rcases shape with ⟨rfl, -⟩ | ⟨rfl, -⟩ <;> decide
  simp [whole, inVerb, inGap, legible.inLine]

end Legible

end Step

namespace Script

/-- Steps as they are written, one on a line. -/
def text (steps : List Step) : String :=
  "\n".intercalate (steps.map Step.text)

theorem legible_of_mem {body : String} {steps : List Step} (parsed : parse? body = .ok steps)
    {step : Step} (member : step ∈ steps) : step.Legible := by
  obtain ⟨line, among, -, accepts⟩ := exists_line_of_mem parsed member
  obtain ⟨words, meant⟩ := accepts_iff.1 accepts
  have behind := words.argument_suffix
  refine ⟨meant, ⟨words.argument_solid, ?_⟩, ?_⟩
  · intro c last
    obtain ⟨piece, -, rfl⟩ := List.mem_map.1 among
    obtain ⟨before, whole⟩ := behind
    refine (Text.tight_dropBlankEnds piece).last c ?_
    rw [← whole]
    exact List.mem_getLast?_append_of_mem_getLast? last
  · exact fun inside => newline_not_mem_of_mem_trimmed among (behind.subset inside)

theorem trimmed_text {steps : List Step} (legible : ∀ step ∈ steps, step.Legible)
    (nonempty : steps ≠ []) :
    trimmed (text steps).toList = steps.map fun step => step.text.toList := by
  have inLines : ∀ line ∈ (steps.map Step.text).map String.toList, '\n' ∉ line := by
    simpa using fun step member => (legible step member).newline_not_mem_text
  have cut : (text steps).toList.splitOn '\n' = (steps.map Step.text).map String.toList := by
    rw [text, String.toList_intercalate]
    exact List.splitOn_intercalate '\n' inLines (by simpa using nonempty)
  rw [trimmed, cut, List.map_map, List.map_map]
  exact List.map_congr_left fun step member => (legible step member).text_tight.dropBlankEnds_eq

theorem parse?_text_of_legible {steps : List Step} (legible : ∀ step ∈ steps, step.Legible) :
    parse? (text steps) = .ok steps := by
  by_cases nothing : steps = []
  · subst nothing
    rfl
  · have filled : ∀ line ∈ steps.map fun step => step.text.toList, (!line.isEmpty) = true := by
      simpa using fun step member => (legible step member).text_ne_nil
    rw [parse?_eq_ok_iff, trimmed_text legible nothing, List.filter_eq_self.2 filled,
      List.forall₂_map_left_iff, List.forall₂_same]
    exact fun step member => (legible step member).accepts

/-- The steps of a script, written one on a line, are read as the same steps, with a newline
behind the last line or without one. -/
theorem parse?_text {body : String} {steps : List Step} (parsed : parse? body = .ok steps) :
    parse? (text steps) = .ok steps ∧ parse? (text steps ++ "\n") = .ok steps := by
  have again : parse? (text steps) = .ok steps :=
    parse?_text_of_legible fun step member => legible_of_mem parsed member
  have ended : text steps ++ "\n" = String.ofList ([] ++ ((text steps).toList ++ ['\n'])) := by
    simp
  have newline : Text.Blank ['\n'] := List.forall_mem_singleton.2 rfl
  refine ⟨again, ?_⟩
  rw [ended, parse?_append_append (List.forall_mem_nil _) newline, again]

/-- A script with other blanks around its words and its lines than those it is written with. -/
theorem parse?_text_spread :
    ∃ steps,
      parse? "\u00a0\n send \t'a  b' \r\n\r\n\u2003expect\u3000\"# \"\nmonitor\t\n" = .ok steps ∧
        text steps = "send 'a  b'\nexpect \"# \"\nmonitor" ∧
        parse? (text steps) = .ok steps ∧ parse? (text steps ++ "\n") = .ok steps := by
  have parsed :
      parse? "\u00a0\n send \t'a  b' \r\n\r\n\u2003expect\u3000\"# \"\nmonitor\t\n" =
        .ok [.send "'a  b'", .expect "\"# \"" ⟨"# ", .lineStart "# "⟩,
          .monitor "" .indefinite] := rfl
  exact ⟨_, parsed, rfl, parse?_text parsed⟩

end Script

end SerialDialogue
