import SerialDialogue.Proofs.Session.FirstMatch
import SerialDialogue.Proofs.Text.Lines

/-!
# Completed lines

Characters that are taken complete the lines that the newlines among them cut off.  Behind the
last newline they are in the line in progress, so that this line never holds a newline.  What is
taken for so many lines ends with the newline that completes the last of them.
-/

namespace SerialDialogue

namespace Session

/-- The session is within a line. -/
def InLine (session : Session) : Prop :=
  '\n' ∉ session.line.toList

/-- The lines that the characters complete, in their order. -/
def completed (session : Session) : List Char → List String
  | [] => []
  | c :: rest => (session.push c).1.toList ++ (session.push c).2.completed rest

@[simp]
theorem completed_nil (session : Session) : session.completed [] = [] :=
  rfl

theorem completed_append (session : Session) (first second : List Char) :
    session.completed (first ++ second) =
      session.completed first ++ (session.pushAll first).completed second := by
  induction first generalizing session with
  | nil => rfl
  | cons c rest ih =>
      rw [List.cons_append, completed, ih, completed, List.append_assoc, pushAll_cons]

theorem InLine.push {session : Session} (inLine : session.InLine) (c : Char) :
    (session.push c).2.InLine := by
  rw [InLine, line_push]
  split
  · exact List.not_mem_nil
  · rename_i other
    rw [String.toList_push, List.mem_append, List.mem_singleton]
    rintro (before | newline)
    · exact inLine before
    · exact other newline.symm

theorem InLine.pushAll {session : Session} (inLine : session.InLine) (text : List Char) :
    (session.pushAll text).InLine := by
  induction text generalizing session with
  | nil => exact inLine
  | cons c rest ih => exact ih (inLine.push c)

theorem line_pushAll_suffix (session : Session) (text : List Char) :
    (session.pushAll text).line.toList <:+ session.line.toList ++ text := by
  induction text generalizing session with
  | nil =>
      rw [List.append_nil]
      exact List.suffix_rfl
  | cons c rest ih =>
      have later := ih (session.push c).2
      rw [line_push] at later
      rw [List.append_cons]
      split at later
      · exact later.trans (List.suffix_append _ rest)
      · rwa [String.toList_push] at later

/-- A newline gives back the line without the carriage returns at its end. -/
theorem push_newline (session : Session) :
    (session.push '\n').1 = some (withoutTerminator session.line) := by
  rw [push, if_pos rfl, line_extend]

theorem push_of_ne_newline (session : Session) {c : Char} (other : c ≠ '\n') :
    (session.push c).1 = none := by
  rw [push, if_neg other]

theorem lineCount_push (session : Session) (c : Char) :
    (session.push c).2.lineCount = session.lineCount + if c = '\n' then 1 else 0 := by
  unfold push
  split <;> simp

theorem length_completed (session : Session) (text : List Char) :
    (session.completed text).length = text.count '\n' := by
  induction text generalizing session with
  | nil => rfl
  | cons c rest ih =>
      rw [completed, List.length_append, ih, List.count_cons, Nat.add_comm]
      by_cases newline : c = '\n'
      · subst newline
        rw [push_newline]
        rfl
      · rw [push_of_ne_newline session newline]
        simp [newline]

theorem lineCount_pushAll (session : Session) (text : List Char) :
    (session.pushAll text).lineCount = session.lineCount + text.count '\n' := by
  induction text generalizing session with
  | nil => rfl
  | cons c rest ih =>
      rw [pushAll_cons, ih, lineCount_push, List.count_cons]
      simp only [beq_iff_eq]
      omega

/-! ## Counting lines -/

theorem after_counted (session : Session) (lines : Nat) (c : Char) :
    (Goal.counted lines).after (session.push c).2 c (session.push c).1.isSome =
      if c = '\n' then if lines ≤ 1 then none else some (.counted (lines - 1))
      else some (.counted lines) := by
  by_cases newline : c = '\n'
  · subst newline
    rw [push_newline]
    rfl
  · rw [push_of_ne_newline session newline, if_neg newline]
    rfl

/-- What comes of taking characters for so many lines: they are taken through the newline that
completes the last one, or all of them are taken where there are not so many newlines. -/
structure Counted (lines : Nat) (taken : List Char) (goal : Option Goal) : Prop where
  reached : goal = none → taken.count '\n' = lines ∧ taken.getLast? = some '\n'
  left : goal ≠ none → taken.count '\n' < lines

theorem counted_takeBehind (session : Session) {number : Nat} (positive : 0 < number)
    (lines : List String) (count : Nat) (text : List Char) :
    let outcome := session.takeBehind (.counted number) lines count text
    ∃ taken, outcome.count = count + taken.length ∧ text = taken ++ outcome.rest ∧
      Counted number taken outcome.goal := by
  induction text generalizing session number lines count with
  | nil => exact ⟨[], rfl, rfl, nofun, fun _ => positive⟩
  | cons c rest ih =>
      unfold takeBehind
      dsimp only
      rw [after_counted]
      by_cases newline : c = '\n'
      · rw [if_pos newline]
        by_cases enough : number ≤ 1
        · rw [if_pos enough]
          refine ⟨[c], rfl, rfl, fun _ => ?_, absurd rfl⟩
          rw [newline]
          exact ⟨by simp; omega, rfl⟩
        · rw [if_neg enough]
          have further : 0 < number - 1 := by omega
          obtain ⟨taken, counted, split, outcome⟩ :=
            ih (session.push c).2 further ((session.push c).1.toList ++ lines) (count + 1)
          refine ⟨c :: taken, ?_, congrArg (c :: ·) split, fun reached => ?_, fun left => ?_⟩
          · rw [counted, List.length_cons]
            omega
          · obtain ⟨linesEqual, last⟩ := outcome.reached reached
            rw [newline, List.count_cons_self, linesEqual, List.getLast?_cons, last]
            exact ⟨by omega, rfl⟩
          · have := outcome.left left
            rw [newline, List.count_cons_self]
            omega
      · rw [if_neg newline]
        obtain ⟨taken, counted, split, outcome⟩ :=
          ih (session.push c).2 positive ((session.push c).1.toList ++ lines) (count + 1)
        refine ⟨c :: taken, ?_, congrArg (c :: ·) split, fun reached => ?_, fun left => ?_⟩
        · rw [counted, List.length_cons]
          omega
        · obtain ⟨linesEqual, last⟩ := outcome.reached reached
          rw [List.count_cons_of_ne newline, List.getLast?_cons, last]
          exact ⟨linesEqual, rfl⟩
        · rw [List.count_cons_of_ne newline]
          exact outcome.left left

theorem counted_take (session : Session) {number : Nat} (positive : 0 < number) (text : List Char) :
    Counted number (text.take (session.take (.counted number) text).count)
      (session.take (.counted number) text).goal := by
  obtain ⟨taken, counted, split, outcome⟩ := session.counted_takeBehind positive [] 0 text
  have first : text.take (session.take (.counted number) text).count = taken := by
    rw [take, counted, Nat.zero_add]
    exact (congrArg (List.take taken.length) split).trans List.take_left
  rw [first]
  exact outcome

/-- The newlines among the characters cut them, behind the line in progress, into the lines that
they complete and the line in progress behind them. -/
theorem exists_completed {session : Session} (inLine : session.InLine) (text : List Char) :
    ∃ lines, Text.pieces '\n' (session.line.toList ++ text) =
        lines ++ [(session.pushAll text).line.toList] ∧
      session.completed text = lines.map fun line => withoutTerminator (.ofList line) := by
  induction text generalizing session with
  | nil =>
      refine ⟨[], ?_, rfl⟩
      rw [List.append_nil, Text.pieces_of_not_mem inLine]
      rfl
  | cons c rest ih =>
      obtain ⟨lines, cut, completedEqual⟩ := ih (inLine.push c)
      rw [line_push] at cut
      by_cases newline : c = '\n'
      · subst newline
        rw [if_pos rfl, String.toList_empty, List.nil_append] at cut
        refine ⟨session.line.toList :: lines, ?_, ?_⟩
        · rw [Text.pieces_append_cons inLine, cut]
          rfl
        · rw [completed, push_newline, completedEqual, List.map_cons, String.ofList_toList]
          rfl
      · rw [if_neg newline, String.toList_push, List.append_assoc] at cut
        refine ⟨lines, cut, ?_⟩
        rw [completed, push_of_ne_newline session newline, completedEqual]
        rfl

theorem exists_lines_takeBehind (session : Session) (goal : Goal) (lines : List String)
    (count : Nat) (text : List Char) :
    ∃ before, text = before ++ (session.takeBehind goal lines count text).rest ∧
      (session.takeBehind goal lines count text).lines =
        (session.completed before).reverse ++ lines := by
  induction text generalizing session goal lines count with
  | nil => exact ⟨[], rfl, rfl⟩
  | cons c rest ih =>
      have first : ((session.push c).1.toList).reverse = (session.push c).1.toList := by
        cases (session.push c).1 <;> rfl
      unfold takeBehind
      dsimp only
      split
      · refine ⟨[c], rfl, ?_⟩
        rw [completed, completed_nil, List.append_nil, first]
      · rename_i left _
        obtain ⟨before, split, completedEqual⟩ :=
          ih (session.push c).2 left ((session.push c).1.toList ++ lines) (count + 1)
        refine ⟨c :: before, congrArg (c :: ·) split, ?_⟩
        rw [completedEqual, completed, List.reverse_append, first, List.append_assoc]

/-- The lines that were completed are those that the characters taken complete. -/
theorem lines_take (session : Session) (goal : Goal) (text : List Char) :
    (session.take goal text).lines.reverse =
      session.completed (text.take (session.take goal text).count) := by
  obtain ⟨before, split, taken, -⟩ := session.exists_take goal text
  obtain ⟨before', split', lines⟩ := session.exists_lines_takeBehind goal [] 0 text
  have same : before' = before := List.append_cancel_right (split'.symm.trans split)
  rw [taken, ← same, take, lines, List.append_nil, List.reverse_reverse]

end Session

end SerialDialogue
