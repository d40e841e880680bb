import SerialDialogue.Session.Goal

/-!
# Taking characters

Whatever characters are taken for, those that are taken are pushed one after another, and
the others are left in their order.  Of one text behind another one either the first is enough to
reach the goal, or what is left of the goal is what the second is taken for.
-/

namespace SerialDialogue

namespace Session

/-- Push characters one after another. -/
def pushAll (session : Session) (text : List Char) : Session :=
  text.foldl (fun session c => (session.push c).2) session

theorem exists_takeBehind (session : Session) (goal : Goal) (lines : List String) (count : Nat)
    (text : List Char) :
    ∃ before, text = before ++ (session.takeBehind goal lines count text).rest ∧
      (session.takeBehind goal lines count text).count = count + before.length ∧
      (session.takeBehind goal lines count text).session = session.pushAll before := by
  induction text generalizing session goal lines count with
  | nil => exact ⟨[], rfl, rfl, rfl⟩
  | cons c rest ih =>
      unfold takeBehind
      dsimp only
      split
      · exact ⟨[c], rfl, rfl, rfl⟩
      · rename_i left _
        obtain ⟨before, split, counted, pushed⟩ :=
          ih (session.push c).2 left ((session.push c).1.toList ++ lines) (count + 1)
        refine ⟨c :: before, congrArg (c :: ·) split, ?_, pushed⟩
        rw [counted, List.length_cons]
        omega

/-- What is taken is pushed, and what is left comes behind it. -/
theorem exists_take (session : Session) (goal : Goal) (text : List Char) :
    ∃ before, text = before ++ (session.take goal text).rest ∧
      text.take (session.take goal text).count = before ∧
      (session.take goal text).session = session.pushAll before := by
  obtain ⟨before, split, counted, pushed⟩ := session.exists_takeBehind goal [] 0 text
  refine ⟨before, split, ?_, pushed⟩
  rw [take, counted, Nat.zero_add]
  exact (congrArg (List.take before.length) split).trans List.take_left

/-- What characters are taken for as long as there are any is never reached. -/
theorem goal_takeBehind_endless (session : Session) (lines : List String) (count : Nat)
    (text : List Char) : (session.takeBehind .endless lines count text).goal = some .endless := by
  induction text generalizing session lines count with
  | nil => rfl
  | cons c rest ih => exact ih (session.push c).2 _ (count + 1)

/-! ## One text behind another one -/

section Append

variable (session : Session) (goal : Goal) (lines : List String) (count : Nat)

/-- What is completed and counted already does not matter for what is taken. -/
theorem takeBehind_eq (text : List Char) :
    session.takeBehind goal lines count text =
      { session.take goal text with
        lines := (session.take goal text).lines ++ lines
        count := count + (session.take goal text).count } := by
  induction text generalizing session goal lines count with
  | nil => rfl
  | cons c rest ih =>
      rw [take, takeBehind, takeBehind]
      dsimp only
      cases goal.after (session.push c).2 c (session.push c).1.isSome with
      | none => simp
      | some left =>
          dsimp only
          rw [ih, ih (session.push c).2 left ((session.push c).1.toList ++ []) (0 + 1)]
          simp [Nat.add_assoc]

theorem takeBehind_of_left {left : Goal} (text : List Char)
    (goalLeft : (session.takeBehind goal lines count text).goal = some left) :
    (session.takeBehind goal lines count text).rest = [] ∧
      (session.takeBehind goal lines count text).count = count + text.length := by
  induction text generalizing session goal lines count with
  | nil => exact ⟨rfl, rfl⟩
  | cons c rest ih =>
      rw [takeBehind] at goalLeft ⊢
      dsimp only at goalLeft ⊢
      cases after : goal.after (session.push c).2 c (session.push c).1.isSome with
      | none => simp [after] at goalLeft
      | some further =>
          rw [after] at goalLeft
          obtain ⟨nothing, counted⟩ := ih _ _ _ _ goalLeft
          refine ⟨nothing, counted.trans ?_⟩
          rw [List.length_cons]
          omega

/-- Nothing changes behind a goal that is reached. -/
theorem takeBehind_append_of_reached (first second : List Char)
    (reached : (session.takeBehind goal lines count first).goal = none) :
    session.takeBehind goal lines count (first ++ second) =
      { session.takeBehind goal lines count first with
        rest := (session.takeBehind goal lines count first).rest ++ second } := by
  induction first generalizing session goal lines count with
  | nil => cases reached
  | cons c rest ih =>
      rw [takeBehind] at reached
      rw [List.cons_append, takeBehind, takeBehind]
      dsimp only at reached ⊢
      cases after : goal.after (session.push c).2 c (session.push c).1.isSome with
      | none => rfl
      | some further =>
          rw [after] at reached
          exact ih _ _ _ _ reached

/-- A goal that is not reached is what the next characters are taken for. -/
theorem takeBehind_append_of_left {left : Goal} (first second : List Char)
    (goalLeft : (session.takeBehind goal lines count first).goal = some left) :
    session.takeBehind goal lines count (first ++ second) =
      (session.takeBehind goal lines count first).session.takeBehind left
        (session.takeBehind goal lines count first).lines
        (session.takeBehind goal lines count first).count second := by
  induction first generalizing session goal lines count with
  | nil =>
      cases goalLeft
      rfl
  | cons c rest ih =>
      rw [takeBehind] at goalLeft
      rw [List.cons_append, takeBehind, takeBehind]
      dsimp only at goalLeft ⊢
      cases after : goal.after (session.push c).2 c (session.push c).1.isSome with
      | none => simp [after] at goalLeft
      | some further =>
          rw [after] at goalLeft
          exact ih _ _ _ _ goalLeft

theorem count_take_le (text : List Char) : (session.take goal text).count ≤ text.length := by
  obtain ⟨before, split, counted, -⟩ := session.exists_takeBehind goal [] 0 text
  have := congrArg List.length split
  rw [List.length_append] at this
  rw [take, counted]
  omega

variable {session goal}

theorem count_pos_of_reached {text : List Char} (reached : (session.take goal text).goal = none) :
    0 < (session.take goal text).count := by
  cases text with
  | nil => cases reached
  | cons c rest =>
      rw [take, takeBehind]
      dsimp only
      split
      · exact Nat.succ_pos _
      · rw [takeBehind_eq]
        dsimp only
        omega

theorem take_append_of_reached (first second : List Char)
    (reached : (session.take goal first).goal = none) :
    session.take goal (first ++ second) =
      { session.take goal first with rest := (session.take goal first).rest ++ second } :=
  session.takeBehind_append_of_reached goal [] 0 first second reached

/-- What comes of the next characters where the first ones do not reach the goal. -/
theorem take_append_of_left {left : Goal} (first second : List Char)
    (goalLeft : (session.take goal first).goal = some left) :
    let later := (session.take goal first).session.take left second
    (session.take goal (first ++ second)).goal = later.goal ∧
      (session.take goal (first ++ second)).count = first.length + later.count := by
  intro later
  obtain ⟨-, counted⟩ := session.takeBehind_of_left goal [] 0 first goalLeft
  have whole := session.takeBehind_append_of_left goal [] 0 first second goalLeft
  rw [takeBehind_eq _ left, counted, Nat.zero_add] at whole
  rw [take, whole]
  exact ⟨rfl, rfl⟩

end Append

end Session

end SerialDialogue
