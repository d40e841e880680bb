import SerialDialogue.Text.Blank

/-!
# The pieces of a text

A text that is cut at a mark is made of its pieces with the marks between them, and no piece
holds a mark.
-/

namespace SerialDialogue

namespace Text

variable {mark : Char} {text : List Char}

/-- Pieces with a mark behind each. -/
def marked (mark : Char) (pieces : List (List Char)) : List Char :=
  pieces.flatMap fun piece => piece ++ [mark]

@[simp]
theorem marked_nil (mark : Char) : marked mark [] = [] :=
  rfl

@[simp]
theorem marked_cons (mark : Char) (piece : List Char) (pieces : List (List Char)) :
    marked mark (piece :: pieces) = piece ++ mark :: marked mark pieces := by
  simp [marked]

theorem marked_append (mark : Char) (first second : List (List Char)) :
    marked mark (first ++ second) = marked mark first ++ marked mark second :=
  List.flatMap_append

theorem marked_eq_nil_or (mark : Char) (pieces : List (List Char)) :
    marked mark pieces = [] ∨ ∃ before, marked mark pieces = before ++ [mark] := by
  rcases List.eq_nil_or_concat pieces with rfl | ⟨front, piece, rfl⟩
  · exact .inl rfl
  · refine .inr ⟨marked mark front ++ piece, ?_⟩
    rw [List.concat_eq_append, marked_append]
    simp

/-- Of pieces with the marks between them all those in front of one piece are marked. -/
theorem intercalate_append_cons (mark : Char) (front : List (List Char)) (piece : List Char)
    (later : List (List Char)) :
    [mark].intercalate (front ++ piece :: later) =
      marked mark front ++ [mark].intercalate (piece :: later) := by
  induction front with
  | nil => simp
  | cons first front ih =>
      rw [marked_cons, List.append_assoc, List.cons_append, List.cons_append, ← ih]
      cases front <;> simp [List.intercalate]

theorem intercalate_concat (mark : Char) (front : List (List Char)) (last : List Char) :
    [mark].intercalate (front ++ [last]) = marked mark front ++ last := by
  rw [intercalate_append_cons, List.intercalate_singleton]

theorem intercalate_append_head (mark : Char) (text piece : List Char)
    (later : List (List Char)) :
    [mark].intercalate ((text ++ piece) :: later) =
      text ++ [mark].intercalate (piece :: later) := by
  cases later <;> simp [List.intercalate]

theorem pieces_eq_splitOn (mark : Char) (text : List Char) :
    pieces mark text = text.splitOn mark := by
  induction text with
  | nil => rfl
  | cons c rest ih =>
      rw [pieces_cons, ih, List.splitOn_cons_eq_if_modifyHead]
      unfold consPiece
      by_cases same : c = mark
      · simp [same]
      · cases cut : rest.splitOn mark with
        | nil => exact absurd cut (List.splitOn_ne_nil mark rest)
        | cons piece later => simp [same]

theorem intercalate_pieces (mark : Char) (text : List Char) :
    [mark].intercalate (pieces mark text) = text := by
  rw [pieces_eq_splitOn, List.intercalate_splitOn]

theorem prefix_of_pieces_eq {front later : List (List Char)} {piece : List Char}
    (cut : pieces mark text = front ++ piece :: later) : marked mark front ++ piece <+: text := by
  rw [← intercalate_pieces mark text, cut, intercalate_append_cons, List.prefix_append_right_inj]
  have begins := intercalate_append_head mark piece [] later
  rw [List.append_nil] at begins
  rw [begins]
  exact List.prefix_append piece _

theorem pieces_append_cons {piece : List Char} (unmarked : mark ∉ piece) (text : List Char) :
    pieces mark (piece ++ mark :: text) = piece :: pieces mark text := by
  rw [pieces_eq_splitOn, pieces_eq_splitOn, List.splitOn_append_cons_self_of_not_mem unmarked]

theorem pieces_of_not_mem (unmarked : mark ∉ text) : pieces mark text = [text] := by
  rw [pieces_eq_splitOn, List.splitOn_eq_singleton unmarked]

theorem subset_of_mem_splitOn {piece : List Char} (member : piece ∈ text.splitOn mark) :
    piece ⊆ text := by
  rw [← pieces_eq_splitOn] at member
  obtain ⟨front, later, cut⟩ := List.append_of_mem member
  exact fun c inside => (prefix_of_pieces_eq cut).subset (List.mem_append_right _ inside)

theorem not_mem_of_mem_pieces {piece : List Char} (member : piece ∈ pieces mark text) :
    mark ∉ piece := by
  induction text generalizing piece with
  | nil =>
      rw [List.mem_singleton.1 member]
      exact List.not_mem_nil
  | cons c rest ih =>
      rw [pieces_cons] at member
      unfold consPiece at member
      split at member
      · rcases List.mem_cons.1 member with rfl | behind
        · exact List.not_mem_nil
        · exact ih behind
      · rename_i other
        cases whole : pieces mark rest with
        | nil => exact absurd whole (pieces_ne_nil mark rest)
        | cons first more =>
            rw [whole] at member
            rcases List.mem_cons.1 member with rfl | behind
            · intro inside
              rcases List.mem_cons.1 inside with rfl | inside
              · exact other rfl
              · exact ih (by rw [whole]; exact List.mem_cons_self) inside
            · exact ih (by rw [whole]; exact List.mem_cons_of_mem first behind)

/-- Where one text follows another, the last piece of the first one goes on with the first piece
of the second one. -/
theorem splitOn_append {first second last piece : List Char} {front later : List (List Char)}
    (cut : first.splitOn mark = front ++ [last]) (behind : second.splitOn mark = piece :: later) :
    (first ++ second).splitOn mark = front ++ (last ++ piece) :: later := by
  have whole : first ++ second = [mark].intercalate (front ++ (last ++ piece) :: later) := by
    calc
      first ++ second =
          [mark].intercalate (front ++ [last]) ++ [mark].intercalate (piece :: later) := by
        rw [← cut, ← behind, List.intercalate_splitOn, List.intercalate_splitOn]
      _ = marked mark front ++ (last ++ [mark].intercalate (piece :: later)) := by
        rw [intercalate_concat, List.append_assoc]
      _ = [mark].intercalate (front ++ (last ++ piece) :: later) := by
        rw [intercalate_append_cons, intercalate_append_head]
  have inFirst : ∀ inside ∈ front ++ [last], mark ∉ inside := by
    rw [← cut, ← pieces_eq_splitOn]
    exact fun inside => not_mem_of_mem_pieces
  have inSecond : ∀ inside ∈ piece :: later, mark ∉ inside := by
    rw [← behind, ← pieces_eq_splitOn]
    exact fun inside => not_mem_of_mem_pieces
  have joined : mark ∉ last ++ piece := by
    rw [List.mem_append]
    exact not_or.2 ⟨inFirst last (by simp), inSecond piece List.mem_cons_self⟩
  have unmarked : ∀ inside ∈ front ++ (last ++ piece) :: later, mark ∉ inside := by
    intro inside member
    rcases List.mem_append.1 member with ahead | member
    · exact inFirst inside (List.mem_append_left _ ahead)
    · rcases List.mem_cons.1 member with rfl | rest
      · exact joined
      · exact inSecond inside (List.mem_cons_of_mem piece rest)
  rw [whole, List.splitOn_intercalate mark unmarked (by simp)]

theorem exists_splitOn_append (mark : Char) (first second : List Char) :
    ∃ front last piece later, first.splitOn mark = front ++ [last] ∧
      second.splitOn mark = piece :: later ∧
      (first ++ second).splitOn mark = front ++ (last ++ piece) :: later := by
  obtain nothing | ⟨front, last, cut⟩ := List.eq_nil_or_concat (first.splitOn mark)
  · exact absurd nothing (List.splitOn_ne_nil mark first)
  · rw [List.concat_eq_append] at cut
    cases behind : second.splitOn mark with
    | nil => exact absurd behind (List.splitOn_ne_nil mark second)
    | cons piece later =>
        exact ⟨front, last, piece, later, cut, rfl, splitOn_append cut behind⟩

end Text

end SerialDialogue
