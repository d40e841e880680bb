/-!
# Framed text

A text between two delimiters, as in `'login:'`.  Only ASCII characters can be
delimiters, and a text needs two bytes before there is room for a pair of them.
-/

namespace SerialDialogue

namespace Text

/-- How a text begins and ends. -/
inductive Framing where
  /-- Fewer than two bytes. -/
  | short
  /-- The first or the last character is not ASCII. -/
  | bare
  /-- The ASCII characters at both ends, and what is between them. -/
  | framed (first : Char) (inner : List Char) (last : Char)
  deriving Repr, DecidableEq

def framing (text : List Char) : Framing :=
  match text with
  | [] => .short
  | [c] => if c.toNat < 0x80 then .short else .bare
  | first :: second :: rest =>
      let last := (second :: rest).getLast (by simp)
      if first.toNat < 0x80 ∧ last.toNat < 0x80 then
        .framed first (second :: rest).dropLast last
      else
        .bare

theorem eq_of_framing {text inner : List Char} {first last : Char}
    (h : framing text = .framed first inner last) : text = first :: (inner ++ [last]) := by
  unfold framing at h
  split at h
  · cases h
  · split at h <;> cases h
  · rename_i head second rest
    simp only at h
    split at h
    · cases h
      rw [List.dropLast_concat_getLast]
    · cases h

end Text

end SerialDialogue
