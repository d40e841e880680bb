/-!
# Blank characters

Which characters count as white space, and what is left of a text when the blank
characters at its ends are dropped.  Every place of the library that trims uses
these definitions, so that a script line, a duration literal and a received line
agree on what surrounds them.
-/

namespace SerialDialogue

namespace Text

/-- The characters with the Unicode property `White_Space`. -/
def isBlank (c : Char) : Bool :=
  let n := c.toNat
  (9 ≤ n && n ≤ 13) || n == 0x20 || n == 0x85 || n == 0xA0 || n == 0x1680 ||
    (0x2000 ≤ n && n ≤ 0x200A) || n == 0x2028 || n == 0x2029 || n == 0x202F ||
    n == 0x205F || n == 0x3000

/-- Characters without the blank ones in front. -/
def dropBlankStart (text : List Char) : List Char :=
  text.dropWhile isBlank

/-- Characters without those at the end that satisfy `p`. -/
def dropEnd (p : Char → Bool) (text : List Char) : List Char :=
  (text.reverse.dropWhile p).reverse

/-- Characters without the blank ones at the end. -/
def dropBlankEnd (text : List Char) : List Char :=
  dropEnd isBlank text

/-- Characters without the blank ones at either end. -/
def dropBlankEnds (text : List Char) : List Char :=
  dropBlankEnd (dropBlankStart text)

/-- A string without the blank characters at either end. -/
def trim (s : String) : String :=
  String.ofList (dropBlankEnds s.toList)

/-- Put one character in front of a text that is already cut into pieces. -/
def consPiece (mark c : Char) (pieces : List (List Char)) : List (List Char) :=
  if c = mark then
    [] :: pieces
  else
    match pieces with
    | [] => [[c]]
    | piece :: later => (c :: piece) :: later

/-- Cut a text at every occurrence of `mark`, which is dropped; `n` marks give
`n + 1` pieces. -/
def pieces (mark : Char) (text : List Char) : List (List Char) :=
  text.foldr (consPiece mark) [[]]

@[simp]
theorem pieces_nil (mark : Char) : pieces mark [] = [[]] :=
  rfl

theorem pieces_cons (mark c : Char) (text : List Char) :
    pieces mark (c :: text) = consPiece mark c (pieces mark text) :=
  rfl

theorem pieces_ne_nil (mark : Char) (text : List Char) : pieces mark text ≠ [] := by
  cases text with
  | nil => simp
  | cons c rest =>
      simp only [pieces_cons, consPiece]
      split
      · simp
      · split <;> simp

end Text

end SerialDialogue
