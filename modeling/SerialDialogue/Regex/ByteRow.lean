import SerialDialogue.Unicode.CharSet

/-!
# Characters as rows of bytes

The characters between two others, as their UTF-8 forms.  A row has a range of values
for every byte of a character and stands for all choices of one value from each range.
A range of characters is cut into as few pieces as there are rows, in increasing order.
-/

namespace SerialDialogue

namespace Regex

open Unicode

/-- A range of values for every byte of a character. -/
abbrev ByteRow := List (UInt8 × UInt8)

/-- Cut a range of code points behind `mark`. -/
def cutBehind (mark : Nat) (range : Nat × Nat) : List (Nat × Nat) :=
  if range.1 ≤ mark ∧ mark < range.2 then
    [(range.1, mark), (mark + 1, range.2)]
  else
    [range]

def withoutSurrogates (range : Nat × Nat) : List (Nat × Nat) :=
  let (low, high) := range
  (if low < 0xD800 then [(low, min high 0xD7FF)] else []) ++
    (if 0xDFFF < high then [(max low 0xE000, high)] else [])

/-- Cut a range that reaches into several blocks of the given size: the end of its
first block, the whole blocks, and the beginning of its last block. -/
def cutAtBlocks (size : Nat) (range : Nat × Nat) : List (Nat × Nat) :=
  let (low, high) := range
  if low / size = high / size then
    [range]
  else
    let start := if low % size = 0 then low else (low / size + 1) * size
    let stop := if (high + 1) % size = 0 then high + 1 else high / size * size
    (if low < start then [(low, start - 1)] else []) ++
      (if start < stop then [(start, stop - 1)] else []) ++
      (if stop ≤ high then [(stop, high)] else [])

/-- The pieces of a range of which each is a row.  The bytes behind the first one have
six bits each, so a piece beyond ASCII is cut at blocks of 64, 64² and 64³. -/
def rowPieces (range : Nat × Nat) : List (Nat × Nat) :=
  let sized :=
    (((withoutSurrogates range).flatMap (cutBehind 0x7F)).flatMap (cutBehind 0x7FF)).flatMap
      (cutBehind 0xFFFF)
  sized.flatMap fun piece =>
    if piece.2 < 0x80 then
      [piece]
    else
      ((cutAtBlocks 64 piece).flatMap (cutAtBlocks 4096)).flatMap (cutAtBlocks 262144)

/-- The row between the UTF-8 forms of two code points. -/
def rowBetween (piece : Nat × Nat) : ByteRow :=
  (String.utf8EncodeChar (Char.ofNat piece.1)).zip (String.utf8EncodeChar (Char.ofNat piece.2))

def byteRows (chars : CharSet) : List ByteRow :=
  (chars.toList.flatMap rowPieces).map rowBetween

def textBytes (chars : List Char) : List UInt8 :=
  chars.flatMap String.utf8EncodeChar

end Regex

end SerialDialogue
