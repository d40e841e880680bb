/-!
# Character properties

A property is a set of code points with one or more names.  The set is kept as text,
as closed ranges in hexadecimal separated by blanks, and read once.
-/

namespace SerialDialogue

namespace Unicode

/-- A property under its names (lower case, without separators) and the text of its
ranges. -/
structure Property where
  names : List String
  text : String

namespace Property

/-- A reading of ranges: those already read (last one first), the lower end of the one
begun, and the number being read. -/
structure Reading where
  ranges : List (Nat × Nat) := []
  low : Option Nat := none
  value : Option Nat := none

def hexValue (c : Char) : Nat :=
  if c.isDigit then c.toNat - '0'.toNat else c.toNat - 'a'.toNat + 10

/-- End the range that is being read, if there is one. -/
def Reading.close (reading : Reading) : Reading :=
  match reading.value with
  | none => reading
  | some high => { ranges := (reading.low.getD high, high) :: reading.ranges }

def Reading.push (reading : Reading) (c : Char) : Reading :=
  if c = ' ' || c = '\n' then
    reading.close
  else if c = '-' then
    { reading with low := reading.value, value := none }
  else
    { reading with value := some (reading.value.getD 0 * 16 + hexValue c) }

/-- The ranges of a property, in increasing order. -/
def ranges (property : Property) : List (Nat × Nat) :=
  (property.text.foldl Reading.push {}).close.ranges.reverse

def find? (table : List Property) (name : String) : Option Property :=
  table.find? (·.names.contains name)

end Property

end Unicode

end SerialDialogue
