import SerialDialogue.Regex.Class

/-!
# Tests on a position

What a regular expression can ask for between two characters of a text: the ends of
the text, the ends of a line, and the sides of a word.  A test looks at the two
neighbours of the position only, so a search never has to look ahead by more than one
character.
-/

namespace SerialDialogue

namespace Regex

/-- The sides of a word that a position can be asked for. -/
inductive WordSide where
  | boundary
  | notBoundary
  | start
  | finish
  | startHalf
  | finishHalf
  deriving Repr, DecidableEq

/-- A test on a position in a text. -/
inductive Look where
  | textStart
  | textEnd
  | lineStart (carriageReturn : Bool)
  | lineEnd (carriageReturn : Bool)
  | word (side : WordSide) (unicode : Bool)
  deriving Repr, DecidableEq

/-- The test holds between the characters `before` and `after`, where there are any. -/
def Look.holds (look : Look) (before after : Option Char) : Bool :=
  match look with
  | .textStart => before.isNone
  | .textEnd => after.isNone
  | .lineStart false => before.isNone || before = some '\n'
  | .lineEnd false => after.isNone || after = some '\n'
  | .lineStart true =>
      before.isNone || before = some '\n' || (before = some '\r' && after != some '\n')
  | .lineEnd true =>
      after.isNone || after = some '\r' || (after = some '\n' && before != some '\r')
  | .word side unicode =>
      let inWord (c : Option Char) : Bool :=
        match c with
        | none => false
        | some c => if unicode then isWord c else isAsciiWord c
      match side with
      | .boundary => inWord before != inWord after
      | .notBoundary => inWord before == inWord after
      | .start => !inWord before && inWord after
      | .finish => inWord before && !inWord after
      | .startHalf => !inWord before
      | .finishHalf => !inWord after

end Regex

end SerialDialogue
