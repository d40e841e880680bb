import SerialDialogue.Duration.Basic
import SerialDialogue.Pattern

/-!
# Steps

The instructions of a script.  A step keeps its argument as it was written, and what
the argument means.
-/

namespace SerialDialogue

/-- When a monitor stops. -/
inductive Bound where
  | indefinite
  | duration (length : Duration)
  | lines (count : Nat)
  deriving Repr, DecidableEq

/-- One instruction of a script. -/
inductive Step where
  /-- Send a text to the device. -/
  | send (raw : String)
  /-- Wait for a pattern. -/
  | expect (raw : String) (pattern : Pattern)
  /-- Log the lines that come in. -/
  | monitor (raw : String) (bound : Bound)

namespace Step

/-- Every backslash that stands before `letter` goes, and `letter` becomes
`replacement`. -/
def unescape (letter replacement : Char) : List Char → List Char
  | '\\' :: c :: rest =>
      if c = letter then
        replacement :: unescape letter replacement rest
      else
        '\\' :: unescape letter replacement (c :: rest)
  | c :: rest => c :: unescape letter replacement rest
  | [] => []

/-- What is sent for a text as it was written: between single quotes the text and a
carriage return, between double quotes the text with carriage returns and newlines
for their escapes, otherwise the text itself. -/
def payload (raw : String) : String :=
  match Text.framing raw.toList with
  | .framed '\'' inner '\'' => String.ofList (inner ++ ['\r'])
  | .framed '"' inner '"' => String.ofList (unescape 'n' '\n' (unescape 'r' '\r' inner))
  | _ => raw

/-- The argument as it was written. -/
def raw : Step → String
  | send raw => raw
  | expect raw _ => raw
  | monitor raw _ => raw

def monitors : Step → Bool
  | monitor .. => true
  | _ => false

end Step

end SerialDialogue
