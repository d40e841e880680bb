import SerialDialogue.Regex.Basic
import SerialDialogue.Text.Blank
import SerialDialogue.Text.Framed
import SerialDialogue.Text.Lowercase

/-!
# Patterns

What a script waits for.  The delimiters of a pattern select how it matches:

* `'text'` anywhere in the text received so far, whatever the letter case;
* `"text"` at the start of the line in progress, blanks around the line apart;
* `/expression/` somewhere in the line in progress, as a regular expression.

A pattern matches a text and the line in progress.  `matchesLowered` expects a text
that is lower-cased already; `isMatch` lowers the text first.
-/

namespace SerialDialogue

/-- Why a text is no pattern. -/
inductive PatternError where
  | tooShort
  | unknownDelimiter
  | regex (cause : Regex.Error)
  deriving Repr, DecidableEq

def PatternError.message : PatternError → String
  | tooShort => "pattern too short"
  | unknownDelimiter => "invalid pattern format, expected '...', \"...\" or /.../"
  | regex cause => "invalid regex: " ++ cause.message

/-- The test behind a pattern; a substring is kept in lower case. -/
inductive Matcher where
  | substring (needle : String)
  | lineStart (text : String)
  | regex (regex : Regex)

/-- A compiled pattern: its text without the delimiters, and its test. -/
structure Pattern where
  text : String
  matcher : Matcher

namespace Pattern

/-- The kinds of patterns. -/
inductive Kind where
  | substring
  | lineStart
  | regex
  deriving Repr, DecidableEq

def kind (pattern : Pattern) : Kind :=
  match pattern.matcher with
  | .substring _ => .substring
  | .lineStart _ => .lineStart
  | .regex _ => .regex

/-- The pattern that a delimited text stands for. -/
def compile? (raw : String) : Except PatternError Pattern :=
  match Text.framing raw.toList with
  | .short => .error .tooShort
  | .bare => .error .unknownDelimiter
  | .framed first inner last =>
      let text := String.ofList inner
      if first = '\'' ∧ last = '\'' then
        .ok ⟨text, .substring (Text.lowercase text)⟩
      else if first = '"' ∧ last = '"' then
        .ok ⟨text, .lineStart text⟩
      else if first = '/' ∧ last = '/' then
        match Regex.compile? text with
        | .ok regex => .ok ⟨text, .regex regex⟩
        | .error cause => .error (.regex cause)
      else
        .error .unknownDelimiter

/-- The pattern matches a text that is already in lower case, or the line in
progress. -/
def matchesLowered (pattern : Pattern) (lowered line : String) : Bool :=
  match pattern.matcher with
  | .substring needle => lowered.contains needle
  | .lineStart text => text.toList.isPrefixOf (Text.dropBlankEnds line.toList)
  | .regex regex => regex.isMatch line

/-- The pattern matches the text received so far, or the line in progress. -/
def isMatch (pattern : Pattern) (received line : String) : Bool :=
  match pattern.matcher with
  | .substring _ => pattern.matchesLowered (Text.lowercase received) line
  | _ => pattern.matchesLowered received line

/-- The pattern matches one complete line. -/
def matchesLine (pattern : Pattern) (line : String) : Bool :=
  pattern.isMatch line line

end Pattern

end SerialDialogue
