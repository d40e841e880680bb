import SerialDialogue.Pattern
import SerialDialogue.Text.Recent

/-!
# Sessions

What a session remembers of the characters it has taken: the text since the last
match, its lower-case form, and the line in progress.  The text is bounded; when it
grows past the limit only its most recent half is kept.
-/

namespace SerialDialogue

/-- What has been taken and not been forgotten. -/
structure Session where
  /-- The text since the last match. -/
  text : String := ""
  /-- `text` with every character lowered by itself. -/
  lowered : String := ""
  /-- The line in progress. -/
  line : String := ""
  /-- How many lines have been completed. -/
  lineCount : Nat := 0
  deriving Repr, DecidableEq

namespace Session

/-- The bytes of text that are remembered at most. -/
def limit : Nat := 10000

/-- The text with one more character, cut where it passes the limit. -/
def extend (session : Session) (c : Char) : Session :=
  let text := session.text.push c
  let lowered := (Text.lowerChar c).foldl String.push session.lowered
  if limit < text.utf8ByteSize then
    { session with
      text := Text.recentBytes (limit / 2) text
      lowered := Text.recentBytes (limit / 2) lowered }
  else
    { session with text := text, lowered := lowered }

@[simp]
theorem line_extend (session : Session) (c : Char) : (session.extend c).line = session.line := by
  unfold extend
  dsimp only
  split <;> rfl

@[simp]
theorem lineCount_extend (session : Session) (c : Char) :
    (session.extend c).lineCount = session.lineCount := by
  unfold extend
  dsimp only
  split <;> rfl

/-- A line without the carriage returns and newlines at its end. -/
def withoutTerminator (line : String) : String :=
  String.ofList (Text.dropEnd (fun c => c == '\r' || c == '\n') line.toList)

/-- Take one character.  A newline completes the line in progress, which is given
back. -/
def push (session : Session) (c : Char) : Option String × Session :=
  let extended := session.extend c
  if c = '\n' then
    (some (withoutTerminator extended.line),
      { extended with line := "", lineCount := extended.lineCount + 1 })
  else
    (none, { extended with line := extended.line.push c })

def isMatch (session : Session) (pattern : Pattern) : Bool :=
  pattern.matchesLowered session.lowered session.line

/-- Forget the text, but not the line in progress. -/
def forgetText (session : Session) : Session :=
  { session with text := "", lowered := "" }

def forget (session : Session) : Session :=
  { session.forgetText with line := "" }

end Session

end SerialDialogue
