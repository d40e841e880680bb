import SerialDialogue.Step.Verb

/-!
# Scripts

A script has one step a line.  Blank lines do not matter, nor do blanks around a
line.  A script is read in full or not at all: the first line that is no step is
reported, with its number counted from the first line that is not blank.
-/

namespace SerialDialogue

namespace Script

/-- A line cut behind its first word: the word, and what follows the blanks behind
it. -/
def splitWord (line : List Char) : List Char × List Char :=
  (line.takeWhile (!Text.isBlank ·),
    Text.dropBlankStart (line.dropWhile (!Text.isBlank ·)))

def readLine (line : List Char) : Except Reason Step :=
  let (word, argument) := splitWord line
  match Verb.ofText? (String.ofList word) with
  | some verb => verb.read (String.ofList argument)
  | none => .error .unknownCommand

/-- The steps of lines without blanks around them; the first line has the given
number. -/
def readLines (number : Nat) : List (List Char) → Except Failure (List Step)
  | [] => .ok []
  | line :: later =>
      if line.isEmpty then
        readLines (number + 1) later
      else
        match readLine line with
        | .error reason => .error (.parse number (String.ofList line) reason)
        | .ok step => (readLines (number + 1) later).map (step :: ·)

/-- The lines of a script, without the blanks around each and around all of them. -/
def lines (body : String) : List (List Char) :=
  (Text.pieces '\n' (Text.dropBlankEnds body.toList)).map Text.dropBlankEnds

/-- The steps of a script. -/
def parse? (body : String) : Except Failure (List Step) :=
  readLines 1 (lines body)

end Script

end SerialDialogue
