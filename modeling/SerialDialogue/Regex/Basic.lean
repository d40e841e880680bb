import SerialDialogue.Regex.Draft
import SerialDialogue.Regex.Meaning
import SerialDialogue.Regex.Parser
import SerialDialogue.Regex.Program

/-!
# Regular expressions

A compiled regular expression and the search for a match anywhere in a text.  The
search reads the text once, from left to right; a `Scan` is where it stands between
two characters, so a text that grows at its end need not be read again.
-/

namespace SerialDialogue

/-- A regular expression: its text and its program. -/
structure Regex where
  source : String
  program : Regex.Program

namespace Regex

/-- Where a search stands: whether a match has been found, the character before, and
the threads that have come this far. -/
structure Scan where
  found : Bool := false
  before : Option Char := none
  threads : List Nat := []

/-- Follow forks and tests from the threads of a stack.  `seen` says which places of
the program were visited; the result says whether the program is done at one of them
and lists the places that wait for a character. -/
def reach (program : Program) (before after : Option Char) :
    Nat → List Nat → Array Bool → List Nat → Bool × List Nat
  | 0, _, _, waiting => (false, waiting)
  | _, [], _, waiting => (false, waiting)
  | fuel + 1, place :: stack, seen, waiting =>
      if seen.getD place false then
        reach program before after fuel stack seen waiting
      else
        let seen := seen.setIfInBounds place true
        match program.code[place]? with
        | none => reach program before after fuel stack seen waiting
        | some (.take _ _) => reach program before after fuel stack seen (place :: waiting)
        | some (.test look next) =>
            let stack := if look.holds before after then next :: stack else stack
            reach program before after fuel stack seen waiting
        | some (.fork first second) =>
            reach program before after fuel (first :: second :: stack) seen waiting
        | some .done => (true, waiting)

/-- Where a thread that waits at a place goes on with a character. -/
def Program.advance? (program : Program) (c : Char) (place : Nat) : Option Nat :=
  match program.code[place]? with
  | some (.take chars next) => if chars.has c then some next else none
  | _ => none

namespace Scan

/-- Everything that can be reached where the scan stands; a new thread starts at every
place of the text. -/
def reached (program : Program) (scan : Scan) (after : Option Char) : Bool × List Nat :=
  let stack := scan.threads ++ [program.start]
  let steps := 2 * program.code.size + stack.length + 1
  reach program scan.before after steps stack (Array.replicate program.code.size false) []

def push (program : Program) (scan : Scan) (c : Char) : Scan :=
  if scan.found then
    scan
  else
    let (found, waiting) := scan.reached program (some c)
    if found then
      { found := true }
    else
      { before := some c, threads := waiting.filterMap (program.advance? c) }

/-- There is a match in a text that ends here. -/
def accepts (program : Program) (scan : Scan) : Bool :=
  scan.found || (scan.reached program none).1

end Scan

def isMatch (regex : Regex) (text : String) : Bool :=
  (text.foldl (Scan.push regex.program) {}).accepts regex.program

def compile? (source : String) : Except Error Regex := do
  let tree ← Tree.parse? source.toList
  let (expression, _) ← tree.toExpression {}
  if expression.fits then
    return ⟨source, expression.program⟩
  else
    throw .tooLarge

end Regex

end SerialDialogue
