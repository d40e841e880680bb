import SerialDialogue.Config.Basic
import SerialDialogue.Step.Verb

/-!
# Commands

What a session carries out: the steps of scripts, and try blocks with the steps of
their scripts.  The steps of a try block are steps of scripts, so no try block can
hold another.
-/

namespace SerialDialogue

/-- One command of a session. -/
inductive Command where
  | step (step : Step)
  /-- Run `main`, and `fallback` where no attempt succeeds. -/
  | attempt (block : TryBlock) (main : List Step) (fallback : Option (List Step))

namespace Command

/-- A command as messages show it. -/
def text : Command → String
  | step instruction => instruction.text
  | attempt block _ _ => "try " ++ block.name

def verb : Command → Verb
  | step instruction => instruction.verb
  | attempt .. => .attempt

/-- The command is a monitor, or a try block with one in it. -/
def monitors : Command → Bool
  | step instruction => instruction.monitors
  | attempt _ main fallback => (main ++ fallback.getD []).any Step.monitors

end Command

end SerialDialogue
