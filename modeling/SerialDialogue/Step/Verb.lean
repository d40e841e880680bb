import SerialDialogue.Failure
import SerialDialogue.Step.Basic

/-!
# Verbs

The words that name commands, how each of them reads its argument, and how a step is
written.
-/

namespace SerialDialogue

/-- The words that name commands. -/
inductive Verb where
  | send
  | expect
  | monitor
  | attempt
  deriving Repr, DecidableEq

namespace Verb

def text : Verb → String
  | send => "send"
  | expect => "expect"
  | monitor => "monitor"
  | attempt => "try"

/-- The verbs that a script may use. -/
def scripted : List Verb :=
  [send, expect, monitor]

def ofText? (word : String) : Option Verb :=
  scripted.find? fun verb => verb.text = word

end Verb

/-- A count of lines: decimal digits, perhaps behind a plus sign, with a value below
`2 ^ 64`. -/
def Bound.lineCount? (text : List Char) : Option Nat :=
  let digits :=
    match text with
    | '+' :: rest => rest
    | _ => text
  if digits.isEmpty then
    none
  else
    match Duration.Literal.digitsFrom 0 digits with
    | some count => if count < 0x10000000000000000 then some count else none
    | none => none

/-- The bound that the argument of a monitor stands for. -/
def Bound.parse? (raw : String) : Except Reason Bound :=
  if raw.isEmpty then
    .ok .indefinite
  else
    match Duration.parse? raw with
    | .ok length => .ok (.duration length)
    | .error _ =>
        match lineCount? raw.toList with
        | some count => .ok (.lines count)
        | none => .error (.badBound raw)

/-- The step that a verb makes of its argument.  Try blocks have no written form. -/
def Verb.read (verb : Verb) (raw : String) : Except Reason Step :=
  match verb with
  | send => if raw.isEmpty then .error .missingValue else .ok (.send raw)
  | expect =>
      if raw.isEmpty then
        .error .missingPattern
      else
        match Pattern.compile? raw with
        | .ok pattern => .ok (.expect raw pattern)
        | .error cause => .error (.badPattern raw cause)
  | monitor => (Bound.parse? raw).map (.monitor raw)
  | attempt => .error .notWritten

namespace Step

def verb : Step → Verb
  | send _ => .send
  | expect .. => .expect
  | monitor .. => .monitor

def text : Step → String
  | send raw => "send " ++ raw
  | expect raw _ => "expect " ++ raw
  | monitor raw _ => if raw.isEmpty then "monitor" else "monitor " ++ raw

end Step

end SerialDialogue
