import SerialDialogue.Failure

/-!
# Configurations

What a configuration says: the serial line, the timeouts as written, the scripts and
the try blocks, with the values that hold where it says nothing.
-/

namespace SerialDialogue

/-- The serial line of a session. -/
structure SerialSettings where
  device : String := ""
  /-- Baud rate. -/
  speed : Nat := 115200
  /-- Even parity. -/
  parity : Bool := false
  /-- Data bits. -/
  bits : Nat := 8
  deriving Repr, DecidableEq

/-- The timeouts as written. -/
structure TimeoutLiterals where
  script : Option String := none
  receive : Option String := none
  deriving Repr, DecidableEq

/-- The timeouts in effect. -/
structure Timeouts where
  /-- Bound on a whole session. -/
  script : Duration
  /-- Bound on a single expect. -/
  receive : Duration
  deriving Repr, DecidableEq

/-- A script of a configuration; an empty name stands for none. -/
structure NamedScript where
  name : String := ""
  body : String
  deriving Repr, DecidableEq

/-- A try block: run a script, retry it once if asked to, and fall back to another
script when every attempt fails. -/
structure TryBlock where
  name : String := ""
  script : String
  except : Option String := none
  retry : Bool := false
  deriving Repr, DecidableEq

/-- The script to fall back to; an empty name stands for none. -/
def TryBlock.fallbackName (block : TryBlock) : Option String :=
  block.except.filter (· ≠ "")

/-- A configuration. -/
structure Config where
  serial : SerialSettings := {}
  timeout : TimeoutLiterals := {}
  scripts : List NamedScript := []
  tries : List TryBlock := []
  deriving Repr, DecidableEq

namespace Timeouts

def defaultScript : Duration := .ofSeconds 60

def defaultReceive : Duration := .ofSeconds 30

end Timeouts

/-- The timeout of a literal, or the given one where there is none but blanks. -/
def TimeoutName.resolve (name : TimeoutName) (literal : Option String) (default : Duration) :
    Except ConfigError Duration :=
  match literal with
  | none => .ok default
  | some text =>
      if (Text.trim text).isEmpty then
        .ok default
      else
        (Duration.parse? text).mapError (.badTimeout name)

def TimeoutLiterals.resolve (literals : TimeoutLiterals) : Except ConfigError Timeouts := do
  let script ← TimeoutName.script.resolve literals.script Timeouts.defaultScript
  let receive ← TimeoutName.receive.resolve literals.receive Timeouts.defaultReceive
  return ⟨script, receive⟩

def Config.timeouts (config : Config) : Except Failure Timeouts :=
  config.timeout.resolve.mapError .config

end SerialDialogue
