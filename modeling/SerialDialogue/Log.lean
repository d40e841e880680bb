import SerialDialogue.Duration.Display
import SerialDialogue.Step.Basic
import SerialDialogue.Text.Quoted

/-!
# The log

What a session says while it runs: entries of three levels, each from a part of the
program, and the wording of those that live sessions and replays have in common.
-/

namespace SerialDialogue

/-- How much an entry of the log matters. -/
inductive Level where
  | debug
  | info
  | warn
  deriving Repr, DecidableEq

def Level.text : Level → String
  | debug => "DEBUG"
  | info => "INFO"
  | warn => "WARN"

/-- The parts of the program that speak in the log. -/
inductive Speaker where
  | logging
  | dialogue
  | replay
  | engine
  | channel
  | listener
  | send
  | expect
  | monitor
  | attempt
  /-- What drives the serial line, which the dialogue knows nothing of. -/
  | driver
  deriving Repr, DecidableEq

/-- The name that a log filter knows a part of the program by.  The parts of a name are
a path, so a filter can name several parts of the program at once by what their names
begin with. -/
def Speaker.target : Speaker → String
  | logging => "serial_expect::logging"
  | dialogue => "serial_expect::orchestrator"
  | replay => "serial_expect::dry_run"
  | engine => "serial_expect::engine"
  | channel => "serial_expect::channel"
  | listener => "serial_expect::command"
  | send => "serial_expect::commands::send_input"
  | expect => "serial_expect::commands::expect"
  | monitor => "serial_expect::commands::monitor"
  | attempt => "serial_expect::commands::try_block"
  | driver => "mio_serial"

/-- One entry of the log. -/
structure LogEntry where
  level : Level
  speaker : Speaker
  message : String
  deriving Repr, DecidableEq

namespace LogEntry

def debug (speaker : Speaker) (message : String) : LogEntry := ⟨.debug, speaker, message⟩

def info (speaker : Speaker) (message : String) : LogEntry := ⟨.info, speaker, message⟩

def warn (speaker : Speaker) (message : String) : LogEntry := ⟨.warn, speaker, message⟩

def sent (text : String) : LogEntry :=
  info .send ("TX: " ++ Text.quote text)

/-- A line has come in, for a part of the program that shows what comes in. -/
def received (level : Level) (speaker : Speaker) (line : String) : LogEntry :=
  ⟨level, speaker, "RX: " ++ line⟩

def expecting (raw : String) : LogEntry :=
  info .expect ("EXPECT: " ++ raw)

def matched (raw : String) : LogEntry :=
  info .expect ("MATCHED: " ++ raw)

end LogEntry

end SerialDialogue
