import SerialDialogue.Book
import SerialDialogue.Engine.Run
import SerialDialogue.Transcript

/-!
# Dialogues

A whole session, from a configuration and the requested names to its outcome: with a
device that is at hand, with the device that the configuration names, or against a
captured transcript.  All three prepare in the same way, and a dialogue that cannot be
prepared touches neither device nor transcript.
-/

namespace SerialDialogue

/-- What a dialogue is going to do. -/
structure Plan where
  commands : List Command
  timeouts : Timeouts

/-- The effective timeouts, the book of a configuration and the requested entries. -/
def Config.select (config : Config) (requested : List String) :
    Except Failure (Timeouts × Book × List Entry) := do
  let timeouts ← config.timeouts
  let book ← Book.ofConfig? config
  let entries ← book.resolve requested
  return (timeouts, book, entries)

/-- Prepare a dialogue.  What was found out is logged, also when it fails later. -/
def Config.prepare (config : Config) (requested : List String) :
    List LogEntry × Except Failure Plan :=
  match config.select requested with
  | .error failure => ([], .error failure)
  | .ok (timeouts, book, entries) =>
      let selected : List LogEntry :=
        [ .info .dialogue ("Executing: " ++ ", ".intercalate (entries.map Entry.name)),
          .info .dialogue ("Script timeout: " ++ timeouts.script.render),
          .info .dialogue ("Receive timeout: " ++ timeouts.receive.render) ]
      match book.compile entries with
      | .error failure => (selected, .error failure)
      | .ok commands =>
          (selected ++ [.info .dialogue ("Total commands: " ++ toString commands.length)],
            .ok ⟨commands, timeouts⟩)

namespace Engine

def logAll (engine : Engine) (entries : List LogEntry) : Engine :=
  entries.foldl log engine

/-- What was said in the log, with the times. -/
def said (engine : Engine) : List (Nat × LogEntry) :=
  engine.past.reverse.filterMap fun (time, event) =>
    match event with
    | .logged entry => some (time, entry)
    | _ => none

/-- The texts that the device took, with the times. -/
def written (engine : Engine) : List (Nat × String) :=
  engine.past.reverse.filterMap fun (time, event) =>
    match event with
    | .wrote text => some (time, text)
    | _ => none

end Engine

def Config.converse (config : Config) (requested : List String) (device : Device) :
    Ending × Engine :=
  let engine := Engine.ofDevice device
  match config.prepare requested with
  | (log, .error failure) => (.failed failure, engine.logAll log)
  | (log, .ok plan) => (engine.logAll log).run plan.timeouts plan.commands

/-- The serial line can be set up with the configured number of data bits. -/
def SerialSettings.supported (serial : SerialSettings) : Bool :=
  5 ≤ serial.bits && serial.bits ≤ 8

/-- What a dialogue asks of the system: the content of a file, and the device at the end
of a serial line. -/
structure Surroundings (m : Type → Type) where
  readFile : String → m (Except SystemError ByteArray)
  openDevice : SerialSettings → m (Except String Device)

/-- The device of a serial line, or what stands in the way. -/
def SerialSettings.connect [Monad m] (serial : SerialSettings) (around : Surroundings m) :
    m (Except Failure Device) :=
  if serial.supported then do
    match ← around.openDevice serial with
    | .ok device => return .ok device
    | .error reason => return .error (.channel (.opening serial.device) reason)
  else
    return .error (.config (.unsupportedBits serial.bits))

/-- What is said in the log before a serial line is opened. -/
def SerialSettings.announcement (serial : SerialSettings) : List LogEntry :=
  if serial.supported then
    [.debug .driver "opening serial port in synchronous blocking mode"]
  else
    []

/-- Talk to the device of a serial line.  The log says what happened, without the
times. -/
def Plan.call (plan : Plan) (serial : SerialSettings) (device : Device) :
    Ending × List LogEntry :=
  let opening := LogEntry.info .channel
    ("Connected to " ++ serial.device ++ " at " ++ toString serial.speed ++ " baud")
  let (ending, engine) := (Engine.ofDevice device).run plan.timeouts plan.commands
  let closing : List LogEntry :=
    match ending with
    | .done => [.info .dialogue "All scripts completed successfully"]
    | _ => []
  (ending, opening :: (engine.said.map Prod.snd ++ closing))

def Config.callDevice [Monad m] (config : Config) (requested : List String)
    (around : Surroundings m) : m (Ending × List LogEntry) :=
  match config.prepare requested with
  | (log, .error failure) => return (.failed failure, log)
  | (log, .ok plan) => do
      let log := log ++ config.serial.announcement
      match ← config.serial.connect around with
      | .error failure => return (.failed failure, log)
      | .ok device =>
          let (ending, said) := plan.call config.serial device
          return (ending, log ++ said)

/-- Replay a dialogue against the transcript in a file. -/
def Config.rehearse [Monad m] (config : Config) (requested : List String) (path : String)
    (around : Surroundings m) : m (Except Failure (List Outcome) × List LogEntry) :=
  match config.prepare requested with
  | (log, .error failure) => return (.error failure, log)
  | (log, .ok plan) => do
      let log := log ++ [.info .dialogue ("Input file: " ++ path)]
      match ← around.readFile path with
      | .error cause => return (.error (.config (.unreadableTranscript path cause)), log)
      | .ok bytes =>
          let replay := Command.replayAll plan.commands (.ofBytes bytes)
          return (replay.result, log ++ replay.log)

end SerialDialogue
