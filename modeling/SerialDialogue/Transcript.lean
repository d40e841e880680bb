import SerialDialogue.Command
import SerialDialogue.Log
import SerialDialogue.Text.Utf8

/-!
# Transcripts and replays

Commands can be replayed against the lines that a device once sent.  Nothing is sent
and no time passes: an expect reads lines until one matches, a monitor shows the next
few, and a try block has its main script replayed.  A transcript is the lines on both
sides of a cursor, and the outcomes of the expects so far.
-/

namespace SerialDialogue

/-- How an expect went in a replay. -/
structure Outcome where
  /-- The pattern as it was written. -/
  pattern : String
  matched : Bool
  /-- The lines that were behind the cursor after it. -/
  cursor : Nat
  deriving Repr, DecidableEq

/-- The lines of a device with a cursor among them. -/
structure Transcript where
  /-- The lines behind the cursor, the nearest first. -/
  passed : List String := []
  /-- The lines that have not been read. -/
  ahead : List String
  outcomes : List Outcome := []
  deriving Repr, DecidableEq

namespace Transcript

/-- The transcript of a text, nothing read yet. -/
def ofText (text : List Char) : Transcript where
  ahead := (Text.pieces '\n' text).map String.ofList

/-- The transcript of a file; invalid UTF-8 is replaced as on a live channel. -/
def ofBytes (bytes : ByteArray) : Transcript :=
  ofText (Utf8.decodeLossy bytes.data.toList)

/-- How many lines are behind the cursor. -/
def cursor (transcript : Transcript) : Nat :=
  transcript.passed.length

def lines (transcript : Transcript) : List String :=
  transcript.passed.reverse ++ transcript.ahead

def next? (transcript : Transcript) : Option (String × Transcript) :=
  match transcript.ahead with
  | [] => none
  | line :: later =>
      some (line, { transcript with passed := line :: transcript.passed, ahead := later })

/-- Read all of the lines that come before `later`. -/
def advance (transcript : Transcript) (lines later : List String) : Transcript :=
  { transcript with passed := lines.reverse ++ transcript.passed, ahead := later }

def record (transcript : Transcript) (pattern : String) (matched : Bool) : Transcript :=
  { transcript with
    outcomes := transcript.outcomes ++ [⟨pattern, matched, transcript.cursor⟩] }

end Transcript

/-- What a replay did. -/
structure Replay where
  failure : Option Failure := none
  log : List LogEntry
  transcript : Transcript

/-- How many lines are shown for a monitor. -/
def previewLines : Nat := 10

namespace Step

/-- Replay an expect: read lines up to one that matches. -/
def replayExpect (raw : String) (pattern : Pattern) (transcript : Transcript) : Replay :=
  let shown (line : String) := LogEntry.received .info .expect line
  match transcript.ahead.span (!pattern.matchesLine ·) with
  | (missed, hit :: later) =>
      { log := .expecting raw :: (missed.map shown ++ [shown hit, .matched raw])
        transcript := (transcript.advance (missed ++ [hit]) later).record raw true }
  | (missed, []) =>
      { failure := some (.patternNotFound raw)
        log := .expecting raw :: missed.map shown
        transcript := (transcript.advance missed []).record raw false }

/-- Replay a monitor: show the next few lines. -/
def replayMonitor (raw : String) (transcript : Transcript) : Replay :=
  let shown := transcript.ahead.take previewLines
  let opening := LogEntry.info .monitor
    ("MONITOR: " ++ raw ++ " (dry run - showing next " ++ toString previewLines ++ " lines)")
  { log := opening :: shown.map (.received .info .monitor)
    transcript := transcript.advance shown (transcript.ahead.drop previewLines) }

/-- Replay a step. -/
def replay (step : Step) (transcript : Transcript) : Replay :=
  match step with
  | send raw => { log := [.sent (payload raw)], transcript := transcript }
  | expect raw pattern => replayExpect raw pattern transcript
  | monitor raw _ => replayMonitor raw transcript

/-- Replay a step of a try block, where a failure is only logged. -/
def replayLeniently (step : Step) (transcript : Transcript) : List LogEntry × Transcript :=
  let replayed := step.replay transcript
  let remark :=
    match replayed.failure with
    | none => []
    | some _ => [LogEntry.warn .attempt ("PATTERN NOT FOUND (would trigger except): " ++ step.raw)]
  (replayed.log ++ remark, replayed.transcript)

/-- Replay the steps of a try block, one after another whatever their failures. -/
def replayAllLeniently (transcript : Transcript) : List Step → List LogEntry × Transcript
  | [] => ([], transcript)
  | step :: later =>
      let (log, transcript) := step.replayLeniently transcript
      let (laterLog, transcript) := replayAllLeniently transcript later
      (log ++ laterLog, transcript)

end Step

namespace Command

/-- Replay a command.  Of a try block only the main script is replayed, once. -/
def replay (command : Command) (transcript : Transcript) : Replay :=
  match command with
  | step instruction => instruction.replay transcript
  | attempt block main _ =>
      let opening := LogEntry.info .attempt
        ("TRY BLOCK: " ++ block.name ++ " (dry run - executing main script only)")
      let (log, transcript) := Step.replayAllLeniently transcript main
      { log := opening :: log, transcript := transcript }

/-- Replay commands from the given place among `total`, up to the first failure. -/
def replayFrom (index total : Nat) (transcript : Transcript) : List Command → Replay
  | [] => { log := [.info .replay "=== DRY RUN COMPLETED ==="], transcript := transcript }
  | command :: later =>
      let opening := LogEntry.info .replay
        ("Command " ++ toString (index + 1) ++ "/" ++ toString total ++ ": " ++ command.text)
      let replayed := command.replay transcript
      match replayed.failure with
      | some source =>
          { replayed with
            failure := some (.command index command.text source)
            log := opening :: replayed.log }
      | none =>
          let rest := replayFrom (index + 1) total replayed.transcript later
          { rest with log := opening :: (replayed.log ++ rest.log) }

def replayAll (commands : List Command) (transcript : Transcript) : Replay :=
  let replayed := replayFrom 0 commands.length transcript commands
  { replayed with log := .info .replay "=== DRY RUN MODE ===" :: replayed.log }

end Command

/-- What a replay comes to: the outcomes of all expects on the transcript so far. -/
def Replay.result (replay : Replay) : Except Failure (List Outcome) :=
  match replay.failure with
  | some failure => .error failure
  | none => .ok replay.transcript.outcomes

end SerialDialogue
