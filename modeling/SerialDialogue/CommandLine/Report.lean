import SerialDialogue.CommandLine.Arguments
import SerialDialogue.CommandLine.LogFilter
import SerialDialogue.Config.Document
import SerialDialogue.Dialogue

/-!
# What the program prints

The program runs the dialogue that its command line asks for.  It shows the log as the
filter lets it, and in the end what went wrong, cause by cause.
-/

namespace SerialDialogue

/-- What a run of the program leaves behind. -/
structure Report where
  /-- The exit code. -/
  code : Nat
  /-- What goes to standard output. -/
  output : String := ""
  /-- The entries of the log that are shown, and whether with the time. -/
  log : List LogEntry := []
  timestamps : Bool := false
  /-- What is said in the end if something went wrong. -/
  complaint : String := ""

namespace Report

def helpText : String :=
  "Run expect-style scripts against a device on a serial line\n\n" ++
  "Usage: serial-expect [OPTIONS] --config <CONFIG> [NAMES]...\n\n" ++
  "Arguments:\n" ++
  "  [NAMES]...  Scripts and try-blocks to run, in order (default: the first script)\n\n" ++
  "Options:\n" ++
  "  -c, --config <CONFIG>       Path to the TOML configuration file\n" ++
  "      --no-timestamp          Disable timestamps in log output\n" ++
  "      --dry-run <TRANSCRIPT>  Replay against a captured transcript instead of opening " ++
    "the device\n" ++
  "  -h, --help                  Print help\n" ++
  "  -V, --version               Print version\n"

def versionText : String :=
  "serial-expect 0.1.0\n"

/-- The hint for a command line that cannot be understood. -/
def usageText : String :=
  "error: the command line was not understood\n\n" ++
  "Usage: serial-expect [OPTIONS] --config <CONFIG> [NAMES]...\n\n" ++
  "For more information, try '--help'.\n"

def indentLater (indent : String) (text : String) : String :=
  String.ofList (text.toList.flatMap fun c => if c = '\n' then '\n' :: indent.toList else [c])

def inFiveColumns (n : Nat) : String :=
  let digits := toString n
  String.ofList (List.replicate (5 - digits.length) ' ') ++ digits

/-- The causes of a failure, one below the other, with numbers if there are several. -/
def causeLines (causes : List String) : String :=
  match causes with
  | [cause] => "\n    " ++ indentLater "    " cause
  | _ =>
      String.join (causes.mapIdx fun index cause =>
        "\n" ++ inFiveColumns index ++ ": " ++ indentLater "       " cause)

/-- What is said about a failure: where it happened, and its causes. -/
def complain (place : String) (failure : Failure) : String :=
  "Error: " ++ place ++ "\n\nCaused by:" ++ causeLines (failure.message :: failure.causes) ++
    "\n"

/-- A character that a terminal could take for a command. -/
def isControl (c : Char) : Bool :=
  c.toNat ∈ [0x07, 0x08, 0x0C, 0x1B, 0x7F] || (0x80 ≤ c.toNat && c.toNat ≤ 0x9F)

/-- A character of the log as it is shown: control characters by their numbers. -/
def showChar (c : Char) : List Char :=
  if isControl c then
    let digits := Nat.toDigits 16 c.toNat
    if c.toNat < 0x80 then
      ['\\', 'x'] ++ List.replicate (2 - digits.length) '0' ++ digits
    else
      ['\\', 'u', '\x7b'] ++ digits ++ ['\x7d']
  else
    [c]

/-- An entry of the log as it is shown behind a time, which may be empty. -/
def showEntry (time : String) (entry : LogEntry) : String :=
  let level := entry.level.text
  time ++ String.ofList (List.replicate (5 - level.length) ' ') ++ level ++ " " ++
    String.ofList (entry.message.toList.flatMap showChar) ++ "\n"

/-- What goes to standard error, with a time in front of every entry if times are
shown. -/
def diagnostics (report : Report) (time : String) : String :=
  let front := if report.timestamps then time ++ " " else ""
  String.join (report.log.map (showEntry front)) ++ report.complaint

end Report

def LogEntry.logging (timestamps : Bool) : LogEntry :=
  .debug .logging ("Logging with: stderr (timestamps: " ++ toString timestamps ++ ")")

/-- How a dialogue went: what it said in the log, and what went wrong. -/
structure Account where
  log : List LogEntry
  failure : Option Failure

/-- Hold the dialogue of a configuration. -/
def Arguments.hold [Monad m] (arguments : Arguments) (around : Surroundings m)
    (config : Config) : m Account :=
  match arguments.dryRun with
  | some path => do
      match ← config.rehearse arguments.names path around with
      | (.ok _, log) => return ⟨log, none⟩
      | (.error failure, log) => return ⟨log, some failure⟩
  | none => do
      match ← config.callDevice arguments.names around with
      | (.failed failure, log) => return ⟨log, some failure⟩
      | (_, log) => return ⟨log, none⟩

/-- Run what a command line says. -/
def Arguments.report [Monad m] (arguments : Arguments) (around : Surroundings m)
    (filter : Option String) : m Report := do
  let shown (log : List LogEntry) :=
    (LogEntry.logging arguments.timestamps :: log).filter (LogFilter.ofRequest filter).shows
  match Config.ofFile arguments.config (← around.readFile arguments.config) with
  | .error failure =>
      return {
        code := 1
        log := shown []
        timestamps := arguments.timestamps
        complaint := Report.complain
          ("Failed to load config file: " ++ arguments.config) failure }
  | .ok config =>
      let account ← arguments.hold around config
      match account.failure with
      | none =>
          return { code := 0, log := shown account.log, timestamps := arguments.timestamps }
      | some failure =>
          return {
            code := 1
            log := shown account.log
            timestamps := arguments.timestamps
            complaint := Report.complain "Failed to execute script" failure }

/-- Do what a command line asks for. -/
def Invocation.report [Monad m] (invocation : Invocation) (around : Surroundings m)
    (filter : Option String) : m Report :=
  match invocation with
  | .run arguments => arguments.report around filter
  | .help => return { code := 0, output := Report.helpText }
  | .version => return { code := 0, output := Report.versionText }
  | .misuse => return { code := 2, complaint := Report.usageText }

end SerialDialogue
