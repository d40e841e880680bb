/-!
# Command lines

The arguments of the program: options, which may stand anywhere before a `--`, and the
names of the scripts and try blocks to run.  They are read from left to right, and
the first one that asks for help, asks for the version or cannot be understood settles
what happens.
-/

namespace SerialDialogue

/-- A command line that says what to run. -/
structure Arguments where
  config : String
  timestamps : Bool
  /-- The transcript to replay against; none for the configured device. -/
  dryRun : Option String
  names : List String
  deriving Repr, DecidableEq

/-- What a command line asks for. -/
inductive Invocation where
  | run (arguments : Arguments)
  | help
  | version
  | misuse
  deriving Repr, DecidableEq

namespace Invocation

/-- What has been read of a command line; the latest name first. -/
structure Draft where
  config : Option String := none
  dryRun : Option String := none
  plain : Bool := false
  names : List String := []

/-- The options that take a value. -/
inductive Setting where
  | config
  | dryRun
  deriving Repr, DecidableEq

/-- Give a setting its value, which is not empty; it can be given once. -/
def Draft.set? (draft : Draft) (setting : Setting) (value : String) : Option Draft :=
  if value.isEmpty then
    none
  else
    match setting with
    | .config => if draft.config.isSome then none else some { draft with config := some value }
    | .dryRun => if draft.dryRun.isSome then none else some { draft with dryRun := some value }

/-- What a command line asks for once it has been read. -/
def Draft.finish (draft : Draft) : Invocation :=
  match draft.config with
  | none => misuse
  | some config => run ⟨config, !draft.plain, draft.dryRun, draft.names.reverse⟩

/-- An argument that is no option and no mark, so that it can be a value. -/
def isValue (argument : String) : Bool :=
  argument.toList.head? ≠ some '-' || argument = "-"

/-- The form of one argument. -/
inductive Form where
  /-- A name, or the value of the option before it. -/
  | value
  /-- Only names follow. -/
  | mark
  /-- An option whose value is the next argument. -/
  | needs (setting : Setting)
  /-- An option with its value. -/
  | gives (setting : Setting) (value : String)
  | plain
  | help
  | version
  | unknown
  deriving Repr, DecidableEq

/-- A text behind an equals sign, if there is one. -/
def behindEquals (text : List Char) : String :=
  match text with
  | '=' :: rest => String.ofList rest
  | _ => String.ofList text

/-- The form of an option with two dashes, which are dropped. -/
def longForm (option : List Char) : Form :=
  let name := String.ofList (option.takeWhile (· != '='))
  match option.dropWhile (· != '=') with
  | [] =>
      if name = "config" then .needs .config
      else if name = "dry-run" then .needs .dryRun
      else if name = "no-timestamp" then .plain
      else if name = "help" then .help
      else if name = "version" then .version
      else .unknown
  | _ :: value =>
      if name = "config" then .gives .config (String.ofList value)
      else if name = "dry-run" then .gives .dryRun (String.ofList value)
      else .unknown

def formOf (argument : String) : Form :=
  match argument.toList with
  | ['-', '-'] => .mark
  | '-' :: '-' :: option => longForm option
  | ['-', 'c'] => .needs .config
  | '-' :: 'c' :: value => .gives .config (behindEquals value)
  | '-' :: 'h' :: _ => .help
  | '-' :: 'V' :: _ => .version
  | '-' :: _ :: _ => .unknown
  | _ => .value

/-- Read a command line behind a draft. -/
def parseBehind (draft : Draft) : List String → Invocation
  | [] => draft.finish
  | argument :: later =>
      match formOf argument with
      | .value => parseBehind { draft with names := argument :: draft.names } later
      | .mark => { draft with names := later.reverse ++ draft.names }.finish
      | .gives setting value =>
          match draft.set? setting value with
          | some draft => parseBehind draft later
          | none => misuse
      | .needs setting =>
          match later with
          | [] => misuse
          | value :: later =>
              if isValue value then
                match draft.set? setting value with
                | some draft => parseBehind draft later
                | none => misuse
              else
                misuse
      | .plain => if draft.plain then misuse else parseBehind { draft with plain := true } later
      | .help => help
      | .version => version
      | .unknown => misuse

def parse (arguments : List String) : Invocation :=
  parseBehind {} arguments

end Invocation

end SerialDialogue
