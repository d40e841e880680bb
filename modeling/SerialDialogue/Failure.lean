import SerialDialogue.Duration.Display
import SerialDialogue.Duration.Literal
import SerialDialogue.Pattern
import SerialDialogue.Text.Quoted
import SerialDialogue.Toml.Node

/-!
# Failures

Everything that a session can end with apart from success.  A failure carries its
cause; the wrapping constructors say which command or script it happened in without
hiding what went wrong underneath.  `Failure.kind` classifies a failure through its
wrappers, and `Failure.message` puts it into words.
-/

namespace SerialDialogue

/-- A refusal of the operating system: its text and its number.  What is refused before
the system is asked has no number. -/
structure SystemError where
  text : String
  code : Option Nat
  deriving Repr, DecidableEq

def SystemError.message (e : SystemError) : String :=
  match e.code with
  | some code => e.text ++ " (os error " ++ toString code ++ ")"
  | none => e.text

/-- Why a file could not be read as text. -/
inductive ReadError where
  | system (cause : SystemError)
  | notUtf8
  deriving Repr, DecidableEq

def ReadError.message : ReadError → String
  | system cause => cause.message
  | notUtf8 => "stream did not contain valid UTF-8"

/-- Why a script line is refused. -/
inductive Reason where
  | unknownCommand
  | missingValue
  | missingPattern
  | badPattern (raw : String) (cause : PatternError)
  | badBound (raw : String)
  | notWritten
  deriving Repr, DecidableEq

def Reason.message : Reason → String
  | unknownCommand => "unknown command"
  | missingValue => "missing value after 'send'"
  | missingPattern => "missing pattern after 'expect'"
  | badPattern raw cause =>
      "invalid expect pattern " ++ Text.quote raw ++ ": " ++ cause.message
  | badBound raw =>
      "invalid monitor parameter " ++ Text.quote raw ++
        ": must be duration (e.g., 5m30s) or line count (e.g., 50)"
  | notWritten => "try blocks are selected by name, not written in scripts"

/-- Why a name cannot be resolved, or a configuration gives no book of scripts. -/
inductive ResolutionError where
  | unnamedBlock
  | nothingDeclared
  | duplicateName (name : String)
  | missingScript (block script : String)
  | missingExcept (block script : String)
  | unknownName (name : String) (available : List String)
  | unknownScript (name : String)
  deriving Repr, DecidableEq

def ResolutionError.message : ResolutionError → String
  | unnamedBlock => "try block must have a name attribute"
  | nothingDeclared => "no scripts or try blocks found in configuration"
  | duplicateName name => "duplicate script or try block name " ++ Text.quote name
  | missingScript block script =>
      "try block " ++ Text.quote block ++ " references non-existent script " ++
        Text.quote script
  | missingExcept block script =>
      "try block " ++ Text.quote block ++ " references non-existent except script " ++
        Text.quote script
  | unknownName name available =>
      "script or try block " ++ Text.quote name ++ " not found. Available: " ++
        ", ".intercalate available
  | unknownScript name => "script " ++ Text.quote name ++ " not found"

/-- The two timeouts of a session. -/
inductive TimeoutName where
  | script
  | receive
  deriving Repr, DecidableEq

def TimeoutName.text : TimeoutName → String
  | script => "script"
  | receive => "receive"

/-- What is wrong with a configuration or with the files of a session. -/
inductive ConfigError where
  | unreadable (path : String) (cause : ReadError)
  | unreadableTranscript (path : String) (cause : SystemError)
  | malformed (cause : Toml.Error)
  | badTimeout (name : TimeoutName) (cause : InvalidDuration)
  | unsupportedBits (bits : Nat)
  deriving Repr, DecidableEq

def InvalidDuration.message (e : InvalidDuration) : String :=
  "invalid duration " ++ Text.quote e.text

def ConfigError.message : ConfigError → String
  | unreadable path cause => "failed to read " ++ path ++ ": " ++ cause.message
  | unreadableTranscript path cause =>
      "failed to read input file " ++ path ++ ": " ++ cause.message
  | malformed cause => "TOML parse error: " ++ cause.message
  | badTimeout name cause => "invalid " ++ name.text ++ " timeout: " ++ cause.message
  | unsupportedBits bits => "unsupported data bits: " ++ toString bits

/-- What was being done with the byte channel. -/
inductive ChannelUse where
  | sending
  | flushing
  | opening (device : String)
  deriving Repr, DecidableEq

def ChannelUse.text : ChannelUse → String
  | sending => "failed to send data"
  | flushing => "failed to flush channel"
  | opening device => "could not open serial port " ++ device

/-- A failure of a session. -/
inductive Failure where
  /-- A script line is refused; `line` counts from 1. -/
  | parse (line : Nat) (content : String) (reason : Reason)
  /-- A script does not parse. -/
  | script (name : String) (source : Failure)
  /-- A name cannot be resolved. -/
  | resolution (cause : ResolutionError)
  /-- The configuration is unusable. -/
  | config (cause : ConfigError)
  /-- The byte channel failed. -/
  | channel (use : ChannelUse) (source : String)
  /-- Nothing matched within the receive timeout. -/
  | receiveTimeout (pattern : String) (timeout : Duration)
  /-- The session ran past its bound. -/
  | scriptTimeout (limit : Duration) (extended : Bool)
  /-- No attempt of a try block succeeded; `source` is the failure of the last one. -/
  | tryBlockFailed (name : String) (fallbackRan : Bool) (source : Failure)
  /-- A transcript ran out before a pattern matched. -/
  | patternNotFound (pattern : String)
  /-- A command failed; `index` counts from 0 and `written` is the command's text. -/
  | command (index : Nat) (written : String) (source : Failure)
  deriving Repr, DecidableEq

namespace Failure

/-- The classes of failures. -/
inductive Kind where
  | parse
  | resolution
  | config
  | channel
  | receiveTimeout
  | scriptTimeout
  | tryBlockFailed
  | patternNotFound
  deriving Repr, DecidableEq

/-- The class of a failure, seen through the wrappers that say where it happened. -/
def kind : Failure → Kind
  | .parse .. => .parse
  | .script _ source => source.kind
  | .resolution _ => .resolution
  | .config _ => .config
  | .channel .. => .channel
  | .receiveTimeout .. => .receiveTimeout
  | .scriptTimeout .. => .scriptTimeout
  | .tryBlockFailed .. => .tryBlockFailed
  | .patternNotFound _ => .patternNotFound
  | .command _ _ source => source.kind

/-- The layers of a failure: a class, or a wrapper around a further layer. -/
inductive Layer where
  | parse
  | script
  | resolution
  | config
  | channel
  | receiveTimeout
  | scriptTimeout
  | tryBlockFailed
  | patternNotFound
  | command
  deriving Repr, DecidableEq

/-- The layers of a failure, from the outermost inwards. -/
def layers : Failure → List Layer
  | .parse .. => [.parse]
  | .script _ source => .script :: source.layers
  | .resolution _ => [.resolution]
  | .config _ => [.config]
  | .channel .. => [.channel]
  | .receiveTimeout .. => [.receiveTimeout]
  | .scriptTimeout .. => [.scriptTimeout]
  | .tryBlockFailed _ _ source => .tryBlockFailed :: source.layers
  | .patternNotFound _ => [.patternNotFound]
  | .command _ _ source => .command :: source.layers

def message : Failure → String
  | .parse line content reason =>
      "invalid command on line " ++ toString line ++ ": " ++ content ++ ": " ++ reason.message
  | .script name source =>
      "failed to parse script " ++ Text.quote name ++ ": " ++ source.message
  | .resolution cause => cause.message
  | .config cause => "configuration error: " ++ cause.message
  | .channel use source => "channel error: " ++ use.text ++ ": " ++ source
  | .receiveTimeout pattern timeout =>
      "receive timeout (" ++ timeout.render ++ ") waiting for pattern: " ++ pattern
  | .scriptTimeout limit extended =>
      "script timeout exceeded (" ++ limit.render ++
        (if extended then ", extended for monitor commands" else "") ++ ")"
  | .tryBlockFailed name fallbackRan source =>
      "try block " ++ Text.quote name ++ " failed" ++
        (if fallbackRan then " (except script ran)" else "") ++ ": " ++ source.message
  | .patternNotFound pattern => "pattern not found in remaining input: " ++ pattern
  | .command index written source =>
      "command " ++ toString (index + 1) ++ " (" ++ written ++ ") failed: " ++ source.message

/-- The messages of the failures and refusals beneath a failure, from the outermost
inwards. -/
def causes : Failure → List String
  | .script _ source => source.message :: source.causes
  | .tryBlockFailed _ _ source => source.message :: source.causes
  | .command _ _ source => source.message :: source.causes
  | .channel _ source => [source]
  | _ => []

end Failure

end SerialDialogue
