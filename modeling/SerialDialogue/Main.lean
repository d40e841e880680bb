import SerialDialogue.CommandLine.Report
import SerialDialogue.Directory
import Std.Time.DateTime

/-!
# The program

The command line program: it asks the system for its arguments, for files and for the
time, and prints what the report says.
-/

namespace SerialDialogue

namespace Program

/-- What the system says about something that failed. -/
def systemError (error : IO.Error) : SystemError :=
  match error with
  | .noFileOrDirectory .. => .missing
  | .permissionDenied .. => ⟨"Permission denied", some 13⟩
  | .inappropriateType _ code details => ⟨details, some code.toNat⟩
  | .invalidArgument _ code details => ⟨details, some code.toNat⟩
  | other => ⟨toString other, some 5⟩

def readFile (path : String) : IO (Except SystemError ByteArray) := do
  if path.toList.contains '\x00' then
    return .error .nulByte
  try
    return .ok (← IO.FS.readBinFile path)
  catch error =>
    return .error (systemError error)

/-- No serial line can be driven from here; the attempt says what stands in the way. -/
def openDevice (serial : SerialSettings) : IO (Except String Device) := do
  try
    let _ ← IO.FS.Handle.mk serial.device .readWrite
    return .error "Operation not supported"
  catch error =>
    return .error (systemError error).text

/-- A number with zeros in front, in so many columns. -/
def padded (columns : Nat) (n : Nat) : String :=
  let digits := toString n
  String.ofList (List.replicate (columns - digits.length) '0') ++ digits

/-- The present time, in universal time and to the microsecond. -/
def now : IO String := do
  let moment := Std.Time.DateTime.ofTimestamp (← Std.Time.Timestamp.now) .UTC
  let day := toString moment.year.toInt ++ "-" ++ padded 2 moment.month.val.toNat ++ "-" ++
    padded 2 moment.day.val.toNat
  let time := padded 2 moment.hour.val.toNat ++ ":" ++ padded 2 moment.minute.val.toNat ++
    ":" ++ padded 2 moment.second.val.toNat
  return day ++ "T" ++ time ++ "." ++ padded 6 (moment.nanosecond.val.toNat / 1000) ++ "Z"

end Program

end SerialDialogue

open SerialDialogue in
def main (arguments : List String) : IO UInt32 := do
  let around : Surroundings IO := ⟨Program.readFile, Program.openDevice⟩
  let filter ← IO.getEnv "RUST_LOG"
  let report ← (Invocation.parse arguments).report around filter
  IO.print report.output
  IO.eprint (report.diagnostics (← Program.now))
  return report.code.toUInt32
