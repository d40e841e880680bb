import SerialDialogue.Engine.Basic

/-!
# Steps on a channel

How an engine carries out the steps of a script.  A send hands its text to the device.
An expect takes characters until its pattern matches, for as long as the receive
timeout lets it.  A monitor takes characters until its own bound, and never fails.
-/

namespace SerialDialogue

/-- How long a monitor without a bound goes on, and by how much the bound of a run is
extended for monitors. -/
def indefiniteLength : Duration := .ofSeconds (24 * 60 * 60)

namespace Engine

/-- Wait for something that never comes, until the run is over. -/
def stall (engine : Engine) (limits : Limits) : Ending × Engine :=
  match limits.bound with
  | some expiry => (.cut, engine.readBy expiry)
  | none =>
      let last := (engine.channel.coming.getLast?.map Arrival.time).getD engine.clock
      (.stuck, engine.readBy last)

def noteSending (engine : Engine) (text : String) : Engine :=
  { engine with channel := engine.channel.note ⟨engine.clock, text⟩ }

def send (engine : Engine) (limits : Limits) (text : String) : Ending × Engine :=
  let sending := engine.log (.sent text)
  let sent := sending.noteSending text
  match engine.channel.device.receive engine.channel.sendings ⟨engine.clock, text⟩ with
  | .accepted replies =>
      (.done, { sent.note (.wrote text) with channel := sent.channel.expectMore replies })
  | .refused reason => (.failed (.channel .sending reason), sent)
  | .lost reason => (.failed (.channel .flushing reason), sent)
  | .stalled => sending.stall limits

/-- Wait for a pattern.  What has been matched is forgotten. -/
def expect (engine : Engine) (limits : Limits) (raw : String) (pattern : Pattern) :
    Ending × Engine :=
  let goal := Goal.found (.ofLine pattern engine.session.line)
  let deadline := momentAfter? engine.clock limits.receive
  match (engine.log (.expecting raw)).listen .debug goal deadline limits.bound with
  | (.reached, engine) =>
      (.done, { engine with session := engine.session.forget }.log (.matched raw))
  | (.late, engine) => (.failed (.receiveTimeout raw limits.receive), engine)
  | (.cut, engine) => (.cut, engine)
  | (.stuck, engine) => (.stuck, engine)

end Engine

/-- What a monitor says about its bound when it begins. -/
def Bound.opening : Bound → LogEntry
  | indefinite => .info .monitor "MONITOR: Monitoring indefinitely (press Ctrl+C to stop)"
  | duration length => .info .monitor ("MONITOR: Monitoring for " ++ length.render)
  | lines count => .info .monitor ("MONITOR: Monitoring for " ++ toString count ++ " lines")

/-- What a monitor says when it stops after so much time and so many lines. -/
def Bound.closing (bound : Bound) (elapsed : Duration) (seen : Nat) : LogEntry :=
  match bound with
  | lines count => .info .monitor ("MONITOR: Reached " ++ toString count ++ " lines, stopping")
  | _ =>
      .info .monitor ("MONITOR: Duration " ++ elapsed.render ++ " elapsed, stopping (received " ++
        toString seen ++ " lines)")

/-- What a monitor takes characters for. -/
def Bound.goal : Bound → Goal
  | lines count => .counted count
  | _ => .endless

/-- When a monitor that begins at a moment stops whatever comes. -/
def Bound.deadline? (bound : Bound) (now : Nat) : Option Nat :=
  match bound with
  | indefinite => momentAfter? now indefiniteLength
  | duration length => momentAfter? now length
  | lines _ => none

namespace Engine

/-- Log the lines that come in, up to a bound.  The text is forgotten in the end, but
not the line in progress; a monitor for no lines at all takes and forgets nothing. -/
def monitor (engine : Engine) (limits : Limits) (raw : String) (bound : Bound) :
    Ending × Engine :=
  let opened :=
    (engine.log (.info .monitor ("MONITOR: Starting monitoring with parameter: " ++
      Text.quote raw))).log bound.opening
  let close (engine : Engine) :=
    engine.log (bound.closing (.ofMillis (engine.clock - opened.clock))
      (engine.session.lineCount - opened.session.lineCount))
  if bound = .lines 0 then
    (.done, close opened)
  else
    match opened.listen .info bound.goal (bound.deadline? opened.clock) limits.bound with
    | (.cut, engine) => (.cut, engine)
    | (.stuck, engine) => (.stuck, engine)
    | (_, engine) => (.done, close { engine with session := engine.session.forgetText })

def perform (engine : Engine) (limits : Limits) (step : Step) : Ending × Engine :=
  match step with
  | .send raw => engine.send limits (Step.payload raw)
  | .expect raw pattern => engine.expect limits raw pattern
  | .monitor raw bound => engine.monitor limits raw bound

end Engine

end SerialDialogue
