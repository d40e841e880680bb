import SerialDialogue.Channel
import SerialDialogue.Failure
import SerialDialogue.Log
import SerialDialogue.Session.Goal

/-!
# Engines

An engine drives one channel: it has a clock that counts milliseconds, the characters
that were read and not yet taken, the session, and a record of everything that
happened.  Time passes only while an engine waits, and then it passes to the next
moment at which something happens: an arrival, the deadline of the wait, or the bound
of the whole run.
-/

namespace SerialDialogue

/-- What happens to an engine. -/
inductive Event where
  | logged (entry : LogEntry)
  /-- A text was sent and taken by the device. -/
  | wrote (text : String)
  /-- A piece of bytes was read. -/
  | read (content : List UInt8)
  /-- Characters were taken into the session. -/
  | took (text : List Char)
  deriving Repr, DecidableEq

/-- An engine between two activities. -/
structure Engine where
  clock : Nat := 0
  channel : Channel
  /-- Characters that were read and not yet taken. -/
  queue : List Char := []
  session : Session := {}
  /-- What happened, with its times, the latest first. -/
  past : List (Nat × Event) := []

/-- What limits an activity: how long an expect may take, and when the whole run has
to be over, if ever. -/
structure Limits where
  receive : Duration
  bound : Option Nat := none

/-- How an activity ended. -/
inductive Ending where
  | done
  | failed (failure : Failure)
  /-- The bound of the run came. -/
  | cut
  /-- It waits for something that never comes. -/
  | stuck
  deriving Repr, DecidableEq

/-- The moment that lies a duration after another one; none where it is too far away to
be told by a clock that counts its seconds below `2 ^ 63`. -/
def momentAfter? (clock : Nat) (d : Duration) : Option Nat :=
  if clock * 1000000 + d.nanos < 0x8000000000000000 * 1000000000 then
    some (clock + d.ceilMillis)
  else
    none

/-- What ends a wait. -/
inductive Wake where
  /-- Something can be read. -/
  | arrival (time : Nat)
  | deadline (time : Nat)
  | bound (time : Nat)
  | never
  deriving Repr, DecidableEq

/-- The moment comes before the limit, if there is a limit. -/
def comesBefore (time : Nat) (limit : Option Nat) : Bool :=
  limit.all (time < ·)

/-- The moment comes by the limit, if there is a limit. -/
def comesBy (time : Nat) (limit : Option Nat) : Bool :=
  limit.all (time ≤ ·)

/-- The end of a wait that begins now.  A deadline that has come already ends it at once.
Of moments that coincide, the deadline comes before an arrival, and both come before the
bound. -/
def nextWake (now : Nat) (arrival deadline bound : Option Nat) : Wake :=
  let fallback :=
    match deadline, bound with
    | some late, bound =>
        if comesBy (max now late) bound then .deadline (max now late)
        else .bound (max now (bound.getD now))
    | none, some expiry => .bound (max now expiry)
    | none, none => .never
  match arrival with
  | none => fallback
  | some time =>
      if comesBefore (max now time) deadline && comesBy (max now time) bound then
        .arrival (max now time)
      else
        fallback

/-- A wait that ends with an arrival ends when there is something to read. -/
theorem le_of_nextWake_arrival {now time : Nat} {arrival deadline bound : Option Nat}
    (wake : nextWake now arrival deadline bound = .arrival time) :
    ∃ first, arrival = some first ∧ first ≤ time := by
  unfold nextWake at wake
  cases arrival with
  | none =>
      simp only at wake
      split at wake
      · split at wake <;> cases wake
      · cases wake
      · cases wake
  | some first =>
      simp only at wake
      split at wake
      · cases wake
        exact ⟨first, rfl, Nat.le_max_right now first⟩
      · split at wake
        · split at wake <;> cases wake
        · cases wake
        · cases wake

namespace Engine

def ofDevice (device : Device) : Engine where
  channel := .ofDevice device

def note (engine : Engine) (event : Event) : Engine :=
  { engine with past := (engine.clock, event) :: engine.past }

def log (engine : Engine) (entry : LogEntry) : Engine :=
  engine.note (.logged entry)

/-- The clock passes to a moment, unless it is over. -/
def passTo (engine : Engine) (time : Nat) : Engine :=
  { engine with clock := max engine.clock time }

/-- The clock passes to a moment, and everything that can be read by then is read. -/
def readBy (engine : Engine) (time : Nat) : Engine :=
  let reading := engine.channel.read time
  let events := reading.pieces.map fun piece => (max engine.clock piece.1, Event.read piece.2)
  { engine with
    clock := max engine.clock time
    channel := reading.channel
    queue := engine.queue ++ reading.text
    past := events.reverse ++ engine.past }

/-- What ends a wait of the engine. -/
def wake (engine : Engine) (deadline bound : Option Nat) : Wake :=
  nextWake engine.clock engine.channel.nextTime? deadline bound

theorem length_coming_readBy_lt {engine : Engine} {deadline bound : Option Nat} {time : Nat}
    (wake : engine.wake deadline bound = .arrival time) :
    (engine.readBy time).channel.coming.length < engine.channel.coming.length := by
  obtain ⟨first, next, reached⟩ := le_of_nextWake_arrival wake
  exact Channel.length_coming_read_lt next reached

/-- Take the characters of the queue until a goal is reached, and log the lines that
they complete.  The result is what is left of the goal. -/
def hear (engine : Engine) (level : Level) (goal : Goal) : Option Goal × Engine :=
  let taken := engine.session.take goal engine.queue
  let lines := taken.lines.map fun line => Event.logged (.received level .listener line)
  let events := lines ++ [.took (engine.queue.take taken.count)]
  (taken.goal,
    { engine with
      queue := taken.rest
      session := taken.session
      past := events.map (engine.clock, ·) ++ engine.past })

/-- How listening for a goal ended. -/
inductive Heard where
  | reached
  | late
  | cut
  | stuck
  deriving Repr, DecidableEq

/-- Take characters, and wait for more, until a goal is reached or the deadline comes.
Characters that were read already are taken before any wait. -/
def listen (engine : Engine) (level : Level) (goal : Goal) (deadline bound : Option Nat) :
    Heard × Engine :=
  let heard := engine.hear level goal
  match heard.1 with
  | none => (.reached, heard.2)
  | some left =>
      match _wake : heard.2.wake deadline bound with
      | .arrival time => (heard.2.readBy time).listen level left deadline bound
      | .deadline time => (.late, heard.2.passTo time)
      | .bound time => (.cut, heard.2.passTo time)
      | .never => (.stuck, heard.2)
termination_by engine.channel.coming.length
decreasing_by exact length_coming_readBy_lt _wake

end Engine

end SerialDialogue
