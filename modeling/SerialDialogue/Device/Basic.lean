/-!
# Devices

The other end of the channel.  A device sends bytes of its own accord, and it answers
every text that is sent to it: it takes the text and says something back later, it
refuses the text, or it never takes it.  Times are whole milliseconds.
-/

namespace SerialDialogue

/-- What comes in from a device. -/
inductive Delivery where
  | bytes (content : List UInt8)
  /-- The end of the stream. -/
  | close
  /-- The stream breaks. -/
  | failure
  deriving Repr, DecidableEq

/-- A delivery and the time from which on it can be read. -/
structure Arrival where
  time : Nat
  delivery : Delivery
  deriving Repr, DecidableEq

/-- Put an arrival into others that are in the order of their times, behind those of
its own time. -/
def Arrival.insert (arrival : Arrival) : List Arrival → List Arrival
  | [] => [arrival]
  | next :: later =>
      if arrival.time < next.time then
        arrival :: next :: later
      else
        next :: insert arrival later

/-- A text that is sent to a device, and when. -/
structure Sending where
  time : Nat
  text : String
  deriving Repr, DecidableEq

/-- What a device makes of a text that is sent to it. -/
inductive Reception where
  /-- The text is taken, and the replies can be read at their times. -/
  | accepted (replies : List Arrival)
  /-- The text cannot be written. -/
  | refused (reason : String)
  /-- The text is written, but lost on the way. -/
  | lost (reason : String)
  /-- The text is never taken. -/
  | stalled
  deriving Repr, DecidableEq

/-- A device: what comes in of its own accord, and what it makes of a text after the
texts before it, the latest first.  A text that is never taken is not among these. -/
structure Device where
  feed : List Arrival
  receive : List Sending → Sending → Reception

end SerialDialogue
