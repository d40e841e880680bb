import SerialDialogue.Device.Basic
import SerialDialogue.Text.Utf8

/-!
# Channels

Our end of the line to a device: what is still to come in, in the order of its times,
and the decoder that turns bytes into characters as they are read.
-/

namespace SerialDialogue

/-- An open channel to a device. -/
structure Channel where
  device : Device
  /-- What was sent so far, the latest first. -/
  sendings : List Sending := []
  /-- What is still to be read. -/
  coming : List Arrival
  decoder : Utf8.Decoder := {}
  /-- The stream has ended or broken; nothing more can be read. -/
  closed : Bool := false

/-- What comes of reading a channel: the characters, the pieces of bytes with the
times at which they could be read, and the channel behind them. -/
structure Reading where
  text : List Char := []
  pieces : List (Nat × List UInt8) := []
  channel : Channel

namespace Channel

/-- The channel to a device, nothing read or sent yet. -/
def ofDevice (device : Device) : Channel where
  device := device
  coming := device.feed.mergeSort fun first second => first.time ≤ second.time

/-- When there is next something to read. -/
def nextTime? (channel : Channel) : Option Nat :=
  channel.coming.head?.map Arrival.time

/-- Read what can be read at a time, where `arrivals` is all that is still to come. -/
def readFrom (channel : Channel) (now : Nat) : List Arrival → Reading
  | [] => { channel := { channel with coming := [] } }
  | arrival :: later =>
      if arrival.time ≤ now then
        match arrival.delivery with
        | .bytes content =>
            let (text, decoder) := channel.decoder.feed content
            let rest := readFrom { channel with decoder := decoder } now later
            { rest with
              text := text ++ rest.text
              pieces := (arrival.time, content) :: rest.pieces }
        | .close | .failure => { channel := { channel with coming := [], closed := true } }
      else
        { channel := { channel with coming := arrival :: later } }

def read (channel : Channel) (now : Nat) : Reading :=
  channel.readFrom now channel.coming

def note (channel : Channel) (sending : Sending) : Channel :=
  { channel with sendings := sending :: channel.sendings }

/-- More is to come, unless nothing can come any more. -/
def expectMore (channel : Channel) (arrivals : List Arrival) : Channel :=
  if channel.closed then
    channel
  else
    { channel with
      coming := arrivals.foldl (fun coming arrival => arrival.insert coming) channel.coming }

theorem length_coming_readFrom_le (channel : Channel) (now : Nat) (arrivals : List Arrival) :
    (channel.readFrom now arrivals).channel.coming.length ≤ arrivals.length := by
  induction arrivals generalizing channel with
  | nil => simp [readFrom]
  | cons arrival later ih =>
      unfold readFrom
      split
      · split
        · rename_i content _
          have := ih { channel with decoder := (channel.decoder.feed content).2 }
          simp only [List.length_cons]
          omega
        · simp
        · simp
      · simp

theorem length_coming_read_lt {channel : Channel} {time now : Nat}
    (next : channel.nextTime? = some time) (reached : time ≤ now) :
    (channel.read now).channel.coming.length < channel.coming.length := by
  unfold nextTime? at next
  unfold read
  cases coming : channel.coming with
  | nil => simp [coming] at next
  | cons arrival later =>
      have head : arrival.time = time := by simpa [coming] using next
      unfold readFrom
      rw [if_pos (by omega)]
      split
      · rename_i content _
        have := length_coming_readFrom_le
          { channel with decoder := (channel.decoder.feed content).2 } now later
        simp only [List.length_cons]
        omega
      · simp
      · simp

end Channel

end SerialDialogue
