import SerialDialogue.Device.Basic

/-!
# Devices by rule

A device that is given by a list of rules: which texts it replies to with what, and
which of the texts that are sent to it go wrong.
-/

namespace SerialDialogue

/-- Reply to a text: the first time with the first reply, and so on.  A reply may be
missing. -/
structure ReplyRule where
  text : String
  replies : List (Option (List UInt8))
  /-- How long after the text a reply can be read. -/
  delay : Nat := 0

/-- The rules of a device.  Texts are numbered from 0. -/
structure DeviceRules where
  feed : List Arrival := []
  replies : List ReplyRule := []
  /-- The text that cannot be written; an empty text needs no writing. -/
  refused : Option Nat := none
  /-- The text that is lost. -/
  lost : Option Nat := none
  /-- The text that is never written. -/
  stalled : Option Nat := none

namespace DeviceRules

/-- The number of a text behind earlier ones can be the one that a rule names. -/
def hits (number : Option Nat) (earlier : List Sending) : Bool :=
  number = some earlier.length

/-- What becomes of a text, its replies apart. -/
def isTaken (rules : DeviceRules) (earlier : List Sending) (sending : Sending) : Bool :=
  !((hits rules.refused earlier && sending.text ≠ "") || hits rules.lost earlier)

/-- How often a text was taken before. -/
def timesTaken (rules : DeviceRules) (text : String) : List Sending → Nat
  | [] => 0
  | sending :: earlier =>
      timesTaken rules text earlier +
        if sending.text = text ∧ rules.isTaken earlier sending then 1 else 0

/-- The replies to a text that has been taken a number of times before. -/
def repliesTo (rules : DeviceRules) (times : Nat) (sending : Sending) : List Arrival :=
  rules.replies.filterMap fun rule =>
    if rule.text = sending.text then
      (rule.replies[times]?.join).map fun content =>
        ⟨sending.time + rule.delay, .bytes content⟩
    else
      none

/-- The device that keeps to the rules. -/
def device (rules : DeviceRules) : Device where
  feed := rules.feed
  receive earlier sending :=
    if hits rules.stalled earlier && sending.text ≠ "" then
      .stalled
    else if hits rules.refused earlier && sending.text ≠ "" then
      .refused "device gone"
    else if hits rules.lost earlier then
      .lost "flush lost"
    else
      .accepted (rules.repliesTo (rules.timesTaken sending.text earlier) sending)

end DeviceRules

end SerialDialogue
