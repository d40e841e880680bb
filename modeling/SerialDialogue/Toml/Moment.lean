import SerialDialogue.Toml.Lexis

/-!
# Dates and times of TOML

A moment is a date, a time of day, or both, and then perhaps with the offset of the
clock.  Nothing that this library reads from a document is a moment, so one is only
recognised, with its bounds checked: every function gives back the text behind what it
recognised.
-/

namespace SerialDialogue

namespace Toml

/-- A number of exactly `count` digits between two bounds. -/
def bounded? (count low high : Nat) (text : List Char) : Option (Nat × List Char) :=
  let written := text.take count
  let value := written.foldl (fun value c => value * 10 + (c.toNat - '0'.toNat)) 0
  if written.length = count ∧ written.all Char.isDigit ∧ low ≤ value ∧ value ≤ high then
    some (value, text.drop count)
  else
    none

/-- The text behind a mark. -/
def behind? (mark : Char) : List Char → Option (List Char)
  | [] => none
  | c :: rest => if c = mark then some rest else none

def isLeapYear (year : Nat) : Bool :=
  year % 4 = 0 && (year % 100 != 0 || year % 400 = 0)

def daysOf (year month : Nat) : Nat :=
  if month = 2 then (if isLeapYear year then 29 else 28)
  else if [4, 6, 9, 11].contains month then 30
  else 31

def date? (text : List Char) : Option (List Char) := do
  let (year, rest) ← bounded? 4 0 9999 text
  let (month, rest) ← bounded? 2 1 12 (← behind? '-' rest)
  let (_, rest) ← bounded? 2 1 (daysOf year month) (← behind? '-' rest)
  return rest

/-- A time of day: hour, minute and second, of which the last may have a fraction. -/
def time? (text : List Char) : Option (List Char) := do
  let (_, rest) ← bounded? 2 0 23 text
  let (_, rest) ← bounded? 2 0 59 (← behind? ':' rest)
  let (_, rest) ← bounded? 2 0 60 (← behind? ':' rest)
  match rest with
  | '.' :: c :: more => return if c.isDigit then more.dropWhile Char.isDigit else rest
  | _ => return rest

def offset? : List Char → Option (List Char)
  | [] => none
  | c :: rest =>
      if c = 'Z' ∨ c = 'z' then
        some rest
      else if c = '+' ∨ c = '-' then do
        let (_, rest) ← bounded? 2 0 23 rest
        let (_, rest) ← bounded? 2 0 59 (← behind? ':' rest)
        return rest
      else
        none

/-- The time behind a date, with or without an offset. -/
def timeBehindDate? : List Char → Option (List Char)
  | [] => none
  | c :: rest =>
      if c = 'T' ∨ c = 't' ∨ c = ' ' then do
        let after ← time? rest
        return (offset? after).getD after
      else
        none

def moment? (text : List Char) : Option (List Char) :=
  match date? text with
  | some rest => some ((timeBehindDate? rest).getD rest)
  | none => time? text

end Toml

end SerialDialogue
