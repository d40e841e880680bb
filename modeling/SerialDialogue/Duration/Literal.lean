import SerialDialogue.Duration.Basic
import SerialDialogue.Text.Blank

/-!
# Duration literals

The written form of a duration: the bare literal `0`, or one or more pairs of a
decimal number and a unit with nothing between them, such as `2m30s` or `1.5s`.
The arithmetic is exact; the intermediate results are kept below `2 ^ 128` and the
whole seconds of the sum below `2 ^ 64`.
-/

namespace SerialDialogue

/-- A text that is no duration literal; it is kept without the blanks around it. -/
structure InvalidDuration where
  text : String
  deriving Repr, DecidableEq

namespace Duration

/-- The units of a literal. -/
inductive TimeUnit where
  | nanosecond
  | microsecond
  | millisecond
  | second
  | minute
  | hour
  deriving Repr, DecidableEq

namespace TimeUnit

/-- A unit in nanoseconds. -/
def nanos : TimeUnit → Nat
  | nanosecond => 1
  | microsecond => 1000
  | millisecond => 1000000
  | second => 1000000000
  | minute => 60 * 1000000000
  | hour => 3600 * 1000000000

/-- The unit of a name.  The microsecond may be written with either micro sign. -/
def ofName? : List Char → Option TimeUnit
  | ['n', 's'] => some nanosecond
  | ['u', 's'] => some microsecond
  | ['µ', 's'] => some microsecond
  | ['μ', 's'] => some microsecond
  | ['m', 's'] => some millisecond
  | ['s'] => some second
  | ['m'] => some minute
  | ['h'] => some hour
  | _ => none

end TimeUnit

namespace Literal

/-- The characters of the number of a pair. -/
def isNumeric (c : Char) : Bool :=
  ('0' ≤ c && c ≤ '9') || c == '.'

def digit? (c : Char) : Option Nat :=
  if '0' ≤ c ∧ c ≤ '9' then some (c.toNat - '0'.toNat) else none

/-- The value of a row of decimal digits behind `value`. -/
def digitsFrom (value : Nat) : List Char → Option Nat
  | [] => some value
  | c :: rest =>
      match digit? c with
      | none => none
      | some digit => digitsFrom (value * 10 + digit) rest

/-- The result itself where it is below `2 ^ 128`. -/
def checked (value : Nat) : Option Nat :=
  if value < 0x100000000000000000000000000000000 then some value else none

/-- The integer part of a number; an empty one is zero. -/
def integerPart (digits : List Char) : Option Nat :=
  (digitsFrom 0 digits).bind checked

/-- Beyond this scale the digits of a fraction are read but not counted. -/
def finestScale : Nat := 1000000000000000000

/-- The numerator of a fraction and its scale, a power of ten. -/
def fractionFrom (numerator scale : Nat) : List Char → Option (Nat × Nat)
  | [] => some (numerator, scale)
  | c :: rest =>
      match digit? c with
      | none => none
      | some digit =>
          if scale < finestScale then
            fractionFrom (numerator * 10 + digit) (scale * 10) rest
          else
            fractionFrom numerator scale rest

/-- A number cut at its first point: the part before and the part behind it. -/
def splitPoint (number : List Char) : List Char × List Char :=
  (number.takeWhile (· != '.'), (number.dropWhile (· != '.')).drop 1)

/-- A number times a unit, in whole nanoseconds, rounded down.  There has to be a
digit, and a second point is refused as a digit. -/
def scaled (number : List Char) (unit : Nat) : Option Nat :=
  let parts := splitPoint number
  if parts.1.isEmpty && parts.2.isEmpty then
    none
  else
    match integerPart parts.1, fractionFrom 0 1 parts.2 with
    | some whole, some (numerator, scale) =>
        (checked (whole * unit)).bind fun product =>
          checked (product + numerator * unit / scale)
    | _, _ => none

/-- The sum of the pairs of a literal behind the sum `total`. -/
def sumFrom (total : Nat) (text : List Char) : Option Nat :=
  match text with
  | [] => some total
  | c :: rest =>
      let number := (c :: rest).takeWhile isNumeric
      let tail := (c :: rest).dropWhile isNumeric
      let name := tail.takeWhile (!isNumeric ·)
      let after := tail.dropWhile (!isNumeric ·)
      match TimeUnit.ofName? name with
      | none => none
      | some unit =>
          match (scaled number unit.nanos).bind fun nanos => checked (total + nanos) with
          | none => none
          | some sum => sumFrom sum after
termination_by text.length
decreasing_by
  have drop_le : ∀ (p : Char → Bool) (l : List Char), (l.dropWhile p).length ≤ l.length :=
    fun p l => (List.dropWhile_sublist p).length_le
  have tail_le := drop_le isNumeric rest
  by_cases numeric : isNumeric c = true
  · have after_le := drop_le (!isNumeric ·) (rest.dropWhile isNumeric)
    simp only [List.dropWhile_cons, numeric, if_true, List.length_cons]
    omega
  · have after_le := drop_le (!isNumeric ·) rest
    simp only [List.dropWhile_cons, numeric, Bool.not_false, if_true, List.length_cons,
      Bool.false_eq_true, if_false]
    omega

/-- The nanoseconds of a literal without blanks around it. -/
def nanos? (text : List Char) : Option Nat :=
  match text with
  | [] => none
  | ['0'] => some 0
  | text => sumFrom 0 text

end Literal

/-- The duration that a literal stands for; blanks around it do not count. -/
def parse? (s : String) : Except InvalidDuration Duration :=
  match (Literal.nanos? (Text.trim s).toList).bind ofNanos? with
  | some d => .ok d
  | none => .error ⟨Text.trim s⟩

end Duration

end SerialDialogue
