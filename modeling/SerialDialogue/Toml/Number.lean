import SerialDialogue.Toml.Lexis

/-!
# Numbers of TOML

Integers of 64 bits, and floating-point numbers.  Nothing that this library reads from
a document is a floating-point number, so one is kept as it is written; it has to be
one that the binary format of 64 bits can hold.
-/

namespace SerialDialogue

namespace Toml

/-! ## Integers -/

/-- The digits of a number in some base behind `value`.  An underscore has to stand
between two digits; `last` says whether the character before was a digit. -/
def digits (base : Nat) (value : Nat) (last : Bool) :
    List Char → Except Error (Nat × List Char)
  | [] => if last then .ok (value, []) else .error .malformed
  | c :: rest =>
      match hexDigit? c with
      | some digit =>
          if digit < base then
            digits base (value * base + digit) true rest
          else if last then .ok (value, c :: rest) else .error .malformed
      | none =>
          if c = '_' && last then
            digits base value false rest
          else if last then .ok (value, c :: rest) else .error .malformed

/-- A decimal number without superfluous zeros in front. -/
def decimal (text : List Char) : Except Error (Nat × List Char) :=
  match text with
  | '0' :: rest => .ok (0, rest)
  | text => digits 10 0 false text

/-- The sign of a number, if there is one: whether it is a minus. -/
def sign (text : List Char) : Bool × List Char :=
  match text with
  | '-' :: rest => (true, rest)
  | '+' :: rest => (false, rest)
  | text => (false, text)

/-- An integer of 64 bits with its sign. -/
def integer (text : List Char) : Except Error (Int × List Char) := do
  let (value, rest) ←
    match text with
    | '0' :: 'x' :: more => (digits 16 0 false more).map fun (n, rest) => (Int.ofNat n, rest)
    | '0' :: 'o' :: more => (digits 8 0 false more).map fun (n, rest) => (Int.ofNat n, rest)
    | '0' :: 'b' :: more => (digits 2 0 false more).map fun (n, rest) => (Int.ofNat n, rest)
    | text =>
        let (negative, unsigned) := sign text
        (decimal unsigned).map fun (n, rest) =>
          (if negative then -Int.ofNat n else Int.ofNat n, rest)
  if -0x8000000000000000 ≤ value ∧ value < 0x8000000000000000 then
    return (value, rest)
  else
    throw .malformed

/-! ## Floating-point numbers -/

/-- The least number that is too large for the binary format: halfway between its
largest number, 2^1024 - 2^971, and 2^1024. -/
def overflowBound : Nat :=
  (Nat.pow 2 54 - 1) * Nat.pow 2 970

/-- The number `mantissa` times ten to the power of `exponent` is too large for the
binary format.  One with many more digits than the bound is, whatever they are. -/
def overflows (mantissa : Nat) (exponent : Int) : Bool :=
  let length : Int := (Nat.toDigits 10 mantissa).length + exponent
  if mantissa = 0 ∨ length < 309 then false
  else if 309 < length then true
  else if 0 ≤ exponent then overflowBound ≤ mantissa * Nat.pow 10 exponent.toNat
  else overflowBound * Nat.pow 10 (-exponent).toNat ≤ mantissa

/-- The digits behind the point of a number: the number with them in it, and how many
there are. -/
def fraction (whole : Nat) (text : List Char) : Except Error ((Nat × Nat) × List Char) :=
  (digits 10 whole false text).map fun (value, rest) =>
    let written := text.take (text.length - rest.length)
    ((value, (written.filter Char.isDigit).length), rest)

/-- The exponent of a number, if there is one; `none` where there is none. -/
def exponent? (text : List Char) : Except Error (Option (Int × List Char)) :=
  match text with
  | [] => .ok none
  | c :: rest =>
      if c = 'e' ∨ c = 'E' then
        let (negative, unsigned) := sign rest
        (digits 10 0 false unsigned).map fun (n, rest) =>
          some (if negative then -Int.ofNat n else Int.ofNat n, rest)
      else
        .ok none

/-- The text behind a floating-point number, which has a fraction or an exponent. -/
def finite (text : List Char) : Except Error (List Char) := do
  let (negative, unsigned) := sign text
  let (whole, rest) ← decimal unsigned
  let ((mantissa, places), rest) ←
    match rest with
    | '.' :: more => fraction whole more
    | rest => pure ((whole, 0), rest)
  let (exponent, after) ←
    match ← exponent? rest with
    | some (value, after) => pure (value, after)
    | none => if places = 0 then throw .malformed else pure (0, rest)
  if !negative && overflows mantissa (exponent - places) then
    throw .malformed
  else
    return after

/-- The text behind an infinity or a value that is no number. -/
def special (text : List Char) : Except Error (List Char) :=
  let unsigned := (sign text).2
  if "inf".toList.isPrefixOf unsigned || "nan".toList.isPrefixOf unsigned then
    .ok (unsigned.drop 3)
  else
    .error .malformed

def float (text : List Char) : Except Error (List Char) :=
  (finite text).orElseLazy fun _ => special text

end Toml

end SerialDialogue
