import SerialDialogue.Duration.Basic

/-!
# Printed durations

A duration is printed in the largest of the units `s`, `ms`, `µs` and `ns` in which
its value is at least one, with as many decimals as it needs and no more.
-/

namespace SerialDialogue

namespace Duration

/-- How a duration is printed: the whole part, the fraction as a count of
`10 ^ places`-ths, and the unit. -/
structure Scaled where
  whole : Nat
  fraction : Nat
  places : Nat
  unit : String
  deriving Repr, DecidableEq

/-- The unit that a duration is printed in, and its value there. -/
def scale (d : Duration) : Scaled :=
  if 1000000000 ≤ d.nanos then
    ⟨d.nanos / 1000000000, d.nanos % 1000000000, 9, "s"⟩
  else if 1000000 ≤ d.nanos then
    ⟨d.nanos / 1000000, d.nanos % 1000000, 6, "ms"⟩
  else if 1000 ≤ d.nanos then
    ⟨d.nanos / 1000, d.nanos % 1000, 3, "µs"⟩
  else
    ⟨d.nanos, 0, 0, "ns"⟩

/-- The decimals of `fraction / 10 ^ places` without the zeros at the end. -/
def decimals (fraction : Nat) : Nat → List Char
  | 0 => []
  | places + 1 =>
      if fraction = 0 then
        []
      else
        Nat.digitChar (fraction / Nat.pow 10 places) ::
          decimals (fraction % Nat.pow 10 places) places

def render (d : Duration) : String :=
  let scaled := d.scale
  let behindPoint := decimals scaled.fraction scaled.places
  let point := if behindPoint.isEmpty then [] else ['.']
  String.ofList (Nat.toDigits 10 scaled.whole ++ point ++ behindPoint) ++ scaled.unit

end Duration

end SerialDialogue
