/-!
# Durations

A length of time, exact to the nanosecond, with whole seconds below `2 ^ 64`.
-/

namespace SerialDialogue

/-- A length of time: a number of nanoseconds whose whole seconds fit 64 bits. -/
structure Duration where
  nanos : Nat
  inRange : nanos < 0x10000000000000000 * 1000000000

namespace Duration

def millisecond : Nat := 1000000

/-- The duration of that many nanoseconds, if there is one. -/
def ofNanos? (nanos : Nat) : Option Duration :=
  if h : nanos < 0x10000000000000000 * 1000000000 then some ⟨nanos, h⟩ else none

def maximum : Duration := ⟨0x10000000000000000 * 1000000000 - 1, by decide⟩

/-- That many whole seconds, for a number that fits 64 bits. -/
def ofSeconds (seconds : Nat) (h : seconds < 0x10000000000000000 := by decide) : Duration :=
  ⟨seconds * 1000000000, by omega⟩

/-- That many milliseconds, or the longest duration where they are out of range. -/
def ofMillis (millis : Nat) : Duration :=
  match ofNanos? (millis * millisecond) with
  | some d => d
  | none => maximum

def seconds (d : Duration) : Nat := d.nanos / 1000000000

/-- Nanoseconds past the last whole second. -/
def subsecond (d : Duration) : Nat := d.nanos % 1000000000

/-- The sum, or the longest duration where the sum is out of range. -/
def saturatingAdd (first second : Duration) : Duration :=
  match ofNanos? (first.nanos + second.nanos) with
  | some sum => sum
  | none => maximum

/-- Whole milliseconds, a begun one counted in full. -/
def ceilMillis (d : Duration) : Nat :=
  (d.nanos + (millisecond - 1)) / millisecond

@[ext]
theorem ext {first second : Duration} (h : first.nanos = second.nanos) : first = second := by
  cases first; cases second; simp_all

instance : DecidableEq Duration := fun first second =>
  if h : first.nanos = second.nanos then
    .isTrue (ext h)
  else
    .isFalse fun equal => h (by rw [equal])

instance : Repr Duration where
  reprPrec d _ := repr d.nanos

theorem ofNanos?_eq_some_iff {nanos : Nat} {d : Duration} :
    ofNanos? nanos = some d ↔ d.nanos = nanos := by
  unfold ofNanos?
  split
  · rename_i h
    constructor
    · intro equal
      cases equal
      rfl
    · intro equal
      exact congrArg some (ext equal.symm)
  · rename_i h
    constructor
    · intro equal
      cases equal
    · intro equal
      exact absurd (equal ▸ d.inRange) h

theorem ofNanos?_nanos (d : Duration) : ofNanos? d.nanos = some d :=
  ofNanos?_eq_some_iff.2 rfl

theorem saturatingAdd_nanos (first second : Duration) :
    (first.saturatingAdd second).nanos =
      min (first.nanos + second.nanos) (0x10000000000000000 * 1000000000 - 1) := by
  unfold saturatingAdd
  split
  · rename_i sum equal
    have value := ofNanos?_eq_some_iff.1 equal
    have := sum.inRange
    omega
  · rename_i equal
    have : ¬ first.nanos + second.nanos < 0x10000000000000000 * 1000000000 := by
      intro h
      rw [ofNanos?, dif_pos h] at equal
      cases equal
    simp only [maximum]
    omega

end Duration

end SerialDialogue
