import SerialDialogue.Engine.Basic

/-!
# What ends a wait

The wait of an engine ends with the next thing that happens.  These lemmas say what a
bound adds to that: it ends the waits that would go on beyond it, and changes no other.
Of two limits one is `NoLater` than the other, and what comes before the one comes before the
other.  A wait that no arrival ends is a wait for nothing, and reading on does not change when
that is over.  Listening is a sequence of waits; `Engine.listen_of_left` is one round of it.
-/

namespace SerialDialogue

@[simp]
theorem comesBy_none (time : Nat) : comesBy time none = true :=
  rfl

@[simp]
theorem comesBy_some (time limit : Nat) : comesBy time (some limit) = true ↔ time ≤ limit := by
  simp [comesBy]

@[simp]
theorem comesBefore_some (time limit : Nat) :
    comesBefore time (some limit) = true ↔ time < limit := by
  simp [comesBefore]

/-- A bound cuts the waits that go on beyond it. -/
def Wake.under : Option Nat → Wake → Wake
  | none, wake => wake
  | some expiry, arrival time => if time ≤ expiry then arrival time else .bound expiry
  | some expiry, deadline time => if time ≤ expiry then deadline time else .bound expiry
  | some _, bound time => .bound time
  | some expiry, never => .bound expiry

theorem Wake.under_arrival {time : Nat} {limit : Option Nat} (inTime : comesBy time limit) :
    (arrival time).under limit = arrival time := by
  cases limit with
  | none => rfl
  | some expiry => simp [under, (comesBy_some time expiry).1 inTime]

theorem Wake.under_deadline {time : Nat} {limit : Option Nat} (inTime : comesBy time limit) :
    (deadline time).under limit = deadline time := by
  cases limit with
  | none => rfl
  | some expiry => simp [under, (comesBy_some time expiry).1 inTime]

theorem Wake.under_arrival_of_lt {time expiry : Nat} (overdue : expiry < time) :
    (arrival time).under (some expiry) = bound expiry := by
  simp [under, Nat.not_le.2 overdue]

theorem Wake.under_deadline_of_lt {time expiry : Nat} (overdue : expiry < time) :
    (deadline time).under (some expiry) = bound expiry := by
  simp [under, Nat.not_le.2 overdue]

theorem comesBy_max {time time' : Nat} {bound : Option Nat} (inTime : comesBy time bound)
    (inTime' : comesBy time' bound) : comesBy (max time time') bound := by
  cases bound with
  | none => rfl
  | some expiry =>
      rw [comesBy_some] at inTime inTime' ⊢
      omega

theorem momentAfter?_eq {clock moment : Nat} {length : Duration}
    (told : momentAfter? clock length = some moment) : moment = clock + length.ceilMillis := by
  unfold momentAfter? at told
  split at told
  · exact (Option.some.inj told).symm
  · cases told

theorem comesBy_momentAfter? (clock : Nat) (length : Duration) :
    comesBy clock (momentAfter? clock length) := by
  cases told : momentAfter? clock length with
  | none => rfl
  | some moment =>
      rw [comesBy_some, momentAfter?_eq told]
      exact Nat.le_add_right _ _

theorem comesBefore_momentAfter? (clock : Nat) {length : Duration} (positive : 0 < length.nanos) :
    comesBefore clock (momentAfter? clock length) := by
  cases told : momentAfter? clock length with
  | none => rfl
  | some moment =>
      rw [comesBefore_some, momentAfter?_eq told, Duration.ceilMillis, Duration.millisecond]
      omega

theorem comesBy_of_comesBefore {time : Nat} {limit : Option Nat}
    (before : comesBefore time limit) : comesBy time limit := by
  cases limit with
  | none => rfl
  | some expiry =>
      rw [comesBefore_some] at before
      exact (comesBy_some _ _).2 (Nat.le_of_lt before)

/-- The second limit does not come before the first one.  A limit that never comes is behind
every other one. -/
def NoLater (first second : Option Nat) : Prop :=
  ∀ expiry, second = some expiry → ∃ moment, first = some moment ∧ moment ≤ expiry

theorem NoLater.comesBefore {first second : Option Nat} (noLater : NoLater first second)
    {time : Nat} (before : comesBefore time first) : comesBefore time second := by
  cases second with
  | none => rfl
  | some expiry =>
      obtain ⟨moment, rfl, early⟩ := noLater expiry rfl
      rw [comesBefore_some] at before ⊢
      omega

theorem NoLater.comesBy {first second : Option Nat} (noLater : NoLater first second)
    {time : Nat} (inTime : comesBy time first) : comesBy time second := by
  cases second with
  | none => rfl
  | some expiry =>
      obtain ⟨moment, rfl, early⟩ := noLater expiry rfl
      rw [comesBy_some] at inTime ⊢
      omega

theorem NoLater.eq_none {first second : Option Nat} (noLater : NoLater first second)
    (never : first = none) : second = none := by
  cases second with
  | none => rfl
  | some expiry =>
      obtain ⟨moment, rfl, -⟩ := noLater expiry rfl
      cases never

/-- Of two moments the one that lies no further from the beginning comes no later.  Nothing is
asked where the clock cannot tell the other one. -/
theorem noLater_momentAfter? {clock clock' : Nat} {length length' : Duration}
    (shorter : clock' * 1000000 + length'.nanos < 0x8000000000000000 * 1000000000 →
      clock * 1000000 + length.nanos ≤ clock' * 1000000 + length'.nanos) :
    NoLater (momentAfter? clock length) (momentAfter? clock' length') := by
  intro expiry told
  have inRange : clock' * 1000000 + length'.nanos < 0x8000000000000000 * 1000000000 :=
    Classical.byContradiction fun beyond => by simp [momentAfter?, beyond] at told
  have nearer := shorter inRange
  refine ⟨clock + length.ceilMillis, if_pos (Nat.lt_of_le_of_lt nearer inRange), ?_⟩
  rw [momentAfter?_eq told, Duration.ceilMillis, Duration.ceilMillis, Duration.millisecond]
  omega

theorem exists_of_not_comesBy {time : Nat} {bound : Option Nat}
    (overdue : ¬ comesBy time bound) :
    ∃ expiry, bound = some expiry ∧ expiry < time := by
  cases bound with
  | none => simp at overdue
  | some expiry => exact ⟨expiry, rfl, by simpa using overdue⟩

theorem nextWake_arrival (now first : Nat) (deadline bound : Option Nat) :
    nextWake now (some first) deadline bound =
      if comesBefore (max now first) deadline && comesBy (max now first) bound then
        .arrival (max now first)
      else nextWake now none deadline bound :=
  rfl

theorem nextWake_eq_arrival_iff {now time : Nat} {arrival deadline bound : Option Nat} :
    nextWake now arrival deadline bound = .arrival time ↔
      ∃ first, arrival = some first ∧ time = max now first ∧ comesBefore time deadline ∧
        comesBy time bound := by
  have notNone : nextWake now none deadline bound ≠ .arrival time := fun wake => by
    obtain ⟨first, arrives, -⟩ := le_of_nextWake_arrival wake
    cases arrives
  cases arrival with
  | none => simp [notNone]
  | some first =>
      rw [nextWake_arrival]
      split <;> rename_i comes <;> rw [Bool.and_eq_true] at comes
      · simp only [Wake.arrival.injEq, Option.some.injEq, exists_eq_left']
        constructor
        · rintro rfl
          exact ⟨rfl, comes⟩
        · exact fun waited => waited.1.symm
      · simp only [notNone, false_iff, Option.some.injEq, exists_eq_left']
        rintro ⟨rfl, inTime⟩
        exact comes inTime

theorem nextWake_of_no_arrival {now : Nat} {arrival deadline bound : Option Nat}
    (noArrival : ∀ time, nextWake now arrival deadline bound ≠ .arrival time) :
    nextWake now arrival deadline bound = nextWake now none deadline bound := by
  cases arrival with
  | none => rfl
  | some first =>
      rw [nextWake_arrival] at noArrival ⊢
      split
      · rename_i comes
        exact absurd (if_pos comes) (noArrival _)
      · rfl

/-- When a wait ends that no arrival ends. -/
def Wake.moment? : Wake → Option Nat
  | deadline time => some time
  | bound time => some time
  | _ => none

theorem le_of_moment {now time : Nat} {arrival deadline bound : Option Nat}
    (ends : (nextWake now arrival deadline bound).moment? = some time) : now ≤ time := by
  cases arrival <;> cases deadline <;> cases bound <;> grind [nextWake, Wake.moment?]

/-- Such a wait ends before anything arrives. -/
theorem le_of_moment_nextWake {now first time : Nat} {deadline bound : Option Nat}
    (ends : (nextWake now (some first) deadline bound).moment? = some time) :
    max now time ≤ max now first := by
  cases deadline <;> cases bound <;> grind [nextWake, comesBefore, comesBy, Wake.moment?]

/-- A wait for nothing ends at the same moment before and behind an arrival that comes before
it. -/
theorem nextWake_none_of_arrival {now time : Nat} {arrival deadline bound : Option Nat}
    (wake : nextWake now arrival deadline bound = .arrival time) :
    nextWake time none deadline bound = nextWake now none deadline bound := by
  obtain ⟨first, -, rfl, before, inTime⟩ := nextWake_eq_arrival_iff.1 wake
  have same {limit : Nat} (behind : max now first ≤ limit) :
      max (max now first) limit = max now limit := by
    omega
  cases bound with
  | none =>
      cases deadline with
      | none => rfl
      | some late =>
          rw [comesBefore_some] at before
          simp only [nextWake, same (Nat.le_of_lt before), comesBy_none, if_true]
  | some expiry =>
      rw [comesBy_some] at inTime
      cases deadline with
      | none => simp only [nextWake, same inTime]
      | some late =>
          rw [comesBefore_some] at before
          simp only [nextWake, same (Nat.le_of_lt before), Option.getD_some, same inTime]

/-- Where the bound is not before the deadline, a wait for nothing goes on to the deadline. -/
theorem nextWake_none_of_noLater {now : Nat} {deadline bound : Option Nat}
    (noLater : NoLater deadline bound) (inTime : comesBy now deadline) :
    nextWake now none deadline bound = deadline.elim .never .deadline := by
  cases deadline with
  | none =>
      obtain rfl := noLater.eq_none rfl
      rfl
  | some late =>
      have atLate : max now late = late := Nat.max_eq_right ((comesBy_some _ _).1 inTime)
      have before : comesBy late bound :=
        noLater.comesBy ((comesBy_some _ _).2 (Nat.le_refl late))
      change (if comesBy (max now late) bound then Wake.deadline (max now late) else _) = _
      rw [atLate, if_pos before]
      rfl

theorem nextWake_none_some {now expiry : Nat} (deadline : Option Nat) (inTime : now ≤ expiry) :
    nextWake now none deadline (some expiry) =
      (nextWake now none deadline none).under (some expiry) := by
  have atExpiry : max now expiry = expiry := Nat.max_eq_right inTime
  cases deadline with
  | none => exact congrArg Wake.bound atExpiry
  | some late =>
      change (if comesBy (max now late) (some expiry) then Wake.deadline (max now late)
        else .bound (max now expiry)) = (Wake.deadline (max now late)).under (some expiry)
      by_cases reached : max now late ≤ expiry
      · rw [if_pos ((comesBy_some _ _).2 reached), Wake.under, if_pos reached]
      · rw [if_neg (mt (comesBy_some _ _).1 reached), Wake.under, if_neg reached, atExpiry]

/-- A deadline that comes behind something beyond the bound is beyond the bound. -/
theorem under_nextWake_of_comesBefore {now expiry soon : Nat} {deadline : Option Nat}
    (before : comesBefore soon deadline) (overdue : expiry < soon) :
    (nextWake now none deadline none).under (some expiry) = .bound expiry := by
  cases deadline with
  | none => rfl
  | some late =>
      have behind := (comesBefore_some soon late).1 before
      exact Wake.under_deadline_of_lt (by omega)

theorem nextWake_some {now expiry : Nat} (arrival deadline : Option Nat)
    (inTime : now ≤ expiry) :
    nextWake now arrival deadline (some expiry) =
      (nextWake now arrival deadline none).under (some expiry) := by
  cases arrival with
  | none => exact nextWake_none_some deadline inTime
  | some first =>
      rw [nextWake_arrival, nextWake_arrival, comesBy_none, Bool.and_true,
        nextWake_none_some deadline inTime]
      by_cases before : comesBefore (max now first) deadline
      · by_cases reached : comesBy (max now first) (some expiry)
        · rw [if_pos (Bool.and_eq_true_iff.2 ⟨before, reached⟩), if_pos before,
            Wake.under_arrival reached]
        · have overdue : expiry < max now first := by
            rw [comesBy_some] at reached
            omega
          rw [if_neg fun both => reached (Bool.and_eq_true_iff.1 both).2, if_pos before,
            Wake.under_arrival_of_lt overdue]
          exact under_nextWake_of_comesBefore before overdue
      · rw [if_neg fun both => before (Bool.and_eq_true_iff.1 both).1, if_neg before]

/-- A bound that has not come yet cuts the waits that would go on beyond it, and changes no
other wait. -/
theorem nextWake_under {now : Nat} (arrival deadline : Option Nat) {bound : Option Nat}
    (inTime : comesBy now bound) :
    nextWake now arrival deadline bound = (nextWake now arrival deadline none).under bound := by
  cases bound with
  | none => rfl
  | some expiry => exact nextWake_some arrival deadline (by simpa using inTime)

/-- A bound that does not end a wait for nothing is not before the deadline, and the wait is the
same without it. -/
theorem nextWake_none_of_ne_bound {now : Nat} {deadline bound : Option Nat}
    (notBound : ∀ time, nextWake now none deadline bound ≠ .bound time) :
    NoLater deadline bound ∧
      nextWake now none deadline none = nextWake now none deadline bound := by
  cases bound with
  | none => exact ⟨nofun, rfl⟩
  | some expiry =>
      cases deadline with
      | none => exact absurd rfl (notBound _)
      | some late =>
          by_cases inTime : comesBy (max now late) (some expiry)
          · have early : max now late ≤ expiry := (comesBy_some _ _).1 inTime
            refine ⟨?_, ?_⟩
            · rintro _ ⟨⟩
              exact ⟨late, rfl, by omega⟩
            · simp only [nextWake, inTime, comesBy_none, if_true]
          · exact absurd (if_neg inTime) (notBound _)

theorem nextWake_none_ne_bound (now time : Nat) (arrival deadline : Option Nat) :
    nextWake now arrival deadline none ≠ .bound time := by
  cases deadline <;> cases arrival <;> simp [nextWake, comesBy] <;> split <;> simp

namespace Engine

variable {engine : Engine} {level : Level} {goal left : Goal} {deadline bound : Option Nat}

theorem listen_of_reached (reached : (engine.hear level goal).1 = none) :
    engine.listen level goal deadline bound = (.reached, (engine.hear level goal).2) := by
  rw [listen]
  split
  · rfl
  · rename_i goalLeft
    simp [reached] at goalLeft

/-- Listening goes on as the wait ends that the characters read already leave. -/
theorem listen_of_left (goalLeft : (engine.hear level goal).1 = some left) :
    engine.listen level goal deadline bound =
      match (engine.hear level goal).2.wake deadline bound with
      | .arrival time =>
          ((engine.hear level goal).2.readBy time).listen level left deadline bound
      | .deadline time => (.late, (engine.hear level goal).2.passTo time)
      | .bound time => (.cut, (engine.hear level goal).2.passTo time)
      | .never => (.stuck, (engine.hear level goal).2) := by
  rw [listen]
  split
  · rename_i reached
    simp [reached] at goalLeft
  · rename_i other otherLeft
    obtain rfl : other = left := by simpa [otherLeft] using goalLeft
    split <;> rename_i wake <;> simp only [wake]

theorem listen_of_arrival (goalLeft : (engine.hear level goal).1 = some left) {time : Nat}
    (wake : (engine.hear level goal).2.wake deadline bound = .arrival time) :
    engine.listen level goal deadline bound =
      ((engine.hear level goal).2.readBy time).listen level left deadline bound := by
  rw [listen_of_left goalLeft, wake]

theorem listen_of_bound (goalLeft : (engine.hear level goal).1 = some left) {time : Nat}
    (wake : (engine.hear level goal).2.wake deadline bound = .bound time) :
    engine.listen level goal deadline bound = (.cut, (engine.hear level goal).2.passTo time) := by
  rw [listen_of_left goalLeft, wake]

end Engine

end SerialDialogue
