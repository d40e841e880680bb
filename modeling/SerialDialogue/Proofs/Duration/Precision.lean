import SerialDialogue.Proofs.Duration.Grammar

/-!
# What the digits past the last counted place come to

Of the digits of a fraction only the first eighteen are counted.  Units up to the second divide
the scale of the last counted place, so that what is dropped stays below the next nanosecond.
Minutes and hours do not divide it, and the dropped digits can be the ones that complete a
nanosecond.  Then the literal comes out one nanosecond short, for every pair where this happens.
-/

namespace SerialDialogue

namespace Duration

namespace Literal

/-- A quotient by a scale, and by a finer scale that counts a little more than the first one
does. -/
theorem div_finer {whole scale finer more : Nat} (fine : 0 < finer)
    (little : more < scale * finer) :
    (whole * finer + more) / (scale * finer) =
      whole / scale + if scale * finer ≤ whole % scale * finer + more then 1 else 0 := by
  have positive : 0 < scale * finer := Nat.zero_lt_of_lt little
  have below : whole % scale * finer < scale * finer :=
    Nat.mul_lt_mul_of_pos_right (Nat.mod_lt _ (Nat.pos_of_mul_pos_right positive)) fine
  have split : whole * finer + more =
      scale * finer * (whole / scale) + (whole % scale * finer + more) := by
    calc
      whole * finer + more = (scale * (whole / scale) + whole % scale) * finer + more := by
        rw [Nat.div_add_mod]
      _ = scale * finer * (whole / scale) + (whole % scale * finer + more) := by ring
  rw [split, Nat.mul_add_div positive]
  congr 1
  split
  · rename_i reached
    rw [Nat.div_eq_iff positive]
    omega
  · rename_i missed
    exact Nat.div_eq_of_lt (by omega)

namespace Numeral

variable (numeral : Numeral)

/-- The number that is written, with all its digits. -/
def exactValue : ℚ :=
  Nat.ofDigitChars 10 numeral.whole 0 +
    Nat.ofDigitChars 10 (numeral.fraction?.getD []) 0 / 10 ^ (numeral.fraction?.getD []).length

/-- The digits past the last counted place. -/
def dropped : List Char :=
  (numeral.fraction?.getD []).drop places

theorem exactValue_eq_value :
    numeral.exactValue = numeral.value (numeral.fraction?.getD []).length := by
  simp [exactValue, value, counted]

theorem counted_append_dropped :
    numeral.counted places ++ numeral.dropped = numeral.fraction?.getD [] :=
  List.take_append_drop places _

theorem places_lt_length (more : numeral.dropped ≠ []) :
    places < (numeral.fraction?.getD []).length := by
  rw [dropped, ne_eq, List.drop_eq_nil_iff] at more
  omega

theorem length_counted (more : numeral.dropped ≠ []) :
    (numeral.counted places).length = places := by
  have long := numeral.places_lt_length more
  rw [counted, List.length_take]
  omega

theorem ofDigitChars_dropped_lt :
    Nat.ofDigitChars 10 numeral.dropped 0 < 10 ^ numeral.dropped.length := by
  have digits : ∀ c ∈ numeral.dropped, IsDigit c :=
    fun c member => numeral.isDigit_fraction c (List.mem_of_mem_drop member)
  simpa using ofDigitChars_lt digits 0

/-- The digits of a fraction make one number, of which the counted digits are the front. -/
theorem ofDigitChars_fraction :
    Nat.ofDigitChars 10 (numeral.fraction?.getD []) 0 =
      Nat.ofDigitChars 10 (numeral.counted places) 0 * 10 ^ numeral.dropped.length +
        Nat.ofDigitChars 10 numeral.dropped 0 := by
  rw [← numeral.counted_append_dropped, Nat.ofDigitChars_append,
    Nat.ofDigitChars_eq_ofDigitChars_zero, Nat.mul_comm]

end Numeral

namespace Pair

variable (pair : Pair)

/-- The nanoseconds of a pair by the exact number that is written, rounded down. -/
def exactNanos : Nat :=
  ⌊pair.numeral.exactValue * pair.unit⌋₊

/-- What the counted digits leave of a nanosecond and what the dropped digits come to make a
whole nanosecond together. -/
def Short : Prop :=
  10 ^ places * 10 ^ pair.numeral.dropped.length ≤
    Nat.ofDigitChars 10 (pair.numeral.counted places) 0 * pair.unit % 10 ^ places *
        10 ^ pair.numeral.dropped.length +
      Nat.ofDigitChars 10 pair.numeral.dropped 0 * pair.unit

instance : DecidablePred Short :=
  fun _ => inferInstanceAs (Decidable (_ ≤ _))

theorem unit_le : pair.unit ≤ 10 ^ places := by
  have bound : ∀ entry ∈ unitNames, entry.2 ≤ 10 ^ places := by decide
  exact bound _ pair.named

/-- What the dropped digits come to, in parts of a last place. -/
theorem dropped_mul_unit_le :
    Nat.ofDigitChars 10 pair.numeral.dropped 0 * pair.unit + pair.unit ≤
      10 ^ pair.numeral.dropped.length * pair.unit := by
  rw [← Nat.succ_mul]
  exact Nat.mul_le_mul_right _ pair.numeral.ofDigitChars_dropped_lt

theorem dropped_ne_nil_of_short (short : pair.Short) : pair.numeral.dropped ≠ [] := by
  intro nothing
  have below : Nat.ofDigitChars 10 (pair.numeral.counted places) 0 * pair.unit % 10 ^ places <
      10 ^ places := Nat.mod_lt _ (by decide)
  simp only [Short, nothing, List.length_nil, Nat.ofDigitChars_nil] at short
  omega

/-- A unit that divides the scale of the last counted place leaves at least itself to the next
nanosecond, which is more than the dropped digits come to. -/
theorem not_short_of_dvd (divides : pair.unit ∣ 10 ^ places) : ¬ pair.Short := by
  let rest := Nat.ofDigitChars 10 (pair.numeral.counted places) 0 * pair.unit % 10 ^ places
  have below : rest < 10 ^ places := Nat.mod_lt _ (by decide)
  -- The scale and the rest are multiples of the unit, and so is what lies between them.
  have multiple : pair.unit ∣ rest := (Nat.dvd_mod_iff divides).2 (Nat.dvd_mul_left _ _)
  have apart : pair.unit ≤ 10 ^ places - rest :=
    Nat.le_of_dvd (by omega) (Nat.dvd_sub divides multiple)
  have upTo : (rest + pair.unit) * 10 ^ pair.numeral.dropped.length ≤
      10 ^ places * 10 ^ pair.numeral.dropped.length :=
    Nat.mul_le_mul_right _ (by omega)
  have fewer := pair.dropped_mul_unit_le
  have positive := pair.unit_pos
  rw [Nat.add_mul, Nat.mul_comm pair.unit] at upTo
  unfold Short
  change ¬ 10 ^ places * 10 ^ pair.numeral.dropped.length ≤
    rest * 10 ^ pair.numeral.dropped.length + _
  omega

/-- Only minutes and hours come out short. -/
theorem name_of_short (short : pair.Short) : pair.name = "m" ∨ pair.name = "h" := by
  have others : ∀ entry ∈ unitNames, ¬ entry.2 ∣ 10 ^ places → entry.1 = "m" ∨ entry.1 = "h" := by
    decide
  exact others _ pair.named fun divides => pair.not_short_of_dvd divides short

/-- By all its digits a pair has as many nanoseconds as by the counted ones, or one more. -/
theorem exactNanos_eq : pair.exactNanos = pair.nanos + if pair.Short then 1 else 0 := by
  rw [exactNanos, pair.numeral.exactValue_eq_value, pair.numeral.floor_value_mul, nanos,
    pair.numeral.floor_value_mul, Nat.add_assoc]
  have whole : pair.numeral.counted (pair.numeral.fraction?.getD []).length =
      pair.numeral.fraction?.getD [] := List.take_length
  rw [whole, Nat.add_right_inj]
  by_cases all : pair.numeral.dropped = []
  · have same := pair.numeral.counted_append_dropped
    rw [all, List.append_nil] at same
    rw [same, if_neg fun short => pair.dropped_ne_nil_of_short short all, Nat.add_zero]
  · have behind := pair.dropped_mul_unit_le
    have coarse : 10 ^ pair.numeral.dropped.length * pair.unit ≤
        10 ^ pair.numeral.dropped.length * 10 ^ places := Nat.mul_le_mul_left _ pair.unit_le
    have positive := pair.unit_pos
    have length : (pair.numeral.fraction?.getD []).length =
        places + pair.numeral.dropped.length := by
      rw [← pair.numeral.counted_append_dropped, List.length_append,
        pair.numeral.length_counted all]
    rw [length, Nat.pow_add, pair.numeral.length_counted all, pair.numeral.ofDigitChars_fraction,
      Nat.add_mul, Nat.mul_right_comm]
    apply div_finer (Nat.pow_pos (by decide))
    rw [Nat.mul_comm (10 ^ places)]
    omega

end Pair

/-- What the pairs come to together by the exact numbers that are written. -/
def exactTotal (pairs : List Pair) : Nat :=
  (pairs.map Pair.exactNanos).sum

theorem exactTotal_eq (pairs : List Pair) :
    exactTotal pairs = total pairs + pairs.countP (Pair.Short ·) := by
  induction pairs with
  | nil => rfl
  | cons pair later ih =>
      have exactSum : exactTotal (pair :: later) = pair.exactNanos + exactTotal later := by
        simp [exactTotal]
      have counted : total (pair :: later) = pair.nanos + total later := by simp [total]
      rw [exactSum, counted, ih, pair.exactNanos_eq, List.countP_cons]
      simp only [decide_eq_true_eq]
      omega

/-- A third of a last place and a little more, in minutes: `0.0000000000333333334m`. -/
def sliver : Pair where
  numeral :=
    { whole := ['0']
      fraction? := some "0000000000333333334".toList
      digits := by simp [IsDigit]
      some_digit := by simp }
  name := "m"
  unit := 60000000000
  named := by decide

end Literal

open Literal

/-- Each pair that comes out short takes a nanosecond off the exact result, and nothing else
does.  A pair in minutes or hours can be short if it has more than eighteen digits behind its
point, and no other pair is. -/
theorem parse?_iff_exact (s : String) (d : Duration) :
    (∀ pairs, pairs ≠ [] → (Text.trim s).toList = written pairs →
      (parse? s = .ok d ↔ d.nanos + pairs.countP (Pair.Short ·) = exactTotal pairs) ∧
        (parse? s = .ok d →
          (d.nanos = exactTotal pairs ↔ ∀ pair ∈ pairs, ¬ pair.Short))) ∧
      (parse? s = .ok d →
        Text.trim s = "0" ∧ d.nanos = 0 ∨
          ∃ pairs, pairs ≠ [] ∧ (Text.trim s).toList = written pairs) ∧
      ∀ pair : Pair, pair.Short →
        (pair.name = "m" ∨ pair.name = "h") ∧ 18 < (pair.numeral.fraction?.getD []).length := by
  refine ⟨?_, ?_, ?_⟩
  · intro pairs nonempty text
    have parsed : parse? s = .ok d ↔
        d.nanos + pairs.countP (Pair.Short ·) = exactTotal pairs := by
      rw [parse?_eq_ok_iff_total nonempty text, exactTotal_eq]
      omega
    refine ⟨parsed, fun read => ?_⟩
    have none_short : pairs.countP (Pair.Short ·) = 0 ↔ ∀ pair ∈ pairs, ¬ pair.Short := by
      simp [List.countP_eq_zero]
    rw [← none_short, ← parsed.1 read]
    omega
  · intro read
    rcases nanos?_eq_some_iff.1 (parse?_eq_ok_iff.1 read) with
      ⟨zero, value⟩ | ⟨pairs, nonempty, text, -⟩
    · exact .inl ⟨String.toList_inj.1 zero, value⟩
    · exact .inr ⟨pairs, nonempty, text⟩
  · intro pair short
    exact ⟨pair.name_of_short short,
      pair.numeral.places_lt_length (pair.dropped_ne_nil_of_short short)⟩

/-- The dropped digits matter: the literal is read as one nanosecond and comes to two. -/
theorem exists_parse?_ne_exactTotal :
    ¬ ∀ s d pairs, parse? s = .ok d → (Text.trim s).toList = written pairs →
      d.nanos = exactTotal pairs := by
  intro exactly
  have text : (Text.trim "0.0000000000333333334m").toList = written [sliver] := by decide
  have nanos : sliver.nanos = 1 := by
    rw [Pair.nanos, sliver.numeral.floor_value_mul]
    decide
  have read : parse? "0.0000000000333333334m" = .ok ⟨1, by decide⟩ := by
    rw [parse?_eq_ok_iff_total (List.cons_ne_nil _ _) text]
    simp [total, nanos]
  have short : sliver.Short := by decide
  have equal := exactly _ _ _ read text
  simp [exactTotal, sliver.exactNanos_eq, nanos, short] at equal

end Duration

end SerialDialogue
