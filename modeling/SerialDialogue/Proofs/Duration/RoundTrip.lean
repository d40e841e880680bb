import SerialDialogue.Dialogue
import SerialDialogue.Proofs.Duration.Precision

/-!
# Printed durations are literals

A duration is printed in the largest unit in which it comes to at least one, exactly, and with no
digit that could be left out.  There is only one such form of a duration.  It is a literal, and it
is read as the duration that was printed.
-/

namespace SerialDialogue

namespace Duration

namespace Literal

/-! ## Digits -/

theorem isDigit_iff {c : Char} : IsDigit c ↔ c.isDigit := by
  simp [IsDigit, Char.isDigit, Char.le_def]

theorem isDigit_digitChar {n : Nat} (small : n < 10) : IsDigit n.digitChar := by
  rw [isDigit_iff, Nat.isDigit_digitChar, decide_eq_true small]

theorem isDigit_of_mem_toDigits {n : Nat} {c : Char} (member : c ∈ Nat.toDigits 10 n) :
    IsDigit c :=
  isDigit_iff.2 (Nat.isDigit_of_mem_toDigits (by decide) (by decide) member)

theorem eq_digitChar {c : Char} (digit : IsDigit c) :
    c.toNat - '0'.toNat < 10 ∧ (c.toNat - '0'.toNat).digitChar = c := by
  have low : '0'.toNat ≤ c.toNat := digit.1
  have high : c.toNat ≤ '9'.toNat := digit.2
  have zero : '0'.toNat = 48 := rfl
  have nine : '9'.toNat = 57 := rfl
  have small : c.toNat - '0'.toNat < 10 := by omega
  refine ⟨small, Char.toNat_inj.1 ?_⟩
  rw [Nat.toNat_digitChar_of_lt_ten small]
  omega

theorem ofDigitChars_cons_zero (c : Char) (rest : List Char) :
    Nat.ofDigitChars 10 (c :: rest) 0 =
      (c.toNat - '0'.toNat) * 10 ^ rest.length + Nat.ofDigitChars 10 rest 0 := by
  rw [Nat.ofDigitChars_cons, Nat.ofDigitChars_eq_ofDigitChars_zero]
  ring

theorem eq_nil_of_ofDigitChars_eq_zero {digits : List Char} (all : ∀ c ∈ digits, IsDigit c)
    (plain : ∀ c ∈ digits.getLast?, c ≠ '0') (zero : Nat.ofDigitChars 10 digits 0 = 0) :
    digits = [] := by
  rcases List.eq_nil_or_concat digits with nothing | ⟨front, c, rfl⟩
  · exact nothing
  · have last : c = '0' := ((ofDigitChars_eq_zero_iff all 0).1 zero).2 c (by simp)
    exact absurd last (plain c (by simp))

theorem last_of_last_cons {p : Char → Prop} {c : Char} {rest : List Char}
    (last : ∀ d ∈ (c :: rest).getLast?, p d) : ∀ d ∈ rest.getLast?, p d := by
  intro d member
  apply last
  rw [List.getLast?_cons, Option.mem_def.1 member]
  rfl

theorem quotient_and_rest_eq {unit quotient quotient' rest rest' : Nat} (below : rest < unit)
    (below' : rest' < unit) (same : rest + unit * quotient = rest' + unit * quotient') :
    quotient = quotient' ∧ rest = rest' := by
  have positive : 0 < unit := Nat.zero_lt_of_lt below
  obtain ⟨first, behind⟩ := (Nat.div_mod_unique positive).2 ⟨same, below⟩
  obtain ⟨first', behind'⟩ := (Nat.div_mod_unique (d := quotient') positive).2 ⟨rfl, below'⟩
  exact ⟨first.symm.trans first', behind.symm.trans behind'⟩

/-- Two fractions that are the same have the same first place, and the same behind it. -/
theorem lead_and_rest_eq {lead lead' rest rest' places places' : Nat}
    (below : rest < 10 ^ places) (below' : rest' < 10 ^ places')
    (same : (lead * 10 ^ places + rest) * 10 ^ (places' + 1) =
      (lead' * 10 ^ places' + rest') * 10 ^ (places + 1)) :
    lead = lead' ∧ rest * 10 ^ places' = rest' * 10 ^ places := by
  let scale := 10 ^ places * 10 ^ places'
  have small : rest * 10 ^ places' < scale :=
    Nat.mul_lt_mul_of_pos_right below (Nat.pow_pos (by decide))
  have small' : rest' * 10 ^ places < scale := by
    rw [Nat.mul_comm _ (10 ^ places)]
    exact Nat.mul_lt_mul_of_pos_left below' (Nat.pow_pos (by decide))
  have whole : rest * 10 ^ places' + scale * lead = rest' * 10 ^ places + scale * lead' := by
    apply Nat.eq_of_mul_eq_mul_right (show 0 < 10 by decide)
    calc
      (rest * 10 ^ places' + scale * lead) * 10 =
          (lead * 10 ^ places + rest) * 10 ^ (places' + 1) := by ring
      _ = (lead' * 10 ^ places' + rest') * 10 ^ (places + 1) := same
      _ = (rest' * 10 ^ places + scale * lead') * 10 := by ring
  exact quotient_and_rest_eq small small' whole

/-- Digits behind a point that do not end in a zero are determined by the fraction they stand
for. -/
theorem eq_of_fraction_eq {first second : List Char} (all : ∀ c ∈ first, IsDigit c)
    (all' : ∀ c ∈ second, IsDigit c) (plain : ∀ c ∈ first.getLast?, c ≠ '0')
    (plain' : ∀ c ∈ second.getLast?, c ≠ '0')
    (same : Nat.ofDigitChars 10 first 0 * 10 ^ second.length =
      Nat.ofDigitChars 10 second 0 * 10 ^ first.length) : first = second := by
  induction first generalizing second with
  | nil =>
      have zero : Nat.ofDigitChars 10 second 0 = 0 := by simpa using same.symm
      exact (eq_nil_of_ofDigitChars_eq_zero all' plain' zero).symm
  | cons c rest ih =>
      cases second with
      | nil =>
          have zero : Nat.ofDigitChars 10 (c :: rest) 0 = 0 := by simpa using same
          exact eq_nil_of_ofDigitChars_eq_zero all plain zero
      | cons c' rest' =>
          obtain ⟨digit, further⟩ := List.forall_mem_cons.1 all
          obtain ⟨digit', further'⟩ := List.forall_mem_cons.1 all'
          obtain ⟨-, char⟩ := eq_digitChar digit
          obtain ⟨-, char'⟩ := eq_digitChar digit'
          have small : Nat.ofDigitChars 10 rest 0 < 10 ^ rest.length := by
            simpa using ofDigitChars_lt further 0
          have small' : Nat.ofDigitChars 10 rest' 0 < 10 ^ rest'.length := by
            simpa using ofDigitChars_lt further' 0
          rw [ofDigitChars_cons_zero, ofDigitChars_cons_zero] at same
          obtain ⟨lead, behind⟩ := lead_and_rest_eq small small' same
          rw [lead, char'] at char
          rw [char, ih further further' (last_of_last_cons plain) (last_of_last_cons plain') behind]

/-- Digits that do not begin with a zero are those of their value. -/
theorem toDigits_ofDigitChars {digits : List Char} (all : ∀ c ∈ digits, IsDigit c)
    (nonempty : digits ≠ []) (plain : ∀ c ∈ digits.head?, c ≠ '0') :
    0 < Nat.ofDigitChars 10 digits 0 ∧
      Nat.toDigits 10 (Nat.ofDigitChars 10 digits 0) = digits := by
  induction digits using List.reverseRecOn with
  | nil => exact absurd rfl nonempty
  | append_singleton front c ih =>
      obtain ⟨small, char⟩ := eq_digitChar (all c (by simp))
      rw [Nat.ofDigitChars_append, Nat.ofDigitChars_cons, Nat.ofDigitChars_nil]
      by_cases single : front = []
      · subst single
        have other : c ≠ '0' := plain c rfl
        rw [Nat.ofDigitChars_nil, Nat.mul_zero, Nat.zero_add, Nat.toDigits_of_lt_base small, char]
        refine ⟨Nat.pos_of_ne_zero fun zero => other ?_, rfl⟩
        rw [← char, zero]
        rfl
      · have plain' : ∀ c ∈ front.head?, c ≠ '0' :=
          fun c first => plain c (List.mem_head?_append_of_mem_head? first)
        obtain ⟨positive, digits⟩ := ih (fun c member => all c (by simp [member])) single plain'
        rw [← Nat.toDigits_append_toDigits (by decide) positive small, digits,
          Nat.toDigits_of_lt_base small, char]
        exact ⟨by omega, rfl⟩

theorem toDigits_plain (n : Nat) :
    Nat.toDigits 10 n = ['0'] ∨ ∀ c ∈ (Nat.toDigits 10 n).head?, c ≠ '0' := by
  by_cases zero : n = 0
  · exact .inl (zero ▸ Nat.toDigits_zero 10)
  · right
    induction n using Nat.strongRecOn with
    | ind n ih =>
        by_cases small : n < 10
        · simp [Nat.toDigits_of_lt_base small, zero]
        · rw [Nat.toDigits_of_base_le (by decide) (by omega),
            List.head?_append_of_ne_nil _ Nat.toDigits_ne_nil]
          exact ih (n / 10) (by omega) (by omega)

/-! ## Decimals -/

theorem decimals_succ {fraction : Nat} (nonzero : fraction ≠ 0) (places : Nat) :
    decimals fraction (places + 1) =
      (fraction / 10 ^ places).digitChar :: decimals (fraction % 10 ^ places) places :=
  if_neg nonzero

theorem decimals_zero (places : Nat) : decimals 0 places = [] := by
  cases places <;> rfl

theorem div_pow_lt_ten {fraction places : Nat} (below : fraction < 10 ^ (places + 1)) :
    fraction / 10 ^ places < 10 :=
  Nat.div_lt_of_lt_mul (by rwa [Nat.pow_succ] at below)

theorem decimals_eq_nil_iff {fraction places : Nat} (below : fraction < 10 ^ places) :
    decimals fraction places = [] ↔ fraction = 0 := by
  cases places with
  | zero => simpa [decimals] using below
  | succ places =>
      by_cases zero : fraction = 0
      · simp [zero, decimals_zero]
      · simp [decimals_succ zero, zero]

theorem isDigit_decimals {fraction places : Nat} (below : fraction < 10 ^ places) :
    ∀ c ∈ decimals fraction places, IsDigit c := by
  induction places generalizing fraction with
  | zero => simp [decimals]
  | succ places ih =>
      by_cases zero : fraction = 0
      · simp [zero, decimals_zero]
      · rw [decimals_succ zero]
        refine List.forall_mem_cons.2 ⟨isDigit_digitChar (div_pow_lt_ten below), ih ?_⟩
        exact Nat.mod_lt _ (Nat.pow_pos (by decide))

theorem decimals_plain {fraction places : Nat} (below : fraction < 10 ^ places) :
    ∀ c ∈ (decimals fraction places).getLast?, c ≠ '0' := by
  induction places generalizing fraction with
  | zero => simp [decimals]
  | succ places ih =>
      by_cases zero : fraction = 0
      · simp [zero, decimals_zero]
      · have below' : fraction % 10 ^ places < 10 ^ places :=
          Nat.mod_lt _ (Nat.pow_pos (by decide))
        rw [decimals_succ zero]
        by_cases single : decimals (fraction % 10 ^ places) places = []
        · have rest : fraction % 10 ^ places = 0 := (decimals_eq_nil_iff below').1 single
          have split := Nat.div_add_mod fraction (10 ^ places)
          simp only [single, List.getLast?_singleton, Option.mem_def, Option.some.injEq,
            forall_eq', ne_eq, Nat.digitChar_eq_zero]
          intro lead
          rw [lead, rest] at split
          omega
        · rw [List.getLast?_cons_of_ne_nil single]
          exact ih below'

theorem decimals_value {fraction places : Nat} (below : fraction < 10 ^ places) :
    Nat.ofDigitChars 10 (decimals fraction places) 0 * 10 ^ places =
      fraction * 10 ^ (decimals fraction places).length := by
  induction places generalizing fraction with
  | zero =>
      have zero : fraction = 0 := by simpa using below
      simp [decimals, zero]
  | succ places ih =>
      by_cases zero : fraction = 0
      · simp [zero, decimals_zero]
      · have behind := ih (Nat.mod_lt fraction (Nat.pow_pos (by decide)))
        have small := div_pow_lt_ten below
        rw [decimals_succ zero, List.length_cons, Nat.ofDigitChars_cons_digitChar_of_lt_ten small,
          Nat.mul_zero, Nat.zero_add, Nat.ofDigitChars_eq_ofDigitChars_zero]
        let rest := decimals (fraction % 10 ^ places) places
        calc
          (10 ^ rest.length * (fraction / 10 ^ places) + Nat.ofDigitChars 10 rest 0) *
                10 ^ (places + 1) =
              (10 ^ rest.length * (fraction / 10 ^ places) * 10 ^ places +
                Nat.ofDigitChars 10 rest 0 * 10 ^ places) * 10 := by ring
          _ = (10 ^ rest.length * (fraction / 10 ^ places) * 10 ^ places +
                fraction % 10 ^ places * 10 ^ rest.length) * 10 := by rw [behind]
          _ = (10 ^ places * (fraction / 10 ^ places) + fraction % 10 ^ places) *
                10 ^ (rest.length + 1) := by ring
          _ = fraction * 10 ^ (rest.length + 1) := by rw [Nat.div_add_mod]

/-! ## Plain numerals -/

namespace Numeral

variable (numeral : Numeral)

/-- A numeral with no digit that could be left out: no zero in front of another digit, none at
the end of a fraction, and no point without a fraction. -/
structure Plain : Prop where
  some_whole : numeral.whole ≠ []
  no_zero_ahead : numeral.whole = ['0'] ∨ ∀ c ∈ numeral.whole.head?, c ≠ '0'
  some_fraction : numeral.fraction? ≠ some []
  no_zero_behind : ∀ c ∈ (numeral.fraction?.getD []).getLast?, c ≠ '0'

theorem toDigits_whole (plain : numeral.Plain) :
    Nat.toDigits 10 (Nat.ofDigitChars 10 numeral.whole 0) = numeral.whole := by
  rcases plain.no_zero_ahead with zero | lead
  · rw [zero]
    rfl
  · exact (toDigits_ofDigitChars numeral.isDigit_whole plain.some_whole lead).2

/-- A numeral of some unit, over the scale of its last digit. -/
theorem exactValue_mul_eq_iff_scaled (unit nanos : Nat) :
    numeral.exactValue * unit = nanos ↔
      Nat.ofDigitChars 10 (numeral.fraction?.getD []) 0 * unit +
          unit * 10 ^ (numeral.fraction?.getD []).length *
            Nat.ofDigitChars 10 numeral.whole 0 =
        nanos * 10 ^ (numeral.fraction?.getD []).length := by
  rw [exactValue, ← @Nat.cast_inj ℚ]
  push_cast
  field_simp
  rw [mul_comm (unit : ℚ), add_comm]

/-- A numeral of some unit comes to a whole number of nanoseconds: its parts are the quotient
and the rest of a division by the unit. -/
theorem exactValue_mul_eq_iff {unit : Nat} (positive : 0 < unit) (nanos : Nat) :
    numeral.exactValue * unit = nanos ↔
      Nat.ofDigitChars 10 numeral.whole 0 = nanos / unit ∧
        Nat.ofDigitChars 10 (numeral.fraction?.getD []) 0 * unit =
          nanos % unit * 10 ^ (numeral.fraction?.getD []).length := by
  let scale := 10 ^ (numeral.fraction?.getD []).length
  have scale_pos : 0 < scale := Nat.pow_pos (by decide)
  have below : Nat.ofDigitChars 10 (numeral.fraction?.getD []) 0 * unit < unit * scale := by
    rw [Nat.mul_comm unit]
    exact Nat.mul_lt_mul_of_pos_right (by simpa using ofDigitChars_lt numeral.isDigit_fraction 0)
      positive
  have below' : nanos % unit * scale < unit * scale :=
    Nat.mul_lt_mul_of_pos_right (Nat.mod_lt _ positive) scale_pos
  have split : nanos * scale = nanos % unit * scale + unit * scale * (nanos / unit) := by
    calc
      nanos * scale = (unit * (nanos / unit) + nanos % unit) * scale := by rw [Nat.div_add_mod]
      _ = nanos % unit * scale + unit * scale * (nanos / unit) := by ring
  rw [exactValue_mul_eq_iff_scaled, split]
  constructor
  · exact quotient_and_rest_eq below below'
  · rintro ⟨quotient, rest⟩
    rw [quotient, rest]

end Numeral

end Literal

open Literal

/-! ## Printed forms -/

/-- The units that a duration may be printed in. -/
def shownUnits : List (String × Nat) :=
  [("s", 1000000000), ("ms", 1000000), ("\u00b5s", 1000), ("ns", 1)]

/-- The largest unit in which a duration comes to at least one; nothing at all is shown in
nanoseconds. -/
structure LargestUnit (d : Duration) (unit : String × Nat) : Prop where
  listed : unit ∈ shownUnits
  at_least_one : unit.2 ≤ d.nanos ∨ d.nanos = 0 ∧ unit = ("ns", 1)
  largest : ∀ other ∈ shownUnits, other.2 ≤ d.nanos → other.2 ≤ unit.2

/-- The pair shows a duration: it is exact, in the largest unit, and without a digit too many. -/
structure Shown (d : Duration) (pair : Pair) : Prop where
  unit : d.LargestUnit (pair.name, pair.unit)
  plain : pair.numeral.Plain
  exact : pair.numeral.exactValue * pair.unit = d.nanos

theorem LargestUnit.unique {d : Duration} {first second : String × Nat}
    (largest : d.LargestUnit first) (largest' : d.LargestUnit second) : first = second := by
  have distinct : ∀ first ∈ shownUnits, ∀ second ∈ shownUnits,
      first.2 = second.2 → first = second := by decide
  have positive : ∀ unit ∈ shownUnits, 0 < unit.2 := by decide
  have some_first := positive first largest.listed
  have some_second := positive second largest'.listed
  rcases largest.at_least_one with fits | ⟨nothing, rfl⟩
  · rcases largest'.at_least_one with fits' | ⟨nothing, -⟩
    · apply distinct first largest.listed second largest'.listed
      exact Nat.le_antisymm (largest'.largest first largest.listed fits)
        (largest.largest second largest'.listed fits')
    · omega
  · rcases largest'.at_least_one with fits' | ⟨-, rfl⟩
    · omega
    · rfl

theorem exists_scale_eq (d : Duration) :
    ∃ name places, d.LargestUnit (name, 10 ^ places) ∧
      d.scale = ⟨d.nanos / 10 ^ places, d.nanos % 10 ^ places, places, name⟩ := by
  unfold scale
  split_ifs with seconds millis micros
  · refine ⟨"s", 9, ⟨by decide, .inl seconds, ?_⟩, rfl⟩
    simp [shownUnits]
  · refine ⟨"ms", 6, ⟨by decide, .inl millis, ?_⟩, rfl⟩
    simp [shownUnits]
    omega
  · refine ⟨"\u00b5s", 3, ⟨by decide, .inl micros, ?_⟩, rfl⟩
    simp [shownUnits]
    omega
  · refine ⟨"ns", 0, ⟨by decide, ?_, ?_⟩, ?_⟩
    · simp
      omega
    · simp [shownUnits]
      omega
    · simp [Nat.mod_one]

theorem toList_render {d : Duration} {whole fraction places : Nat} {name : String}
    (scaled : d.scale = ⟨whole, fraction, places, name⟩) :
    d.render.toList =
      Nat.toDigits 10 whole ++
        (if decimals fraction places = [] then [] else '.' :: decimals fraction places) ++
          name.toList := by
  rw [render, scaled]
  by_cases none : decimals fraction places = [] <;> simp [none]

theorem Shown.text_eq {d : Duration} {pair : Pair} (shown : d.Shown pair) :
    pair.text = d.render.toList := by
  obtain ⟨name, places, largest, scaled⟩ := exists_scale_eq d
  obtain ⟨named, unit⟩ := Prod.mk.inj (shown.unit.unique largest)
  have below : d.nanos % 10 ^ places < 10 ^ places := Nat.mod_lt _ (Nat.pow_pos (by decide))
  obtain ⟨quotient, rest⟩ :=
    (pair.numeral.exactValue_mul_eq_iff pair.unit_pos d.nanos).1 shown.exact
  rw [unit] at quotient rest
  have whole : pair.numeral.whole = Nat.toDigits 10 (d.nanos / 10 ^ places) := by
    rw [← quotient, pair.numeral.toDigits_whole shown.plain]
  have fraction : pair.numeral.fraction?.getD [] = decimals (d.nanos % 10 ^ places) places := by
    refine eq_of_fraction_eq pair.numeral.isDigit_fraction (isDigit_decimals below)
      shown.plain.no_zero_behind (decimals_plain below) ?_
    apply Nat.eq_of_mul_eq_mul_right (Nat.pow_pos (by decide) : 0 < 10 ^ places)
    rw [Nat.mul_right_comm, rest, Nat.mul_right_comm _ _ (10 ^ places), decimals_value below,
      Nat.mul_right_comm]
  rw [toList_render scaled, Pair.text, Numeral.text, whole, named, ← fraction]
  cases digits : pair.numeral.fraction? with
  | none => simp
  | some digits' =>
      have nonempty : digits' ≠ [] := by
        rintro rfl
        exact shown.plain.some_fraction digits
      simp [nonempty]

theorem exists_shown (d : Duration) : ∃ pair, d.Shown pair := by
  obtain ⟨name, places, largest, -⟩ := exists_scale_eq d
  have below : d.nanos % 10 ^ places < 10 ^ places := Nat.mod_lt _ (Nat.pow_pos (by decide))
  have named : ∀ unit ∈ shownUnits, unit ∈ unitNames := by decide
  let whole := Nat.toDigits 10 (d.nanos / 10 ^ places)
  let fraction := decimals (d.nanos % 10 ^ places) places
  let fraction? := if fraction = [] then none else some fraction
  have getD : fraction?.getD [] = fraction := by
    by_cases none : fraction = [] <;> simp [fraction?, none]
  let numeral : Numeral :=
    { whole
      fraction?
      digits := by
        intro c member
        rw [getD] at member
        exact (List.mem_append.1 member).elim isDigit_of_mem_toDigits (isDigit_decimals below c)
      some_digit := by simp [whole, Nat.toDigits_ne_nil] }
  refine ⟨⟨numeral, name, 10 ^ places, named _ largest.listed⟩, largest, ?_, ?_⟩
  · refine ⟨Nat.toDigits_ne_nil, toDigits_plain _, ?_, ?_⟩
    · by_cases none : fraction = [] <;> simp [numeral, fraction?, none]
    · rw [getD]
      exact decimals_plain below
  · refine (numeral.exactValue_mul_eq_iff (Nat.pow_pos (by decide)) d.nanos).2 ⟨?_, ?_⟩
    · exact Nat.ofDigitChars_ten_toDigits
    · rw [getD]
      exact decimals_value below

/-- What is shown comes to the duration, although not all digits are counted. -/
theorem Shown.nanos_eq {d : Duration} {pair : Pair} (shown : d.Shown pair) :
    pair.nanos = d.nanos := by
  have divides : ∀ unit ∈ shownUnits, unit.2 ∣ 10 ^ Literal.places := by decide
  have exactEqual : pair.exactNanos = d.nanos := by
    rw [Pair.exactNanos, shown.exact, Nat.floor_natCast]
  rw [← exactEqual, pair.exactNanos_eq,
    if_neg (pair.not_short_of_dvd (divides _ shown.unit.listed)), Nat.add_zero]

theorem not_isBlank_of_mem_text (pair : Pair) : ∀ c ∈ pair.text, ¬ Text.isBlank c := by
  have names : ∀ entry ∈ unitNames, ∀ c ∈ entry.1.toList, ¬ Text.isBlank c := by
    simp [unitNames, Text.isBlank]
  intro c member
  rcases List.mem_append.1 member with inNumeral | inName
  · exact not_isBlank_of_isNumeric (pair.numeral.isNumeric_text c inNumeral)
  · exact names _ pair.named c inName

theorem parse?_of_shown {d : Duration} {pair : Pair} (shown : d.Shown pair) :
    parse? d.render = .ok d := by
  have solid : ∀ c ∈ d.render.toList, ¬ Text.isBlank c := by
    rw [← shown.text_eq]
    exact not_isBlank_of_mem_text pair
  have text : (Text.trim d.render).toList = written [pair] := by
    rw [Text.trim_of_forall solid, ← shown.text_eq]
    simp [written]
  rw [parse?_eq_ok_iff_total (List.cons_ne_nil pair []) text]
  simp [total, shown.nanos_eq]

/-- What is printed is read as what was printed.  The printed form is the only one that is exact,
in the largest unit in which the duration comes to at least one, and without a digit that could
be left out; it is what a dialogue says of its timeouts, and what a timeout shows. -/
theorem parse?_render (d : Duration) :
    parse? d.render = .ok d ∧
      (∀ text, text = d.render ↔ ∃ pair, d.Shown pair ∧ text = String.ofList pair.text) ∧
      (∀ (config : Config) requested timeouts book entries,
        config.select requested = .ok (timeouts, book, entries) →
          .info .dialogue ("Script timeout: " ++ timeouts.script.render) ∈
              (config.prepare requested).1 ∧
            .info .dialogue ("Receive timeout: " ++ timeouts.receive.render) ∈
              (config.prepare requested).1) ∧
      (∀ pattern, (Failure.receiveTimeout pattern d).message =
        "receive timeout (" ++ d.render ++ ") waiting for pattern: " ++ pattern) ∧
      ∀ extended, (Failure.scriptTimeout d extended).message =
        "script timeout exceeded (" ++ d.render ++
          (if extended then ", extended for monitor commands" else "") ++ ")" := by
  obtain ⟨pair, shown⟩ := d.exists_shown
  refine ⟨parse?_of_shown shown, fun text => ⟨?_, ?_⟩, ?_, fun _ => rfl, fun _ => rfl⟩
  · rintro rfl
    exact ⟨pair, shown, by rw [shown.text_eq, String.ofList_toList]⟩
  · rintro ⟨other, shows, rfl⟩
    rw [shows.text_eq, String.ofList_toList]
  · intro config requested timeouts book entries selected
    rw [Config.prepare, selected]
    cases compiled : book.compile entries <;> simp [compiled]

end Duration

end SerialDialogue
