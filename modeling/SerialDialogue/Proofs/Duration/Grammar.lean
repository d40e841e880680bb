import Mathlib.Algebra.Order.Floor.Semifield
import Mathlib.Data.Rat.Floor
import SerialDialogue.Duration.Literal
import SerialDialogue.Proofs.Text.Trim

/-!
# The grammar of duration literals

A literal is the bare zero, or pairs of a numeral and the name of a unit, one behind the other.
What a pair stands for is said with rational numbers: the numeral times the unit, rounded down to
a nanosecond.  The intermediate results of the reading are bounded, and this file shows that the
bounds reject nothing that the range of a duration would not reject.
-/

namespace SerialDialogue

namespace Duration

namespace Literal

/-! ## Numerals -/

def IsDigit (c : Char) : Prop :=
  '0' ≤ c ∧ c ≤ '9'

/-- A decimal number as it is written: at least one digit, and perhaps a point in front of the
digits, among them or behind them. -/
structure Numeral where
  whole : List Char
  /-- The digits behind the point, where there is one. -/
  fraction? : Option (List Char)
  digits : ∀ c ∈ whole ++ fraction?.getD [], IsDigit c
  some_digit : whole ++ fraction?.getD [] ≠ []

namespace Numeral

def text (numeral : Numeral) : List Char :=
  numeral.whole ++ numeral.fraction?.elim [] ('.' :: ·)

/-- The digits behind the point, as far as they are counted. -/
def counted (places : Nat) (numeral : Numeral) : List Char :=
  (numeral.fraction?.getD []).take places

/-- The number that is written, up to so many places behind the point. -/
def value (places : Nat) (numeral : Numeral) : ℚ :=
  Nat.ofDigitChars 10 numeral.whole 0 +
    Nat.ofDigitChars 10 (numeral.counted places) 0 / 10 ^ (numeral.counted places).length

end Numeral

theorem digit?_of_isDigit {c : Char} (digit : IsDigit c) :
    digit? c = some (c.toNat - '0'.toNat) :=
  if_pos digit

theorem isDigit_of_digit? {c : Char} {number : Nat} (read : digit? c = some number) :
    IsDigit c := by
  unfold digit? at read
  split at read
  · rename_i digit
    exact digit
  · cases read

theorem isNumeric_of_isDigit {c : Char} (digit : IsDigit c) : isNumeric c = true := by
  simp [isNumeric, digit.1, digit.2]

theorem not_isBlank_of_isNumeric {c : Char} (numeric : isNumeric c) : ¬ Text.isBlank c := by
  have range : '.'.toNat ≤ c.toNat ∧ c.toNat ≤ '9'.toNat := by
    simp only [isNumeric, Bool.or_eq_true, Bool.and_eq_true, decide_eq_true_eq, beq_iff_eq]
      at numeric
    rcases numeric with ⟨low, high⟩ | rfl
    · exact ⟨Nat.le_trans (by decide) (show '0'.toNat ≤ c.toNat from low), high⟩
    · decide
  have point : '.'.toNat = 0x2E := rfl
  have nine : '9'.toNat = 0x39 := rfl
  simp only [Text.isBlank, Bool.or_eq_true, Bool.and_eq_true, decide_eq_true_eq, beq_iff_eq]
  omega

theorem point_not_isDigit : ¬ IsDigit '.' := by
  unfold IsDigit
  decide

theorem digitsFrom_of_isDigit {digits : List Char} (all : ∀ c ∈ digits, IsDigit c)
    (value : Nat) : digitsFrom value digits = some (Nat.ofDigitChars 10 digits value) := by
  induction digits generalizing value with
  | nil => rfl
  | cons c rest ih =>
      obtain ⟨digit, further⟩ := List.forall_mem_cons.1 all
      rw [digitsFrom, digit?_of_isDigit digit, Nat.ofDigitChars_cons, Nat.mul_comm 10]
      exact ih further _

theorem isDigit_of_digitsFrom {digits : List Char} {value number : Nat}
    (read : digitsFrom value digits = some number) : ∀ c ∈ digits, IsDigit c := by
  induction digits generalizing value with
  | nil => simp
  | cons c rest ih =>
      rw [digitsFrom] at read
      cases digit : digit? c with
      | none => simp [digit] at read
      | some first =>
          simp only [digit] at read
          exact List.forall_mem_cons.2 ⟨isDigit_of_digit? digit, ih read⟩

/-- What is read as a row of digits is one, and is read as its value. -/
theorem digitsFrom_eq_some_iff {digits : List Char} {value number : Nat} :
    digitsFrom value digits = some number ↔
      (∀ c ∈ digits, IsDigit c) ∧ Nat.ofDigitChars 10 digits value = number := by
  constructor
  · intro read
    have all := isDigit_of_digitsFrom read
    rw [digitsFrom_of_isDigit all] at read
    exact ⟨all, Option.some.inj read⟩
  · rintro ⟨all, rfl⟩
    exact digitsFrom_of_isDigit all value

theorem ofDigitChars_eq_zero_iff {digits : List Char} (all : ∀ c ∈ digits, IsDigit c)
    (value : Nat) :
    Nat.ofDigitChars 10 digits value = 0 ↔ value = 0 ∧ ∀ c ∈ digits, c = '0' := by
  induction digits generalizing value with
  | nil => simp
  | cons c rest ih =>
      obtain ⟨digit, further⟩ := List.forall_mem_cons.1 all
      have low : '0'.toNat ≤ c.toNat := digit.1
      have zero : c = '0' ↔ c.toNat - '0'.toNat = 0 := by
        rw [← Char.toNat_inj]
        omega
      rw [Nat.ofDigitChars_cons, ih further, List.forall_mem_cons, zero, ← and_assoc]
      refine and_congr_left fun _ => ?_
      omega

/-! ## Fractions -/

/-- How many digits of a fraction are counted. -/
def places : Nat := 18

theorem finestScale_eq : finestScale = 10 ^ places := by
  decide

/-- Behind the first `counted` digits of a fraction the others are counted up to the last
place. -/
theorem fractionFrom_of_isDigit {digits : List Char} (all : ∀ c ∈ digits, IsDigit c)
    {counted : Nat} (few : counted ≤ places) (numerator : Nat) :
    fractionFrom numerator (10 ^ counted) digits =
      some (Nat.ofDigitChars 10 (digits.take (places - counted)) numerator,
        10 ^ (counted + (digits.take (places - counted)).length)) := by
  induction digits generalizing counted numerator with
  | nil => simp [fractionFrom]
  | cons c rest ih =>
      obtain ⟨digit, further⟩ := List.forall_mem_cons.1 all
      rw [fractionFrom, digit?_of_isDigit digit, finestScale_eq]
      dsimp only
      by_cases last : counted = places
      · rw [last, if_neg (Nat.lt_irrefl _), ih further (Nat.le_refl places)]
        simp
      · have more : counted < places := Nat.lt_of_le_of_ne few last
        have smaller : 10 ^ counted < 10 ^ places := Nat.pow_lt_pow_right (by decide) more
        obtain ⟨left, split⟩ := Nat.exists_eq_add_of_lt more
        have here : places - counted = left + 1 := by omega
        have behind : places - (counted + 1) = left := by omega
        rw [if_pos smaller, ← Nat.pow_succ, ih further more, here, behind, List.take_succ_cons,
          Nat.ofDigitChars_cons, Nat.mul_comm 10, List.length_cons]
        congr 3
        omega

theorem isDigit_of_fractionFrom {digits : List Char} {numerator scale : Nat} {result : Nat × Nat}
    (read : fractionFrom numerator scale digits = some result) : ∀ c ∈ digits, IsDigit c := by
  induction digits generalizing numerator scale with
  | nil => simp
  | cons c rest ih =>
      rw [fractionFrom] at read
      cases digit : digit? c with
      | none => simp [digit] at read
      | some first =>
          simp only [digit] at read
          refine List.forall_mem_cons.2 ⟨isDigit_of_digit? digit, ?_⟩
          split at read
          · exact ih read
          · exact ih read

/-! ## Scaled numerals -/

namespace Numeral

variable (numeral : Numeral)

theorem isDigit_whole : ∀ c ∈ numeral.whole, IsDigit c :=
  fun c member => numeral.digits c (List.mem_append_left _ member)

theorem isDigit_fraction : ∀ c ∈ numeral.fraction?.getD [], IsDigit c :=
  fun c member => numeral.digits c (List.mem_append_right _ member)

theorem isNumeric_text : ∀ c ∈ numeral.text, isNumeric c := by
  intro c member
  unfold text at member
  rcases List.mem_append.1 member with before | behind
  · exact isNumeric_of_isDigit (numeral.isDigit_whole c before)
  · have fraction := numeral.isDigit_fraction
    cases point : numeral.fraction? with
    | none => simp [point] at behind
    | some digits =>
        rw [point] at behind fraction
        rcases List.mem_cons.1 behind with rfl | further
        · rfl
        · exact isNumeric_of_isDigit (fraction c further)

theorem text_ne_nil : numeral.text ≠ [] := by
  intro nothing
  obtain ⟨whole, behind⟩ := List.append_eq_nil_iff.1 nothing
  apply numeral.some_digit
  cases point : numeral.fraction? with
  | none => simp [whole]
  | some digits => simp [point] at behind

theorem splitPoint_text :
    splitPoint numeral.text = (numeral.whole, numeral.fraction?.getD []) := by
  have pointless : ∀ c ∈ numeral.whole, (c != '.') = true := by
    intro c member
    rw [bne_iff_ne]
    rintro rfl
    exact point_not_isDigit (numeral.isDigit_whole '.' member)
  have boundary : ∀ c ∈ (numeral.fraction?.elim [] ('.' :: ·)).head?, (c != '.') = false := by
    intro c first
    cases point : numeral.fraction? with
    | none => simp [point] at first
    | some digits =>
        have same : '.' = c := by simpa [point] using first
        simp [← same]
  obtain ⟨before, behind⟩ := Text.takeWhile_append_of_boundary pointless boundary
  rw [splitPoint, text, before, behind]
  cases numeral.fraction? <;> rfl

/-- What a numeral of some unit comes to is its whole part and what of its fraction is counted. -/
theorem floor_value_mul (places unit : Nat) :
    ⌊numeral.value places * unit⌋₊ =
      Nat.ofDigitChars 10 numeral.whole 0 * unit +
        Nat.ofDigitChars 10 (numeral.counted places) 0 * unit /
          10 ^ (numeral.counted places).length := by
  let whole := Nat.ofDigitChars 10 numeral.whole 0
  let numerator := Nat.ofDigitChars 10 (numeral.counted places) 0
  let scale := 10 ^ (numeral.counted places).length
  have split : numeral.value places * unit =
      ((numerator * unit : Nat) : ℚ) / (scale : Nat) + ((whole * unit : Nat) : ℚ) := by
    simp only [value, whole, numerator, scale]
    push_cast
    ring
  have nonneg : (0 : ℚ) ≤ ((numerator * unit : Nat) : ℚ) / (scale : Nat) := by positivity
  rw [split, Nat.floor_add_natCast nonneg, Nat.floor_div_eq_div, Nat.add_comm]

end Numeral

theorem bind_checked {number unit : Nat} (positive : 0 < unit) (more : Nat) :
    ((checked number).bind fun whole =>
      (checked (whole * unit)).bind fun product => checked (product + more)) =
        checked (number * unit + more) := by
  have grows : number ≤ number * unit := Nat.le_mul_of_pos_right number positive
  unfold checked
  by_cases fits : number * unit + more < 0x100000000000000000000000000000000
  · have whole : number < 0x100000000000000000000000000000000 := by omega
    have product : number * unit < 0x100000000000000000000000000000000 := by omega
    simp [fits, whole, product]
  · rw [if_neg fits]
    split <;> simp
    intro _
    exact Nat.le_of_not_lt fits

/-- A numeral of some unit is rejected only where the product is out of range. -/
theorem scaled_text (numeral : Numeral) {unit : Nat} (positive : 0 < unit) :
    scaled numeral.text unit = checked ⌊numeral.value places * unit⌋₊ := by
  have digits : (numeral.whole.isEmpty && (numeral.fraction?.getD []).isEmpty) = false := by
    have := numeral.some_digit
    simp_all
  have whole : integerPart numeral.whole = checked (Nat.ofDigitChars 10 numeral.whole 0) := by
    rw [integerPart, digitsFrom_of_isDigit numeral.isDigit_whole]
    rfl
  have fraction := fractionFrom_of_isDigit numeral.isDigit_fraction (Nat.zero_le places) 0
  rw [Nat.pow_zero, Nat.zero_add] at fraction
  have cut : (numeral.fraction?.getD []).take (places - 0) = numeral.counted places := rfl
  rw [cut] at fraction
  rw [scaled, numeral.splitPoint_text, numeral.floor_value_mul]
  simp only [digits, Bool.false_eq_true, if_false, whole, fraction]
  rw [← bind_checked positive]
  cases checked (Nat.ofDigitChars 10 numeral.whole 0) <;> rfl

theorem exists_numeral_of_scaled {number : List Char} {unit nanos : Nat}
    (read : scaled number unit = some nanos) : ∃ numeral : Numeral, number = numeral.text := by
  unfold scaled at read
  dsimp only at read
  split at read
  · cases read
  · rename_i nonempty
    split at read
    · rename_i _ _ whole numerator scale wholeRead fractionRead
      have before : ∀ c ∈ (splitPoint number).1, IsDigit c := by
        cases digits : digitsFrom 0 (splitPoint number).1 with
        | none => simp [integerPart, digits] at wholeRead
        | some value => exact isDigit_of_digitsFrom digits
      have behind := isDigit_of_fractionFrom fractionRead
      have all : ∀ c ∈ (splitPoint number).1 ++ (splitPoint number).2, IsDigit c := by
        intro c member
        rcases List.mem_append.1 member with front | back
        · exact before c front
        · exact behind c back
      have some_digit : (splitPoint number).1 ++ (splitPoint number).2 ≠ [] := by
        simpa using nonempty
      have whole := List.takeWhile_append_dropWhile (p := (· != '.')) (l := number)
      cases rest : number.dropWhile (· != '.') with
      | nil =>
          have second : (splitPoint number).2 = [] := by simp [splitPoint, rest]
          rw [second] at all some_digit
          refine ⟨⟨(splitPoint number).1, none, all, some_digit⟩, ?_⟩
          rw [rest] at whole
          exact whole.symm
      | cons c digits =>
          have point : c = '.' := by
            have stops := List.head_dropWhile_not (· != '.') (l := number) (by simp [rest])
            simpa [rest] using stops
          have second : (splitPoint number).2 = digits := by simp [splitPoint, rest]
          rw [second] at all some_digit
          refine ⟨⟨(splitPoint number).1, some digits, all, some_digit⟩, ?_⟩
          rw [rest, point] at whole
          exact whole.symm
    · cases read

/-! ## Pairs -/

/-- The names of the units and their nanoseconds.  The micro sign and the Greek letter look
alike. -/
def unitNames : List (String × Nat) :=
  [("ns", 1), ("us", 1000), ("\u00b5s", 1000), ("\u03bcs", 1000), ("ms", 1000000),
    ("s", 1000000000), ("m", 60000000000), ("h", 3600000000000)]

/-- A numeral and the name of a unit. -/
structure Pair where
  numeral : Numeral
  name : String
  unit : Nat
  named : (name, unit) ∈ unitNames

namespace Pair

def text (pair : Pair) : List Char :=
  pair.numeral.text ++ pair.name.toList

/-- The nanoseconds of a pair, rounded down. -/
def nanos (pair : Pair) : Nat :=
  ⌊pair.numeral.value places * pair.unit⌋₊

end Pair

/-- The pairs, one behind the other. -/
def written (pairs : List Pair) : List Char :=
  pairs.flatMap Pair.text

/-- What the pairs come to together. -/
def total (pairs : List Pair) : Nat :=
  (pairs.map Pair.nanos).sum

theorem exists_ofName?_iff {name : String} {nanos : Nat} :
    (∃ unit, TimeUnit.ofName? name.toList = some unit ∧ unit.nanos = nanos) ↔
      (name, nanos) ∈ unitNames := by
  constructor
  · rintro ⟨unit, read, rfl⟩
    unfold TimeUnit.ofName? at read
    rw [← String.ofList_toList (s := name)]
    split at read <;> cases read <;> rename_i letters <;> rw [letters] <;> decide
  · intro named
    simp only [unitNames, List.mem_cons, Prod.mk.injEq, List.not_mem_nil, or_false] at named
    rcases named with ⟨rfl, rfl⟩ | ⟨rfl, rfl⟩ | ⟨rfl, rfl⟩ | ⟨rfl, rfl⟩ | ⟨rfl, rfl⟩ |
      ⟨rfl, rfl⟩ | ⟨rfl, rfl⟩ | ⟨rfl, rfl⟩ <;> exact ⟨_, rfl, rfl⟩

theorem not_isNumeric_of_named : ∀ entry ∈ unitNames,
    (∀ c ∈ entry.1.toList, isNumeric c = false) ∧ entry.1.toList ≠ [] ∧ 0 < entry.2 := by
  simp [unitNames, isNumeric]

namespace Pair

variable (pair : Pair)

theorem isNumeric_name : ∀ c ∈ pair.name.toList, isNumeric c = false :=
  (not_isNumeric_of_named _ pair.named).1

theorem name_ne_nil : pair.name.toList ≠ [] :=
  (not_isNumeric_of_named _ pair.named).2.1

theorem unit_pos : 0 < pair.unit :=
  (not_isNumeric_of_named _ pair.named).2.2

theorem two_le_length_text : 2 ≤ pair.text.length := by
  have numeral := List.length_pos_iff.2 pair.numeral.text_ne_nil
  have name := List.length_pos_iff.2 pair.name_ne_nil
  rw [text, List.length_append]
  omega

theorem isNumeric_head_text : ∀ c ∈ pair.text.head?, isNumeric c := by
  intro c first
  rw [text, List.head?_append_of_ne_nil _ pair.numeral.text_ne_nil] at first
  exact pair.numeral.isNumeric_text c (List.mem_of_mem_head? first)

end Pair

theorem exists_mem_written {pairs : List Pair} (nonempty : pairs ≠ []) :
    ∃ c ∈ written pairs, isNumeric c = false := by
  obtain ⟨pair, later, rfl⟩ := List.exists_cons_of_ne_nil nonempty
  obtain ⟨c, among⟩ := List.exists_mem_of_ne_nil _ pair.name_ne_nil
  refine ⟨c, ?_, pair.isNumeric_name c among⟩
  rw [written, List.flatMap_cons, Pair.text]
  exact List.mem_append_left _ (List.mem_append_right _ among)

theorem isNumeric_head_written (pairs : List Pair) :
    ∀ c ∈ (written pairs).head?, isNumeric c := by
  cases pairs with
  | nil => simp [written]
  | cons pair later =>
      intro c first
      have nonempty : pair.text ≠ [] := by
        have := pair.two_le_length_text
        intro nothing
        simp [nothing] at this
      rw [written, List.flatMap_cons, List.head?_append_of_ne_nil _ nonempty] at first
      exact pair.isNumeric_head_text c first

/-! ## Sums -/

theorem checked_bind_add (total nanos : Nat) :
    ((checked nanos).bind fun nanos => checked (total + nanos)) = checked (total + nanos) := by
  unfold checked
  by_cases fits : nanos < 0x100000000000000000000000000000000
  · rw [if_pos fits]
    rfl
  · have exceeds : ¬ total + nanos < 0x100000000000000000000000000000000 := by omega
    rw [if_neg fits, if_neg exceeds]
    rfl

/-- A pair is read as it is written, and the sum goes on behind it. -/
theorem sumFrom_text_append (pair : Pair) {rest : List Char}
    (boundary : ∀ c ∈ rest.head?, isNumeric c) (total : Nat) :
    sumFrom total (pair.text ++ rest) =
      (checked (total + pair.nanos)).bind fun sum => sumFrom sum rest := by
  have afterNumeral : ∀ c ∈ (pair.name.toList ++ rest).head?, isNumeric c = false := by
    intro c first
    rw [List.head?_append_of_ne_nil _ pair.name_ne_nil] at first
    exact pair.isNumeric_name c (List.mem_of_mem_head? first)
  have inName : ∀ c ∈ pair.name.toList, (!isNumeric c) = true := by
    intro c member
    simp [pair.isNumeric_name c member]
  have afterName : ∀ c ∈ rest.head?, (!isNumeric c) = false := by
    intro c first
    simp [boundary c first]
  obtain ⟨number, tail⟩ :=
    Text.takeWhile_append_of_boundary pair.numeral.isNumeric_text afterNumeral
  obtain ⟨name, after⟩ := Text.takeWhile_append_of_boundary inName afterName
  rw [← List.append_assoc] at number tail
  obtain ⟨unit, named, same⟩ := exists_ofName?_iff.2 pair.named
  obtain ⟨c, others, split⟩ : ∃ c others, pair.text ++ rest = c :: others := by
    cases text : pair.numeral.text with
    | nil => exact absurd text pair.numeral.text_ne_nil
    | cons c more => exact ⟨c, more ++ pair.name.toList ++ rest, by simp [Pair.text, text]⟩
  have value : scaled pair.numeral.text unit.nanos = checked pair.nanos := by
    rw [same]
    exact scaled_text pair.numeral pair.unit_pos
  rw [split, sumFrom, ← split, Pair.text, number, tail, name, after, named]
  dsimp only
  rw [value, checked_bind_add]
  cases checked (total + pair.nanos) <;> rfl

/-- Pairs are summed unless the sum is out of range. -/
theorem sumFrom_written (pairs : List Pair) {sum : Nat}
    (fits : sum < 0x100000000000000000000000000000000) :
    sumFrom sum (written pairs) = checked (sum + total pairs) := by
  induction pairs generalizing sum with
  | nil =>
      have same : checked sum = some sum := if_pos fits
      simp [written, total, sumFrom, same]
  | cons pair later ih =>
      have grows : total (pair :: later) = pair.nanos + total later := by simp [total]
      have read := sumFrom_text_append pair (isNumeric_head_written later) sum
      rw [written, List.flatMap_cons, ← written, read, grows, ← Nat.add_assoc]
      by_cases fits' : sum + pair.nanos < 0x100000000000000000000000000000000
      · rw [checked, if_pos fits']
        exact ih fits'
      · have exceeds : ¬ sum + pair.nanos + total later <
            0x100000000000000000000000000000000 := by omega
        rw [checked, if_neg fits', checked, if_neg exceeds]
        rfl

theorem exists_pairs_of_sumFrom {sum : Nat} {text : List Char} {nanos : Nat}
    (read : sumFrom sum text = some nanos) : ∃ pairs, text = written pairs := by
  fun_induction sumFrom sum text with
  | case1 sum => exact ⟨[], rfl⟩
  | case2 sum c rest => cases read
  | case3 sum c rest => cases read
  | case4 sum c rest number tail name after unit named next added ih =>
      obtain ⟨later, behind⟩ := ih read
      have numeral : ∃ numeral : Numeral, number = numeral.text := by
        cases value : scaled number unit.nanos with
        | none => simp [value] at added
        | some nanos => exact exists_numeral_of_scaled value
      obtain ⟨numeral, same⟩ := numeral
      have named' : (String.ofList name, unit.nanos) ∈ unitNames := by
        apply exists_ofName?_iff.1
        exact ⟨unit, by rwa [String.toList_ofList], rfl⟩
      refine ⟨⟨numeral, String.ofList name, unit.nanos, named'⟩ :: later, ?_⟩
      calc
        c :: rest = number ++ tail := (List.takeWhile_append_dropWhile ..).symm
        _ = number ++ (name ++ after) :=
          congrArg (number ++ ·) (List.takeWhile_append_dropWhile ..).symm
        _ = written (⟨numeral, String.ofList name, unit.nanos, named'⟩ :: later) := by
          rw [same, behind]
          simp [written, Pair.text]

theorem nanos?_written {pairs : List Pair} (nonempty : pairs ≠ []) :
    nanos? (written pairs) = checked (total pairs) := by
  have long : 2 ≤ (written pairs).length := by
    cases pairs with
    | nil => exact absurd rfl nonempty
    | cons pair later =>
        have := pair.two_le_length_text
        rw [written, List.flatMap_cons, List.length_append]
        omega
  unfold nanos?
  split
  · rename_i nothing
    simp [nothing] at long
  · rename_i zero
    simp [zero] at long
  · rw [sumFrom_written pairs (by decide), Nat.zero_add]

/-- What is read without blanks around it: the bare zero, or pairs that are in range. -/
theorem nanos?_eq_some_iff {text : List Char} {nanos : Nat} :
    nanos? text = some nanos ↔
      text = ['0'] ∧ nanos = 0 ∨
        ∃ pairs, pairs ≠ [] ∧ text = written pairs ∧ nanos = total pairs ∧
          total pairs < 0x100000000000000000000000000000000 := by
  constructor
  · intro read
    by_cases zero : text = ['0']
    · subst zero
      cases read
      exact .inl ⟨rfl, rfl⟩
    · obtain ⟨pairs, rfl⟩ : ∃ pairs, text = written pairs := by
        unfold nanos? at read
        split at read
        · cases read
        · exact absurd rfl zero
        · exact exists_pairs_of_sumFrom read
      have nonempty : pairs ≠ [] := by
        rintro rfl
        cases read
      rw [nanos?_written nonempty, checked] at read
      split at read
      · rename_i fits
        exact .inr ⟨pairs, nonempty, rfl, (Option.some.inj read).symm, fits⟩
      · cases read
  · rintro (⟨rfl, rfl⟩ | ⟨pairs, nonempty, rfl, rfl, fits⟩)
    · rfl
    · rw [nanos?_written nonempty, checked, if_pos fits]

/-! ## Bounds -/

theorem ofDigitChars_lt {digits : List Char} (all : ∀ c ∈ digits, IsDigit c) (value : Nat) :
    Nat.ofDigitChars 10 digits value < (value + 1) * 10 ^ digits.length := by
  induction digits generalizing value with
  | nil => simp
  | cons c rest ih =>
      obtain ⟨digit, further⟩ := List.forall_mem_cons.1 all
      have low : c.toNat ≤ '9'.toNat := digit.2
      have nine : '9'.toNat = '0'.toNat + 9 := rfl
      have step : 10 * value + (c.toNat - '0'.toNat) + 1 ≤ (value + 1) * 10 := by omega
      rw [Nat.ofDigitChars_cons, List.length_cons]
      calc
        _ < (10 * value + (c.toNat - '0'.toNat) + 1) * 10 ^ rest.length := ih further _
        _ ≤ (value + 1) * 10 * 10 ^ rest.length := Nat.mul_le_mul_right _ step
        _ = (value + 1) * 10 ^ (rest.length + 1) := by ring

/-- What is computed with a fraction fits into 128 bits: the numerator and the scale behind one
more digit that is counted, and the product of the numerator and a unit, which is divided by the
scale. -/
structure FitsWords (numerator scale : Nat) : Prop where
  scale_pos : 0 < scale
  digit : scale < finestScale → ∀ digit ≤ 9, numerator * 10 + digit < 2 ^ 128
  scale : scale < finestScale → scale * 10 < 2 ^ 128
  product : ∀ unit : TimeUnit, numerator * unit.nanos < 2 ^ 128

theorem fitsWords_of_fractionFrom {digits : List Char} {numerator scale : Nat}
    (read : fractionFrom 0 1 digits = some (numerator, scale)) : FitsWords numerator scale := by
  have all := isDigit_of_fractionFrom read
  have value := fractionFrom_of_isDigit all (Nat.zero_le places) 0
  rw [Nat.pow_zero, read] at value
  obtain ⟨numeratorEqual, scaleEqual⟩ := Prod.mk.inj (Option.some.inj value)
  let first := digits.take (places - 0)
  have few : first.length ≤ places := List.length_take_le _ _
  have below : numerator < 10 ^ first.length := by
    have allDigits : ∀ c ∈ first, IsDigit c := fun c member => all c (List.mem_of_mem_take member)
    have bound := ofDigitChars_lt allDigits 0
    rw [Nat.zero_add, Nat.one_mul] at bound
    rw [numeratorEqual]
    exact bound
  have above : 10 ^ first.length ≤ 10 ^ places := Nat.pow_le_pow_right (by decide) few
  have power : scale = 10 ^ first.length := by rw [scaleEqual, Nat.zero_add]
  have finest : 10 ^ places = 1000000000000000000 := rfl
  refine ⟨?_, fun _ digit _ => ?_, fun _ => ?_, fun unit => ?_⟩
  · rw [power]
    exact Nat.pow_pos (by decide)
  · omega
  · omega
  · have longest : unit.nanos ≤ 3600000000000 := by cases unit <;> decide
    have small : numerator ≤ 1000000000000000000 := by omega
    calc
      numerator * unit.nanos ≤ 1000000000000000000 * 3600000000000 :=
        Nat.mul_le_mul small longest
      _ < 2 ^ 128 := by decide

end Literal

open Literal

theorem parse?_eq_ok_iff {s : String} {d : Duration} :
    parse? s = .ok d ↔ nanos? (Text.trim s).toList = some d.nanos := by
  unfold parse?
  cases nanos? (Text.trim s).toList with
  | none => simp
  | some nanos =>
      rw [Option.bind_some, Option.some.injEq]
      cases inRange : ofNanos? nanos with
      | none =>
          simp only [reduceCtorEq, false_iff]
          rintro rfl
          rw [ofNanos?_nanos] at inRange
          cases inRange
      | some read =>
          have value := ofNanos?_eq_some_iff.1 inRange
          simp only [Except.ok.injEq]
          constructor
          · rintro rfl
            exact value.symm
          · intro same
            exact ext (value.trans same)

theorem parse?_eq_ok_iff_total {s : String} {d : Duration} {pairs : List Pair}
    (nonempty : pairs ≠ []) (text : (Text.trim s).toList = written pairs) :
    parse? s = .ok d ↔ d.nanos = total pairs := by
  have inRange := d.inRange
  rw [parse?_eq_ok_iff, text, nanos?_written nonempty, checked]
  constructor
  · intro read
    split at read
    · exact (Option.some.inj read).symm
    · cases read
  · intro value
    rw [if_pos (by omega), value]

/-- Exactly the literals are read, and exactly: the bare zero, and pairs whose sum is in range,
which is what is read then.  The bounds on what is computed on the way, which are far beyond that
range, reject nothing else, and where there is no such bound nothing can pass it. -/
theorem parse?_iff_written (s : String) :
    (∀ d, parse? s = .ok d ↔
      Text.trim s = "0" ∧ d.nanos = 0 ∨
        ∃ pairs, pairs ≠ [] ∧ (Text.trim s).toList = written pairs ∧ d.nanos = total pairs) ∧
      ((∃ d, parse? s = .ok d) ↔
        Text.trim s = "0" ∨
          ∃ pairs, pairs ≠ [] ∧ (Text.trim s).toList = written pairs ∧
            total pairs < 2 ^ 64 * 10 ^ 9) ∧
      (∀ pairs, (Text.trim s).toList = written pairs → sumFrom 0 (Text.trim s).toList = none →
        2 ^ 64 * 10 ^ 9 ≤ total pairs) ∧
      ∀ digits numerator scale, fractionFrom 0 1 digits = some (numerator, scale) →
        FitsWords numerator scale := by
  have bare : (Text.trim s).toList = ['0'] ↔ Text.trim s = "0" := by
    rw [← String.toList_inj]
    rfl
  have parsed (d : Duration) : parse? s = .ok d ↔
      Text.trim s = "0" ∧ d.nanos = 0 ∨
        ∃ pairs, pairs ≠ [] ∧ (Text.trim s).toList = written pairs ∧ d.nanos = total pairs := by
    rw [parse?_eq_ok_iff, nanos?_eq_some_iff, bare]
    have inRange := d.inRange
    constructor
    · rintro (zero | ⟨pairs, nonempty, text, value, -⟩)
      · exact .inl zero
      · exact .inr ⟨pairs, nonempty, text, value⟩
    · rintro (zero | ⟨pairs, nonempty, text, value⟩)
      · exact .inl zero
      · exact .inr ⟨pairs, nonempty, text, value, by omega⟩
  refine ⟨parsed, ⟨?_, ?_⟩, ?_, fun _ _ _ => fitsWords_of_fractionFrom⟩
  · rintro ⟨d, read⟩
    rcases (parsed d).1 read with ⟨zero, -⟩ | ⟨pairs, nonempty, text, value⟩
    · exact .inl zero
    · have inRange := d.inRange
      exact .inr ⟨pairs, nonempty, text, by omega⟩
  · rintro (zero | ⟨pairs, nonempty, text, inRange⟩)
    · exact ⟨⟨0, by decide⟩, (parsed _).2 (.inl ⟨zero, rfl⟩)⟩
    · exact ⟨⟨total pairs, by omega⟩, (parsed _).2 (.inr ⟨pairs, nonempty, text, rfl⟩)⟩
  · intro pairs text rejected
    rw [text, sumFrom_written pairs (by decide), Nat.zero_add, checked] at rejected
    split at rejected
    · cases rejected
    · omega

end Duration

end SerialDialogue
