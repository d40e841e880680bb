import SerialDialogue.Proofs.Duration.Grammar
import SerialDialogue.Step.Verb

/-!
# How bounds are written

A monitor has no argument, or one that is written as a duration or as a count of lines.  The only
argument that is written as both is the single zero, which is taken for a duration, so that it
makes no difference to any other one which of the two is tried first.
-/

namespace SerialDialogue

namespace Bound

open Duration.Literal

/-! ## Counts of lines -/

/-- A count of lines as it is written: a row of digits, perhaps behind a plus sign, with a value
that fits 64 bits. -/
def Counts (text : List Char) (count : Nat) : Prop :=
  ∃ digits, (text = digits ∨ text = '+' :: digits) ∧ digits ≠ [] ∧ (∀ c ∈ digits, IsDigit c) ∧
    Nat.ofDigitChars 10 digits 0 = count ∧ count < 2 ^ 64

theorem plus_not_isDigit : ¬ IsDigit '+' := by
  unfold IsDigit
  decide

theorem isDigit_zero : IsDigit '0' := by
  unfold IsDigit
  decide

theorem row_eq_some_iff {digits : List Char} {count : Nat} :
    (if digits.isEmpty then none
      else
        match digitsFrom 0 digits with
        | some count => if count < 0x10000000000000000 then some count else none
        | none => none) = some count ↔
      digits ≠ [] ∧ (∀ c ∈ digits, IsDigit c) ∧ Nat.ofDigitChars 10 digits 0 = count ∧
        count < 2 ^ 64 := by
  by_cases nothing : digits = []
  · simp [nothing]
  · rw [if_neg (by simpa using nothing), and_iff_right nothing, ← and_assoc,
      ← digitsFrom_eq_some_iff]
    cases digitsFrom 0 digits with
    | none => simp
    | some value =>
        dsimp only
        split
        · simp only [Option.some.injEq]
          omega
        · simp only [reduceCtorEq, Option.some.injEq, false_iff]
          omega

theorem lineCount?_eq_some_iff {text : List Char} {count : Nat} :
    lineCount? text = some count ↔ Counts text count := by
  unfold lineCount?
  split
  · rename_i rest
    refine row_eq_some_iff.trans ⟨fun row => ⟨rest, .inr rfl, row⟩, ?_⟩
    rintro ⟨digits, rfl | behind, row⟩
    · exact absurd (row.2.1 '+' List.mem_cons_self) plus_not_isDigit
    · exact (List.cons.inj behind).2 ▸ row
  · rename_i other
    refine row_eq_some_iff.trans ⟨fun row => ⟨text, .inl rfl, row⟩, ?_⟩
    rintro ⟨digits, rfl | behind, row⟩
    · exact row
    · exact absurd behind (other digits)

/-- The digits do not name a unit, and a plus sign does not either. -/
theorem Counts.nanos?_eq_none {text : List Char} {count : Nat} (counts : Counts text count)
    (other : text ≠ ['0']) : nanos? text = none := by
  obtain ⟨digits, spelled, -, all, -⟩ := counts
  rw [Option.eq_none_iff_forall_ne_some]
  intro nanos read
  rcases nanos?_eq_some_iff.1 read with ⟨zero, -⟩ | ⟨pairs, nonempty, same, -⟩
  · exact other zero
  · rcases spelled with rfl | rfl
    · obtain ⟨c, inside, name⟩ := exists_mem_written nonempty
      rw [← same] at inside
      exact absurd (isNumeric_of_isDigit (all c inside)) (by simp [name])
    · exact absurd (isNumeric_head_written pairs '+' (by rw [← same]; rfl)) (by decide)

theorem Counts.not_isBlank {text : List Char} {count : Nat} (counts : Counts text count) :
    ∀ c ∈ text, ¬ Text.isBlank c := by
  obtain ⟨digits, spelled, -, all, -⟩ := counts
  have solid (c : Char) (inside : c ∈ digits) : ¬ Text.isBlank c :=
    not_isBlank_of_isNumeric (isNumeric_of_isDigit (all c inside))
  rcases spelled with rfl | rfl
  · exact solid
  · exact List.forall_mem_cons.2 ⟨by decide, solid⟩

/-- A count of lines is no duration, unless it is the single zero. -/
theorem Counts.parse?_eq_ok_iff {raw : String} {count : Nat} (counts : Counts raw.toList count) :
    (∃ d, Duration.parse? raw = .ok d) ↔ raw = "0" := by
  constructor
  · rintro ⟨d, read⟩
    rw [Duration.parse?_eq_ok_iff, Text.trim_of_forall counts.not_isBlank] at read
    refine Classical.byContradiction fun other => ?_
    rw [counts.nanos?_eq_none fun zero => other (String.toList_inj.1 zero)] at read
    cases read
  · rintro rfl
    exact ⟨⟨0, by decide⟩, rfl⟩

/-! ## The order in which the forms are tried -/

/-- The duration that an argument is written as. -/
def ofDuration? (raw : String) : Option Bound :=
  (Duration.parse? raw).toOption.map .duration

/-- The count of lines that an argument is written as. -/
def ofLineCount? (raw : String) : Option Bound :=
  (lineCount? raw.toList).map .lines

/-- The bound that an argument stands for where these forms are tried one after another. -/
def tried (forms : List (String → Option Bound)) (raw : String) : Except Reason Bound :=
  if raw.isEmpty then
    .ok .indefinite
  else
    match forms.findSome? (· raw) with
    | some bound => .ok bound
    | none => .error (.badBound raw)

theorem ofDuration?_eq_some_iff {raw : String} {bound : Bound} :
    ofDuration? raw = some bound ↔ ∃ d, Duration.parse? raw = .ok d ∧ .duration d = bound := by
  unfold ofDuration?
  cases Duration.parse? raw <;> simp [Except.toOption]

theorem ofLineCount?_eq_some_iff {raw : String} {bound : Bound} :
    ofLineCount? raw = some bound ↔ ∃ count, Counts raw.toList count ∧ .lines count = bound := by
  simp only [ofLineCount?, Option.map_eq_some_iff, lineCount?_eq_some_iff]

theorem parse?_eq_tried (raw : String) : parse? raw = tried [ofDuration?, ofLineCount?] raw := by
  simp only [parse?, tried, List.findSome?_cons, List.findSome?_nil, ofDuration?, ofLineCount?]
  cases Duration.parse? raw <;> cases lineCount? raw.toList <;> rfl

section Pair

variable {first second : String → Option Bound} {raw : String}

theorem tried_eq_ok_iff {bound : Bound} :
    tried [first, second] raw = .ok bound ↔
      raw = "" ∧ .indefinite = bound ∨
        raw ≠ "" ∧ (first raw = some bound ∨ first raw = none ∧ second raw = some bound) := by
  unfold tried
  by_cases nothing : raw = ""
  · simp [nothing]
  · have nonempty : raw.isEmpty = false := String.isEmpty_eq_false_iff.2 nothing
    simp only [nonempty, List.findSome?_cons, List.findSome?_nil]
    cases first raw <;> cases second raw <;> simp [nothing]

theorem tried_eq_error_iff {reason : Reason} :
    tried [first, second] raw = .error reason ↔
      raw ≠ "" ∧ first raw = none ∧ second raw = none ∧ reason = .badBound raw := by
  unfold tried
  by_cases nothing : raw = ""
  · simp [nothing]
  · have nonempty : raw.isEmpty = false := String.isEmpty_eq_false_iff.2 nothing
    simp only [nonempty, List.findSome?_cons, List.findSome?_nil]
    cases first raw <;> cases second raw <;> simp [nothing, eq_comm]

/-- The order makes no difference to an argument that has one form at most. -/
theorem tried_comm (one : first raw = none ∨ second raw = none) :
    tried [first, second] raw = tried [second, first] raw := by
  simp only [tried, List.findSome?_cons, List.findSome?_nil]
  rcases one with absent | absent
  · cases second raw <;> simp [absent]
  · cases first raw <;> simp [absent]

end Pair

/-! ## The forms apart -/

theorem not_counts_nil {count : Nat} : ¬ Counts [] count := by
  rintro ⟨digits, same | same, nonempty, -⟩
  · exact nonempty same.symm
  · cases same

theorem ofDuration?_eq_none_of_counts {raw : String} {count : Nat}
    (counts : Counts raw.toList count) (other : raw ≠ "0") : ofDuration? raw = none := by
  rw [Option.eq_none_iff_forall_ne_some]
  intro bound spelled
  obtain ⟨d, read, -⟩ := ofDuration?_eq_some_iff.1 spelled
  exact other (counts.parse?_eq_ok_iff.1 ⟨d, read⟩)

theorem ofDuration?_or_ofLineCount?_eq_none {raw : String} (other : raw ≠ "0") :
    ofDuration? raw = none ∨ ofLineCount? raw = none := by
  cases counted : ofLineCount? raw with
  | none => exact .inr rfl
  | some bound =>
      obtain ⟨count, counts, -⟩ := ofLineCount?_eq_some_iff.1 counted
      exact .inl (ofDuration?_eq_none_of_counts counts other)

theorem parse?_eq_indefinite_iff {raw : String} : parse? raw = .ok .indefinite ↔ raw = "" := by
  rw [parse?_eq_tried, tried_eq_ok_iff, ofDuration?_eq_some_iff, ofLineCount?_eq_some_iff]
  simp

theorem parse?_eq_duration_iff {raw : String} {d : Duration} :
    parse? raw = .ok (.duration d) ↔ Duration.parse? raw = .ok d := by
  have nonempty : Duration.parse? raw = .ok d → raw ≠ "" := by
    rintro read rfl
    cases read
  rw [parse?_eq_tried, tried_eq_ok_iff, ofDuration?_eq_some_iff, ofLineCount?_eq_some_iff]
  simpa using nonempty

theorem parse?_eq_lines_iff {raw : String} {count : Nat} :
    parse? raw = .ok (.lines count) ↔ Counts raw.toList count ∧ raw ≠ "0" := by
  rw [parse?_eq_tried, tried_eq_ok_iff, ofDuration?_eq_some_iff, ofLineCount?_eq_some_iff]
  simp only [reduceCtorEq, and_false, exists_false, false_or, lines.injEq, exists_eq_right]
  constructor
  · rintro ⟨-, untimed, counts⟩
    refine ⟨counts, ?_⟩
    rintro rfl
    cases untimed
  · rintro ⟨counts, other⟩
    refine ⟨?_, ofDuration?_eq_none_of_counts counts other, counts⟩
    rintro rfl
    exact not_counts_nil counts

theorem parse?_eq_error_iff {raw : String} {reason : Reason} :
    parse? raw = .error reason ↔
      raw ≠ "" ∧ (∀ d, Duration.parse? raw ≠ .ok d) ∧ (∀ count, ¬ Counts raw.toList count) ∧
        reason = .badBound raw := by
  have untimed : ofDuration? raw = none ↔ ∀ d, Duration.parse? raw ≠ .ok d := by
    simp [Option.eq_none_iff_forall_ne_some, ofDuration?_eq_some_iff]
  have uncounted : ofLineCount? raw = none ↔ ∀ count, ¬ Counts raw.toList count := by
    simp [Option.eq_none_iff_forall_ne_some, ofLineCount?_eq_some_iff]
  rw [parse?_eq_tried, tried_eq_error_iff, untimed, uncounted]

theorem counts_zero : Counts "0".toList 0 :=
  ⟨['0'], .inl rfl, List.cons_ne_nil _ _, List.forall_mem_singleton.2 isDigit_zero, rfl, by decide⟩

/-- What an argument stands for is decided by how it is written: nothing at all, a duration, or a
count of lines other than the single zero, and all else is refused.  A text is written as a
duration and as a count of lines only if it is the single zero, so that for every other argument
the two may be tried in either order. -/
theorem parse?_unambiguous (raw : String) :
    (parse? raw = .ok .indefinite ↔ raw = "") ∧
      (∀ d, parse? raw = .ok (.duration d) ↔ Duration.parse? raw = .ok d) ∧
      (∀ count, parse? raw = .ok (.lines count) ↔ Counts raw.toList count ∧ raw ≠ "0") ∧
      (∀ reason, parse? raw = .error reason ↔
        raw ≠ "" ∧ (∀ d, Duration.parse? raw ≠ .ok d) ∧ (∀ count, ¬ Counts raw.toList count) ∧
          reason = .badBound raw) ∧
      ((∃ d, Duration.parse? raw = .ok d) ∧ (∃ count, Counts raw.toList count) ↔ raw = "0") ∧
      parse? raw = tried [ofDuration?, ofLineCount?] raw ∧
      (parse? raw = tried [ofLineCount?, ofDuration?] raw ↔ raw ≠ "0") := by
  refine ⟨parse?_eq_indefinite_iff, fun _ => parse?_eq_duration_iff,
    fun _ => parse?_eq_lines_iff, fun _ => parse?_eq_error_iff, ⟨?_, ?_⟩, parse?_eq_tried raw,
    ⟨?_, fun other => ?_⟩⟩
  · rintro ⟨timed, count, counts⟩
    exact counts.parse?_eq_ok_iff.1 timed
  · rintro rfl
    exact ⟨counts_zero.parse?_eq_ok_iff.2 rfl, 0, counts_zero⟩
  · rintro same rfl
    cases same
  · rw [parse?_eq_tried, tried_comm (ofDuration?_or_ofLineCount?_eq_none other)]

/-! ## No lines -/

def Zeros (text : List Char) : Prop :=
  text ≠ [] ∧ ∀ c ∈ text, c = '0'

theorem zeros_iff {digits : List Char} :
    Zeros digits ↔ digits ≠ [] ∧ (∀ c ∈ digits, IsDigit c) ∧ Nat.ofDigitChars 10 digits 0 = 0 := by
  refine and_congr_right fun _ => ⟨fun zeros => ?_, ?_⟩
  · have all : ∀ c ∈ digits, IsDigit c := fun c inside => zeros c inside ▸ isDigit_zero
    exact ⟨all, (ofDigitChars_eq_zero_iff all 0).2 ⟨rfl, zeros⟩⟩
  · rintro ⟨all, value⟩
    exact ((ofDigitChars_eq_zero_iff all 0).1 value).2

theorem counts_zero_iff {text : List Char} :
    Counts text 0 ↔ Zeros text ∨ ∃ zeros, Zeros zeros ∧ text = '+' :: zeros := by
  constructor
  · rintro ⟨digits, spelled, nonempty, all, value, -⟩
    have zeros : Zeros digits := zeros_iff.2 ⟨nonempty, all, value⟩
    rcases spelled with rfl | behind
    · exact .inl zeros
    · exact .inr ⟨digits, zeros, behind⟩
  · have count (digits : List Char) (zeros : Zeros digits)
        (spelled : text = digits ∨ text = '+' :: digits) : Counts text 0 := by
      obtain ⟨nonempty, all, value⟩ := zeros_iff.1 zeros
      exact ⟨digits, spelled, nonempty, all, value, by decide⟩
    rintro (zeros | ⟨digits, zeros, same⟩)
    · exact count text zeros (.inl rfl)
    · exact count digits zeros (.inr same)

/-- Which arguments make a monitor for no lines at all. -/
theorem parse?_eq_lines_zero_iff {raw : String} :
    parse? raw = .ok (.lines 0) ↔
      Zeros raw.toList ∧ raw ≠ "0" ∨ ∃ zeros, Zeros zeros ∧ raw.toList = '+' :: zeros := by
  have behind : (∃ zeros, Zeros zeros ∧ raw.toList = '+' :: zeros) → raw ≠ "0" := by
    rintro ⟨zeros, -, same⟩ rfl
    cases same
  rw [parse?_eq_lines_iff, counts_zero_iff, or_and_right, and_iff_left_of_imp behind]

end Bound

end SerialDialogue
