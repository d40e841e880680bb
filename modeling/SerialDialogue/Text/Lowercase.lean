import SerialDialogue.Text.CaseTable

/-!
# Lower-casing

Two ways to lower a text.  `lowerEach` lowers every character by itself, as a
stream has to; `lowercase` lowers a whole string and gives a capital sigma its
final form at the end of a word.  They agree on every text without a capital
sigma.
-/

namespace SerialDialogue

namespace Text

def inRanges (ranges : List (Nat × Nat)) (n : Nat) : Bool :=
  ranges.any fun range => range.1 ≤ n && n ≤ range.2

def isCased (c : Char) : Bool :=
  inRanges casedRanges c.toNat

def isCaseIgnorable (c : Char) : Bool :=
  inRanges caseIgnorableRanges c.toNat

/-- The lower-case form of a character that stands alone.  A capital I with a dot
above is the only character with a form of two characters. -/
def lowerChar (c : Char) : List Char :=
  if c.toNat < 0x80 then
    [c.toLower]
  else if c = 'İ' then
    ['i', Char.ofNat 0x307]
  else
    match lowercaseRuns.find? (·.covers c.toNat) with
    | some run => [Char.ofNat (run.lower c.toNat)]
    | none => [c]

/-- Every character lowered by itself. -/
def lowerEach (text : List Char) : List Char :=
  text.flatMap lowerChar

/-- Behind the case-ignorable characters in front, a cased character comes first. -/
def leadsToCased (text : List Char) : Bool :=
  match text.dropWhile isCaseIgnorable with
  | [] => false
  | c :: _ => isCased c

/-- A sigma between `before` (nearest character first) and `after` ends a word. -/
def endsWord (before after : List Char) : Bool :=
  leadsToCased before && !leadsToCased after

/-- Lower a text that stands behind `before` (nearest character first). -/
def lowerBehind (before : List Char) : List Char → List Char
  | [] => []
  | c :: rest =>
      (if c = 'Σ' then [if endsWord before rest then 'ς' else 'σ'] else lowerChar c) ++
        lowerBehind (c :: before) rest

/-- The lower-case form of a string: character by character, except that a capital
sigma at the end of a word becomes a final sigma. -/
def lowercase (s : String) : String :=
  String.ofList (lowerBehind [] s.toList)

@[simp]
theorem lowerEach_nil : lowerEach [] = [] :=
  rfl

@[simp]
theorem lowerEach_cons (c : Char) (text : List Char) :
    lowerEach (c :: text) = lowerChar c ++ lowerEach text := by
  simp [lowerEach]

@[simp]
theorem lowerEach_append (first second : List Char) :
    lowerEach (first ++ second) = lowerEach first ++ lowerEach second := by
  simp [lowerEach]

@[simp]
theorem lowercase_toList (s : String) : (lowercase s).toList = lowerBehind [] s.toList := by
  simp [lowercase]

/-- Without a capital sigma the context does not matter. -/
theorem lowerBehind_eq_lowerEach {text : List Char} (noSigma : 'Σ' ∉ text)
    (before : List Char) : lowerBehind before text = lowerEach text := by
  induction text generalizing before with
  | nil => rfl
  | cons c rest ih =>
      have head : c ≠ 'Σ' := fun equal => noSigma (by simp [equal])
      have tail : 'Σ' ∉ rest := fun member => noSigma (by simp [member])
      simp [lowerBehind, head, ih tail]

end Text

end SerialDialogue
