import SerialDialogue.Proofs.Text.Framing
import SerialDialogue.Step.Basic

/-!
# Delimited arguments

The arguments of a send and of an expect may stand between two delimiters.  An expect takes nothing
else, and its delimiter says what kind of a pattern the text between them is.  A send takes anything
as it is written, and the text between quotes with a carriage return behind it, or with its escapes
expanded.  The escapes are expanded one letter after the other; that is the same as one pass over
the text, and no escape is left.
-/

namespace SerialDialogue

namespace Text

/-- A text between two delimiters. -/
def enclosed (delimiter : Char) (text : String) : String :=
  String.ofList (delimiter :: (text.toList ++ [delimiter]))

theorem framing_enclosed {delimiter : Char} (ascii : delimiter.toNat < 0x80) (text : String) :
    framing (enclosed delimiter text).toList = .framed delimiter text.toList delimiter := by
  rw [enclosed, String.toList_ofList, framing_framed ascii ascii]

theorem eq_enclosed_of_framing {raw : String} {delimiter : Char} {inner : List Char}
    (framed : framing raw.toList = .framed delimiter inner delimiter) :
    raw = enclosed delimiter (.ofList inner) := by
  rw [enclosed, String.toList_ofList, ← eq_of_framing framed, String.ofList_toList]

end Text

open Text (enclosed framing_enclosed eq_enclosed_of_framing)

/-! ## Patterns -/

namespace Pattern

def Kind.delimiter : Kind → Char
  | substring => '\''
  | lineStart => '"'
  | regex => '/'

theorem Kind.delimiter_ascii (kind : Kind) : kind.delimiter.toNat < 0x80 := by
  cases kind <;> decide

/-- The pattern that a text between delimiters stands for. -/
def ofText? (text : String) : Kind → Except PatternError Pattern
  | .substring => .ok ⟨text, .substring (Text.lowercase text)⟩
  | .lineStart => .ok ⟨text, .lineStart text⟩
  | .regex =>
      match Regex.compile? text with
      | .ok regex => .ok ⟨text, .regex regex⟩
      | .error cause => .error (.regex cause)

theorem compile?_enclosed (kind : Kind) (text : String) :
    compile? (enclosed kind.delimiter text) = ofText? text kind := by
  rw [compile?, framing_enclosed kind.delimiter_ascii]
  cases kind with
  | substring => simp [Kind.delimiter, ofText?]
  | lineStart => simp [Kind.delimiter, ofText?]
  | regex => cases compiled : Regex.compile? text <;> simp [Kind.delimiter, ofText?, compiled]

theorem exists_enclosed_of_compile? {raw : String} {pattern : Pattern}
    (compiled : compile? raw = .ok pattern) :
    ∃ kind text, raw = enclosed (Kind.delimiter kind) text := by
  unfold compile? at compiled
  split at compiled
  · cases compiled
  · cases compiled
  · rename_i first inner last framed
    dsimp only at compiled
    split at compiled
    · rename_i both
      obtain ⟨rfl, rfl⟩ := both
      exact ⟨.substring, _, eq_enclosed_of_framing framed⟩
    · split at compiled
      · rename_i both
        obtain ⟨rfl, rfl⟩ := both
        exact ⟨.lineStart, _, eq_enclosed_of_framing framed⟩
      · split at compiled
        · rename_i both
          obtain ⟨rfl, rfl⟩ := both
          exact ⟨.regex, _, eq_enclosed_of_framing framed⟩
        · cases compiled

theorem kind_of_ofText? {text : String} {kind : Kind} {pattern : Pattern}
    (stands : ofText? text kind = .ok pattern) : pattern.kind = kind ∧ pattern.text = text := by
  unfold ofText? at stands
  cases kind with
  | substring =>
      cases stands
      exact ⟨rfl, rfl⟩
  | lineStart =>
      cases stands
      exact ⟨rfl, rfl⟩
  | regex =>
      dsimp only at stands
      split at stands
      · cases stands
        exact ⟨rfl, rfl⟩
      · cases stands

theorem exists_ofText?_iff {text : String} {kind : Kind} :
    (∃ pattern, ofText? text kind = .ok pattern) ↔
      (kind = .regex → ∃ regex, Regex.compile? text = .ok regex) := by
  cases kind with
  | substring => simp [ofText?]
  | lineStart => simp [ofText?]
  | regex => cases compiled : Regex.compile? text <;> simp [ofText?, compiled]

end Pattern

/-! ## Escapes -/

namespace Step

/-- One pass over a text from left to right.  A backslash and a letter that means something become
what the letter means, and all else stays. -/
def expand (meaning : Char → Option Char) : List Char → List Char
  | '\\' :: c :: rest =>
      match meaning c with
      | some replacement => replacement :: expand meaning rest
      | none => '\\' :: expand meaning (c :: rest)
  | c :: rest => c :: expand meaning rest
  | [] => []

/-- What one letter means, where no other letter means anything. -/
def only (letter replacement : Char) (c : Char) : Option Char :=
  if c = letter then some replacement else none

/-- What the letters mean that stand for the ends of lines. -/
def lineEnd : Char → Option Char
  | 'r' => some '\r'
  | 'n' => some '\n'
  | _ => none

section Expand

variable {meaning : Char → Option Char}

theorem expand_cons {c : Char} (other : c ≠ '\\') (rest : List Char) :
    expand meaning (c :: rest) = c :: expand meaning rest := by
  rw [expand]
  rintro _ _ rfl
  exact absurd rfl other

theorem expand_escape {c replacement : Char} (means : meaning c = some replacement)
    (rest : List Char) :
    expand meaning ('\\' :: c :: rest) = replacement :: expand meaning rest := by
  rw [expand, means]

/-- A backslash stays in front of what means nothing. -/
theorem expand_backslash {text : List Char} (nothing : ∀ c ∈ text.head?, meaning c = none) :
    expand meaning ('\\' :: text) = '\\' :: expand meaning text := by
  cases text with
  | nil => rfl
  | cons c rest => rw [expand, nothing c rfl]

theorem head?_expand {text : List Char} {d : Char} (first : d ∈ (expand meaning text).head?) :
    d ∈ text.head? ∨ ∃ c, meaning c = some d := by
  fun_cases expand meaning text with
  | case1 c rest replacement means =>
      rw [expand_escape means] at first
      exact .inr ⟨c, means.trans first⟩
  | case2 c rest nothing =>
      rw [expand_backslash (by simpa using nothing)] at first
      exact .inl first
  | case3 c rest other =>
      rw [expand] at first
      · exact .inl first
      · exact other
  | case4 => exact .inl first

/-- No replacement begins an escape or completes one. -/
def Inert (meaning meaning' : Char → Option Char) : Prop :=
  ∀ c replacement, meaning c = some replacement →
    replacement ≠ '\\' ∧ meaning' replacement = none

/-- What a character means nothing to does not come to mean anything when what is behind it is
expanded. -/
theorem Inert.head?_expand {meaning' : Char → Option Char} (inert : Inert meaning meaning')
    {text : List Char} (nothing : ∀ c ∈ text.head?, meaning' c = none) :
    ∀ c ∈ (expand meaning text).head?, meaning' c = none := by
  intro c first
  rcases Step.head?_expand first with same | ⟨letter, means⟩
  · exact nothing c same
  · exact (inert letter c means).2

/-- The escapes of one table and then those of another one are expanded in one pass. -/
theorem expand_expand {meaning' : Char → Option Char} (inert : Inert meaning meaning')
    (plain : meaning' '\\' = none) (text : List Char) :
    expand meaning' (expand meaning text) =
      expand (fun c => (meaning c).or (meaning' c)) text := by
  fun_induction expand meaning text with
  | case1 c rest replacement means ih =>
      have either : (meaning c).or (meaning' c) = some replacement := by rw [means, Option.some_or]
      rw [expand_cons (inert c replacement means).1, ih, expand_escape either]
  | case2 c rest nothing ih =>
      have either : (meaning c).or (meaning' c) = meaning' c := by rw [nothing, Option.none_or]
      cases means : meaning' c with
      | none =>
          rw [expand_backslash (inert.head?_expand (by simpa using means)), ih,
            expand_backslash (by simpa [nothing] using means)]
      | some replacement =>
          -- The letter is no backslash, so that it is still behind the backslash.
          have other : c ≠ '\\' := by
            rintro rfl
            rw [plain] at means
            cases means
          rw [expand_cons other, expand_cons other, expand_cons other] at ih
          rw [expand_cons other, expand_escape means, (List.cons.inj ih).2,
            expand_escape (either.trans means)]
  | case3 c rest other ih =>
      by_cases backslash : c = '\\'
      · subst backslash
        cases rest with
        | nil => rfl
        | cons d rest => exact absurd rfl (other d rest rfl)
      · rw [expand_cons backslash, ih, expand_cons backslash]
  | case4 => rfl

theorem not_escape_infix_expand (inert : Inert meaning meaning) {letter replacement : Char}
    (means : meaning letter = some replacement) (text : List Char) :
    ¬ ['\\', letter] <:+: expand meaning text := by
  have step {c : Char} {rest : List Char} (behind : ¬ ['\\', letter] <:+: rest)
      (here : c = '\\' → letter ∉ rest.head?) : ¬ ['\\', letter] <:+: c :: rest := by
    intro inside
    rcases List.infix_cons_iff.1 inside with early | later
    · obtain ⟨rfl, first⟩ := List.cons_prefix_cons.1 early
      obtain ⟨more, rfl⟩ := first
      exact here rfl rfl
    · exact behind later
  fun_induction expand meaning text with
  | case1 c rest replacement' means' ih =>
      exact step ih fun backslash => absurd backslash (inert c replacement' means').1
  | case2 c rest nothing ih =>
      have unmeant : ∀ d ∈ (expand meaning (c :: rest)).head?, meaning d = none :=
        inert.head?_expand (by simpa using nothing)
      refine step ih fun _ first => ?_
      rw [unmeant letter first] at means
      cases means
  | case3 c rest other ih =>
      refine step ih ?_
      rintro rfl first
      cases rest with
      | nil => cases first
      | cons d rest => exact other d rest rfl rfl
  | case4 => simp

end Expand

theorem unescape_eq_expand (letter replacement : Char) (text : List Char) :
    unescape letter replacement text = expand (only letter replacement) text := by
  fun_induction unescape letter replacement text with
  | case1 rest ih => rw [ih, expand_escape (if_pos rfl)]
  | case2 c rest other ih =>
      rw [ih, expand_backslash]
      simpa [only] using other
  | case3 c rest other ih =>
      rw [ih, expand]
      exact other
  | case4 => rfl

theorem inert_only {letter replacement letter' replacement' : Char} (other : replacement ≠ '\\')
    (other' : replacement ≠ letter') :
    Inert (only letter replacement) (only letter' replacement') := by
  intro c means replaced
  unfold only at replaced
  split at replaced
  · cases replaced
    exact ⟨other, if_neg other'⟩
  · cases replaced

theorem inert_lineEnd : Inert lineEnd lineEnd := by
  intro c replacement means
  unfold lineEnd at means
  split at means <;> cases means <;> decide

theorem lineEnd_eq (c : Char) : lineEnd c =
    if c = 'r' then some '\r' else if c = 'n' then some '\n' else none := by
  unfold lineEnd
  split
  · rfl
  · rfl
  · rename_i notReturn newline
    rw [if_neg notReturn, if_neg newline]

/-- Carriage returns and newlines are put for their escapes one after the other, in either order,
or in one pass. -/
theorem unescape_unescape (text : List Char) :
    unescape 'n' '\n' (unescape 'r' '\r' text) = expand lineEnd text ∧
      unescape 'r' '\r' (unescape 'n' '\n' text) = expand lineEnd text := by
  have first : (fun c => (only 'r' '\r' c).or (only 'n' '\n' c)) = lineEnd := by
    funext c
    rw [lineEnd_eq, only, only]
    split <;> rfl
  have second : (fun c => (only 'n' '\n' c).or (only 'r' '\r' c)) = lineEnd := by
    funext c
    rw [lineEnd_eq, only, only]
    split
    · rename_i newline
      rw [newline]
      rfl
    · rfl
  simp only [unescape_eq_expand]
  rw [expand_expand (inert_only (by decide) (by decide)) (by decide), first,
    expand_expand (inert_only (by decide) (by decide)) (by decide), second]
  exact ⟨rfl, rfl⟩

/-! ## Payloads -/

theorem payload_enclosed_single (text : String) : payload (enclosed '\'' text) = text ++ "\r" := by
  rw [payload, framing_enclosed (by decide)]
  simp

theorem payload_enclosed_double (text : String) :
    payload (enclosed '"' text) =
      String.ofList (unescape 'n' '\n' (unescape 'r' '\r' text.toList)) := by
  rw [payload, framing_enclosed (by decide)]
  rfl

theorem payload_of_ne_enclosed {raw : String} (other : ∀ text, raw ≠ enclosed '\'' text)
    (other' : ∀ text, raw ≠ enclosed '"' text) : payload raw = raw := by
  unfold payload
  split
  · rename_i inner framed
    exact absurd (eq_enclosed_of_framing framed) (other _)
  · rename_i inner framed
    exact absurd (eq_enclosed_of_framing framed) (other' _)
  · rfl

end Step

/-- The delimiters of arguments.  They are single bytes, so that a text is not cut inside a
character when they are split off.  A text is a pattern exactly if it is enclosed in the delimiter
of some kind of patterns, and of these the regular expressions have to be valid; it is a pattern of
that kind for the text inside.  What is sent for a text between single quotes is the text with a
carriage return behind it.  Between double quotes the escapes for carriage returns and newlines are
expanded in one pass, for which they may be expanded in either order, and none of them is left.  All
else is sent as it is. -/
theorem delimited_arguments (raw : String) :
    Text.FramedByBytes raw raw.toUTF8.data.toList ∧
      ((∃ pattern, Pattern.compile? raw = .ok pattern) ↔
        ∃ kind text, raw = enclosed (Pattern.Kind.delimiter kind) text ∧
          (kind = .regex → ∃ regex, Regex.compile? text = .ok regex)) ∧
      (∀ kind text pattern, raw = enclosed (Pattern.Kind.delimiter kind) text →
        Pattern.compile? raw = .ok pattern → pattern.kind = kind ∧ pattern.text = text) ∧
      (∀ text, raw = enclosed '\'' text → Step.payload raw = text ++ "\r") ∧
      (∀ text, raw = enclosed '"' text →
        Step.payload raw = .ofList (Step.expand Step.lineEnd text.toList) ∧
          Step.payload raw =
            .ofList (Step.unescape 'n' '\n' (Step.unescape 'r' '\r' text.toList)) ∧
          Step.payload raw =
            .ofList (Step.unescape 'r' '\r' (Step.unescape 'n' '\n' text.toList)) ∧
          ¬ ['\\', 'r'] <:+: (Step.payload raw).toList ∧
          ¬ ['\\', 'n'] <:+: (Step.payload raw).toList) ∧
      ((∀ text, raw ≠ enclosed '\'' text) → (∀ text, raw ≠ enclosed '"' text) →
        Step.payload raw = raw) := by
  refine ⟨Text.framedByBytes raw, ⟨?_, ?_⟩, ?_, ?_, ?_, Step.payload_of_ne_enclosed⟩
  · rintro ⟨pattern, compiled⟩
    obtain ⟨kind, text, rfl⟩ := Pattern.exists_enclosed_of_compile? compiled
    rw [Pattern.compile?_enclosed] at compiled
    exact ⟨kind, text, rfl, Pattern.exists_ofText?_iff.1 ⟨pattern, compiled⟩⟩
  · rintro ⟨kind, text, rfl, valid⟩
    rw [Pattern.compile?_enclosed]
    exact Pattern.exists_ofText?_iff.2 valid
  · rintro kind text pattern rfl compiled
    rw [Pattern.compile?_enclosed] at compiled
    exact Pattern.kind_of_ofText? compiled
  · rintro text rfl
    exact Step.payload_enclosed_single text
  · rintro text rfl
    obtain ⟨one, other⟩ := Step.unescape_unescape text.toList
    rw [Step.payload_enclosed_double, one, other, String.toList_ofList]
    exact ⟨rfl, rfl, rfl, Step.not_escape_infix_expand Step.inert_lineEnd rfl _,
      Step.not_escape_infix_expand Step.inert_lineEnd rfl _⟩

end SerialDialogue
