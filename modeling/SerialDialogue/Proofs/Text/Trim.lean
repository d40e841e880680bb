import Mathlib.Data.List.DropRight
import Mathlib.Data.List.TakeWhile
import SerialDialogue.Text.Blank

/-!
# Texts without the blanks around them

What is left of a text when the blanks at its ends are dropped lies inside the text, with nothing
but blanks around it, and has no blank at its own ends.  So blanks in front of a text or behind
it make no difference to what is left.
-/

namespace SerialDialogue

namespace Text

variable {text front back : List Char}

/-- Nothing but blanks, or nothing at all. -/
def Blank (text : List Char) : Prop :=
  ∀ c ∈ text, isBlank c

/-- No blank at either end. -/
structure Tight (text : List Char) : Prop where
  head : ∀ c ∈ text.head?, ¬ isBlank c
  last : ∀ c ∈ text.getLast?, ¬ isBlank c

theorem takeWhile_append_of_boundary {p : Char → Bool} {rest : List Char}
    (all : ∀ c ∈ front, p c) (boundary : ∀ c ∈ rest.head?, p c = false) :
    (front ++ rest).takeWhile p = front ∧ (front ++ rest).dropWhile p = rest := by
  rw [List.takeWhile_append_of_pos all, List.dropWhile_append_of_pos all]
  cases rest with
  | nil => simp
  | cons c rest =>
      have stops : p c = false := boundary c rfl
      simp [stops]

theorem dropEnd_prefix_self (p : Char → Bool) (text : List Char) : dropEnd p text <+: text :=
  List.rdropWhile_prefix p text

theorem dropBlankEnds_infix (text : List Char) : dropBlankEnds text <:+: text :=
  (dropEnd_prefix_self isBlank _).isInfix.trans (List.dropWhile_suffix isBlank).isInfix

theorem exists_eq_dropBlankEnds (text : List Char) :
    ∃ front back, Blank front ∧ Blank back ∧ text = front ++ (dropBlankEnds text ++ back) := by
  refine ⟨text.takeWhile isBlank, (dropBlankStart text).rtakeWhile isBlank, ?_, ?_, ?_⟩
  · intro c member
    exact List.mem_takeWhile_imp member
  · intro c member
    exact List.mem_rtakeWhile_imp member
  · have behind : dropBlankEnds text ++ (dropBlankStart text).rtakeWhile isBlank =
        dropBlankStart text := List.rdropWhile_append_rtakeWhile
    rw [behind]
    exact (List.takeWhile_append_dropWhile ..).symm

theorem tight_dropBlankEnds (text : List Char) : Tight (dropBlankEnds text) := by
  constructor
  · intro c first
    have start : c ∈ (dropBlankStart text).head? := by
      obtain ⟨rest, whole⟩ := dropEnd_prefix_self isBlank (dropBlankStart text)
      rw [← whole]
      exact List.mem_head?_append_of_mem_head? first
    have solid := List.head?_dropWhile_not isBlank text
    rw [dropBlankStart] at start
    rw [Option.mem_def.1 start] at solid
    simpa using solid
  · intro c last
    have nonempty : dropBlankEnds text ≠ [] := by
      intro nothing
      simp [nothing] at last
    have solid : ¬ isBlank ((dropBlankEnds text).getLast nonempty) :=
      List.rdropWhile_last_not isBlank _ nonempty
    rw [List.getLast?_eq_some_getLast nonempty] at last
    rwa [← Option.some.inj last]

theorem Tight.dropBlankEnds_eq (tight : Tight text) : dropBlankEnds text = text := by
  have start : dropBlankStart text = text := by
    cases text with
    | nil => rfl
    | cons c rest => exact List.dropWhile_cons_of_neg (tight.head c rfl)
  have ending : dropBlankEnd text = text := by
    refine List.rdropWhile_eq_self_iff.2 fun nonempty => tight.last _ ?_
    exact List.getLast?_eq_some_getLast nonempty
  rw [dropBlankEnds, start, ending]

theorem dropBlankEnds_eq_nil_iff : dropBlankEnds text = [] ↔ Blank text := by
  constructor
  · intro nothing
    obtain ⟨front, back, before, behind, whole⟩ := exists_eq_dropBlankEnds text
    rw [nothing, List.nil_append] at whole
    rw [whole]
    intro c member
    exact (List.mem_append.1 member).elim (before c) (behind c)
  · intro blank
    have start : dropBlankStart text = [] := List.dropWhile_eq_nil_iff.2 blank
    rw [dropBlankEnds, start]
    rfl

/-- Blanks around a text make no difference. -/
theorem dropBlankEnds_append_append (before : Blank front) (behind : Blank back)
    (text : List Char) : dropBlankEnds (front ++ (text ++ back)) = dropBlankEnds text := by
  rw [dropBlankEnds, dropBlankEnds, dropBlankStart, List.dropWhile_append_of_pos before,
    List.dropWhile_append]
  by_cases blank : text.dropWhile isBlank = []
  · have nothing : back.dropWhile isBlank = [] := List.dropWhile_eq_nil_iff.2 behind
    simp [dropBlankStart, blank, nothing]
  · rw [if_neg (by simpa using blank), dropBlankEnd, dropEnd, List.reverse_append,
      List.dropWhile_append_of_pos fun c member => behind c (List.mem_reverse.1 member)]
    rfl

theorem trim_of_forall {s : String} (solid : ∀ c ∈ s.toList, ¬ isBlank c) : trim s = s := by
  have tight : Tight s.toList :=
    ⟨fun c first => solid c (List.mem_of_mem_head? first),
      fun c last => solid c (List.mem_of_mem_getLast? last)⟩
  rw [trim, tight.dropBlankEnds_eq, String.ofList_toList]

end Text

end SerialDialogue
