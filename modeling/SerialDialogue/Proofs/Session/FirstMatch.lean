import SerialDialogue.Proofs.Session.History
import SerialDialogue.Proofs.Session.Take

/-!
# The first match

Characters that are taken for a pattern are taken up to the first of them with which it
matches, or all of them are taken when it does not match with any: `Session.exists_take_found`.
What is tested on the way is what the session remembers of the characters pushed so far.
-/

namespace SerialDialogue

/-- These are the fewest characters, but at least one, that pass the test. -/
def Shortest (test : List Char → Prop) (taken : List Char) : Prop :=
  taken ≠ [] ∧ test taken ∧
    ∀ earlier, earlier <+: taken → earlier ≠ [] → test earlier → earlier = taken

/-- No first characters of the text pass the test. -/
def Unmet (test : List Char → Prop) (text : List Char) : Prop :=
  ∀ earlier, earlier <+: text → earlier ≠ [] → ¬ test earlier

theorem Unmet.singleton {test : List Char → Prop} {c : Char} (fails : ¬ test [c]) :
    Unmet test [c] := by
  intro earlier early nonempty
  rwa [early.eq_of_length_le (List.length_pos_iff.2 nonempty)]

theorem Unmet.append {test : List Char → Prop} {front text : List Char} (fails : Unmet test front)
    (fails' : Unmet (fun rest => test (front ++ rest)) text) : Unmet test (front ++ text) := by
  rintro earlier ⟨rest, split⟩ nonempty
  rcases List.append_eq_append_iff.1 split with ⟨more, inFront, -⟩ | ⟨behind, rfl, within⟩
  · exact fails earlier ⟨more, inFront.symm⟩ nonempty
  · by_cases nothing : behind = []
    · rw [nothing, List.append_nil] at nonempty ⊢
      exact fails front List.prefix_rfl nonempty
    · exact fails' behind ⟨rest, within.symm⟩ nothing

namespace Shortest

variable {test test' : List Char → Prop} {taken : List Char}

theorem exists_of_test {text : List Char} (nonempty : text ≠ []) (passes : test text) :
    ∃ taken, taken <+: text ∧ Shortest test taken := by
  induction length : text.length using Nat.strongRecOn generalizing text with
  | ind count ih =>
      by_cases sooner : ∃ earlier, earlier <+: text ∧ earlier ≠ [] ∧ test earlier ∧ earlier ≠ text
      · obtain ⟨earlier, early, nonempty', passes', proper⟩ := sooner
        have shorter : earlier.length < count :=
          length ▸ Nat.lt_of_le_of_ne early.length_le fun same => proper (early.eq_of_length same)
        obtain ⟨taken, within, shortest⟩ := ih earlier.length shorter nonempty' passes' rfl
        exact ⟨taken, within.trans early, shortest⟩
      · refine ⟨text, List.prefix_rfl, nonempty, passes, fun earlier early nonempty' passes' => ?_⟩
        exact Classical.byContradiction fun proper =>
          sooner ⟨earlier, early, nonempty', passes', proper⟩

/-- Of two tests the second one passes whatever the first one passes, and what the second one
passes first the first one passes as well: both pass the same characters first. -/
theorem iff_of_imp (imp : ∀ taken, test taken → test' taken)
    (first : ∀ taken, Shortest test' taken → test taken) :
    Shortest test taken ↔ Shortest test' taken := by
  constructor
  · rintro ⟨nonempty, passes, noneEarlier⟩
    obtain ⟨earlier, early, shortest⟩ := exists_of_test nonempty (imp taken passes)
    have same : earlier = taken := noneEarlier earlier early shortest.1 (first earlier shortest)
    exact same ▸ shortest
  · intro shortest
    exact ⟨shortest.1, first taken shortest, fun earlier early nonempty passes =>
      shortest.2.2 earlier early nonempty (imp earlier passes)⟩

theorem unique {first second text : List Char}
    (shortest : Shortest test first) (shortest' : Shortest test second) (within : first <+: text)
    (within' : second <+: text) : first = second := by
  rcases List.prefix_or_prefix_of_prefix within within' with early | early
  · exact shortest'.2.2 first early shortest.1 shortest.2.1
  · exact (shortest.2.2 second early shortest'.1 shortest'.2.1).symm

theorem singleton {c : Char} (passes : test [c]) : Shortest test [c] := by
  refine ⟨List.cons_ne_nil c [], passes, fun earlier early nonempty _ => ?_⟩
  exact early.eq_of_length_le (List.length_pos_iff.2 nonempty)

/-- Characters none of which passes the test with those before it come in front. -/
theorem append {front : List Char} (fails : Unmet test front)
    (shortest : Shortest (fun rest => test (front ++ rest)) taken) :
    Shortest test (front ++ taken) := by
  refine ⟨fun nothing => shortest.1 (List.append_eq_nil_iff.1 nothing).2, shortest.2.1,
    fun earlier early nonempty passes => ?_⟩
  obtain ⟨rest, split⟩ := early
  rcases List.append_eq_append_iff.1 split with ⟨more, inFront, -⟩ | ⟨behind, rfl, within⟩
  · exact absurd passes (fails earlier ⟨more, inFront.symm⟩ nonempty)
  · by_cases nothing : behind = []
    · rw [nothing, List.append_nil] at nonempty passes
      exact absurd passes (fails front List.prefix_rfl nonempty)
    · rw [shortest.2.2 behind ⟨rest, within.symm⟩ nothing passes]

end Shortest

namespace Session

@[simp]
theorem pushAll_nil (session : Session) : session.pushAll [] = session :=
  rfl

@[simp]
theorem pushAll_cons (session : Session) (c : Char) (rest : List Char) :
    session.pushAll (c :: rest) = (session.push c).2.pushAll rest :=
  rfl

theorem pushAll_append (session : Session) (first second : List Char) :
    session.pushAll (first ++ second) = (session.pushAll first).pushAll second :=
  List.foldl_append

theorem pushAll_concat (session : Session) (text : List Char) (c : Char) :
    session.pushAll (text ++ [c]) = ((session.pushAll text).push c).2 :=
  session.pushAll_append text [c]

theorem Remembers.pushAll {session : Session} {stream : List Char}
    (remembers : session.Remembers stream) (text : List Char) :
    (session.pushAll text).Remembers (stream ++ text) := by
  induction text generalizing session stream with
  | nil => rwa [List.append_nil]
  | cons c rest ih =>
      have := ih (remembers.push c)
      rwa [List.append_assoc] at this

theorem line_push (session : Session) (c : Char) :
    (session.push c).2.line = if c = '\n' then "" else session.line.push c := by
  unfold push
  split <;> simp

theorem line_pushAll {session : Session} {text : List Char} (inLine : '\n' ∉ text) :
    (session.pushAll text).line.toList = session.line.toList ++ text := by
  induction text generalizing session with
  | nil => simp
  | cons c rest ih =>
      have same : c ≠ '\n' := fun newline => inLine (newline ▸ List.mem_cons_self)
      rw [pushAll_cons, ih fun member => inLine (List.mem_cons_of_mem c member), line_push,
        if_neg same, String.toList_push, List.append_assoc]
      rfl

/-- The pattern matches what the session remembers once the characters are pushed. -/
def MatchesBehind (session : Session) (pattern : Pattern) (taken : List Char) : Prop :=
  (session.pushAll taken).isMatch pattern = true

theorem push_watch (session : Session) (pattern : Pattern) (c : Char) :
    (Watch.ofLine pattern session.line).push c = .ofLine pattern (session.push c).2.line := by
  rw [line_push]
  split
  · rename_i newline
    rw [newline]
    exact Watch.push_ofLine_newline pattern session.line
  · rename_i inLine
    exact Watch.push_ofLine pattern session.line inLine

theorem after_found (session : Session) (pattern : Pattern) (c : Char) (completed : Bool) :
    (Goal.found (.ofLine pattern session.line)).after (session.push c).2 c completed =
      if (session.push c).2.isMatch pattern then none
      else some (.found (.ofLine pattern (session.push c).2.line)) := by
  simp only [Goal.after, push_watch, Watch.isMet_ofLine]

/-- What comes of taking characters for a pattern. -/
structure Sought (session : Session) (pattern : Pattern) (taken : List Char) (goal : Option Goal)
    (rest : List Char) : Prop where
  /-- The goal is reached with the first characters with which the pattern matches. -/
  reached : goal = none → Shortest (session.MatchesBehind pattern) taken
  /-- Otherwise everything was taken, and the goal is still the same one. -/
  left : goal ≠ none → goal = some (.found (.ofLine pattern (session.pushAll taken).line)) ∧
    rest = [] ∧ Unmet (session.MatchesBehind pattern) taken

theorem exists_takeBehind_found (session : Session) (pattern : Pattern) (lines : List String)
    (count : Nat) (text : List Char) :
    let outcome := session.takeBehind (.found (.ofLine pattern session.line)) lines count text
    ∃ taken, text = taken ++ outcome.rest ∧ outcome.count = count + taken.length ∧
      outcome.session = session.pushAll taken ∧
        session.Sought pattern taken outcome.goal outcome.rest := by
  induction text generalizing session lines count with
  | nil =>
      refine ⟨[], rfl, rfl, rfl, ⟨nofun, fun _ => ⟨rfl, rfl, fun earlier early nonempty => ?_⟩⟩⟩
      exact absurd (List.prefix_nil.1 early) nonempty
  | cons c rest ih =>
      unfold takeBehind
      dsimp only
      rw [after_found]
      by_cases matching : (session.push c).2.isMatch pattern
      · rw [if_pos matching]
        exact ⟨[c], rfl, rfl, rfl, ⟨fun _ => .singleton matching, fun left => absurd rfl left⟩⟩
      · rw [if_neg matching]
        obtain ⟨taken, split, counted, pushed, sought⟩ :=
          ih (session.push c).2 ((session.push c).1.toList ++ lines) (count + 1)
        refine ⟨c :: taken, congrArg (c :: ·) split, ?_, pushed, ⟨?_, ?_⟩⟩
        · rw [counted, List.length_cons]
          omega
        · exact fun reached => .append (.singleton matching) (sought.reached reached)
        · intro left
          obtain ⟨goal, nothing, unmet⟩ := sought.left left
          exact ⟨goal, nothing, .append (.singleton matching) unmet⟩

/-- Characters are taken for a pattern up to the first one with which it matches. -/
theorem exists_take_found (session : Session) (pattern : Pattern) (text : List Char) :
    let outcome := session.take (.found (.ofLine pattern session.line)) text
    ∃ taken, text = taken ++ outcome.rest ∧ text.take outcome.count = taken ∧
      outcome.session = session.pushAll taken ∧
        session.Sought pattern taken outcome.goal outcome.rest := by
  intro outcome
  obtain ⟨taken, split, counted, pushed, sought⟩ :=
    session.exists_takeBehind_found pattern [] 0 text
  refine ⟨taken, split, ?_, pushed, sought⟩
  rw [show outcome.count = taken.length from counted.trans (Nat.zero_add _)]
  exact (congrArg (List.take taken.length) split).trans List.take_left

end Session

end SerialDialogue
