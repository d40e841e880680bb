import SerialDialogue.Proofs.Engine.Flow
import SerialDialogue.Proofs.Engine.Onward
import SerialDialogue.Proofs.Session.FirstMatch

/-!
# What an expect hears

The characters that an engine took into its session since an earlier moment can be read off its
past (`Engine.takenSince`).  Listening for a pattern pushes just these into the session, and it
is over with the first of them behind which the pattern matches.
-/

namespace SerialDialogue

/-- The characters that were taken, in their order. -/
def takenChars (past : List (Nat × Event)) : List Char :=
  (reportedMoves past).flatMap Move.chars

theorem takenChars_eq_told (past : List (Nat × Event)) :
    takenChars past = told (fun event => event.moves.flatMap Move.chars) past :=
  flatMap_reportedMoves Move.chars past

namespace Engine

/-- The characters that were taken into the session since the engine was `start`. -/
def takenSince (engine start : Engine) : List Char :=
  takenChars (engine.since start)

theorem Onward.takenSince_trans {first second third : Engine} (earlier : Onward first second)
    (later : Onward second third) :
    third.takenSince first = second.takenSince first ++ third.takenSince second := by
  simp only [takenSince, takenChars_eq_told, earlier.told_since _ later]

theorem takenSince_of_past_eq {engine start : Engine} (past : engine.past = start.past) :
    engine.takenSince start = [] := by
  rw [takenSince, since_of_past_eq past]
  rfl

theorem takenSince_note {event : Event} (silent : event.moves = []) (engine : Engine) :
    (engine.note event).takenSince engine = [] := by
  rw [takenSince, takenChars_eq_told, told_since_note, silent]
  rfl

theorem takenChars_log (engine : Engine) (entry : LogEntry) :
    takenChars (engine.log entry).past = takenChars engine.past := by
  simp [Engine.log, note, takenChars, reportedMoves, Event.moves]

theorem Onward.takenChars_eq {first second : Engine} (onward : Onward first second) :
    takenChars second.past = takenChars first.past ++ second.takenSince first := by
  simp only [takenSince, takenChars_eq_told, onward.told_past]

theorem takenSince_readBy (engine : Engine) (time : Nat) :
    (engine.readBy time).takenSince engine = [] := by
  rw [takenSince, takenChars_eq_told, told_since_readBy]
  exact List.flatMap_eq_nil_iff.2 fun _ _ => rfl

theorem takenSince_hear (engine : Engine) (level : Level) (goal : Goal) :
    (engine.hear level goal).2.takenSince engine =
      engine.queue.take (engine.session.take goal engine.queue).count := by
  rw [takenSince, takenChars_eq_told, told_moves_since_hear]
  exact List.flatMap_singleton' _

theorem hear_singleton {engine : Engine} {pattern : Pattern} {c : Char}
    (queue : engine.queue = [c]) (matching : engine.session.MatchesBehind pattern [c])
    (level : Level) :
    (engine.hear level (engine.expected pattern)).1 = none ∧
      (engine.hear level (engine.expected pattern)).2.takenSince engine = [c] := by
  obtain ⟨taken, split, counted, -, sought⟩ :=
    engine.session.exists_take_found pattern engine.queue
  have reached : (engine.hear level (engine.expected pattern)).1 = none := by
    refine Classical.byContradiction fun left => ?_
    obtain ⟨-, nothing, unmet⟩ := sought.left left
    obtain rfl : [c] = taken := by rw [← queue, split, nothing, List.append_nil]
    exact unmet [c] List.prefix_rfl (List.cons_ne_nil c []) matching
  have early : taken <+: [c] := ⟨_, (queue.symm.trans split).symm⟩
  have nonempty := (sought.reached reached).1
  refine ⟨reached, (engine.takenSince_hear level _).trans (counted.trans ?_)⟩
  exact early.eq_of_length_le (List.length_pos_iff.2 nonempty)

/-- What comes of listening for a pattern. -/
structure Listened (engine : Engine) (pattern : Pattern) (heard : Heard) (next : Engine) :
    Prop where
  onward : Onward engine next
  /-- What was taken was pushed into the session. -/
  session : next.session = engine.session.pushAll (next.takenSince engine)
  /-- Listening is over with the first characters with which the pattern matches. -/
  reached : heard = .reached →
    Shortest (engine.session.MatchesBehind pattern) (next.takenSince engine)
  /-- Otherwise the pattern did not match. -/
  missed : heard ≠ .reached →
    Unmet (engine.session.MatchesBehind pattern) (next.takenSince engine)

section Hear

variable {engine : Engine} {level : Level} {pattern : Pattern}

theorem listened_hear (heard : Heard) (other : heard = .reached ↔
    (engine.hear level (engine.expected pattern)).1 = none) :
    engine.Listened pattern heard (engine.hear level (engine.expected pattern)).2 := by
  obtain ⟨taken, -, counted, pushed, sought⟩ :=
    engine.session.exists_take_found pattern engine.queue
  have same := (engine.takenSince_hear level (engine.expected pattern)).trans counted
  refine ⟨engine.onward_hear level _, pushed.trans (same ▸ rfl), fun reached => ?_,
    fun missed => ?_⟩
  · exact same ▸ sought.reached (other.1 reached)
  · exact same ▸ (sought.left (mt other.2 missed)).2.2

theorem listened_hear_of_some {left : Goal}
    (goalLeft : (engine.hear level (engine.expected pattern)).1 = some left) {heard : Heard}
    (missed : heard ≠ .reached) :
    engine.Listened pattern heard (engine.hear level (engine.expected pattern)).2 :=
  listened_hear heard ⟨fun reached => absurd reached missed,
    fun goalMet => nomatch goalLeft.symm.trans goalMet⟩

/-- What is left of the goal is to find the pattern, with the line as it is now. -/
theorem hear_eq_some {left : Goal}
    (goalLeft : (engine.hear level (engine.expected pattern)).1 = some left) :
    left = (engine.hear level (engine.expected pattern)).2.expected pattern ∧
      (engine.hear level (engine.expected pattern)).2.queue = [] := by
  obtain ⟨taken, -, -, pushed, sought⟩ := engine.session.exists_take_found pattern engine.queue
  obtain ⟨goal, nothing, -⟩ := sought.left fun goalMet => nomatch goalLeft.symm.trans goalMet
  refine ⟨Option.some.inj (goalLeft.symm.trans (goal.trans ?_)), nothing⟩
  rw [← pushed]
  rfl

end Hear

/-- Listening goes on where it was, if nothing was taken since. -/
theorem Listened.trans {engine next third last : Engine} {pattern : Pattern} {heard : Heard}
    (earlier : engine.Listened pattern .late next) (between : Onward next third)
    (silent : third.takenSince next = []) (session : third.session = next.session)
    (later : third.Listened pattern heard last) : engine.Listened pattern heard last := by
  have onward := earlier.onward.trans between
  have taken : last.takenSince engine = next.takenSince engine ++ last.takenSince third := by
    rw [onward.takenSince_trans later.onward, earlier.onward.takenSince_trans between, silent,
      List.append_nil]
  have behind : third.session.MatchesBehind pattern =
      fun rest => engine.session.MatchesBehind pattern (next.takenSince engine ++ rest) := by
    funext rest
    rw [Session.MatchesBehind, Session.MatchesBehind, Session.pushAll_append, session,
      ← earlier.session]
  have unmet := earlier.missed (by simp)
  refine ⟨onward.trans later.onward, ?_, fun reached => ?_, fun missed => ?_⟩
  · rw [later.session, session, earlier.session, taken, Session.pushAll_append]
  · rw [taken]
    exact .append unmet (behind ▸ later.reached reached)
  · rw [taken]
    exact .append unmet (behind ▸ later.missed missed)

theorem Listened.passTo {engine next : Engine} {pattern : Pattern} {heard : Heard}
    (listened : engine.Listened pattern heard next) (time : Nat) :
    engine.Listened pattern heard (next.passTo time) where
  onward := listened.onward.trans (next.onward_passTo time)
  session := listened.session
  reached := listened.reached
  missed := listened.missed

/-- Listening for a pattern is over with the first characters with which it matches. -/
theorem listen_found (engine : Engine) (level : Level) (pattern : Pattern)
    (deadline bound : Option Nat) :
    let result := engine.listen level (engine.expected pattern) deadline bound
    engine.Listened pattern result.1 result.2 := by
  suffices ∀ goal, goal = engine.expected pattern →
      engine.Listened pattern (engine.listen level goal deadline bound).1
        (engine.listen level goal deadline bound).2 from this _ rfl
  intro goal
  fun_induction listen engine level goal deadline bound with
  | case1 engine goal heard reached =>
      rintro rfl
      exact listened_hear .reached ⟨fun _ => reached, fun _ => rfl⟩
  | case2 engine goal heard left goalLeft time wake ih =>
      rintro rfl
      have listened : engine.Listened pattern .late heard.2 :=
        listened_hear_of_some goalLeft (by simp)
      exact listened.trans (heard.2.onward_readBy time) (heard.2.takenSince_readBy time) rfl
        (ih (hear_eq_some goalLeft).1)
  | case3 engine goal heard left goalLeft time wake =>
      rintro rfl
      have listened : engine.Listened pattern .late heard.2 :=
        listened_hear_of_some goalLeft (by simp)
      exact listened.passTo time
  | case4 engine goal heard left goalLeft time wake =>
      rintro rfl
      have listened : engine.Listened pattern .cut heard.2 :=
        listened_hear_of_some goalLeft (by simp)
      exact listened.passTo time
  | case5 engine goal heard left goalLeft wake =>
      rintro rfl
      exact listened_hear_of_some goalLeft (by simp)

end Engine

end SerialDialogue
