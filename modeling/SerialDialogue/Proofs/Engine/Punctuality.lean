import SerialDialogue.Proofs.Engine.Ahead
import SerialDialogue.Proofs.Engine.Following
import SerialDialogue.Proofs.Pattern

/-!
# When an expect is over

An expect that no bound cuts takes the characters that are due before its deadline, up to the first
one with which its pattern matches, and it is over at the moment of that one.  Where there is none
it takes them all, and it fails at the deadline, whatever has become of the stream.  A pattern that
matches already is not tested before the next character, so that an expect fails with it where no
character is due.
-/

namespace SerialDialogue

namespace Engine

/-- What comes of an expect that no bound cuts, where these are the characters that it takes. -/
structure Punctual (engine : Engine) (limits : Limits) (raw : String) (pattern : Pattern)
    (taken : List (Nat × Char)) (ended : Ending) (next : Engine) : Prop where
  ahead : engine.ahead = taken ++ next.ahead
  chars : next.takenSince engine = taken.map Prod.snd
  matched : ended = .done →
    taken <+: engine.due (momentAfter? engine.clock limits.receive) ∧
      Shortest (engine.session.MatchesBehind pattern) (taken.map Prod.snd) ∧
      (∃ c, taken.getLast? = some (next.clock, c)) ∧
      next.session = (engine.session.pushAll (taken.map Prod.snd)).forget
  missed : ended ≠ .done →
    taken = engine.due (momentAfter? engine.clock limits.receive) ∧
      Unmet (engine.session.MatchesBehind pattern) (taken.map Prod.snd) ∧
      next.session = engine.session.pushAll (taken.map Prod.snd)
  late : ended ≠ .done → ∀ late, momentAfter? engine.clock limits.receive = some late →
    ended = .failed (.receiveTimeout raw limits.receive) ∧ next.clock = late
  stuck : ended ≠ .done → momentAfter? engine.clock limits.receive = none → ended = .stuck

theorem exists_heeded_expect (engine : Engine) (limits : Limits) (raw : String)
    (pattern : Pattern) :
    ∃ heard last, (engine.log (.expecting raw)).Listened pattern heard last ∧
      (heard ≠ .cut → ∃ taken, (engine.log (.expecting raw)).Heeded (engine.expected pattern)
        (momentAfter? engine.clock limits.receive) taken heard last) ∧
      engine.expect limits raw pattern =
        whenHeard (fun engine => (.done, engine.forget.log (.matched raw)))
          (Activity.finish (.failed (.receiveTimeout raw limits.receive))) heard last :=
  ⟨_, _, (engine.log (.expecting raw)).listen_found .debug pattern
    (momentAfter? engine.clock limits.receive) limits.bound,
    (engine.log (.expecting raw)).exists_heeded_listen .debug (engine.expected pattern)
      limits.bound (comesBy_momentAfter? engine.clock limits.receive),
    engine.expect_eq limits raw pattern⟩

theorem exists_punctual {engine next : Engine} {limits : Limits} {raw : String}
    {pattern : Pattern} {ended : Ending}
    (ends : engine.expect limits raw pattern = (ended, next)) (uncut : ended ≠ .cut) :
    ∃ taken, engine.Punctual limits raw pattern taken ended next := by
  have opening : Quiet engine (engine.log (.expecting raw)) := .expecting engine raw
  obtain ⟨heard, last, listened, heeds, result⟩ :=
    engine.exists_heeded_expect limits raw pattern
  rw [result] at ends
  have uncut' : heard ≠ .cut := by
    rintro rfl
    cases ends
    exact uncut rfl
  obtain ⟨taken, heeded⟩ := heeds uncut'
  refine ⟨taken, ?_⟩
  rcases heeded.outcome with ⟨rfl, -, clock⟩ | ⟨unreached, -, whole, expires⟩
  · cases ends
    have chars := (opening.around listened.onward (.matched last raw)).1
    have shortest := listened.reached rfl
    have session := listened.session
    rw [heeded.chars] at chars shortest session
    refine ⟨heeded.ahead, chars, fun _ => ?_, absurd rfl, absurd rfl, absurd rfl⟩
    exact ⟨heeded.early, shortest, clock, congrArg Session.forget session⟩
  · have unmet := listened.missed unreached
    have session := listened.session
    have chars := (opening.around listened.onward (.refl last)).1
    rw [heeded.chars] at unmet session chars
    cases told : momentAfter? engine.clock limits.receive with
    | none =>
        rw [told] at expires
        obtain rfl : heard = .stuck := expires
        cases ends
        refine ⟨heeded.ahead, chars, nofun, fun _ => ⟨whole, unmet, session⟩, ?_, fun _ _ => rfl⟩
        exact fun _ late told' => nomatch told.symm.trans told'
    | some late =>
        rw [told] at expires
        obtain ⟨rfl, clock⟩ : heard = .late ∧ last.clock = late := expires
        cases ends
        refine ⟨heeded.ahead, chars, nofun, fun _ => ⟨whole, unmet, session⟩, ?_, ?_⟩
        · intro _ late' told'
          exact ⟨rfl, clock.trans (Option.some.inj (told.symm.trans told'))⟩
        · exact fun _ told' => nomatch told.symm.trans told'

/-- An expect has its match exactly if some of the first characters that are due make the pattern
match. -/
theorem Punctual.done_iff {engine next : Engine} {limits : Limits} {raw : String}
    {pattern : Pattern} {taken : List (Nat × Char)} {ended : Ending}
    (punctual : engine.Punctual limits raw pattern taken ended next) :
    ended = .done ↔ ∃ early, early <+: engine.due (momentAfter? engine.clock limits.receive) ∧
      early ≠ [] ∧ engine.session.MatchesBehind pattern (early.map Prod.snd) := by
  constructor
  · intro done
    obtain ⟨early, shortest, -⟩ := punctual.matched done
    exact ⟨taken, early, by simpa using shortest.1, shortest.2.1⟩
  · intro met
    obtain ⟨early, within, nonempty, passes⟩ := met
    refine Classical.byContradiction fun notDone => ?_
    obtain ⟨whole, unmet, -⟩ := punctual.missed notDone
    rw [whole] at unmet
    exact unmet (early.map Prod.snd) (within.map Prod.snd) (by simpa using nonempty) passes

/-- An expect that no bound cuts.  It has its match exactly if some of the first characters that
are due before the deadline make the pattern match, the queued ones at once and the others as they
come.  Then it takes the fewest such characters, it is over with the last one of them, and nothing
of them is left to be matched.  Otherwise it takes all the characters that are due and fails at the
deadline, or waits for ever where the clock cannot tell it. -/
theorem expect_punctual (engine : Engine) (limits : Limits) (raw : String) (pattern : Pattern)
    (uncut : (engine.expect limits raw pattern).1 ≠ .cut) :
    let ended := (engine.expect limits raw pattern).1
    let next := (engine.expect limits raw pattern).2
    let deadline := momentAfter? engine.clock limits.receive
    let due := engine.due deadline
    (ended = .done ↔ ∃ early, early <+: due ∧ early ≠ [] ∧
        engine.session.MatchesBehind pattern (early.map Prod.snd)) ∧
      ∃ taken,
        engine.ahead = taken ++ next.ahead ∧ next.takenSince engine = taken.map Prod.snd ∧
        (ended = .done →
          taken <+: due ∧ Shortest (engine.session.MatchesBehind pattern) (taken.map Prod.snd) ∧
            (∃ c, taken.getLast? = some (next.clock, c)) ∧
            next.session.text = "" ∧ next.session.lowered = "" ∧ next.session.line = "") ∧
        (ended ≠ .done → taken = due) ∧
        (ended ≠ .done → ∀ late, deadline = some late →
          late = engine.clock + limits.receive.ceilMillis ∧
            ended = .failed (.receiveTimeout raw limits.receive) ∧ next.clock = late) ∧
        (ended ≠ .done → deadline = none → ended = .stuck ∧ next.ahead = []) := by
  intro ended next deadline due
  obtain ⟨taken, punctual⟩ : ∃ taken, engine.Punctual limits raw pattern taken ended next :=
    exists_punctual rfl uncut
  refine ⟨punctual.done_iff, taken, punctual.ahead, punctual.chars, fun done => ?_,
    fun notDone => (punctual.missed notDone).1, fun notDone late told => ?_,
    fun notDone untold => ?_⟩
  · obtain ⟨early, shortest, clock, session⟩ := punctual.matched done
    refine ⟨early, shortest, clock, ?_, ?_, ?_⟩
    · exact congrArg Session.text session
    · exact congrArg Session.lowered session
    · exact congrArg Session.line session
  · exact ⟨momentAfter?_eq told, punctual.late notDone late told⟩
  · have whole := punctual.ahead
    rw [(punctual.missed notDone).1,
      show momentAfter? engine.clock limits.receive = none from untold, due_none] at whole
    exact ⟨punctual.stuck notDone untold, List.self_eq_append_right.1 whole⟩

/-- A prompt comes in two pieces, five milliseconds after the expect begins. -/
theorem expect_prompt :
    let device : Device := ⟨[], fun _ _ => .accepted []⟩
    let coming : List Arrival :=
      [⟨5, .bytes "o".toUTF8.data.toList⟩, ⟨5, .bytes "k>".toUTF8.data.toList⟩]
    let engine : Engine := { channel := { device := device, coming := coming } }
    let result := engine.expect ⟨.ofSeconds 1, none⟩ "\"ok\"" ⟨"ok", .lineStart "ok"⟩
    result.1 ≠ .cut ∧ result.1 = .done ∧ result.2.session.text = "" ∧
      ∃ taken, [(5, 'o'), (5, 'k'), (5, '>')] = taken ++ result.2.ahead ∧
        ∃ c, taken.getLast? = some (result.2.clock, c) := by
  intro device coming engine result
  have uncut : result.1 ≠ .cut := by decide +kernel
  have aheadEqual : engine.ahead = [(5, 'o'), (5, 'k'), (5, '>')] := by decide +kernel
  have dueEqual : engine.due (momentAfter? engine.clock (.ofSeconds 1)) = engine.ahead := by
    decide +kernel
  obtain ⟨ended, taken, split, -, matched, -⟩ := expect_punctual engine ⟨.ofSeconds 1, none⟩
    "\"ok\"" ⟨"ok", .lineStart "ok"⟩ uncut
  have done := ended.2 ⟨[(5, 'o'), (5, 'k')], by rw [dueEqual, aheadEqual]; decide, by decide,
    by unfold Session.MatchesBehind; decide +kernel⟩
  obtain ⟨-, -, last, text, -⟩ := matched done
  exact ⟨uncut, done, text, taken, aheadEqual ▸ split, last⟩

/-! ## A pattern that matches already -/

end Engine

/-- A pattern that matches goes on to match with one more character, unless it is a regular
expression, as long as the text is not cut and the line not completed. -/
theorem Session.matchesBehind_of_isMatch {session : Session} {pattern : Pattern} {c : Char}
    (met : session.isMatch pattern)
    (goesOn : pattern.kind = .substring ∧ (session.text.push c).utf8ByteSize ≤ Session.limit ∨
      pattern.kind = .lineStart ∧ c ≠ '\n') :
    session.MatchesBehind pattern [c] := by
  rw [MatchesBehind, pushAll_cons, pushAll_nil]
  rcases goesOn with ⟨substring, fits⟩ | ⟨lineStart, inLine⟩
  · refine Pattern.matchesLowered_of_prefix substring ?_ met
    rw [lowered_push, (extend_of_le fits).2]
    exact List.prefix_append _ _
  · rw [isMatch, line_push, if_neg inLine]
    exact Pattern.matchesLowered_push lineStart c met

namespace Engine

/-- An expect whose pattern matches already when it begins.  The pattern is tested only behind
another character: where no character is due the expect fails, and it leaves the session as it was.
It has its match with the first character that is due, if the pattern still matches behind it.  It
does so unless the pattern is a regular expression, the text grows past its limit or the line is
over.  In general it has its match exactly if some of the first characters that are due make the
pattern match. -/
theorem expect_of_isMatch (engine : Engine) (limits : Limits) (raw : String) (pattern : Pattern)
    (met : engine.session.isMatch pattern)
    (uncut : (engine.expect limits raw pattern).1 ≠ .cut) :
    let ended := (engine.expect limits raw pattern).1
    let next := (engine.expect limits raw pattern).2
    let deadline := momentAfter? engine.clock limits.receive
    let due := engine.due deadline
    (due = [] →
        ended = deadline.elim .stuck (fun _ => .failed (.receiveTimeout raw limits.receive)) ∧
          next.session = engine.session) ∧
      (∀ time c later, due = (time, c) :: later → engine.session.MatchesBehind pattern [c] →
        ended = .done ∧ next.takenSince engine = [c] ∧ next.clock = time) ∧
      (∀ c, pattern.kind = .substring ∧ (engine.session.text.push c).utf8ByteSize ≤ Session.limit ∨
          pattern.kind = .lineStart ∧ c ≠ '\n' →
        engine.session.MatchesBehind pattern [c]) ∧
      (ended = .done ↔ ∃ early, early <+: due ∧ early ≠ [] ∧
        engine.session.MatchesBehind pattern (early.map Prod.snd)) := by
  intro ended next deadline due
  have ends : engine.expect limits raw pattern = (ended, next) := rfl
  obtain ⟨taken, punctual⟩ := exists_punctual ends uncut
  refine ⟨fun nothing => ?_, fun time c later first matching => ?_,
    fun c goesOn => Session.matchesBehind_of_isMatch met goesOn, punctual.done_iff⟩
  · have notDone : ended ≠ .done := by
      intro done
      obtain ⟨early, shortest, -⟩ := punctual.matched done
      rw [show engine.due _ = [] from nothing, List.prefix_nil] at early
      exact shortest.1 (congrArg (List.map Prod.snd) early)
    obtain ⟨whole, -, session⟩ := punctual.missed notDone
    rw [whole, show engine.due _ = [] from nothing] at session
    refine ⟨?_, session⟩
    cases told : deadline with
    | none => exact punctual.stuck notDone told
    | some late => exact (punctual.late notDone late told).1
  · have here : [(time, c)] <+: due := first ▸ List.prefix_append [(time, c)] later
    have done : ended = .done :=
      punctual.done_iff.2 ⟨_, here, List.cons_ne_nil _ _, matching⟩
    obtain ⟨early, shortest, ⟨last, clock⟩, -⟩ := punctual.matched done
    have only : taken.map Prod.snd = [c] :=
      shortest.unique (.singleton matching) (early.map Prod.snd) (here.map Prod.snd)
    have length : taken.length = 1 := by simpa using congrArg List.length only
    have same : taken = [(time, c)] :=
      (List.prefix_of_prefix_length_le early here (Nat.le_of_eq length)).eq_of_length length
    rw [same] at clock
    exact ⟨done, punctual.chars.trans only, (congrArg Prod.fst (Option.some.inj clock)).symm⟩

/-! ### A text that is left over

A device says hello while something else is expected of it, and the expect fails.  The next one
finds what was said in the session. -/

namespace Leftover

def device (more : List Arrival) : Device where
  feed := ⟨0, .bytes "hello".toUTF8.data.toList⟩ :: more
  receive _ _ := .accepted []

def timeouts : Timeouts :=
  ⟨.ofMillis 10000, .ofMillis 1000⟩

def other : Pattern :=
  ⟨"never", .lineStart "never"⟩

/-- The first run has failed. -/
def behind (more : List Arrival) : Engine :=
  (ofDevice (device more)).after [.run timeouts [.step (.expect "\"never\"" other)]]

theorem behind_eq (more : List Arrival)
    (inOrder : (device more).feed.Pairwise fun first second => first.time ≤ second.time) :
    behind more = Engine.after
      { channel := { device := device more, coming := (device more).feed } }
      [.run timeouts [.step (.expect "\"never\"" other)]] := by
  rw [behind, ofDevice_of_pairwise inOrder]

/-- The device speaks again, and the expect has its match with what it says. -/
theorem expect_greeting_further :
    let engine := behind [⟨1500, .bytes "!".toUTF8.data.toList⟩]
    let greeting : Pattern := ⟨"hello", .lineStart "hello"⟩
    let result := engine.expect ⟨.ofSeconds 1, none⟩ "\"hello\"" greeting
    engine.session.isMatch greeting ∧ result.1 ≠ .cut ∧ result.1 = .done ∧
      result.2.takenSince engine = ['!'] ∧ result.2.clock = 1500 := by
  intro engine greeting result
  have same := behind_eq [⟨1500, .bytes "!".toUTF8.data.toList⟩] (by decide +kernel)
  have met : engine.session.isMatch greeting := by
    rw [show engine = _ from same]
    decide +kernel
  have uncut : result.1 ≠ .cut := by
    rw [show result = engine.expect _ _ _ from rfl, show engine = _ from same]
    decide +kernel
  have dueEqual : engine.due (momentAfter? engine.clock (.ofSeconds 1)) = [(1500, '!')] := by
    rw [show engine = _ from same]
    decide +kernel
  obtain ⟨-, matched, goesOn, -⟩ := expect_of_isMatch engine ⟨.ofSeconds 1, none⟩ "\"hello\""
    greeting met uncut
  exact ⟨met, uncut, matched 1500 '!' [] dueEqual (goesOn '!' (.inr (by decide)))⟩

def greeting : Pattern :=
  .ofSubstring "hello"

/-- The device says nothing more: the expect fails, though the text is there. -/
theorem expect_greeting_failed :
    let engine := behind []
    Pattern.compile? "\"never\"" = .ok other ∧ Pattern.compile? "'hello'" = .ok greeting ∧
      engine.session.isMatch greeting ∧
      (engine.run timeouts [.step (.expect "'hello'" greeting)]).1 =
        .failed (.command 0 "expect 'hello'" (.receiveTimeout "'hello'" timeouts.receive)) := by
  intro engine
  have same := behind_eq [] (by decide +kernel)
  have lowered : engine.session.lowered = "hello" := by
    rw [show engine = _ from same]
    decide +kernel
  have needle : Text.lowercase "hello" = "hello" := by
    rw [← String.toList_inj, Text.lowercase_toList]
    decide +kernel
  refine ⟨rfl, Pattern.compile?_quoted "hello", ?_, ?_⟩
  · rw [Session.isMatch, greeting, Pattern.matchesLowered_ofSubstring, lowered, needle]
    exact String.contains_string_iff.2 List.infix_rfl
  · rw [show engine = _ from same]
    decide +kernel

end Leftover

end Engine

end SerialDialogue
