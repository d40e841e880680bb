import SerialDialogue.Proofs.Bound
import SerialDialogue.Proofs.Engine.Punctuality
import SerialDialogue.Proofs.Engine.Watching

/-!
# How far a monitor goes

A monitor that no bound of the run cuts takes the characters that its own bound allows, and shows
the lines that they complete.  A monitor for so many lines takes the characters through the newline
that completes the last of them.  One that goes on for some time takes all the characters that are
due before that time is over, and it ends with it, whatever has become of the stream.
-/

namespace SerialDialogue

/-- How long a monitor goes on that does not count lines. -/
def Bound.length? : Bound → Option Duration
  | indefinite => some indefiniteLength
  | duration length => some length
  | lines _ => none

namespace Bound

variable {bound : Bound} {length : Duration}

theorem deadline?_of_length (lasts : bound.length? = some length) (now : Nat) :
    bound.deadline? now = momentAfter? now length := by
  cases bound <;> cases lasts <;> rfl

theorem goal_of_length (lasts : bound.length? = some length) : bound.goal = .endless := by
  cases bound <;> cases lasts <;> rfl

theorem comesBy_deadline? (bound : Bound) (now : Nat) : comesBy now (bound.deadline? now) := by
  cases bound with
  | indefinite => exact comesBy_momentAfter? now indefiniteLength
  | duration length => exact comesBy_momentAfter? now length
  | lines number => rfl

end Bound

namespace Engine

/-- What comes of a monitor that no bound of the run cuts, where these are the characters that it
takes. -/
structure Monitored (engine : Engine) (bound : Bound) (taken : List (Nat × Char)) (heard : Heard)
    (ending : Ending) (next : Engine) : Prop
    extends Heeded engine bound.goal (bound.deadline? engine.clock) taken heard next where
  shown : next.shownSince engine =
    (engine.session.completed (taken.map Prod.snd)).map (.received .info .listener)
  ended : ending = heard.ending
  closing : ending = .done → next.past.head? = some (next.clock,
    .logged (bound.closing (.ofMillis (next.clock - engine.clock))
      ((taken.map Prod.snd).count '\n')))

theorem monitored_of_heeded {engine last : Engine} {raw : String} {bound : Bound}
    {taken : List (Nat × Char)} {heard : Heard}
    (followed : (engine.openMonitor raw bound).Followed .info last)
    (heeded : (engine.openMonitor raw bound).Heeded bound.goal (bound.deadline? engine.clock) taken
      heard last)
    (returns : heard.ending = .done) :
    engine.Monitored bound taken heard .done
      (last.forgetText.closeMonitor (engine.openMonitor raw bound) bound) := by
  have forgot : Quiet last last.forgetText := .of_past_eq (.of_eq rfl rfl) rfl
  have closing := forgot.trans (.closeMonitor last.forgetText (engine.openMonitor raw bound) bound)
  obtain ⟨takenEqual, shown⟩ := (engine.quiet_openMonitor raw bound).around followed.onward closing
  have seen : last.session.lineCount - engine.session.lineCount =
      (taken.map Prod.snd).count '\n' := by
    rw [followed.session, heeded.chars, Session.lineCount_pushAll]
    exact Nat.add_sub_cancel_left _ _
  refine ⟨⟨heeded.ahead, takenEqual.trans heeded.chars, heeded.early, heeded.counted,
    heeded.outcome⟩, ?_, returns.symm, fun _ => ?_⟩
  · rw [shown, followed.shown, heeded.chars]
    rfl
  · rw [← seen]
    rfl

theorem exists_monitored {engine next : Engine} {limits : Limits} {raw : String} {bound : Bound}
    {ending : Ending} (ends : engine.monitor limits raw bound = (ending, next))
    (someLines : bound ≠ .lines 0) (uncut : ending ≠ .cut) :
    ∃ taken heard, engine.Monitored bound taken heard ending next := by
  have opening := engine.quiet_openMonitor raw bound
  have followed := Followed.listen (engine.openMonitor raw bound) .info bound.goal
    (bound.deadline? engine.clock) limits.bound
  have heeds := (engine.openMonitor raw bound).exists_heeded_listen .info bound.goal
    limits.bound (bound.comesBy_deadline? engine.clock)
  rw [monitor_eq] at ends
  dsimp only at ends heeds
  rw [if_neg someLines, show (engine.openMonitor raw bound).clock = engine.clock from rfl] at ends
  generalize (engine.openMonitor raw bound).listen .info bound.goal
    (bound.deadline? engine.clock) limits.bound = heard at ends followed heeds
  obtain ⟨heard, last⟩ := heard
  have uncut' : heard ≠ .cut := by
    rintro rfl
    cases ends
    exact uncut rfl
  obtain ⟨taken, heeded⟩ := heeds uncut'
  refine ⟨taken, heard, ?_⟩
  cases heard with
  | reached =>
      cases ends
      exact monitored_of_heeded followed heeded rfl
  | late =>
      cases ends
      exact monitored_of_heeded followed heeded rfl
  | cut => exact absurd rfl uncut'
  | stuck =>
      cases ends
      obtain ⟨takenEqual, shown⟩ := opening.around followed.onward (.refl last)
      refine ⟨⟨heeded.ahead, takenEqual.trans heeded.chars, heeded.early, heeded.counted,
        heeded.outcome⟩, ?_, rfl, nofun⟩
      rw [shown, followed.shown, heeded.chars]
      rfl

namespace Monitored

variable {engine next : Engine} {bound : Bound} {taken : List (Nat × Char)} {heard : Heard}
  {ending : Ending}

/-- A monitor for so many lines is over with the newline that completes the last of them; where
there are not so many newlines ahead it waits for ever. -/
theorem of_lines {number : Nat}
    (monitored : engine.Monitored (.lines number) taken heard ending next) (positive : 0 < number) :
    ending = .done ∧ (taken.map Prod.snd).count '\n' = number ∧
        taken.getLast? = some (next.clock, '\n') ∨
      ending = .stuck ∧ next.ahead = [] ∧ (engine.ahead.map Prod.snd).count '\n' < number := by
  have counted := Session.counted_take engine.session positive ((engine.due none).map Prod.snd)
  have chars : taken.map Prod.snd = ((engine.due none).map Prod.snd).take
      (engine.session.take (.counted number) ((engine.due none).map Prod.snd)).count :=
    monitored.counted
  rw [← chars] at counted
  rcases monitored.outcome with ⟨rfl, reached, c, last⟩ | ⟨-, left, whole, expires⟩
  · obtain ⟨lines, newline⟩ := counted.reached reached
    rw [List.getLast?_map, last] at newline
    obtain rfl : c = '\n' := Option.some.inj newline
    exact .inl ⟨monitored.ended, lines, last⟩
  · obtain rfl : heard = .stuck := expires
    have few := counted.left left
    have split := monitored.ahead
    have all : taken = engine.ahead := whole.trans engine.due_none
    rw [all] at few split
    exact .inr ⟨monitored.ended, List.self_eq_append_right.1 split, few⟩

/-- A monitor that goes on for some time takes everything that is due before that is over. -/
theorem of_length {length : Duration} (monitored : engine.Monitored bound taken heard ending next)
    (lasts : bound.length? = some length) :
    taken = engine.due (momentAfter? engine.clock length) ∧
      (∀ late, momentAfter? engine.clock length = some late →
        ending = .done ∧ next.clock = late) ∧
      (momentAfter? engine.clock length = none → ending = .stuck ∧ next.ahead = []) := by
  rcases monitored.outcome with ⟨-, reached, -⟩ | ⟨-, -, whole, expires⟩
  · rw [bound.goal_of_length lasts, prospect_endless] at reached
    cases reached
  · have split := monitored.ahead
    rw [bound.deadline?_of_length lasts] at whole expires
    refine ⟨whole, fun late told => ?_, fun untold => ?_⟩
    · rw [told] at expires
      obtain ⟨rfl, clock⟩ : heard = .late ∧ next.clock = late := expires
      exact ⟨monitored.ended, clock⟩
    · rw [untold] at expires
      obtain rfl : heard = .stuck := expires
      rw [whole, untold, due_none] at split
      exact ⟨monitored.ended, List.self_eq_append_right.1 split⟩

end Monitored

/-- Monitors never fail.  One that is not cut takes characters from the front of what is ahead,
shows the lines that they complete, one for every newline, and reports their number when it ends.
A monitor for so many lines ends exactly if there are so many newlines ahead, with the newline that
completes the last line; otherwise it waits for ever.  Any other monitor takes all the characters
that are due before its time is over, and it ends just then; where the clock cannot tell that moment
it waits for ever. -/
theorem monitor_takes_its_bound (engine : Engine) (limits : Limits) (raw : String)
    (bound : Bound) :
    let ended := (engine.monitor limits raw bound).1
    let next := (engine.monitor limits raw bound).2
    (∀ failure, ended ≠ .failed failure) ∧
      (bound ≠ .lines 0 → ended ≠ .cut → ∃ taken,
        let chars := taken.map Prod.snd
        engine.ahead = taken ++ next.ahead ∧ next.takenSince engine = chars ∧
        next.shownSince engine =
          (engine.session.completed chars).map (.received .info .listener) ∧
        (engine.session.completed chars).length = chars.count '\n' ∧
        (ended = .done → next.past.head? = some (next.clock, .logged (bound.closing
          (.ofMillis (next.clock - engine.clock)) (chars.count '\n')))) ∧
        (∀ number, bound = .lines number →
          (ended = .done ↔ number ≤ (engine.ahead.map Prod.snd).count '\n') ∧
          (ended = .done → chars.count '\n' = number ∧
            taken.getLast? = some (next.clock, '\n')) ∧
          (ended ≠ .done → ended = .stuck ∧ next.ahead = [])) ∧
        ∀ length, bound.length? = some length →
          let deadline := momentAfter? engine.clock length
          taken = engine.due deadline ∧
          (∀ late, deadline = some late →
            late = engine.clock + length.ceilMillis ∧ ended = .done ∧ next.clock = late) ∧
          (deadline = none → ended = .stuck ∧ next.ahead = [])) := by
  intro ended next
  refine ⟨engine.monitor_ne_failed limits raw bound, fun someLines uncut => ?_⟩
  have ends : engine.monitor limits raw bound = (ended, next) := rfl
  obtain ⟨taken, heard, monitored⟩ := exists_monitored ends someLines uncut
  refine ⟨taken, monitored.ahead, monitored.chars, monitored.shown,
    Session.length_completed _ _, monitored.closing, ?_, ?_⟩
  · rintro number rfl
    have positive : 0 < number := Nat.pos_of_ne_zero fun zero => someLines (zero ▸ rfl)
    rcases monitored.of_lines positive with ⟨done, lines, last⟩ | ⟨stuck, nothing, few⟩
    · have enough : number ≤ (engine.ahead.map Prod.snd).count '\n' := by
        rw [monitored.ahead, List.map_append, List.count_append]
        omega
      exact ⟨iff_of_true done enough, fun _ => ⟨lines, last⟩, absurd done⟩
    · have notDone : ended ≠ .done := by simp [stuck]
      exact ⟨iff_of_false notDone (Nat.not_le.2 few), fun done => absurd done notDone,
        fun _ => ⟨stuck, nothing⟩⟩
  · intro length lasts
    obtain ⟨whole, inTime, never⟩ := monitored.of_length lasts
    exact ⟨whole, fun late told => ⟨momentAfter?_eq told, inTime late told⟩, never⟩

/-- Two lines come in behind the prompt, and a third one. -/
theorem monitor_two_lines :
    let device : Device := ⟨[], fun _ _ => .accepted []⟩
    let coming : List Arrival :=
      [⟨5, .bytes "a\nb".toUTF8.data.toList⟩, ⟨9, .bytes "\nc\n".toUTF8.data.toList⟩]
    let engine : Engine :=
      { channel := { device := device, coming := coming }, session := { line := "> " } }
    let result := engine.monitor ⟨.ofSeconds 1, none⟩ "2" (.lines 2)
    Bound.lines 2 ≠ .lines 0 ∧ result.1 ≠ .cut ∧ result.1 = .done ∧
      ∃ taken, engine.ahead = taken ++ result.2.ahead ∧
        (taken.map Prod.snd).count '\n' = 2 ∧ taken.getLast? = some (result.2.clock, '\n') := by
  intro device coming engine result
  have someLines : Bound.lines 2 ≠ .lines 0 := by decide
  have uncut : result.1 ≠ .cut := by decide +kernel
  have enough : 2 ≤ (engine.ahead.map Prod.snd).count '\n' := by decide +kernel
  obtain ⟨-, course⟩ := monitor_takes_its_bound engine ⟨.ofSeconds 1, none⟩ "2" (.lines 2)
  obtain ⟨taken, split, -, -, -, -, lines, -⟩ := course someLines uncut
  obtain ⟨ended, counted, -⟩ := lines 2 rfl
  have done := ended.2 enough
  obtain ⟨number, last⟩ := counted done
  exact ⟨someLines, uncut, done, taken, split, number, last⟩

/-! ## What a monitor leaves -/

/-- A monitor that has ended of its own leaves no text behind, unless it is for no lines at all:
then it leaves the session as it was.  What a later step matches with was taken behind the
monitor. -/
theorem monitor_clears (device : Device) (turns : List Turn) :
    let last := (ofDevice device).after turns
    (∃ deeds, Chronicle (ofDevice device) deeds last) ∧
      ∀ deeds, Chronicle (ofDevice device) deeds last →
        ∀ earlier watch behind, deeds = earlier ++ watch :: behind →
          ∀ raw bound, watch.step = .monitor raw bound → Bound.parse? raw = .ok bound →
            watch.ending = .done →
              (bound ≠ .lines 0 →
                watch.next.session.text = "" ∧ watch.next.session.lowered = "" ∧
                  ∀ between deed later, behind = between ++ deed :: later →
                    let since := (between ++ [deed]).flatMap Deed.taken
                    deed.heard.text.toList <:+ since ∧
                      deed.heard.lowered.toList <:+ Text.lowerEach since) ∧
              (bound = .lines 0 →
                watch.taken = [] ∧ watch.next.session = watch.engine.session) ∧
              (bound = .lines 0 ↔ Bound.Zeros raw.toList ∧ raw ≠ "0" ∨
                ∃ zeros, Bound.Zeros zeros ∧ raw.toList = '+' :: zeros) := by
  intro last
  refine ⟨chronicled_after (ofDevice device) turns, fun deeds chronicle => ?_⟩
  rintro earlier watch behind rfl raw bound step parsed done
  have watches : watch.Watches := Deed.Monitors.watches ⟨raw, bound, step⟩
  have forgets : watch.Forgets ↔ bound ≠ .lines 0 := by
    rw [Deed.Forgets, step]
    exact and_iff_right done
  refine ⟨fun someLines => ?_, fun noLines => ?_, ?_⟩
  · have did := forgets.2 someLines
    have cleared : watch.next.session = watch.heard.forgetText := by
      rcases watches.session with ⟨-, next⟩ | ⟨still, -⟩
      · exact next
      · exact absurd did still
    refine ⟨congrArg Session.text cleared, congrArg Session.lowered cleared, ?_⟩
    rintro between deed later rfl since
    obtain ⟨along, -⟩ := chronicle.split.2.split
    have remembers := (along.remembers_of_forgets ⟨watch, List.mem_cons_self, did⟩).pushAll
      deed.taken
    have together : between.flatMap Deed.taken ++ deed.taken = since := by simp [since]
    rw [together] at remembers
    exact ⟨remembers.text, remembers.lowered⟩
  · have still : ¬ watch.Forgets := fun did => forgets.1 did noLines
    have nothing : watch.taken = [] := by
      have returns : watch.ending.returns := by
        rw [done]
        trivial
      exact (watches.ended returns).resolve_left still
    refine ⟨nothing, ?_⟩
    rcases watches.session with ⟨did, -⟩ | ⟨-, next⟩
    · exact absurd did still
    · rw [next, Deed.heard, nothing, Session.pushAll_nil]
  · rw [← Bound.parse?_eq_lines_zero_iff, parsed, Except.ok.injEq]

namespace Leftover

/-- A monitor for no lines leaves what an expect that failed has left, and that is matched then. -/
theorem monitor_none_leaves_text :
    let engine := behind []
    let result := engine.run timeouts [.step (.monitor "00" (.lines 0))]
    Bound.parse? "00" = .ok (.lines 0) ∧ result.1 = .done ∧ result.2.session.text = "hello" ∧
      result.2.session.lowered = "hello" := by
  intro engine result
  have same := behind_eq [] (by decide +kernel)
  have zeros : Bound.Zeros "00".toList := by
    rw [show "00".toList = ['0', '0'] from rfl]
    simp [Bound.Zeros]
  refine ⟨Bound.parse?_eq_lines_zero_iff.2 (.inl ⟨zeros, by decide⟩), ?_⟩
  rw [show result = engine.run _ _ from rfl, show engine = _ from same]
  decide +kernel

end Leftover

end Engine

end SerialDialogue
