import Mathlib.Data.List.Basic
import SerialDialogue.Proofs.Engine.Chronicle
import SerialDialogue.Proofs.Session.Completion

/-!
# What a step leaves behind

Whatever an engine listens for, the characters that it takes are pushed into its session, and the
lines that they complete are shown (`Engine.Followed`).  A step adds to this that the session may
forget its text in the end: an expect makes it forget when it had its match, and a monitor when
it ended of its own (`Deed.session_next`).
-/

namespace SerialDialogue

/-- The entry that shows a line, if the event is one. -/
def Event.shown? : Event → Option LogEntry
  | .logged entry => if entry.speaker = .listener then some entry else none
  | _ => none

/-- The entries that show lines, in their order. -/
def shownEntries (past : List (Nat × Event)) : List LogEntry :=
  past.reverse.filterMap fun happened => happened.2.shown?

theorem shownEntries_eq_told (past : List (Nat × Event)) :
    shownEntries past = told (fun event => event.shown?.toList) past :=
  List.filterMap_eq_flatMap_toList ..

namespace Engine

/-- The lines that were shown since the engine was `start`. -/
def shownSince (engine start : Engine) : List LogEntry :=
  shownEntries (engine.since start)

theorem Onward.shownSince_trans {first second third : Engine} (earlier : Onward first second)
    (later : Onward second third) :
    third.shownSince first = second.shownSince first ++ third.shownSince second := by
  simp only [shownSince, shownEntries_eq_told, earlier.told_since _ later]

/-! ## Listening -/

/-- The second engine is the first one at a later moment, and has neither taken characters nor
shown a line since. -/
structure Quiet (first second : Engine) : Prop where
  onward : Onward first second
  taken : second.takenSince first = []
  shown : second.shownSince first = []

namespace Quiet

variable {first second third : Engine}

theorem of_past_eq (onward : Onward first second) (past : second.past = first.past) :
    Quiet first second where
  onward := onward
  taken := takenSince_of_past_eq past
  shown := by rw [shownSince, since_of_past_eq past]; rfl

theorem refl (engine : Engine) : Quiet engine engine :=
  .of_past_eq (.refl engine) rfl

theorem note {event : Event} (silent : event.moves = []) (hidden : event.shown? = none)
    (engine : Engine) : Quiet engine (engine.note event) where
  onward := engine.onward_note event
  taken := takenSince_note silent engine
  shown := by
    rw [shownSince, shownEntries_eq_told, told_since_note, hidden]
    rfl

theorem log {entry : LogEntry} (other : entry.speaker ≠ .listener) (engine : Engine) :
    Quiet engine (engine.log entry) := by
  have hidden : (Event.logged entry).shown? = none := if_neg other
  exact .note rfl hidden engine

theorem closeMonitor (engine opened : Engine) (bound : Bound) :
    Quiet engine (engine.closeMonitor opened bound) := by
  refine .log ?_ engine
  cases bound <;> nofun

theorem expecting (engine : Engine) (raw : String) :
    Quiet engine (engine.log (.expecting raw)) :=
  .log (by simp [LogEntry.expecting, LogEntry.info]) engine

theorem readBy (engine : Engine) (time : Nat) : Quiet engine (engine.readBy time) where
  onward := engine.onward_readBy time
  taken := engine.takenSince_readBy time
  shown := by
    rw [shownSince, shownEntries_eq_told, told_since_readBy]
    exact List.flatMap_eq_nil_iff.2 fun _ _ => rfl

theorem trans (earlier : Quiet first second) (later : Quiet second third) :
    Quiet first third where
  onward := earlier.onward.trans later.onward
  taken := by rw [earlier.onward.takenSince_trans later.onward, earlier.taken, later.taken]; rfl
  shown := by rw [earlier.onward.shownSince_trans later.onward, earlier.shown, later.shown]; rfl

theorem matched (engine : Engine) (raw : String) :
    Quiet engine (engine.forget.log (.matched raw)) := by
  have forgot : Quiet engine engine.forget := .of_past_eq (.of_eq rfl rfl) rfl
  exact forgot.trans (.log (by simp [LogEntry.matched, LogEntry.info]) _)

/-- Between quiet changes the same characters are taken and the same lines shown. -/
theorem around {opened last : Engine} (opening : Quiet first opened) (onward : Onward opened last)
    (closing : Quiet last second) :
    second.takenSince first = last.takenSince opened ∧
      second.shownSince first = last.shownSince opened := by
  have behind := onward.trans closing.onward
  refine ⟨?_, ?_⟩
  · rw [opening.onward.takenSince_trans behind, onward.takenSince_trans closing.onward,
      opening.taken, closing.taken, List.nil_append, List.append_nil]
  · rw [opening.onward.shownSince_trans behind, onward.shownSince_trans closing.onward,
      opening.shown, closing.shown, List.nil_append, List.append_nil]

end Quiet

/-- What comes of taking characters, for whatever goal: they are pushed into the session, and the
lines that they complete are shown. -/
structure Followed (engine : Engine) (level : Level) (next : Engine) : Prop where
  onward : Onward engine next
  session : next.session = engine.session.pushAll (next.takenSince engine)
  shown : next.shownSince engine =
    (engine.session.completed (next.takenSince engine)).map (.received level .listener)

namespace Followed

variable {engine next last : Engine} {level : Level}

theorem of_quiet (quiet : Quiet engine next) (session : next.session = engine.session)
    (level : Level) : engine.Followed level next where
  onward := quiet.onward
  session := by rw [quiet.taken, session]; rfl
  shown := by rw [quiet.taken, quiet.shown]; rfl

theorem trans (earlier : engine.Followed level next) (later : next.Followed level last) :
    engine.Followed level last where
  onward := earlier.onward.trans later.onward
  session := by
    rw [later.session, earlier.session, earlier.onward.takenSince_trans later.onward,
      Session.pushAll_append]
  shown := by
    rw [earlier.onward.shownSince_trans later.onward, earlier.shown, later.shown,
      earlier.onward.takenSince_trans later.onward, Session.completed_append, List.map_append,
      earlier.session]

theorem hear (engine : Engine) (level : Level) (goal : Goal) :
    engine.Followed level (engine.hear level goal).2 := by
  have taken := engine.takenSince_hear level goal
  refine ⟨engine.onward_hear level goal, ?_, ?_⟩
  · obtain ⟨before, -, counted, pushed⟩ := engine.session.exists_take goal engine.queue
    rw [taken, counted]
    exact pushed
  · rw [taken, ← Session.lines_take, shownSince, shownEntries_eq_told, told_since_hear]
    exact List.map_eq_flatMap.symm

theorem listen (engine : Engine) (level : Level) (goal : Goal) (deadline bound : Option Nat) :
    engine.Followed level (engine.listen level goal deadline bound).2 := by
  fun_induction Engine.listen engine level goal deadline bound with
  | case1 engine goal heard reached => exact .hear engine level goal
  | case2 engine goal heard left goalLeft time wake ih =>
      have read : heard.2.Followed level (heard.2.readBy time) := .of_quiet (.readBy _ time) rfl _
      exact (hear engine level goal).trans (read.trans ih)
  | case3 engine goal heard left goalLeft time wake =>
      exact (hear engine level goal).trans
        (.of_quiet (.of_past_eq (heard.2.onward_passTo time) rfl) rfl _)
  | case4 engine goal heard left goalLeft time wake =>
      exact (hear engine level goal).trans
        (.of_quiet (.of_past_eq (heard.2.onward_passTo time) rfl) rfl _)
  | case5 engine goal heard left goalLeft wake => exact .hear engine level goal

end Followed

end Engine

/-! ## Steps -/

namespace Deed

def shown (deed : Deed) : List LogEntry :=
  deed.next.shownSince deed.engine

/-- The step made the session forget its text: an expect that had its match, or a monitor that
ended of its own.  A monitor for no lines at all takes and forgets nothing. -/
def Forgets (deed : Deed) : Prop :=
  deed.ending = .done ∧
    match deed.step with
    | .send _ => False
    | .expect _ _ => True
    | .monitor _ bound => bound ≠ .lines 0

def Monitors (deed : Deed) : Prop :=
  ∃ raw bound, deed.step = .monitor raw bound

end Deed

namespace Engine

theorem quiet_send (engine : Engine) (limits : Limits) (text : String) :
    Quiet engine (engine.send limits text).2 ∧
      (engine.send limits text).2.session = engine.session := by
  have logged : Quiet engine (engine.log (.sent text)) :=
    .log (by simp [LogEntry.sent, LogEntry.info]) engine
  have sent : Quiet engine ((engine.log (.sent text)).noteSending text) :=
    logged.trans (.of_past_eq (.of_eq rfl rfl) rfl)
  unfold send
  split
  · rename_i replies _
    let wrote := ((engine.log (.sent text)).noteSending text).note (.wrote text)
    have noted : Quiet engine wrote := sent.trans (.note rfl rfl _)
    have more : Quiet wrote (wrote.expectMore replies) := .of_past_eq (.of_eq rfl rfl) rfl
    exact ⟨noted.trans more, rfl⟩
  · exact ⟨sent, rfl⟩
  · exact ⟨sent, rfl⟩
  · unfold stall
    split
    · exact ⟨logged.trans (.readBy _ _), rfl⟩
    · exact ⟨logged.trans (.readBy _ _), rfl⟩

theorem exists_followed_expect {engine next : Engine} {limits : Limits} {raw : String}
    {pattern : Pattern} {ending : Ending}
    (ends : engine.expect limits raw pattern = (ending, next)) :
    ∃ heard, engine.Followed .debug heard ∧
      (ending = .done ∧ next = heard.forget.log (.matched raw) ∨
        ending ≠ .done ∧ next = heard) := by
  have opened : engine.Followed .debug (engine.log (.expecting raw)) :=
    .of_quiet (.expecting engine raw) rfl _
  have listened := Followed.listen (engine.log (.expecting raw)) .debug (engine.expected pattern)
    (momentAfter? engine.clock limits.receive) limits.bound
  rw [expect_eq] at ends
  dsimp only at ends
  generalize (engine.log (.expecting raw)).listen .debug (engine.expected pattern)
    (momentAfter? engine.clock limits.receive) limits.bound = heard at ends listened
  obtain ⟨heard, last⟩ := heard
  refine ⟨last, opened.trans listened, ?_⟩
  cases heard with
  | reached => cases ends; exact .inl ⟨rfl, rfl⟩
  | late => cases ends; exact .inr ⟨nofun, rfl⟩
  | cut => cases ends; exact .inr ⟨nofun, rfl⟩
  | stuck => cases ends; exact .inr ⟨nofun, rfl⟩

theorem quiet_openMonitor (engine : Engine) (raw : String) (bound : Bound) :
    Quiet engine (engine.openMonitor raw bound) := by
  refine (Quiet.log ?_ engine).trans (.log ?_ _)
  · nofun
  · cases bound <;> nofun

theorem exists_followed_monitor {engine next : Engine} {limits : Limits} {raw : String}
    {bound : Bound} {ending : Ending}
    (ends : engine.monitor limits raw bound = (ending, next)) :
    ∃ heard opened, engine.Followed .info heard ∧
      (bound = .lines 0 ∧ heard.takenSince engine = [] ∧ next = heard.closeMonitor opened bound ∨
        bound ≠ .lines 0 ∧ ending = .done ∧ next = heard.forgetText.closeMonitor opened bound ∨
          ¬ ending.returns ∧ next = heard) := by
  have quiet := engine.quiet_openMonitor raw bound
  have opened : engine.Followed .info (engine.openMonitor raw bound) := .of_quiet quiet rfl _
  rw [monitor_eq] at ends
  dsimp only at ends
  split at ends
  · rename_i noLines
    cases ends
    exact ⟨_, _, opened, .inl ⟨noLines, quiet.taken, rfl⟩⟩
  · rename_i someLines
    have listened := Followed.listen (engine.openMonitor raw bound) .info bound.goal
      (bound.deadline? (engine.openMonitor raw bound).clock) limits.bound
    generalize (engine.openMonitor raw bound).listen .info bound.goal
      (bound.deadline? (engine.openMonitor raw bound).clock) limits.bound = heard at ends listened
    obtain ⟨heard, last⟩ := heard
    refine ⟨last, engine.openMonitor raw bound, opened.trans listened, .inr ?_⟩
    cases heard with
    | reached => cases ends; exact .inl ⟨someLines, rfl, rfl⟩
    | late => cases ends; exact .inl ⟨someLines, rfl, rfl⟩
    | cut => cases ends; exact .inr ⟨id, rfl⟩
    | stuck => cases ends; exact .inr ⟨id, rfl⟩

theorem monitor_of_cut {engine next : Engine} {limits : Limits} {raw : String} {bound : Bound}
    (someLines : bound ≠ .lines 0)
    (listened : (engine.openMonitor raw bound).listen .info bound.goal
      (bound.deadline? (engine.openMonitor raw bound).clock) limits.bound = (.cut, next)) :
    engine.monitor limits raw bound = (.cut, next) := by
  rw [monitor_eq]
  dsimp only
  rw [if_neg someLines, listened]
  rfl

theorem expect_of_reached {engine next : Engine} {limits : Limits} {raw : String}
    {pattern : Pattern}
    (listened : (engine.log (.expecting raw)).listen .debug (engine.expected pattern)
      (momentAfter? engine.clock limits.receive) limits.bound = (.reached, next)) :
    engine.expect limits raw pattern = (.done, next.forget.log (.matched raw)) := by
  rw [expect_eq, listened]
  rfl

end Engine

namespace Deed

/-- What comes of listening is what comes of the step, if nothing but quiet changes follow. -/
theorem eq_of_followed {deed : Deed} {level : Level} {last : Engine}
    (followed : deed.engine.Followed level last) (quiet : last.Quiet deed.next) :
    deed.taken = last.takenSince deed.engine ∧ deed.heard = last.session ∧
      deed.shown = (deed.engine.session.completed deed.taken).map (.received level .listener) := by
  have taken : deed.taken = last.takenSince deed.engine := by
    rw [Deed.taken, followed.onward.takenSince_trans quiet.onward, quiet.taken, List.append_nil]
  have shown : deed.shown = last.shownSince deed.engine := by
    rw [Deed.shown, followed.onward.shownSince_trans quiet.onward, quiet.shown, List.append_nil]
  rw [shown, heard, taken]
  exact ⟨rfl, followed.session.symm, followed.shown⟩

/-- What comes of a monitor: it shows the lines that its characters complete, and it keeps the
line in progress. -/
structure Watches (deed : Deed) : Prop where
  shown : deed.shown = (deed.engine.session.completed deed.taken).map (.received .info .listener)
  session : deed.Forgets ∧ deed.next.session = deed.heard.forgetText ∨
    ¬ deed.Forgets ∧ deed.next.session = deed.heard
  ended : deed.ending.returns → deed.Forgets ∨ deed.taken = []

theorem Watches.line {deed : Deed} (watches : deed.Watches) :
    deed.next.session.line = deed.heard.line := by
  rcases watches.session with ⟨-, next⟩ | ⟨-, next⟩
  · rw [next]
    rfl
  · rw [next]

theorem Monitors.watches {deed : Deed} (monitors : deed.Monitors) : deed.Watches := by
  obtain ⟨raw, bound, step⟩ := monitors
  have ends : deed.engine.monitor deed.limits raw bound = (deed.ending, deed.next) := by
    rw [ending, next, step]
    rfl
  have forgets : deed.Forgets ↔ deed.ending = .done ∧ bound ≠ .lines 0 := by
    rw [Forgets, step]
  obtain ⟨last, opened, followed, outcome⟩ := Engine.exists_followed_monitor ends
  rcases outcome with ⟨noLines, nothing, next⟩ | ⟨someLines, done, next⟩ | ⟨noReturn, next⟩
  · have quiet : last.Quiet deed.next := next ▸ .closeMonitor last opened bound
    obtain ⟨taken, heard, shown⟩ := eq_of_followed followed quiet
    refine ⟨shown, .inr ⟨fun did => (forgets.1 did).2 noLines, ?_⟩, fun _ => .inr ?_⟩
    · rw [heard, next]
      rfl
    · rw [taken, nothing]
  · have quiet : last.Quiet deed.next := by
      rw [next]
      have forgot : last.Quiet last.forgetText := .of_past_eq (.of_eq rfl rfl) rfl
      exact forgot.trans (.closeMonitor _ opened bound)
    obtain ⟨-, heard, shown⟩ := eq_of_followed followed quiet
    have did := forgets.2 ⟨done, someLines⟩
    refine ⟨shown, .inl ⟨did, ?_⟩, fun _ => .inl did⟩
    rw [heard, next]
    rfl
  · have quiet : last.Quiet deed.next := next ▸ .refl last
    obtain ⟨-, heard, shown⟩ := eq_of_followed followed quiet
    have still : ¬ deed.Forgets := fun did => noReturn (by rw [(forgets.1 did).1]; trivial)
    refine ⟨shown, .inr ⟨still, ?_⟩, fun returns => absurd returns noReturn⟩
    rw [heard, next]

/-- A step pushes its characters into the session, and either makes it forget its text or leaves
it at that. -/
theorem session_next (deed : Deed) :
    deed.Forgets ∧
        (deed.next.session = deed.heard.forget ∨ deed.next.session = deed.heard.forgetText) ∨
      ¬ deed.Forgets ∧ deed.next.session = deed.heard := by
  cases step : deed.step with
  | send raw =>
      have next : deed.next = (deed.engine.send deed.limits (Step.payload raw)).2 := by
        rw [next, step]
        rfl
      have still : ¬ deed.Forgets := by
        rw [Forgets, step]
        exact And.right
      obtain ⟨quiet, session⟩ := deed.engine.quiet_send deed.limits (Step.payload raw)
      rw [← next] at quiet session
      refine .inr ⟨still, session.trans ?_⟩
      rw [heard, show deed.taken = [] from quiet.taken]
      rfl
  | expect raw pattern =>
      have ends : deed.engine.expect deed.limits raw pattern = (deed.ending, deed.next) := by
        rw [ending, next, step]
        rfl
      have forgets : deed.Forgets ↔ deed.ending = .done := by
        rw [Forgets, step]
        exact and_iff_left trivial
      obtain ⟨last, followed, ⟨done, next⟩ | ⟨notDone, next⟩⟩ := Engine.exists_followed_expect ends
      · have quiet : last.Quiet deed.next := next ▸ .matched last raw
        obtain ⟨-, heard, -⟩ := eq_of_followed followed quiet
        refine .inl ⟨forgets.2 done, .inl ?_⟩
        rw [heard, next]
        rfl
      · have quiet : last.Quiet deed.next := next ▸ .refl last
        obtain ⟨-, heard, -⟩ := eq_of_followed followed quiet
        refine .inr ⟨mt forgets.1 notDone, ?_⟩
        rw [heard, next]
  | monitor raw bound =>
      have watches : deed.Watches := Monitors.watches ⟨raw, bound, step⟩
      exact watches.session.imp_left fun both => ⟨both.1, .inr both.2⟩

/-- Behind a step that made the session forget its text there is nothing of it. -/
theorem Forgets.remembers {deed : Deed} (forgets : deed.Forgets) (stream : List Char) :
    deed.next.session.Remembers stream := by
  rcases deed.session_next with ⟨-, next | next⟩ | ⟨still, -⟩
  · exact next ▸ ⟨List.nil_suffix, List.nil_suffix⟩
  · exact next ▸ ⟨List.nil_suffix, List.nil_suffix⟩
  · exact absurd forgets still

end Deed

end SerialDialogue
