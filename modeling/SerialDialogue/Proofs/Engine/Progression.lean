import SerialDialogue.Proofs.Engine.Activity

/-!
# Progressions

Whatever an engine carries out is a sequence of a few single changes: it says something,
time passes, bytes are read, characters are taken or forgotten, a text is sent.  A
reflexive and transitive relation that holds across each of these changes therefore holds
across every step, command list and run.
-/

namespace SerialDialogue

namespace Engine

def expectMore (engine : Engine) (replies : List Arrival) : Engine :=
  { engine with channel := engine.channel.expectMore replies }

/-- What is done with an engine: it runs commands, or time passes between two runs. -/
inductive Turn where
  | run (timeouts : Timeouts) (commands : List Command)
  | idle (millis : Nat)

/-- The engine behind a turn, however that ended. -/
def turn (engine : Engine) : Turn → Engine
  | .run timeouts commands => (engine.run timeouts commands).2
  | .idle millis => engine.idle millis

def after (engine : Engine) (turns : List Turn) : Engine :=
  turns.foldl turn engine

/-- A relation between an engine and what becomes of it that holds across every single
change and is kept when changes follow each other. -/
structure Progression (relation : Engine → Engine → Prop) : Prop where
  refl : ∀ engine, relation engine engine
  trans : ∀ {first second third}, relation first second → relation second third →
    relation first third
  log : ∀ (engine : Engine) entry, relation engine (engine.log entry)
  wrote : ∀ (engine : Engine) text, relation engine (engine.note (.wrote text))
  passTo : ∀ (engine : Engine) time, relation engine (engine.passTo time)
  readBy : ∀ (engine : Engine) time, relation engine (engine.readBy time)
  hear : ∀ (engine : Engine) level goal, relation engine (engine.hear level goal).2
  forget : ∀ engine : Engine, relation engine engine.forget
  forgetText : ∀ engine : Engine, relation engine engine.forgetText
  noteSending : ∀ (engine : Engine) text, relation engine (engine.noteSending text)
  expectMore : ∀ (engine : Engine) replies, relation engine (engine.expectMore replies)

end Engine

/-- The relation holds between every engine and what the activity makes of it. -/
def Activity.Leads (relation : Engine → Engine → Prop) (activity : Activity) : Prop :=
  ∀ engine : Engine, relation engine (activity engine).2

namespace Engine.Progression

open Activity

variable {relation : Engine → Engine → Prop} (progression : Progression relation)

include progression

/-! ## Activities put together -/

theorem leads_finish (ending : Ending) : (finish ending).Leads relation :=
  progression.refl

theorem leads_saying {activity : Activity} (entry : LogEntry) (leads : activity.Leads relation) :
    (activity.saying entry).Leads relation :=
  fun engine => progression.trans (progression.log engine entry) (leads (engine.log entry))

theorem leads_behind {done : Activity} {failed : Failure → Activity}
    (leadsDone : done.Leads relation) (leadsFailed : ∀ failure, (failed failure).Leads relation)
    (ending : Ending) : (behind done failed ending).Leads relation := by
  cases ending with
  | done => exact leadsDone
  | failed failure => exact leadsFailed failure
  | cut => exact progression.leads_finish .cut
  | stuck => exact progression.leads_finish .stuck

theorem leads_andThen {activity done : Activity} {failed : Failure → Activity}
    (leads : activity.Leads relation) (leadsDone : done.Leads relation)
    (leadsFailed : ∀ failure, (failed failure).Leads relation) :
    (activity.andThen done failed).Leads relation := by
  intro engine
  rw [andThen_apply]
  exact progression.trans (leads engine) (progression.leads_behind leadsDone leadsFailed _ _)

theorem leads_whenHeard {reached late : Activity} (leadsReached : reached.Leads relation)
    (leadsLate : late.Leads relation) (heard : Heard) :
    (whenHeard reached late heard).Leads relation := by
  cases heard with
  | reached => exact leadsReached
  | late => exact leadsLate
  | cut => exact progression.leads_finish .cut
  | stuck => exact progression.leads_finish .stuck

theorem congruence : Congruence fun _ activity => activity.Leads relation where
  finish _ := progression.leads_finish _
  saying entry _ _ leads := progression.leads_saying entry leads
  andThen := progression.leads_andThen

/-! ## Steps -/

theorem listen (engine : Engine) (level : Level) (goal : Goal) (deadline bound : Option Nat) :
    relation engine (engine.listen level goal deadline bound).2 := by
  fun_induction Engine.listen engine level goal deadline bound with
  | case1 engine goal heard reached => exact progression.hear engine level goal
  | case2 engine goal heard left goalLeft time wake ih =>
      have read := progression.trans (progression.hear engine level goal)
        (progression.readBy heard.2 time)
      exact progression.trans read ih
  | case3 engine goal heard left goalLeft time wake =>
      exact progression.trans (progression.hear engine level goal)
        (progression.passTo heard.2 time)
  | case4 engine goal heard left goalLeft time wake =>
      exact progression.trans (progression.hear engine level goal)
        (progression.passTo heard.2 time)
  | case5 engine goal heard left goalLeft wake => exact progression.hear engine level goal

theorem stall (engine : Engine) (limits : Limits) : relation engine (engine.stall limits).2 := by
  unfold Engine.stall
  split <;> exact progression.readBy engine _

theorem send (engine : Engine) (limits : Limits) (text : String) :
    relation engine (engine.send limits text).2 := by
  have logged := progression.log engine (.sent text)
  have sent := progression.trans logged (progression.noteSending (engine.log (.sent text)) text)
  unfold Engine.send
  split
  · rename_i replies _
    have wrote := progression.trans sent (progression.wrote _ text)
    exact progression.trans wrote (progression.expectMore _ replies)
  · exact sent
  · exact sent
  · exact progression.trans logged (progression.stall _ limits)

theorem expect (engine : Engine) (limits : Limits) (raw : String) (pattern : Pattern) :
    relation engine (engine.expect limits raw pattern).2 := by
  rw [expect_eq]
  have listened := progression.trans (progression.log engine (.expecting raw))
    (progression.listen _ .debug (engine.expected pattern)
      (momentAfter? engine.clock limits.receive) limits.bound)
  refine progression.trans listened (progression.leads_whenHeard ?_ ?_ _ _)
  · exact fun engine => progression.trans (progression.forget engine) (progression.log _ _)
  · exact progression.leads_finish _

theorem endMonitor (opened : Engine) (bound : Bound) :
    (endMonitor opened bound).Leads relation :=
  fun engine => progression.trans (progression.forgetText engine) (progression.log _ _)

theorem monitor (engine : Engine) (limits : Limits) (raw : String) (bound : Bound) :
    relation engine (engine.monitor limits raw bound).2 := by
  have opened : relation engine (engine.openMonitor raw bound) :=
    progression.trans (progression.log _ _) (progression.log _ _)
  have ends := progression.endMonitor (engine.openMonitor raw bound) bound
  rw [monitor_eq]
  dsimp only
  split
  · exact progression.trans opened (progression.log _ _)
  · exact progression.trans (progression.trans opened (progression.listen _ _ _ _ _))
      (progression.leads_whenHeard ends ends _ _)

theorem perform (engine : Engine) (limits : Limits) (step : Step) :
    relation engine (engine.perform limits step).2 := by
  cases step with
  | send raw => exact progression.send engine limits (Step.payload raw)
  | expect raw pattern => exact progression.expect engine limits raw pattern
  | monitor raw bound => exact progression.monitor engine limits raw bound

/-! ## Command lists and runs -/

theorem execute (engine : Engine) (limits : Limits) (commands : List Command) :
    relation engine (engine.execute limits commands).2 :=
  @Congruence.execute _ progression.congruence limits limits commands
    (fun step _ engine => progression.perform engine limits step) engine

theorem openRun (engine : Engine) (commands : List Command) :
    relation engine (engine.openRun commands) := by
  unfold Engine.openRun
  split
  · exact progression.log engine _
  · exact progression.refl engine

theorem run (engine : Engine) (timeouts : Timeouts) (commands : List Command) :
    relation engine (engine.run timeouts commands).2 := by
  rw [run_eq]
  exact progression.trans (progression.openRun engine commands)
    (progression.execute _ _ commands)

theorem idle (engine : Engine) (millis : Nat) : relation engine (engine.idle millis) :=
  progression.readBy engine _

theorem turn (engine : Engine) (turn : Turn) : relation engine (engine.turn turn) := by
  cases turn with
  | run timeouts commands => exact progression.run engine timeouts commands
  | idle millis => exact progression.idle engine millis

/-- What holds across every single change holds across whatever is done with an engine. -/
theorem after (engine : Engine) (turns : List Turn) : relation engine (engine.after turns) := by
  induction turns generalizing engine with
  | nil => exact progression.refl engine
  | cons turn later ih => exact progression.trans (progression.turn engine turn) (ih _)

end Engine.Progression

end SerialDialogue
