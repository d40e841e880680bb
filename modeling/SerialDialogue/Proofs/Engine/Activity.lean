import SerialDialogue.Engine.Run

/-!
# Activities

Whatever an engine carries out is put together from steps of a script: one activity
follows another one, depending on how that one ended, and log entries are said in
between.  This file states the composition once, reads the functions that carry out
steps, try blocks, commands and runs as compositions, and concludes that a relation
between activities which composition respects holds of whole command lists as soon as it
holds of the single steps.
-/

namespace SerialDialogue

/-- The activity came to an end of its own: it neither waits for ever nor was it cut. -/
def Ending.returns : Ending → Prop
  | done => True
  | failed _ => True
  | cut => False
  | stuck => False

instance : DecidablePred Ending.returns
  | .done => .isTrue trivial
  | .failed _ => .isTrue trivial
  | .cut => .isFalse id
  | .stuck => .isFalse id

theorem Ending.ne_cut_of_returns {ending : Ending} (returns : ending.returns) :
    ending ≠ .cut := by
  rintro rfl
  exact returns

/-- The steps of a command, those of both scripts for a try block. -/
def Command.steps : Command → List Step
  | step instruction => [instruction]
  | attempt _ main fallback => main ++ fallback.getD []

theorem Command.monitors_iff (command : Command) :
    command.monitors ↔ ∃ raw bound, .monitor raw bound ∈ command.steps := by
  have isMonitor (step : Step) : step.monitors ↔ ∃ raw bound, step = .monitor raw bound := by
    cases step <;> simp [Step.monitors]
  cases command with
  | step instruction =>
      simp [monitors, steps, isMonitor, eq_comm]
  | attempt block main fallback =>
      simp only [monitors, steps, List.any_eq_true, isMonitor]
      constructor
      · rintro ⟨step, member, raw, bound, rfl⟩
        exact ⟨raw, bound, member⟩
      · rintro ⟨raw, bound, member⟩
        exact ⟨_, member, raw, bound, rfl⟩

/-- Something that an engine carries out: how it ends, and the engine behind it. -/
abbrev Activity := Engine → Ending × Engine

namespace Activity

/-- The activity that is over at once. -/
def finish (ending : Ending) : Activity :=
  fun engine => (ending, engine)

def saying (entry : LogEntry) (next : Activity) : Activity :=
  fun engine => next (engine.log entry)

/-- One activity and then another one, by how the first ended.  Nothing follows an
activity that does not return. -/
def andThen (first done : Activity) (failed : Failure → Activity) : Activity :=
  fun engine =>
    match first engine with
    | (.done, engine) => done engine
    | (.failed failure, engine) => failed failure engine
    | ended => ended

/-- What follows an activity that ended so. -/
def behind (done : Activity) (failed : Failure → Activity) : Ending → Activity
  | .done => done
  | .failed failure => failed failure
  | .cut => finish .cut
  | .stuck => finish .stuck

theorem andThen_apply (first done : Activity) (failed : Failure → Activity) (engine : Engine) :
    first.andThen done failed engine =
      behind done failed (first engine).1 (first engine).2 := by
  unfold andThen
  rcases first engine with ⟨_ | failure | _ | _, next⟩ <;> rfl

theorem behind_of_not_returns {done : Activity} {failed : Failure → Activity}
    {ending : Ending} (noReturn : ¬ ending.returns) :
    behind done failed ending = finish ending := by
  cases ending with
  | done => exact absurd trivial noReturn
  | failed failure => exact absurd trivial noReturn
  | cut => rfl
  | stuck => rfl

/-- A relation between activities that holds of activities put together whenever it
holds of their parts. -/
structure Congruence (relation : Activity → Activity → Prop) : Prop where
  finish : ∀ {ending : Ending}, ending.returns →
    relation (Activity.finish ending) (Activity.finish ending)
  saying : ∀ (entry : LogEntry) {first second : Activity},
    relation first second → relation (first.saying entry) (second.saying entry)
  andThen : ∀ {first second done done' : Activity} {failed failed' : Failure → Activity},
    relation first second → relation done done' →
      (∀ failure, relation (failed failure) (failed' failure)) →
        relation (first.andThen done failed) (second.andThen done' failed')

end Activity

namespace Engine

open Activity

/-! ## What follows listening -/

/-- What listening is for the activity it is part of: it never fails, but it need not return. -/
def Heard.ending : Heard → Ending
  | reached => .done
  | late => .done
  | cut => .cut
  | stuck => .stuck

/-- What follows listening, by how it ended.  Nothing follows listening that does not
return. -/
def whenHeard (reached late : Activity) : Heard → Activity
  | .reached => reached
  | .late => late
  | .cut => finish .cut
  | .stuck => finish .stuck

theorem whenHeard_of_not_returns {reached late : Activity} {heard : Heard}
    (noReturn : ¬ heard.ending.returns) : whenHeard reached late heard = finish heard.ending := by
  cases heard with
  | reached => exact absurd trivial noReturn
  | late => exact absurd trivial noReturn
  | cut => rfl
  | stuck => rfl

def forget (engine : Engine) : Engine :=
  { engine with session := engine.session.forget }

/-- A monitor forgets the text that it has shown. -/
def forgetText (engine : Engine) : Engine :=
  { engine with session := engine.session.forgetText }

/-- What an expectation listens for. -/
def expected (engine : Engine) (pattern : Pattern) : Goal :=
  .found (.ofLine pattern engine.session.line)

theorem expect_eq (engine : Engine) (limits : Limits) (raw : String) (pattern : Pattern) :
    engine.expect limits raw pattern =
      let heard := (engine.log (.expecting raw)).listen .debug (engine.expected pattern)
        (momentAfter? engine.clock limits.receive) limits.bound
      whenHeard (fun engine => (.done, engine.forget.log (.matched raw)))
        (finish (.failed (.receiveTimeout raw limits.receive))) heard.1 heard.2 := by
  unfold expect expected
  dsimp only
  rcases listen _ _ _ _ _ with ⟨_ | _ | _ | _, next⟩ <;> rfl

def openMonitor (engine : Engine) (raw : String) (bound : Bound) : Engine :=
  (engine.log (.info .monitor ("MONITOR: Starting monitoring with parameter: " ++
    Text.quote raw))).log bound.opening

/-- A monitor that was opened in the other engine says that it stops. -/
def closeMonitor (engine opened : Engine) (bound : Bound) : Engine :=
  engine.log (bound.closing (.ofMillis (engine.clock - opened.clock))
    (engine.session.lineCount - opened.session.lineCount))

/-- A monitor ends in the same way whether it has seen its lines or its time is over. -/
def endMonitor (opened : Engine) (bound : Bound) : Activity :=
  fun engine => (.done, engine.forgetText.closeMonitor opened bound)

theorem monitor_eq (engine : Engine) (limits : Limits) (raw : String) (bound : Bound) :
    engine.monitor limits raw bound =
      let opened := engine.openMonitor raw bound
      if bound = .lines 0 then
        (.done, opened.closeMonitor opened bound)
      else
        let heard := opened.listen .info bound.goal (bound.deadline? opened.clock) limits.bound
        whenHeard (endMonitor opened bound) (endMonitor opened bound) heard.1 heard.2 := by
  unfold monitor
  dsimp only
  split
  · rfl
  · rw [openMonitor]
    rcases listen _ _ _ _ _ with ⟨_ | _ | _ | _, next⟩ <;> rfl

theorem monitor_ne_failed (engine : Engine) (limits : Limits) (raw : String) (bound : Bound)
    (failure : Failure) : (engine.monitor limits raw bound).1 ≠ .failed failure := by
  unfold monitor
  dsimp only
  split
  · simp
  · split <;> simp

variable (limits : Limits)

/-! ## Command lists as compositions -/

theorem performFrom_nil (index : Nat) :
    (fun engine : Engine => engine.performFrom limits index []) = finish .done :=
  rfl

theorem performFrom_cons (index : Nat) (step : Step) (later : List Step) :
    (fun engine : Engine => engine.performFrom limits index (step :: later)) =
      Activity.andThen (fun engine => engine.perform limits step)
        (fun engine => engine.performFrom limits (index + 1) later)
        (fun source => finish (.failed (.command index step.text source))) :=
  rfl

theorem performAll_nil :
    (fun engine : Engine => engine.performAll limits []) = finish .done :=
  rfl

theorem performAll_cons (step : Step) (later : List Step) :
    (fun engine : Engine => engine.performAll limits (step :: later)) =
      Activity.andThen (fun engine => engine.perform limits step)
        (fun engine => engine.performAll limits later)
        (fun failure => saying
          (.warn .attempt ("TRY: Error in except script: " ++ failure.message))
          (fun engine => engine.performAll limits later)) :=
  rfl

theorem performMain_eq (block : TryBlock) (main : List Step) :
    (fun engine : Engine => engine.performMain limits block main) =
      Activity.andThen (fun engine => engine.performFrom limits 0 main) (finish .done)
        (fun failure =>
          if failure.kind = .channel then
            finish (.failed failure)
          else
            saying (.warn .attempt ("TRY: Script " ++ Text.quote block.script ++
              " failed: " ++ failure.message)) (finish (.failed failure))) := by
  funext engine
  unfold performMain andThen
  dsimp only
  rcases engine.performFrom limits 0 main with ⟨_ | failure | _ | _, next⟩
  · rfl
  · dsimp only
    split <;> rfl
  · rfl
  · rfl

theorem performAttempts_eq (block : TryBlock) (main : List Step) :
    (fun engine : Engine => engine.performAttempts limits block main) =
      Activity.andThen (fun engine => engine.performMain limits block main) (finish .done)
        (fun failure =>
          if block.retry ∧ failure.kind ≠ .channel then
            saying (.info .attempt ("TRY: Retrying script " ++ Text.quote block.script ++
              " (attempt 2/2)")) (fun engine => engine.performMain limits block main)
          else
            finish (.failed failure)) := by
  funext engine
  unfold performAttempts andThen
  dsimp only
  rcases engine.performMain limits block main with ⟨_ | failure | _ | _, next⟩
  · rfl
  · dsimp only
    split <;> rfl
  · rfl
  · rfl

theorem performFallback_eq (block : TryBlock) (steps : List Step) :
    (fun engine : Engine => engine.performFallback limits block steps) =
      saying (.info .attempt ("TRY: Executing except script " ++
          Text.quote (block.fallbackName.getD "")))
        (Activity.andThen (fun engine => engine.performAll limits steps)
          (saying (.info .attempt ("TRY: Except script " ++
            Text.quote (block.fallbackName.getD "") ++ " completed")) (finish .done))
          (fun failure => finish (.failed failure))) := by
  funext engine
  unfold performFallback saying andThen
  dsimp only
  rcases performAll _ limits steps with ⟨_ | failure | _ | _, next⟩ <;> rfl

theorem performAttempt_eq (block : TryBlock) (main : List Step)
    (fallback : Option (List Step)) :
    (fun engine : Engine => engine.performAttempt limits block main fallback) =
      saying (.info .attempt ("TRY: Executing try block " ++ Text.quote block.name ++
          " with script " ++ Text.quote block.script))
        (Activity.andThen (fun engine => engine.performAttempts limits block main)
          (saying (.info .attempt ("TRY: Script " ++ Text.quote block.script ++
            " completed successfully")) (finish .done))
          (fun failure =>
            if failure.kind = .channel then
              finish (.failed failure)
            else
              saying (.warn .attempt ("TRY: All attempts failed for script " ++
                Text.quote block.script))
                (match fallback with
                | none => finish (.failed (.tryBlockFailed block.name false failure))
                | some steps =>
                    Activity.andThen (fun engine => engine.performFallback limits block steps)
                      (finish (.failed (.tryBlockFailed block.name true failure)))
                      (fun other => finish (.failed other))))) := by
  funext engine
  unfold performAttempt saying andThen
  dsimp only
  rcases performAttempts _ limits block main with ⟨_ | failure | _ | _, next⟩
  · rfl
  · dsimp only
    split
    · rfl
    · cases fallback with
      | none => rfl
      | some steps =>
          dsimp only [Option.isSome_some]
          rcases performFallback _ limits block steps with ⟨_ | other | _ | _, last⟩ <;> rfl
  · rfl
  · rfl

theorem executeFrom_nil (index total : Nat) :
    (fun engine : Engine => engine.executeFrom limits index total []) = finish .done :=
  rfl

theorem executeFrom_cons (index total : Nat) (command : Command) (later : List Command) :
    (fun engine : Engine => engine.executeFrom limits index total (command :: later)) =
      saying (.info .engine ("Executing command " ++ toString (index + 1) ++ "/" ++
          toString total ++ ": " ++ command.text))
        (Activity.andThen (fun engine => engine.performCommand limits command)
          (fun engine => engine.executeFrom limits (index + 1) total later)
          (fun source => finish (.failed (.command index command.text source)))) :=
  rfl

/-! ## Runs as command lists -/

/-- An activity that was cut has run out of the time of its run. -/
def scriptTimedOut (timeouts : Timeouts) (extended : Bool) : Ending → Ending
  | .cut => .failed (.scriptTimeout timeouts.script extended)
  | ending => ending

def runLength (timeouts : Timeouts) (commands : List Command) : Duration :=
  if commands.any Command.monitors then timeouts.script.saturatingAdd indefiniteLength
  else timeouts.script

/-- What limits the commands of a run that begins now. -/
def runLimits (engine : Engine) (timeouts : Timeouts) (commands : List Command) : Limits :=
  ⟨timeouts.receive, momentAfter? engine.clock (runLength timeouts commands)⟩

/-- A run says that it may take longer. -/
def openRun (engine : Engine) (commands : List Command) : Engine :=
  if commands.any Command.monitors then
    engine.log (.info .engine "Extended timeout for monitor commands")
  else engine

theorem run_eq (engine : Engine) (timeouts : Timeouts) (commands : List Command) :
    engine.run timeouts commands =
      let result := (engine.openRun commands).execute ⟨timeouts.receive,
        momentAfter? engine.clock (runLength timeouts commands)⟩ commands
      (scriptTimedOut timeouts (commands.any Command.monitors) result.1, result.2) := by
  unfold run openRun runLength
  dsimp only
  rcases execute _ _ commands with ⟨_ | failure | _ | _, next⟩ <;> rfl

/-- What the commands of a run come to, before it is told whether they were cut. -/
def executed (engine : Engine) (timeouts : Timeouts) (commands : List Command) :
    Ending × Engine :=
  (engine.openRun commands).execute (engine.runLimits timeouts commands) commands

theorem fst_run (engine : Engine) (timeouts : Timeouts) (commands : List Command) :
    (engine.run timeouts commands).1 =
      scriptTimedOut timeouts (commands.any Command.monitors)
        (engine.executed timeouts commands).1 := by
  rw [run_eq]
  rfl

theorem snd_run (engine : Engine) (timeouts : Timeouts) (commands : List Command) :
    (engine.run timeouts commands).2 = (engine.executed timeouts commands).2 := by
  rw [run_eq]
  rfl

theorem executed_of_run_done {engine : Engine} {timeouts : Timeouts} {commands : List Command}
    (done : (engine.run timeouts commands).1 = .done) :
    (engine.executed timeouts commands).1 = .done := by
  rw [fst_run] at done
  unfold scriptTimedOut at done
  split at done
  · cases done
  · exact done

theorem run_eq_executed {engine : Engine} {timeouts : Timeouts} {commands : List Command}
    (done : (engine.executed timeouts commands).1 = .done) :
    engine.run timeouts commands = engine.executed timeouts commands := by
  have told : (engine.run timeouts commands).1 = (engine.executed timeouts commands).1 := by
    rw [fst_run, done]
    rfl
  exact Prod.ext told (engine.snd_run timeouts commands)

end Engine

/-! ## From steps to command lists -/

namespace Activity.Congruence

open Activity

variable {relation : Activity → Activity → Prop} (congruence : Congruence relation)
  {limits limits' : Limits}

/-- The relation holds between what some steps do under the one limits and under the other ones. -/
def Relates (relation : Activity → Activity → Prop) (limits limits' : Limits)
    (steps : List Step) : Prop :=
  ∀ step ∈ steps, relation (fun engine => engine.perform limits step)
    (fun engine => engine.perform limits' step)

include congruence

theorem performFrom (index : Nat) {steps : List Step}
    (relates : Relates relation limits limits' steps) :
    relation (fun engine => engine.performFrom limits index steps)
      (fun engine => engine.performFrom limits' index steps) := by
  induction steps generalizing index with
  | nil =>
      rw [Engine.performFrom_nil, Engine.performFrom_nil]
      exact congruence.finish trivial
  | cons step later ih =>
      obtain ⟨first, rest⟩ := List.forall_mem_cons.1 relates
      rw [Engine.performFrom_cons, Engine.performFrom_cons]
      exact congruence.andThen first (ih (index + 1) rest) (fun _ => congruence.finish trivial)

theorem performAll {steps : List Step} (relates : Relates relation limits limits' steps) :
    relation (fun engine => engine.performAll limits steps)
      (fun engine => engine.performAll limits' steps) := by
  induction steps with
  | nil =>
      rw [Engine.performAll_nil, Engine.performAll_nil]
      exact congruence.finish trivial
  | cons step later ih =>
      obtain ⟨first, rest⟩ := List.forall_mem_cons.1 relates
      rw [Engine.performAll_cons, Engine.performAll_cons]
      exact congruence.andThen first (ih rest) (fun _ => congruence.saying _ (ih rest))

theorem performMain (block : TryBlock) {main : List Step}
    (relates : Relates relation limits limits' main) :
    relation (fun engine => engine.performMain limits block main)
      (fun engine => engine.performMain limits' block main) := by
  rw [Engine.performMain_eq, Engine.performMain_eq]
  refine congruence.andThen (congruence.performFrom 0 relates)
    (congruence.finish trivial) fun failure => ?_
  split
  · exact congruence.finish trivial
  · exact congruence.saying _ (congruence.finish trivial)

theorem performAttempts (block : TryBlock) {main : List Step}
    (relates : Relates relation limits limits' main) :
    relation (fun engine => engine.performAttempts limits block main)
      (fun engine => engine.performAttempts limits' block main) := by
  rw [Engine.performAttempts_eq, Engine.performAttempts_eq]
  have attempt := congruence.performMain block relates
  refine congruence.andThen attempt (congruence.finish trivial) fun failure => ?_
  split
  · exact congruence.saying _ attempt
  · exact congruence.finish trivial

theorem performFallback (block : TryBlock) {steps : List Step}
    (relates : Relates relation limits limits' steps) :
    relation (fun engine => engine.performFallback limits block steps)
      (fun engine => engine.performFallback limits' block steps) := by
  rw [Engine.performFallback_eq, Engine.performFallback_eq]
  apply congruence.saying
  exact congruence.andThen (congruence.performAll relates)
    (congruence.saying _ (congruence.finish trivial))
    (fun _ => congruence.finish trivial)

theorem performAttempt (block : TryBlock) {main : List Step} {fallback : Option (List Step)}
    (relates : Relates relation limits limits' (main ++ fallback.getD [])) :
    relation (fun engine => engine.performAttempt limits block main fallback)
      (fun engine => engine.performAttempt limits' block main fallback) := by
  obtain ⟨inMain, inFallback⟩ := List.forall_mem_append.1 relates
  rw [Engine.performAttempt_eq, Engine.performAttempt_eq]
  apply congruence.saying
  refine congruence.andThen (congruence.performAttempts block inMain)
    (congruence.saying _ (congruence.finish trivial)) fun failure => ?_
  split
  · exact congruence.finish trivial
  · apply congruence.saying
    cases fallback with
    | none => exact congruence.finish trivial
    | some steps =>
        exact congruence.andThen (congruence.performFallback block inFallback)
          (congruence.finish trivial) (fun _ => congruence.finish trivial)

theorem performCommand {command : Command}
    (relates : Relates relation limits limits' command.steps) :
    relation (fun engine => engine.performCommand limits command)
      (fun engine => engine.performCommand limits' command) := by
  cases command with
  | step step => exact relates step (List.mem_singleton_self step)
  | attempt block main fallback => exact congruence.performAttempt block relates

theorem executeFrom (index total : Nat) {commands : List Command}
    (relates : Relates relation limits limits' (commands.flatMap Command.steps)) :
    relation (fun engine => engine.executeFrom limits index total commands)
      (fun engine => engine.executeFrom limits' index total commands) := by
  induction commands generalizing index with
  | nil =>
      rw [Engine.executeFrom_nil, Engine.executeFrom_nil]
      exact congruence.finish trivial
  | cons command later ih =>
      rw [List.flatMap_cons] at relates
      obtain ⟨first, rest⟩ := List.forall_mem_append.1 relates
      rw [Engine.executeFrom_cons, Engine.executeFrom_cons]
      apply congruence.saying
      exact congruence.andThen (congruence.performCommand first)
        (ih (index + 1) rest) (fun _ => congruence.finish trivial)

/-- What holds of the steps of some commands under two sets of limits holds of the commands. -/
theorem execute {commands : List Command}
    (relates : Relates relation limits limits' (commands.flatMap Command.steps)) :
    relation (fun engine => engine.execute limits commands)
      (fun engine => engine.execute limits' commands) :=
  congruence.executeFrom 0 commands.length relates

end Activity.Congruence

end SerialDialogue
