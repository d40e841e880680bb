import SerialDialogue.Proofs.Engine.Hearing

/-!
# Chronicles

Whatever is done with an engine is a chain of single steps, each of which begins with the engine
that the one before it left, with remarks and pauses between them.  A `Chronicle` is such a
chain.  It tells which characters were taken in which step, and so it tells what a match is
made of: only of characters that were taken behind the match before.
-/

namespace SerialDialogue

/-- A step that an engine carried out. -/
structure Deed where
  engine : Engine
  limits : Limits
  step : Step

namespace Deed

def ending (deed : Deed) : Ending :=
  (deed.engine.perform deed.limits deed.step).1

def next (deed : Deed) : Engine :=
  (deed.engine.perform deed.limits deed.step).2

/-- The characters that were taken in the step. -/
def taken (deed : Deed) : List Char :=
  deed.next.takenSince deed.engine

/-- The session with the characters of the step pushed, and nothing of it forgotten. -/
def heard (deed : Deed) : Session :=
  deed.engine.session.pushAll deed.taken

/-- The step is an expect, and it had its match. -/
def Matches (deed : Deed) (pattern : Pattern) : Prop :=
  deed.ending = .done ∧ ∃ raw, deed.step = .expect raw pattern

end Deed

/-- The steps that lead from one engine to another one.  Between two steps nothing happens
except that something is said and that time passes. -/
inductive Chronicle : Engine → List Deed → Engine → Prop where
  | still (engine : Engine) : Chronicle engine [] engine
  | said {engine last : Engine} {entry : LogEntry} {deeds : List Deed} :
      Chronicle (engine.log entry) deeds last → Chronicle engine deeds last
  | idled {engine last : Engine} {millis : Nat} {deeds : List Deed} :
      Chronicle (engine.idle millis) deeds last → Chronicle engine deeds last
  | carried {deed : Deed} {last : Engine} {deeds : List Deed} :
      Chronicle deed.next deeds last → Chronicle deed.engine (deed :: deeds) last

namespace Chronicle

variable {first middle last : Engine} {deeds earlier later : List Deed} {deed : Deed}

theorem perform {limits : Limits} {step : Step}
    (rest : Chronicle (first.perform limits step).2 deeds last) :
    Chronicle first (⟨first, limits, step⟩ :: deeds) last :=
  @carried ⟨first, limits, step⟩ last deeds rest

theorem append (before : Chronicle first earlier middle) (behind : Chronicle middle later last) :
    Chronicle first (earlier ++ later) last := by
  induction before with
  | still => exact behind
  | said _ ih => exact .said (ih behind)
  | idled _ ih => exact .idled (ih behind)
  | carried _ ih => exact .carried (ih behind)

theorem split (chronicle : Chronicle first (earlier ++ deed :: later) last) :
    Chronicle first earlier deed.engine ∧ Chronicle deed.next later last := by
  generalize whole : earlier ++ deed :: later = deeds at chronicle
  induction chronicle generalizing earlier with
  | still => simp at whole
  | said _ ih => exact ⟨.said (ih whole).1, (ih whole).2⟩
  | idled _ ih => exact ⟨.idled (ih whole).1, (ih whole).2⟩
  | carried rest ih =>
      cases earlier with
      | nil =>
          obtain ⟨rfl, rfl⟩ := List.cons.inj whole
          exact ⟨.still _, rest⟩
      | cons other earlier =>
          obtain ⟨rfl, behind⟩ := List.cons.inj whole
          exact ⟨.carried (ih behind).1, (ih behind).2⟩

/-- What holds across every change of an engine and is kept when changes follow each other holds
across a chronicle. -/
theorem leads {relation : Engine → Engine → Prop} (progression : Engine.Progression relation)
    (chronicle : Chronicle first deeds last) : relation first last := by
  induction chronicle with
  | still engine => exact progression.refl engine
  | said _ ih => exact progression.trans (progression.log _ _) ih
  | idled _ ih => exact progression.trans (progression.idle _ _) ih
  | carried _ ih => exact progression.trans (progression.perform _ _ _) ih

theorem takenSince_eq (chronicle : Chronicle first deeds last) :
    last.takenSince first = deeds.flatMap Deed.taken := by
  induction chronicle with
  | still engine => exact Engine.takenSince_of_past_eq rfl
  | @said engine last entry deeds rest ih =>
      rw [(engine.onward_log entry).takenSince_trans (rest.leads Engine.progression_onward), ih,
        Engine.log, Engine.takenSince_note rfl, List.nil_append]
  | @idled engine last millis deeds rest ih =>
      have onward : Engine.Onward engine (engine.idle millis) := engine.onward_readBy _
      rw [onward.takenSince_trans (rest.leads Engine.progression_onward), ih, Engine.idle,
        Engine.takenSince_readBy, List.nil_append]
  | @carried deed last deeds rest ih =>
      have onward : Engine.Onward deed.engine deed.next :=
        Engine.progression_onward.perform deed.engine deed.limits deed.step
      rw [onward.takenSince_trans (rest.leads Engine.progression_onward), ih, List.flatMap_cons]
      rfl

end Chronicle

/-! ## Executions -/

/-- What an activity carries out under some limits: steps among the given ones, and between them
nothing happens except that something is said.  Nothing follows a step that does not return, and
then the activity ends as that step does. -/
inductive Execution (limits : Limits) (steps : List Step) :
    Engine → List Deed → Ending → Engine → Prop where
  | still (engine : Engine) {ending : Ending} :
      ending.returns → Execution limits steps engine [] ending engine
  | said {engine last : Engine} {entry : LogEntry} {deeds : List Deed} {ending : Ending} :
      Execution limits steps (engine.log entry) deeds ending last →
        Execution limits steps engine deeds ending last
  | returned {engine next last : Engine} {step : Step} {deeds : List Deed}
      {own ending : Ending} :
      step ∈ steps → engine.perform limits step = (own, next) → own.returns →
        Execution limits steps next deeds ending last →
          Execution limits steps engine (⟨engine, limits, step⟩ :: deeds) ending last
  | stopped {engine last : Engine} {step : Step} {ending : Ending} :
      step ∈ steps → engine.perform limits step = (ending, last) → ¬ ending.returns →
        Execution limits steps engine [⟨engine, limits, step⟩] ending last

namespace Execution

variable {limits : Limits} {steps : List Step} {first middle last : Engine}
  {deeds earlier later : List Deed} {own ending : Ending}

theorem append (before : Execution limits steps first earlier own middle) (returns : own.returns)
    (behind : Execution limits steps middle later ending last) :
    Execution limits steps first (earlier ++ later) ending last := by
  induction before with
  | still => exact behind
  | said _ ih => exact .said (ih returns behind)
  | returned member performed returned _ ih =>
      exact .returned member performed returned (ih returns behind)
  | stopped _ _ noReturn => exact absurd returns noReturn

theorem chronicle (execution : Execution limits steps first deeds ending last) :
    Chronicle first deeds last := by
  induction execution with
  | still engine _ => exact .still engine
  | said _ ih => exact .said ih
  | returned _ performed _ _ ih => exact .perform (performed ▸ ih)
  | stopped _ performed _ => exact .perform (performed ▸ .still _)

theorem limits_of_mem (execution : Execution limits steps first deeds ending last) {deed : Deed}
    (member : deed ∈ deeds) : deed.limits = limits := by
  induction execution with
  | still => cases member
  | said _ ih => exact ih member
  | returned _ _ _ _ ih =>
      rcases List.mem_cons.1 member with rfl | behind
      · rfl
      · exact ih behind
  | stopped =>
      obtain rfl := List.mem_singleton.1 member
      rfl

theorem step_of_mem (execution : Execution limits steps first deeds ending last) {deed : Deed}
    (member : deed ∈ deeds) : deed.step ∈ steps := by
  induction execution with
  | still => cases member
  | said _ ih => exact ih member
  | returned among _ _ _ ih =>
      rcases List.mem_cons.1 member with rfl | behind
      · exact among
      · exact ih behind
  | stopped among =>
      obtain rfl := List.mem_singleton.1 member
      exact among

theorem exists_last (execution : Execution limits steps first deeds ending last)
    (noReturn : ¬ ending.returns) :
    ∃ before deed, deeds = before ++ [deed] ∧ deed.ending = ending := by
  induction execution with
  | still _ returns => exact absurd returns noReturn
  | said _ ih => exact ih noReturn
  | returned _ _ _ _ ih =>
      obtain ⟨before, deed, rfl, ended⟩ := ih noReturn
      exact ⟨_ :: before, deed, rfl, ended⟩
  | stopped _ performed _ => exact ⟨[], _, rfl, congrArg Prod.fst performed⟩

end Execution

namespace Engine

open Activity

theorem exists_execution_perform (engine : Engine) (limits : Limits) {steps : List Step}
    {step : Step} (member : step ∈ steps) :
    ∃ deeds, Execution limits steps engine deeds (engine.perform limits step).1
      (engine.perform limits step).2 := by
  by_cases returns : (engine.perform limits step).1.returns
  · exact ⟨_, .returned member rfl returns (.still _ returns)⟩
  · exact ⟨_, .stopped member rfl returns⟩

theorem congruence_execution (limits : Limits) (steps : List Step) :
    Congruence fun _ activity => ∀ engine : Engine, ∃ deeds,
      Execution limits steps engine deeds (activity engine).1 (activity engine).2 where
  finish returns engine := ⟨[], .still engine returns⟩
  saying entry _ _ executes engine := (executes (engine.log entry)).imp fun _ => .said
  andThen {_ activity _ done _ failed} executes executesDone executesFailed engine := by
    rw [andThen_apply]
    obtain ⟨earlier, execution⟩ := executes engine
    cases ended : (activity engine).1 with
    | done =>
        obtain ⟨later, behind⟩ := executesDone (activity engine).2
        exact ⟨earlier ++ later, execution.append (ended ▸ trivial) behind⟩
    | failed failure =>
        obtain ⟨later, behind⟩ := executesFailed failure (activity engine).2
        exact ⟨earlier ++ later, execution.append (ended ▸ trivial) behind⟩
    | cut =>
        rw [ended] at execution
        exact ⟨earlier, execution⟩
    | stuck =>
        rw [ended] at execution
        exact ⟨earlier, execution⟩

theorem exists_execution_execute (engine : Engine) (limits : Limits) (commands : List Command) :
    ∃ deeds, Execution limits (commands.flatMap Command.steps) engine deeds
      (engine.execute limits commands).1 (engine.execute limits commands).2 :=
  @Congruence.execute _ (congruence_execution limits _) limits limits commands
    (fun _ member engine => engine.exists_execution_perform limits member) engine

/-- What is carried out once a run has said that it may take longer is what the run carries
out. -/
theorem execution_of_openRun {engine last : Engine} {commands : List Command} {limits : Limits}
    {steps : List Step} {deeds : List Deed} {ending : Ending}
    (execution : Execution limits steps (engine.openRun commands) deeds ending last) :
    Execution limits steps engine deeds ending last := by
  unfold openRun at execution
  split at execution
  · exact .said execution
  · exact execution

/-- The steps that a run carries out. -/
def Recounts (engine : Engine) (timeouts : Timeouts) (commands : List Command)
    (deeds : List Deed) : Prop :=
  Execution (engine.runLimits timeouts commands) (commands.flatMap Command.steps) engine deeds
    (engine.executed timeouts commands).1 (engine.executed timeouts commands).2

theorem exists_recounts (engine : Engine) (timeouts : Timeouts) (commands : List Command) :
    ∃ deeds, engine.Recounts timeouts commands deeds := by
  obtain ⟨deeds, execution⟩ := (engine.openRun commands).exists_execution_execute
    (engine.runLimits timeouts commands) commands
  exact ⟨deeds, execution_of_openRun execution⟩

theorem Recounts.chronicle {engine : Engine} {timeouts : Timeouts} {commands : List Command}
    {deeds : List Deed} (recounts : engine.Recounts timeouts commands deeds) :
    Chronicle engine deeds (engine.run timeouts commands).2 := by
  rw [snd_run]
  exact Execution.chronicle recounts

/-- Some steps lead from the first engine to the second one. -/
def Chronicled (first last : Engine) : Prop :=
  ∃ deeds, Chronicle first deeds last

theorem Chronicled.trans {first second third : Engine} (earlier : Chronicled first second)
    (later : Chronicled second third) : Chronicled first third := by
  obtain ⟨deeds, before⟩ := earlier
  obtain ⟨deeds', behind⟩ := later
  exact ⟨deeds ++ deeds', before.append behind⟩

theorem chronicled_turn (engine : Engine) (turn : Turn) : Chronicled engine (engine.turn turn) := by
  cases turn with
  | idle millis => exact ⟨[], .idled (.still _)⟩
  | run timeouts commands =>
      obtain ⟨deeds, recounts⟩ := engine.exists_recounts timeouts commands
      exact ⟨deeds, recounts.chronicle⟩

theorem chronicled_after (engine : Engine) (turns : List Turn) :
    Chronicled engine (engine.after turns) := by
  induction turns generalizing engine with
  | nil => exact ⟨[], .still engine⟩
  | cons turn later ih => exact (engine.chronicled_turn turn).trans (ih _)

/-- The step of a run of one command. -/
def onlyDeed (engine : Engine) (timeouts : Timeouts) (step : Step) : Deed where
  engine := (engine.openRun [.step step]).log (.info .engine
    ("Executing command " ++ toString 1 ++ "/" ++ toString 1 ++ ": " ++ step.text))
  limits := ⟨timeouts.receive, momentAfter? engine.clock (runLength timeouts [.step step])⟩
  step := step

theorem run_only (engine : Engine) (timeouts : Timeouts) (step : Step) :
    (engine.run timeouts [.step step]).2 = (engine.onlyDeed timeouts step).next := by
  let deed := engine.onlyDeed timeouts step
  have result : (engine.run timeouts [.step step]).2 =
      (Activity.andThen (fun engine => engine.perform deed.limits step) (Activity.finish .done)
        (fun source => Activity.finish (.failed (.command 0 step.text source))) deed.engine).2 := by
    rw [run_eq]
    rfl
  have performed : deed.engine.perform deed.limits step = (deed.ending, deed.next) := rfl
  rw [result, Activity.andThen_apply, performed]
  cases deed.ending with
  | done => rfl
  | failed failure => rfl
  | cut => rfl
  | stuck => rfl

theorem chronicle_run_only (engine : Engine) (timeouts : Timeouts) (step : Step) :
    Chronicle engine [engine.onlyDeed timeouts step] (engine.run timeouts [.step step]).2 := by
  have performed : Chronicle (engine.onlyDeed timeouts step).engine
      [engine.onlyDeed timeouts step] (engine.run timeouts [.step step]).2 := by
    rw [run_only]
    exact .carried (.still _)
  have opened : Chronicle (engine.openRun [.step step]) _ _ := .said performed
  unfold openRun at opened
  split at opened
  · exact .said opened
  · exact opened

end Engine

/-! ## What a match is made of -/

/-- The session remembers nothing but ends of the stream. -/
structure Session.Recalls (session : Session) (stream : List Char) : Prop
    extends session.Remembers stream where
  line : session.line.toList <:+ stream

namespace Session.Recalls

variable {session : Session} {stream : List Char}

theorem forget (session : Session) (stream : List Char) : session.forget.Recalls stream :=
  ⟨⟨List.nil_suffix, List.nil_suffix⟩, List.nil_suffix⟩

theorem push (recalls : session.Recalls stream) (c : Char) :
    (session.push c).2.Recalls (stream ++ [c]) := by
  refine ⟨recalls.toRemembers.push c, ?_⟩
  rw [line_push]
  split
  · exact List.nil_suffix
  · rw [String.toList_push]
    exact List.suffix_append_self_iff.2 recalls.line

theorem pushAll (recalls : session.Recalls stream) (text : List Char) :
    (session.pushAll text).Recalls (stream ++ text) := by
  induction text generalizing session stream with
  | nil => rwa [List.append_nil]
  | cons c rest ih =>
      have := ih (recalls.push c)
      rwa [List.append_assoc] at this

theorem forgetText (recalls : session.Recalls stream) : session.forgetText.Recalls stream :=
  ⟨⟨List.nil_suffix, List.nil_suffix⟩, recalls.line⟩

end Session.Recalls

namespace Engine

/-- The session of the second engine remembers what that of the first one did and what was taken
since. -/
def Recalling (first second : Engine) : Prop :=
  Onward first second ∧ ∀ stream, first.session.Recalls stream →
    second.session.Recalls (stream ++ second.takenSince first)

theorem Recalling.of_eq {first second : Engine} (onward : Onward first second)
    (silent : second.takenSince first = []) (session : second.session = first.session) :
    Recalling first second := by
  refine ⟨onward, fun stream recalls => ?_⟩
  rwa [silent, List.append_nil, session]

theorem progression_recalling : Progression Recalling where
  refl engine := .of_eq (.refl engine) (takenSince_of_past_eq rfl) rfl
  trans {first second third} earlier later := by
    refine ⟨earlier.1.trans later.1, fun stream recalls => ?_⟩
    rw [earlier.1.takenSince_trans later.1, ← List.append_assoc]
    exact later.2 _ (earlier.2 _ recalls)
  log engine _ := .of_eq (engine.onward_note _) (takenSince_note rfl engine) rfl
  wrote engine _ := .of_eq (engine.onward_note _) (takenSince_note rfl engine) rfl
  passTo engine time := .of_eq (engine.onward_passTo time) (takenSince_of_past_eq rfl) rfl
  readBy engine time := .of_eq (engine.onward_readBy time) (engine.takenSince_readBy time) rfl
  hear engine level goal := by
    refine ⟨engine.onward_hear level goal, fun stream recalls => ?_⟩
    obtain ⟨taken, -, counted, pushed⟩ := engine.session.exists_take goal engine.queue
    rw [takenSince_hear, counted, show (engine.hear level goal).2.session = _ from pushed]
    exact recalls.pushAll taken
  forget engine := ⟨.of_eq rfl rfl, fun stream _ => .forget _ _⟩
  forgetText engine := by
    refine ⟨.of_eq rfl rfl, fun stream recalls => ?_⟩
    have silent : engine.forgetText.takenSince engine = [] := takenSince_of_past_eq rfl
    rw [silent, List.append_nil]
    exact recalls.forgetText
  noteSending engine text := .of_eq (.of_eq rfl rfl) (takenSince_of_past_eq rfl) rfl
  expectMore engine replies := .of_eq (.of_eq rfl rfl) (takenSince_of_past_eq rfl) rfl

theorem exists_listened_expect (engine : Engine) (limits : Limits) (raw : String)
    (pattern : Pattern) :
    ∃ heard last, (engine.log (.expecting raw)).Listened pattern heard last ∧
      engine.expect limits raw pattern =
        whenHeard (fun engine => (.done, engine.forget.log (.matched raw)))
          (Activity.finish (.failed (.receiveTimeout raw limits.receive))) heard last :=
  ⟨_, _, (engine.log (.expecting raw)).listen_found .debug pattern
    (momentAfter? engine.clock limits.receive) limits.bound, engine.expect_eq limits raw pattern⟩

/-- An expect has its match with the first characters with which its pattern matches, and then
the session forgets everything. -/
theorem shortest_of_expect {engine : Engine} {limits : Limits} {raw : String} {pattern : Pattern}
    (done : (engine.expect limits raw pattern).1 = .done) :
    let next := (engine.expect limits raw pattern).2
    Shortest (engine.session.MatchesBehind pattern) (next.takenSince engine) ∧
      next.session = (engine.session.pushAll (next.takenSince engine)).forget := by
  obtain ⟨heard, last, listened, result⟩ := engine.exists_listened_expect limits raw pattern
  cases heard with
  | reached =>
      let opened := engine.log (.expecting raw)
      have forgotten : Onward last last.forget := .of_eq rfl rfl
      have onward := forgotten.trans (last.forget.onward_log (.matched raw))
      have quiet : (last.forget.log (.matched raw)).takenSince last = [] :=
        takenSince_note rfl last.forget
      have same : (last.forget.log (.matched raw)).takenSince engine = last.takenSince opened := by
        rw [(engine.onward_log (.expecting raw)).takenSince_trans
            (listened.onward.trans onward),
          listened.onward.takenSince_trans onward, quiet, List.append_nil, log,
          takenSince_note rfl, List.nil_append]
        rfl
      rw [result]
      simp only [whenHeard, same]
      exact ⟨listened.reached rfl, congrArg Session.forget listened.session⟩
  | late => rw [result] at done; cases done
  | cut => rw [result] at done; cases done
  | stuck => rw [result] at done; cases done

end Engine

theorem Deed.Matches.shortest {deed : Deed} {pattern : Pattern} (matched : deed.Matches pattern) :
    Shortest (deed.engine.session.MatchesBehind pattern) deed.taken ∧
      deed.next.session = deed.heard.forget := by
  obtain ⟨engine, limits, step⟩ := deed
  obtain ⟨done, raw, rfl⟩ := matched
  exact Engine.shortest_of_expect done

namespace Engine

/-- No character serves two matches.  Whatever is done with an engine has its chronicles.  They
tell in which step every character was taken that was taken at all.  An expect has its match
with the first characters with which its pattern matches.  What the session remembers in any
later step, before that step makes it forget something, are ends of what was taken since that
match, and of the lower-case forms of these characters. -/
theorem no_character_matches_twice (device : Device) (turns : List Turn) :
    let last := (ofDevice device).after turns
    (∃ deeds, Chronicle (ofDevice device) deeds last) ∧
      ∀ deeds, Chronicle (ofDevice device) deeds last →
        takenChars last.past = deeds.flatMap Deed.taken ∧
        (∀ deed ∈ deeds, ∀ pattern, deed.Matches pattern →
          Shortest (deed.engine.session.MatchesBehind pattern) deed.taken ∧
            deed.next.session = deed.heard.forget) ∧
        ∀ earlier previous between deed later,
          deeds = earlier ++ previous :: (between ++ deed :: later) →
            ∀ pattern, previous.Matches pattern →
              let since := (between ++ [deed]).flatMap Deed.taken
              deed.heard.text.toList <:+ since ∧
                deed.heard.lowered.toList <:+ Text.lowerEach since ∧
                  deed.heard.line.toList <:+ since := by
  intro last
  refine ⟨chronicled_after (ofDevice device) turns, fun deeds chronicle => ⟨?_, ?_, ?_⟩⟩
  · rw [← chronicle.takenSince_eq]
    exact (chronicle.leads progression_onward).takenChars_eq
  · exact fun deed _ pattern matched => matched.shortest
  · rintro earlier previous between deed later rfl pattern matched since
    have forgotten := (matched.shortest).2
    have along := ((chronicle.split).2.split).1
    have recalls := (along.leads progression_recalling).2 [] (forgotten ▸ .forget _ _)
    rw [List.nil_append, along.takenSince_eq] at recalls
    have heard : deed.heard.Recalls (between.flatMap Deed.taken ++ deed.taken) :=
      recalls.pushAll deed.taken
    have same : since = between.flatMap Deed.taken ++ deed.taken := by simp [since]
    rw [same]
    exact ⟨heard.text, heard.lowered, heard.line⟩

end Engine

end SerialDialogue
