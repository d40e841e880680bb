import SerialDialogue.Proofs.Engine.Execution
import SerialDialogue.Proofs.Preparation

/-!
# Phases of a dialogue

A dialogue is prepared and then carried out.  What fails in the first phase fails before the
device is touched; what fails in the second one is a send, an expect or the time of the whole
run, wrapped in the places where that happened.
-/

namespace SerialDialogue

/-! ## How steps and commands fail -/

/-- How a step can fail: a send when it is not written or gets lost, an expect when its time is
over.  A monitor never fails. -/
inductive Step.FailsWith (limits : Limits) : Step → Failure → Prop where
  | send (raw : String) (use : ChannelUse) (reason : String) :
      FailsWith limits (.send raw) (.channel use reason)
  | expect (raw : String) (pattern : Pattern) :
      FailsWith limits (.expect raw pattern) (.receiveTimeout raw limits.receive)

/-- A send was not written or got lost. -/
def SendFailed (carried : Step × Ending) : Prop :=
  ∃ raw use reason, carried = (.send raw, .failed (.channel use reason))

namespace Engine

variable {engine : Engine} {limits : Limits} {failure : Failure}

theorem exists_channel_of_send_failed {text : String}
    (failed : (engine.send limits text).1 = .failed failure) :
    ∃ use reason, failure = .channel use reason := by
  unfold send at failed
  split at failed
  · cases failed
  · cases failed
    exact ⟨_, _, rfl⟩
  · cases failed
    exact ⟨_, _, rfl⟩
  · unfold stall at failed
    split at failed <;> cases failed

theorem receiveTimeout_of_expect_failed {raw : String} {pattern : Pattern}
    (failed : (engine.expect limits raw pattern).1 = .failed failure) :
    failure = .receiveTimeout raw limits.receive := by
  unfold expect at failed
  dsimp only at failed
  split at failed <;> cases failed
  rfl

theorem failsWith_of_perform {step : Step}
    (failed : (engine.perform limits step).1 = .failed failure) :
    step.FailsWith limits failure := by
  cases step with
  | send raw =>
      obtain ⟨use, reason, rfl⟩ := exists_channel_of_send_failed failed
      exact .send raw use reason
  | expect raw pattern =>
      rw [receiveTimeout_of_expect_failed failed]
      exact .expect raw pattern
  | monitor raw bound => exact absurd failed (engine.monitor_ne_failed limits raw bound failure)

end Engine

theorem Course.exists_perform {limits : Limits} {engine last : Engine} {record : StepRecord}
    (course : Course limits engine record last) {carried : Step × Ending}
    (member : carried ∈ record) :
    ∃ engine : Engine, (engine.perform limits carried.1).1 = carried.2 := by
  induction course with
  | done => cases member
  | said _ _ ih => exact ih member
  | performed step _ ih =>
      rcases List.mem_cons.1 member with rfl | later
      · exact ⟨_, congrArg Prod.fst step⟩
      · exact ih later

theorem Failure.Blames.kind_eq {failure source : Failure} {texts : List String}
    {endings : List Ending} (blames : failure.Blames texts endings source) :
    failure.kind = source.kind := by
  obtain ⟨place, text, rfl, -⟩ := blames
  rfl

theorem Attempted.exists_blames {steps : List Step} {record : StepRecord} {failure : Failure}
    (attempted : Attempted 0 steps record (.failed failure)) :
    ∃ source step, failure.Blames (steps.map Step.text) (record.map Prod.snd) source ∧
      (step, .failed source) ∈ record := by
  obtain ⟨source, blames⟩ := attempted.sequenced.exists_blames rfl
  obtain ⟨place, text, -, -, carried⟩ := id blames
  have last : Ending.failed source ∈ record.map Prod.snd := by simp [carried]
  obtain ⟨⟨step, _⟩, member, rfl⟩ := List.mem_map.1 last
  exact ⟨source, step, blames, member⟩

namespace CommandAccount

/-- How a command can fail, seen from what was carried out for it.  A step fails by itself.  A
try block fails as the last attempt at its main script where that was for the channel, and
otherwise says that the attempt failed; the attempt blames a step of the script. -/
inductive Fails (limits : Limits) : CommandAccount → Failure → Prop where
  | step {instruction : Step} {failure : Failure} : instruction.FailsWith limits failure →
      Fails limits (.step instruction (.failed failure)) failure
  | channel {block : TryBlock} {main : List Step} {fallback : Option (List Step)}
      {course : TryCourse} {raw reason : String} {use : ChannelUse} {failure : Failure} :
      failure.Blames (main.map Step.text) (course.last.record.map Prod.snd)
          (.channel use reason) →
        (.send raw, .failed (.channel use reason)) ∈ course.last.record →
          Fails limits (.attempt block main fallback course (.failed failure)) failure
  | block {block : TryBlock} {main : List Step} {fallback : Option (List Step)}
      {course : TryCourse} {raw : String} {pattern : Pattern} {failure : Failure} :
      failure.Blames (main.map Step.text) (course.last.record.map Prod.snd)
          (.receiveTimeout raw limits.receive) →
        (.expect raw pattern, .failed (.receiveTimeout raw limits.receive)) ∈
            course.last.record →
          Fails limits (.attempt block main fallback course
              (.failed (.tryBlockFailed block.name fallback.isSome failure)))
            (.tryBlockFailed block.name fallback.isSome failure)

/-- The layers of the failures that a command can end with. -/
def failureLayers : List (List Failure.Layer) :=
  [[.receiveTimeout], [.channel], [.command, .channel],
    [.tryBlockFailed, .command, .receiveTimeout]]

variable {limits : Limits} {engine next : Engine} {account : CommandAccount} {failure : Failure}

theorem Fails.layers_mem (fails : account.Fails limits failure) :
    failure.layers ∈ failureLayers := by
  cases fails with
  | step fails => cases fails <;> simp [Failure.layers, failureLayers]
  | channel blames =>
      obtain ⟨place, text, rfl, -⟩ := blames
      simp [Failure.layers, failureLayers]
  | block blames =>
      obtain ⟨place, text, rfl, -⟩ := blames
      simp [Failure.layers, failureLayers]

theorem record_subset_foreground {block : TryBlock} {main : List Step}
    {fallback : Option (List Step)} {course : TryCourse} {ending : Ending} :
    course.last.record ⊆ (attempt block main fallback course ending).foreground := by
  intro carried member
  exact List.mem_flatMap.2 ⟨course.last, course.last_mem, member⟩

theorem Fails.exists_sendFailed (fails : account.Fails limits failure)
    (channel : failure.kind = .channel) : ∃ carried ∈ account.foreground, SendFailed carried := by
  cases fails with
  | step fails =>
      cases fails with
      | send raw use reason => exact ⟨_, List.mem_singleton_self _, raw, use, reason, rfl⟩
      | expect raw pattern => cases channel
  | channel _ member => exact ⟨_, record_subset_foreground member, _, _, _, rfl⟩
  | block => cases channel

theorem Holds.fails (holds : account.Holds limits engine next)
    (failed : account.ending = .failed failure) : account.Fails limits failure := by
  cases holds with
  | step performed =>
      obtain rfl : _ = Ending.failed failure := failed
      exact .step (Engine.failsWith_of_perform (congrArg Prod.fst performed))
  | attempt steps attempting recovers settles =>
      rename_i block main fallback course ending
      -- Whether it failed for good or not, the last attempt blames one of its steps.
      have blamed {inner : Failure} (ended : course.last.ending = .failed inner) :
          ∃ source step, inner.Blames (main.map Step.text)
              (course.last.record.map Prod.snd) source ∧
            (step, .failed source) ∈ course.last.record ∧ step.FailsWith limits source := by
        have attempted := attempting.attempted _ course.last_mem
        rw [ended] at attempted
        obtain ⟨source, step, blames, member⟩ := attempted.exists_blames
        have inRecord : (step, .failed source) ∈ course.record :=
          List.mem_append_left _ (List.mem_flatMap.2 ⟨_, course.last_mem, member⟩)
        obtain ⟨engine, performed⟩ := steps.exists_perform inRecord
        exact ⟨source, step, blames, member, Engine.failsWith_of_perform performed⟩
      have ended : ending = .failed failure := failed
      cases settles with
      | last unmendable =>
          obtain ⟨source, step, blames, member, fails⟩ := blamed ended
          rw [ended]
          cases fails with
          | send raw use reason => exact .channel blames member
          | expect raw pattern =>
              have timedOut : failure.kind = .receiveTimeout := blames.kind_eq
              exact absurd ⟨failure, ended, by simp [timedOut]⟩ unmendable
      | failed ended' notChannel =>
          cases ended
          obtain ⟨source, step, blames, member, fails⟩ := blamed ended'
          cases fails with
          | send raw use reason => exact absurd blames.kind_eq notChannel
          | expect raw pattern => exact .block blames member
      | unreturned _ unreturned =>
          subst ended
          exact absurd trivial unreturned

/-- A command with a send that failed, outside a script to fall back to, fails for the
channel. -/
theorem Holds.exists_of_sendFailed (holds : account.Holds limits engine next)
    {carried : Step × Ending} (member : carried ∈ account.foreground)
    (sendFailed : SendFailed carried) :
    ∃ failure : Failure, account.ending = .failed failure ∧ failure.kind = .channel := by
  obtain ⟨raw, use, reason, rfl⟩ := sendFailed
  cases holds with
  | step =>
      obtain ⟨rfl, rfl⟩ := Prod.mk.inj (List.mem_singleton.1 member)
      exact ⟨_, rfl, rfl⟩
  | attempt steps attempting recovers settles =>
      rename_i block main fallback course ending
      obtain ⟨attempt, made, inRecord⟩ := List.mem_flatMap.1 member
      have failed : Ending.failed (.channel use reason) ∈ attempt.record.map Prod.snd :=
        List.mem_map.2 ⟨_, inRecord, rfl⟩
      obtain ⟨place, text, ended⟩ :=
        (attempting.attempted attempt made).sequenced.exists_of_failed_mem failed
      have unmendable : ¬ attempt.Mendable := by
        rintro ⟨failure, ended', notChannel⟩
        rw [ended, Ending.failed.injEq] at ended'
        exact notChannel (ended' ▸ rfl)
      obtain rfl : attempt = course.last :=
        (attempting.eq_last_or_mendable made).resolve_right unmendable
      cases settles with
      | last => exact ⟨_, ended, rfl⟩
      | failed ended' notChannel => exact absurd ⟨_, ended', notChannel⟩ unmendable
      | unreturned mendable => exact absurd mendable unmendable

end CommandAccount

namespace Ledger

variable {limits : Limits} {engine last : Engine} {accounts : List CommandAccount}

theorem exists_holds (ledger : Ledger limits engine accounts last) {account : CommandAccount}
    (member : account ∈ accounts) :
    ∃ engine next : Engine, account.Holds limits engine next := by
  induction ledger with
  | done => cases member
  | said _ _ ih => exact ih member
  | carried holds _ ih =>
      rcases List.mem_cons.1 member with rfl | later
      · exact ⟨_, _, holds⟩
      · exact ih later

theorem logAll {entries : List LogEntry}
    (speaks : ∀ entry ∈ entries, entry.speaker = .dialogue)
    (ledger : Ledger limits (engine.logAll entries) accounts last) :
    Ledger limits engine accounts last := by
  induction entries generalizing engine with
  | nil => exact ledger
  | cons entry later ih =>
      refine .said (.inr (speaks entry List.mem_cons_self)) (ih ?_ ledger)
      exact fun other member => speaks other (List.mem_cons_of_mem _ member)

theorem openRun {commands : List Command}
    (ledger : Ledger limits (engine.openRun commands) accounts last) :
    Ledger limits engine accounts last := by
  unfold Engine.openRun at ledger
  split at ledger
  · exact .said (.inl rfl) ledger
  · exact ledger

end Ledger

/-! ## Runs -/

/-- The layers of the failures that a run can end with. -/
def runLayers : List (List Failure.Layer) :=
  [[.scriptTimeout], [.command, .receiveTimeout], [.command, .channel],
    [.command, .command, .channel], [.command, .tryBlockFailed, .command, .receiveTimeout]]

namespace Engine

/-- Commands that are carried out from a moment at which the bound has not come return or are
cut; without a bound they return or never end. -/
theorem execute_returns_or {engine : Engine} {limits : Limits}
    (inTime : comesBy engine.clock limits.bound) (commands : List Command) :
    let ending := (engine.execute limits commands).1
    ending.returns ∨ (ending = .cut ∧ limits.bound ≠ none) ∨
      (ending = .stuck ∧ limits.bound = none) := by
  intro ending
  rcases truncates_execute limits.receive commands _ _ (.refl engine) inTime with
    ⟨same, unbounded | returns, -, -⟩ | ⟨expiry, boundAt, ended, -, -, -, -⟩
  · exact .inr (.inr ⟨same.trans unbounded.2, unbounded.1⟩)
  · exact .inl (Eq.mpr (congrArg Ending.returns same) returns)
  · exact .inr (.inl ⟨ended, boundAt ▸ Option.some_ne_none expiry⟩)

end Engine

/-- How carrying out a plan can end, from what was carried out for its commands. -/
structure Plan.Concludes (plan : Plan) (limits : Limits) (accounts : List CommandAccount)
    (ending : Ending) : Prop where
  /-- The commands were carried out in their order. -/
  inOrder : accounts.map CommandAccount.command <+: plan.commands
  /-- There is an end, unless the clock can tell no bound. -/
  ends : ending.returns ∨ (ending = .stuck ∧ limits.bound = none)
  /-- In success all the commands were carried out, and all of them were done. -/
  done : ending = .done → accounts.map CommandAccount.command = plan.commands ∧
    ∀ account ∈ accounts, account.ending = .done
  /-- There are five forms of failures. -/
  layers : ∀ failure : Failure, ending = .failed failure → failure.layers ∈ runLayers
  /-- All but the end of the time blame the command that was carried out last, for its own
  failure. -/
  blames : ∀ failure : Failure, ending = .failed failure → failure.kind ≠ .scriptTimeout →
    ∃ account source, accounts.getLast? = some account ∧ account.Fails limits source ∧
      failure.Blames (plan.commands.map Command.text) (accounts.map CommandAccount.ending) source
  /-- The failure is one of the channel when a send failed outside the scripts to fall back
  to. -/
  channel_iff : (∃ failure : Failure, ending = .failed failure ∧ failure.kind = .channel) ↔
    ∃ carried ∈ accounts.flatMap CommandAccount.foreground, SendFailed carried

section Conclusion

variable {plan : Plan} {limits : Limits} {engine last : Engine}
  {accounts : List CommandAccount} {ending : Ending}

theorem Ledger.exists_blames (ledger : Ledger limits engine accounts last)
    (sequenced : Sequenced 0 (plan.commands.map Command.text)
      (accounts.map CommandAccount.ending) ending)
    {failure : Failure} (failed : ending = .failed failure) :
    ∃ account source, accounts.getLast? = some account ∧ account.Fails limits source ∧
      failure.Blames (plan.commands.map Command.text)
        (accounts.map CommandAccount.ending) source := by
  obtain ⟨source, blames⟩ := sequenced.exists_blames failed
  obtain ⟨place, text, -, -, carried⟩ := id blames
  obtain ⟨front, back, rfl, -, one⟩ := List.map_eq_append_iff.1 carried
  obtain ⟨account, nothing, rfl, ended, rest⟩ := List.map_eq_cons_iff.1 one
  obtain rfl := List.map_eq_nil_iff.1 rest
  have among : account ∈ front ++ [account] := by simp
  obtain ⟨engine, next, holds⟩ := ledger.exists_holds among
  exact ⟨account, source, by simp, holds.fails ended, blames⟩

theorem Ledger.channel_iff (ledger : Ledger limits engine accounts last)
    (sequenced : Sequenced 0 (plan.commands.map Command.text)
      (accounts.map CommandAccount.ending) ending) :
    (∃ failure : Failure, ending = .failed failure ∧ failure.kind = .channel) ↔
      ∃ carried ∈ accounts.flatMap CommandAccount.foreground, SendFailed carried := by
  constructor
  · rintro ⟨failure, failed, channel⟩
    obtain ⟨account, source, last, fails, blames⟩ := ledger.exists_blames sequenced failed
    obtain ⟨carried, member, sendFailed⟩ :=
      fails.exists_sendFailed (blames.kind_eq.symm.trans channel)
    exact ⟨carried, List.mem_flatMap.2 ⟨account, List.mem_of_getLast? last, member⟩, sendFailed⟩
  · rintro ⟨carried, member, sendFailed⟩
    obtain ⟨account, among, inForeground⟩ := List.mem_flatMap.1 member
    obtain ⟨engine, next, holds⟩ := ledger.exists_holds among
    obtain ⟨source, ended, channel⟩ := holds.exists_of_sendFailed inForeground sendFailed
    have failed : Ending.failed source ∈ accounts.map CommandAccount.ending :=
      ended ▸ List.mem_map_of_mem among
    obtain ⟨place, text, whole⟩ := sequenced.exists_of_failed_mem failed
    exact ⟨_, whole, channel⟩

theorem Ledger.layers_mem (ledger : Ledger limits engine accounts last)
    (sequenced : Sequenced 0 (plan.commands.map Command.text)
      (accounts.map CommandAccount.ending) ending)
    {failure : Failure} (failed : ending = .failed failure) : failure.layers ∈ runLayers := by
  obtain ⟨account, source, -, fails, place, text, rfl, -⟩ :=
    ledger.exists_blames sequenced failed
  have inner := fails.layers_mem
  simp only [CommandAccount.failureLayers, List.mem_cons, List.not_mem_nil, or_false] at inner
  rcases inner with same | same | same | same <;> simp [Failure.layers, runLayers, same]

theorem Sequenced.all_done
    (inOrder : accounts.map CommandAccount.command <+: plan.commands)
    (sequenced : Sequenced 0 (plan.commands.map Command.text)
      (accounts.map CommandAccount.ending) ending) (done : ending = .done) :
    accounts.map CommandAccount.command = plan.commands ∧
      ∀ account ∈ accounts, account.ending = .done := by
  have all := sequenced.eq_of_done done
  constructor
  · have count := congrArg List.length all
    rw [List.length_map, List.length_replicate, List.length_map] at count
    exact inOrder.eq_of_length ((List.length_map _).trans count)
  · intro account among
    have : account.ending ∈ accounts.map CommandAccount.ending := List.mem_map_of_mem among
    rw [all] at this
    exact List.eq_of_mem_replicate this

theorem Ledger.concludes (ledger : Ledger limits engine accounts last)
    (inOrder : accounts.map CommandAccount.command <+: plan.commands)
    (sequenced : Sequenced 0 (plan.commands.map Command.text)
      (accounts.map CommandAccount.ending) ending)
    (ends : ending.returns ∨ (ending = .cut ∧ limits.bound ≠ none) ∨
      (ending = .stuck ∧ limits.bound = none)) (extended : Bool) :
    plan.Concludes limits accounts (Engine.scriptTimedOut plan.timeouts extended ending) := by
  have channel := ledger.channel_iff sequenced
  by_cases cut : ending = .cut
  · subst cut
    refine ⟨inOrder, .inl trivial, nofun, ?_, ?_, ?_⟩
    · rintro _ ⟨⟩
      simp [Failure.layers, runLayers]
    · rintro _ ⟨⟩ other
      exact absurd rfl other
    · rw [← channel]
      constructor
      · rintro ⟨_, ⟨⟩, timeout⟩
        cases timeout
      · rintro ⟨_, ⟨⟩, _⟩
  · rw [Engine.scriptTimedOut_of_ne_cut cut]
    refine ⟨inOrder, ?_, ?_, ?_, ?_, channel⟩
    · rcases ends with returns | ⟨isCut, -⟩ | stuck
      · exact .inl returns
      · exact absurd isCut cut
      · exact .inr stuck
    · exact Sequenced.all_done inOrder sequenced
    · exact fun failure failed => ledger.layers_mem sequenced failed
    · exact fun failure failed _ => ledger.exists_blames sequenced failed

end Conclusion

theorem Engine.run_concludes (engine : Engine) (plan : Plan) :
    let result := engine.run plan.timeouts plan.commands
    let limits : Limits := ⟨plan.timeouts.receive,
      momentAfter? engine.clock (runLength plan.timeouts plan.commands)⟩
    ∃ accounts, Ledger limits engine accounts result.2 ∧
      plan.Concludes limits accounts result.1 := by
  intro result limits
  have clock : (engine.openRun plan.commands).clock = engine.clock := by
    unfold openRun
    split <;> rfl
  have inTime : comesBy (engine.openRun plan.commands).clock limits.bound :=
    clock ▸ comesBy_momentAfter? engine.clock _
  obtain ⟨accounts, ledger, inOrder, sequenced⟩ := exists_ledger_executeFrom limits
    (engine.openRun plan.commands) 0 plan.commands.length plan.commands
  have same : result = _ := run_eq engine plan.timeouts plan.commands
  rw [same]
  exact ⟨accounts, ledger.openRun,
    ledger.concludes inOrder sequenced (execute_returns_or inTime plan.commands) _⟩

/-! ## Dialogues -/

namespace Config

variable {config : Config} {requested : List String} {log : List LogEntry}

theorem converse_of_error {failure : Failure}
    (prepared : config.prepare requested = (log, .error failure)) (device : Device) :
    config.converse requested device = (.failed failure, (Engine.ofDevice device).logAll log) := by
  simp only [converse, prepared]

theorem converse_of_ok {plan : Plan} (prepared : config.prepare requested = (log, .ok plan))
    (device : Device) :
    config.converse requested device =
      ((Engine.ofDevice device).logAll log).run plan.timeouts plan.commands := by
  simp only [converse, prepared]

end Config

/-- A dialogue has two phases.  Either its preparation fails, for the configuration, for a name
or for a line of a script, and then no time has passed and the channel is as it was.  Or the
plan is carried out, command by command, and its end is one that the plan allows. -/
theorem converse_phases (config : Config) (requested : List String) (device : Device) :
    let result := config.converse requested device
    match (config.prepare requested).2 with
    | .error failure =>
        result.1 = .failed failure ∧ failure.layers ∈ preparationLayers ∧
          result.2.clock = 0 ∧ result.2.written = [] ∧ result.2.channel = .ofDevice device
    | .ok plan =>
        let length :=
          if plan.commands.any Command.monitors then
            plan.timeouts.script.saturatingAdd indefiniteLength
          else plan.timeouts.script
        let limits : Limits := ⟨plan.timeouts.receive, momentAfter? 0 length⟩
        ∃ accounts, Ledger limits (.ofDevice device) accounts result.2 ∧
          plan.Concludes limits accounts result.1 := by
  intro result
  have fails := config.failsOnly_prepare requested
  rcases prepared : config.prepare requested with ⟨log, failure | plan⟩
  · have same : result = _ := Config.converse_of_error prepared device
    rw [prepared] at fails
    rw [same]
    exact ⟨rfl, fails failure rfl, Engine.clock_logAll _ _, Engine.written_logAll _ _,
      Engine.channel_logAll _ _⟩
  · have speaks (entry : LogEntry) (member : entry ∈ log) : entry.speaker = .dialogue := by
      have speaker := @Config.speaker_of_mem_prepare config requested entry
      rw [prepared] at speaker
      exact speaker member
    have same : result = _ := Config.converse_of_ok prepared device
    obtain ⟨accounts, ledger, concludes⟩ := ((Engine.ofDevice device).logAll log).run_concludes plan
    rw [Engine.clock_logAll] at ledger concludes
    rw [same]
    exact ⟨accounts, ledger.logAll speaks, concludes⟩

end SerialDialogue
