import SerialDialogue.Proofs.Engine.Activity

/-!
# The course of a try block

Which steps a try block carries out, how often, in which order, and what becomes of
it.  A `Course` is a chain of single steps in which each one begins with the engine that
the one before it left, so it accounts for everything that was carried out.  Every try
block has its course: one or two attempts at the main script and, behind them, the script
to fall back to.
-/

namespace SerialDialogue

/-- Steps in the order in which they were carried out, and how each of them ended. -/
abbrev StepRecord := List (Step × Ending)

/-- The steps that lead from one engine to another one.  Between two steps nothing
happens except that try blocks say something. -/
inductive Course (limits : Limits) : Engine → StepRecord → Engine → Prop where
  | done (engine : Engine) : Course limits engine [] engine
  | said {engine last : Engine} {entry : LogEntry} {record : StepRecord} :
      entry.speaker = .attempt → Course limits (engine.log entry) record last →
        Course limits engine record last
  | performed {engine next last : Engine} {step : Step} {ending : Ending}
      {record : StepRecord} :
      engine.perform limits step = (ending, next) → Course limits next record last →
        Course limits engine ((step, ending) :: record) last

namespace Course

variable {limits : Limits} {first middle last : Engine} {earlier later : StepRecord}

theorem append (before : Course limits first earlier middle)
    (after : Course limits middle later last) :
    Course limits first (earlier ++ later) last := by
  induction before with
  | done => exact after
  | said speaks _ ih => exact said speaks (ih after)
  | performed step _ ih => exact performed step (ih after)

theorem append_said (before : Course limits first earlier middle) {entry : LogEntry}
    (speaks : entry.speaker = .attempt) :
    Course limits first earlier (middle.log entry) := by
  simpa using before.append (said speaks (done _))

end Course

/-- One attempt at the rest of a script, whose first step has the given place: its steps
were carried out in order, up to the first that was not done. -/
inductive Attempted : Nat → List Step → StepRecord → Ending → Prop where
  | finished (index : Nat) : Attempted index [] [] .done
  | failed (index : Nat) (step : Step) (later : List Step) (source : Failure) :
      Attempted index (step :: later) [(step, .failed source)]
        (.failed (.command index step.text source))
  | unreturned (index : Nat) (step : Step) (later : List Step) {ending : Ending} :
      ¬ ending.returns → Attempted index (step :: later) [(step, ending)] ending
  | next {index : Nat} (step : Step) {later : List Step} {record : StepRecord}
      {ending : Ending} :
      Attempted (index + 1) later record ending →
        Attempted index (step :: later) ((step, .done) :: record) ending

theorem Attempted.returns_iff {index : Nat} {steps : List Step} {record : StepRecord}
    {ending : Ending} (attempted : Attempted index steps record ending) :
    ending.returns ↔ ∀ carried ∈ record, carried.2.returns := by
  induction attempted with
  | finished => simp [Ending.returns]
  | failed => simp [Ending.returns]
  | unreturned => simp
  | next _ _ ih => simpa [Ending.returns] using ih

/-- An attempt at a script: the steps that were carried out and how it ended. -/
structure Attempt where
  record : StepRecord
  ending : Ending

/-- The attempt failed for another reason than the channel, so that it may be mended. -/
def Attempt.Mendable (attempt : Attempt) : Prop :=
  ∃ failure : Failure, attempt.ending = .failed failure ∧ failure.kind ≠ .channel

/-- What a try block carries out: an attempt at its main script, perhaps another one,
and the steps of the script to fall back to. -/
structure TryCourse where
  first : Attempt
  second : Option Attempt
  recovery : StepRecord

namespace TryCourse

/-- The attempts in the order in which they were made. -/
def attempts (course : TryCourse) : List Attempt :=
  course.first :: course.second.toList

/-- The attempt behind which there is no other one. -/
def last (course : TryCourse) : Attempt :=
  course.second.getD course.first

/-- All the steps that were carried out. -/
def record (course : TryCourse) : StepRecord :=
  course.attempts.flatMap Attempt.record ++ course.recovery

/-- The rules of a try block: what is carried out, and how the block ends. -/
structure Follows (course : TryCourse) (block : TryBlock) (main : List Step)
    (fallback : Option (List Step)) (ending : Ending) : Prop where
  /-- Every attempt is one at the main script. -/
  attempted : ∀ attempt ∈ course.attempts, Attempted 0 main attempt.record attempt.ending
  /-- There is a second attempt where the first may be mended and the block retries. -/
  second_iff : course.second.isSome ↔ block.retry ∧ course.first.Mendable
  /-- The block succeeds when the first attempt does, or the second one that follows it. -/
  done_iff : ending = .done ↔
    course.first.ending = .done ∨
      (block.retry ∧ course.first.Mendable ∧ ∃ other ∈ course.second, other.ending = .done)
  /-- Behind a success nothing else is carried out. -/
  recovery_of_done : ending = .done → course.recovery = []
  /-- A failure of the channel is the result; nothing else is carried out. -/
  channel : ∀ attempt ∈ course.attempts, ∀ failure : Failure,
    attempt.ending = .failed failure → failure.kind = .channel →
      ending = .failed failure ∧ course.last = attempt ∧ course.recovery = []
  /-- Otherwise all attempts were made, the script to fall back to is carried out step
  by step, and if it comes to an end the block fails with the last attempt's failure. -/
  otherwise : ∀ failure : Failure,
    course.last.ending = .failed failure → failure.kind ≠ .channel →
      course.second.isSome = block.retry ∧
        course.recovery.map Prod.fst <+: fallback.getD [] ∧
          (ending.returns →
            course.recovery.map Prod.fst = fallback.getD [] ∧
              ending = .failed (.tryBlockFailed block.name fallback.isSome failure))
  /-- The block comes to an end when all its steps do. -/
  returns_iff : ending.returns ↔ ∀ carried ∈ course.record, carried.2.returns

/-- The attempts of a course are attempts at the main script, and there is a second one
where the first may be mended and the block retries. -/
structure Attempting (course : TryCourse) (block : TryBlock) (main : List Step) : Prop where
  attempted : ∀ attempt ∈ course.attempts, Attempted 0 main attempt.record attempt.ending
  second_iff : course.second.isSome ↔ block.retry ∧ course.first.Mendable

theorem last_mem (course : TryCourse) : course.last ∈ course.attempts := by
  rcases second : course.second with _ | other <;> simp [attempts, last, second]

namespace Attempting

variable {course : TryCourse} {block : TryBlock} {main : List Step}
  (attempting : course.Attempting block main)

include attempting

/-- Behind an attempt that cannot be mended there is no other one. -/
theorem eq_last_or_mendable {attempt : Attempt} (made : attempt ∈ course.attempts) :
    attempt = course.last ∨ attempt.Mendable := by
  rcases second : course.second with _ | other
  · left
    simpa [attempts, last, second] using made
  · have mendable : course.first.Mendable := (attempting.second_iff.1 (by simp [second])).2
    have oneOf : attempt = course.first ∨ attempt = other := by
      simpa [attempts, second] using made
    rcases oneOf with rfl | rfl
    · exact .inr mendable
    · left
      simp [last, second]

/-- All the attempts that the block allows were made where the last one may be mended. -/
theorem second_isSome_of_last_mendable (mendable : course.last.Mendable) :
    course.second.isSome = block.retry := by
  rcases second : course.second with _ | other
  · have first : course.last = course.first := by simp [last, second]
    have notAgain : ¬ (block.retry ∧ course.first.Mendable) := fun again => by
      simpa [second] using attempting.second_iff.2 again
    cases retries : block.retry with
    | false => rfl
    | true => exact absurd ⟨retries, first ▸ mendable⟩ notAgain
  · have again := attempting.second_iff.1 (by simp [second])
    simp [again.1]

theorem last_done_iff :
    course.last.ending = .done ↔
      course.first.ending = .done ∨
        (block.retry ∧ course.first.Mendable ∧
          ∃ other ∈ course.second, other.ending = .done) := by
  rcases second : course.second with _ | other
  · simp [last, second]
  · obtain ⟨retries, mendable⟩ := attempting.second_iff.1 (by simp [second])
    obtain ⟨failure, failed, _⟩ := id mendable
    simp [last, second, retries, mendable, failed]

theorem last_returns_iff :
    course.last.ending.returns ↔
      ∀ carried ∈ course.attempts.flatMap Attempt.record, carried.2.returns := by
  constructor
  · intro returns carried member
    obtain ⟨attempt, made, inRecord⟩ := List.mem_flatMap.1 member
    have attemptReturns : attempt.ending.returns := by
      rcases attempting.eq_last_or_mendable made with rfl | ⟨failure, failed, _⟩
      · exact returns
      · simp [failed, Ending.returns]
    exact (attempting.attempted attempt made).returns_iff.1 attemptReturns carried inRecord
  · intro allReturn
    apply (attempting.attempted _ course.last_mem).returns_iff.2
    intro carried inRecord
    exact allReturn carried (List.mem_flatMap.2 ⟨_, course.last_mem, inRecord⟩)

theorem follows_last {fallback : Option (List Step)} (nothingElse : course.recovery = [])
    (unmendable : ¬ course.last.Mendable) :
    course.Follows block main fallback course.last.ending where
  attempted := attempting.attempted
  second_iff := attempting.second_iff
  done_iff := attempting.last_done_iff
  recovery_of_done _ := nothingElse
  channel attempt made failure failed channel := by
    rcases attempting.eq_last_or_mendable made with rfl | ⟨other, failedOther, notChannel⟩
    · exact ⟨failed, rfl, nothingElse⟩
    · rw [failed, Ending.failed.injEq] at failedOther
      exact absurd channel (failedOther ▸ notChannel)
  otherwise failure failed notChannel := absurd ⟨failure, failed, notChannel⟩ unmendable
  returns_iff := by
    simpa [record, nothingElse] using attempting.last_returns_iff

theorem follows_recovery {fallback : Option (List Step)} {failure : Failure}
    {ending : Ending} (failed : course.last.ending = .failed failure)
    (notChannel : failure.kind ≠ .channel)
    (steps : course.recovery.map Prod.fst <+: fallback.getD [])
    (notDone : ending ≠ .done)
    (returned : ending.returns →
      course.recovery.map Prod.fst = fallback.getD [] ∧
        ending = .failed (.tryBlockFailed block.name fallback.isSome failure))
    (returns_iff : ending.returns ↔ ∀ carried ∈ course.recovery, carried.2.returns) :
    course.Follows block main fallback ending where
  attempted := attempting.attempted
  second_iff := attempting.second_iff
  done_iff := by
    rw [← attempting.last_done_iff, failed]
    simpa using notDone
  recovery_of_done done := absurd done notDone
  channel attempt made other failedOther channel := by
    rcases attempting.eq_last_or_mendable made with rfl | ⟨third, failedThird, mendable⟩
    · rw [failed, Ending.failed.injEq] at failedOther
      exact absurd channel (failedOther ▸ notChannel)
    · rw [failedOther, Ending.failed.injEq] at failedThird
      exact absurd channel (failedThird ▸ mendable)
  otherwise other failedOther mendable := by
    rw [failed, Ending.failed.injEq] at failedOther
    subst failedOther
    have retried :=
      attempting.second_isSome_of_last_mendable ⟨failure, failed, notChannel⟩
    exact ⟨retried, steps, returned⟩
  returns_iff := by
    have attemptsReturn :=
      attempting.last_returns_iff.1 (by rw [failed]; trivial)
    rw [returns_iff]
    constructor
    · intro recovers carried member
      rcases List.mem_append.1 member with inAttempts | inRecovery
      · exact attemptsReturn carried inAttempts
      · exact recovers carried inRecovery
    · intro allReturn carried member
      exact allReturn carried (List.mem_append_right _ member)

end Attempting

end TryCourse

namespace Engine

variable (limits : Limits)

theorem exists_course_performFrom (engine : Engine) (index : Nat) (steps : List Step) :
    ∃ record : StepRecord,
      Course limits engine record (engine.performFrom limits index steps).2 ∧
        Attempted index steps record (engine.performFrom limits index steps).1 := by
  induction steps generalizing engine index with
  | nil => exact ⟨[], .done engine, .finished index⟩
  | cons step later ih =>
      rcases performed : engine.perform limits step with ⟨_ | source | _ | _, next⟩ <;>
        simp only [performFrom, performed]
      case done =>
        obtain ⟨record, course, attempted⟩ := ih next (index + 1)
        exact ⟨_, .performed performed course, .next step attempted⟩
      case failed =>
        exact ⟨_, .performed performed (.done next), .failed index step later source⟩
      case cut =>
        exact ⟨_, .performed performed (.done next), .unreturned index step later id⟩
      case stuck =>
        exact ⟨_, .performed performed (.done next), .unreturned index step later id⟩

/-- The steps of a script to fall back to are all carried out, whatever becomes of
them, unless one never ends. -/
theorem exists_course_performAll (engine : Engine) (steps : List Step) :
    ∃ record : StepRecord,
      Course limits engine record (engine.performAll limits steps).2 ∧
        record.map Prod.fst <+: steps ∧
          ((engine.performAll limits steps).1.returns →
            (engine.performAll limits steps).1 = .done ∧ record.map Prod.fst = steps) ∧
              ((engine.performAll limits steps).1.returns ↔
                ∀ carried ∈ record, carried.2.returns) := by
  induction steps generalizing engine with
  | nil =>
      exact ⟨[], .done engine, by simp, fun _ => ⟨rfl, rfl⟩,
        by simp [performAll, Ending.returns]⟩
  | cons step later ih =>
      rcases performed : engine.perform limits step with ⟨_ | source | _ | _, next⟩ <;>
        simp only [performAll, performed]
      case done =>
        obtain ⟨record, course, earlier, returned, allReturn⟩ := ih next
        refine ⟨_, .performed performed course, by simpa using earlier, fun returns => ?_, ?_⟩
        · obtain ⟨done, carried⟩ := returned returns
          exact ⟨done, by simp [carried]⟩
        · simpa [Ending.returns] using allReturn
      case failed =>
        obtain ⟨record, course, earlier, returned, allReturn⟩ := ih
          (next.log (.warn .attempt ("TRY: Error in except script: " ++ source.message)))
        refine ⟨_, .performed performed (.said rfl course), by simpa using earlier,
          fun returns => ?_, ?_⟩
        · obtain ⟨done, carried⟩ := returned returns
          exact ⟨done, by simp [carried]⟩
        · simpa [Ending.returns] using allReturn
      case cut =>
        exact ⟨_, .performed performed (.done next), by simp, False.elim,
          by simp [Ending.returns]⟩
      case stuck =>
        exact ⟨_, .performed performed (.done next), by simp, False.elim,
          by simp [Ending.returns]⟩

theorem exists_course_performMain (engine : Engine) (block : TryBlock) (main : List Step) :
    ∃ record : StepRecord,
      Course limits engine record (engine.performMain limits block main).2 ∧
        Attempted 0 main record (engine.performMain limits block main).1 := by
  obtain ⟨record, course, attempted⟩ := exists_course_performFrom limits engine 0 main
  rcases performed : engine.performFrom limits 0 main with ⟨_ | failure | _ | _, next⟩ <;>
    rw [performed] at course attempted <;> simp only [performMain, performed]
  case failed =>
    split
    · exact ⟨record, course, attempted⟩
    · exact ⟨record, course.append_said rfl, attempted⟩
  all_goals exact ⟨record, course, attempted⟩

theorem performAttempts_of_not_again {engine : Engine} {block : TryBlock} {main : List Step}
    (notAgain : ∀ failure : Failure,
      (engine.performMain limits block main).1 = .failed failure →
        ¬ (block.retry ∧ failure.kind ≠ .channel)) :
    engine.performAttempts limits block main = engine.performMain limits block main := by
  rcases performed : engine.performMain limits block main with ⟨_ | failure | _ | _, next⟩ <;>
    simp only [performAttempts, performed]
  rw [if_neg (notAgain failure (by rw [performed]))]

/-- The attempts that a try block makes, before anything else is carried out. -/
theorem exists_course_performAttempts (engine : Engine) (block : TryBlock)
    (main : List Step) :
    ∃ course : TryCourse,
      Course limits engine course.record (engine.performAttempts limits block main).2 ∧
        course.recovery = [] ∧ course.Attempting block main ∧
          (engine.performAttempts limits block main).1 = course.last.ending := by
  obtain ⟨record, course, attempted⟩ := exists_course_performMain limits engine block main
  let first : Attempt := ⟨record, (engine.performMain limits block main).1⟩
  by_cases again : block.retry ∧ first.Mendable
  · obtain ⟨retries, failure, failed, notChannel⟩ := id again
    rcases performed : engine.performMain limits block main with ⟨ending, next⟩
    obtain rfl : ending = .failed failure := by simpa [first, performed] using failed
    rw [performed] at course attempted
    obtain ⟨record', course', attempted'⟩ := exists_course_performMain limits
      (next.log (.info .attempt ("TRY: Retrying script " ++ Text.quote block.script ++
        " (attempt 2/2)"))) block main
    simp only [performAttempts, performed, if_pos (And.intro retries notChannel)]
    refine ⟨⟨⟨record, .failed failure⟩, some ⟨record', _⟩, []⟩, ?_, rfl, ⟨?_, ?_⟩, rfl⟩
    · simpa [TryCourse.record, TryCourse.attempts] using course.append (.said rfl course')
    · simpa [TryCourse.attempts] using ⟨attempted, attempted'⟩
    · simpa [Attempt.Mendable] using And.intro retries notChannel
  · have single : engine.performAttempts limits block main =
        engine.performMain limits block main :=
      performAttempts_of_not_again limits fun failure failed retried =>
        again ⟨retried.1, failure, failed, retried.2⟩
    rw [single]
    refine ⟨⟨first, none, []⟩, ?_, rfl, ⟨?_, ?_⟩, rfl⟩
    · simpa [TryCourse.record, TryCourse.attempts] using course
    · simpa [TryCourse.attempts] using attempted
    · simpa using again

/-- The script to fall back to, with what is said before and behind it. -/
theorem exists_course_performFallback (engine : Engine) (block : TryBlock)
    (steps : List Step) :
    ∃ record : StepRecord,
      Course limits engine record (engine.performFallback limits block steps).2 ∧
        record.map Prod.fst <+: steps ∧
          ((engine.performFallback limits block steps).1.returns →
            (engine.performFallback limits block steps).1 = .done ∧
              record.map Prod.fst = steps) ∧
              ((engine.performFallback limits block steps).1.returns ↔
                ∀ carried ∈ record, carried.2.returns) := by
  obtain ⟨record, course, earlier, returned, allReturn⟩ := exists_course_performAll limits
    (engine.log (.info .attempt ("TRY: Executing except script " ++
      Text.quote (block.fallbackName.getD "")))) steps
  rcases performed : (engine.log (.info .attempt ("TRY: Executing except script " ++
      Text.quote (block.fallbackName.getD "")))).performAll limits steps
    with ⟨_ | failure | _ | _, next⟩ <;>
    rw [performed] at course returned allReturn <;> simp only [performFallback, performed]
  case done =>
    exact ⟨record, .said rfl (course.append_said rfl), earlier, by simpa using returned,
      allReturn⟩
  all_goals exact ⟨record, .said rfl course, earlier, returned, allReturn⟩

/-- Behind its last attempt a block falls back to its other script and fails. -/
theorem exists_course_behind_failure {engine next : Engine} {block : TryBlock}
    {main : List Step} {course : TryCourse} {failure : Failure}
    (steps : Course limits engine course.record next) (nothingElse : course.recovery = [])
    (attempting : course.Attempting block main)
    (failed : course.last.ending = .failed failure) (notChannel : failure.kind ≠ .channel)
    (recovery : List Step) :
    ∃ whole : TryCourse,
      Course limits engine whole.record
          (match next.performFallback limits block recovery with
          | (.done, engine) => (Ending.failed (.tryBlockFailed block.name true failure), engine)
          | ended => ended).2 ∧
        whole.Follows block main (some recovery)
          (match next.performFallback limits block recovery with
          | (.done, engine) => (Ending.failed (.tryBlockFailed block.name true failure), engine)
          | ended => ended).1 := by
  obtain ⟨record, recovers, earlier, returned, allReturn⟩ :=
    exists_course_performFallback limits next block recovery
  let whole : TryCourse := { course with recovery := record }
  have same : whole.record = course.record ++ record := by
    simp [whole, TryCourse.record, TryCourse.attempts, nothingElse]
  have attemptingWhole : whole.Attempting block main :=
    ⟨attempting.attempted, attempting.second_iff⟩
  refine ⟨whole, ?_⟩
  rcases recovered : next.performFallback limits block recovery
    with ⟨_ | other | _ | _, last⟩ <;>
    rw [recovered] at recovers returned allReturn <;> simp only [same]
  case failed => simpa using (returned trivial).1
  case done =>
    exact ⟨steps.append recovers, attemptingWhole.follows_recovery failed notChannel earlier
      (by simp) (fun _ => ⟨(returned trivial).2, rfl⟩) allReturn⟩
  all_goals
    exact ⟨steps.append recovers, attemptingWhole.follows_recovery failed notChannel earlier
      (by simp) False.elim allReturn⟩

/-- Every try block has a course that follows the rules of try blocks. -/
theorem exists_tryCourse (engine : Engine) (block : TryBlock) (main : List Step)
    (fallback : Option (List Step)) :
    ∃ course : TryCourse,
      Course limits engine course.record
          (engine.performAttempt limits block main fallback).2 ∧
        course.Follows block main fallback
          (engine.performAttempt limits block main fallback).1 := by
  obtain ⟨course, steps, nothingElse, attempting, ended⟩ := exists_course_performAttempts
    limits (engine.log (.info .attempt ("TRY: Executing try block " ++
      Text.quote block.name ++ " with script " ++ Text.quote block.script))) block main
  rcases performed : (engine.log (.info .attempt ("TRY: Executing try block " ++
      Text.quote block.name ++ " with script " ++
        Text.quote block.script))).performAttempts limits block main
    with ⟨_ | failure | _ | _, next⟩ <;>
    rw [performed] at steps ended <;> simp only at steps ended <;>
    simp only [performAttempt, performed]
  case done =>
    refine ⟨course, .said rfl (steps.append_said rfl), ?_⟩
    rw [ended]
    apply attempting.follows_last nothingElse
    rintro ⟨other, failed, _⟩
    simp [← ended] at failed
  case failed =>
    split
    · rename_i channel
      refine ⟨course, .said rfl steps, ?_⟩
      rw [ended]
      apply attempting.follows_last nothingElse
      rintro ⟨other, failed, notChannel⟩
      rw [← ended, Ending.failed.injEq] at failed
      exact notChannel (failed ▸ channel)
    · rename_i notChannel
      cases fallback with
      | none =>
          refine ⟨course, .said rfl (steps.append_said rfl), ?_⟩
          apply attempting.follows_recovery ended.symm notChannel <;>
            simp [nothingElse, Ending.returns]
      | some recovery =>
          exact exists_course_behind_failure limits (.said rfl (steps.append_said rfl))
            nothingElse attempting ended.symm notChannel recovery
  all_goals
    refine ⟨course, .said rfl steps, ?_⟩
    rw [ended]
    apply attempting.follows_last nothingElse
    rintro ⟨other, failed, _⟩
    simp [← ended] at failed

end Engine

end SerialDialogue
