import SerialDialogue.Proofs.Engine.Truncation
import SerialDialogue.Proofs.TryBlock

/-!
# Accounts of command lists

What an engine carries out for a list of commands, command by command: a step, or the course
of a try block.  A `Ledger` is a chain of such accounts in which each one begins with the engine
that the one before it left.  How the list ends follows from how its commands ended
(`Sequenced`), and so does what its failure blames.
-/

namespace SerialDialogue

/-! ## Lists that end at their first failure -/

/-- How a list ends whose first command has the given place, from the texts of its commands and
the endings of those that were carried out: nothing follows a command that is not done. -/
inductive Sequenced : Nat → List String → List Ending → Ending → Prop where
  | finished (place : Nat) : Sequenced place [] [] .done
  | failed (place : Nat) (text : String) (later : List String) (source : Failure) :
      Sequenced place (text :: later) [.failed source] (.failed (.command place text source))
  | unreturned (place : Nat) (text : String) (later : List String) {ending : Ending} :
      ¬ ending.returns → Sequenced place (text :: later) [ending] ending
  | next {place : Nat} (text : String) {later : List String} {endings : List Ending}
      {ending : Ending} :
      Sequenced (place + 1) later endings ending →
        Sequenced place (text :: later) (.done :: endings) ending

/-- The failure names the first of the commands that was not done, by its place and its text,
and the failure of that command.  Nothing was carried out behind it. -/
def Failure.Blames (failure : Failure) (texts : List String) (endings : List Ending)
    (source : Failure) : Prop :=
  ∃ place text, failure = .command place text source ∧ texts[place]? = some text ∧
    endings = List.replicate place .done ++ [.failed source]

namespace Sequenced

variable {place : Nat} {texts : List String} {endings : List Ending} {ending : Ending}

theorem exists_place {failure : Failure} (sequenced : Sequenced place texts endings ending)
    (failed : ending = .failed failure) :
    ∃ ahead text source, failure = .command (place + ahead) text source ∧
      texts[ahead]? = some text ∧ endings = List.replicate ahead .done ++ [.failed source] := by
  induction sequenced with
  | finished => cases failed
  | failed place text later source =>
      cases failed
      exact ⟨0, text, source, rfl, rfl, rfl⟩
  | unreturned place text later unreturned =>
      subst failed
      exact absurd trivial unreturned
  | next text _ ih =>
      obtain ⟨ahead, text, source, blamed, named, carried⟩ := ih failed
      refine ⟨ahead + 1, text, source, ?_, named, ?_⟩
      · rw [blamed, Nat.add_assoc, Nat.add_comm 1]
      · rw [carried]
        rfl

theorem exists_blames {failure : Failure} (sequenced : Sequenced 0 texts endings ending)
    (failed : ending = .failed failure) : ∃ source, failure.Blames texts endings source := by
  obtain ⟨ahead, text, source, blamed, named, carried⟩ := sequenced.exists_place failed
  exact ⟨source, ahead, text, by simpa using blamed, named, carried⟩

theorem exists_of_failed_mem {source : Failure} (sequenced : Sequenced place texts endings ending)
    (failed : .failed source ∈ endings) :
    ∃ place text, ending = .failed (.command place text source) := by
  induction sequenced with
  | finished => cases failed
  | failed place text later source' =>
      obtain rfl : source = source' := by simpa using failed
      exact ⟨place, text, rfl⟩
  | unreturned place text later unreturned =>
      rw [← List.mem_singleton.1 failed] at unreturned
      exact absurd trivial unreturned
  | next text _ ih => exact ih (by simpa using failed)

theorem eq_of_done (sequenced : Sequenced place texts endings ending) (done : ending = .done) :
    endings = List.replicate texts.length .done := by
  induction sequenced with
  | finished => rfl
  | failed => cases done
  | unreturned place text later unreturned =>
      subst done
      exact absurd trivial unreturned
  | next text _ ih => rw [ih done, List.length_cons, List.replicate_succ]

end Sequenced

theorem Attempted.sequenced {index : Nat} {steps : List Step} {record : StepRecord}
    {ending : Ending} (attempted : Attempted index steps record ending) :
    Sequenced index (steps.map Step.text) (record.map Prod.snd) ending := by
  induction attempted with
  | finished index => exact .finished index
  | failed index step later source => exact .failed index step.text _ source
  | unreturned index step later unreturned => exact .unreturned index step.text _ unreturned
  | next step _ ih => exact .next step.text ih

/-! ## Accounts -/

/-- How a try block ends, from the attempts that were made: as the last one did, where it was
done or failed for good; otherwise with the failure of that one, unless the script to fall back
to does not return. -/
inductive TryCourse.Settles (block : TryBlock) (fallback : Option (List Step))
    (course : TryCourse) : Ending → Prop where
  | last : ¬ course.last.Mendable → course.recovery = [] →
      Settles block fallback course course.last.ending
  | failed {failure : Failure} : course.last.ending = .failed failure → failure.kind ≠ .channel →
      Settles block fallback course (.failed (.tryBlockFailed block.name fallback.isSome failure))
  | unreturned {ending : Ending} : course.last.Mendable → ¬ ending.returns →
      Settles block fallback course ending

/-- What was carried out for one command, and how that ended. -/
inductive CommandAccount where
  | step (instruction : Step) (ending : Ending)
  | attempt (block : TryBlock) (main : List Step) (fallback : Option (List Step))
      (course : TryCourse) (ending : Ending)

namespace CommandAccount

def command : CommandAccount → Command
  | step instruction _ => .step instruction
  | attempt block main fallback _ _ => .attempt block main fallback

def ending : CommandAccount → Ending
  | step _ ending => ending
  | attempt _ _ _ _ ending => ending

/-- The steps that were carried out, those of a script to fall back to apart. -/
def foreground : CommandAccount → StepRecord
  | step instruction ending => [(instruction, ending)]
  | attempt _ _ _ course _ => course.attempts.flatMap Attempt.record

/-- The account is right: it leads from the one engine to the other one. -/
inductive Holds (limits : Limits) : Engine → CommandAccount → Engine → Prop where
  | step {engine next : Engine} {instruction : Step} {ending : Ending} :
      engine.perform limits instruction = (ending, next) →
        Holds limits engine (.step instruction ending) next
  | attempt {engine next : Engine} {block : TryBlock} {main : List Step}
      {fallback : Option (List Step)} {course : TryCourse} {ending : Ending} :
      Course limits engine course.record next → course.Attempting block main →
        course.recovery.map Prod.fst <+: fallback.getD [] →
          course.Settles block fallback ending →
            Holds limits engine (.attempt block main fallback course ending) next

end CommandAccount

/-- The accounts that lead from one engine to another one.  Between two commands nothing happens
except that something is said. -/
inductive Ledger (limits : Limits) : Engine → List CommandAccount → Engine → Prop where
  | done (engine : Engine) : Ledger limits engine [] engine
  | said {engine last : Engine} {entry : LogEntry} {accounts : List CommandAccount} :
      entry.speaker = .engine ∨ entry.speaker = .dialogue →
        Ledger limits (engine.log entry) accounts last → Ledger limits engine accounts last
  | carried {engine next last : Engine} {account : CommandAccount}
      {accounts : List CommandAccount} :
      account.Holds limits engine next → Ledger limits next accounts last →
        Ledger limits engine (account :: accounts) last

namespace Engine

variable (limits : Limits)

/-- Behind its last attempt a block falls back to its other script. -/
theorem exists_holds_behind_failure {engine next : Engine} {block : TryBlock}
    {main : List Step} {course : TryCourse} {failure : Failure}
    (steps : Course limits engine course.record next) (nothingElse : course.recovery = [])
    (attempting : course.Attempting block main)
    (failed : course.last.ending = .failed failure) (notChannel : failure.kind ≠ .channel)
    (recovery : List Step) :
    let result :=
      match next.performFallback limits block recovery with
      | (.done, engine) => (Ending.failed (.tryBlockFailed block.name true failure), engine)
      | ended => ended
    ∃ whole, CommandAccount.Holds limits engine
      (.attempt block main (some recovery) whole result.1) result.2 := by
  intro result
  obtain ⟨record, recovers, earlier, returned, -⟩ :=
    exists_course_performFallback limits next block recovery
  let whole : TryCourse := { course with recovery := record }
  have same : whole.record = course.record ++ record := by
    simp [whole, TryCourse.record, TryCourse.attempts, nothingElse]
  have attemptingWhole : whole.Attempting block main :=
    ⟨attempting.attempted, attempting.second_iff⟩
  refine ⟨whole, .attempt ?_ attemptingWhole earlier ?_⟩
  · rw [same]
    rcases recovered : next.performFallback limits block recovery
      with ⟨_ | other | _ | _, last⟩ <;>
      rw [recovered] at recovers <;> simp only [result, recovered] <;>
      exact steps.append recovers
  · rcases recovered : next.performFallback limits block recovery
      with ⟨_ | other | _ | _, last⟩ <;>
      rw [recovered] at returned <;> simp only [result, recovered]
    case done => exact .failed failed notChannel
    case failed => exact absurd (returned trivial).1 (by simp)
    all_goals exact .unreturned ⟨failure, failed, notChannel⟩ id

theorem exists_holds_performAttempt (engine : Engine) (block : TryBlock) (main : List Step)
    (fallback : Option (List Step)) :
    ∃ course, CommandAccount.Holds limits engine (.attempt block main fallback course
        (engine.performAttempt limits block main fallback).1)
      (engine.performAttempt limits block main fallback).2 := by
  obtain ⟨course, steps, nothingElse, attempting, ended⟩ := exists_course_performAttempts
    limits (engine.log (.info .attempt ("TRY: Executing try block " ++
      Text.quote block.name ++ " with script " ++ Text.quote block.script))) block main
  have nothing : course.recovery.map Prod.fst <+: fallback.getD [] := by
    rw [nothingElse]
    exact List.nil_prefix
  have settled (unmendable : ¬ course.last.Mendable) :
      course.Settles block fallback course.last.ending := .last unmendable nothingElse
  rcases performed : (engine.log (.info .attempt ("TRY: Executing try block " ++
      Text.quote block.name ++ " with script " ++
        Text.quote block.script))).performAttempts limits block main
    with ⟨_ | failure | _ | _, next⟩ <;>
    rw [performed] at steps ended <;> simp only at steps ended <;>
    simp only [performAttempt, performed] <;>
    simp only [Attempt.Mendable, ← ended] at settled
  case done =>
    exact ⟨course, .attempt (.said rfl (steps.append_said rfl)) attempting nothing
      (settled (by simp))⟩
  case failed =>
    split
    · rename_i channel
      refine ⟨course, .attempt (.said rfl steps) attempting nothing (settled ?_)⟩
      rintro ⟨other, same, notChannel⟩
      cases same
      exact notChannel channel
    · rename_i notChannel
      cases fallback with
      | none =>
          exact ⟨course, .attempt (.said rfl (steps.append_said rfl)) attempting nothing
            (.failed ended.symm notChannel)⟩
      | some recovery =>
          exact exists_holds_behind_failure limits (.said rfl (steps.append_said rfl))
            nothingElse attempting ended.symm notChannel recovery
  all_goals
    exact ⟨course, .attempt (.said rfl steps) attempting nothing (settled (by simp))⟩

theorem exists_holds_performCommand (engine : Engine) (command : Command) :
    ∃ account, account.command = command ∧
      account.ending = (engine.performCommand limits command).1 ∧
        CommandAccount.Holds limits engine account (engine.performCommand limits command).2 := by
  cases command with
  | step instruction => exact ⟨.step instruction _, rfl, rfl, .step rfl⟩
  | attempt block main fallback =>
      obtain ⟨course, holds⟩ := exists_holds_performAttempt limits engine block main fallback
      exact ⟨.attempt block main fallback course _, rfl, rfl, holds⟩

theorem exists_ledger_executeFrom (engine : Engine) (index total : Nat)
    (commands : List Command) :
    ∃ accounts, Ledger limits engine accounts
        (engine.executeFrom limits index total commands).2 ∧
      accounts.map CommandAccount.command <+: commands ∧
        Sequenced index (commands.map Command.text) (accounts.map CommandAccount.ending)
          (engine.executeFrom limits index total commands).1 := by
  induction commands generalizing engine index with
  | nil => exact ⟨[], .done engine, List.nil_prefix, .finished index⟩
  | cons command later ih =>
      obtain ⟨account, same, ended, holds⟩ := exists_holds_performCommand limits
        (engine.log (.info .engine ("Executing command " ++ toString (index + 1) ++ "/" ++
          toString total ++ ": " ++ command.text))) command
      have alone : [account].map CommandAccount.command <+: command :: later := by
        rw [List.map_singleton, same]
        exact List.cons_prefix_cons.2 ⟨rfl, List.nil_prefix⟩
      rcases performed : (engine.log (.info .engine ("Executing command " ++
          toString (index + 1) ++ "/" ++ toString total ++ ": " ++
            command.text))).performCommand limits command
        with ⟨_ | source | _ | _, next⟩ <;>
        rw [performed] at ended holds <;> simp only [executeFrom, performed]
      case done =>
        obtain ⟨accounts, ledger, earlier, sequenced⟩ := ih next (index + 1)
        refine ⟨account :: accounts, .said (.inl rfl) (.carried holds ledger), ?_, ?_⟩
        · rw [List.map_cons, same]
          exact List.cons_prefix_cons.2 ⟨rfl, earlier⟩
        · rw [List.map_cons, List.map_cons, ended]
          exact .next command.text sequenced
      case failed =>
        refine ⟨[account], .said (.inl rfl) (.carried holds (.done next)), alone, ?_⟩
        rw [List.map_singleton, List.map_cons, ended]
        exact .failed index command.text _ source
      all_goals
        refine ⟨[account], .said (.inl rfl) (.carried holds (.done next)), alone, ?_⟩
        rw [List.map_singleton, List.map_cons, ended]
        exact .unreturned index command.text _ id

end Engine

end SerialDialogue
