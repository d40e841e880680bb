import SerialDialogue.Command
import SerialDialogue.Engine.Step

/-!
# Runs

How an engine carries out commands.  A try block runs its main script, once more if it
may retry, and then the script to fall back to; it fails whenever no attempt of the main
script succeeded.  A failure of the channel ends it at once.  `Engine.execute` carries
out commands up to the first failure, and `Engine.run` does so under the bound of a
whole run.
-/

namespace SerialDialogue

namespace Engine

/-- Carry out steps up to the first failure, which is reported with the place of the
step among them. -/
def performFrom (engine : Engine) (limits : Limits) (index : Nat) :
    List Step → Ending × Engine
  | [] => (.done, engine)
  | step :: later =>
      match engine.perform limits step with
      | (.done, engine) => engine.performFrom limits (index + 1) later
      | (.failed source, engine) => (.failed (.command index step.text source), engine)
      | ended => ended

/-- Carry out steps one after another whatever their failures, which are only logged. -/
def performAll (engine : Engine) (limits : Limits) : List Step → Ending × Engine
  | [] => (.done, engine)
  | step :: later =>
      match engine.perform limits step with
      | (.done, engine) => engine.performAll limits later
      | (.failed failure, engine) =>
          let remark := LogEntry.warn .attempt ("TRY: Error in except script: " ++ failure.message)
          (engine.log remark).performAll limits later
      | ended => ended

/-- One attempt at the main script of a try block.  A failure of the channel is none
that a further attempt or another script could mend, and it is not remarked on here. -/
def performMain (engine : Engine) (limits : Limits) (block : TryBlock) (main : List Step) :
    Ending × Engine :=
  match engine.performFrom limits 0 main with
  | (.failed failure, engine) =>
      if failure.kind = .channel then
        (.failed failure, engine)
      else
        (.failed failure, engine.log (.warn .attempt ("TRY: Script " ++ Text.quote block.script ++
          " failed: " ++ failure.message)))
  | ended => ended

/-- The attempts at the main script of a try block: one, and a second one where the
first failed and the block may retry. -/
def performAttempts (engine : Engine) (limits : Limits) (block : TryBlock)
    (main : List Step) : Ending × Engine :=
  match engine.performMain limits block main with
  | (.failed failure, engine) =>
      if block.retry ∧ failure.kind ≠ .channel then
        (engine.log (.info .attempt ("TRY: Retrying script " ++ Text.quote block.script ++
          " (attempt 2/2)"))).performMain limits block main
      else
        (.failed failure, engine)
  | ended => ended

def performFallback (engine : Engine) (limits : Limits) (block : TryBlock)
    (steps : List Step) : Ending × Engine :=
  let name := Text.quote (block.fallbackName.getD "")
  let opened := engine.log (.info .attempt ("TRY: Executing except script " ++ name))
  match opened.performAll limits steps with
  | (.done, engine) =>
      (.done, engine.log (.info .attempt ("TRY: Except script " ++ name ++ " completed")))
  | ended => ended

def performAttempt (engine : Engine) (limits : Limits) (block : TryBlock)
    (main : List Step) (fallback : Option (List Step)) : Ending × Engine :=
  let script := Text.quote block.script
  let opened := engine.log (.info .attempt ("TRY: Executing try block " ++ Text.quote block.name ++
    " with script " ++ script))
  match opened.performAttempts limits block main with
  | (.done, engine) =>
      (.done, engine.log (.info .attempt ("TRY: Script " ++ script ++ " completed successfully")))
  | (.failed failure, engine) =>
      if failure.kind = .channel then
        (.failed failure, engine)
      else
        let warned := engine.log (.warn .attempt ("TRY: All attempts failed for script " ++ script))
        let failed := Failure.tryBlockFailed block.name fallback.isSome failure
        match fallback with
        | none => (.failed failed, warned)
        | some steps =>
            match warned.performFallback limits block steps with
            | (.done, engine) => (.failed failed, engine)
            | ended => ended
  | ended => ended

def performCommand (engine : Engine) (limits : Limits) (command : Command) :
    Ending × Engine :=
  match command with
  | .step step => engine.perform limits step
  | .attempt block main fallback => engine.performAttempt limits block main fallback

/-- Carry out commands from the given place among `total`, up to the first failure. -/
def executeFrom (engine : Engine) (limits : Limits) (index total : Nat) :
    List Command → Ending × Engine
  | [] => (.done, engine)
  | command :: later =>
      let opened := engine.log (.info .engine ("Executing command " ++ toString (index + 1) ++
        "/" ++ toString total ++ ": " ++ command.text))
      match opened.performCommand limits command with
      | (.done, engine) => engine.executeFrom limits (index + 1) total later
      | (.failed source, engine) => (.failed (.command index command.text source), engine)
      | ended => ended

/-- Carry out commands up to the first failure. -/
def execute (engine : Engine) (limits : Limits) (commands : List Command) :
    Ending × Engine :=
  engine.executeFrom limits 0 commands.length commands

/-- Carry out commands under the bound of a whole run: the script timeout, extended
where there is a monitor among the commands. -/
def run (engine : Engine) (timeouts : Timeouts) (commands : List Command) :
    Ending × Engine :=
  let extended := commands.any Command.monitors
  let limit :=
    if extended then timeouts.script.saturatingAdd indefiniteLength else timeouts.script
  let opened :=
    if extended then engine.log (.info .engine "Extended timeout for monitor commands") else engine
  let limits : Limits := ⟨timeouts.receive, momentAfter? engine.clock limit⟩
  match opened.execute limits commands with
  | (.cut, engine) => (.failed (.scriptTimeout timeouts.script extended), engine)
  | ended => ended

/-- Let time pass between two runs. -/
def idle (engine : Engine) (millis : Nat) : Engine :=
  engine.readBy (engine.clock + millis)

end Engine

end SerialDialogue
