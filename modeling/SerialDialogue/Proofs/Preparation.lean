import SerialDialogue.Dialogue
import SerialDialogue.Proofs.Script.Reading

/-!
# Preparation

Before a dialogue touches its device it is prepared: the timeouts are read, the book is made,
the requested names are looked up and the scripts are parsed.  This file says which failures
can come of that, and that nothing else happens meanwhile.
-/

namespace SerialDialogue

/-- Whatever failure the result is, it is an allowed one. -/
def FailsOnly {α : Type} (allowed : Failure → Prop) (result : Except Failure α) : Prop :=
  ∀ failure, result = .error failure → allowed failure

namespace FailsOnly

variable {α β : Type} {allowed : Failure → Prop}

theorem ok (value : α) : FailsOnly allowed (.ok value) := by
  intro failure failed
  cases failed

theorem error {failure : Failure} (allows : allowed failure) :
    FailsOnly allowed (.error failure : Except Failure α) := by
  rintro _ ⟨⟩
  exact allows

theorem bind {result : Except Failure α} {next : α → Except Failure β}
    (first : FailsOnly allowed result) (second : ∀ value, FailsOnly allowed (next value)) :
    FailsOnly allowed (result >>= next) := by
  cases result with
  | error failure => exact error (first failure rfl)
  | ok value => exact second value

theorem mapError {ε : Type} {wrap : ε → Failure} (allows : ∀ cause, allowed (wrap cause))
    (result : Except ε α) : FailsOnly allowed (result.mapError wrap) := by
  cases result with
  | error cause => exact error (allows cause)
  | ok value => exact ok value

theorem mapM {step : α → Except Failure β} (fails : ∀ value, FailsOnly allowed (step value))
    (values : List α) : FailsOnly allowed (values.mapM step) := by
  induction values with
  | nil => exact ok []
  | cons value later ih =>
      rw [List.mapM_cons]
      exact bind (fails value) fun _ => bind ih fun _ => ok _

theorem mapM_option {step : α → Except Failure β} (fails : ∀ value, FailsOnly allowed (step value))
    (value : Option α) : FailsOnly allowed (value.mapM step) := by
  cases value with
  | none => exact ok none
  | some value => exact bind (fails value) fun _ => ok _

end FailsOnly

/-! ## Failures -/

/-- The layers of the failures that a preparation can end with. -/
def preparationLayers : List (List Failure.Layer) :=
  [[.config], [.resolution], [.script, .parse]]

/-- A failure that a preparation can end with. -/
def Failure.OfPreparation (failure : Failure) : Prop :=
  failure.layers ∈ preparationLayers

theorem Script.failsOnly_parse? (body : String) :
    FailsOnly (fun failure => failure.layers = [.parse]) (parse? body) := by
  intro failure failed
  obtain ⟨_, _, _, _, -, rfl⟩ := parse?_eq_error_iff.1 failed
  rfl

theorem Config.failsOnly_timeouts (config : Config) :
    FailsOnly Failure.OfPreparation config.timeouts :=
  .mapError (fun _ => by simp [Failure.OfPreparation, Failure.layers, preparationLayers]) _

namespace Book

variable (book : Book)

theorem failsOnly_ofConfig? (config : Config) :
    FailsOnly Failure.OfPreparation (ofConfig? config) := by
  unfold ofConfig?
  split
  · exact .error (by simp [Failure.OfPreparation, Failure.layers, preparationLayers])
  · exact .ok _

theorem failsOnly_resolve (requested : List String) :
    FailsOnly Failure.OfPreparation (book.resolve requested) := by
  unfold resolve
  split
  · exact .ok _
  · refine .mapM (fun name => ?_) requested
    unfold lookUp
    split
    · exact .ok _
    · exact .error (by simp [Failure.OfPreparation, Failure.layers, preparationLayers])

theorem failsOnly_stepsOf (name : String) :
    FailsOnly Failure.OfPreparation (book.stepsOf name) := by
  unfold stepsOf
  split
  · exact .error (by simp [Failure.OfPreparation, Failure.layers, preparationLayers])
  · rename_i script _
    cases parsed : Script.parse? script.body with
    | ok steps => exact .ok steps
    | error failure =>
        have layers := Script.failsOnly_parse? script.body failure parsed
        exact .error (by simp [Failure.OfPreparation, Failure.layers, layers, preparationLayers])

theorem failsOnly_compile (entries : List Entry) :
    FailsOnly Failure.OfPreparation (book.compile entries) := by
  refine .bind (.mapM (fun entry => ?_) entries) fun _ => .ok _
  cases entry with
  | script script => exact .bind (book.failsOnly_stepsOf script.name) fun _ => .ok _
  | attempt block =>
      exact .bind (book.failsOnly_stepsOf block.script) fun _ =>
        .bind (.mapM_option book.failsOnly_stepsOf block.fallbackName) fun _ => .ok _

end Book

namespace Config

theorem failsOnly_select (config : Config) (requested : List String) :
    FailsOnly Failure.OfPreparation (config.select requested) :=
  .bind config.failsOnly_timeouts fun _ => .bind (Book.failsOnly_ofConfig? config) fun book =>
    .bind (book.failsOnly_resolve requested) fun _ => .ok _

/-- A preparation fails with a failure of the configuration, of a name or of a script line. -/
theorem failsOnly_prepare (config : Config) (requested : List String) :
    FailsOnly Failure.OfPreparation (config.prepare requested).2 := by
  unfold prepare
  cases selected : config.select requested with
  | error failure => exact .error (config.failsOnly_select requested failure selected)
  | ok selection =>
      obtain ⟨timeouts, book, entries⟩ := selection
      cases compiled : book.compile entries with
      | error failure =>
          simp only [compiled]
          exact .error (book.failsOnly_compile entries failure compiled)
      | ok commands =>
          simp only [compiled]
          exact .ok _

theorem speaker_of_mem_prepare {config : Config} {requested : List String} {entry : LogEntry}
    (member : entry ∈ (config.prepare requested).1) : entry.speaker = .dialogue := by
  unfold prepare at member
  cases selected : config.select requested with
  | error failure =>
      rw [selected] at member
      cases member
  | ok selection =>
      obtain ⟨timeouts, book, entries⟩ := selection
      rw [selected] at member
      cases compiled : book.compile entries with
      | error failure =>
          simp only [compiled, List.mem_cons, List.not_mem_nil, or_false] at member
          rcases member with rfl | rfl | rfl <;> rfl
      | ok commands =>
          simp only [compiled, List.mem_append, List.mem_cons, List.not_mem_nil, or_false]
            at member
          rcases member with (rfl | rfl | rfl) | rfl <;> rfl

end Config

/-! ## Saying several things -/

namespace Engine

/-- What does not change when something is said does not change when several things are. -/
theorem logAll_eq {α : Type} {view : Engine → α}
    (same : ∀ engine entry, view (log engine entry) = view engine) (engine : Engine)
    (entries : List LogEntry) : view (engine.logAll entries) = view engine := by
  induction entries generalizing engine with
  | nil => rfl
  | cons entry later ih => exact (ih (engine.log entry)).trans (same engine entry)

@[simp]
theorem clock_logAll (engine : Engine) (entries : List LogEntry) :
    (engine.logAll entries).clock = engine.clock :=
  logAll_eq (fun _ _ => rfl) engine entries

@[simp]
theorem channel_logAll (engine : Engine) (entries : List LogEntry) :
    (engine.logAll entries).channel = engine.channel :=
  logAll_eq (fun _ _ => rfl) engine entries

@[simp]
theorem written_logAll (engine : Engine) (entries : List LogEntry) :
    (engine.logAll entries).written = engine.written := by
  refine logAll_eq (fun engine entry => ?_) engine entries
  simp [written, log, note]

end Engine

end SerialDialogue
