import RowStream.Config.Toml
import RowStream.Proofs.Binary64.Arithmetic
import RowStream.Proofs.Session.Steps

/-!
Contract: which configurations a session can run with.

Main statement: `Config.gate`. The check of the factor of growth is written as the refusal of what
is below one, and what is not a number is not below one: it passes, while the same check of the
share of a message is written the other way around and refuses it.
-/

namespace RowStream

open Binary64

def RetryPolicy.Grows (policy : RetryPolicy) : Prop :=
  1.0 ≤ policy.multiplier ∨ policy.multiplier.isNaN = true

/-- The gate looks for a multiplier below one, and nothing that is no number is below one. -/
theorem RetryPolicy.not_lt_one_iff {policy : RetryPolicy} :
    ¬ policy.multiplier < 1.0 ↔ policy.Grows := by
  have one : (1.0 : Float).isNaN = false := by decide +kernel
  constructor
  · intro notLess
    cases known : policy.multiplier.isNaN with
    | true => exact Or.inr known
    | false => exact Or.inl (le_of_not_lt one known notLess)
  · rintro (big | unknown) less
    · exact not_lt_of_le big less
    · exact absurd (unknown.symm.trans (lt_iff.mp less).1) (by decide)

namespace Config

/-- What is loaded has been checked. -/
theorem validate_of_ofToml {text : String} {config : Config} (loaded : ofToml text = .ok config) :
    config.validate = .ok () := by
  unfold ofToml at loaded
  split at loaded
  · exact absurd loaded (by simp)
  · split at loaded
    · exact absurd loaded (by simp)
    · next valid =>
        rw [← Except.ok.inj loaded]
        exact valid

/-- No settings come out of a file unchecked. -/
theorem validate_of_ofFile {contents : Option ByteArray} {config : Config}
    (loaded : ofFile contents = .ok config) : config.validate = .ok () := by
  unfold ofFile at loaded
  split at loaded
  · exact absurd loaded (by simp)
  · split at loaded
    · exact absurd loaded (by simp)
    · exact validate_of_ofToml loaded

theorem validate_iff (config : Config) :
    config.validate = .ok () ↔
      0 < config.maxMessageBytes.toNat ∧
        (0.0 < config.requestSizeRatio ∧ config.requestSizeRatio ≤ 1.0) ∧
        1 ≤ config.ceiling ∧ config.retry.Grows ∧
        config.retry.initialDelay ≤ config.retry.maxDelay := by
  rw [validate_eq_ok_iff, ← RetryPolicy.not_lt_one_iff]
  constructor
  · intro sound
    exact ⟨sound.message_pos, ⟨sound.ratio_pos, sound.ratio_le_one⟩, sound.ceiling_pos,
      sound.not_shrinking, sound.initial_le_cap⟩
  · intro ⟨message, ratio, ceiling, growth, cap⟩
    exact ⟨message, ratio.1, ratio.2, ceiling, growth, cap⟩

end Config

namespace Session

variable {σ : Type}

/-- No session opens with settings that the gate refuses. -/
theorem validate_of_start {environment : Environment σ} {table : String} {schema : Schema}
    {config : Config} {random : Random} {state after : σ} {session : Session}
    (opened : start environment table schema config random state = (.ok session, after)) :
    config.validate = .ok () ∧ session.config = config := by
  have step := start_step environment table schema config random state
  rw [opened] at step
  cases step with
  | opened valid answered bound => exact ⟨valid, rfl⟩

/-- A flaw is found before anything is asked for. -/
theorem start_of_flaw (environment : Environment σ) (table : String) (schema : Schema)
    {config : Config} (random : Random) (state : σ) {flaw : ConfigFlaw}
    (flawed : config.validate = .error flaw) :
    start environment table schema config random state =
      (.error (.config (.invalid flaw)), state) := by
  rw [start, flawed]

end Session

namespace Config

/-- What passes the gate, and that nothing passes by it: neither what is loaded nor what a session
runs with, however it was put together. With a flaw no session is opened, and the state of the
service and of everything else is that from before. -/
theorem gate (config : Config) :
    (config.validate = .ok () ↔
      0 < config.maxMessageBytes.toNat ∧
        (0.0 < config.requestSizeRatio ∧ config.requestSizeRatio ≤ 1.0) ∧
        1 ≤ config.ceiling ∧
        (1.0 ≤ config.retry.multiplier ∨ config.retry.multiplier.isNaN = true) ∧
        config.retry.initialDelay ≤ config.retry.maxDelay) ∧
      (∀ text, ofToml text = .ok config → config.validate = .ok ()) ∧
      (∀ contents, ofFile contents = .ok config → config.validate = .ok ()) ∧
      ∀ {σ : Type} (environment : Environment σ) (table : String) (schema : Schema)
        (random : Random) (state : σ),
        (∀ session after,
          Session.start environment table schema config random state = (.ok session, after) →
            config.validate = .ok () ∧ session.config = config) ∧
          ∀ flaw, config.validate = .error flaw →
            Session.start environment table schema config random state =
              (.error (.config (.invalid flaw)), state) := by
  refine ⟨config.validate_iff, fun _ => validate_of_ofToml, fun _ => validate_of_ofFile, ?_⟩
  intro σ environment table schema random state
  exact ⟨fun _ _ => Session.validate_of_start,
    fun _ => Session.start_of_flaw environment table schema random state⟩

/-- A document whose factor is not a number. -/
theorem gate_passes_without_number :
    ∃ config, ofToml "[retry]\nretry_delay_multiplier = nan\n" = .ok config ∧
      config.validate = .ok () ∧ ¬ 1.0 ≤ config.retry.multiplier := by
  have loaded : ((ofToml "[retry]\nretry_delay_multiplier = nan\n").toOption.map
      fun config => decide (1.0 ≤ config.retry.multiplier)) = some false := by decide +kernel
  cases read : ofToml "[retry]\nretry_delay_multiplier = nan\n" with
  | error cause =>
      rw [read] at loaded
      exact absurd loaded (by simp [Except.toOption])
  | ok config =>
      rw [read] at loaded
      refine ⟨config, rfl, validate_of_ofToml read, ?_⟩
      simpa [Except.toOption] using loaded

end Config

end RowStream
