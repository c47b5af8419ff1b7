import RowStream.Proofs.Config.Ceiling
import RowStream.Proofs.Config.Gate
import RowStream.Proofs.Session.Coherence

/-!
Contract: how many bytes of rows an append request carries.

Owns: `Request.CarriesAtMost`, and that every course only makes such requests.

Main statement: `Course.payload_within_message`. The ceiling is exact up to 2^53 bytes, and off by
at most one part in 2^53 + 1 beyond.
-/

namespace RowStream

variable {σ : Type}

/-- An append request carries no more than so many bytes of rows; others carry none. -/
def Request.CarriesAtMost (bytes : Nat) : Request → Prop
  | .append _ batch _ => batch.byteSize ≤ bytes
  | _ => True

namespace Course

variable {environment : Environment σ} {course : Course σ} {table : String} {schema : Schema}
  {config : Config} {random : Random} {state : σ}

theorem validate_of_start
    (started : start environment table schema config random state = .ok course) :
    config.validate = .ok () :=
  (Session.validate_of_start (start_eq started).1).1

theorem carries_start
    (started : start environment table schema config random state = .ok course) :
    ∀ request ∈ course.requests, request.CarriesAtMost config.ceiling := by
  have added : Request.Added (Request.CarriesAtMost config.ceiling) [] course.requests :=
    (step_of_start started).requests_added True.intro (fun _ => True.intro) fun _ => True.intro
  exact added.forall_mem (by simp)

/-- What is sent is the buffer, and the buffer fits into a request. -/
theorem carries_perform (consistent : course.session.Consistent) (move : Move σ) :
    Request.Added (Request.CarriesAtMost course.session.ceiling) course.requests
      (course.perform environment move).requests := by
  have buffer : course.session.pending.byteSize ≤ course.session.ceiling := by
    rw [← consistent.bytes_eq]
    exact consistent.bytes_le
  exact course.requests_perform move (fun _ => buffer) (fun _ => True.intro)
    (fun _ => True.intro) fun _ => True.intro

/-- No request of a session is larger than the ceiling. -/
theorem carries_run
    (started : start environment table schema config random state = .ok course)
    (moves : List (Move σ)) :
    ∀ request ∈ (course.run environment moves).requests,
      request.CarriesAtMost config.ceiling := by
  have settings : course.session.ceiling = config.ceiling := ceiling_run started []
  exact (run_induction
    (fun reached => reached.session.Consistent ∧ reached.session.ceiling = config.ceiling ∧
      ∀ request ∈ reached.requests, request.CarriesAtMost config.ceiling)
    (fun _ => True)
    (fun reached move ⟨consistent, same, carries⟩ _ =>
      ⟨consistent_perform consistent move,
        (congrArg Config.ceiling (config_perform reached move)).trans same,
        (same ▸ carries_perform consistent move).forall_mem carries⟩)
    moves (fun _ _ => trivial) course
    ⟨consistent_start started, settings, carries_start started⟩).2.2

/-- The ceiling of a configuration in use is not above the largest message, and is the one that was
asked for, up to a slack that is nothing for the first `2 ^ 53` bytes. No append request carries
more. -/
theorem payload_within_message (config : Config) :
    (config.validate = .ok () →
      config.ceiling ≤ config.maxMessageBytes.toNat + Config.slack config.maxMessageBytes) ∧
      (∀ bytes : UInt64,
        (Config.withCeiling bytes).ceiling ≤ bytes.toNat + Config.slack bytes ∧
          bytes.toNat ≤ (Config.withCeiling bytes).ceiling + Config.slack bytes) ∧
      (∀ bytes : UInt64, bytes.toNat ≤ 2 ^ 53 → Config.slack bytes = 0) ∧
      ∀ {σ : Type} (environment : Environment σ) (table : String) (schema : Schema)
        (random : Random) (state : σ) (course : Course σ),
        start environment table schema config random state = .ok course →
          ∀ (moves : List (Move σ)) (appender : Appender) (batch : Batch) (offset : UInt64),
            .append appender batch offset ∈ (course.run environment moves).requests →
              batch.byteSize ≤ config.ceiling ∧
                batch.byteSize ≤
                  config.maxMessageBytes.toNat + Config.slack config.maxMessageBytes := by
  have within (valid : config.validate = .ok ()) :
      config.ceiling ≤ config.maxMessageBytes.toNat + Config.slack config.maxMessageBytes := by
    have sound := config.validate_eq_ok_iff.mp valid
    exact Config.ceiling_le sound.ratio_pos sound.ratio_le_one
  refine ⟨within, Config.ceiling_withCeiling, fun _ => Config.slack_eq_zero, ?_⟩
  intro σ environment table schema random state course started moves appender batch offset sent
  have carried : batch.byteSize ≤ config.ceiling := carries_run started moves _ sent
  exact ⟨carried, Nat.le_trans carried (within (validate_of_start started))⟩

/-- Of rows for requests of four bytes the second does not fit beside the first, which is sent. -/
theorem payload_within_message_of_overflow :
    ∃ course appender batch offset,
      let environment := Environment.simulated false none
      start environment "table" ⟨"Row", .empty⟩ (Config.withCeiling 4) (.seeded 0)
          { backend := ({ rates := FaultRates.none, random := .seeded 0 }, {}) } = .ok course ∧
        .append appender batch offset ∈
          (course.run environment [.add (filledRow 3 1), .add (filledRow 2 3)]).requests ∧
        batch.byteSize = 3 ∧ batch.byteSize ≤ (Config.withCeiling 4).ceiling ∧
        (Config.withCeiling 4).ceiling ≤ 4 := by
  have ran : ∃ course appender batch offset,
      let environment := Environment.simulated false none
      start environment "table" ⟨"Row", .empty⟩ (Config.withCeiling 4) (.seeded 0)
          { backend := ({ rates := FaultRates.none, random := .seeded 0 }, {}) } = .ok course ∧
        (course.run environment [.add (filledRow 3 1), .add (filledRow 2 3)]).requests[2]? =
          some (.append appender batch offset) ∧
        batch.byteSize = 3 := by
    refine ⟨_, _, _, _, rfl, rfl, rfl⟩
  obtain ⟨course, appender, batch, offset, started, third, bytes⟩ := ran
  obtain ⟨_, whole, exact, carried⟩ := payload_within_message (Config.withCeiling 4)
  have sent := List.mem_of_getElem? third
  have most := (whole 4).1
  rw [exact 4 (by decide)] at most
  exact ⟨course, appender, batch, offset, started, sent, bytes,
    (carried _ _ _ _ _ course started _ appender batch offset sent).1, most⟩

/-- Three bytes beyond `2 ^ 53` the ceiling is rounded up. -/
theorem payload_above_message :
    let config := Config.withCeiling 9007199254740995
    config.validate = .ok () ∧ config.maxMessageBytes.toNat < config.ceiling ∧
      config.ceiling ≠ 9007199254740995 := by
  intro config
  have sound : config.Sound :=
    ⟨by decide +kernel, by decide +kernel, by decide +kernel, by decide +kernel,
      by decide +kernel, by decide +kernel⟩
  exact ⟨config.validate_eq_ok_iff.mpr sound, by decide +kernel, by decide +kernel⟩

end Course

end RowStream
