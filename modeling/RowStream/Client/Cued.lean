import RowStream.Stage

/-!
Contract: a client with prepared reactions to coming requests.

Owns:
- `Cue`, what happens when a request is made: a token is cancelled, the clock moves on, a
  reply is given in the place of the wrapped client; `Cue.time`, how far the clock moves;
- `Cues`, the cues waiting for each kind of request;
- `Client.withCues`, which wraps any client.

Each request takes the first cue of its kind, if there is one.
-/

namespace RowStream

/-- What happens when a request is made, in this order. -/
structure Cue (ρ : Type) where
  cancel : Option String := none
  advance : Option Duration := none
  reply : Option ρ := none

/-- The cues waiting for each kind of request. -/
structure Cues where
  create : List (Cue (Except Status String)) := []
  append : List (Cue AppendReply) := []
  finalize : List (Cue (Except Status Nat)) := []

namespace Cue

variable {ρ σ : Type}

/-- What a cue does to the stage. -/
def enact (cue : Cue ρ) (stage : Stage σ) : Stage σ :=
  let stage := match cue.cancel with
    | some token => stage.cancel token
    | none => stage
  match cue.advance with
  | some duration => stage.advance duration
  | none => stage

/-- The time that passes at a request, with or without a cue. -/
def time (cue : Option (Cue ρ)) : Duration :=
  (cue.bind advance).getD .zero

/-- A cue moves the clock by what it says, also if it cancels a token besides. -/
theorem clock_enact (cue : Cue ρ) (stage : Stage σ) :
    (cue.enact stage).clock = stage.clock.advance (time (some cue)) := by
  obtain ⟨cancel, advance, reply⟩ := cue
  cases advance with
  | some duration => cases cancel <;> rfl
  | none =>
      have still := (SimClock.advance_zero stage.clock).symm
      cases cancel with
      | some token => exact still
      | none => exact still

end Cue

namespace Client

variable {σ α ρ : Type}

private def onInner (request : σ → α × σ) (stage : Stage (Cues × σ)) :
    α × Stage (Cues × σ) :=
  let (answer, state) := request stage.backend.2
  (answer, { stage with backend := (stage.backend.1, state) })

/-- Takes the first of the cues, enacts it, and lets its reply or else the request answer. -/
private def takeCue (cues : List (Cue ρ)) (keep : List (Cue ρ) → Cues → Cues)
    (answer : ρ → α) (request : σ → α × σ) (stage : Stage (Cues × σ)) :
    α × Stage (Cues × σ) :=
  match cues with
  | [] => onInner request stage
  | cue :: later =>
      let stage :=
        cue.enact { stage with backend := (keep later stage.backend.1, stage.backend.2) }
      match cue.reply with
      | some reply => (answer reply, stage)
      | none => onInner request stage

/-- A client whose requests take cues. -/
def withCues (inner : Client σ) : Client (Stage (Cues × σ)) where
  create := fun parent kind stage =>
    takeCue stage.backend.1.create (fun later cues => { cues with create := later })
      (fun reply => reply.map (CreatedStream.mk · kind)) (inner.create parent kind) stage
  bind := fun stream schema stage => onInner (inner.bind stream schema) stage
  append := fun appender batch offset stage =>
    takeCue stage.backend.1.append (fun later cues => { cues with append := later })
      id (inner.append appender batch offset) stage
  close := fun appender stage => onInner (inner.close appender) stage
  finalize := fun stream stage =>
    takeCue stage.backend.1.finalize (fun later cues => { cues with finalize := later })
      id (inner.finalize stream) stage
  shutdown := fun stage =>
    { stage with backend := (stage.backend.1, inner.shutdown stage.backend.2) }

private theorem clock_takeCue (cues : List (Cue ρ)) (keep : List (Cue ρ) → Cues → Cues)
    (answer : ρ → α) (request : σ → α × σ) (stage : Stage (Cues × σ)) :
    (takeCue cues keep answer request stage).2.clock =
      stage.clock.advance (Cue.time cues.head?) := by
  cases cues with
  | nil => exact (SimClock.advance_zero stage.clock).symm
  | cons cue later =>
      rw [takeCue]
      cases cue.reply with
      | some reply => exact cue.clock_enact _
      | none => exact cue.clock_enact _

/-- Only the cue that a request takes moves the clock. -/
theorem clock_finalize_withCues (inner : Client σ) (stream : String)
    (stage : Stage (Cues × σ)) :
    (inner.withCues.finalize stream stage).2.clock =
      stage.clock.advance (Cue.time stage.backend.1.finalize.head?) :=
  clock_takeCue _ _ _ _ stage

end Client

end RowStream
