import RowStream.Client

/-!
Contract: the surroundings of simulated sessions.

Owns:
- `Client.along`, a client of a part of the state as a client of the whole;
- `Stage`, a backend with a simulated clock, cancellation tokens by name and the reports
  made so far;
- the host and the environment that a stage offers to a session.
-/

namespace RowStream

variable {σ τ : Type}

/-- A client of a part of the state as a client of the whole. -/
def Client.along (part : τ → σ) (replace : σ → τ → τ) (client : Client σ) : Client τ where
  create := fun parent kind whole =>
    let (answer, changed) := client.create parent kind (part whole)
    (answer, replace changed whole)
  bind := fun stream schema whole =>
    let (answer, changed) := client.bind stream schema (part whole)
    (answer, replace changed whole)
  append := fun appender batch offset whole =>
    let (answer, changed) := client.append appender batch offset (part whole)
    (answer, replace changed whole)
  close := fun appender whole =>
    let (answer, changed) := client.close appender (part whole)
    (answer, replace changed whole)
  finalize := fun stream whole =>
    let (answer, changed) := client.finalize stream (part whole)
    (answer, replace changed whole)
  shutdown := fun whole => replace (client.shutdown (part whole)) whole

/-- A client of the second half of a pair. -/
def Client.onSecond {ρ : Type} (client : Client σ) : Client (ρ × σ) :=
  client.along Prod.snd fun changed whole => (whole.1, changed)

/-- What simulated sessions run on. -/
structure Stage (σ : Type) where
  backend : σ
  clock : SimClock := {}
  /-- Names of the cancelled tokens. -/
  cancelled : List String := []
  events : Array Event := #[]

namespace Stage

def report (event : Event) (stage : Stage σ) : Stage σ :=
  { stage with events := stage.events.push event }

def sleep (duration : Duration) (stage : Stage σ) : Stage σ :=
  { stage with clock := stage.clock.sleep duration }

def advance (duration : Duration) (stage : Stage σ) : Stage σ :=
  { stage with clock := stage.clock.advance duration }

def cancel (token : String) (stage : Stage σ) : Stage σ :=
  { stage with cancelled := token :: stage.cancelled }

/-- Whether a token is cancelled; what has no token never is. -/
def isCancelled (token : Option String) (stage : Stage σ) : Bool :=
  token.any stage.cancelled.contains

/-- The stage as the host of a session that listens to a token. -/
def host (token : Option String) : Host (Stage σ) where
  now := fun stage => stage.clock.now
  sleep := sleep
  cancelled := isCancelled token
  report := report

end Stage

/-- A client of a stage's backend as a client of the stage. -/
def Client.onStage (client : Client σ) : Client (Stage σ) :=
  client.along Stage.backend fun changed stage => { stage with backend := changed }

/-- The environment of a session on a stage. -/
def Environment.onStage (client : Client (Stage σ)) (token : Option String) :
    Environment (Stage σ) :=
  ⟨client, Stage.host token⟩

end RowStream
