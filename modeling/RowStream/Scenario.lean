import RowStream.Association
import RowStream.Client.Cued
import RowStream.Client.Faulty
import RowStream.Random.ChaCha
import RowStream.Session
import RowStream.Store.Mishap

/-!
Contract: scripted encounters of sessions with a service.

Owns:
- `Scenario`, one in-memory service with one client on it, a clock, cancellation tokens,
  sessions by identifier and connections by name;
- `Step` and `Reply`, what can be done in a scenario and what comes of it;
- `Scenario.perform`, which carries out one step, and `Scenario.close`, which lets go of
  the sessions left.

The client is the service itself or one with faults on the way. Cues stand in front of
both; a request may go past cues and faults directly to the service.
-/

namespace RowStream

/-- The state behind the client of a scenario. -/
abbrev Backstage := Cues × FaultInjector × Store

/-- A session, and the token it listens to. -/
structure Actor where
  session : Session
  token : Option String

/-- A connection held outside of sessions. -/
structure Connection where
  appender : Appender
  /-- Past cues and faults. -/
  direct : Bool

structure Scenario where
  /-- Whether faults can strike between sessions and service. -/
  faulty : Bool
  /-- Whether time is out of reach of the steps. -/
  realTime : Bool
  stage : Stage Backstage
  actors : List (String × Actor) := []
  connections : List (String × Connection) := []

/-- What can be done in a scenario. -/
inductive Step where
  | start (id table : String) (config : Except ConfigError Config) (schema : Schema)
      (seed : UInt64) (token : Option String)
  | add (id : String) (row : Row) (times : Nat)
  | commit (id : String)
  | abort (id : String)
  | inspect (id : String)
  | drop (id : String)
  | plan (mishap : Mishap)
  | cue (cues : Cues)
  | cancel (token : String)
  | advance (duration : Duration)
  | setClock (now : UInt64)
  | create (parent : String) (kind : StreamKind) (direct : Bool)
  | bind (connection stream : String) (schema : Schema) (direct : Bool)
  | append (connection : String) (batch : Batch) (offset : UInt64)
  | close (connection : String)
  | finalize (stream : String) (direct : Bool)
  | query (stream : String)
  | count
  | setFaults (table : FaultTable)
  | shutdown

/-- What comes of a step. -/
inductive Reply where
  | nothing
  | noSession
  | noConnection
  | started (session : Session)
  | notStarted (error : SessionError)
  | misconfigured (error : ConfigError)
  | added (count : Nat) (failure : Option SessionError) (session : Session)
  | committed (result : Except SessionError Nat) (session : Session)
  | shown (session : Session)
  | dropped
  | created (result : Except Status CreatedStream)
  | bound (result : Except SystemError Unit)
  | appended (reply : AppendReply)
  | closed (result : Except Status Unit)
  | finalized (result : Except Status Nat)
  | queried (record : Option StreamRecord)
  | counted (store : Store)

namespace Scenario

/-- A scenario before its first step. -/
def init (faulty realTime : Bool) (rates : FaultRates) (seed : UInt64) (table : FaultTable)
    (now : UInt64) : Scenario where
  faulty := faulty
  realTime := realTime
  stage :=
    { backend := ({}, { rates := rates, random := .seeded seed, switch := { table := table } }, {})
      clock := { now := now } }

def store (scenario : Scenario) : Store := scenario.stage.backend.2.2

def injector (scenario : Scenario) : FaultInjector := scenario.stage.backend.2.1

private def changeStore (change : Store → Store) (scenario : Scenario) : Scenario :=
  let (cues, injector, store) := scenario.stage.backend
  { scenario with stage := { scenario.stage with backend := (cues, injector, change store) } }

/-- The client of a kind of scenario. -/
def clientOf (faulty : Bool) : Client (Stage Backstage) :=
  (if faulty then Store.client.withFaults else Store.client.onSecond).withCues

/-- The service itself. -/
def service : Client (Stage Backstage) :=
  Store.client.onSecond.onSecond.onStage

def client (scenario : Scenario) (direct : Bool) : Client (Stage Backstage) :=
  if direct then service else clientOf scenario.faulty

def environment (scenario : Scenario) (token : Option String) :
    Environment (Stage Backstage) :=
  .onStage (clientOf scenario.faulty) token

/-- Lets go of one actor's session. -/
private def release (actor : Actor) (scenario : Scenario) : Scenario :=
  { scenario with
    stage := actor.session.release (scenario.environment actor.token) scenario.stage }

/-- Adds a row up to `times` times, until an attempt fails. -/
def addTimes (environment : Environment (Stage Backstage)) (row : Row) :
    (times count : Nat) → Session → Stage Backstage →
      (Nat × Option SessionError) × Session × Stage Backstage
  | 0, count, session, stage => ((count, none), session, stage)
  | times + 1, count, session, stage =>
      match session.add environment row stage with
      | (.ok (), session, stage) => addTimes environment row times (count + 1) session stage
      | (.error error, session, stage) => ((count, some error), session, stage)

/-- Lets an operation of a session run. -/
private def act {α : Type} (id : String) (scenario : Scenario)
    (operation : Environment (Stage Backstage) → Session → Stage Backstage →
      α × Session × Stage Backstage)
    (reply : α → Session → Reply) : Reply × Scenario :=
  match scenario.actors.lookup id with
  | none => (.noSession, scenario)
  | some actor =>
      let (result, session, stage) :=
        operation (scenario.environment actor.token) actor.session scenario.stage
      (reply result session,
        { scenario with
          stage := stage
          actors := Association.set id { actor with session := session } scenario.actors })

/-- Opens a session. One that has the identifier already is let go of afterwards. -/
private def start (id table : String) (config : Config) (schema : Schema) (seed : UInt64)
    (token : Option String) (scenario : Scenario) : Reply × Scenario :=
  let token := if scenario.realTime then token else some (token.getD "main")
  match Session.start (scenario.environment token) table schema config (.seeded seed)
      scenario.stage with
  | (.error error, stage) => (.notStarted error, { scenario with stage := stage })
  | (.ok session, stage) =>
      let previous := scenario.actors.lookup id
      let scenario :=
        { scenario with
          stage := stage
          actors := Association.set id ⟨session, token⟩ scenario.actors }
      (.started session, previous.elim scenario fun actor => scenario.release actor)

private def withoutTime {ρ : Type} (cues : List (Cue ρ)) : List (Cue ρ) :=
  cues.map fun cue => { cue with advance := none }

/-- Puts cues behind those already waiting. -/
private def addCues (cues : Cues) (scenario : Scenario) : Scenario :=
  let cues := if scenario.realTime then
      ⟨withoutTime cues.create, withoutTime cues.append, withoutTime cues.finalize⟩
    else cues
  let (waiting, rest) := scenario.stage.backend
  let waiting := ⟨waiting.create ++ cues.create, waiting.append ++ cues.append,
    waiting.finalize ++ cues.finalize⟩
  { scenario with stage := { scenario.stage with backend := (waiting, rest) } }

/-- Makes a request outside of any session. -/
private def request {α : Type} (scenario : Scenario)
    (make : Stage Backstage → α × Stage Backstage) (reply : α → Reply) : Reply × Scenario :=
  let (answer, stage) := make scenario.stage
  (reply answer, { scenario with stage := stage })

private def bind (connection stream : String) (schema : Schema) (direct : Bool)
    (scenario : Scenario) : Reply × Scenario :=
  let (answer, stage) := (scenario.client direct).bind stream schema scenario.stage
  let scenario := { scenario with stage := stage }
  match answer with
  | .error error => (.bound (.error error), scenario)
  | .ok appender =>
      (.bound (.ok ()),
        { scenario with
          connections := Association.set connection ⟨appender, direct⟩ scenario.connections })

private def append (connection : String) (batch : Batch) (offset : UInt64)
    (scenario : Scenario) : Reply × Scenario :=
  match scenario.connections.lookup connection with
  | none => (.noConnection, scenario)
  | some held =>
      scenario.request ((scenario.client held.direct).append held.appender batch offset)
        .appended

private def closeConnection (connection : String) (scenario : Scenario) : Reply × Scenario :=
  match scenario.connections.lookup connection with
  | none => (.noConnection, scenario)
  | some held =>
      let closed := { held with appender := held.appender.close }
      { scenario with
        connections := Association.set connection closed scenario.connections }.request
        ((scenario.client held.direct).close held.appender) .closed

/-- Carries out one step. -/
def perform (step : Step) (scenario : Scenario) : Reply × Scenario :=
  match step with
  | .start id table config schema seed token =>
      match config with
      | .error error => (.misconfigured error, scenario)
      | .ok config => scenario.start id table config schema seed token
  | .add id row times =>
      scenario.act id (fun environment => addTimes environment row times 0)
        fun (count, failure) session => .added count failure session
  | .commit id =>
      scenario.act id (fun environment session stage => session.commit environment stage)
        .committed
  | .abort id =>
      scenario.act id (fun environment session stage => ((), session.abort environment stage))
        fun _ session => .shown session
  | .inspect id =>
      scenario.act id (fun _ session stage => ((), session, stage))
        fun _ session => .shown session
  | .drop id =>
      match scenario.actors.lookup id with
      | none => (.noSession, scenario)
      | some actor =>
          (.dropped,
            { scenario with
              actors := scenario.actors.filter fun entry => entry.1 != id }.release actor)
  | .plan mishap => (.nothing, scenario.changeStore (Store.plan mishap))
  | .cue cues => (.nothing, scenario.addCues cues)
  | .cancel token => (.nothing, { scenario with stage := scenario.stage.cancel token })
  | .advance duration =>
      (.nothing,
        if scenario.realTime then scenario
        else { scenario with stage := scenario.stage.advance duration })
  | .setClock now =>
      (.nothing,
        if scenario.realTime then scenario
        else { scenario with
          stage := { scenario.stage with clock := scenario.stage.clock.set now } })
  | .create parent kind direct =>
      scenario.request ((scenario.client direct).create parent kind) .created
  | .bind connection stream schema direct => scenario.bind connection stream schema direct
  | .append connection batch offset => scenario.append connection batch offset
  | .close connection => scenario.closeConnection connection
  | .finalize stream direct =>
      scenario.request ((scenario.client direct).finalize stream) .finalized
  | .query stream => (.queried (scenario.store.find? stream), scenario)
  | .count => (.counted scenario.store, scenario)
  | .setFaults table =>
      let (cues, injector, store) := scenario.stage.backend
      let injector := { injector with switch := { injector.switch with table := table } }
      (.nothing, { scenario with
        stage := { scenario.stage with backend := (cues, injector, store) } })
  | .shutdown =>
      (.nothing, { scenario with
        stage := (clientOf scenario.faulty).shutdown scenario.stage })

/-- Carries out steps one after the other. -/
def performAll (steps : List Step) (scenario : Scenario) : List Reply × Scenario :=
  match steps with
  | [] => ([], scenario)
  | step :: rest =>
      let (reply, scenario) := scenario.perform step
      let (replies, scenario) := scenario.performAll rest
      (reply :: replies, scenario)

/-- Lets go of all sessions, in the order of their identifiers. -/
def close (scenario : Scenario) : Scenario :=
  let actors := scenario.actors.mergeSort fun left right => decide (left.1 ≤ right.1)
  { actors.foldl (fun scenario entry => scenario.release entry.2) scenario with actors := [] }

end Scenario

end RowStream
