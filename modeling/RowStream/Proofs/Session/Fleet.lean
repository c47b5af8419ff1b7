import RowStream.Proofs.Session.Conclusion

/-!
Contract: any number of sessions on one service.

Owns:
- `Fleet`, the sessions opened so far with the service that they share, and `Turn`, one thing
  that happens to one of them or around all of them;
- `Fleet.Sound`, the invariant of a whole run: streams of different names, each settled;
- `Fleet.Sound.run`, that every run keeps it.

Main statement: `Fleet.finalized_iff_concluded`, which streams are finalized after a run.
-/

namespace RowStream

structure Member where
  /-- In which states its token is cancelled. -/
  cancelled : SimStage → Bool
  /-- The stream that it was opened on. -/
  stream : String
  /-- Whether it was not let go of yet. -/
  held : Bool := true
  /-- What it came to; its state is that of its last turn. -/
  course : Course SimStage

/-- The sessions opened so far, in their order, on one service. -/
structure Fleet where
  stage : SimStage
  members : List Member := []

/-- What happens next. Sessions are known by their place. -/
inductive Turn where
  | start (cancelled : SimStage → Bool) (table : String) (schema : Schema) (config : Config)
      (random : Random)
  | add (index : Nat) (row : Row)
  | commit (index : Nat)
  | abort (index : Nat)
  | drop (index : Nat)
  | order (mishap : Mishap)
  | around (change : SimStage → SimStage)

/-- What happens around the sessions changes no stream and scripts no row count: the clock
moves on, a token is cancelled, the rates of faults change, somebody creates a stream of their
own or connects to one. -/
def Turn.SparesStreams : Turn → Prop
  | .around change => ∀ stage, Store.Later stage.store (change stage).store ∧
      ∀ stream record, stage.store.find? stream = some record →
        (change stage).store.find? stream = some record
  | _ => True

def Fleet.environment (faulty : Bool) (cancelled : SimStage → Bool) : Environment SimStage :=
  (Environment.simulated faulty none).interruptedBy cancelled

def Member.on (stage : SimStage) (member : Member) : Course SimStage :=
  { member.course with state := stage }

namespace Fleet

def start (faulty : Bool) (cancelled : SimStage → Bool) (table : String) (schema : Schema)
    (config : Config) (random : Random) (fleet : Fleet) : Fleet :=
  match Session.start (environment faulty cancelled).recorded table schema config random
      ([], fleet.stage) with
  | (.error _, _, stage) => { fleet with stage := stage }
  | (.ok session, requests, stage) =>
      { stage := stage
        members := fleet.members ++
          [{ cancelled := cancelled
             stream := session.streamText
             course := { session := session, state := stage, requests := requests } }] }

/-- Calls a session; nothing happens if it does not exist or was let go of. -/
def call (faulty : Bool) (index : Nat) (move : Move SimStage) (fleet : Fleet) : Fleet :=
  match fleet.members[index]? with
  | none => fleet
  | some member =>
      if member.held then
        let course := (member.on fleet.stage).perform (environment faulty member.cancelled) move
        { stage := course.state
          members := fleet.members.set index { member with course := course } }
      else
        fleet

def drop (faulty : Bool) (index : Nat) (fleet : Fleet) : Fleet :=
  match fleet.members[index]? with
  | none => fleet
  | some member =>
      if member.held then
        { stage := ((member.on fleet.stage).drop (environment faulty member.cancelled)).2
          members := fleet.members.set index { member with held := false } }
      else
        fleet

def perform (faulty : Bool) (fleet : Fleet) : Turn → Fleet
  | .start cancelled table schema config random =>
      fleet.start faulty cancelled table schema config random
  | .add index row => fleet.call faulty index (.add row)
  | .commit index => fleet.call faulty index .commit
  | .abort index => fleet.call faulty index .abort
  | .drop index => fleet.drop faulty index
  | .order mishap =>
      { fleet with
        stage := { fleet.stage with
          backend := (fleet.stage.backend.1, fleet.stage.store.plan mishap) } }
  | .around change => { fleet with stage := change fleet.stage }

def run (faulty : Bool) (turns : List Turn) (fleet : Fleet) : Fleet :=
  turns.foldl (perform faulty) fleet

theorem environment_serves (faulty : Bool) (cancelled : SimStage → Bool) :
    Serves (environment faulty cancelled) SimStage.store SimStage.faults :=
  serves_interruptedBy (serves_simulated faulty none) cancelled

/-- The streams of all sessions have names of their own, which the service has used up; each
session is settled with its stream; and a row count waiting in the script had been ordered. -/
structure Sound (Scripted : Nat → Prop) (fleet : Fleet) : Prop where
  named : ∀ member ∈ fleet.members, ∃ parent number,
    member.stream = Store.streamName parent number ∧ number ≤ fleet.stage.store.created
  apart : (fleet.members.map Member.stream).Nodup
  settled : ∀ member ∈ fleet.members,
    (member.on fleet.stage).Settled Scripted SimStage.store member.stream
  scripted : ∀ rows, fleet.stage.store.script.finalizeRowCount = some rows → Scripted rows

variable {Scripted : Nat → Prop} {fleet : Fleet} {stage : SimStage}

/-- What leaves the streams of all sessions alone. -/
theorem Sound.around (sound : Sound Scripted fleet)
    (same : ∀ member ∈ fleet.members,
      stage.store.find? member.stream = fleet.stage.store.find? member.stream)
    (created : fleet.stage.store.created ≤ stage.store.created)
    (scripted : ∀ rows, stage.store.script.finalizeRowCount = some rows → Scripted rows) :
    Sound Scripted { fleet with stage := stage } where
  named member present := by
    obtain ⟨parent, number, spelled, used⟩ := sound.named member present
    exact ⟨parent, number, spelled, Nat.le_trans used created⟩
  apart := sound.apart
  settled member present := (sound.settled member present).of_find? (same member present)
  scripted := scripted

/-- A session that takes a turn changes its own stream at most. -/
theorem Sound.moved (sound : Sound Scripted fleet) {index : Nat} {member moved : Member}
    (present : fleet.members[index]? = some member) (stream : moved.stream = member.stream)
    (confined : Store.ConfinedTo member.stream fleet.stage.store stage.store)
    (later : Store.Later fleet.stage.store stage.store)
    (settled : (moved.on stage).Settled Scripted SimStage.store moved.stream) :
    Sound Scripted { stage := stage, members := fleet.members.set index moved } := by
  have inside : index < fleet.members.length := (List.getElem?_eq_some_iff.mp present).1
  have streams : (fleet.members.set index moved).map Member.stream =
      fleet.members.map Member.stream := by
    rw [List.map_set, stream]
    have named : index < (fleet.members.map Member.stream).length := by simpa using inside
    have here : (fleet.members.map Member.stream)[index] = member.stream := by
      rw [List.getElem_map, (List.getElem?_eq_some_iff.mp present).2]
    rw [← here]
    exact List.set_getElem_self named
  refine ⟨?_, ?_, ?_, ?_⟩
  · intro other listed
    have used : ∃ parent number, other.stream = Store.streamName parent number ∧
        number ≤ fleet.stage.store.created := by
      rcases List.mem_or_eq_of_mem_set listed with before | rfl
      · exact sound.named other before
      · rw [stream]
        exact sound.named member (List.mem_of_getElem? present)
    obtain ⟨parent, number, spelled, used⟩ := used
    exact ⟨parent, number, spelled, Nat.le_trans used later.created_le⟩
  · rw [streams]
    exact sound.apart
  · intro other listed
    obtain ⟨place, found⟩ := List.mem_iff_getElem?.mp listed
    rw [List.getElem?_set] at found
    by_cases same : index = place
    · rw [if_pos same, if_pos inside] at found
      rw [← Option.some.inj found]
      exact settled
    · rw [if_neg same] at found
      have elsewhere : other.stream ≠ member.stream := by
        intro equal
        have places : (fleet.members.map Member.stream)[index]? =
            (fleet.members.map Member.stream)[place]? := by
          rw [List.getElem?_map, List.getElem?_map, present, found]
          exact congrArg some equal.symm
        exact same ((List.getElem?_inj (by simpa using inside) sound.apart).mp places)
      exact (sound.settled other (List.mem_of_getElem? found)).of_find?
        (confined.others other.stream elsewhere)
  · intro rows waiting
    obtain ⟨_, advances⟩ := later
    exact sound.scripted rows (advances.spent rows waiting)

/-- A call of one session leaves every other session its stream. -/
theorem Sound.call (sound : Sound Scripted fleet) (faulty : Bool) (index : Nat)
    (move : Move SimStage) (own : move.Own) : Sound Scripted (fleet.call faulty index move) := by
  unfold Fleet.call
  cases present : fleet.members[index]? with
  | none => exact sound
  | some member =>
      simp only
      split
      · have serves := environment_serves faulty member.cancelled
        have settled := sound.settled member (List.mem_of_getElem? present)
        exact sound.moved present rfl (Course.confined_perform serves settled.kept move own)
          (Course.later_perform serves (member.on fleet.stage) move own)
          (Course.settled_perform serves settled sound.scripted move (own.spares _ _))
      · exact sound

theorem Sound.drop (sound : Sound Scripted fleet) (faulty : Bool) (index : Nat) :
    Sound Scripted (fleet.drop faulty index) := by
  unfold Fleet.drop
  cases present : fleet.members[index]? with
  | none => exact sound
  | some member =>
      simp only
      split
      · have serves := environment_serves faulty member.cancelled
        have settled := sound.settled member (List.mem_of_getElem? present)
        have same := Course.drop_still serves (member.on fleet.stage)
        exact sound.moved present rfl (same.confined member.stream)
          (Course.drop_later serves (member.on fleet.stage))
          (settled.of_find? (same.records member.stream))
      · exact sound

/-- No session has the stream with the next number. -/
theorem Sound.unnamed (sound : Sound Scripted fleet) {member : Member}
    (present : member ∈ fleet.members) (table : String) :
    member.stream ≠ Store.streamName table (fleet.stage.store.created + 1) := by
  obtain ⟨parent, number, spelled, used⟩ := sound.named member present
  intro same
  have equal := Store.streamName_inj (spelled.symm.trans same)
  omega

/-- A session that opens gets a stream that no other session has. -/
theorem Sound.start (sound : Sound Scripted fleet) (faulty : Bool) (cancelled : SimStage → Bool)
    (table : String) (schema : Schema) (config : Config) (random : Random) :
    Sound Scripted (fleet.start faulty cancelled table schema config random) := by
  have serves := environment_serves faulty cancelled
  have step := Session.start_step (environment faulty cancelled).recorded table schema config
    random ([], fleet.stage)
  have confined := step.confined (serves_recorded serves)
  have later := step.kept (later_keeps (serves_recorded serves))
  unfold Fleet.start
  cases opened : Session.start (environment faulty cancelled).recorded table schema config random
      ([], fleet.stage) with
  | mk result rest =>
    rw [opened] at step confined later
    obtain ⟨requests, stage⟩ := rest
    have around : Sound Scripted { fleet with stage := stage } := by
      refine sound.around ?_ later.created_le ?_
      · intro member present
        exact confined.others member.stream (sound.unnamed present table)
      · intro rows waiting
        obtain ⟨_, advances⟩ := later
        exact sound.scripted rows (advances.spent rows waiting)
    cases result with
    | error error => exact around
    | ok session =>
        have started : Course.start (environment faulty cancelled) table schema config random
            fleet.stage = .ok { session := session, state := stage, requests := requests } := by
          unfold Course.start
          rw [opened]
        have name := Course.start_name serves started
        have settled := @Course.settled_start _ _ _ _ _ Scripted serves _ _ _ _ _ started
        refine ⟨?_, ?_, ?_, around.scripted⟩
        · intro member present
          rcases List.mem_append.mp present with before | new
          · exact around.named member before
          · rw [List.mem_singleton.mp new]
            exact ⟨table, _, name.1, name.2⟩
        · rw [List.map_append, List.nodup_append]
          refine ⟨sound.apart, by simp, ?_⟩
          intro stream before other new
          obtain ⟨member, present, equal⟩ := List.mem_map.mp before
          rw [← equal, show other = session.streamText by simpa using new, name.1]
          exact sound.unnamed present table
        · intro member present
          rcases List.mem_append.mp present with before | new
          · exact around.settled member before
          · rw [List.mem_singleton.mp new]
            exact settled

/-! ### Whole runs -/

theorem Sound.perform (sound : Sound Scripted fleet) (faulty : Bool) (turn : Turn)
    (spares : turn.SparesStreams)
    (ordered : ∀ rows, turn = .order (.overrideRowCount rows) → Scripted rows) :
    Sound Scripted (fleet.perform faulty turn) := by
  cases turn with
  | start cancelled table schema config random =>
      exact sound.start faulty cancelled table schema config random
  | add index row => exact sound.call faulty index (.add row) trivial
  | commit index => exact sound.call faulty index .commit trivial
  | abort index => exact sound.call faulty index .abort trivial
  | drop index => exact sound.drop faulty index
  | order mishap =>
      refine sound.around (fun _ _ => rfl) (Nat.le_refl _) fun rows waiting => ?_
      cases mishap with
      | overrideRowCount counted =>
          have same : counted = rows := Option.some.inj waiting
          exact ordered rows (by rw [same])
      | _ => exact sound.scripted rows waiting
  | around change =>
      obtain ⟨later, kept⟩ := spares fleet.stage
      refine sound.around ?_ later.created_le ?_
      · intro member present
        obtain ⟨_, record, found, _⟩ := (sound.settled member present).kept
        exact (kept member.stream record found).trans found.symm
      · intro rows waiting
        obtain ⟨_, advances⟩ := later
        exact sound.scripted rows (advances.spent rows waiting)

/-- The induction is on the turns; every row count that is scripted was ordered in one of them
or before the first. -/
theorem Sound.run (sound : Sound Scripted fleet) (faulty : Bool) (turns : List Turn)
    (spares : ∀ turn ∈ turns, turn.SparesStreams)
    (ordered : ∀ rows, .order (.overrideRowCount rows) ∈ turns → Scripted rows) :
    Sound Scripted (fleet.run faulty turns) := by
  induction turns generalizing fleet with
  | nil => exact sound
  | cons turn rest inductionHypothesis =>
      have moved : Sound Scripted (fleet.perform faulty turn) :=
        sound.perform faulty turn (spares turn (by simp)) fun rows equal =>
          ordered rows (by simp [equal])
      exact inductionHypothesis moved (fun later member => spares later (by simp [member]))
        fun rows member => ordered rows (by simp [member])

/-- Whatever the sessions on one service do, and whatever faults strike: a stream is finalized
if and only if a commit of its session has succeeded or has told another number of rows; and
one that told another number of rows had accepted as many as it expected, and was told a
number that somebody scripted. -/
theorem finalized_iff_concluded (faulty : Bool) (stage : SimStage) (turns : List Turn)
    (spares : ∀ turn ∈ turns, turn.SparesStreams) :
    let fleet := run faulty turns { stage := stage }
    ∀ member ∈ fleet.members,
      (fleet.stage.store.isFinalized member.stream = true ↔
        ∃ answer ∈ member.course.commits,
          (∃ count, answer = .ok count) ∨
            ∃ expected actual, Session.mismatch? answer = some (expected, actual)) ∧
      ∀ answer ∈ member.course.commits, ∀ expected actual,
        Session.mismatch? answer = some (expected, actual) →
          expected = member.course.accepted.length ∧ actual ≠ member.course.accepted.length ∧
            (stage.store.script.finalizeRowCount = some actual ∨
              .order (.overrideRowCount actual) ∈ turns) := by
  intro fleet member present
  have empty : Sound (fun rows => stage.store.script.finalizeRowCount = some rows ∨
      .order (.overrideRowCount rows) ∈ turns) { stage := stage } :=
    ⟨by simp, by simp, by simp, fun _ scripted => Or.inl scripted⟩
  have settled := (empty.run faulty turns spares fun _ => Or.inr).settled member present
  refine ⟨settled.finalized_iff.trans ?_, settled.explained⟩
  have concluding : ∀ answer, Session.concludes answer = true ↔
      (∃ count, answer = .ok count) ∨
        ∃ expected actual, Session.mismatch? answer = some (expected, actual) := by
    intro answer
    cases answer with
    | ok count => simp [Session.concludes, Except.isOk, Except.toBool]
    | error error =>
        simp [Session.concludes, Except.isOk, Except.toBool, Option.isSome_iff_exists]
  simp only [concluding, Member.on]

/-- Two sessions commit. The one that commits first is told the number that was scripted. -/
theorem finalized_iff_concluded_of_override :
    ∃ turns first second,
      turns = [.start (fun _ => false) "table" ⟨"Row", .empty⟩ (Config.withCeiling 4) (.seeded 0),
          .start (fun _ => false) "table" ⟨"Row", .empty⟩ (Config.withCeiling 4) (.seeded 1),
          .add 0 (filledRow 3 1), .add 1 (filledRow 2 2), .order (.overrideRowCount 7),
          .commit 1, .commit 0] ∧
        (∀ turn ∈ turns, turn.SparesStreams) ∧
        let stage : SimStage :=
          { backend := ({ rates := FaultRates.none, random := .seeded 0 }, {}) }
        let fleet := run true turns { stage := stage }
        fleet.members = [first, second] ∧
          first.course.commits = [.ok 1] ∧
          second.course.commits.map Session.mismatch? = [some (1, 7)] ∧
          fleet.stage.store.isFinalized first.stream = true ∧
          fleet.stage.store.isFinalized second.stream = true ∧
          second.course.accepted.length = 1 := by
  have ran : ∃ turns first second,
      turns = [.start (fun _ => false) "table" ⟨"Row", .empty⟩ (Config.withCeiling 4) (.seeded 0),
          .start (fun _ => false) "table" ⟨"Row", .empty⟩ (Config.withCeiling 4) (.seeded 1),
          .add 0 (filledRow 3 1), .add 1 (filledRow 2 2), .order (.overrideRowCount 7),
          .commit 1, .commit 0] ∧
        (run true turns
          { stage := { backend := ({ rates := FaultRates.none, random := .seeded 0 }, {}) } }).members =
          [first, second] ∧
        first.course.commits = [.ok 1] ∧
        second.course.commits.map Session.mismatch? = [some (1, 7)] := by
    refine ⟨_, _, _, rfl, rfl, rfl, rfl⟩
  obtain ⟨turns, first, second, planned, members, succeeded, told⟩ := ran
  have spares : ∀ turn ∈ turns, turn.SparesStreams := by
    rw [planned]
    simp [Turn.SparesStreams]
  have settled := finalized_iff_concluded true
    { backend := ({ rates := FaultRates.none, random := .seeded 0 }, {}) } turns spares
  simp only [members, List.forall_mem_cons] at settled
  obtain ⟨⟨firstFinalized, _⟩, ⟨secondFinalized, explained⟩, _⟩ := settled
  obtain ⟨answer, answers, mismatched⟩ := List.map_eq_singleton_iff.mp told
  have counted := (explained answer (by simp [answers]) 1 7 mismatched).1
  refine ⟨turns, first, second, planned, spares, members, succeeded, told, ?_, ?_, counted.symm⟩
  · exact firstFinalized.mpr ⟨.ok 1, by simp [succeeded], Or.inl ⟨1, rfl⟩⟩
  · exact secondFinalized.mpr ⟨answer, by simp [answers], Or.inr ⟨1, 7, mismatched⟩⟩

end Fleet

end RowStream
