import RowStream.Proofs.Protocol.Following

/-!
Contract: a session on the in-memory service goes where the protocol goes.

Owns:
- `Protocol.run?` and `Course.undertakeAll`, any number of actions and of deeds;
- `Course.Follows`, a session that is where the protocol is.

Main statement: `Course.follows_protocol`. It is proved deed by deed; an aborted or failed
session is not scripted any more, so that what is left in the script does not matter there.
-/

namespace RowStream

variable {stream : String}

/-- What several actions lead to; `none` if the session refuses one of them. -/
def Protocol.run? (protocol : Protocol) : State → List Action → Option State
  | state, [] => some state
  | state, action :: rest =>
      match protocol.step? state action with
      | none => none
      | some next => run? protocol next rest

namespace Course

variable {protocol : Protocol} {token : Option String} {config : Config}
  {course : Course SimStage} {state next : Protocol.State}

def undertakeAll (token : Option String) (deeds : List Deed) (course : Course SimStage) :
    Course SimStage :=
  deeds.foldl (undertake token) course

/-- The session is where the protocol is, and as long as it is open nothing is scripted. -/
structure Follows (token : Option String) (config : Config) (stream : String)
    (course : Course SimStage) (state : Protocol.State) : Prop where
  kept : course.Kept SimStage.store stream
  settings : course.session.config = config
  prepared : course.session.phase = .open →
    course.state.store.script = {} ∧ course.state.isCancelled token = false
  agrees : ∃ attempts, state = course.abstract stream attempts

theorem Follows.phase_eq (follows : Follows token config stream course state) :
    state.phase = course.session.phase := by
  obtain ⟨attempts, agrees⟩ := follows.agrees
  rw [agrees]
  rfl

/-- What is scripted for a deed leaves an open session where it is, in step with its
stream. -/
theorem Follows.ordered (follows : Follows token config stream course state)
    (isOpen : state.phase = .open) (mishaps : List Mishap) :
    ∃ stage record attempts,
      course.run (.simulated false token) (mishaps.map Move.order) =
          { course with state := stage } ∧
        stage.store.script = Script.planAll mishaps {} ∧
        (Environment.simulated false token).recorded.host.cancelled (course.requests, stage) =
          false ∧
        stage.store.find? stream = some record ∧ course.session.Consistent ∧
        Session.InStep stream course.accepted record course.session ∧
        state = course.session.abstract record course.accepted.length attempts
          course.returned := by
  rw [follows.phase_eq] at isOpen
  obtain ⟨stage, same, stored, cancelled⟩ := run_orders (.simulated false token) mishaps course
  obtain ⟨unscripted, going⟩ := follows.prepared isOpen
  obtain ⟨attempts, agrees⟩ := follows.agrees
  obtain ⟨consistent, record, found, account⟩ := follows.kept
  refine ⟨stage, record, attempts, same, ?_, ?_, ?_, consistent, account.inStep_of_open isOpen, ?_⟩
  · rw [stored, unscripted]
  · show stage.isCancelled token = false
    rw [Stage.isCancelled, cancelled]
    exact going
  · rw [stored]
    exact found
  · rw [agrees, abstract_eq found]

theorem Follows.add (follows : Follows token config stream course state)
    (ceiling : config.ceiling = protocol.ceiling.toNat) {row : Row} {reception : Reception}
    (sound : (Deed.add row reception).Sound config)
    (stepped : protocol.step? state (.add (UInt64.ofNat row.size) reception.ack) = some next) :
    Follows token config stream (course.undertake token (.add row reception)) next := by
  obtain ⟨stage, record, attempts, same, scripted, going, found, consistent, inStep, agrees⟩ :=
    follows.ordered (Protocol.phase_open_of_step? stepped (by simp))
      ((Deed.add row reception).mishaps course.session)
  have called := Session.add_step (Environment.simulated false token).recorded row course.session
    (course.requests, stage)
  have settings : course.session.ceiling = config.ceiling :=
    congrArg Config.ceiling follows.settings
  obtain ⟨after, afterFound, model, prepared⟩ := called.follows
    (serves_recorded (serves_directly token)) (steady_recorded (steady_simulated false token))
    consistent found inStep (settings.trans ceiling) sound.1 (settings ▸ sound.2) scripted going
    attempts course.returned
  rw [agrees, model] at stepped
  have kept : Kept SimStage.store stream { course with state := stage } :=
    ⟨consistent, record, found, .open inStep⟩
  have settled : (perform (.simulated false token) { course with state := stage }
      (.add row)).state.store.find? stream = some after := afterFound
  rw [undertake, same]
  refine ⟨kept_add (serves_directly token) kept row, called.config_eq.trans follows.settings,
    prepared, attempts + 1, ?_⟩
  rw [← Option.some.inj stepped]
  exact (abstract_eq settled _).symm

theorem Follows.commit (follows : Follows token config stream course state)
    {reception : Reception} {refusal : Option Status}
    (sound : (Deed.commit reception refusal).Sound config)
    (stepped : protocol.step? state (.commit reception.ack refusal.isNone) = some next) :
    Follows token config stream (course.undertake token (.commit reception refusal)) next := by
  obtain ⟨stage, record, attempts, same, scripted, going, found, consistent, inStep, agrees⟩ :=
    follows.ordered (Protocol.phase_open_of_step? stepped (by simp))
      ((Deed.commit reception refusal).mishaps course.session)
  have called := Session.commit_step (Environment.simulated false token).recorded course.session
    (course.requests, stage)
  obtain ⟨closed, after, afterFound, model⟩ := called.follows
    (serves_recorded (serves_directly token)) (steady_recorded (steady_simulated false token))
    consistent found inStep sound.1 (follows.settings ▸ sound.2) scripted going attempts
    course.returned
  rw [agrees, model] at stepped
  have kept : Kept SimStage.store stream { course with state := stage } :=
    ⟨consistent, record, found, .open inStep⟩
  have settled : (perform (.simulated false token) { course with state := stage }
      .commit).state.store.find? stream = some after := afterFound
  -- A commit that fails leaves what an earlier one answered, on both sides.
  have answered : (perform (.simulated false token) { course with state := stage }
      .commit).returned = (((course.session.commit (Environment.simulated false token).recorded
        (course.requests, stage)).1).toOption).or course.returned :=
    List.foldl_append
  rw [undertake, same]
  refine ⟨kept_commit (serves_directly token) kept, called.config_eq.trans follows.settings,
    fun isOpen => absurd isOpen closed, attempts, ?_⟩
  rw [← Option.some.inj stepped, ← answered]
  exact (abstract_eq settled _).symm

theorem Follows.abort (follows : Follows token config stream course state)
    (stepped : protocol.step? state .abort = some next) :
    Follows token config stream (course.undertake token .abort) next := by
  obtain ⟨attempts, agrees⟩ := follows.agrees
  obtain ⟨consistent, record, found, account⟩ := follows.kept
  have called := Session.abort_step (Environment.simulated false token).recorded course.session
    (course.requests, course.state)
  obtain ⟨_, stored, _⟩ := called.outcome (serves_recorded (serves_directly token)) found account
  have given := called.session_eq
  have settled : (course.abort (.simulated false token)).state.store.find? stream = some record :=
    stored
  refine ⟨kept_abort (serves_directly token) follows.kept, ?_, ?_, attempts, ?_⟩
  · exact (congrArg Session.config given).trans follows.settings
  · intro isOpen
    have aborted : (course.undertake token .abort).session.phase = .aborted :=
      congrArg Session.phase given
    rw [isOpen] at aborted
    exact absurd aborted (by simp)
  · rw [agrees, abstract_eq found, Protocol.step?_abort] at stepped
    split at stepped
    · exact absurd stepped (by simp)
    · rw [← Option.some.inj stepped]
      refine Eq.trans ?_ (abstract_eq settled attempts).symm
      show _ = (course.session.abort (Environment.simulated false token).recorded
        (course.requests, course.state)).1.abstract record course.accepted.length attempts
          course.returned
      rw [given]
      rfl

/-- One deed keeps session, service and protocol together. -/
theorem Follows.undertake (follows : Follows token config stream course state)
    (ceiling : config.ceiling = protocol.ceiling.toNat) {deed : Deed} (sound : deed.Sound config)
    (stepped : protocol.step? state deed.action = some next) :
    Follows token config stream (course.undertake token deed) next := by
  cases deed with
  | add row reception => exact follows.add ceiling sound stepped
  | commit reception refusal => exact follows.commit sound stepped
  | abort => exact follows.abort stepped

/-- A session whose every deed the protocol allows never leaves it, by induction on the deeds. -/
theorem Follows.undertakeAll (ceiling : config.ceiling = protocol.ceiling.toNat) (deeds : List Deed)
    (sound : ∀ deed ∈ deeds, deed.Sound config) {final : Protocol.State}
    (follows : Follows token config stream course state)
    (ran : protocol.run? state (deeds.map Deed.action) = some final) :
    Follows token config stream (course.undertakeAll token deeds) final := by
  induction deeds generalizing course state with
  | nil =>
      rw [← Option.some.inj ran]
      exact follows
  | cons deed rest inductionHypothesis =>
      rw [List.map_cons, Protocol.run?] at ran
      cases stepped : protocol.step? state deed.action with
      | none =>
          rw [stepped] at ran
          exact absurd ran (by simp)
      | some next =>
          rw [stepped] at ran
          exact inductionHypothesis (fun later member => sound later (by simp [member]))
            (follows.undertake ceiling (sound deed (by simp)) stepped) ran

theorem follows_start {table : String} {schema : Schema} {random : Random} {stage : SimStage}
    (started : start (.simulated false token) table schema config random stage = .ok course)
    (unscripted : course.state.store.script = {})
    (going : course.state.isCancelled token = false) :
    Follows token config course.session.streamText course Protocol.initial := by
  have kept := kept_start (serves_directly token) started
  obtain ⟨⟨appender, created, later, fresh⟩, nothing, uncommitted⟩ := start_session started
  refine ⟨kept, by rw [fresh]; rfl, fun _ => ⟨unscripted, going⟩, 0, ?_⟩
  obtain ⟨_, record, found, account⟩ := kept
  have inStep := account.inStep_of_open (by rw [fresh]; rfl)
  have empty : record.rows.size = 0 := by
    rw [inStep.counted, fresh]
    rfl
  rw [abstract_eq found, returned, nothing, uncommitted, fresh]
  simp only [Session.abstract, empty, inStep.unfinished]
  rfl

/-- Where the protocol gets by a number of actions, a real session gets by the same deeds,
if each request meets the fate that its action says. Where the protocol refuses a row or a
commit, the session does so too, tells its phase and changes nothing. -/
theorem follows_protocol (protocol : Protocol) (token : Option String) {table : String}
    {schema : Schema} {random : Random} {stage : SimStage}
    (started : start (.simulated false token) table schema config random stage = .ok course)
    (unscripted : course.state.store.script = {})
    (going : course.state.isCancelled token = false)
    (ceiling : config.ceiling = protocol.ceiling.toNat) (deeds : List Deed)
    (sound : ∀ deed ∈ deeds, deed.Sound config) {final : Protocol.State}
    (ran : protocol.run? Protocol.initial (deeds.map Deed.action) = some final) :
    let reached := course.undertakeAll token deeds
    final = reached.abstract course.session.streamText final.attempts ∧
      (∀ row ack, protocol.step? final (.add (UInt64.ofNat row.size) ack) = none →
        reached.add (.simulated false token) row = (.error (.closed final.phase), reached)) ∧
      (∀ ack finalizeOk, protocol.step? final (.commit ack finalizeOk) = none →
        let ended := reached.commit (.simulated false token)
        ended.1 = .error (.closed final.phase) ∧ ended.2.session = reached.session ∧
          ended.2.state = reached.state ∧ ended.2.requests = reached.requests) := by
  intro reached
  have follows : Follows token config course.session.streamText reached final :=
    (follows_start started unscripted going).undertakeAll ceiling deeds sound ran
  have phaseEq := follows.phase_eq
  refine ⟨?_, ?_, ?_⟩
  · obtain ⟨attempts, agrees⟩ := follows.agrees
    rw [agrees]
    rfl
  · intro row ack refused
    have past := Protocol.step?_add_eq_none.mp refused
    rw [phaseEq] at past ⊢
    exact add_of_closed _ row past
  · intro ack finalizeOk refused
    have past := Protocol.step?_commit_eq_none.mp refused
    rw [phaseEq] at past ⊢
    rw [commit_of_closed _ past]
    exact ⟨rfl, rfl, rfl, rfl⟩

/-- A row that overflows the buffer, one that is too large, and a commit whose append is
acknowledged at another offset: both sides fail, and the session takes no more rows. -/
theorem follows_protocol_into_skew :
    ∃ course deeds final,
      deeds = [.add (filledRow 3 1) .acknowledged, .add (filledRow 5 2) .acknowledged,
          .add (filledRow 2 3) .acknowledged, .commit (.offsetSkew 7) none] ∧
        start (.simulated false none) "table" ⟨"Row", .empty⟩ (Config.withCeiling 4) (.seeded 0)
          { backend := ({ rates := FaultRates.none, random := .seeded 0 }, {}) } = .ok course ∧
        Protocol.small.run? Protocol.initial (deeds.map Deed.action) = some final ∧
        final.phase = .failed ∧ final.committed = 1 ∧ final.serverRows = 2 ∧
        let reached := course.undertakeAll none deeds
        final = reached.abstract course.session.streamText final.attempts ∧
          reached.add (.simulated false none) (filledRow 1 1) =
            (.error (.closed final.phase), reached) := by
  have opened : ∃ course : Course SimStage,
      start (.simulated false none) "table" ⟨"Row", .empty⟩ (Config.withCeiling 4) (.seeded 0)
          { backend := ({ rates := FaultRates.none, random := .seeded 0 }, {}) } = .ok course ∧
        course.state.store.script = {} ∧ course.state.isCancelled none = false :=
    ⟨_, rfl, rfl, rfl⟩
  have ran : ∃ deeds final,
      deeds = [.add (filledRow 3 1) .acknowledged, .add (filledRow 5 2) .acknowledged,
          .add (filledRow 2 3) .acknowledged, .commit (.offsetSkew 7) none] ∧
        Protocol.small.run? Protocol.initial (deeds.map Deed.action) = some final ∧
        final.phase = .failed ∧ final.committed = 1 ∧ final.serverRows = 2 :=
    ⟨_, _, rfl, rfl, rfl, rfl, rfl⟩
  obtain ⟨course, started, unscripted, going⟩ := opened
  obtain ⟨deeds, final, listed, ran, failed, committed, stored⟩ := ran
  have ceiling : (Config.withCeiling 4).ceiling = Protocol.small.ceiling.toNat := by decide
  have sound : ∀ deed ∈ deeds, deed.Sound (Config.withCeiling 4) := by
    have bounded (row : Row) (few : row.size ≤ 5) :
        (Config.withCeiling 4).ceiling + row.size < UInt64.size := by
      rw [ceiling]
      exact Nat.lt_of_le_of_lt (Nat.add_le_add_left few _) (by decide)
    have skewed : (Reception.offsetSkew 7).Genuine := by
      show (7 : UInt64) ≠ 0
      decide
    rw [listed]
    simp only [List.forall_mem_cons]
    exact ⟨⟨trivial, bounded _ (by decide)⟩, ⟨trivial, bounded _ (by decide)⟩,
      ⟨trivial, bounded _ (by decide)⟩, ⟨skewed, by simp⟩, by simp⟩
  obtain ⟨agrees, refusals, _⟩ :=
    follows_protocol Protocol.small none started unscripted going ceiling deeds sound ran
  have refused : Protocol.small.step? final
      (.add (UInt64.ofNat (filledRow 1 1).size) .acknowledged) = none :=
    Protocol.step?_add_eq_none.mpr (by simp [failed])
  exact ⟨course, deeds, final, listed, started, ran, failed, committed, stored, agrees,
    refusals _ _ refused⟩

end Course

end RowStream
