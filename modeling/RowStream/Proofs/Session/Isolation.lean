import RowStream.Proofs.Session.Portable

/-!
Contract: sessions that share a service without faults do not notice each other.

Owns:
- `Producer`, what a session brings along, and `Hall`, any number of sessions over one service;
- `Hall.run`, their operations in any order;
- `Hall.Mirrors`, a session among others and the same session alone, each on a stream of its own;
- `Hall.Abreast`, the invariant of a run among others and of all the runs alone.

Main statement: `Hall.isolated`, a session comes to the same thing among others as alone, but
for the number of its stream.
-/

namespace RowStream

variable {κ ι α : Type}

/-- What a session brings along, among it its own clock, token and generator. -/
structure Producer (κ : Type) where
  table : String
  schema : Schema
  config : Config
  random : Random
  watch : Watch κ
  /-- The state of its clock and token at first. -/
  around : κ

namespace Hall

inductive Errand (κ : Type) where
  | open
  | add (row : Row)
  | commit
  | abort
  | meanwhile (change : κ → κ)

inductive Answer where
  | opened (result : Except SessionError Unit)
  | added (result : Except SessionError Unit)
  | committed (result : Except SessionError Nat)
  | aborted

/-- One session with its quarters and the answers it got. -/
structure Seat (κ : Type) where
  quarters : Quarters κ
  session : Option Session := none
  /-- The name of the stream that it was opened on. -/
  stream : Option String := none
  answers : List Answer := []

def Seat.ask (answer : Except SessionError α → Answer)
    (operation : Session → Quarters κ × Store →
      Except SessionError α × Session × Quarters κ × Store)
    (session : Session) (seat : Seat κ) (store : Store) : Seat κ × Store :=
  let (result, session, quarters, store) := operation session (seat.quarters, store)
  ({ seat with
      quarters := quarters
      session := some session
      answers := seat.answers ++ [answer result] }, store)

/-- Carries out what happens to one session. A session is opened once, and nothing can be asked
of it before. -/
def Seat.act (producer : Producer κ) (errand : Errand κ) (seat : Seat κ) (store : Store) :
    Seat κ × Store :=
  match errand, seat.session with
  | .open, none =>
      match Session.start producer.watch.environment producer.table producer.schema
          producer.config producer.random (seat.quarters, store) with
      | (.error error, quarters, store) =>
          ({ seat with
              quarters := quarters
              answers := seat.answers ++ [.opened (.error error)] }, store)
      | (.ok session, quarters, store) =>
          ({ quarters := quarters
             session := some session
             stream := session.stream
             answers := seat.answers ++ [.opened (.ok ())] }, store)
  | .add row, some session =>
      seat.ask .added (Session.add producer.watch.environment row) session store
  | .commit, some session =>
      seat.ask .committed (Session.commit producer.watch.environment) session store
  | .abort, some session =>
      seat.ask (fun _ => .aborted)
        (fun session state => (.ok (), session.abort producer.watch.environment state)) session
        store
  | .meanwhile change, _ =>
      ({ seat with
          quarters := { seat.quarters with around := change seat.quarters.around } }, store)
  | _, _ => (seat, store)

end Hall

structure Hall (ι κ : Type) where
  store : Store := {}
  seats : ι → Hall.Seat κ

namespace Hall

def empty (producers : ι → Producer κ) : Hall ι κ where
  seats := fun who => { quarters := { around := (producers who).around } }

def perform [DecidableEq ι] (producers : ι → Producer κ) (hall : Hall ι κ)
    (turn : ι × Errand κ) : Hall ι κ :=
  let (seat, store) := (hall.seats turn.1).act (producers turn.1) turn.2 hall.store
  { store := store
    seats := fun who => if who = turn.1 then seat else hall.seats who }

def run [DecidableEq ι] (producers : ι → Producer κ) (turns : List (ι × Errand κ)) :
    Hall ι κ :=
  turns.foldl (perform producers) (empty producers)

/-! ### Another name -/

def Answer.onStream (name : String) : Answer → Answer
  | .opened result => .opened (result.mapError (SessionError.onStream name))
  | .added result => .added (result.mapError (SessionError.onStream name))
  | .committed result => .committed (result.mapError (SessionError.onStream name))
  | .aborted => .aborted

def Seat.onStream (name : String) (seat : Seat κ) : Seat κ where
  quarters := seat.quarters.onStream name
  session := seat.session.map (Session.onStream name)
  stream := seat.stream.map fun _ => name
  answers := seat.answers.map (Answer.onStream name)

@[simp] theorem Answer.onStream_onStream (first last : String) (answer : Answer) :
    (answer.onStream first).onStream last = answer.onStream last := by
  have errors {α : Type} (result : Except SessionError α) :
      (result.mapError (SessionError.onStream first)).mapError (SessionError.onStream last) =
        result.mapError (SessionError.onStream last) := by
    cases result with
    | ok value => rfl
    | error error => simp
  cases answer with
  | opened result => exact congrArg Answer.opened (errors result)
  | added result => exact congrArg Answer.added (errors result)
  | committed result => exact congrArg Answer.committed (errors result)
  | aborted => rfl

@[simp] theorem Seat.onStream_onStream (first last : String) (seat : Seat κ) :
    (seat.onStream first).onStream last = seat.onStream last := by
  simp [Seat.onStream, Function.comp_def]

/-! ### One turn of one session -/

variable {producer : Producer κ} {seat : Seat κ} {store : Store}

/-- A session with a stream takes a turn in the same way whatever the stream is called and
whatever else the service holds. -/
structure Seat.Turned (producer : Producer κ) (errand : Errand κ) (seat : Seat κ)
    (record : StreamRecord) (later : Seat κ) (written : StreamRecord) (calls : List Call) :
    Prop where
  sits : ∃ session, later.session = some session ∧ session.Sits written
  stream : later.stream = seat.stream
  shown : ∀ name store, store.script = {} → store.find? name = some record →
    ∃ after, (seat.onStream name).act producer errand store = (later.onStream name, after) ∧
      Store.Wrote name written calls store after

def Seat.come (answer : Except SessionError α → Answer) (ending : Session.Ending κ α)
    (seat : Seat κ) : Seat κ :=
  { seat with
    quarters := ending.quarters
    session := some ending.session
    answers := seat.answers ++ [answer ending.result] }

theorem Seat.ask_onStream {answer : Except SessionError α → Answer}
    {operation : Session → Quarters κ × Store →
      Except SessionError α × Session × Quarters κ × Store}
    {session : Session} {record : StreamRecord} {ending : Session.Ending κ α}
    (renamed : ∀ name result,
      (answer result).onStream name = answer (result.mapError (SessionError.onStream name)))
    (portable : ending.Portable operation session seat.quarters record) (name : String)
    {store : Store} (unscripted : store.script = {}) (found : store.find? name = some record) :
    ∃ after, (seat.onStream name).ask answer operation (session.onStream name) store =
        ((seat.come answer ending).onStream name, after) ∧
      Store.Wrote name ending.record ending.calls store after := by
  obtain ⟨after, ended, wrote⟩ := portable.shown name store unscripted found
  refine ⟨after, ?_, wrote⟩
  change operation (session.onStream name) ((seat.onStream name).quarters, store) = _ at ended
  rw [ask, ended]
  simp [Seat.onStream, come, renamed]

/-- What a producer does on a stream it would do on any other of the same content, with the names
exchanged. -/
theorem Seat.act_portable (producer : Producer κ) (errand : Errand κ) {session : Session}
    {record : StreamRecord} (held : seat.session = some session)
    (sits : session.Sits record) :
    ∃ later written calls, seat.Turned producer errand record later written calls := by
  have shown (name : String) : (seat.onStream name).session = some (session.onStream name) := by
    simp [Seat.onStream, held]
  cases errand with
  | «open» =>
      refine ⟨seat, record, [], ⟨session, held, sits⟩, rfl, ?_⟩
      intro name store unscripted found
      refine ⟨store, ?_, .refl unscripted found⟩
      simp only [act, shown]
  | add row =>
      obtain ⟨ending, portable⟩ := Session.add_portable producer.watch seat.quarters sits row
      refine ⟨seat.come .added ending, ending.record, ending.calls,
        ⟨ending.session, rfl, portable.sits⟩, rfl, ?_⟩
      intro name store unscripted found
      simp only [act, shown]
      exact seat.ask_onStream (fun _ _ => rfl) portable name unscripted found
  | commit =>
      obtain ⟨ending, portable⟩ := Session.commit_portable producer.watch seat.quarters sits
      refine ⟨seat.come .committed ending, ending.record, ending.calls,
        ⟨ending.session, rfl, portable.sits⟩, rfl, ?_⟩
      intro name store unscripted found
      simp only [act, shown]
      exact seat.ask_onStream (fun _ _ => rfl) portable name unscripted found
  | abort =>
      have portable := Session.abort_portable producer.watch seat.quarters sits
      refine ⟨seat.come (fun _ => .aborted) (session.abandoned seat.quarters record), record,
        (session.abandoned seat.quarters record).calls, ⟨session.giveUp, rfl, portable.sits⟩,
        rfl, ?_⟩
      intro name store unscripted found
      simp only [act, shown]
      exact seat.ask_onStream (fun _ _ => rfl) portable name unscripted found
  | meanwhile change =>
      refine ⟨{ seat with
        quarters := { seat.quarters with around := change seat.quarters.around } }, record, [],
        ⟨session, held, sits⟩, rfl, ?_⟩
      intro name store unscripted found
      exact ⟨store, rfl, .refl unscripted found⟩

/-- A session without a stream, and nothing it was told or reported names one. -/
structure Seat.Vacant (seat : Seat κ) : Prop where
  session : seat.session = none
  stream : seat.stream = none
  quarters : ∀ name, seat.quarters.onStream name = seat.quarters
  answers : ∀ name, seat.answers.map (Answer.onStream name) = seat.answers

theorem Seat.Vacant.onStream (vacant : seat.Vacant) (name : String) :
    seat.onStream name = seat := by
  obtain ⟨session, stream, quarters, answers⟩ := vacant
  rw [Seat.onStream, quarters, answers, session, stream]
  cases seat
  simp_all

/-- A session opens the stream with the next number, whatever else the service holds. -/
structure Seat.Opened (producer : Producer κ) (errand : Errand κ) (seat later : Seat κ) :
    Prop where
  sits : ∃ session : Session, later.session = some session ∧ session.Sits { kind := .pending }
  stream : later.stream.isSome
  shown : ∀ name store, store.script = {} →
    Store.streamName producer.table (store.created + 1) = name →
      ∃ after, seat.act producer errand store = (later.onStream name, after) ∧
        Store.Wrote name { kind := .pending } [.bind ""] store after ∧
        store.created < after.created

/-- A session without a stream makes no request, or it is opened. -/
theorem Seat.act_vacant (producer : Producer κ) (errand : Errand κ) (vacant : seat.Vacant) :
    (∃ later : Seat κ, later.Vacant ∧ ∀ store, seat.act producer errand store = (later, store)) ∨
      ∃ later : Seat κ, seat.Opened producer errand later := by
  have nothing := vacant.session
  cases errand with
  | «open» =>
      rcases Session.start_portable producer.watch seat.quarters producer.table producer.schema
        producer.config producer.random vacant.quarters with
        ⟨error, after, plain, silent, failed⟩ | opened
      · refine Or.inl ⟨{ seat with
          quarters := after
          answers := seat.answers ++ [.opened (.error error)] }, ?_, ?_⟩
        · refine ⟨nothing, vacant.stream, silent, ?_⟩
          intro name
          simp [vacant.answers, Answer.onStream, plain]
        · intro store
          simp only [act, nothing, failed]
      · refine Or.inr ⟨{
          quarters := seat.quarters.report (.streamCreated "" producer.table 1)
          session := some (Session.seated producer.table producer.schema producer.config
            producer.random)
          stream := some ""
          answers := seat.answers ++ [.opened (.ok ())] },
          ⟨_, rfl, Session.sits_seated _ _ _ _⟩, rfl, ?_⟩
        intro name store unscripted named
        obtain ⟨after, ended, wrote⟩ := opened name store unscripted named
        refine ⟨after, ?_, wrote⟩
        simp only [act, nothing, ended]
        simp [Seat.onStream, vacant.answers, Answer.onStream]
        rfl
  | add row => exact Or.inl ⟨seat, vacant, fun store => by simp only [act, nothing]⟩
  | commit => exact Or.inl ⟨seat, vacant, fun store => by simp only [act, nothing]⟩
  | abort => exact Or.inl ⟨seat, vacant, fun store => by simp only [act, nothing]⟩
  | meanwhile change =>
      refine Or.inl ⟨{ seat with
        quarters := { seat.quarters with around := change seat.quarters.around } }, ?_,
        fun store => rfl⟩
      refine ⟨nothing, vacant.stream, ?_, vacant.answers⟩
      intro name
      have events := congrArg Quarters.events (vacant.quarters name)
      exact congrArg (Quarters.mk (change seat.quarters.around)) events

/-! ### Among others and alone -/

/-- A session that is known up to the name of its stream, as a service has it under one name. -/
structure Shown (name : String) (sheet : Seat κ) (record : StreamRecord) (calls : List Call)
    (seat : Seat κ) (store : Store) : Prop where
  seat_eq : seat = sheet.onStream name
  found : store.find? name = some record
  heard : store.callsOn name = calls.map (Call.onStream name)

/-- A session among others and the same session alone: both without a stream, with a service
that alone nobody has asked for anything, or each on a stream of its own. -/
inductive Mirrors (table : String) (seat : Seat κ) (store : Store) (own : Seat κ)
    (alone : Store) : Prop where
  | vacant (vacant : seat.Vacant) (same : own = seat) (untouched : alone = {})
  | opened {number : Nat} {sheet : Seat κ} {session : Session} {record : StreamRecord}
      {calls : List Call} (held : sheet.session = some session) (sits : session.Sits record)
      (streamed : sheet.stream.isSome) (used : number ≤ store.created)
      (unscripted : alone.script = {})
      (among : Shown (Store.streamName table number) sheet record calls seat store)
      (apart : Shown (Store.streamName table 1) sheet record calls own alone)

theorem Seat.stream_onStream (streamed : seat.stream.isSome) (name : String) :
    (seat.onStream name).stream = some name := by
  obtain ⟨stream, noted⟩ := Option.isSome_iff_exists.mp streamed
  rw [Seat.onStream, noted]
  rfl

theorem Shown.wrote {name : String} {sheet later : Seat κ} {record written : StreamRecord}
    {calls added : List Call} {seat : Seat κ} {store after : Store}
    (shown : Shown name sheet record calls seat store)
    (wrote : Store.Wrote name written added store after) :
    Shown name later written (calls ++ added) (later.onStream name) after where
  seat_eq := rfl
  found := wrote.found
  heard := by rw [wrote.heard, shown.heard, List.map_append]

variable {table : String} {own : Seat κ} {alone after : Store}

/-- The stream of a session, and that its number was used up. -/
theorem Mirrors.stream_eq (mirrors : Mirrors table seat store own alone) {stream : String}
    (named : seat.stream = some stream) :
    ∃ number, stream = Store.streamName table number ∧ number ≤ store.created := by
  cases mirrors with
  | vacant vacant same untouched => simp [vacant.stream] at named
  | @opened number sheet session record calls held sits streamed used unscripted among apart =>
      rw [among.seat_eq, Seat.stream_onStream streamed] at named
      exact ⟨number, (Option.some.inj named).symm, used⟩

/-- Whatever leaves the stream of a session alone leaves the session what it is alone. -/
theorem Mirrors.around (mirrors : Mirrors table seat store own alone)
    (left : ∀ stream, seat.stream = some stream →
      after.find? stream = store.find? stream ∧ after.callsOn stream = store.callsOn stream)
    (created : store.created ≤ after.created) : Mirrors table seat after own alone := by
  cases mirrors with
  | vacant vacant same untouched => exact .vacant vacant same untouched
  | @opened number sheet session record calls held sits streamed used unscripted among apart =>
      have named : seat.stream = some (Store.streamName table number) := by
        rw [among.seat_eq, Seat.stream_onStream streamed]
      obtain ⟨records, entries⟩ := left _ named
      exact .opened held sits streamed (Nat.le_trans used created) unscripted
        ⟨among.seat_eq, records.trans among.found, entries.trans among.heard⟩ apart

variable {producers : ι → Producer κ} {hall : Hall ι κ} {halls : ι → Hall ι κ}

/-- The sessions in one hall, and each of them alone in a hall of its own: nothing is scripted,
names beyond the count of streams are unused, no two sessions have one stream, and each session
is what it is alone. -/
structure Abreast (producers : ι → Producer κ) (hall : Hall ι κ) (halls : ι → Hall ι κ) :
    Prop where
  unscripted : hall.store.script = {}
  unused : ∀ parent number, hall.store.created < number →
    hall.store.find? (Store.streamName parent number) = none ∧
      hall.store.callsOn (Store.streamName parent number) = []
  distinct : ∀ who other stream, who ≠ other → (hall.seats who).stream = some stream →
    (hall.seats other).stream ≠ some stream
  mirrors : ∀ who, Mirrors (producers who).table (hall.seats who) hall.store
    ((halls who).seats who) (halls who).store

/-- No session has the stream with the next number. -/
theorem Abreast.unnamed (abreast : Abreast producers hall halls) (other : ι) (parent : String) :
    (hall.seats other).stream ≠ some (Store.streamName parent (hall.store.created + 1)) := by
  intro named
  obtain ⟨number, spelled, used⟩ := (abreast.mirrors other).stream_eq named
  have equal := Store.streamName_inj spelled
  omega

variable [DecidableEq ι]

def performAlone (producers : ι → Producer κ) (halls : ι → Hall ι κ) (turn : ι × Errand κ) :
    ι → Hall ι κ :=
  fun who => if turn.1 = who then perform producers (halls who) turn else halls who

theorem perform_seat {who : ι} {errand : Errand κ} {later : Seat κ} {after : Store}
    (acted : (hall.seats who).act (producers who) errand hall.store = (later, after)) :
    perform producers hall (who, errand) =
      { store := after
        seats := fun other => if other = who then later else hall.seats other } := by
  rw [perform, acted]

/-- A turn that leaves the streams of the other sessions and the unused names alone. -/
theorem Abreast.turn (abreast : Abreast producers hall halls) {who : ι} {errand : Errand κ}
    {later : Seat κ} {after : Store}
    (acted : (hall.seats who).act (producers who) errand hall.store = (later, after))
    (unscripted : after.script = {}) (created : hall.store.created ≤ after.created)
    (unused : ∀ parent number, after.created < number →
      after.find? (Store.streamName parent number) = none ∧
        after.callsOn (Store.streamName parent number) = [])
    (left : ∀ other, other ≠ who → ∀ stream, (hall.seats other).stream = some stream →
      after.find? stream = hall.store.find? stream ∧
        after.callsOn stream = hall.store.callsOn stream ∧ later.stream ≠ some stream)
    (mirrors : Mirrors (producers who).table later after
      ((perform producers (halls who) (who, errand)).seats who)
      (perform producers (halls who) (who, errand)).store) :
    Abreast producers (perform producers hall (who, errand))
      (performAlone producers halls (who, errand)) := by
  rw [perform_seat acted]
  refine ⟨unscripted, unused, ?_, ?_⟩
  · intro one other stream different named
    simp only at named ⊢
    by_cases first : one = who
    · rw [if_pos first] at named
      have elsewhere : other ≠ who := fun same => different (first.trans same.symm)
      rw [if_neg elsewhere]
      intro shared
      exact (left other elsewhere stream shared).2.2 named
    · rw [if_neg first] at named
      by_cases second : other = who
      · rw [if_pos second]
        exact (left one first stream named).2.2
      · rw [if_neg second]
        exact abreast.distinct one other stream different named
  · intro other
    simp only [performAlone]
    by_cases same : other = who
    · subst same
      rw [if_pos rfl, if_pos rfl]
      exact mirrors
    · rw [if_neg same, if_neg (Ne.symm same)]
      refine (abreast.mirrors other).around ?_ created
      intro stream named
      obtain ⟨records, entries, -⟩ := left other same stream named
      exact ⟨records, entries⟩

/-- A turn in which a session writes to a stream that it shares with none. -/
theorem Abreast.wrote (abreast : Abreast producers hall halls) {who : ι} {errand : Errand κ}
    {later : Seat κ} {after : Store} {name parent : String} {number : Nat}
    {written : StreamRecord} {calls : List Call}
    (acted : (hall.seats who).act (producers who) errand hall.store = (later, after))
    (wrote : Store.Wrote name written calls hall.store after)
    (numbered : name = Store.streamName parent number) (used : number ≤ after.created)
    (named : later.stream = some name)
    (others : ∀ other, other ≠ who → (hall.seats other).stream ≠ some name)
    (mirrors : Mirrors (producers who).table later after
      ((perform producers (halls who) (who, errand)).seats who)
      (perform producers (halls who) (who, errand)).store) :
    Abreast producers (perform producers hall (who, errand))
      (performAlone producers halls (who, errand)) := by
  refine abreast.turn acted wrote.unscripted wrote.created_le ?_ ?_ mirrors
  · intro parent beyond free
    obtain ⟨missing, silent⟩ := abreast.unused parent beyond
      (Nat.lt_of_le_of_lt wrote.created_le free)
    have apart : Store.streamName parent beyond ≠ name := by
      intro same
      have equal := Store.streamName_inj (same.trans numbered)
      omega
    exact ⟨(wrote.records _ apart).trans missing, (wrote.unheard _ apart).trans silent⟩
  · intro other different stream held
    have apart : stream ≠ name := fun same => others other different (same ▸ held)
    refine ⟨wrote.records stream apart, wrote.unheard stream apart, ?_⟩
    rw [named]
    intro same
    exact apart (Option.some.inj same).symm

/-- A turn of one producer is seen in its own hall and in no other. -/
theorem Abreast.perform (abreast : Abreast producers hall halls) (turn : ι × Errand κ) :
    Abreast producers (perform producers hall turn) (performAlone producers halls turn) := by
  obtain ⟨who, errand⟩ := turn
  cases abreast.mirrors who with
  | vacant vacant same untouched =>
      rcases Seat.act_vacant (producers who) errand vacant with ⟨later, still, acted⟩ |
        ⟨later, opened⟩
      · have alone := acted (halls who).store
        rw [← same] at alone
        refine abreast.turn (acted hall.store) abreast.unscripted (Nat.le_refl _)
          abreast.unused ?_ ?_
        · intro other different stream held
          exact ⟨rfl, rfl, by simp [still.stream]⟩
        · rw [perform_seat alone]
          exact .vacant still (if_pos rfl) untouched
      · obtain ⟨session, held, sits⟩ := opened.sits
        obtain ⟨after, acted, wrote, grown⟩ := opened.shown _ hall.store abreast.unscripted rfl
        obtain ⟨rest, first, recorded, -⟩ := opened.shown _ {} rfl rfl
        have alone : ((halls who).seats who).act (producers who) errand (halls who).store =
            (later.onStream (Store.streamName (producers who).table 1), rest) := by
          rw [same, untouched]
          exact first
        have free := (abreast.unused (producers who).table _
          (Nat.lt_succ_self hall.store.created)).2
        refine abreast.wrote acted wrote rfl grown (Seat.stream_onStream opened.stream _)
          (fun other _ => abreast.unnamed other (producers who).table) ?_
        have among : Shown _ later { kind := .pending } [.bind ""] (later.onStream _) after :=
          ⟨rfl, wrote.found, by rw [wrote.heard, free, List.nil_append]⟩
        have apart : Shown _ later { kind := .pending } [.bind ""] (later.onStream _) rest :=
          ⟨rfl, recorded.found, recorded.heard⟩
        rw [perform_seat alone]
        refine .opened held sits opened.stream grown recorded.unscripted among ?_
        simp only [if_true]
        exact apart
  | @opened number sheet session record calls held sits streamed used unscripted among apart =>
      obtain ⟨later, written, added, turned⟩ := sheet.act_portable (producers who) errand held sits
      obtain ⟨moved, sitting, sat⟩ := turned.sits
      obtain ⟨after, acted, wrote⟩ := turned.shown _ _ abreast.unscripted among.found
      obtain ⟨rest, alone, recorded⟩ := turned.shown _ _ unscripted apart.found
      rw [← among.seat_eq] at acted
      rw [← apart.seat_eq] at alone
      have named : (hall.seats who).stream =
          some (Store.streamName (producers who).table number) := by
        rw [among.seat_eq]
        exact Seat.stream_onStream streamed _
      have still : later.stream.isSome := by
        rw [turned.stream]
        exact streamed
      have reached := Nat.le_trans used wrote.created_le
      refine abreast.wrote acted wrote rfl reached (Seat.stream_onStream still _)
        (fun other different => abreast.distinct who other _ (Ne.symm different) named) ?_
      rw [perform_seat alone]
      refine .opened sitting sat still reached recorded.unscripted (among.wrote wrote) ?_
      simp only [if_true]
      exact apart.wrote recorded

/-! ### Whole runs -/

/-- The induction is on the turns. In the hall of one session only its own turns take place. -/
theorem Abreast.run (abreast : Abreast producers hall halls) (turns : List (ι × Errand κ)) :
    Abreast producers (turns.foldl (Hall.perform producers) hall) fun who =>
      (turns.filter fun turn => turn.1 = who).foldl (Hall.perform producers) (halls who) := by
  induction turns generalizing hall halls with
  | nil => exact abreast
  | cons turn rest inductionHypothesis =>
      have later := inductionHypothesis (abreast.perform turn)
      have same (who : ι) : ((turn :: rest).filter fun turn => turn.1 = who).foldl
          (Hall.perform producers) (halls who) =
          (rest.filter fun turn => turn.1 = who).foldl (Hall.perform producers)
            (performAlone producers halls turn who) := by
        by_cases own : turn.1 = who
        · rw [List.filter_cons_of_pos (by simpa using own), List.foldl_cons, performAlone,
            if_pos own]
        · rw [List.filter_cons_of_neg (by simpa using own), performAlone, if_neg own]
      rw [funext same]
      exact later

omit [DecidableEq ι] in
theorem abreast_empty (producers : ι → Producer κ) :
    Abreast producers (empty producers) fun _ => empty producers where
  unscripted := rfl
  unused _ _ _ := ⟨rfl, rfl⟩
  distinct _ _ _ _ impossible := by simp [empty] at impossible
  mirrors _ := .vacant ⟨rfl, rfl, fun _ => by simp [empty, Quarters.onStream], fun _ => rfl⟩
    rfl rfl

/-- Every producer goes on as it would in a hall of its own, in whatever order the turns come. -/
theorem abreast_run (producers : ι → Producer κ) (turns : List (ι × Errand κ)) :
    Abreast producers (run producers turns) fun who =>
      run producers (turns.filter fun turn => turn.1 = who) :=
  (abreast_empty producers).run turns

def offsetsOn (stream : String) (store : Store) : List UInt64 :=
  (store.callsOn stream).filterMap fun
    | .append _ offset _ => some offset
    | _ => none

/-- A session in one hall, on one stream, is what it is in another hall on another stream. -/
structure SameBut (who : ι) (stream own : String) (hall alone : Hall ι κ) : Prop where
  /-- Its answers, its buffer, counters and statistics and its reports differ in the name. -/
  seat : hall.seats who = (alone.seats who).onStream stream
  name : alone.seats who = (alone.seats who).onStream own
  /-- The same rows are stored, and the streams are both finalized or both not. -/
  record : hall.store.find? stream = alone.store.find? own
  /-- The same requests were received, each naming its own stream. -/
  calls : ∃ calls : List Call, hall.store.callsOn stream = calls.map (Call.onStream stream) ∧
    alone.store.callsOn own = calls.map (Call.onStream own)
  offsets : offsetsOn stream hall.store = offsetsOn own alone.store

omit [DecidableEq ι] in
theorem SameBut.of_calls {who : ι} {stream name : String} {hall alone : Hall ι κ}
    {calls : List Call} (seat : hall.seats who = (alone.seats who).onStream stream)
    (named : alone.seats who = (alone.seats who).onStream name)
    (record : hall.store.find? stream = alone.store.find? name)
    (among : hall.store.callsOn stream = calls.map (Call.onStream stream))
    (apart : alone.store.callsOn name = calls.map (Call.onStream name)) :
    SameBut who stream name hall alone where
  seat := seat
  name := named
  record := record
  calls := ⟨calls, among, apart⟩
  offsets := by
    rw [offsetsOn, offsetsOn, among, apart, List.filterMap_map, List.filterMap_map]
    congr 1
    funext call
    cases call <;> rfl

/-- Any number of sessions share a service without faults, each with its own clock, token and
generator, and their operations take place in any order. Then each of them comes to what it
comes to alone on a fresh service; only the number at the end of the name of its stream is
another. -/
theorem isolated (producers : ι → Producer κ) (turns : List (ι × Errand κ)) (who : ι) :
    ∃ number, SameBut who (Store.streamName (producers who).table number)
      (Store.streamName (producers who).table 1) (run producers turns)
      (run producers (turns.filter fun turn => turn.1 = who)) := by
  have abreast := abreast_run producers turns
  cases abreast.mirrors who with
  | vacant vacant same untouched =>
      obtain ⟨missing, silent⟩ := abreast.unused (producers who).table _ (Nat.lt_succ_self _)
      refine ⟨(run producers turns).store.created + 1, ?_⟩
      refine @SameBut.of_calls _ _ _ _ _ _ _ [] ?_ ?_ ?_ silent ?_
      · rw [same, vacant.onStream]
      · rw [same, vacant.onStream]
      · rw [untouched]
        exact missing
      · rw [untouched]
        rfl
  | @opened number sheet session record calls held sits streamed used unscripted among apart =>
      refine ⟨number, .of_calls ?_ ?_ (among.found.trans apart.found.symm) among.heard apart.heard⟩
      · rw [among.seat_eq, apart.seat_eq, Seat.onStream_onStream]
      · rw [apart.seat_eq, Seat.onStream_onStream]

end Hall

end RowStream
