import RowStream.Proofs.Store.Log
import RowStream.Proofs.Store.Names
import RowStream.Store.Mishap

/-!
Contract: the store only ever adds whole batches at the ends of its streams.

Owns:
- `Store.Act`, whatever can be asked of a store, by anyone and over any connection, and
  `Store.run`, any number of acts;
- `Store.AppendStep` and `Store.Change`, all that an append and all that an act can come to;
- `Store.Numbered`, the names still unused, and that every act leaves it so;
- `Store.AppendOnly`, what callers rely on.

Main statement: `Store.appendOnly_run`, a store that began empty is append-only after any acts.
-/

namespace RowStream.Store

/-- What can be asked of a store. Connections are values, so that any number of them, to the
same or to different streams, closed ones among them, take part in the same acts. -/
inductive Act where
  | create (parent : String) (kind : StreamKind)
  | bind (stream : String) (schema : Schema)
  | append (appender : Appender) (batch : Batch) (offset : UInt64)
  | finalize (stream : String)
  | close (appender : Appender)
  | plan (mishap : Mishap)
  | shutdown

def perform (store : Store) : Act → Store
  | .create parent kind => (store.create parent kind).2
  | .bind stream schema => (store.bind stream schema).2
  | .append appender batch offset => (store.append appender batch offset).2
  | .finalize stream => (store.finalize stream).2
  | .close appender => (store.close appender).2
  | .plan mishap => store.plan mishap
  | .shutdown => client.shutdown store

def run (acts : List Act) (store : Store) : Store := acts.foldl perform store

variable {store after : Store} {stream : String} {record : StreamRecord}

/-! ### One append -/

/-- All that an append can come to. The batch is stored only where the stream ends; whether
the answer is then lost or moved is up to the script. -/
inductive AppendStep (appender : Appender) (batch : Batch) (offset : UInt64) (store : Store) :
    AppendReply × Store → Prop where
  | unsent {status : Status} (closed : appender.closed = true) :
      AppendStep appender batch offset store (.lost status, store)
  | refused {reply : AppendReply} {after : Store}
      (unacknowledged : ∀ stored, reply ≠ .appended stored) (same : SameRecords store after) :
      AppendStep appender batch offset store (reply, after)
  | accepted {record : StreamRecord} {reply : AppendReply} {after : Store}
      (connected : appender.closed = false)
      (found : store.find? appender.stream = some record) (unfinished : record.finalized = false)
      (atEnd : offset = UInt64.ofNat record.rows.size)
      (confined : ConfinedTo appender.stream store after)
      (extended : after.find? appender.stream = some (record.extend batch))
      (answered : (∃ status, reply = .lost status) ∨
        reply = .appended (offset + store.script.ackSkew.getD 0)) :
      AppendStep appender batch offset store (reply, after)

/-- Anywhere but where an unfinished stream ends, writing is refused. -/
theorem write_of_elsewhere (batch : Batch) {offset : UInt64}
    (elsewhere : ∀ record, store.find? stream = some record → record.finalized = false →
      offset ≠ UInt64.ofNat record.rows.size) :
    ∃ status, store.write stream batch offset = (.rejected status, store) := by
  unfold write
  cases found : store.find? stream with
  | none => exact ⟨_, rfl⟩
  | some record =>
      simp only
      by_cases finalized : record.finalized = true
      · exact ⟨_, if_pos finalized⟩
      · rw [if_neg finalized]
        have apart := elsewhere record found (by simpa using finalized)
        by_cases before : offset < UInt64.ofNat record.rows.size
        · exact ⟨_, if_pos before⟩
        · have behind : UInt64.ofNat record.rows.size < offset :=
            UInt64.lt_of_le_of_ne (UInt64.not_lt.mp before) (Ne.symm apart)
          rw [if_neg before, if_pos behind]
          exact ⟨_, rfl⟩

/-- An append that is sent while none is to be stored. -/
theorem receive_of_elsewhere (batch : Batch) {offset : UInt64}
    (elsewhere : ∀ record, store.find? stream = some record → record.finalized = false →
      offset ≠ UInt64.ofNat record.rows.size) :
    (∀ stored, (store.receive stream batch offset).1 ≠ .appended stored) ∧
      SameRecords store (store.receive stream batch offset).2 := by
  unfold receive
  simp only
  cases failure : store.script.appendError with
  | some status =>
      refine ⟨fun stored => by simp [log, failure], ?_⟩
      simp only [log, failure]
      refine SameRecords.of_streams rfl ?_
      intro empty
      simp [empty] at failure
  | none =>
      let spent := (store.log (.append stream offset batch.length)).spendAppend
      obtain ⟨status, refused⟩ :=
        @write_of_elsewhere spent stream batch offset elsewhere
      have same : SameRecords store spent := by
        refine SameRecords.of_streams rfl ?_
        intro empty
        simp [spent, spendAppend, log, empty]
      simp only [spent, spendAppend, log, failure] at refused same
      simp only [log, failure, refused]
      split
      · exact ⟨fun stored => by simp, same⟩
      · exact ⟨fun stored => by simp [skewReply], same⟩

/-- An append that is sent where an unfinished stream ends. -/
theorem append_step_of_end {batch : Batch} (found : store.find? stream = some record)
    (unfinished : record.finalized = false) :
    AppendStep { stream := stream } batch (UInt64.ofNat record.rows.size) store
      (store.append { stream := stream } batch (UInt64.ofNat record.rows.size)) := by
  rw [append_at_end found unfinished]
  cases failure : store.script.appendError with
  | some status =>
      refine .refused (fun stored => by simp) (SameRecords.of_streams rfl ?_)
      intro empty
      simp [empty] at failure
  | none =>
      have spent : ConfinedTo stream store (store.log
          (.append stream (UInt64.ofNat record.rows.size) batch.length)).spendAppend := by
        refine ⟨fun _ _ => rfl, ?_⟩
        intro empty
        simp [spendAppend, log, empty]
      refine .accepted rfl found unfinished rfl (spent.trans (update_confined stream _ _))
        (find?_accept found batch) ?_
      cases store.script.dropAppendResponse with
      | true => exact Or.inl ⟨_, rfl⟩
      | false => exact Or.inr rfl

theorem append_step (appender : Appender) (batch : Batch) (offset : UInt64) (store : Store) :
    AppendStep appender batch offset store (store.append appender batch offset) := by
  obtain ⟨stream, closed⟩ := appender
  cases closed with
  | true => exact .unsent rfl
  | false =>
      by_cases atEnd : ∃ record, store.find? stream = some record ∧ record.finalized = false ∧
          offset = UInt64.ofNat record.rows.size
      · obtain ⟨record, found, unfinished, rfl⟩ := atEnd
        exact append_step_of_end found unfinished
      · have elsewhere : ∀ record, store.find? stream = some record →
            record.finalized = false → offset ≠ UInt64.ofNat record.rows.size :=
          fun record found unfinished equal => atEnd ⟨record, found, unfinished, equal⟩
        obtain ⟨unacknowledged, same⟩ := receive_of_elsewhere batch elsewhere
        exact .refused unacknowledged same

/-! ### One act -/

/-- All that an act can make of the records: nothing, one stream more, one batch more at the
end of a stream, or the end of one stream. -/
inductive Change (store : Store) (act : Act) (after : Store) : Prop where
  | still (same : ∀ stream, after.find? stream = store.find? stream)
  | created {parent : String} {kind : StreamKind}
      (counted : after.created = store.created + 1)
      (others : ∀ other, other ≠ streamName parent (store.created + 1) →
        after.find? other = store.find? other)
      (found : after.find? (streamName parent (store.created + 1)) = some { kind := kind })
  | extended {appender : Appender} {batch : Batch} {offset : UInt64} {record : StreamRecord}
      (asked : act = .append appender batch offset) (connected : appender.closed = false)
      (found : store.find? appender.stream = some record) (unfinished : record.finalized = false)
      (atEnd : offset = UInt64.ofNat record.rows.size)
      (others : ∀ other, other ≠ appender.stream → after.find? other = store.find? other)
      (extended : after.find? appender.stream = some (record.extend batch))
  | finalized {stream : String} {record : StreamRecord}
      (found : store.find? stream = some record)
      (others : ∀ other, other ≠ stream → after.find? other = store.find? other)
      (ended : after.find? stream = some { record with finalized := true })

/-- A request changes one stream at most: it creates it, puts rows at its end, or finalizes it. -/
theorem perform_change (store : Store) (act : Act) : Change store act (store.perform act) := by
  cases act with
  | create parent kind =>
      change Change store _ (store.create parent kind).2
      cases called : store.create parent kind with
      | mk answer after =>
        cases answer with
        | error status => exact .still (create_error called).records
        | ok created =>
            obtain ⟨confined, found⟩ := create_ok called
            obtain ⟨named, counted⟩ := create_ok_created called
            rw [named] at confined found
            exact .created counted confined.others found
  | bind stream schema => exact .still (bind_records stream schema store).records
  | append appender batch offset =>
      change Change store _ (store.append appender batch offset).2
      have step := append_step appender batch offset store
      cases called : store.append appender batch offset with
      | mk reply after =>
        rw [called] at step
        cases step with
        | unsent closed => exact .still fun _ => rfl
        | refused unacknowledged same => exact .still same.records
        | accepted connected found unfinished atEnd confined extended answered =>
            exact .extended rfl connected found unfinished atEnd confined.others extended
  | finalize stream =>
      change Change store _ (store.finalize stream).2
      cases called : store.finalize stream with
      | mk answer after =>
        cases answer with
        | error status => exact .still (finalize_error called).records
        | ok count =>
            obtain ⟨confined, record, found, ended, _⟩ := finalize_ok called
            exact .finalized found confined.others ended
  | close appender => exact .still (close_records appender store).records
  | plan mishap => exact .still fun _ => rfl
  | shutdown => exact .still fun _ => rfl

theorem created_le_perform (store : Store) (act : Act) :
    store.created ≤ (store.perform act).created := by
  cases act with
  | create parent kind => exact (create_advances parent kind store).created_le
  | bind stream schema => exact (bind_advances stream schema store).created_le
  | append appender batch offset =>
      obtain ⟨entries, _, advances⟩ := append_logs appender batch offset store
      exact advances.created_le
  | finalize stream => exact (finalize_advances stream store).created_le
  | close appender =>
      obtain ⟨entries, _, advances⟩ := close_logs appender store
      exact advances.created_le
  | plan mishap => exact Nat.le_refl _
  | shutdown => exact Nat.le_refl _

/-! ### Names not used yet -/

/-- No stream has a number beyond the count of streams. -/
def Numbered (store : Store) : Prop :=
  ∀ parent number, store.created < number → store.find? (streamName parent number) = none

theorem Numbered.perform (numbered : Numbered store) (act : Act) :
    Numbered (store.perform act) := by
  intro parent number beyond
  have unused := numbered parent number
    (Nat.lt_of_le_of_lt (created_le_perform store act) beyond)
  -- A stream that has a record is not the one in question.
  have elsewhere {stream : String} {record : StreamRecord}
      (found : store.find? stream = some record)
      (others : ∀ other, other ≠ stream →
        (store.perform act).find? other = store.find? other) :
      (store.perform act).find? (streamName parent number) = none := by
    refine (others _ ?_).trans unused
    rintro rfl
    simp [unused] at found
  cases store.perform_change act with
  | still same => exact (same _).trans unused
  | created counted others found =>
      refine (others _ ?_).trans unused
      intro same
      have equal := streamName_inj same
      omega
  | extended asked connected found unfinished atEnd others extended =>
      exact elsewhere found others
  | finalized found others ended => exact elsewhere found others

theorem numbered_run (acts : List Act) : Numbered (run acts {}) := by
  have kept (store : Store) (numbered : Numbered store) : Numbered (run acts store) := by
    induction acts generalizing store with
    | nil => exact numbered
    | cons act rest inductionHypothesis =>
        exact inductionHypothesis (store.perform act) (numbered.perform act)
  exact kept {} fun _ _ _ => rfl

/-! ### What becomes of one record -/

/-- What acts can make of a record: rows are only added at its end, and none once it is
finalized. -/
structure Grown (before after : StreamRecord) : Prop where
  rows : before.rows.toList <+: after.rows.toList
  kept : before.finalized = true → after.finalized = true ∧ after.rows = before.rows

theorem Grown.refl (record : StreamRecord) : Grown record record :=
  ⟨List.prefix_refl _, fun finalized => ⟨finalized, rfl⟩⟩

theorem Grown.trans {first second third : StreamRecord} (left : Grown first second)
    (right : Grown second third) : Grown first third where
  rows := left.rows.trans right.rows
  kept finalized := by
    obtain ⟨still, same⟩ := left.kept finalized
    obtain ⟨ended, equal⟩ := right.kept still
    exact ⟨ended, equal.trans same⟩

/-- A record only grows, and a finalized one does not change. -/
theorem Change.grown {act : Act} (change : Change store act after) (numbered : Numbered store)
    (found : store.find? stream = some record) :
    ∃ later, after.find? stream = some later ∧ Grown record later := by
  -- The record of a stream that is left alone, or the one that its own stream is given.
  have split {other : String} {current next : StreamRecord}
      (present : store.find? other = some current)
      (others : ∀ another, another ≠ other → after.find? another = store.find? another)
      (given : after.find? other = some next) (grown : Grown current next) :
      ∃ later, after.find? stream = some later ∧ Grown record later := by
    by_cases same : stream = other
    · rw [same, present] at found
      rw [same, ← Option.some.inj found]
      exact ⟨next, given, grown⟩
    · exact ⟨record, (others stream same).trans found, .refl record⟩
  cases change with
  | still same => exact ⟨record, (same stream).trans found, .refl record⟩
  | created counted others given =>
      refine ⟨record, (others stream ?_).trans found, .refl record⟩
      rintro rfl
      simp [numbered _ _ (Nat.lt_succ_self store.created)] at found
  | @extended appender batch offset current asked connected present unfinished atEnd others given =>
      refine split present others given ⟨?_, ?_⟩
      · rw [StreamRecord.extend, Array.toList_append]
        exact List.prefix_append _ _
      · intro finalized
        simp [unfinished] at finalized
  | finalized present others given =>
      exact split present others given ⟨List.prefix_refl _, fun _ => ⟨rfl, rfl⟩⟩

/-- The induction is on the acts; a record once there is there after all of them. -/
theorem grown_run (numbered : Numbered store) (acts : List Act)
    (found : store.find? stream = some record) :
    ∃ later, (store.run acts).find? stream = some later ∧ Grown record later := by
  induction acts generalizing store record with
  | nil => exact ⟨record, found, .refl record⟩
  | cons act rest inductionHypothesis =>
      obtain ⟨next, present, grown⟩ := (store.perform_change act).grown numbered found
      obtain ⟨later, reached, grows⟩ := inductionHypothesis (numbered.perform act) present
      exact ⟨later, reached, grown.trans grows⟩

/-! ### What callers rely on -/

/-- By the act a batch came to stand at the end of a stream: it was sent there over an open
connection while the stream was not finalized. -/
structure Adds (stream : String) (batch : Batch) (offset : UInt64) (store : Store) (act : Act) :
    Prop where
  asked : ∃ appender : Appender, act = .append appender batch offset ∧
    appender.closed = false ∧ appender.stream = stream
  present : (store.find? stream).isSome
  unfinished : store.isFinalized stream = false
  atEnd : offset = UInt64.ofNat (store.rows stream).length
  added : (store.perform act).rows stream = store.rows stream ++ batch.toList

/-- What holds of a store whatever is asked of it next, and after that. -/
structure AppendOnly (store : Store) : Prop where
  /-- The rows of a stream change only by one whole batch at their end. -/
  changes : ∀ act stream, (store.perform act).rows stream = store.rows stream ∨
    ∃ batch offset, Adds stream batch offset store act
  /-- Rows once stored stay where they are. -/
  keeps : ∀ acts stream, store.rows stream <+: (store.run acts).rows stream
  /-- A finalized stream stays finalized, with the same rows. -/
  ends : ∀ acts stream, store.isFinalized stream = true →
    (store.run acts).isFinalized stream = true ∧
      (store.run acts).rows stream = store.rows stream
  /-- A batch that changes the rows stands behind every earlier one; their offsets differ as
  long as a word can count the rows. -/
  exclusive : ∀ act acts later stream batch offset another claimed,
    Adds stream batch offset store act → batch.toList ≠ [] →
      Adds stream another claimed ((store.perform act).run acts) later →
        (store.rows stream).length < (((store.perform act).run acts).rows stream).length ∧
          ((((store.perform act).run acts).rows stream).length < UInt64.size → offset ≠ claimed)
  /-- An append that is refused stores nothing. -/
  refuses : ∀ appender batch offset status after stream,
    store.append appender batch offset = (.rejected status, after) →
      after.rows stream = store.rows stream
  /-- Without skew an acknowledgement tells where the first row of the batch stands. -/
  acknowledges : ∀ appender batch offset stored after,
    store.append appender batch offset = (.appended stored, after) →
      store.script.ackSkew.getD 0 = 0 →
        stored = UInt64.ofNat (store.rows appender.stream).length ∧
          after.rows appender.stream = store.rows appender.stream ++ batch.toList
  /-- Without an order for another count, a finalization tells the number of rows; and unless
  its failure was ordered it succeeds on every stream. -/
  counts : ∀ stream, store.script.finalizeRowCount = none →
    (∀ count, (store.finalize stream).1 = .ok count → count = (store.rows stream).length) ∧
      ((store.find? stream).isSome → store.script.finalizeFailures = [] →
        (store.finalize stream).1 = .ok (store.rows stream).length)

theorem length_rows (found : store.find? stream = some record) :
    (store.rows stream).length = record.rows.size := by
  rw [rows_eq found, Array.length_toList]

theorem rows_of_none (missing : store.find? stream = none) : store.rows stream = [] := by
  rw [rows, missing]

theorem rows_congr (same : after.find? stream = store.find? stream) :
    after.rows stream = store.rows stream := by
  rw [rows, same, rows]

theorem rows_extend {batch : Batch} (found : store.find? stream = some record)
    (extended : after.find? stream = some (record.extend batch)) :
    after.rows stream = store.rows stream ++ batch.toList := by
  rw [rows_eq found, rows_eq extended, StreamRecord.extend, Array.toList_append, Batch.toList]

/-- Rows come from an append at the end of the stream and from nothing else. -/
theorem Change.adds {act : Act} (change : Change store act (store.perform act))
    (numbered : Numbered store) (stream : String) :
    (store.perform act).rows stream = store.rows stream ∨
      ∃ batch offset, Adds stream batch offset store act := by
  cases change with
  | still same => exact Or.inl (rows_congr (same stream))
  | @created parent kind counted others found =>
      by_cases same : stream = streamName parent (store.created + 1)
      · subst same
        have unused := rows_of_none (numbered parent _ (Nat.lt_succ_self store.created))
        exact Or.inl ((rows_eq found).trans unused.symm)
      · exact Or.inl (rows_congr (others stream same))
  | @extended appender batch offset record asked connected found unfinished atEnd others given =>
      by_cases same : stream = appender.stream
      · subst same
        refine Or.inr ⟨batch, offset, ⟨appender, asked, connected, rfl⟩, ?_, ?_, ?_, ?_⟩
        · rw [found, Option.isSome_some]
        · rw [isFinalized_eq found, unfinished]
        · rw [atEnd, length_rows found]
        · exact rows_extend found given
      · exact Or.inl (rows_congr (others stream same))
  | @finalized ended record found others given =>
      by_cases same : stream = ended
      · subst same
        exact Or.inl ((rows_eq given).trans (rows_eq found).symm)
      · exact Or.inl (rows_congr (others stream same))

/-- Rows that are stored stay where they are, whatever comes later. -/
theorem Numbered.rows_kept (numbered : Numbered store) (acts : List Act) (stream : String) :
    store.rows stream <+: (store.run acts).rows stream := by
  cases found : store.find? stream with
  | none =>
      rw [rows_of_none found]
      exact List.nil_prefix
  | some record =>
      obtain ⟨later, reached, grown⟩ := grown_run numbered acts found
      rw [rows_eq found, rows_eq reached]
      exact grown.rows

/-- A finalized stream takes no more rows, whatever comes later. -/
theorem Numbered.finalized_kept (numbered : Numbered store) (acts : List Act)
    (finalized : store.isFinalized stream = true) :
    (store.run acts).isFinalized stream = true ∧
      (store.run acts).rows stream = store.rows stream := by
  cases found : store.find? stream with
  | none => simp [isFinalized, found] at finalized
  | some record =>
      rw [isFinalized_eq found] at finalized
      obtain ⟨later, reached, grown⟩ := grown_run numbered acts found
      obtain ⟨still, same⟩ := grown.kept finalized
      exact ⟨(isFinalized_eq reached).trans still, by rw [rows_eq reached, rows_eq found, same]⟩

/-- Two appends that were both taken have claimed different offsets, unless the offsets have
wrapped around in between. -/
theorem length_lt_of_adds {act later : Act} {acts : List Act} {batch another : Batch}
    {offset claimed : UInt64} (numbered : Numbered store)
    (first : Adds stream batch offset store act) (filled : batch.toList ≠ [])
    (second : Adds stream another claimed ((store.perform act).run acts) later) :
    (store.rows stream).length < (((store.perform act).run acts).rows stream).length ∧
      ((((store.perform act).run acts).rows stream).length < UInt64.size → offset ≠ claimed) := by
  have grown := ((numbered.perform act).rows_kept acts stream).length_le
  rw [first.added, List.length_append] at grown
  have more := List.length_pos_iff.mpr filled
  refine ⟨by omega, ?_⟩
  intro bounded equal
  rw [first.atEnd, second.atEnd] at equal
  have positions := congrArg UInt64.toNat equal
  rw [UInt64.toNat_ofNat_of_lt' bounded, UInt64.toNat_ofNat_of_lt' (by omega)] at positions
  omega

theorem rows_of_rejected {appender : Appender} {batch : Batch} {offset : UInt64} {status : Status}
    (called : store.append appender batch offset = (.rejected status, after)) (stream : String) :
    after.rows stream = store.rows stream := by
  have step := append_step appender batch offset store
  rw [called] at step
  cases step with
  | refused unacknowledged same => exact rows_congr (same.records stream)
  | accepted connected found unfinished atEnd confined extended answered => simp at answered

theorem stored_of_appended {appender : Appender} {batch : Batch} {offset stored : UInt64}
    (called : store.append appender batch offset = (.appended stored, after))
    (unskewed : store.script.ackSkew.getD 0 = 0) :
    stored = UInt64.ofNat (store.rows appender.stream).length ∧
      after.rows appender.stream = store.rows appender.stream ++ batch.toList := by
  have step := append_step appender batch offset store
  rw [called] at step
  cases step with
  | refused unacknowledged same => exact absurd rfl (unacknowledged stored)
  | accepted connected found unfinished atEnd confined extended answered =>
      refine ⟨?_, rows_extend found extended⟩
      simp only [reduceCtorEq, exists_false, AppendReply.appended.injEq, false_or] at answered
      rw [answered, unskewed, UInt64.add_zero, atEnd, length_rows found]

/-- A finalization answers the number of rows, unless it was ordered to answer another. -/
theorem finalize_counts (stream : String) (unordered : store.script.finalizeRowCount = none) :
    (∀ count, (store.finalize stream).1 = .ok count → count = (store.rows stream).length) ∧
      ((store.find? stream).isSome → store.script.finalizeFailures = [] →
        (store.finalize stream).1 = .ok (store.rows stream).length) := by
  constructor
  · intro count answered
    obtain ⟨_, record, found, _, counted⟩ := finalize_ok (Prod.ext answered rfl)
    rw [length_rows found, counted, unordered]
    rfl
  · intro present willing
    obtain ⟨record, found⟩ := Option.isSome_iff_exists.mp present
    rw [length_rows found]
    unfold find? at found
    simp [finalize, log, willing, unordered, find?, found]

/-- A store that began empty only adds whole batches at the ends of its streams, whatever was
asked of it: rows stay where they are, a finalized stream stays as it is, and no two batches
with rows stand at one offset. -/
theorem appendOnly_run (acts : List Act) : AppendOnly (run acts {}) := by
  have numbered := numbered_run acts
  exact
    { changes := fun act stream => (perform_change _ act).adds numbered stream
      keeps := fun later stream => numbered.rows_kept later stream
      ends := fun later _ finalized => numbered.finalized_kept later finalized
      exclusive := fun _ _ _ _ _ _ _ _ first filled second =>
        length_lt_of_adds numbered first filled second
      refuses := fun _ _ _ _ _ stream called => rows_of_rejected called stream
      acknowledges := fun _ _ _ _ _ called unskewed => stored_of_appended called unskewed
      counts := fun stream unordered => finalize_counts stream unordered }

end RowStream.Store
