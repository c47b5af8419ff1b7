import RowStream.Proofs.Store.AppendOnly

/-!
Contract: the store never gives a name to a second stream.

Owns:
- `Store.catalogue`, the names of the streams from the newest on, and `Store.names`, the
  names that acts give in their order;
- `Store.Catalogued`, no stream is listed twice and no later number is in use, which every act
  keeps;
- `Store.Opens`, what a creation that succeeds does.

Main statement: `Store.names_never_reused`. Parents are arbitrary texts, among them names of
streams; what tells names apart are the numbers at their ends. These are counted without end,
as a counter of 64 bits counts the first `2 ^ 64 - 1` of them.
-/

namespace RowStream.Store

variable {store after : Store} {stream : String}

def catalogue (store : Store) : List String := store.streams.map Prod.fst

/-- The name that an act gives to a stream, if it creates one. -/
def given (store : Store) : Act → Option String
  | .create parent kind =>
      match (store.create parent kind).1 with
      | .ok created => some created.name
      | .error _ => none
  | _ => none

def names : List Act → Store → List String
  | [], _ => []
  | act :: rest, store => (store.given act).toList ++ names rest (store.perform act)

theorem mem_catalogue : stream ∈ store.catalogue ↔ (store.find? stream).isSome := by
  rw [catalogue, find?]
  induction store.streams with
  | nil => simp
  | cons entry rest inductionHypothesis =>
      rw [List.map_cons, List.mem_cons, Association.lookup_cons, inductionHypothesis]
      by_cases same : stream = entry.1
      · simp [same]
      · simp [same]

theorem streamNames_perm (store : Store) : store.streamNames.Perm store.catalogue :=
  List.mergeSort_perm _ _

/-! ### What a request lists -/

theorem catalogue_update (stream : String) (change : StreamRecord → StreamRecord)
    (store : Store) : (store.update stream change).catalogue = store.catalogue := by
  unfold catalogue update
  rw [List.map_map]
  refine List.map_congr_left fun entry _ => ?_
  rw [Function.comp_apply]
  split <;> rfl

theorem catalogue_write (stream : String) (batch : Batch) (offset : UInt64) (store : Store) :
    (store.write stream batch offset).2.catalogue = store.catalogue := by
  unfold write
  split
  · rfl
  · simp only
    split
    · rfl
    · split
      · rfl
      · split
        · rfl
        · exact catalogue_update stream _ store

theorem catalogue_append (appender : Appender) (batch : Batch) (offset : UInt64)
    (store : Store) : (store.append appender batch offset).2.catalogue = store.catalogue := by
  unfold append receive
  split
  · rfl
  · simp only
    split
    · rfl
    · have written := catalogue_write appender.stream batch offset
        (store.log (.append appender.stream offset batch.length)).spendAppend
      split
      · exact written
      · exact written

theorem catalogue_close (appender : Appender) (store : Store) :
    (store.close appender).2.catalogue = store.catalogue := by
  unfold close
  split
  · rfl
  · simp only
    split <;> rfl

theorem catalogue_finalize (stream : String) (store : Store) :
    (store.finalize stream).2.catalogue = store.catalogue := by
  unfold finalize
  simp only
  split
  · rfl
  · split
    · rfl
    · exact catalogue_update stream _ _

/-- The list of names grows by the streams that are created, and never shrinks. -/
theorem catalogue_perform (store : Store) (act : Act) :
    (store.perform act).catalogue = (store.given act).toList ++ store.catalogue := by
  cases act with
  | create parent kind =>
      simp only [perform, given, create, log]
      split <;> rfl
  | bind stream schema =>
      simp only [perform, given, bind]
      split <;> rfl
  | append appender batch offset => exact catalogue_append appender batch offset store
  | finalize stream => exact catalogue_finalize stream store
  | close appender => exact catalogue_close appender store
  | plan mishap => rfl
  | shutdown => rfl

/-- The induction is on the acts; each lists the name it gives before those given earlier. -/
theorem catalogue_run (acts : List Act) (store : Store) :
    (run acts store).catalogue = (names acts store).reverse ++ store.catalogue := by
  induction acts generalizing store with
  | nil => rfl
  | cons act rest inductionHypothesis =>
      have one : (store.given act).toList.reverse = (store.given act).toList := by
        cases store.given act <;> rfl
      rw [names, List.reverse_append, one, List.append_assoc, ← catalogue_perform]
      exact inductionHypothesis (store.perform act)

/-! ### Names in use -/

/-- Every stream is listed once, and none has a number that was not reached yet. -/
structure Catalogued (store : Store) : Prop where
  numbered : Numbered store
  distinct : store.catalogue.Nodup

theorem Catalogued.empty : Catalogued {} :=
  ⟨fun _ _ _ => rfl, List.nodup_nil⟩

theorem Numbered.unused {parent : String} {kind : StreamKind} {created : CreatedStream}
    (numbered : Numbered store) (called : store.create parent kind = (.ok created, after)) :
    store.find? created.name = none := by
  rw [(create_ok_created called).1]
  exact numbered parent _ (Nat.lt_succ_self _)

/-- A name that is given is not listed yet. -/
theorem Numbered.given_unlisted {act : Act} {name : String} (numbered : Numbered store)
    (gave : store.given act = some name) : name ∉ store.catalogue := by
  cases act with
  | create parent kind =>
      rw [given] at gave
      cases called : store.create parent kind with
      | mk answer after =>
        rw [called] at gave
        cases answer with
        | error status => exact absurd gave (by simp)
        | ok created =>
            rw [mem_catalogue, ← Option.some.inj gave, numbered.unused called]
            simp
  | bind stream schema => exact absurd gave (by simp [given])
  | append appender batch offset => exact absurd gave (by simp [given])
  | finalize stream => exact absurd gave (by simp [given])
  | close appender => exact absurd gave (by simp [given])
  | plan mishap => exact absurd gave (by simp [given])
  | shutdown => exact absurd gave (by simp [given])

theorem Catalogued.perform (catalogued : Catalogued store) (act : Act) :
    Catalogued (store.perform act) where
  numbered := catalogued.numbered.perform act
  distinct := by
    rw [catalogue_perform]
    cases gave : store.given act with
    | none => exact catalogued.distinct
    | some name =>
        exact List.nodup_cons.mpr
          ⟨catalogued.numbered.given_unlisted gave, catalogued.distinct⟩

theorem Catalogued.run (catalogued : Catalogued store) (acts : List Act) :
    Catalogued (run acts store) := by
  induction acts generalizing store with
  | nil => exact catalogued
  | cons act rest inductionHypothesis => exact inductionHypothesis (catalogued.perform act)

/-! ### Creations -/

/-- A creation adds one empty stream under a name that no stream has, and leaves the records of
the streams there are. -/
structure Opens (parent : String) (kind : StreamKind) (store : Store) (created : CreatedStream)
    (after : Store) : Prop where
  created_eq : created = ⟨streamName parent (store.created + 1), kind⟩
  unused : store.find? created.name = none
  opened : after.find? created.name =
    some { kind := kind, rows := #[], finalized := false }
  others : ∀ other, other ≠ created.name → after.find? other = store.find? other
  listed : after.catalogue = created.name :: store.catalogue

/-- All that a creation does: one empty stream more, under a name not used before. -/
theorem Numbered.opens {parent : String} {kind : StreamKind} {created : CreatedStream}
    (numbered : Numbered store) (called : store.create parent kind = (.ok created, after)) :
    Opens parent kind store created after where
  created_eq := by
    unfold create at called
    simp only at called
    split at called
    · simp at called
    · exact (Except.ok.inj (Prod.mk.inj called).1).symm
  unused := numbered.unused called
  opened := (create_ok called).2
  others := (create_ok called).1.others
  listed := by
    have listed := catalogue_perform store (.create parent kind)
    rw [Store.perform, given, called] at listed
    exact listed

theorem Opens.kept {parent : String} {kind : StreamKind} {created : CreatedStream}
    (opens : Opens parent kind store created after) {record : StreamRecord}
    (found : store.find? stream = some record) : after.find? stream = some record := by
  refine (opens.others stream ?_).trans found
  rintro rfl
  rw [opens.unused] at found
  exact absurd found (by simp)

/-- Only an order makes a creation fail. -/
theorem create_ok_iff (parent : String) (kind : StreamKind) (store : Store) :
    (∃ created, (store.create parent kind).1 = .ok created) ↔
      store.script.createFailures = [] := by
  unfold create
  simp only [log]
  split
  · next failures => simp [failures]
  · next failures => simp [failures]

/-- Whatever is asked of a store that began empty, with whatever orders for faults: no name is
given twice, and the streams are those that names were given to. A creation then adds one empty
stream and changes no other; if its failure was ordered it adds none. -/
theorem names_never_reused (acts : List Act) :
    let store := run acts {}
    (names acts {}).Nodup ∧ store.streamNames.Perm (names acts {}) ∧
      ∀ parent kind,
        ((∃ created, (store.create parent kind).1 = .ok created) ↔
          store.script.createFailures = []) ∧
        (∀ created after, store.create parent kind = (.ok created, after) →
          created.name ∉ names acts {} ∧ Opens parent kind store created after ∧
            ∀ stream record, store.find? stream = some record →
              after.find? stream = some record) ∧
        (∀ status after, store.create parent kind = (.error status, after) →
          after.catalogue = store.catalogue ∧
            ∀ stream, after.find? stream = store.find? stream) := by
  intro store
  have catalogued : Catalogued store := Catalogued.empty.run acts
  have listed : store.catalogue = (names acts {}).reverse :=
    (catalogue_run acts {}).trans (List.append_nil _)
  refine ⟨?_, ?_, fun parent kind => ⟨create_ok_iff parent kind store, ?_, ?_⟩⟩
  · have distinct := catalogued.distinct
    rw [listed] at distinct
    exact (List.reverse_perm _).nodup_iff.mp distinct
  · have named := streamNames_perm store
    rw [listed] at named
    exact named.trans (List.reverse_perm _)
  · intro created after called
    have opens := catalogued.numbered.opens called
    have unlisted : created.name ∉ store.catalogue := by
      rw [mem_catalogue, opens.unused]
      simp
    rw [listed, List.mem_reverse] at unlisted
    exact ⟨unlisted, opens, fun stream record found => opens.kept found⟩
  · intro status after called
    have unlisted := catalogue_perform store (.create parent kind)
    rw [perform, given, called] at unlisted
    exact ⟨unlisted, (create_error called).records⟩

/-- A parent may be the name of a stream, or no text at all. -/
example : names
    [.create "t" .pending, .plan (.failCreates [.unavailable "full"]), .create "t" .pending,
      .create "t/streams/1" .pending, .create "" .pending] {} =
    ["t/streams/1", "t/streams/1/streams/2", "/streams/3"] := by
  decide +kernel

end RowStream.Store
