import RowStream.Registry

/-!
Contract: a registry has at most one client in use for each key, and shuts each down once.

Owns:
- `Workshop`, where clients are built and shut down, and `Office`, a registry with its workshop;
- `Office.Errand`, one call of any caller, and `Office.run`, calls in the order in which they take
  effect;
- `Office.Served`, all that asking for a client can come to;
- `Office.Kept`, the clients in use are those built since the last shutdown, one for each key;
- `Office.Shared`, what callers rely on.

Main statement: `Office.shared_run`, callers can rely on a registry that began empty.

A client is told apart by its number, so that two of equal content are still two clients.
-/

namespace RowStream

variable {γ ε : Type}

/-! ### Clients and keys -/

/-- The values given last are those that headers set one after the other end up with. -/
theorem ClientKey.lookup_withHeaders (key : ClientKey) (entries : List (String × String))
    (name : String) :
    (entries.foldl (fun key entry => key.withHeader entry.1 entry.2) key).headers.lookup name =
      (entries.reverse.lookup name).or (key.headers.lookup name) := by
  induction entries generalizing key with
  | nil => rfl
  | cons entry rest inductionHypothesis =>
      rw [List.foldl_cons, inductionHypothesis, ClientKey.withHeader, Headers.lookup_insert,
        List.reverse_cons, List.lookup_append, Association.lookup_cons]
      cases rest.reverse.lookup name with
      | some value => rfl
      | none =>
          by_cases same : name = entry.1
          · simp [same]
          · simp [same]

/-- Keys are told apart by what their headers hold, and not by how they were listed. -/
theorem ClientKey.eq_iff (key other : ClientKey) :
    key = other ↔ key.credentials = other.credentials ∧ key.endpoint = other.endpoint ∧
      ∀ name, key.headers.lookup name = other.headers.lookup name := by
  constructor
  · rintro rfl
    exact ⟨rfl, rfl, fun _ => rfl⟩
  · rintro ⟨credentials, endpoint, headers⟩
    obtain ⟨_, _, _⟩ := key
    obtain ⟨_, _, _⟩ := other
    rw [ClientKey.mk.injEq]
    exact ⟨credentials, endpoint, Headers.eq_of_lookup headers⟩

structure Handle (γ : Type) where
  number : Nat
  client : γ

structure Workshop (γ : Type) where
  /-- Every client ever built, with its key; the number of a client is its place. -/
  built : List (ClientKey × γ) := []
  /-- The keys that a builder was run for. -/
  builds : List ClientKey := []
  /-- The numbers of the clients that were told to shut down. -/
  stopped : List Nat := []
  events : Array Event := #[]

namespace Workshop

def handles (workshop : Workshop γ) : List (ClientKey × Handle γ) :=
  workshop.built.mapIdx fun number entry => (entry.1, ⟨number, entry.2⟩)

def build (outcome : Except ε γ) (key : ClientKey) (workshop : Workshop γ) :
    Except ε (Handle γ) × Workshop γ :=
  let workshop := { workshop with builds := workshop.builds ++ [key] }
  match outcome with
  | .error error => (.error error, workshop)
  | .ok client =>
      (.ok ⟨workshop.built.length, client⟩,
        { workshop with built := workshop.built ++ [(key, client)] })

def stop (handle : Handle γ) (workshop : Workshop γ) : Workshop γ :=
  { workshop with stopped := workshop.stopped ++ [handle.number] }

def report (event : Event) (workshop : Workshop γ) : Workshop γ :=
  { workshop with events := workshop.events.push event }

theorem length_handles (workshop : Workshop γ) :
    workshop.handles.length = workshop.built.length := List.length_mapIdx

theorem keys_handles (workshop : Workshop γ) :
    workshop.handles.map Prod.fst = workshop.built.map Prod.fst := by
  refine List.ext_getElem? ?_
  intro number
  simp [handles]
  rfl

/-- A handle bears its place as its number. -/
theorem getElem?_handles {workshop : Workshop γ} {key : ClientKey} {handle : Handle γ}
    {place : Nat} (stands : workshop.handles[place]? = some (key, handle)) :
    handle.number = place ∧ workshop.built[place]? = some (key, handle.client) := by
  rw [handles, List.getElem?_mapIdx] at stands
  obtain ⟨entry, present, equal⟩ := Option.map_eq_some_iff.mp stands
  obtain ⟨rfl, rfl⟩ := Prod.mk.inj equal
  exact ⟨rfl, present⟩

end Workshop

/-! ### Calls -/

/-- A registry with the workshop that it builds in. -/
structure Office (γ : Type) where
  registry : Registry (Handle γ) := {}
  workshop : Workshop γ := {}

namespace Office

/-- One call of some caller. A caller that asks for a client brings a builder along; its
outcome shows if it is run. -/
inductive Errand (ε γ : Type) where
  | getOrCreate (key : ClientKey) (outcome : Except ε γ)
  | get (key : ClientKey)
  | contains (key : ClientKey)
  | shutdown

inductive Reply (ε γ : Type) where
  | served (result : Except ε (Handle γ))
  | found (handle? : Option (Handle γ))
  | known (present : Bool)
  | done

def Reply.handle? : Reply ε γ → Option (Handle γ)
  | .served (.ok handle) => some handle
  | .found handle? => handle?
  | _ => none

def Errand.key? : Errand ε γ → Option ClientKey
  | .getOrCreate key _ => some key
  | .get key => some key
  | .contains key => some key
  | .shutdown => none

def perform (errand : Errand ε γ) (office : Office γ) : Reply ε γ × Office γ :=
  match errand with
  | .getOrCreate key outcome =>
      let (result, registry, workshop) :=
        office.registry.getOrCreate Workshop.report (Workshop.build outcome) key office.workshop
      (.served result, ⟨registry, workshop⟩)
  | .get key => (.found (office.registry.get? key), office)
  | .contains key => (.known (office.registry.contains key), office)
  | .shutdown =>
      let (registry, workshop) :=
        office.registry.shutdown Workshop.report Workshop.stop office.workshop
      (.done, ⟨registry, workshop⟩)

def next (office : Office γ) (errand : Errand ε γ) : Office γ := (office.perform errand).2

def handed (errand : Errand ε γ) (office : Office γ) : Option (Handle γ) :=
  (office.perform errand).1.handle?

/-- Calls in the order in which they take effect. -/
def run (errands : List (Errand ε γ)) (office : Office γ) : Office γ :=
  errands.foldl next office

variable {office : Office γ} {key : ClientKey} {handle : Handle γ} {errand : Errand ε γ}

/-- All that asking for a client can come to. -/
inductive Served (key : ClientKey) (outcome : Except ε γ) (office : Office γ) :
    Reply ε γ × Office γ → Prop where
  | cached {handle : Handle γ} (found : office.registry.get? key = some handle) :
      Served key outcome office (.served (.ok handle), office)
  | refused {error : ε} {workshop : Workshop γ} (missing : office.registry.get? key = none)
      (failed : outcome = .error error)
      (same : workshop.built = office.workshop.built)
      (ran : workshop.builds = office.workshop.builds ++ [key])
      (stopped : workshop.stopped = office.workshop.stopped) :
      Served key outcome office (.served (.error error), ⟨office.registry, workshop⟩)
  | created {client : γ} {handle : Handle γ} {workshop : Workshop γ}
      (missing : office.registry.get? key = none) (succeeded : outcome = .ok client)
      (numbered : handle = ⟨office.workshop.built.length, client⟩)
      (built : workshop.built = office.workshop.built ++ [(key, client)])
      (ran : workshop.builds = office.workshop.builds ++ [key])
      (stopped : workshop.stopped = office.workshop.stopped) :
      Served key outcome office
        (.served (.ok handle), ⟨⟨office.registry.clients ++ [(key, handle)]⟩, workshop⟩)

theorem served (key : ClientKey) (outcome : Except ε γ) (office : Office γ) :
    Served key outcome office (office.perform (.getOrCreate key outcome)) := by
  unfold perform Registry.getOrCreate
  simp only
  cases found : office.registry.get? key with
  | some handle => exact .cached found
  | none =>
      cases outcome with
      | error error => exact .refused found rfl rfl rfl rfl
      | ok client => exact .created found rfl rfl rfl rfl rfl

/-- A shutdown empties the registry and stops the clients in it. -/
theorem next_shutdown (office : Office γ) :
    ∃ workshop, office.next (.shutdown : Errand ε γ) = ⟨{}, workshop⟩ ∧
      workshop.built = office.workshop.built ∧ workshop.builds = office.workshop.builds ∧
      workshop.stopped =
        office.workshop.stopped ++ office.registry.clients.map fun entry => entry.2.number := by
  have stops (clients : List (ClientKey × Handle γ)) (workshop : Workshop γ) :
      let after := clients.foldl (fun workshop entry =>
        (workshop.report (.clientShutDown entry.1.credentials)).stop entry.2) workshop
      after.built = workshop.built ∧ after.builds = workshop.builds ∧
        after.stopped = workshop.stopped ++ clients.map fun entry => entry.2.number := by
    induction clients generalizing workshop with
    | nil => exact ⟨rfl, rfl, (List.append_nil _).symm⟩
    | cons entry rest inductionHypothesis =>
        obtain ⟨built, builds, stopped⟩ := inductionHypothesis
          ((workshop.report (.clientShutDown entry.1.credentials)).stop entry.2)
        refine ⟨built, builds, stopped.trans ?_⟩
        simp [Workshop.stop, Workshop.report]
  exact ⟨_, rfl, stops office.registry.clients office.workshop⟩

/-! ### Answers -/

/-- A client handed over is the client in use for its key from then on. -/
theorem cached_of_handed (asked : errand.key? = some key)
    (given : office.handed errand = some handle) :
    (office.next errand).registry.get? key = some handle := by
  cases errand with
  | getOrCreate other outcome =>
      obtain rfl := Option.some.inj asked
      have step := served other outcome office
      unfold handed at given
      unfold next
      generalize office.perform (.getOrCreate other outcome) = result at step given
      cases step with
      | cached found => rwa [← Option.some.inj given]
      | refused missing failed same ran stopped => simp [Reply.handle?] at given
      | created missing succeeded numbered built ran stopped =>
          rw [← Option.some.inj given]
          unfold Registry.get? at missing ⊢
          rw [List.lookup_append, missing, Association.lookup_cons, if_pos rfl]
          rfl
  | get other =>
      obtain rfl := Option.some.inj asked
      exact given
  | contains other => simp [handed, perform, Reply.handle?] at given
  | shutdown => simp [handed, perform, Reply.handle?] at given

/-- Where a client is in use for a key, no other is handed over for it. -/
theorem handed_of_cached (asked : errand.key? = some key) {other : Handle γ}
    (found : office.registry.get? key = some other) (given : office.handed errand = some handle) :
    handle = other := by
  cases errand with
  | getOrCreate another outcome =>
      obtain rfl := Option.some.inj asked
      have step := served another outcome office
      unfold handed at given
      generalize office.perform (.getOrCreate another outcome) = result at step given
      cases step with
      | cached present =>
          rw [← Option.some.inj given]
          exact Option.some.inj (present.symm.trans found)
      | refused missing failed same ran stopped => simp [found] at missing
      | created missing succeeded numbered built ran stopped => simp [found] at missing
  | get another =>
      obtain rfl := Option.some.inj asked
      exact Option.some.inj (given.symm.trans found)
  | contains another => simp [handed, perform, Reply.handle?] at given
  | shutdown => simp [handed, perform, Reply.handle?] at given

/-- A client stays in use until the registry is shut down. -/
theorem cached_next (found : office.registry.get? key = some handle)
    (other : errand ≠ .shutdown) : (office.next errand).registry.get? key = some handle := by
  cases errand with
  | getOrCreate another outcome =>
      have step := served another outcome office
      unfold next
      generalize office.perform (.getOrCreate another outcome) = result at step
      cases step with
      | cached present => exact found
      | refused missing failed same ran stopped => exact found
      | created missing succeeded numbered built ran stopped =>
          unfold Registry.get? at found ⊢
          rw [List.lookup_append, found]
          rfl
  | get another => exact found
  | contains another => exact found
  | shutdown => exact absurd rfl other

/-- A client that is held is kept until the registry shuts down. -/
theorem cached_run (errands : List (Errand ε γ)) (found : office.registry.get? key = some handle)
    (others : .shutdown ∉ errands) : (office.run errands).registry.get? key = some handle := by
  induction errands generalizing office with
  | nil => exact found
  | cons errand rest inductionHypothesis =>
      rw [List.mem_cons, not_or] at others
      exact inductionHypothesis (cached_next found (Ne.symm others.1)) others.2

/-! ### The clients in use -/

/-- The clients in use are those built from a certain number on, one for each key, and just
the earlier ones were told to shut down, each of them once. -/
structure Kept (since : Nat) (office : Office γ) : Prop where
  cached : office.registry.clients = office.workshop.handles.drop since
  distinct : (office.registry.clients.map Prod.fst).Nodup
  stopped : office.workshop.stopped = List.range since
  bounded : since ≤ office.workshop.built.length

variable {since : Nat}

def sinceAfter (errand : Errand ε γ) (office : Office γ) (since : Nat) : Nat :=
  match errand with
  | .shutdown => office.workshop.built.length
  | _ => since

theorem Kept.keys (kept : Kept since office) :
    office.registry.clients.map Prod.fst = (office.workshop.built.drop since).map Prod.fst := by
  rw [kept.cached, List.map_drop, Workshop.keys_handles, List.map_drop]

theorem Kept.numbers (kept : Kept since office) :
    List.range since ++ office.registry.clients.map (fun entry => entry.2.number) =
      List.range office.workshop.built.length := by
  have places : office.workshop.handles.map (fun entry => entry.2.number) =
      List.range office.workshop.built.length := by
    refine List.ext_getElem? ?_
    intro number
    rw [Workshop.handles, List.getElem?_map, List.getElem?_mapIdx]
    by_cases within : number < office.workshop.built.length
    · simp [within]
    · simp [Nat.not_lt.mp within]
  rw [kept.cached, List.map_drop, places]
  have taken : List.range since = (List.range office.workshop.built.length).take since := by
    rw [List.take_range, Nat.min_eq_left kept.bounded]
  rw [taken, List.take_append_drop]

/-- The clients in use stand in the workshop in their own places. -/
theorem Kept.place (kept : Kept since office)
    (found : office.registry.get? key = some handle) :
    since ≤ handle.number ∧ office.workshop.built[handle.number]? = some (key, handle.client) := by
  obtain ⟨before, after, split, -⟩ := List.lookup_eq_some_iff.mp found
  have member : (key, handle) ∈ office.registry.clients := by simp [split]
  rw [kept.cached] at member
  obtain ⟨index, stands⟩ := List.mem_iff_getElem?.mp member
  rw [List.getElem?_drop] at stands
  obtain ⟨numbered, placed⟩ := Workshop.getElem?_handles stands
  rw [numbered]
  exact ⟨Nat.le_add_right _ _, placed⟩

theorem Kept.contains_iff (kept : Kept since office) :
    office.registry.contains key = true ↔
      key ∈ (office.workshop.built.drop since).map Prod.fst := by
  rw [← kept.keys, Registry.contains, Registry.get?, List.lookup_isSome_iff, List.mem_map]
  simp only [beq_iff_eq]
  exact exists_congr fun entry => and_congr_right fun _ => eq_comm

/-- No errand breaks the bookkeeping: what the registry holds is what was built since the last
shutdown, in this order. -/
theorem Kept.next (kept : Kept since office) (errand : Errand ε γ) :
    Kept (office.sinceAfter errand since) (office.next errand) := by
  cases errand with
  | getOrCreate other outcome =>
      have step := served other outcome office
      unfold Office.next sinceAfter
      generalize office.perform (.getOrCreate other outcome) = result at step
      cases step with
      | cached found => exact kept
      | @refused error workshop missing failed same ran stopped =>
          have handles : workshop.handles = office.workshop.handles := by
            rw [Workshop.handles, same, Workshop.handles]
          exact
            { cached := by rw [kept.cached, handles]
              distinct := kept.distinct
              stopped := stopped.trans kept.stopped
              bounded := by rw [same]; exact kept.bounded }
      | @created client handle workshop missing succeeded numbered built ran stopped =>
          have handles : workshop.handles = office.workshop.handles ++ [(other, handle)] := by
            rw [Workshop.handles, built, List.mapIdx_concat, numbered, Workshop.handles]
          have new : other ∉ office.registry.clients.map Prod.fst := by
            intro member
            have present := List.lookup_eq_none_iff.mp missing
            obtain ⟨entry, stands, rfl⟩ := List.mem_map.mp member
            simpa using present entry stands
          exact
            { cached := by
                rw [handles, List.drop_append_of_le_length
                  (by rw [Workshop.length_handles]; exact kept.bounded), kept.cached]
              distinct := by
                rw [List.map_append, List.nodup_append]
                refine ⟨kept.distinct, List.pairwise_singleton _ _, ?_⟩
                rintro key member _ last rfl
                rw [List.mem_singleton.mp last] at member
                exact new member
              stopped := stopped.trans kept.stopped
              bounded := by
                rw [built, List.length_append]
                exact Nat.le_add_right_of_le kept.bounded }
  | get other => exact kept
  | contains other => exact kept
  | shutdown =>
      obtain ⟨workshop, after, built, builds, stopped⟩ := next_shutdown office (ε := ε)
      rw [after]
      exact
        { cached := by
            rw [List.drop_eq_nil_of_le (Nat.le_of_eq _)]
            rw [Workshop.length_handles, built]
            rfl
          distinct := List.nodup_nil
          stopped := by rw [stopped, kept.stopped, kept.numbers]; rfl
          bounded := by rw [built]; exact Nat.le_refl _ }

/-- By these calls the registry was shut down at a time when more clients than this had been
built. -/
def ShutDownAfter (number : Nat) (errands : List (Errand ε γ)) (office : Office γ) : Prop :=
  ∃ early late, errands = early ++ .shutdown :: late ∧
    number < (office.run early).workshop.built.length

theorem shutDownAfter_cons (number : Nat) (errand : Errand ε γ) (rest : List (Errand ε γ))
    (office : Office γ) :
    ShutDownAfter number (errand :: rest) office ↔
      (errand = .shutdown ∧ number < office.workshop.built.length) ∨
        ShutDownAfter number rest (office.next errand) := by
  constructor
  · rintro ⟨early, late, split, built⟩
    rcases List.cons_eq_append_iff.mp split with ⟨rfl, equal⟩ | ⟨others, rfl, equal⟩
    · exact Or.inl ⟨(List.cons.inj equal).1.symm, built⟩
    · exact Or.inr ⟨others, late, equal, built⟩
  · rintro (⟨rfl, built⟩ | ⟨early, late, rfl, built⟩)
    · exact ⟨[], rest, rfl, built⟩
    · exact ⟨errand :: early, late, rfl, built⟩

/-- The induction is on the calls; the number moves on with every shutdown. -/
theorem kept_run (kept : Kept since office) (errands : List (Errand ε γ)) :
    ∃ now, Kept now (office.run errands) ∧
      ∀ number, number < now ↔ number < since ∨ ShutDownAfter number errands office := by
  induction errands generalizing office since with
  | nil =>
      refine ⟨since, kept, ?_⟩
      intro number
      simp [ShutDownAfter]
  | cons errand rest inductionHypothesis =>
      obtain ⟨now, later, moved⟩ := inductionHypothesis (kept.next errand)
      refine ⟨now, later, ?_⟩
      intro number
      rw [moved, shutDownAfter_cons, ← or_assoc]
      refine or_congr ?_ Iff.rfl
      cases errand with
      | shutdown =>
          have bounded := kept.bounded
          simp only [sinceAfter, true_and]
          omega
      | getOrCreate key outcome => simp [sinceAfter]
      | get key => simp [sinceAfter]
      | contains key => simp [sinceAfter]

/-! ### What callers rely on -/

theorem built_next (errand : Errand ε γ) (office : Office γ) :
    office.workshop.built <+: (office.next errand).workshop.built := by
  cases errand with
  | getOrCreate key outcome =>
      have step := served key outcome office
      unfold next
      generalize office.perform (.getOrCreate key outcome) = result at step
      cases step with
      | cached found => exact List.prefix_refl _
      | refused missing failed same ran stopped => exact same ▸ List.prefix_refl _
      | created missing succeeded numbered built ran stopped =>
          exact built ▸ List.prefix_append _ _
  | get key => exact List.prefix_refl _
  | contains key => exact List.prefix_refl _
  | shutdown =>
      obtain ⟨workshop, after, built, -, -⟩ := next_shutdown office (ε := ε)
      rw [after]
      exact built ▸ List.prefix_refl _

theorem built_run (errands : List (Errand ε γ)) (office : Office γ) :
    office.workshop.built <+: (office.run errands).workshop.built := by
  induction errands generalizing office with
  | nil => exact List.prefix_refl _
  | cons errand rest inductionHypothesis =>
      exact (built_next errand office).trans (inductionHypothesis (office.next errand))

/-- A client handed over was built for the key, and is not one of those shut down. -/
theorem Kept.handed (kept : Kept since office) (asked : errand.key? = some key)
    (given : office.handed errand = some handle) :
    since ≤ handle.number ∧
      (office.next errand).workshop.built[handle.number]? = some (key, handle.client) := by
  have same : office.sinceAfter errand since = since := by
    cases errand with
    | shutdown => simp [Errand.key?] at asked
    | getOrCreate other outcome => rfl
    | get other => rfl
    | contains other => rfl
  have placed := (kept.next errand).place (cached_of_handed asked given)
  rwa [same] at placed

/-- Two requests for one key get one client, unless there was a shutdown in between. -/
theorem handed_same {first second : Errand ε γ} {middle : List (Errand ε γ)}
    {other : Handle γ} (asked : first.key? = some key) (again : second.key? = some key)
    (others : .shutdown ∉ middle) (given : office.handed first = some handle)
    (repeated : (office.run (first :: middle)).handed second = some other) :
    other = handle := by
  have found := cached_run middle (cached_of_handed asked given) others
  exact handed_of_cached again found repeated

/-- Requests for different keys never get one client. -/
theorem Kept.handed_apart (kept : Kept since office) {first second : Errand ε γ}
    {middle : List (Errand ε γ)} {another : ClientKey} {other : Handle γ}
    (asked : first.key? = some key) (elsewhere : second.key? = some another)
    (different : key ≠ another) (given : office.handed first = some handle)
    (repeated : (office.run (first :: middle)).handed second = some other) :
    handle.number ≠ other.number := by
  intro equal
  obtain ⟨now, later, -⟩ := kept_run kept (first :: middle)
  have early := (kept.handed asked given).2
  have late := (later.handed elsewhere repeated).2
  -- Both stand in the workshop to the end, each under the key it was built for.
  obtain ⟨added, grown⟩ := (built_run middle (office.next first)).trans
    (built_next second (office.run (first :: middle)))
  obtain ⟨within, -⟩ := List.getElem?_eq_some_iff.mp early
  rw [← equal, ← grown, List.getElem?_append_left within] at late
  have entries := early.symm.trans late
  exact different (Prod.mk.inj (Option.some.inj entries)).1

theorem builds_getOrCreate (key : ClientKey) (outcome : Except ε γ) (office : Office γ) :
    (office.next (.getOrCreate key outcome)).workshop.builds =
      if office.registry.contains key then office.workshop.builds
      else office.workshop.builds ++ [key] := by
  have step := served key outcome office
  unfold next
  generalize office.perform (.getOrCreate key outcome) = result at step
  cases step with
  | cached found => rw [Registry.contains, found, Option.isSome_some, if_pos rfl]
  | refused missing failed same ran stopped =>
      rw [Registry.contains, missing, Option.isSome_none, if_neg (by decide), ran]
  | created missing succeeded numbered built ran stopped =>
      rw [Registry.contains, missing, Option.isSome_none, if_neg (by decide), ran]

/-- A client that cannot be built leaves no trace. -/
theorem registry_of_failing (key : ClientKey) (error : ε) (office : Office γ) :
    (office.next (.getOrCreate key (.error error))).registry = office.registry := by
  have step := served key (.error error) office
  unfold next
  generalize office.perform (.getOrCreate key (.error error)) = result at step
  cases step with
  | cached found => rfl
  | refused missing failed same ran stopped => rfl
  | created missing succeeded numbered built ran stopped => simp at succeeded

/-- What holds of a registry after some calls, and of whatever is asked of it next. -/
structure Shared (errands : List (Errand ε γ)) (office : Office γ) : Prop where
  /-- Two calls with equal keys hand over one client, unless a shutdown comes between them. -/
  same : ∀ (first second : Errand ε γ) middle key handle other, first.key? = some key →
    second.key? = some key → .shutdown ∉ middle → office.handed first = some handle →
      (office.run (first :: middle)).handed second = some other → other = handle
  /-- Two calls with different keys never do. -/
  apart : ∀ (first second : Errand ε γ) middle key another handle other,
    first.key? = some key → second.key? = some another → key ≠ another →
      office.handed first = some handle →
        (office.run (first :: middle)).handed second = some other → handle.number ≠ other.number
  /-- A builder is run where no client is in use for the key, and only there. -/
  builds : ∀ key (outcome : Except ε γ),
    (office.next (.getOrCreate key outcome)).workshop.builds =
      if office.registry.contains key then office.workshop.builds
      else office.workshop.builds ++ [key]
  /-- Any other call runs no builder. -/
  idle : ∀ errand : Errand ε γ, (∀ key outcome, errand ≠ .getOrCreate key outcome) →
    (office.next errand).workshop.builds = office.workshop.builds
  /-- A builder that fails leaves the registry as it was. -/
  fails : ∀ key (error : ε),
    (office.next (.getOrCreate key (.error error))).registry = office.registry
  /-- Every client that a shutdown came after was told to shut down once, and no other was. -/
  stops : ∀ number, (ShutDownAfter number errands {} → office.workshop.stopped.count number = 1) ∧
    (¬ ShutDownAfter number errands {} → office.workshop.stopped.count number = 0)
  /-- The clients in use are those built since the last shutdown, all for different keys. -/
  fresh : ∃ since, (∀ number, number < since ↔ ShutDownAfter number errands {}) ∧
    ((office.workshop.built.drop since).map Prod.fst).Nodup ∧
    office.registry.size = ((office.workshop.built.drop since).map Prod.fst).length ∧
    ∀ key, office.registry.contains key = true ↔
      key ∈ (office.workshop.built.drop since).map Prod.fst
  /-- No client is handed over once a shutdown came after it. -/
  live : ∀ (errand : Errand ε γ) key handle, errand.key? = some key →
    office.handed errand = some handle → ¬ ShutDownAfter handle.number errands {}
  /-- Keys are told apart by their credentials, endpoint and values of headers. -/
  keys : ∀ key other : ClientKey, key = other ↔ key.credentials = other.credentials ∧
    key.endpoint = other.endpoint ∧ ∀ name, key.headers.lookup name = other.headers.lookup name
  /-- Of headers set one after the other, the last value of a name counts. -/
  headers : ∀ (key : ClientKey) (entries : List (String × String)) name,
    (entries.foldl (fun key entry => key.withHeader entry.1 entry.2) key).headers.lookup name =
      (entries.reverse.lookup name).or (key.headers.lookup name)

theorem idle_next (errand : Errand ε γ) (office : Office γ)
    (other : ∀ key outcome, errand ≠ .getOrCreate key outcome) :
    (office.next errand).workshop.builds = office.workshop.builds := by
  cases errand with
  | getOrCreate key outcome => exact absurd rfl (other key outcome)
  | get key => rfl
  | contains key => rfl
  | shutdown =>
      obtain ⟨workshop, after, -, builds, -⟩ := next_shutdown office (ε := ε)
      rw [after, builds]

/-- In whatever order the calls of any number of callers took effect on a registry that began
empty, callers share one client for each key, and every client is shut down just once, by the
first shutdown after it was built. -/
theorem shared_run (errands : List (Errand ε γ)) :
    Shared errands (({} : Office γ).run errands) := by
  have empty : Kept 0 ({} : Office γ) := ⟨rfl, List.nodup_nil, rfl, Nat.le_refl _⟩
  obtain ⟨since, kept, moved⟩ := kept_run empty errands
  have marks (number : Nat) : number < since ↔ ShutDownAfter number errands {} := by
    rw [moved number]
    exact ⟨fun either => either.resolve_left (Nat.not_lt_zero number), Or.inr⟩
  exact
    { same := fun _ _ _ _ _ _ asked again others given repeated =>
        handed_same asked again others given repeated
      apart := fun _ _ _ _ _ _ _ asked elsewhere different given repeated =>
        kept.handed_apart asked elsewhere different given repeated
      builds := fun key outcome => builds_getOrCreate key outcome _
      idle := fun errand other => idle_next errand _ other
      fails := fun key error => registry_of_failing key error _
      stops := by
        intro number
        rw [kept.stopped, List.count_range, ← marks number]
        exact ⟨fun before => if_pos before, fun before => if_neg before⟩
      fresh := by
        refine ⟨since, marks, kept.keys ▸ kept.distinct, ?_, fun key => kept.contains_iff⟩
        rw [← kept.keys, List.length_map, Registry.size]
      live := by
        intro errand key handle asked given stopped
        have later := (kept.handed asked given).1
        exact Nat.not_lt.mpr later ((marks handle.number).mpr stopped)
      keys := ClientKey.eq_iff
      headers := ClientKey.lookup_withHeaders }

end Office

end RowStream
