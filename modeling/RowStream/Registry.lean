import RowStream.Association
import RowStream.Event
import RowStream.Json.Reader

/-!
Contract: one shared client for each identity.

Owns:
- `Headers`, names with values, sorted by name;
- `ClientKey`, the identity of a client, with its JSON form;
- `Registry`, the clients built and not yet shut down.

Main statements: `Headers.lookup_insert`, setting one header changes no other;
`Headers.eq_of_lookup`, headers are told apart by nothing but the values of names; and
`ClientKey.ofJson?_toJson`, a key is read back from its value.
-/

namespace RowStream

namespace Headers

/-- Whether entries are sorted by name without repetition. -/
def Sorted (entries : List (String × String)) : Prop :=
  entries.Pairwise fun left right => left.1 < right.1

/-- The entries with one name set, in the place where it belongs. -/
def insertEntry (name value : String) : List (String × String) → List (String × String)
  | [] => [(name, value)]
  | entry :: rest =>
      if name < entry.1 then (name, value) :: entry :: rest
      else if name = entry.1 then (name, value) :: rest
      else entry :: insertEntry name value rest

theorem insertEntry_bounded {bound name value : String} {entries : List (String × String)}
    (bounded : ∀ entry ∈ entries, bound < entry.1) (below : bound < name) :
    ∀ entry ∈ insertEntry name value entries, bound < entry.1 := by
  induction entries with
  | nil => simpa [insertEntry] using below
  | cons first rest inductionHypothesis =>
      obtain ⟨here, later⟩ := List.forall_mem_cons.mp bounded
      rw [insertEntry]
      split
      · exact List.forall_mem_cons.mpr ⟨below, bounded⟩
      · split
        · exact List.forall_mem_cons.mpr ⟨below, later⟩
        · exact List.forall_mem_cons.mpr ⟨here, inductionHypothesis later⟩

/-- An entry is put where the order of names wants it. -/
theorem Sorted.insertEntry {entries : List (String × String)} (sorted : Sorted entries)
    (name value : String) : Sorted (insertEntry name value entries) := by
  induction entries with
  | nil => exact List.pairwise_singleton _ _
  | cons first rest inductionHypothesis =>
      obtain ⟨bounded, later⟩ := List.pairwise_cons.mp sorted
      rw [Headers.insertEntry]
      split
      · next before =>
          refine List.pairwise_cons.mpr ⟨?_, sorted⟩
          exact List.forall_mem_cons.mpr
            ⟨before, fun entry member => String.lt_trans before (bounded entry member)⟩
      · split
        · next found =>
            refine List.pairwise_cons.mpr ⟨?_, later⟩
            rw [found]
            exact bounded
        · next notBefore apart =>
            have behind : first.1 < name :=
              Std.lt_of_le_of_ne (String.not_lt.mp notBefore) (Ne.symm apart)
            exact List.pairwise_cons.mpr
              ⟨insertEntry_bounded bounded behind, inductionHypothesis later⟩

theorem lookup_insertEntry (name value other : String) (entries : List (String × String)) :
    (insertEntry name value entries).lookup other =
      if other = name then some value else entries.lookup other := by
  induction entries with
  | nil => rw [insertEntry, Association.lookup_cons]
  | cons entry rest inductionHypothesis =>
      rw [insertEntry]
      split
      · rw [Association.lookup_cons]
      · split
        · next found =>
            rw [Association.lookup_cons, Association.lookup_cons, ← found]
            by_cases same : other = name
            · simp [same]
            · simp [same]
        · next apart =>
            rw [Association.lookup_cons, Association.lookup_cons, inductionHypothesis]
            by_cases first : other = entry.1
            · rw [if_pos first, if_pos first, if_neg (fun same => apart (same.symm.trans first))]
            · rw [if_neg first, if_neg first]

theorem lookup_of_bounded {entries : List (String × String)} {name : String}
    (bounded : ∀ entry ∈ entries, name < entry.1) : entries.lookup name = none := by
  refine List.lookup_eq_none_iff.mpr ?_
  intro entry member
  refine bne_iff_ne.mpr ?_
  intro same
  exact String.lt_irrefl _ (same ▸ bounded entry member)

/-- Sorted entries are determined by what is looked up in them. -/
theorem Sorted.eq_of_lookup {left right : List (String × String)} (sorted : Sorted left)
    (ordered : Sorted right) (same : ∀ name, left.lookup name = right.lookup name) :
    left = right := by
  induction left generalizing right with
  | nil =>
      cases right with
      | nil => rfl
      | cons other later =>
          have found := same other.1
          simp [Association.lookup_cons] at found
  | cons first rest inductionHypothesis =>
      cases right with
      | nil =>
          have found := same first.1
          simp [Association.lookup_cons] at found
      | cons other later =>
          obtain ⟨bounded, sorted⟩ := List.pairwise_cons.mp sorted
          obtain ⟨limited, ordered⟩ := List.pairwise_cons.mp ordered
          -- A first name below the other one would be missing on the other side.
          have notBelow : ¬ first.1 < other.1 := by
            intro below
            have missing := lookup_of_bounded (List.forall_mem_cons.mpr
              ⟨below, fun entry member => String.lt_trans below (limited entry member)⟩)
            simp [← same, Association.lookup_cons] at missing
          have notAbove : ¬ other.1 < first.1 := by
            intro above
            have missing := lookup_of_bounded (List.forall_mem_cons.mpr
              ⟨above, fun entry member => String.lt_trans above (bounded entry member)⟩)
            simp [same, Association.lookup_cons] at missing
          have names : first.1 = other.1 :=
            String.le_antisymm (String.not_lt.mp notAbove) (String.not_lt.mp notBelow)
          have values : first.2 = other.2 := by
            simpa [Association.lookup_cons, names] using same first.1
          have remaining : rest = later := by
            refine inductionHypothesis sorted ordered ?_
            intro name
            by_cases here : name = first.1
            · rw [here, lookup_of_bounded bounded, names, lookup_of_bounded limited]
            · have elsewhere := same name
              rwa [Association.lookup_cons, Association.lookup_cons, if_neg here,
                if_neg (names ▸ here)] at elsewhere
          rw [remaining, Prod.ext names values]

end Headers

/-- Request headers, sorted by name without repetition. -/
structure Headers where
  entries : List (String × String) := []
  sorted : Headers.Sorted entries := by exact .nil
deriving DecidableEq, Repr

namespace Headers

/-- The headers with one set; an earlier value of it is lost. -/
def insert (name value : String) (headers : Headers) : Headers :=
  ⟨insertEntry name value headers.entries, headers.sorted.insertEntry name value⟩

def lookup (headers : Headers) (name : String) : Option String :=
  headers.entries.lookup name

/-- The headers set one after the other. -/
def ofList (entries : List (String × String)) : Headers :=
  entries.foldl (fun headers entry => headers.insert entry.1 entry.2) {}

/-- The last value given for a header is the one that counts. -/
theorem lookup_insert (name value other : String) (headers : Headers) :
    (headers.insert name value).lookup other =
      if other = name then some value else headers.lookup other :=
  lookup_insertEntry name value other headers.entries

/-- A name behind all others is set at the end. -/
theorem insertEntry_of_last {name value : String} {entries : List (String × String)}
    (last : ∀ entry ∈ entries, entry.1 < name) :
    insertEntry name value entries = entries ++ [(name, value)] := by
  induction entries with
  | nil => rfl
  | cons first rest inductionHypothesis =>
      obtain ⟨here, later⟩ := List.forall_mem_cons.mp last
      have apart : name ≠ first.1 := by
        rintro rfl
        exact String.lt_irrefl _ here
      rw [insertEntry, if_neg (String.not_lt.mpr (Std.le_of_lt here)), if_neg apart,
        inductionHypothesis later, List.cons_append]

/-- Entries in order are listed as they were put in, so that reading them back finds the same
headers. -/
theorem entries_foldl_insert (later : List (String × String)) (headers : Headers)
    (sorted : Sorted (headers.entries ++ later)) :
    (later.foldl (fun headers entry => headers.insert entry.1 entry.2) headers).entries =
      headers.entries ++ later := by
  induction later generalizing headers with
  | nil => rw [List.foldl_nil, List.append_nil]
  | cons entry later inductionHypothesis =>
      have last : ∀ other ∈ headers.entries, other.1 < entry.1 := by
        intro other member
        exact (List.pairwise_append.mp sorted).2.2 other member entry List.mem_cons_self
      have grown : (headers.insert entry.1 entry.2).entries = headers.entries ++ [entry] :=
        insertEntry_of_last last
      rw [List.append_cons, ← grown] at sorted ⊢
      exact inductionHypothesis _ sorted

/-- Headers set in their own order are the headers. -/
theorem ofList_entries (headers : Headers) : ofList headers.entries = headers := by
  have same : (ofList headers.entries).entries = headers.entries :=
    entries_foldl_insert headers.entries {} headers.sorted
  obtain ⟨entries, sorted⟩ := headers
  generalize ofList entries = other at same
  obtain ⟨others, _⟩ := other
  simp only at same
  subst same
  rfl

/-- Headers are a map: two are equal if they give every name the same value. -/
theorem eq_of_lookup {left right : Headers}
    (same : ∀ name, left.lookup name = right.lookup name) : left = right := by
  obtain ⟨entries, sorted⟩ := left
  obtain ⟨others, ordered⟩ := right
  have equal : entries = others := sorted.eq_of_lookup ordered same
  subst equal
  rfl

end Headers

/-- Identity of a client. -/
structure ClientKey where
  /-- Stable identity of the credentials. -/
  credentials : String
  /-- Another endpoint than the default one. -/
  endpoint : Option String := none
  headers : Headers := {}
deriving DecidableEq, Repr

namespace ClientKey

def withEndpoint (endpoint : String) (key : ClientKey) : ClientKey :=
  { key with endpoint := some endpoint }

def withHeader (name value : String) (key : ClientKey) : ClientKey :=
  { key with headers := key.headers.insert name value }

def toJson (key : ClientKey) : Json :=
  .object
    [("credentials_id", .string key.credentials),
     ("endpoint", (key.endpoint.map Json.string).getD .null),
     ("headers", .object (key.headers.entries.map fun entry => (entry.1, .string entry.2)))]

/-- The key as a JSON text. -/
def toJsonText (key : ClientKey) : String := key.toJson.compact

private def text? : Json → Option String
  | .string text => some text
  | _ => none

private def endpoint? : Json → Option (Option String)
  | .null => some none
  | .string text => some (some text)
  | _ => none

private def headers? : Json → Option Headers
  | .object members =>
      (members.mapM fun member => (text? member.2).map (member.1, ·)).map Headers.ofList
  | _ => none

/-- The only member of a name, `some none` if there is none. -/
private def member? (name : String) (members : List (String × Json)) : Option (Option Json) :=
  match members.filter fun member => member.1 == name with
  | [] => some none
  | [member] => some (some member.2)
  | _ => none

/-- The key that a value describes, by names or as a row of three. Only the endpoint may
be left out, and only by name. -/
def ofJson? : Json → Option ClientKey
  | .object members => do
      let credentials ← (← member? "credentials_id" members).bind text?
      let endpoint ← match ← member? "endpoint" members with
        | none => some none
        | some value => endpoint? value
      let headers ← (← member? "headers" members).bind headers?
      some ⟨credentials, endpoint, headers⟩
  | .array [credentials, endpoint, headers] => do
      some ⟨← text? credentials, ← endpoint? endpoint, ← headers? headers⟩
  | _ => none

private theorem headers?_entries (headers : Headers) :
    headers? (.object (headers.entries.map fun entry => (entry.1, .string entry.2))) =
      some headers := by
  have back : ((fun member : String × Json => (text? member.2).map (member.1, ·)) ∘
      fun entry => (entry.1, Json.string entry.2)) = fun entry => pure (id entry) := rfl
  rw [headers?, List.mapM_map, back, List.mapM_pure, List.map_id]
  exact congrArg some headers.ofList_entries

/-- A key is read back from its value. -/
theorem ofJson?_toJson (key : ClientKey) : ofJson? key.toJson = some key := by
  obtain ⟨credentials, endpoint, headers⟩ := key
  cases endpoint with
  | none => simp [toJson, ofJson?, member?, text?, endpoint?, headers?_entries]
  | some endpoint => simp [toJson, ofJson?, member?, text?, endpoint?, headers?_entries]

/-- The key that a JSON text describes. -/
def ofJsonText? (text : String) : Option ClientKey :=
  (Json.parse? text).bind ofJson?

end ClientKey

/-- The clients in use, by key, in the order in which they were built. -/
structure Registry (γ : Type) where
  clients : List (ClientKey × γ) := []

namespace Registry

variable {γ σ ε : Type}

def get? (registry : Registry γ) (key : ClientKey) : Option γ :=
  registry.clients.lookup key

def contains (registry : Registry γ) (key : ClientKey) : Bool :=
  (registry.get? key).isSome

def size (registry : Registry γ) : Nat :=
  registry.clients.length

def isEmpty (registry : Registry γ) : Bool :=
  registry.clients.isEmpty

/-- The client of a key, built if there is none yet. A build that fails changes nothing in
the registry. -/
def getOrCreate (report : Event → σ → σ) (build : ClientKey → σ → Except ε γ × σ)
    (key : ClientKey) (registry : Registry γ) (state : σ) : Except ε γ × Registry γ × σ :=
  match registry.get? key with
  | some client => (.ok client, registry, state)
  | none =>
      match build key state with
      | (.error error, state) => (.error error, registry, state)
      | (.ok client, state) =>
          (.ok client, ⟨registry.clients ++ [(key, client)]⟩,
            report (.clientCreated key.credentials (key.endpoint.getD "default")) state)

/-- Shuts every client down and forgets it. -/
def shutdown (report : Event → σ → σ) (stop : γ → σ → σ) (registry : Registry γ) (state : σ) :
    Registry γ × σ :=
  let stopped := registry.clients.foldl
    (fun state entry => stop entry.2 (report (.clientShutDown entry.1.credentials) state)) state
  (⟨[]⟩, report (.registryShutDown registry.size) stopped)

end Registry

end RowStream
