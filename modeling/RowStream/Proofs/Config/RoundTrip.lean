import RowStream.Config.Json
import RowStream.Proofs.Json.Documents
import RowStream.Proofs.Json.Floats
import RowStream.Registry

/-!
Contract: configurations and client keys survive being written and read as JSON.

Owns: `Config.Expressible`, the configurations that a text can state without loss.

Main statements: `Config.ofJsonText?_toJsonText` and `ClientKey.ofJsonText?_toJsonText`, what is
written is read back; `Config.expressible_of_ofJsonText?`, whatever a text states can be stated
again. A configuration is rebuilt setting by setting: every setting is written under the name under
which it is looked for, and no name is written twice.
-/

namespace RowStream

/-- Whole milliseconds, as many as a word holds. -/
def Duration.Expressible (duration : Duration) : Prop :=
  ∃ millis < UInt64.size, duration = .ofMillis millis

structure RetryPolicy.Expressible (policy : RetryPolicy) : Prop where
  initialDelay : policy.initialDelay.Expressible
  multiplier : policy.multiplier.isFinite = true
  maxDelay : policy.maxDelay.Expressible
  totalTimeout : policy.totalTimeout.Expressible

/-- Spans in whole milliseconds and finite numbers. -/
structure Config.Expressible (config : Config) : Prop where
  requestSizeRatio : config.requestSizeRatio.isFinite = true
  finalizeQuiescence : config.finalizeQuiescence.Expressible
  retry : config.retry.Expressible

/-! ### Single values -/

namespace ValueReader

theorem shape?_object (members : List (String × Json)) :
    json.shape? (.object members) = some (.named members) := rfl

theorem natural?_nat {limit value : Nat} (inside : value ≤ limit) :
    json.natural? limit (.nat value) = some value := by
  have natural : (0 : Int) ≤ value ∧ (value : Int) ≤ limit := by omega
  show (if (0 : Int) ≤ value ∧ (value : Int) ≤ limit then some (value : Int).toNat else none) = _
  rw [if_pos natural, Int.toNat_natCast]

theorem duration?_toJson {duration : Duration} (expressible : duration.Expressible) :
    json.duration? duration.toJson = some duration := by
  obtain ⟨millis, few, rfl⟩ := expressible
  have word : (Duration.ofMillis millis).millisWord.toNat = millis := by
    rw [Duration.millisWord, Duration.millis_ofMillis, UInt64.toNat_ofNat_of_lt' few]
  rw [duration?, Duration.toJson, word, natural?_nat (Nat.le_sub_one_of_lt few), Option.map_some]

theorem float?_float {number : Float} (finite : number.isFinite = true) :
    json.float? (.float number) = some number := by
  obtain ⟨numeral, written, _, read⟩ := Json.float_eq finite
  have bounded := (isFinite_iff_isNaN_isInf.mp finite).2
  show json.float? (Json.float number) = _
  rw [written]
  show (if numeral.toFloat.isInf then none else some numeral.toFloat) = _
  rw [read, bounded, if_neg Bool.false_ne_true]

theorem codes?_names (codes : List StatusCode) :
    json.codes? (.array (codes.map fun code => .string code.name)) = some codes := by
  have back : (StatusCode.ofJson? ∘ fun code => .string code.name) = fun code => pure (id code) :=
    funext StatusCode.ofName?_name
  show (codes.map fun code => Json.string code.name).mapM StatusCode.ofJson? = some codes
  rw [List.mapM_map, back, List.mapM_pure, List.map_id]
  rfl

theorem expressible_of_duration? {value : Json} {duration : Duration}
    (read : json.duration? value = some duration) : duration.Expressible := by
  obtain ⟨millis, natural, rfl⟩ := Option.map_eq_some_iff.mp read
  refine ⟨millis, ?_, rfl⟩
  cases value with
  | number numeral =>
      cases numeral with
      | integer value =>
          have inside : (if 0 ≤ value ∧ value ≤ ((UInt64.size - 1 : Nat) : Int)
              then some value.toNat else none) = some millis := natural
          have size : UInt64.size = 2 ^ 64 := rfl
          split at inside
          · cases inside
            omega
          · cases inside
      | decimal negative magnitude => cases natural
  | _ => cases natural

theorem isFinite_of_float? {value : Json} {number : Float}
    (read : json.float? value = some number) : number.isFinite = true := by
  cases value with
  | number numeral =>
      have bounded : (if numeral.toFloat.isInf then none else some numeral.toFloat) =
          some number := read
      split at bounded
      · cases bounded
      · next inside =>
          cases bounded
          exact isFinite_iff_isNaN_isInf.mpr
            ⟨numeral.isNaN_toFloat, Bool.not_eq_true _ ▸ inside⟩
  | _ => cases read

end ValueReader

namespace Shape

variable {ν α : Type} {position : Nat} {name : String} {read : ν → Option α} {standard : α}

/-- A setting is what is read from the only member of its name. -/
theorem setting?_of_only {members : List (String × ν)} {value : ν} {setting : α}
    (only : (members.filter fun member => member.1 == name) = [(name, value)])
    (known : read value = some setting) :
    (Shape.named members).setting? position name read standard = some setting := by
  simp only [setting?, field?, only, known]

/-- What is true of the standard and of whatever is read is true of a setting. -/
theorem of_setting? (Good : α → Prop) {shape : Shape ν} {setting : α}
    (found : shape.setting? position name read standard = some setting) (usual : Good standard)
    (known : ∀ {value setting}, read value = some setting → Good setting) : Good setting := by
  unfold setting? at found
  split at found
  · cases found
  · cases found
    exact usual
  · exact known found

end Shape

/-! ### Records -/

theorem RetryPolicy.ofValue?_toJson {policy : RetryPolicy} (expressible : policy.Expressible) :
    ofValue? .json policy.toJson = some policy := by
  have initialDelay := ValueReader.duration?_toJson expressible.initialDelay
  have multiplier := ValueReader.float?_float expressible.multiplier
  have maxDelay := ValueReader.duration?_toJson expressible.maxDelay
  have maxAttempts : ValueReader.json.natural? (UInt32.size - 1) (.nat policy.maxAttempts.toNat) =
      some policy.maxAttempts.toNat :=
    ValueReader.natural?_nat (Nat.le_sub_one_of_lt policy.maxAttempts.toNat_lt)
  have totalTimeout := ValueReader.duration?_toJson expressible.totalTimeout
  have jittered : ValueReader.json.flag? (.bool policy.jittered) = some policy.jittered := rfl
  simp only [ofValue?, toJson, ValueReader.shape?_object, Option.bind_eq_bind, Option.bind_some]
  rw [Shape.setting?_of_only _ initialDelay, Option.bind_some,
    Shape.setting?_of_only _ multiplier, Option.bind_some,
    Shape.setting?_of_only _ maxDelay, Option.bind_some,
    Shape.setting?_of_only _ maxAttempts, Option.bind_some,
    Shape.setting?_of_only _ totalTimeout, Option.bind_some,
    Shape.setting?_of_only _ jittered, Option.bind_some, UInt32.ofNat_toNat]
  · rfl
  all_goals simp

theorem Config.ofValue?_toJson {config : Config} (expressible : config.Expressible) :
    ofValue? .json config.toJson = some config := by
  have maxMessageBytes : ValueReader.json.natural? (UInt64.size - 1)
      (.nat config.maxMessageBytes.toNat) = some config.maxMessageBytes.toNat :=
    ValueReader.natural?_nat (Nat.le_sub_one_of_lt config.maxMessageBytes.toNat_lt)
  have requestSizeRatio := ValueReader.float?_float expressible.requestSizeRatio
  have finalizeQuiescence := ValueReader.duration?_toJson expressible.finalizeQuiescence
  have retry := RetryPolicy.ofValue?_toJson expressible.retry
  have retryableCodes := ValueReader.codes?_names config.retryableCodes
  simp only [ofValue?, toJson, ValueReader.shape?_object, Option.bind_eq_bind, Option.bind_some]
  rw [Shape.setting?_of_only _ maxMessageBytes, Option.bind_some,
    Shape.setting?_of_only _ requestSizeRatio, Option.bind_some,
    Shape.setting?_of_only _ finalizeQuiescence, Option.bind_some,
    Shape.setting?_of_only _ retry, Option.bind_some,
    Shape.setting?_of_only _ retryableCodes, Option.bind_some, UInt64.ofNat_toNat]
  · rfl
  all_goals simp

/-! ### What is read can be written -/

theorem RetryPolicy.expressible_standard : standard.Expressible where
  initialDelay := ⟨1250, by decide, rfl⟩
  multiplier := by decide +kernel
  maxDelay := ⟨60000, by decide, rfl⟩
  totalTimeout := ⟨600000, by decide, rfl⟩

theorem RetryPolicy.expressible_of_ofValue? {value : Json} {policy : RetryPolicy}
    (read : ofValue? .json value = some policy) : policy.Expressible := by
  simp only [ofValue?, Option.bind_eq_bind, Option.bind_eq_some_iff] at read
  obtain ⟨shape, _, initialDelay, initialFound, multiplier, multiplierFound, maxDelay, maxFound,
    maxAttempts, _, totalTimeout, totalFound, jittered, _, fits⟩ := read
  split at fits
  · cases fits
    exact {
      initialDelay := Shape.of_setting? Duration.Expressible initialFound
        expressible_standard.initialDelay ValueReader.expressible_of_duration?
      multiplier := Shape.of_setting? (·.isFinite = true) multiplierFound
        expressible_standard.multiplier ValueReader.isFinite_of_float?
      maxDelay := Shape.of_setting? Duration.Expressible maxFound
        expressible_standard.maxDelay ValueReader.expressible_of_duration?
      totalTimeout := Shape.of_setting? Duration.Expressible totalFound
        expressible_standard.totalTimeout ValueReader.expressible_of_duration? }
  · cases fits

theorem Config.expressible_standard : standard.Expressible where
  requestSizeRatio := by decide +kernel
  finalizeQuiescence := ⟨500, by decide, rfl⟩
  retry := RetryPolicy.expressible_standard

/-- Whatever is read as settings can be written, so that a second round changes nothing. -/
theorem Config.expressible_of_ofValue? {value : Json} {config : Config}
    (read : ofValue? .json value = some config) : config.Expressible := by
  simp only [ofValue?, Option.bind_eq_bind, Option.bind_eq_some_iff] at read
  obtain ⟨shape, _, maxMessageBytes, _, requestSizeRatio, ratioFound, finalizeQuiescence,
    quiescenceFound, retry, retryFound, retryableCodes, _, fits⟩ := read
  split at fits
  · cases fits
    exact {
      requestSizeRatio := Shape.of_setting? (·.isFinite = true) ratioFound
        expressible_standard.requestSizeRatio ValueReader.isFinite_of_float?
      finalizeQuiescence := Shape.of_setting? Duration.Expressible quiescenceFound
        expressible_standard.finalizeQuiescence ValueReader.expressible_of_duration?
      retry := Shape.of_setting? RetryPolicy.Expressible retryFound expressible_standard.retry
        RetryPolicy.expressible_of_ofValue? }
  · cases fits

/-! ### Texts -/

namespace Json

theorem canonical_nat {value : Nat} (few : value < UInt64.size) : (nat value).Canonical := by
  show -(UInt64.size / 2 : Nat) ≤ (value : Int) ∧ (value : Int) < UInt64.size
  omega

theorem canonical_float {number : Float} (finite : number.isFinite = true) :
    (float number).Canonical := by
  obtain ⟨numeral, written, canonical, _⟩ := float_eq finite
  rw [written]
  exact canonical

theorem canonicalItems_strings {α : Type} (text : α → String) (items : List α) :
    CanonicalItems (items.map fun item => .string (text item)) := by
  induction items with
  | nil => trivial
  | cons item later inductionHypothesis => exact ⟨trivial, inductionHypothesis⟩

theorem canonicalMembers_strings (members : List (String × String)) :
    CanonicalMembers (members.map fun member => (member.1, .string member.2)) := by
  induction members with
  | nil => trivial
  | cons member later inductionHypothesis => exact ⟨trivial, inductionHypothesis⟩

end Json

theorem Duration.canonical_toJson (duration : Duration) : duration.toJson.Canonical :=
  Json.canonical_nat duration.millisWord.toNat_lt

theorem RetryPolicy.canonical_toJson {policy : RetryPolicy} (expressible : policy.Expressible) :
    policy.toJson.Canonical := by
  have attempts : policy.maxAttempts.toNat < UInt64.size :=
    Nat.lt_trans policy.maxAttempts.toNat_lt (by decide)
  exact ⟨policy.initialDelay.canonical_toJson, Json.canonical_float expressible.multiplier,
    policy.maxDelay.canonical_toJson, Json.canonical_nat attempts,
    policy.totalTimeout.canonical_toJson, trivial, trivial⟩

namespace Config

variable {config : Config}

theorem canonical_toJson (expressible : config.Expressible) : config.toJson.Canonical :=
  ⟨Json.canonical_nat config.maxMessageBytes.toNat_lt,
    Json.canonical_float expressible.requestSizeRatio,
    config.finalizeQuiescence.canonical_toJson, RetryPolicy.canonical_toJson expressible.retry,
    Json.canonicalItems_strings StatusCode.name config.retryableCodes, trivial⟩

/-- A configuration is read back from the text that states it. -/
theorem ofJsonText?_toJsonText (expressible : config.Expressible) :
    ofJsonText? config.toJsonText = some config := by
  rw [ofJsonText?, toJsonText, Json.parse?_compact (canonical_toJson expressible),
    Option.bind_some, ofValue?_toJson expressible]

/-- Whatever a text states can be stated again. -/
theorem expressible_of_ofJsonText? {text : String} (read : ofJsonText? text = some config) :
    config.Expressible := by
  obtain ⟨value, _, described⟩ := Option.bind_eq_some_iff.mp read
  exact expressible_of_ofValue? described

end Config

namespace ClientKey

theorem canonical_toJson (key : ClientKey) : key.toJson.Canonical := by
  obtain ⟨credentials, endpoint, headers⟩ := key
  cases endpoint with
  | none => exact ⟨trivial, trivial, Json.canonicalMembers_strings headers.entries, trivial⟩
  | some endpoint =>
      exact ⟨trivial, trivial, Json.canonicalMembers_strings headers.entries, trivial⟩

/-- A key is read back from the text that states it. -/
theorem ofJsonText?_toJsonText (key : ClientKey) : ofJsonText? key.toJsonText = some key := by
  rw [ofJsonText?, toJsonText, Json.parse?_compact key.canonical_toJson, Option.bind_some,
    ofJson?_toJson]

end ClientKey

/-- Configurations with spans in whole milliseconds and finite numbers, and all client keys, are
read back from the texts that state them. So is whatever any text states. -/
theorem json_round_trip :
    (∀ config : Config, config.Expressible →
      Config.ofJsonText? config.toJsonText = some config) ∧
    (∀ key : ClientKey, ClientKey.ofJsonText? key.toJsonText = some key) ∧
    (∀ (text : String) (config : Config), Config.ofJsonText? text = some config →
      Config.ofJsonText? config.toJsonText = some config) ∧
    (∀ (text : String) (key : ClientKey), ClientKey.ofJsonText? text = some key →
      ClientKey.ofJsonText? key.toJsonText = some key) := by
  refine ⟨?_, ?_, ?_, ?_⟩
  · intro config expressible
    exact Config.ofJsonText?_toJsonText expressible
  · intro key
    exact key.ofJsonText?_toJsonText
  · intro text config read
    exact Config.ofJsonText?_toJsonText (Config.expressible_of_ofJsonText? read)
  · intro text key _
    exact key.ofJsonText?_toJsonText

def Config.extreme : Config where
  maxMessageBytes := 18446744073709551615
  requestSizeRatio := -0.0
  finalizeQuiescence := .ofMillis 18446744073709551615
  retry := { RetryPolicy.standard with multiplier := .ofBits 1, maxAttempts := 4294967295 }
  retryableCodes := [.aborted, .cancelled, .aborted]

theorem Config.expressible_extreme : extreme.Expressible where
  requestSizeRatio := by decide +kernel
  finalizeQuiescence := ⟨18446744073709551615, by decide, rfl⟩
  retry := { RetryPolicy.expressible_standard with multiplier := by decide +kernel }

/-- Extreme settings, settings of which some are left out, and a key in another form than its own
are all kept. -/
theorem json_round_trip_extreme :
    Config.ofJsonText? Config.extreme.toJsonText = some Config.extreme ∧
    (let text := "\x7b\"retryable_codes\": [\"ABORTED\", \"ABORTED\"], \"max_message_bytes\": 7\x7d"
     let config :=
       { Config.standard with maxMessageBytes := 7, retryableCodes := [.aborted, .aborted] }
     Config.ofJsonText? text = some config ∧
       Config.ofJsonText? config.toJsonText = some config) ∧
    (let text := "[\"\\u00e9\\n\", null, \x7b\x7d]"
     let key : ClientKey := { credentials := "é\n" }
     ClientKey.ofJsonText? text = some key ∧
       ClientKey.ofJsonText? key.toJsonText = some key) := by
  obtain ⟨configs, _, configTexts, keyTexts⟩ := json_round_trip
  have parsed : Json.parse?
      "\x7b\"retryable_codes\": [\"ABORTED\", \"ABORTED\"], \"max_message_bytes\": 7\x7d" =
        some (.object [("retryable_codes", .array [.string "ABORTED", .string "ABORTED"]),
          ("max_message_bytes", .nat 7)]) := by
    cbv
  have config : Config.ofJsonText?
      "\x7b\"retryable_codes\": [\"ABORTED\", \"ABORTED\"], \"max_message_bytes\": 7\x7d" =
        some { Config.standard with
          maxMessageBytes := 7, retryableCodes := [.aborted, .aborted] } := by
    rw [Config.ofJsonText?, parsed]
    rfl
  have key : ClientKey.ofJsonText? "[\"\\u00e9\\n\", null, \x7b\x7d]" =
      some { credentials := "é\n" } := by
    decide +kernel
  exact ⟨configs _ Config.expressible_extreme, ⟨config, configTexts _ _ config⟩,
    ⟨key, keyTexts _ _ key⟩⟩

end RowStream
