import Termite.Kube.Informer
import Termite.Go.Time
import Termite.Go.Compile
import Termite.Go.Match

namespace Termite.Operator

open Termite.Go Termite.Go.Regexp Termite.Kube

/-!
# `TermiteRoute` resources and their admission

The typed `TermiteRouteSpec` of the `v1alpha1` API, the JSON object the API stores for it (the
`unstructured` value the proxy's route watcher reads), and the validating webhook
`validateTermiteRoute`.  `int32` fields are 32-bit words; a Go map is a list of entries with
distinct keys.  A `metav1.Duration` is a `Duration`, stored as the text of `Duration.String()`.

* `TermiteRouteSpec.toObject` — `encoding/json` of the spec: `omitempty` fields are dropped when
  zero, integers come back as `int64`.
* `validateTermiteRoute` — the webhook, with its messages; the first error of each of its five
  checks, one per line.  Go visits a map in random order; the header matchers are visited in
  list order, so which of several bad headers is reported is one of the possible answers.
* `clockValue_of_matchString` / `validateTimeWindow_clock` — a time the webhook admits is empty or
  reads as an `H:MM` or `HH:MM` time of day, hour below `24`, minute below `60`.
-/

/-- A Go `map[string]V`: entries with distinct keys, in iteration order. -/
def StrMap (V : Type) := { l : List (String × V) // (l.map Prod.fst).Nodup }

instance {V : Type} [DecidableEq V] : DecidableEq (StrMap V) :=
  inferInstanceAs (DecidableEq { l : List (String × V) // (l.map Prod.fst).Nodup })

/-- `StringMatch`. -/
structure StringMatch where
  exact : String
  prefixStr : String
  regex : String
  deriving DecidableEq

/-- `SourceMatch`. -/
structure SourceMatch where
  tables : List String
  namespaces : List String
  serviceAccounts : List String
  deriving DecidableEq

/-- `TimeWindowMatch`; `endTime` is the field `End`, and a day is a Go `int`. -/
structure TimeWindowMatch where
  start : String
  endTime : String
  days : List Int
  deriving DecidableEq

/-- `RouteMatch`. -/
structure RouteMatch where
  operations : List String
  models : List String
  headers : StrMap StringMatch
  source : Option SourceMatch
  timeWindow : Option TimeWindowMatch
  deriving DecidableEq

/-- `RouteCondition`. -/
structure RouteCondition where
  queueDepth : String
  availableReplicas : String
  latency : String
  modelLoaded : Option Bool
  timeOfDay : Option TimeWindowMatch
  deriving DecidableEq

/-- `RouteDestination`. -/
structure RouteDestination where
  pool : String
  weight : BitVec 32
  condition : Option RouteCondition
  deriving DecidableEq

/-- `ErrorResponseConfig`. -/
structure ErrorResponseConfig where
  statusCode : BitVec 32
  message : String
  retryAfter : Option (BitVec 32)
  deriving DecidableEq

/-- `RouteFallback`. -/
structure RouteFallback where
  action : String
  maxQueueTime : Option Duration
  redirectPool : String
  errorResponse : Option ErrorResponseConfig
  deriving DecidableEq

/-- `RouteRateLimiting`. -/
structure RouteRateLimiting where
  requestsPerSecond : BitVec 32
  burstSize : Option (BitVec 32)
  perModel : Bool
  deriving DecidableEq

/-- `RouteRetry`. -/
structure RouteRetry where
  attempts : BitVec 32
  perTryTimeout : Option Duration
  retryOn : List String
  deriving DecidableEq

/-- `TermiteRouteSpec`; `routeMatch` is the field `Match`. -/
structure TermiteRouteSpec where
  priority : BitVec 32
  routeMatch : RouteMatch
  route : List RouteDestination
  fallback : Option RouteFallback
  rateLimiting : Option RouteRateLimiting
  retry : Option RouteRetry
  deriving DecidableEq

/-- A `TermiteRoute` object: its name and namespace, and its spec. -/
structure TermiteRoute where
  namespaceName : String
  name : String
  spec : TermiteRouteSpec

/-! ### The stored object -/

/-- An `omitempty` string field. -/
def strField (key s : String) : Object := if s = "" then [] else [(key, .string s)]

/-- An `omitempty` `int32` field. -/
def int32Field (key : String) (x : BitVec 32) : Object := if x = 0 then [] else [(key, .int64 x.toInt)]

/-- An `omitempty` slice field. -/
def listField (key : String) (vs : List Value) : Object := if vs.isEmpty then [] else [(key, .array vs)]

/-- An `omitempty` map field. -/
def mapField (key : String) (fs : Object) : Object := if fs.isEmpty then [] else [(key, .object fs)]

/-- An `omitempty` pointer field. -/
def optField (key : String) : Option Value → Object
  | some v => [(key, v)]
  | none => []

/-- An `omitempty` boolean field. -/
def boolField (key : String) (b : Bool) : Object := if b then [(key, .bool true)] else []

/-- The JSON of a `StringMatch`. -/
def StringMatch.toObject (m : StringMatch) : Object :=
  strField "exact" m.exact ++ strField "prefix" m.prefixStr ++ strField "regex" m.regex

/-- The JSON of a `SourceMatch`. -/
def SourceMatch.toObject (s : SourceMatch) : Object :=
  listField "tables" (s.tables.map .string) ++ listField "namespaces" (s.namespaces.map .string) ++
    listField "serviceAccounts" (s.serviceAccounts.map .string)

/-- The JSON of a `TimeWindowMatch`: `start` and `end` are always written. -/
def TimeWindowMatch.toObject (tw : TimeWindowMatch) : Object :=
  [("start", .string tw.start), ("end", .string tw.endTime)] ++ listField "days" (tw.days.map .int64)

/-- The JSON of a `RouteMatch`. -/
def RouteMatch.toObject (m : RouteMatch) : Object :=
  listField "operations" (m.operations.map .string) ++ listField "models" (m.models.map .string) ++
    mapField "headers" (m.headers.val.map fun h => (h.1, .object h.2.toObject)) ++
    optField "source" (m.source.map fun s => .object s.toObject) ++
    optField "timeWindow" (m.timeWindow.map fun tw => .object tw.toObject)

/-- The JSON of a `RouteCondition`. -/
def RouteCondition.toObject (c : RouteCondition) : Object :=
  strField "queueDepth" c.queueDepth ++ strField "availableReplicas" c.availableReplicas ++
    strField "latency" c.latency ++ optField "modelLoaded" (c.modelLoaded.map .bool) ++
    optField "timeOfDay" (c.timeOfDay.map fun tw => .object tw.toObject)

/-- The JSON of a `RouteDestination`. -/
def RouteDestination.toObject (d : RouteDestination) : Object :=
  [("pool", .string d.pool)] ++ int32Field "weight" d.weight ++
    optField "condition" (d.condition.map fun c => .object c.toObject)

/-- The JSON of a `RouteFallback`. -/
def RouteFallback.toObject (f : RouteFallback) : Object :=
  [("action", .string f.action)] ++
    optField "maxQueueTime" (f.maxQueueTime.map fun d => .string (Duration.string d)) ++
    strField "redirectPool" f.redirectPool ++
    optField "errorResponse" (f.errorResponse.map fun e => .object
      (int32Field "statusCode" e.statusCode ++ strField "message" e.message ++
        optField "retryAfter" (e.retryAfter.map fun x => .int64 x.toInt)))

/-- The JSON of a `RouteRateLimiting`. -/
def RouteRateLimiting.toObject (rl : RouteRateLimiting) : Object :=
  [("requestsPerSecond", .int64 rl.requestsPerSecond.toInt)] ++
    optField "burstSize" (rl.burstSize.map fun x => .int64 x.toInt) ++ boolField "perModel" rl.perModel

/-- The JSON of a `RouteRetry`. -/
def RouteRetry.toObject (r : RouteRetry) : Object :=
  int32Field "attempts" r.attempts ++
    optField "perTryTimeout" (r.perTryTimeout.map fun d => .string (Duration.string d)) ++
    listField "retryOn" (r.retryOn.map .string)

/-- The JSON of a `TermiteRouteSpec`. -/
def TermiteRouteSpec.toObject (s : TermiteRouteSpec) : Object :=
  int32Field "priority" s.priority ++ [("match", .object s.routeMatch.toObject)] ++
    [("route", .array (s.route.map fun d => .object d.toObject))] ++
    optField "fallback" (s.fallback.map fun f => .object f.toObject) ++
    optField "rateLimiting" (s.rateLimiting.map fun rl => .object rl.toObject) ++
    optField "retry" (s.retry.map fun r => .object r.toObject)

/-- The stored object as the dynamic informer delivers it. -/
def TermiteRoute.toUnstructured (r : TermiteRoute) : Unstructured :=
  ⟨[("metadata", .object [("name", .string r.name), ("namespace", .string r.namespaceName)]),
    ("spec", .object r.spec.toObject)]⟩

/-! ### The webhook -/

/-- The time-of-day pattern `validateTimeWindow` compiles. -/
def timeRegexText : String := "^([01]?[0-9]|2[0-3]):([0-5][0-9])$"

/-- `regexp.MustCompile(timeRegexText)` (it compiles, `compile_timeRegexText`). -/
def timeRegex : Regexp :=
  match compile timeRegexText with
  | .ok r => r
  | .error _ => .noMatch

/-- `validateTimeWindow(tw)`. -/
def validateTimeWindow (tw : TimeWindowMatch) : Option String :=
  if tw.start ≠ "" ∧ ¬timeRegex.matchString tw.start then
    some ("start time '" ++ tw.start ++ "' is not in HH:MM format")
  else if tw.endTime ≠ "" ∧ ¬timeRegex.matchString tw.endTime then
    some ("end time '" ++ tw.endTime ++ "' is not in HH:MM format")
  else
    match tw.days.find? fun d => d < 0 ∨ d > 6 with
    | some d => some ("invalid day " ++ toString d ++ ". Days must be 0 (Sunday) through 6 (Saturday)")
    | none => none

/-- The first error among the model patterns, from index `i`. -/
def validateModels (i : Nat) : List String → Option String
  | [] => none
  | pattern :: ps =>
    if pattern = "" then some ("spec.match.models[" ++ toString i ++ "] cannot be empty")
    else if contains pattern "*" then
      match compile ("^" ++ replaceAll pattern "*" ".*" ++ "$") with
      | .error err => some ("invalid model pattern '" ++ pattern ++ "': " ++ err)
      | .ok _ => validateModels (i + 1) ps
    else validateModels (i + 1) ps

/-- The first error among the header matchers, in iteration order. -/
def validateHeaders : List (String × StringMatch) → Option String
  | [] => none
  | (header, matcher) :: hs =>
    if header = "" then some "header name cannot be empty in spec.match.headers"
    else if matcher.exact = "" ∧ matcher.prefixStr = "" ∧ matcher.regex = "" then
      some ("header matcher for '" ++ header ++ "' must specify at least one of: exact, prefix, or regex")
    else if matcher.regex ≠ "" then
      match compile matcher.regex with
      | .error err => some ("invalid regex for header '" ++ header ++ "': " ++ err)
      | .ok _ => validateHeaders hs
    else validateHeaders hs

/-- `validateMatch`. -/
def validateMatch (m : RouteMatch) : Option String :=
  match m.operations.find? fun op => op ∉ ["embed", "chunk", "rerank"] with
  | some op => some ("invalid operation '" ++ op ++ "'. Must be one of: embed, chunk, rerank")
  | none =>
    match validateModels 0 m.models with
    | some err => some err
    | none =>
      match m.timeWindow.bind validateTimeWindow with
      | some err => some ("spec.match.timeWindow: " ++ err)
      | none => validateHeaders m.headers.val

/-- The destination loop of `validateRouteDestinations` from index `i`, `poolNames` holding the
    pools of the unconditional destinations so far. -/
def validateDestinationsFrom (i : Nat) (poolNames : List String) : List RouteDestination → Option String
  | [] => none
  | dest :: ds =>
    if dest.pool = "" then some ("spec.route[" ++ toString i ++ "].pool is required")
    else if dest.condition.isNone ∧ dest.pool ∈ poolNames then
      some ("duplicate pool '" ++ dest.pool ++ "' in route destinations without conditions")
    else if dest.weight.toInt < 0 ∨ dest.weight.toInt > 100 then
      some ("spec.route[" ++ toString i ++ "].weight must be between 0 and 100, got " ++
        toString dest.weight.toInt)
    else
      validateDestinationsFrom (i + 1) (if dest.condition.isNone then poolNames.insert dest.pool else poolNames) ds

/-- `validateRouteDestinations`. -/
def validateRouteDestinations (s : TermiteRouteSpec) : Option String :=
  if s.route = [] then some "spec.route must have at least one destination"
  else validateDestinationsFrom 0 [] s.route

/-- `validateFallback`. -/
def validateFallback (s : TermiteRouteSpec) : Option String :=
  match s.fallback with
  | none => none
  | some fb =>
    if fb.action ∉ ["queue", "reject", "redirect"] then
      some ("invalid fallback action '" ++ fb.action ++ "'. Must be one of: queue, reject, redirect")
    else if fb.action = "redirect" ∧ fb.redirectPool = "" then
      some "spec.fallback.redirectPool is required when action is 'redirect'"
    else none

/-- `validateRateLimiting`. -/
def validateRateLimiting (s : TermiteRouteSpec) : Option String :=
  match s.rateLimiting with
  | none => none
  | some rl =>
    if rl.requestsPerSecond.toInt ≤ 0 then
      some ("spec.rateLimiting.requestsPerSecond must be > 0, got " ++ toString rl.requestsPerSecond.toInt)
    else
      match rl.burstSize with
      | some b => if b.toInt < 0 then some ("spec.rateLimiting.burstSize must be >= 0, got " ++ toString b.toInt) else none
      | none => none

/-- The `retryOn` values `validateRetry` accepts. -/
def validRetryOn : List String :=
  ["5xx", "reset", "connect-failure", "retriable-4xx", "refused-stream", "cancelled",
    "deadline-exceeded", "resource-exhausted"]

/-- `validateRetry`. -/
def validateRetry (s : TermiteRouteSpec) : Option String :=
  match s.retry with
  | none => none
  | some retry =>
    if retry.attempts.toInt < 0 then
      some ("spec.retry.attempts must be >= 0, got " ++ toString retry.attempts.toInt)
    else
      match retry.retryOn.find? fun c => c ∉ validRetryOn with
      | some c => some ("invalid retry condition '" ++ c ++ "'. Valid values: 5xx, reset, connect-failure, retriable-4xx, refused-stream, cancelled, deadline-exceeded, resource-exhausted")
      | none => none

/-- `validateTermiteRoute`: every check's error, one per line. -/
def validateTermiteRoute (s : TermiteRouteSpec) : Option String :=
  let allErrors := [validateRouteDestinations s, validateMatch s.routeMatch, validateFallback s,
    validateRateLimiting s, validateRetry s].filterMap id
  if allErrors = [] then none
  else some ("TermiteRoute validation failed:\n  - " ++ "\n  - ".intercalate allErrors)

/-! ### Times of day -/

/-- The hour and minute an `H:MM` or `HH:MM` text of digits names, as the API documents its
    time fields; `none` for any other text. -/
def clockValue : List Char → Option (Nat × Nat)
  | [h, ':', m₁, m₂] =>
    if h.isDigit && m₁.isDigit && m₂.isDigit then some (decimalValue [h], decimalValue [m₁, m₂])
    else none
  | [h₁, h₂, ':', m₁, m₂] =>
    if h₁.isDigit && h₂.isDigit && m₁.isDigit && m₂.isDigit then
      some (decimalValue [h₁, h₂], decimalValue [m₁, m₂])
    else none
  | _ => none

example : clockValue "22:05".data = some (22, 5) := by decide

/-- The tree `regexp.MustCompile` builds for `timeRegexText`. -/
theorem timeRegex_eq : timeRegex = .concat (.concat (.concat (.concat (.concat .emptyMatch .beginText)
    (.alternate (.concat (.concat .emptyMatch (.quest (.charClass false [('0', '0'), ('1', '1')])))
        (.charClass false [('0', '9')]))
      (.concat (.concat .emptyMatch (.literal '2')) (.charClass false [('0', '3')]))))
    (.literal ':')) (.concat (.concat .emptyMatch (.charClass false [('0', '5')])) (.charClass false [('0', '9')])))
    .endText := rfl

theorem inRanges_single (c lo hi : Char) :
    (inRanges c [(lo, hi)] != false) = true ↔ lo.toNat ≤ c.toNat ∧ c.toNat ≤ hi.toNat := by
  simp [inRanges, char_le_iff]

theorem clockValue_short {h m₁ m₂ : Char} (hh : h.isDigit = true) (h₁ : m₁.isDigit = true)
    (h₂ : m₂.isDigit = true) :
    clockValue [h, ':', m₁, m₂] = some (h.toNat - 48, (m₁.toNat - 48) * 10 + (m₂.toNat - 48)) := by
  simp [clockValue, hh, h₁, h₂, decimalValue, digitValue]

theorem clockValue_long {h₁ h₂ m₁ m₂ : Char} (hh₁ : h₁.isDigit = true) (hh₂ : h₂.isDigit = true)
    (hm₁ : m₁.isDigit = true) (hm₂ : m₂.isDigit = true) :
    clockValue [h₁, h₂, ':', m₁, m₂] =
      some ((h₁.toNat - 48) * 10 + (h₂.toNat - 48), (m₁.toNat - 48) * 10 + (m₂.toNat - 48)) := by
  simp [clockValue, hh₁, hh₂, hm₁, hm₂, decimalValue, digitValue]

/-- **What the time pattern admits.** A text `timeRegex` matches reads as a time of day: an hour
    below `24` and a minute below `60`. -/
theorem clockValue_of_matchString {s : String} (h : timeRegex.matchString s = true) :
    ∃ hh mm, clockValue s.data = some (hh, mm) ∧ hh < 24 ∧ mm < 60 := by
  obtain ⟨p, u, v, hs, hsem⟩ := (matchString_iff _ _).mp h
  rw [timeRegex_eq] at hsem
  simp only [sem_concat_iff, sem_alternate_iff, sem_quest_iff, sem_charClass_iff, sem_literal_iff,
    sem_emptyMatch_iff, sem_beginText_iff, sem_endText_iff] at hsem
  obtain ⟨_, _, rfl, ⟨_, _, rfl, ⟨_, _, rfl, ⟨_, _, rfl, ⟨_, _, rfl, rfl, hb, rfl⟩, hH⟩, rfl⟩,
    ⟨_, _, rfl, ⟨_, _, rfl, rfl, m₁, rfl, hm₁⟩, m₂, rfl, hm₂⟩⟩, he, rfl⟩ := hsem
  simp only [List.isEmpty_nil, Bool.and_true, List.isEmpty_iff] at hb he
  subst hb he
  rw [inRanges_single] at hm₁ hm₂
  simp at hm₁ hm₂
  have hd₁ : m₁.isDigit = true := isDigit_iff.mpr ⟨hm₁.1, by omega⟩
  have hd₂ : m₂.isDigit = true := isDigit_iff.mpr hm₂
  rcases hH with ⟨_, _, rfl, ⟨_, _, rfl, rfl, rfl | ⟨h₁, rfl, hh₁⟩⟩, h₂, rfl, hh₂⟩ |
    ⟨_, _, rfl, ⟨_, _, rfl, rfl, rfl⟩, h₂, rfl, hh₂⟩ <;>
    simp only [List.nil_append, List.append_nil, List.cons_append, List.singleton_append] at hs <;>
    rw [inRanges_single] at hh₂ <;> simp at hh₂
  · -- `H:MM`
    rw [hs, clockValue_short (isDigit_iff.mpr hh₂) hd₁ hd₂]
    exact ⟨_, _, rfl, by omega, by omega⟩
  · -- `0H:MM` or `1H:MM`
    simp [inRanges, char_le_iff] at hh₁
    rw [hs, clockValue_long (isDigit_iff.mpr (by omega)) (isDigit_iff.mpr hh₂) hd₁ hd₂]
    exact ⟨_, _, rfl, by omega, by omega⟩
  · -- `2H:MM`
    rw [hs, clockValue_long (by decide) (isDigit_iff.mpr (by omega)) hd₁ hd₂]
    exact ⟨_, _, rfl, by simp; omega, by omega⟩

/-- A time field as the webhook admits it: empty, or a time of day. -/
def ClockText (s : String) : Prop :=
  s = "" ∨ ∃ hh mm, clockValue s.data = some (hh, mm) ∧ hh < 24 ∧ mm < 60

theorem validateTimeWindow_clock {tw : TimeWindowMatch} (h : validateTimeWindow tw = none) :
    ClockText tw.start ∧ ClockText tw.endTime := by
  unfold validateTimeWindow at h
  split at h
  · cases h
  · split at h
    · cases h
    · rename_i hs he
      simp only [ne_eq, Bool.not_eq_true, not_and, Bool.not_eq_false] at hs he
      exact ⟨(em (tw.start = "")).elim Or.inl fun hne => Or.inr (clockValue_of_matchString (hs hne)),
        (em (tw.endTime = "")).elim Or.inl fun hne => Or.inr (clockValue_of_matchString (he hne))⟩

theorem validateTermiteRoute_eq_none {s : TermiteRouteSpec} (h : validateTermiteRoute s = none) :
    validateRouteDestinations s = none ∧ validateMatch s.routeMatch = none ∧ validateFallback s = none ∧
      validateRateLimiting s = none ∧ validateRetry s = none := by
  unfold validateTermiteRoute at h
  dsimp only at h
  split at h
  · rename_i hnil
    simpa [List.filterMap_eq_nil_iff] using hnil
  · cases h

theorem validateMatch_timeWindow {m : RouteMatch} (h : validateMatch m = none) :
    ∀ tw ∈ m.timeWindow, validateTimeWindow tw = none := by
  intro tw htw
  simp only [Option.mem_def] at htw
  unfold validateMatch at h
  split at h
  · cases h
  · split at h
    · cases h
    · split at h
      · cases h
      · rename_i hb; simpa [htw] using hb

/-! ### The regular expressions the webhook compiles -/

/-- The regular expressions the webhook compiles for a `match` block, each model glob with a `*`
    (as `^…$`, every `*` made `.*`) and each header regex, stay within the syntax the modelled
    `regexp.Compile` parses: none of them meets a construct it reports as `notModelled` (flag and
    named groups, `\b`, `\B`, `\Q…\E`, `\p{…}`, POSIX classes), all of which Go accepts. -/
def RouteMatch.RegexpsModelled (m : RouteMatch) : Prop :=
  (∀ p ∈ m.models, contains p "*" = true →
    ∀ e, compile ("^" ++ replaceAll p "*" ".*" ++ "$") ≠ .error (notModelled e)) ∧
  ∀ h ∈ m.headers.val, h.2.regex ≠ "" → ∀ e, compile h.2.regex ≠ .error (notModelled e)

theorem validateModels_compile {i : Nat} {ps : List String} (h : validateModels i ps = none) :
    ∀ p ∈ ps, contains p "*" = true →
      ∀ e, compile ("^" ++ replaceAll p "*" ".*" ++ "$") ≠ .error (notModelled e) := by
  induction ps generalizing i with
  | nil => simp
  | cons p ps ih =>
    unfold validateModels at h
    split_ifs at h with h0 hs
    · -- a glob: it compiled, and the rest passed
      split at h
      · cases h
      · rename_i hc
        exact List.forall_mem_cons.mpr ⟨fun _ e he => by simp [he] at hc, ih h⟩
    · exact List.forall_mem_cons.mpr ⟨fun hstar => absurd hstar hs, ih h⟩

theorem validateHeaders_compile {hs : List (String × StringMatch)} (h : validateHeaders hs = none) :
    ∀ x ∈ hs, x.2.regex ≠ "" → ∀ e, compile x.2.regex ≠ .error (notModelled e) := by
  induction hs with
  | nil => simp
  | cons y hs ih =>
    unfold validateHeaders at h
    split_ifs at h with h0 h1 h2
    · -- a regex: it compiled, and the rest passed
      split at h
      · cases h
      · rename_i hc
        exact List.forall_mem_cons.mpr ⟨fun _ e he => by simp [he] at hc, ih h⟩
    · exact List.forall_mem_cons.mpr ⟨fun hre => absurd hre h2, ih h⟩

/-- What the webhook admits uses no regexp syntax outside the model. -/
theorem validateMatch_regexpsModelled {m : RouteMatch} (h : validateMatch m = none) :
    m.RegexpsModelled := by
  unfold validateMatch at h
  split at h
  · cases h
  · split at h
    · cases h
    · rename_i hm
      split at h
      · cases h
      · exact ⟨validateModels_compile hm, validateHeaders_compile h⟩

end Termite.Operator
