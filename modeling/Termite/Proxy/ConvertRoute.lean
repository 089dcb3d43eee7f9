import Termite.Kube.Informer
import Termite.Proxy.ModelPattern
import Termite.Go.Map
import Termite.Proxy.Threshold

namespace Termite.Proxy

open Termite.Go Termite.Kube

/-!
# Compiling a `TermiteRoute` (`convertRoute`)

`RouteWatcher.convertRoute` reads the `spec` of an unstructured `TermiteRoute` and builds the
proxy's `Route`: it compiles model globs with `CompileModelPattern` and header regexes with
`regexp.Compile` (dropping those that fail), parses destination conditions with
`ParseThresholdCondition` (dropping those that fail) and time windows with
`parseTimeWindow`, and creates a fresh `NewRateLimiter` at the time of the call.  Every field
it reads goes through a Go type assertion; a value of another type is skipped as if absent.

The assertion `obj.(*unstructured.Unstructured)` cannot fail on what the dynamic informer
delivers, so `convertRoute` takes an `Unstructured`; its one error is a missing `spec`.
-/

/-- `math.MaxInt32`. -/
def maxInt32 : Int := 2 ^ 31 - 1

/-- `math.MinInt32`. -/
def minInt32 : Int := -2 ^ 31

/-- `int32(v)` or `int(v)` of a `float64` in range: truncation toward zero. -/
def truncRat (x : ℚ) : Int := x.num.tdiv x.den

/-- `getString(m, key)`. -/
def getString (m : Object) (key : String) : String := (m.getStr key).getD ""

/-- `getInt32(m, key, defaultVal)`: a `float64` or `int64` clamped to the `int32` range (the
    `float64` truncated toward zero), an `int32` as it is, anything else `defaultVal`. -/
def getInt32 (m : Object) (key : String) (defaultVal : Int) : Int :=
  match m.lookup key with
  | some (.float64 v) => if v > maxInt32 then maxInt32 else if v < minInt32 then minInt32 else truncRat v
  | some (.int64 v) => if v > maxInt32 then maxInt32 else if v < minInt32 then minInt32 else v
  | some (.int32 v) => v
  | _ => defaultVal

/-! ### `parseTimeWindow` -/

/-- The hour and minute `parseTimeWindow` reads from an `H:M` field: `strconv.Atoi` of the two
    parts, errors ignored; `none` (the fields stay `0`) unless there are exactly two parts. -/
def parseClock (s : String) : Option (Int × Int) :=
  match split s ":" with
  | [h, m] => some ((atoi h).1, (atoi m).1)
  | _ => none

/-- One step of the `days` loop: a `float64` entry is set, truncated; any other is skipped. -/
def addDay (days : List Int) (d : Value) : List Int :=
  match d.asFloat64 with
  | some x => days.insert (truncRat x)
  | none => days

/-- The `days` set. -/
def parseDays (ds : List Value) : List Int := ds.foldl addDay []

/-- `parseTimeWindow(tw)`. -/
def parseTimeWindow (tw : Object) : TimeWindow where
  startHour := (((tw.getStr "start").bind parseClock).map Prod.fst).getD 0
  startMinute := (((tw.getStr "start").bind parseClock).map Prod.snd).getD 0
  endHour := (((tw.getStr "end").bind parseClock).map Prod.fst).getD 0
  endMinute := (((tw.getStr "end").bind parseClock).map Prod.snd).getD 0
  days := parseDays ((tw.getArray "days").getD [])

/-! ### The `match` block -/

/-- One step of the loops that fill a `map[string]bool` from a `[]any`: a string is set, any
    other value skipped. -/
def addString (set : List String) (v : Value) : List String :=
  match v.asString with
  | some s => set.insert s
  | none => set

/-- `Operations`: every string of `operations`. -/
def parseOperations (m : Object) : List OperationType :=
  ((m.getArray "operations").getD []).foldl addString []

/-- One step of the `models` loop: a string that `CompileModelPattern` compiles is appended. -/
def addModelPattern (ps : List Regexp) (v : Value) : List Regexp :=
  match v.asString with
  | some s =>
    match compileModelPattern s with
    | .ok re => ps ++ [re]
    | .error _ => ps
  | none => ps

/-- `ModelPatterns`: every string of `models` that `CompileModelPattern` compiles, in order. -/
def parseModelPatterns (m : Object) : List Regexp :=
  ((m.getArray "models").getD []).foldl addModelPattern []

/-- One header matcher; a regex that does not compile is left `nil`. -/
def parseStringMatcher (mm : Object) : StringMatcher where
  exact := (mm.getStr "exact").getD ""
  prefixStr := (mm.getStr "prefix").getD ""
  regex := (mm.getStr "regex").bind fun s => (compile s).toOption

/-- One step of the `headers` loop: a header whose spec is an object gets its matcher. -/
def addHeaderMatcher (hs : List (String × StringMatcher)) (p : String × Value) :
    List (String × StringMatcher) :=
  match p.2.asObject with
  | some mm => mapSet p.1 (parseStringMatcher mm) hs
  | none => hs

/-- `HeaderMatchers`: one matcher per header name whose spec is an object. -/
def parseHeaderMatchers (m : Object) : List (String × StringMatcher) :=
  ((m.getObject "headers").getD []).foldl addHeaderMatcher []

/-- `SourceTables`: every string of `source.tables`; `namespaces` and `serviceAccounts` are not
    read. -/
def parseSourceTables (m : Object) : List String :=
  (((m.getObject "source").bind fun s => s.getArray "tables").getD []).foldl addString []

/-! ### Destinations, fallback, rate limit and retry -/

/-- A destination before its `condition` is read. -/
def baseDestination (dm : Object) : Destination where
  pool := getString dm "pool"
  weight := getInt32 dm "weight" 100
  queueDepthCondition := none
  replicaCondition := none
  latencyCondition := none
  requireModelLoaded := false
  timeCondition := none

/-- The `condition` block of a destination. -/
def parseCondition (d : Destination) (c : Object) : Destination :=
  { d with
    queueDepthCondition := (c.getStr "queueDepth").bind fun s => (parseThresholdCondition s).toOption
    replicaCondition := (c.getStr "availableReplicas").bind fun s => (parseThresholdCondition s).toOption
    latencyCondition := (c.getStr "latency").bind fun s => (parseThresholdCondition s).toOption
    requireModelLoaded := (c.lookup "modelLoaded").bind Value.asBool = some true
    timeCondition := (c.getObject "timeOfDay").map parseTimeWindow }

/-- One destination. -/
def parseDestination (dm : Object) : Destination :=
  match dm.getObject "condition" with
  | some c => parseCondition (baseDestination dm) c
  | none => baseDestination dm

/-- `Fallback`: `errorResponse.retryAfter` is read only as a `float64`. -/
def parseFallback (fb : Object) : Fallback where
  action := getString fb "action"
  maxQueueTime := 0
  redirectPool := getString fb "redirectPool"
  statusCode := ((fb.getObject "errorResponse").map fun er => getInt32 er "statusCode" 503).getD 0
  message := ((fb.getObject "errorResponse").map fun er => getString er "message").getD ""
  retryAfter := (((fb.getObject "errorResponse").bind fun er =>
    (er.lookup "retryAfter").bind Value.asFloat64).map truncRat).getD 0

/-- The `rateLimiting` block: a fresh `NewRateLimiter(rps, burst, perModel)` created at `now`
    when `requestsPerSecond > 0`, `burstSize` defaulting to it. -/
def parseRateLimiter (now : Time) (rl : Object) : Option RateLimiter :=
  if getInt32 rl "requestsPerSecond" 0 > 0 then
    some (newRateLimiter (getInt32 rl "requestsPerSecond" 0)
      (getInt32 rl "burstSize" (getInt32 rl "requestsPerSecond" 0))
      (((rl.lookup "perModel").bind Value.asBool).getD false) now)
  else none

/-- The statuses one `retryOn` entry adds: for `"pxx"` with `p` an integer, the loop
    `for i := p * 100; i < (p+1)*100; i++`, both bounds in Go's wrapping 64-bit `int`. -/
def retryStatuses (rs : String) : List Int :=
  if (cutSuffix rs "xx").2 ∧ (atoi (cutSuffix rs "xx").1).2 then
    let p := (atoi (cutSuffix rs "xx").1).1
    (List.range (wrapInt ((p + 1) * 100) - wrapInt (p * 100)).toNat).map (wrapInt (p * 100) + ·)
  else []

/-- `RetryOnStatuses`. -/
def parseRetryOn (vs : List Value) : List Int :=
  vs.foldl (fun acc v => match v.asString with
    | some rs => (retryStatuses rs).foldl (fun a i => a.insert i) acc
    | none => acc) []

/-! ### The route -/

/-- The route `convertRoute` builds from a `spec` object, named `fullName`, at `now`. -/
def buildRoute (now : Time) (fullName : String) (spec : Object) : Route where
  name := fullName
  priority := getInt32 spec "priority" 100
  operations := ((spec.getObject "match").map parseOperations).getD []
  modelPatterns := ((spec.getObject "match").map parseModelPatterns).getD []
  headerMatchers := ((spec.getObject "match").map parseHeaderMatchers).getD []
  sourceTables := ((spec.getObject "match").map parseSourceTables).getD []
  timeWindow := (spec.getObject "match").bind fun m => (m.getObject "timeWindow").map parseTimeWindow
  destinations := ((spec.getArray "route").getD []).filterMap fun v => v.asObject.map parseDestination
  fallback := (spec.getObject "fallback").map parseFallback
  rateLimiter := (spec.getObject "rateLimiting").bind (parseRateLimiter now)
  retryAttempts := ((spec.getObject "retry").map fun r => getInt32 r "attempts" 3).getD 0
  retryTimeout := 0
  retryOnStatuses := (((spec.getObject "retry").bind fun r => r.getArray "retryOn").map parseRetryOn).getD []
  matchedRequests := 0
  lastMatchTime := Time.zero

/-- `(*RouteWatcher).convertRoute(obj)` at `now`, named `namespace/name`. -/
def convertRoute (now : Time) (u : Unstructured) : Except String Route :=
  match u.unstructuredContent.getObject "spec" with
  | none => .error "spec not found"
  | some spec => .ok (buildRoute now (u.getNamespace ++ "/" ++ u.getName) spec)

end Termite.Proxy
