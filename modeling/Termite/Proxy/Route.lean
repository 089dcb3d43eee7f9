import Termite.Go.Regexp
import Termite.Go.Strings
import Termite.Proxy.RateLimiter

namespace Termite.Proxy

open Termite.Go

/-!
# Compiled routes and route matching

The proxy's in-memory `Route` (the compiled form of a `TermiteRoute` resource) and the
predicates the Route Engine evaluates on it:

* `StringMatcher.matches` — a header matcher: exact value, prefix or regular expression, any
  populated one sufficing.
* `TimeWindow.isActive` — the UTC time-of-day window, wrapping past midnight when it ends
  before it starts, optionally restricted to weekdays.
* `ThresholdCondition.evaluate` — a numeric comparison of a destination condition.
* `matchRoute` — every populated clause of a route's match block holds of the request.

`float64` values are exact rationals here.  Go maps `map[K]bool` that only ever hold `true`
(`Operations`, `SourceTables`, `Days`) are lists of their keys.
-/

/-- `OperationType`: `"embed"`, `"chunk"` or `"rerank"`. -/
abbrev OperationType := String

/-- `StringMatcher`; `Regex` is `nil` when absent. -/
structure StringMatcher where
  exact : String
  prefixStr : String
  regex : Option Regexp
  deriving DecidableEq

/-- `(*StringMatcher).Matches`. -/
def StringMatcher.matches (m : StringMatcher) (value : String) : Bool :=
  if m.exact ≠ "" ∧ value = m.exact then true
  else if m.prefixStr ≠ "" ∧ hasPrefix value m.prefixStr then true
  else match m.regex with
    | some re => re.matchString value
    | none => false

/-- `TimeWindow`; `Days` lists the weekdays set to `true` (`0` is Sunday). -/
structure TimeWindow where
  startHour : Int
  startMinute : Int
  endHour : Int
  endMinute : Int
  days : List Int
  deriving DecidableEq

/-- `(*TimeWindow).IsActive`. -/
def TimeWindow.isActive (tw : TimeWindow) (t : Time) : Bool :=
  if tw.days ≠ [] ∧ t.weekday ∉ tw.days then false
  else
    let currentMinutes := t.hour * 60 + t.minute
    let startMinutes := tw.startHour * 60 + tw.startMinute
    let endMinutes := tw.endHour * 60 + tw.endMinute
    if startMinutes ≤ endMinutes then startMinutes ≤ currentMinutes ∧ currentMinutes < endMinutes
    else startMinutes ≤ currentMinutes ∨ currentMinutes < endMinutes

/-- `ThresholdCondition`: `Operator` is one of `">"`, `"<"`, `">="`, `"<="`, `"=="`. -/
structure ThresholdCondition where
  operator : String
  value : ℚ
  deriving DecidableEq

/-- `(*ThresholdCondition).Evaluate`; an unknown operator evaluates to `false`. -/
def ThresholdCondition.evaluate (c : ThresholdCondition) (value : ℚ) : Bool :=
  if c.operator = ">" then value > c.value
  else if c.operator = "<" then value < c.value
  else if c.operator = ">=" then value ≥ c.value
  else if c.operator = "<=" then value ≤ c.value
  else if c.operator = "==" then value = c.value
  else false

/-- `Destination`. -/
structure Destination where
  pool : String
  weight : Int
  queueDepthCondition : Option ThresholdCondition
  replicaCondition : Option ThresholdCondition
  latencyCondition : Option ThresholdCondition
  requireModelLoaded : Bool
  timeCondition : Option TimeWindow
  deriving DecidableEq

/-- `Fallback`. -/
structure Fallback where
  action : String
  maxQueueTime : Duration
  redirectPool : String
  statusCode : Int
  message : String
  retryAfter : Int
  deriving DecidableEq

/-- `Route`: the compiled matchers, the dispatch policy, the rate limiter and the match
    statistics.  `MatchedRequests` is an `int64` updated with `atomic.AddInt64`, so it wraps
    like a 64-bit word. -/
structure Route where
  name : String
  priority : Int
  operations : List OperationType
  modelPatterns : List Regexp
  headerMatchers : List (String × StringMatcher)
  sourceTables : List String
  timeWindow : Option TimeWindow
  destinations : List Destination
  fallback : Option Fallback
  rateLimiter : Option RateLimiter
  retryAttempts : Int
  retryTimeout : Duration
  retryOnStatuses : List Int
  matchedRequests : BitVec 64
  lastMatchTime : Time
  deriving DecidableEq

/-- `RouteRequest`. -/
structure RouteRequest where
  operation : OperationType
  model : String
  headers : List (String × String)
  sourceTable : String
  timestamp : Time
  deriving DecidableEq

/-- `(*RouteManager).matchRoute`: every populated clause of the route's match block holds. -/
def matchRoute (route : Route) (req : RouteRequest) : Bool :=
  (route.operations = [] || req.operation ∈ route.operations) &&
  (route.modelPatterns = [] || route.modelPatterns.any (·.matchString req.model)) &&
  route.headerMatchers.all (fun hm =>
    match req.headers.lookup hm.1 with
    | some value => hm.2.matches value
    | none => false) &&
  (route.sourceTables = [] || req.sourceTable ∈ route.sourceTables) &&
  (match route.timeWindow with
    | some tw => tw.isActive req.timestamp
    | none => true)

/-- The statistics update `Match` performs on the route it returns. -/
def Route.recordMatch (r : Route) (t : Time) : Route :=
  { r with matchedRequests := r.matchedRequests + 1, lastMatchTime := t }

@[simp] theorem Route.recordMatch_name (r : Route) (t : Time) : (r.recordMatch t).name = r.name := rfl
@[simp] theorem Route.recordMatch_priority (r : Route) (t : Time) :
    (r.recordMatch t).priority = r.priority := rfl

/-- Matching reads none of the statistics. -/
@[simp] theorem matchRoute_recordMatch (r : Route) (t : Time) (req : RouteRequest) :
    matchRoute (r.recordMatch t) req = matchRoute r req := rfl

end Termite.Proxy
