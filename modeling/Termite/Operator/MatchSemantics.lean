import Termite.Proxy.Route
import Termite.Operator.TermiteRoute

namespace Termite.Operator

open Termite.Go Termite.Go.Regexp Termite.Proxy

/-!
# What a `match` block means

The `match` block of a `TermiteRoute`, read as the API documents it, for a request that names
its caller.  This is the reference the compiled matcher of the proxy is compared with in
`Termite.Proxy.MatchRefinement`.

* `RouteMatch.satisfiedBy` — every populated clause holds: the operation is listed, some model
  glob matches, every named header matcher is satisfied, every populated source selector
  (tables, namespaces, service accounts) contains the caller's value, the time window covers the
  timestamp.
* `TimeWindowMatch.covers` — a window is an arc of the UTC clock, from `start` forward to `end`.
-/

/-- A request with its caller: what `RouteRequest` holds, and the caller's namespace and service
    account, which `RouteRequest` has no field for. -/
structure CallerRequest where
  operation : OperationType
  model : String
  headers : List (String × String)
  sourceTable : String
  callerNamespace : String
  serviceAccount : String
  timestamp : Time

/-- The `RouteRequest` the proxy builds for a request. -/
def CallerRequest.toRouteRequest (q : CallerRequest) : RouteRequest :=
  ⟨q.operation, q.model, q.headers, q.sourceTable, q.timestamp⟩

/-- Whether a glob matches a whole text, `*` standing for any run of characters. -/
def globAny : List Char → List Char → Bool
  | [], s => s.isEmpty
  | c :: p, s => if c = '*' then s.tails.any (globAny p) else s.head? == some c && globAny p s.tail

/-- A regular expression matches somewhere in a text, as Go's `MatchString` reads it: some
    substring is in the language of the compiled expression, in its context. -/
def regexMatches (re value : String) : Prop :=
  ∃ r, compile re = .ok r ∧ ∃ p u v, value.data = p ++ u ++ v ∧ Sem r p.isEmpty u v.isEmpty

/-- A header matcher holds of a value when one of its populated fields does. -/
def StringMatch.satisfiedBy (m : StringMatch) (value : String) : Prop :=
  (m.exact ≠ "" ∧ value = m.exact) ∨ (m.prefixStr ≠ "" ∧ m.prefixStr.data <+: value.data) ∨
    (m.regex ≠ "" ∧ regexMatches m.regex value)

/-- The minute of the day a time field names; an empty field, which the webhook admits, is
    midnight. -/
def clockMinutes (s : String) : Int :=
  match clockValue s.data with
  | some (h, m) => h * 60 + m
  | none => 0

/-- A time window covers an instant when the instant falls on one of its days, if it lists any,
    and its minute of the UTC day lies on the arc of the clock from `start` (included) forward to
    `end` (excluded), which wraps past midnight when `end` comes first. -/
def TimeWindowMatch.covers (tw : TimeWindowMatch) (t : Time) : Prop :=
  (tw.days = [] ∨ t.weekday ∈ tw.days) ∧
    (t.hour * 60 + t.minute - clockMinutes tw.start) % 1440 <
      (clockMinutes tw.endTime - clockMinutes tw.start) % 1440

/-- Every populated clause of the block but the caller's namespace and service account. -/
def RouteMatch.matchesRequest (m : RouteMatch) (q : CallerRequest) : Prop :=
  (m.operations = [] ∨ q.operation ∈ m.operations) ∧
  (m.models = [] ∨ ∃ pattern ∈ m.models, globAny pattern.data q.model.data = true) ∧
  (∀ h ∈ m.headers.val, ∃ value, q.headers.lookup h.1 = some value ∧ h.2.satisfiedBy value) ∧
  (∀ s ∈ m.source, s.tables = [] ∨ q.sourceTable ∈ s.tables) ∧
  (∀ tw ∈ m.timeWindow, tw.covers q.timestamp)

/-- The source selectors on the caller's identity. -/
def RouteMatch.selectsCaller (m : RouteMatch) (q : CallerRequest) : Prop :=
  ∀ s ∈ m.source, (s.namespaces = [] ∨ q.callerNamespace ∈ s.namespaces) ∧
    (s.serviceAccounts = [] ∨ q.serviceAccount ∈ s.serviceAccounts)

/-- The block with the days of its time window dropped, which is what the proxy's
    `parseTimeWindow` makes of it. -/
def RouteMatch.withoutDays (m : RouteMatch) : RouteMatch :=
  { m with timeWindow := m.timeWindow.map fun tw => { tw with days := [] } }

/-- The `match` block holds of a request: every populated clause is satisfied. -/
def RouteMatch.satisfiedBy (m : RouteMatch) (q : CallerRequest) : Prop :=
  m.matchesRequest q ∧ m.selectsCaller q

end Termite.Operator
