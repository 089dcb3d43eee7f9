import Termite.Proxy.MatchRefinement

namespace Termite.Proxy

open Termite.Go Termite.Go.Regexp Termite.Kube Termite.Operator

/-!
# What an admitted `TermiteRoute` compiles to

The webhook `validateTermiteRoute` guards what reaches `convertRoute`.  Beyond the `match`
block (`MatchRefinement`), the proxy acts on the rate limit, the time windows and the dispatch
policy of a route; this module compares each with what the webhook admits.

* `validateTermiteRoute_divergences` — the webhook rejects the glob `(*`, which
  `CompileModelPattern` compiles, and admits a destination condition at `25:99`.
* `allow_after_refill_period` — the limiter of an admitted rate limit whose burst is at least
  one grants, from every reachable state, a call made one refill period after the previous call
  on its bucket; `allow_zero_burst_never` — the admitted burst `0` grants nothing, ever.
* `parseTimeWindow_active_iff` — an admitted time window is active at some instant iff its start
  and end differ; `parseTimeWindow_mondayWindow_never` — a days-only window never is.
* `destinations_buildRoute`, `fallback_buildRoute`, `retry_buildRoute` — the dispatch policy of
  the compiled route, against the spec's; `convertRoute_drops_durations` — `maxQueueTime`,
  `perTryTimeout` and `retryAfter` do not reach it.
-/

/-! ### Reading the stored spec back -/

/-- An `int32` field stored as `int64` reads back as it was. -/
theorem getInt32_int64 {m : Object} {k : String} {x : BitVec 32} (d : Int)
    (h : m.lookup k = some (.int64 x.toInt)) : getInt32 m k d = x.toInt := by
  have hlt := @Int.bmod_lt (x.toNat : Int) (2 ^ 32) (by decide)
  have hle := @Int.le_bmod (x.toNat : Int) (2 ^ 32) (by decide)
  rw [← BitVec.toInt_eq_toNat_bmod] at hlt hle
  simp only [getInt32, h, maxInt32, minInt32]
  rw [if_neg (by omega), if_neg (by omega)]

/-- An `omitempty` `int32` field reads back as it was, and an absent one as the default. -/
theorem getInt32_int32Field {m : Object} {k : String} (x : BitVec 32) (d : Int)
    (h : m.lookup k = (int32Field k x).lookup k) : getInt32 m k d = if x = 0 then d else x.toInt := by
  by_cases hx : x = 0
  · simp [getInt32, h, hx]
  · rw [if_neg hx]; exact getInt32_int64 d (by simpa [h] using hx)

/-- An `omitempty` string field reads back as it was, and an absent one as empty. -/
theorem getString_strField {m : Object} {k : String} (s : String) (h : m.lookup k = (strField k s).lookup k) :
    getString m k = s := by
  by_cases hs : s = "" <;> simp [getString, Object.getStr, h, hs, Value.asString]

theorem getObject_rateLimiting (s : TermiteRouteSpec) :
    s.toObject.getObject "rateLimiting" = s.rateLimiting.map RouteRateLimiting.toObject := by
  cases h : s.rateLimiting <;>
    simp [TermiteRouteSpec.toObject, Object.getObject, lookup_append, List.lookup_cons, Value.asObject, h]

/-! ### What the webhook checks -/

/-- The nightly route with the model glob `(*`: any model name starting with `(`. -/
def parenGlobRoute : TermiteRoute :=
  { nightlyEmbedRoute with
    spec := { nightlyEmbedRoute.spec with
      routeMatch := { nightlyEmbedRoute.spec.routeMatch with models := ["(*"] } } }

/-- The nightly route whose one destination is conditional on the time of day `25:99`. -/
def lateDestinationRoute : TermiteRoute :=
  { nightlyEmbedRoute with
    spec := { nightlyEmbedRoute.spec with
      route := [⟨"gpu-pool", 100, some ⟨"", "", "", none, some ⟨"25:99", "06:00", []⟩⟩⟩] } }

/-- The webhook rejects a glob that `CompileModelPattern` compiles, since it compiles the glob's
    text as a regular expression; and it admits a destination condition whose time of day is no
    time, since it never looks at destination conditions. -/
theorem validateTermiteRoute_divergences :
    (validateTermiteRoute parenGlobRoute.spec =
        some "TermiteRoute validation failed:\n  - invalid model pattern '(*': error parsing regexp: missing closing ): `^(.*$`" ∧
      ∃ re, compileModelPattern "(*" = .ok re) ∧
    (validateTermiteRoute lateDestinationRoute.spec = none ∧ ¬ClockText "25:99") := by
  refine ⟨⟨rfl, _, compileModelPattern_eq "(*"⟩, by decide, ?_⟩
  rintro (h | ⟨hh, mm, hc, h24, -⟩)
  · exact absurd h (by decide)
  · have : clockValue "25:99".data = some (25, 99) := by decide
    rw [this, Option.some.injEq, Prod.mk.injEq] at hc
    omega

/-! ### The rate limit -/

/-- The limiter `convertRoute` builds from a `rateLimiting` block with a positive rate. -/
theorem parseRateLimiter_toObject (now : Time) (rl : RouteRateLimiting) (h : 0 < rl.requestsPerSecond.toInt) :
    parseRateLimiter now rl.toObject =
      some (newRateLimiter rl.requestsPerSecond.toInt (rl.burstSize.getD rl.requestsPerSecond).toInt
        rl.perModel now) := by
  have hrps : getInt32 rl.toObject "requestsPerSecond" 0 = rl.requestsPerSecond.toInt :=
    getInt32_int64 0 (by simp [RouteRateLimiting.toObject, lookup_append])
  have hburst : getInt32 rl.toObject "burstSize" rl.requestsPerSecond.toInt =
      (rl.burstSize.getD rl.requestsPerSecond).toInt := by
    cases hb : rl.burstSize with
    | none => simp [getInt32, RouteRateLimiting.toObject, lookup_append, List.lookup_cons, hb]
    | some b => exact getInt32_int64 _ (by simp [RouteRateLimiting.toObject, lookup_append, List.lookup_cons, hb])
  have hpm : ((rl.toObject.lookup "perModel").bind Value.asBool).getD false = rl.perModel := by
    cases hp : rl.perModel <;>
      simp [RouteRateLimiting.toObject, lookup_append, List.lookup_cons, hp, Value.asBool]
  simp only [parseRateLimiter, hrps, hburst, hpm, if_pos h]

/-- The limiter `convertRoute` compiles from a spec's `rateLimiting` block with a positive rate. -/
theorem rateLimiter_convertRoute (now : Time) (r : TermiteRoute) {rl : RouteRateLimiting}
    (hrl : r.spec.rateLimiting = some rl) (h : 0 < rl.requestsPerSecond.toInt) :
    (convertRoute now r.toUnstructured).map Route.rateLimiter =
      .ok (some (newRateLimiter rl.requestsPerSecond.toInt (rl.burstSize.getD rl.requestsPerSecond).toInt
        rl.perModel now)) := by
  rw [convertRoute_toUnstructured]
  simp only [Except.map, buildRoute, getObject_rateLimiting, hrl, Option.map_some', Option.some_bind,
    parseRateLimiter_toObject now rl h]

/-- An admitted rate limit has a positive rate and a burst of `0` or more. -/
theorem validateRateLimiting_bounds {s : TermiteRouteSpec} {rl : RouteRateLimiting}
    (h : validateRateLimiting s = none) (hrl : s.rateLimiting = some rl) :
    0 < rl.requestsPerSecond.toInt ∧ ∀ b, rl.burstSize = some b → 0 ≤ b.toInt := by
  simp only [validateRateLimiting, hrl] at h
  split at h
  · cases h
  · refine ⟨by omega, fun b hb => ?_⟩
    simp only [hb] at h
    split at h
    · cases h
    · omega

/-- **An admitted rate limit with a burst of at least one never starves a bucket.**  The limiter
    `convertRoute` builds from an admitted `rateLimiting` block whose `burstSize` is absent or at
    least one has the block's rate, burst (`requestsPerSecond` by default) and `perModel`; after
    any calls at non-decreasing times from its creation, a call made at least `1/requestsPerSecond`
    seconds after the previous call on its bucket (or after the creation, if there was none) is
    granted. -/
theorem allow_after_refill_period (now : Time) (r : TermiteRoute) (rl : RouteRateLimiting)
    (hadm : validateRateLimiting r.spec = none) (hrl : r.spec.rateLimiting = some rl)
    (hburst : ∀ b, rl.burstSize = some b → 1 ≤ b.toInt) :
    ∃ lim, (convertRoute now r.toUnstructured).map Route.rateLimiter = .ok (some lim) ∧
      lim.rate = rl.requestsPerSecond.toInt ∧ lim.burstSize = (rl.burstSize.getD rl.requestsPerSecond).toInt ∧
      lim.perModel = rl.perModel ∧
      ∀ (calls : List (String × Time)) (m : String) (t : Time),
        List.Chain (· ≤ ·) now ((calls ++ [(m, t)]).map Prod.snd) →
        (1 : ℚ) / rl.requestsPerSecond.toInt ≤
          Time.seconds (t - (lim.lastCallOn (lim.bucketKey m) calls).getD now) →
        ((lim.run calls).2.allow m t).1 = true := by
  obtain ⟨hrps, hb0⟩ := validateRateLimiting_bounds hadm hrl
  have hB : 1 ≤ (rl.burstSize.getD rl.requestsPerSecond).toInt := by
    cases hb : rl.burstSize with
    | none => simp only [Option.getD_none]; omega
    | some b => exact hburst b hb
  refine ⟨_, rateLimiter_convertRoute now r hrl hrps, rfl, rfl, rfl, fun calls m t htimes hgap => ?_⟩
  have hcalls : List.Chain (· ≤ ·) now (calls.map Prod.snd) := by
    have h' : List.Chain' (· ≤ ·) ((now :: calls.map Prod.snd) ++ [t]) := by simpa using htimes
    exact h'.left_of_append
  obtain ⟨_, hinv⟩ := (newRateLimiter_inv rl.requestsPerSecond.toInt _ rl.perModel now hrps
    (le_trans (by decide) hB)).run calls hcalls
  refine RateLimiter.allow_eq_true_of_gap hinv (by simpa [newRateLimiter] using hB) m t fun b hb => ?_
  have hpos : (0 : ℚ) < rl.requestsPerSecond.toInt := by exact_mod_cast hrps
  rw [newRateLimiter_run_lastUpdate _ _ _ _ calls _ (by simpa using hb), RateLimiter.run_rate]
  rwa [div_le_iff₀ hpos] at hgap

/-- The nightly route, limited to two requests a second for each model. -/
def limitedRoute : TermiteRoute :=
  { nightlyEmbedRoute with
    spec := { nightlyEmbedRoute.spec with rateLimiting := some ⟨2, none, true⟩ } }

theorem allow_after_refill_period_limitedRoute :
    validateRateLimiting limitedRoute.spec = none ∧
      ∃ lim, (convertRoute 0 limitedRoute.toUnstructured).map Route.rateLimiter = .ok (some lim) ∧
        ∀ (calls : List (String × Time)) (m : String) (t : Time),
          List.Chain (· ≤ ·) 0 ((calls ++ [(m, t)]).map Prod.snd) →
          (1 : ℚ) / (2 : BitVec 32).toInt ≤ Time.seconds (t - (lim.lastCallOn (lim.bucketKey m) calls).getD 0) →
          ((lim.run calls).2.allow m t).1 = true := by
  have hadm : validateRateLimiting limitedRoute.spec = none := by decide
  obtain ⟨lim, hlim, -, -, -, hallow⟩ :=
    allow_after_refill_period 0 limitedRoute ⟨2, none, true⟩ hadm rfl fun _ h => by cases h
  exact ⟨hadm, lim, hlim, hallow⟩

/-- The nightly route with ten requests a second and a burst of `0`. -/
def zeroBurstRoute : TermiteRoute :=
  { nightlyEmbedRoute with
    spec := { nightlyEmbedRoute.spec with rateLimiting := some ⟨10, some 0, false⟩ } }

/-- The webhook admits it, and its limiter refuses every call, whatever the calls before. -/
theorem allow_zero_burst_never :
    validateTermiteRoute zeroBurstRoute.spec = none ∧
      ∃ lim, (convertRoute 0 zeroBurstRoute.toUnstructured).map Route.rateLimiter = .ok (some lim) ∧
        lim.burstSize = 0 ∧ ∀ (calls : List (String × Time)) (m : String) (t : Time),
          ((lim.run calls).2.allow m t).1 = false :=
  ⟨by decide, _, rateLimiter_convertRoute 0 zeroBurstRoute rfl (by decide), rfl, fun calls m t =>
    RateLimiter.allow_eq_false_of_burst (by simp [newRateLimiter]) m t⟩

/-! ### Time windows -/

/-- The instant `m` minutes into the epoch's first day has `m` as its minute of the day. -/
theorem minuteOfDay_minutes {m : Int} (h0 : 0 ≤ m) (h1 : m < 1440) :
    Time.hour (m * nsPerMinute) * 60 + Time.minute (m * nsPerMinute) = m := by
  simp only [Time.hour, Time.minute, nsPerDay, nsPerHour, nsPerMinute, nsPerSecond]
  omega

/-- **When an admitted time window is ever active.**  The window `parseTimeWindow` compiles from
    an admitted `TimeWindowMatch` is active at some instant iff its start and end name different
    minutes of the day, an empty field naming `00:00`. -/
theorem parseTimeWindow_active_iff (tw : TimeWindowMatch) (hv : validateTimeWindow tw = none) :
    (∃ t, (parseTimeWindow tw.toObject).isActive t = true) ↔
      clockMinutes tw.start ≠ clockMinutes tw.endTime := by
  obtain ⟨hs, he⟩ := validateTimeWindow_clock hv
  obtain ⟨-, hS0, hS1⟩ := parseClock_minutes hs
  obtain ⟨-, hE0, hE1⟩ := parseClock_minutes he
  simp only [isActive_parseTimeWindow_arc tw hv]
  constructor
  · rintro ⟨t, ht⟩ heq
    rw [heq, sub_self, Int.zero_emod] at ht
    exact absurd ht (not_lt.mpr (Int.emod_nonneg _ (by decide)))
  · intro hne
    -- the instant at the start minute of the epoch's first day
    refine ⟨clockMinutes tw.start * nsPerMinute, ?_⟩
    rw [minuteOfDay_minutes hS0 hS1]
    omega

theorem parseTimeWindow_active_iff_nightly :
    validateTimeWindow ⟨"22:00", "06:00", []⟩ = none ∧
      ((∃ t, (parseTimeWindow (TimeWindowMatch.toObject ⟨"22:00", "06:00", []⟩)).isActive t = true) ↔
        clockMinutes "22:00" ≠ clockMinutes "06:00") :=
  ⟨by decide, parseTimeWindow_active_iff ⟨"22:00", "06:00", []⟩ (by decide)⟩

/-- A days-only window, Mondays, with no start or end. -/
def mondayWindow : TimeWindowMatch := ⟨"", "", [1]⟩

/-- The webhook admits it, and the window compiled from it is never active. -/
theorem parseTimeWindow_mondayWindow_never :
    validateTimeWindow mondayWindow = none ∧
      ∀ t, (parseTimeWindow mondayWindow.toObject).isActive t = false := by
  have hv : validateTimeWindow mondayWindow = none := by decide
  refine ⟨hv, fun t => ?_⟩
  have h := isActive_parseTimeWindow_arc mondayWindow hv t
  have hz : clockMinutes mondayWindow.start = 0 ∧ clockMinutes mondayWindow.endTime = 0 := ⟨rfl, rfl⟩
  rw [hz.1, hz.2] at h
  cases hA : (parseTimeWindow mondayWindow.toObject).isActive t
  · rfl
  · have := h.mp hA; omega

/-! ### The dispatch policy -/

/-- A spec destination as the proxy should run it: its pool, its weight (`100` when unset; an
    `omitempty` zero is not stored), and each populated condition, parsed. -/
def compiledDestination (d : RouteDestination) : Destination where
  pool := d.pool
  weight := if d.weight = 0 then 100 else d.weight.toInt
  queueDepthCondition := d.condition.bind fun c =>
    if c.queueDepth = "" then none else (parseThresholdCondition c.queueDepth).toOption
  replicaCondition := d.condition.bind fun c =>
    if c.availableReplicas = "" then none else (parseThresholdCondition c.availableReplicas).toOption
  latencyCondition := d.condition.bind fun c =>
    if c.latency = "" then none else (parseThresholdCondition c.latency).toOption
  requireModelLoaded := decide (d.condition.bind (·.modelLoaded) = some true)
  timeCondition := d.condition.bind fun c => c.timeOfDay.map fun tw => parseTimeWindow tw.toObject

theorem parseDestination_toObject (d : RouteDestination) : parseDestination d.toObject = compiledDestination d := by
  have hpool : getString d.toObject "pool" = d.pool := by
    simp [getString, Object.getStr, RouteDestination.toObject, lookup_append, List.lookup_cons, Value.asString]
  have hweight : getInt32 d.toObject "weight" 100 = if d.weight = 0 then 100 else d.weight.toInt :=
    getInt32_int32Field d.weight 100 (by simp [RouteDestination.toObject, lookup_append, List.lookup_cons])
  have hcond : d.toObject.getObject "condition" = d.condition.map RouteCondition.toObject := by
    cases hc : d.condition <;>
      simp [Object.getObject, RouteDestination.toObject, lookup_append, List.lookup_cons, hc, Value.asObject]
  unfold parseDestination
  rw [hcond]
  cases hc : d.condition with
  | none => simp [baseDestination, compiledDestination, hpool, hweight, hc]
  | some c =>
    have hstr : ∀ k s, c.toObject.lookup k = (if s = "" then none else some (.string s)) →
        (c.toObject.getStr k).bind (fun s => (parseThresholdCondition s).toOption) =
          if s = "" then none else (parseThresholdCondition s).toOption := by
      intro k s h; simp only [Object.getStr, h]; split <;> rfl
    simp only [parseCondition, baseDestination, compiledDestination, hpool, hweight, hc, Option.some_bind,
      Option.map_some']
    rw [hstr "queueDepth" c.queueDepth (by simp [RouteCondition.toObject, lookup_append]),
      hstr "availableReplicas" c.availableReplicas (by simp [RouteCondition.toObject, lookup_append]),
      hstr "latency" c.latency (by simp [RouteCondition.toObject, lookup_append])]
    cases hm : c.modelLoaded <;> cases ht : c.timeOfDay <;>
      simp [RouteCondition.toObject, Object.getObject, lookup_append, hm, ht, Value.asBool, Value.asObject]

/-- The fallback the proxy runs for a spec's fallback block: the action, the redirect pool and
    the error response's status (`503` when unset) and message; no queue time and no
    `Retry-After`. -/
def compiledFallback (f : RouteFallback) : Fallback where
  action := f.action
  maxQueueTime := 0
  redirectPool := f.redirectPool
  statusCode := (f.errorResponse.map fun e => if e.statusCode = 0 then 503 else e.statusCode.toInt).getD 0
  message := (f.errorResponse.map (·.message)).getD ""
  retryAfter := 0

theorem parseFallback_toObject (f : RouteFallback) : parseFallback f.toObject = compiledFallback f := by
  have haction : getString f.toObject "action" = f.action := by
    simp [getString, Object.getStr, RouteFallback.toObject, lookup_append, List.lookup_cons, Value.asString]
  have hpool : getString f.toObject "redirectPool" = f.redirectPool :=
    getString_strField f.redirectPool (by simp [RouteFallback.toObject, lookup_append, List.lookup_cons])
  have her : f.toObject.getObject "errorResponse" = f.errorResponse.map fun e =>
      int32Field "statusCode" e.statusCode ++ strField "message" e.message ++
        optField "retryAfter" (e.retryAfter.map fun x => .int64 x.toInt) := by
    cases h : f.errorResponse <;>
      simp [Object.getObject, RouteFallback.toObject, lookup_append, List.lookup_cons, Value.asObject, h]
  simp only [parseFallback, compiledFallback, haction, hpool, her]
  cases h : f.errorResponse with
  | none => rfl
  | some e =>
    simp only [Option.map_some', Option.getD_some, Option.some_bind]
    rw [getInt32_int32Field e.statusCode 503, getString_strField e.message]
    · cases hr : e.retryAfter <;> simp [lookup_append, hr, Value.asFloat64]
    all_goals simp [lookup_append]

/-- **The fallback of the compiled route** is the spec's, less its queue time and `Retry-After`. -/
theorem fallback_buildRoute (now : Time) (n : String) (s : TermiteRouteSpec) :
    (buildRoute now n s.toObject).fallback = s.fallback.map compiledFallback := by
  have hfb : s.toObject.getObject "fallback" = s.fallback.map RouteFallback.toObject := by
    cases h : s.fallback <;>
      simp [TermiteRouteSpec.toObject, Object.getObject, lookup_append, List.lookup_cons, Value.asObject, h]
  simp only [buildRoute, hfb, Option.map_map]
  exact Option.map_congr fun f _ => parseFallback_toObject f

/-- **The retry policy of the compiled route**: the attempts (`3` when unset, `0` without a
    retry block), and no timeout per attempt. -/
theorem retry_buildRoute (now : Time) (n : String) (s : TermiteRouteSpec) :
    (buildRoute now n s.toObject).retryAttempts =
        (s.retry.map fun r => if r.attempts = 0 then 3 else r.attempts.toInt).getD 0 ∧
      (buildRoute now n s.toObject).retryTimeout = 0 := by
  have hretry : s.toObject.getObject "retry" = s.retry.map RouteRetry.toObject := by
    cases h : s.retry <;>
      simp [TermiteRouteSpec.toObject, Object.getObject, lookup_append, List.lookup_cons, Value.asObject, h]
  refine ⟨?_, rfl⟩
  simp only [buildRoute, hretry, Option.map_map]
  cases h : s.retry with
  | none => rfl
  | some r =>
    simp only [Option.map_some', Option.getD_some, Function.comp]
    exact getInt32_int32Field r.attempts 3 (by simp [RouteRetry.toObject, lookup_append])

/-- A route that queues for at most thirty seconds, answers `Retry-After: 5` when it rejects, and
    gives each of two attempts ten seconds. -/
def queueingRoute : TermiteRoute :=
  { nightlyEmbedRoute with
    spec := { nightlyEmbedRoute.spec with
      fallback := some ⟨"queue", some (30 * nsPerSecond), "", some ⟨503, "overloaded", some 5⟩⟩
      retry := some ⟨2, some (10 * nsPerSecond), ["5xx"]⟩ } }

/-- The webhook admits it, and its compiled route queues for no time, sends no `Retry-After` and
    gives an attempt no timeout. -/
theorem convertRoute_drops_durations :
    validateTermiteRoute queueingRoute.spec = none ∧
      ∃ route, convertRoute 0 queueingRoute.toUnstructured = .ok route ∧
        route.fallback = some ⟨"queue", 0, "", 503, "overloaded", 0⟩ ∧
        route.retryAttempts = 2 ∧ route.retryTimeout = 0 := by
  obtain ⟨hattempts, htimeout⟩ := retry_buildRoute 0 (queueingRoute.namespaceName ++ "/" ++ queueingRoute.name) queueingRoute.spec
  refine ⟨by decide, _, convertRoute_toUnstructured 0 queueingRoute, ?_, ?_, htimeout⟩
  · rw [fallback_buildRoute]; rfl
  · rw [hattempts]; rfl

end Termite.Proxy
