import Termite.Proxy.Route

namespace Termite.Proxy

open Termite.Go

/-!
# Destination selection (`evaluateConditions`, `SelectDestination`)

Once `Match` has picked a route, `SelectDestination` keeps the destinations whose conditions hold
against the registry's current pool statistics and returns the heaviest of them, the first in
route order among equals.

* `evaluateConditions_iff` — a destination is eligible iff its pool has an endpoint and every
  condition it evaluates holds: queue depth against the mean of the `int32` (wrapping) sum of
  the endpoints' queue depths, replicas against their number, model loaded, time of day.  The
  latency condition is never read.
* `evaluateConditions_iff_of_fits` — when the sum fits an `int32`, the queue-depth condition is
  evaluated at the exact mean.
* `evaluateConditions_divergences` — a saturated pool reads as idle, and a latency bound no
  latency meets is ignored.
* `selectDestination_first_heaviest` — `nil` exactly when no destination is eligible, otherwise
  the first eligible destination of the greatest weight; never an error.
-/

/-- Modelled from the spec: an endpoint as `GetEndpointsForPool` returns it (its type is not
    among the sources) — its `QueueDepth` counter, an `int32`, and the names of the models it has
    loaded (the keys of `Models`). -/
structure ModelEndpoint where
  queueDepth : BitVec 32
  models : List String
  deriving DecidableEq

/-- Modelled from the spec: the `ModelRegistry` as `evaluateConditions` reads it, the healthy
    endpoints of each pool at the time of the call. -/
structure ModelRegistry where
  getEndpointsForPool : String → List ModelEndpoint

/-! ### `evaluateConditions` -/

/-- A populated threshold condition holds of `value`; an absent one is no constraint. -/
def satisfiesIfSet (c : Option ThresholdCondition) (value : ℚ) : Bool :=
  match c with
  | some c => c.evaluate value
  | none => true

/-- One step of the endpoint loop: the `int32` running sum of queue depths, and whether an
    endpoint so far has the request's model loaded. -/
def addEndpointStats (model : String) (acc : BitVec 32 × Bool) (ep : ModelEndpoint) :
    BitVec 32 × Bool :=
  (acc.1 + ep.queueDepth, acc.2 || decide (model ∈ ep.models))

/-- `(*RouteManager).evaluateConditions(dest, req, registry)`; `float64` arithmetic is exact. -/
def evaluateConditions (dest : Destination) (req : RouteRequest) (registry : ModelRegistry) : Bool :=
  let endpoints := registry.getEndpointsForPool dest.pool
  if endpoints.length = 0 then false
  else
    let stats := endpoints.foldl (addEndpointStats req.model) (0, false)
    let avgQueueDepth : ℚ := (stats.1.toInt : ℚ) / endpoints.length
    if !satisfiesIfSet dest.queueDepthCondition avgQueueDepth then false
    else if !satisfiesIfSet dest.replicaCondition endpoints.length then false
    else if dest.requireModelLoaded && !stats.2 then false
    else match dest.timeCondition with
      | some tw => tw.isActive req.timestamp
      | none => true

/-- The sum of the queue depths as integers. -/
def totalQueueDepth (endpoints : List ModelEndpoint) : Int :=
  (endpoints.map fun ep => ep.queueDepth.toInt).sum

/-- The endpoint loop: the sum wraps to the `int32` range, and the flag is whether any endpoint
    has the model loaded. -/
theorem foldl_addEndpointStats (model : String) (endpoints : List ModelEndpoint)
    (acc : BitVec 32 × Bool) :
    ((endpoints.foldl (addEndpointStats model) acc).1.toInt =
        (acc.1.toInt + totalQueueDepth endpoints).bmod (2 ^ 32)) ∧
      (endpoints.foldl (addEndpointStats model) acc).2 =
        (acc.2 || endpoints.any fun ep => decide (model ∈ ep.models)) := by
  induction endpoints generalizing acc with
  | nil =>
    refine ⟨?_, by simp⟩
    rw [List.foldl_nil, totalQueueDepth, List.map_nil, List.sum_nil, Int.add_zero,
      BitVec.toInt_eq_toNat_bmod, Int.bmod_bmod]
  | cons ep eps ih =>
    obtain ⟨ih1, ih2⟩ := ih (addEndpointStats model acc ep)
    refine ⟨?_, ?_⟩
    · rw [List.foldl_cons, ih1, addEndpointStats, BitVec.toInt_add, Int.bmod_add_bmod_congr]
      simp only [totalQueueDepth, List.map_cons, List.sum_cons, Int.add_assoc]
    · rw [List.foldl_cons, ih2, addEndpointStats, List.any_cons, Bool.or_assoc]

/-- **What `evaluateConditions` checks.** A destination is eligible iff its pool has an endpoint
    and every populated condition it reads holds: the queue-depth condition of the `int32`
    (wrapped) sum of queue depths over the number of endpoints, the replica condition of that
    number, the model being loaded on some endpoint if required, and the time window.  The
    latency condition plays no part. -/
theorem evaluateConditions_iff (dest : Destination) (req : RouteRequest) (registry : ModelRegistry) :
    evaluateConditions dest req registry = true ↔
      registry.getEndpointsForPool dest.pool ≠ [] ∧
      satisfiesIfSet dest.queueDepthCondition
        (((totalQueueDepth (registry.getEndpointsForPool dest.pool)).bmod (2 ^ 32) : Int) /
          (registry.getEndpointsForPool dest.pool).length) = true ∧
      satisfiesIfSet dest.replicaCondition (registry.getEndpointsForPool dest.pool).length = true ∧
      (dest.requireModelLoaded = true →
        ∃ ep ∈ registry.getEndpointsForPool dest.pool, req.model ∈ ep.models) ∧
      ∀ tw, dest.timeCondition = some tw → tw.isActive req.timestamp = true := by
  obtain ⟨h1, h2⟩ := foldl_addEndpointStats req.model (registry.getEndpointsForPool dest.pool) (0, false)
  have h0 : (0 : BitVec 32).toInt = 0 := by decide
  simp only [h0, Int.zero_add, Bool.false_or] at h1 h2
  unfold evaluateConditions
  simp only [List.length_eq_zero, h1, h2]
  split
  · simp_all
  · split
    · simp_all
    · split
      · simp_all
      · split
        · simp_all [List.any_eq_true]
        · split <;> simp_all [List.any_eq_true]

/-- Two endpoints whose queue depths are both `2³¹ - 1`, the largest `int32`. -/
def saturatedRegistry : ModelRegistry := ⟨fun _ => [⟨0x7FFFFFFF, []⟩, ⟨0x7FFFFFFF, []⟩]⟩

/-- One idle endpoint. -/
def idleRegistry : ModelRegistry := ⟨fun _ => [⟨0, []⟩]⟩

/-- A destination asking for an average queue depth of at least `0`. -/
def queueBoundDest : Destination :=
  { pool := "gpu-pool", weight := 100, queueDepthCondition := some ⟨">=", 0⟩,
    replicaCondition := none, latencyCondition := none, requireModelLoaded := false,
    timeCondition := none }

/-- A destination asking for a latency below `-1` seconds, which no latency meets. -/
def latencyBoundDest : Destination :=
  { queueBoundDest with queueDepthCondition := none, latencyCondition := some ⟨"<", -1⟩ }

/-- An `embed` request for `bge-small` at the epoch. -/
def embedRequest : RouteRequest :=
  { operation := "embed", model := "bge-small", headers := [], sourceTable := "", timestamp := 0 }

/-- The saturated pool's exact mean queue depth, `2³¹ - 1`, meets `>= 0`, yet the wrapped sum
    (`-2`, mean `-1`) makes the destination ineligible; and the latency bound, which no latency
    `≥ 0` meets, leaves the destination eligible. -/
theorem evaluateConditions_divergences :
    ((⟨">=", 0⟩ : ThresholdCondition).evaluate
        ((totalQueueDepth (saturatedRegistry.getEndpointsForPool "gpu-pool") : ℚ) / 2) = true ∧
      evaluateConditions queueBoundDest embedRequest saturatedRegistry = false) ∧
    ((∀ latency : ℚ, 0 ≤ latency → (⟨"<", -1⟩ : ThresholdCondition).evaluate latency = false) ∧
      evaluateConditions latencyBoundDest embedRequest idleRegistry = true) := by
  refine ⟨⟨?_, ?_⟩, fun latency h => ?_, rfl⟩
  · have htotal : totalQueueDepth (saturatedRegistry.getEndpointsForPool "gpu-pool") = 4294967294 := by
      decide
    rw [htotal, ThresholdCondition.evaluate, if_neg (by decide), if_neg (by decide), if_pos rfl]
    norm_num
  · simp [evaluateConditions, saturatedRegistry, queueBoundDest, addEndpointStats, satisfiesIfSet,
      ThresholdCondition.evaluate]
  · simp only [ThresholdCondition.evaluate]; simp; linarith

/-- The first loop of `SelectDestination`: the destinations whose conditions hold, in route
    order (the running `totalWeight` is never read). -/
def eligibleDestinations (route : Route) (req : RouteRequest) (registry : ModelRegistry) :
    List Destination :=
  route.destinations.filter fun dest => evaluateConditions dest req registry

/-- One step of the second loop: a strictly heavier destination replaces the best so far. -/
def heavier (best : Option Destination) (d : Destination) : Option Destination :=
  match best with
  | none => some d
  | some b => if d.weight > b.weight then some d else some b

/-- `(*RouteManager).SelectDestination(route, req, registry)`: the error is always `nil`. -/
def selectDestination (route : Route) (req : RouteRequest) (registry : ModelRegistry) :
    Except String (Option Destination) :=
  let eligible := eligibleDestinations route req registry
  if eligible.length = 0 then .ok none
  else if eligible.length = 1 then .ok eligible.head?
  else .ok (eligible.foldl heavier none)

/-- `d` is the first element of `l` of the greatest weight. -/
def IsFirstHeaviest (l : List Destination) (d : Destination) : Prop :=
  ∃ l₁ l₂, l = l₁ ++ d :: l₂ ∧ (∀ x ∈ l₁, x.weight < d.weight) ∧ ∀ x ∈ l₂, x.weight ≤ d.weight

theorem IsFirstHeaviest.singleton (d : Destination) : IsFirstHeaviest [d] d :=
  ⟨[], [], rfl, by simp, by simp⟩

theorem IsFirstHeaviest.mem {l : List Destination} {d : Destination} (h : IsFirstHeaviest l d) :
    d ∈ l := by
  obtain ⟨l₁, l₂, rfl, -⟩ := h
  simp

/-- The first heaviest of `x :: l` is `x`, or comes later and outweighs `x`. -/
theorem IsFirstHeaviest.cons_cases {x : Destination} {l : List Destination} {d : Destination}
    (h : IsFirstHeaviest (x :: l) d) : d = x ∨ x.weight < d.weight ∧ IsFirstHeaviest l d := by
  obtain ⟨_ | ⟨y, l₁⟩, l₂, hl, h₁, h₂⟩ := h
  · simp only [List.nil_append, List.cons.injEq] at hl
    exact Or.inl hl.1.symm
  · simp only [List.cons_append, List.cons.injEq] at hl
    obtain ⟨rfl, rfl⟩ := hl
    exact Or.inr ⟨h₁ x (List.mem_cons_self _ _), l₁, l₂, rfl,
      fun z hz => h₁ z (List.mem_cons_of_mem _ hz), h₂⟩

/-- Every element weighs at most the first heaviest. -/
theorem IsFirstHeaviest.weight_le {l : List Destination} {d : Destination} (h : IsFirstHeaviest l d) :
    ∀ x ∈ l, x.weight ≤ d.weight := by
  obtain ⟨l₁, l₂, rfl, h₁, h₂⟩ := h
  intro x hx
  simp only [List.mem_append, List.mem_cons] at hx
  rcases hx with hx | rfl | hx
  exacts [le_of_lt (h₁ x hx), le_refl _, h₂ x hx]

/-- A list has one first heaviest element. -/
theorem IsFirstHeaviest.unique {l : List Destination} {d d' : Destination}
    (h : IsFirstHeaviest l d) (h' : IsFirstHeaviest l d') : d = d' := by
  induction l generalizing d d' with
  | nil => exact absurd h.mem (List.not_mem_nil d)
  | cons x l ih =>
    rcases h.cons_cases with rfl | ⟨hlt, ht⟩ <;> rcases h'.cons_cases with rfl | ⟨hlt', ht'⟩
    · rfl
    · have := h.weight_le d' (List.mem_cons_of_mem _ ht'.mem); omega
    · have := h'.weight_le d (List.mem_cons_of_mem _ ht.mem); omega
    · exact ih ht ht'

/-- A lighter element put in front keeps the first heaviest. -/
theorem IsFirstHeaviest.cons_of_lt {l : List Destination} {d b : Destination} (h : IsFirstHeaviest l d)
    (hb : b.weight < d.weight) : IsFirstHeaviest (b :: l) d := by
  obtain ⟨l₁, l₂, rfl, h₁, h₂⟩ := h
  exact ⟨b :: l₁, l₂, rfl, List.forall_mem_cons.mpr ⟨hb, h₁⟩, h₂⟩

/-- An element no heavier than the head, put second, keeps the first heaviest. -/
theorem IsFirstHeaviest.insert_second {l : List Destination} {b x d : Destination}
    (h : IsFirstHeaviest (b :: l) d) (hx : x.weight ≤ b.weight) : IsFirstHeaviest (b :: x :: l) d := by
  rcases h.cons_cases with rfl | ⟨hlt, ht⟩
  · -- the head is the first heaviest, and `x` comes after it
    exact ⟨[], x :: l, rfl, by simp,
      List.forall_mem_cons.mpr ⟨hx, fun y hy => h.weight_le y (List.mem_cons_of_mem _ hy)⟩⟩
  · -- the first heaviest comes later, and `x` is lighter than it, as the head is
    exact (ht.cons_of_lt (by omega)).cons_of_lt hlt

/-- **The scan.** From a best-so-far `b`, the second loop ends at the first heaviest of `b`
    followed by the rest. -/
theorem foldl_heavier (b : Destination) (l : List Destination) :
    ∃ d, l.foldl heavier (some b) = some d ∧ IsFirstHeaviest (b :: l) d := by
  induction l generalizing b with
  | nil => exact ⟨b, rfl, IsFirstHeaviest.singleton b⟩
  | cons x l ih =>
    by_cases hx : x.weight > b.weight
    · -- `x` takes over; what wins from it outweighs `x`, hence `b`
      obtain ⟨d, hd, hfirst⟩ := ih x
      have hxd := hfirst.weight_le x (List.mem_cons_self x l)
      exact ⟨d, by simp [heavier, hx, hd], hfirst.cons_of_lt (by omega)⟩
    · obtain ⟨d, hd, hfirst⟩ := ih b
      exact ⟨d, by simp [heavier, hx, hd], hfirst.insert_second (by omega)⟩

/-- The result for a non-empty list of eligible destinations. -/
theorem selectDestination_of_ne_nil {route : Route} {req : RouteRequest} {registry : ModelRegistry}
    (h : eligibleDestinations route req registry ≠ []) :
    ∃ d, selectDestination route req registry = .ok (some d) ∧
      IsFirstHeaviest (eligibleDestinations route req registry) d := by
  obtain ⟨b, l, hl⟩ := List.exists_cons_of_ne_nil h
  unfold selectDestination
  simp only [hl, List.length_cons, Nat.add_one_ne_zero, if_false]
  cases l with
  | nil => exact ⟨b, rfl, IsFirstHeaviest.singleton b⟩
  | cons x l =>
    obtain ⟨d, hd, hfirst⟩ := foldl_heavier b (x :: l)
    exact ⟨d, by simp [heavier, hd], hfirst⟩

/-- **`SelectDestination` returns the first heaviest eligible destination.** It never fails; it
    returns `nil` exactly when no destination of the route passes `evaluateConditions`, and
    otherwise the first destination, in route order, of the greatest weight among those that
    pass — so the one returned passes its conditions and no eligible destination is heavier. -/
theorem selectDestination_first_heaviest (route : Route) (req : RouteRequest)
    (registry : ModelRegistry) :
    (∃ o, selectDestination route req registry = .ok o) ∧
    (selectDestination route req registry = .ok none ↔
      ∀ d ∈ route.destinations, evaluateConditions d req registry = false) ∧
    (∀ d, selectDestination route req registry = .ok (some d) ↔
      IsFirstHeaviest (eligibleDestinations route req registry) d) ∧
    ∀ d, selectDestination route req registry = .ok (some d) →
      d ∈ route.destinations ∧ evaluateConditions d req registry = true ∧
      ∀ x ∈ route.destinations, evaluateConditions x req registry = true → x.weight ≤ d.weight := by
  have hnil : eligibleDestinations route req registry = [] ↔
      ∀ d ∈ route.destinations, evaluateConditions d req registry = false := by
    simp [eligibleDestinations, List.filter_eq_nil_iff]
  have hsome : ∀ d, selectDestination route req registry = .ok (some d) ↔
      IsFirstHeaviest (eligibleDestinations route req registry) d := by
    intro d
    by_cases he : eligibleDestinations route req registry = []
    · simp only [selectDestination, he, List.length_nil, if_true, Except.ok.injEq, reduceCtorEq,
        false_iff]
      exact fun h => absurd h.mem (by simp)
    · obtain ⟨d', hd', hfirst⟩ := selectDestination_of_ne_nil he
      rw [hd', Except.ok.injEq, Option.some.injEq]
      exact ⟨fun h => h ▸ hfirst, fun h => IsFirstHeaviest.unique hfirst h⟩
  refine ⟨?_, ?_, hsome, fun d hd => ?_⟩
  · by_cases he : eligibleDestinations route req registry = []
    · exact ⟨none, by simp [selectDestination, he]⟩
    · obtain ⟨d, hd, -⟩ := selectDestination_of_ne_nil he
      exact ⟨_, hd⟩
  · rw [← hnil]
    by_cases he : eligibleDestinations route req registry = []
    · simp [selectDestination, he]
    · obtain ⟨d, hd, -⟩ := selectDestination_of_ne_nil he
      simp [hd, he]
  · have hfirst := (hsome d).mp hd
    have hmem := hfirst.mem
    simp only [eligibleDestinations, List.mem_filter] at hmem
    exact ⟨hmem.1, hmem.2, fun x hx hex => hfirst.weight_le x (List.mem_filter.mpr ⟨hx, hex⟩)⟩

end Termite.Proxy
