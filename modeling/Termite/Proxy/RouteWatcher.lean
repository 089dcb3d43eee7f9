import Termite.Proxy.ConvertRoute
import Termite.Proxy.RouteManager

namespace Termite.Proxy

open Termite.Go Termite.Kube

/-!
# The route watcher (`RouteWatcher`)

The watcher turns `TermiteRoute` notifications into route-store calls: an add or an update is
`AddRoute(convertRoute(obj))` — nothing when the conversion fails — and a delete is
`RemoveRoute(namespace/name)`.  `onRouteDelete` casts its argument to `*Unstructured`; a
`cache.DeletedFinalStateUnknown` tombstone fails the cast and the delete is dropped.

* `routeEventOps` / `runRouteEvents_eq_storeRun` — a run of notifications is the run of the
  store calls they make, so the store invariants of `Termite.Proxy.RouteManager` apply.
* `objectRoutes_refined` — with no tombstone and a `spec` in every version, the store holds
  exactly `convertRoute` of the latest version of every existing object.
* `runRouteEvents_tombstone_keeps_route` — a delete delivered as a tombstone leaves the route.
* `onRouteUpdate_resets_limiter` — an update installs a fresh rate limiter whatever the old
  state; `onRouteUpdate_refills_drained_bucket` shows a resync refilling a drained bucket.
-/

/-- `namespace/name`, the name `convertRoute` gives the route and `onRouteDelete` removes. -/
def routeKey (u : Unstructured) : String := u.getNamespace ++ "/" ++ u.getName

@[simp] theorem buildRoute_name (now : Time) (n : String) (spec : Object) :
    (buildRoute now n spec).name = n := rfl

section Handlers

variable (S : SortSlice)

/-- `onRouteAdd(obj)` at `now`. -/
def onRouteAdd (now : Time) (rm : RouteManager) (obj : Unstructured) : RouteManager :=
  match convertRoute now obj with
  | .error _ => rm
  | .ok route => rm.addRoute S route

/-- `onRouteUpdate(oldObj, newObj)` at `now`: the same as an add of the new version; the old one
    is not read. -/
def onRouteUpdate (now : Time) (rm : RouteManager) (_oldObj newObj : Unstructured) : RouteManager :=
  onRouteAdd S now rm newObj

/-- `onRouteDelete(obj)`. -/
def onRouteDelete (rm : RouteManager) : Deleted Unstructured → RouteManager
  | .object u => rm.removeRoute (routeKey u)
  | .tombstone _ _ => rm

/-- The handler a notification goes to, at `now`. -/
def handleRouteEvent (now : Time) (rm : RouteManager) : WatchEvent Unstructured → RouteManager
  | .add obj => onRouteAdd S now rm obj
  | .update oldObj newObj => onRouteUpdate S now rm oldObj newObj
  | .delete obj => onRouteDelete rm obj

/-- Timestamped notifications, handled one after the other. -/
def runRouteEvents (rm : RouteManager) (es : List (Time × WatchEvent Unstructured)) : RouteManager :=
  es.foldl (fun rm e => handleRouteEvent S e.1 rm e.2) rm

/-- The store calls a notification makes. -/
def routeEventOps (now : Time) : WatchEvent Unstructured → List StoreOp
  | .add obj | .update _ obj =>
    match convertRoute now obj with
    | .error _ => []
    | .ok route => [.addRoute route]
  | .delete (.object u) => [.removeRoute (routeKey u)]
  | .delete (.tombstone _ _) => []

theorem handleRouteEvent_eq (now : Time) (rm : RouteManager) (e : WatchEvent Unstructured) :
    handleRouteEvent S now rm e = (routeEventOps now e).foldl (StoreOp.apply S) rm := by
  rcases e with obj | ⟨_, obj⟩ | (u | ⟨_, _⟩)
  · simp only [handleRouteEvent, onRouteAdd, routeEventOps]; cases convertRoute now obj <;> rfl
  · simp only [handleRouteEvent, onRouteUpdate, onRouteAdd, routeEventOps]
    cases convertRoute now obj <;> rfl
  · rfl
  · rfl

/-- **A run of notifications is the run of its store calls.** -/
theorem runRouteEvents_eq_storeRun (es : List (Time × WatchEvent Unstructured)) :
    runRouteEvents S newRouteManager es = storeRun S (es.flatMap fun e => routeEventOps e.1 e.2) := by
  suffices ∀ rm, runRouteEvents S rm es =
      (es.flatMap fun e => routeEventOps e.1 e.2).foldl (StoreOp.apply S) rm from this _
  induction es with
  | nil => intro rm; rfl
  | cons e es ih =>
    intro rm
    rw [List.flatMap_cons, List.foldl_append, ← handleRouteEvent_eq, ← ih]
    rfl

/-! ### What the store should hold -/

/-- The `TermiteRoute` objects that exist, by `namespace/name`: the latest version, with the
    time it was delivered. -/
abbrev RouteObjects := String → Option (Time × Unstructured)

/-- The objects after a notification at `now`; a tombstone names its object by its key. -/
def RouteObjects.apply (c : RouteObjects) (now : Time) : WatchEvent Unstructured → RouteObjects
  | .add u | .update _ u => Function.update c (routeKey u) (some (now, u))
  | .delete (.object u) => Function.update c (routeKey u) none
  | .delete (.tombstone k _) => Function.update c k none

/-- The objects after a run, from none. -/
def routeObjects (es : List (Time × WatchEvent Unstructured)) : RouteObjects :=
  es.foldl (fun c e => c.apply e.1 e.2) fun _ => none

/-- The store the objects call for: `convertRoute` of each latest version, at its time. -/
def RouteObjects.routes (c : RouteObjects) : RouteMap :=
  fun k => (c k).bind fun p => (convertRoute p.1 p.2).toOption

/-- A notification the store follows exactly: a version with a `spec`, or a delete that is not
    a tombstone. -/
def CleanRouteEvent : WatchEvent Unstructured → Prop
  | .add u | .update _ u => (u.unstructuredContent.getObject "spec").isSome
  | .delete (.object _) => True
  | .delete (.tombstone _ _) => False

theorem convertRoute_of_spec {now : Time} {u : Unstructured} {spec : Object}
    (h : u.unstructuredContent.getObject "spec" = some spec) :
    convertRoute now u = .ok (buildRoute now (routeKey u) spec) := by
  simp only [convertRoute, h, routeKey]

/-- Converting a version stores it under its key. -/
theorem routes_update_some (c : RouteObjects) (now : Time) (u : Unstructured) {spec : Object}
    (h : u.unstructuredContent.getObject "spec" = some spec) :
    RouteObjects.routes (Function.update c (routeKey u) (some (now, u))) =
      Function.update c.routes (routeKey u) (some (buildRoute now (routeKey u) spec)) := by
  funext k
  by_cases hk : k = routeKey u
  · subst hk; simp [RouteObjects.routes, convertRoute_of_spec h, Except.toOption]
  · simp [RouteObjects.routes, Function.update_noteq hk]

theorem routes_update_none (c : RouteObjects) (k : String) :
    RouteObjects.routes (Function.update c k none) = Function.update c.routes k none := by
  funext k'
  by_cases hk : k' = k
  · subst hk; simp [RouteObjects.routes]
  · simp [RouteObjects.routes, Function.update_noteq hk]

/-- **Step lemma.** A clean notification moves the map of store calls as it moves the objects. -/
theorem routeEventOps_applyMap (c : RouteObjects) (now : Time) {e : WatchEvent Unstructured}
    (he : CleanRouteEvent e) :
    (routeEventOps now e).foldl StoreOp.applyMap c.routes = (c.apply now e).routes := by
  rcases e with u | ⟨_, u⟩ | (u | ⟨_, _⟩)
  case delete.tombstone => exact he.elim
  case delete.object => exact (routes_update_none c (routeKey u)).symm
  all_goals
    obtain ⟨spec, hs⟩ := Option.isSome_iff_exists.mp he
    simp only [routeEventOps, convertRoute_of_spec hs, RouteObjects.apply, routes_update_some c now u hs,
      List.foldl_cons, List.foldl_nil, StoreOp.applyMap, buildRoute_name]

/-- **Run lemma.** -/
theorem routeEventOps_run (es : List (Time × WatchEvent Unstructured)) (hes : ∀ e ∈ es, CleanRouteEvent e.2) :
    ∀ c : RouteObjects, (es.flatMap fun e => routeEventOps e.1 e.2).foldl StoreOp.applyMap c.routes =
      (es.foldl (fun c e => c.apply e.1 e.2) c).routes := by
  induction es with
  | nil => intro c; rfl
  | cons e es ih =>
    intro c
    rw [List.flatMap_cons, List.foldl_append, routeEventOps_applyMap c e.1 (hes e (List.mem_cons_self e es)),
      ih fun e' he' => hes e' (List.mem_cons_of_mem e he')]
    rfl

/-- **The watcher refines the objects** when every notification is clean: the store lists, in
    evaluation order, exactly `convertRoute` of the latest version of every existing object. -/
theorem objectRoutes_refined (es : List (Time × WatchEvent Unstructured))
    (hes : ∀ e ∈ es, CleanRouteEvent e.2) :
    SortedValues (routeObjects es).routes (runRouteEvents S newRouteManager es).routes := by
  have hmap : storeMap (es.flatMap fun e => routeEventOps e.1 e.2) = (routeObjects es).routes :=
    routeEventOps_run es hes fun _ => none
  rw [runRouteEvents_eq_storeRun, ← hmap]
  exact storeRun_sortedValues S _

end Handlers

/-! ### Rate-limiter state across updates -/

/-- Modelled from the spec: the Route Engine applying a route's rate limit to a request for
    `model` at `now` (the proxy's request path is not among the sources).  The limiter is held
    by pointer, so `Allow` updates the stored route; a route without a limiter admits. -/
def RouteManager.allow (rm : RouteManager) (name model : String) (now : Time) : Bool × RouteManager :=
  match (rm.routes.find? fun r => r.name == name).bind Route.rateLimiter with
  | some rl =>
    ((rl.allow model now).1,
      ⟨rm.routes.map fun r => if r.name = name then { r with rateLimiter := some (rl.allow model now).2 } else r⟩)
  | none => (true, rm)

/-- The limiter of the stored route `name`. -/
def RouteManager.limiter (rm : RouteManager) (name : String) : Option RateLimiter :=
  (rm.routes.find? fun r => r.name == name).bind Route.rateLimiter

theorem mem_addRoute (S : SortSlice) {rm : RouteManager} {route r : Route} :
    r ∈ (rm.addRoute S route).routes ↔ (r ∈ rm.routes ∧ r.name ≠ route.name) ∨ r = route := by
  rw [RouteManager.addRoute, (S.perm _).mem_iff, List.mem_append, List.mem_filter, List.mem_singleton,
    bne_iff_ne]

/-- `AddRoute` leaves exactly one route under the added route's name. -/
theorem countP_name_addRoute (S : SortSlice) (rm : RouteManager) (route : Route) :
    (rm.addRoute S route).routes.countP (fun r => r.name == route.name) = 1 := by
  rw [RouteManager.addRoute, (S.perm _).countP_eq, List.countP_append,
    List.countP_eq_zero.2 fun r hr => by simpa using (List.mem_filter.mp hr).2]
  simp

/-- **An update installs a fresh limiter.**  Whatever the store held, after an update whose new
    version has a `spec`, exactly one route is stored under its name, and it has the rate limiter `convertRoute`
    builds from the new `rateLimiting` block at the time of the update: a full bucket, refilled
    last at that time, with no per-model buckets. -/
theorem onRouteUpdate_resets_limiter (S : SortSlice) (now : Time) (rm : RouteManager)
    (oldObj newObj : Unstructured) {spec : Object}
    (hspec : newObj.unstructuredContent.getObject "spec" = some spec) :
    (∃ r ∈ (onRouteUpdate S now rm oldObj newObj).routes, r.name = routeKey newObj) ∧
    (onRouteUpdate S now rm oldObj newObj).routes.countP (fun r => r.name == routeKey newObj) = 1 ∧
    ∀ r ∈ (onRouteUpdate S now rm oldObj newObj).routes, r.name = routeKey newObj →
      r.rateLimiter = (spec.getObject "rateLimiting").bind (parseRateLimiter now) ∧
      ∀ l, r.rateLimiter = some l → l.tokens = l.burstSize ∧ l.lastUpdate = now ∧ l.modelLimits = [] := by
  have hupd : onRouteUpdate S now rm oldObj newObj = rm.addRoute S (buildRoute now (routeKey newObj) spec) := by
    simp only [onRouteUpdate, onRouteAdd, convertRoute_of_spec hspec]
  rw [hupd]
  refine ⟨⟨_, (mem_addRoute S).mpr (Or.inr rfl), rfl⟩,
    countP_name_addRoute S rm (buildRoute now (routeKey newObj) spec), fun r hr hname => ?_⟩
  rcases (mem_addRoute S).mp hr with ⟨_, hne⟩ | rfl
  · exact absurd hname hne
  · refine ⟨rfl, fun l hl => ?_⟩
    simp only [buildRoute, Option.bind_eq_some] at hl
    obtain ⟨rl, _, hl⟩ := hl
    unfold parseRateLimiter at hl
    split at hl
    · cases hl; exact ⟨rfl, rfl, rfl⟩
    · cases hl

/-- After `AddRoute(route)` the limiter stored under the route's name is the route's own. -/
theorem limiter_addRoute (S : SortSlice) (rm : RouteManager) (route : Route) :
    (rm.addRoute S route).limiter route.name = route.rateLimiter := by
  unfold RouteManager.limiter
  cases h : (rm.addRoute S route).routes.find? fun r => r.name == route.name with
  | none =>
    have := List.find?_eq_none.mp h route ((mem_addRoute S).mpr (Or.inr rfl))
    simp at this
  | some r =>
    have hname : r.name = route.name := by simpa using List.find?_some h
    rcases (mem_addRoute S).mp (List.mem_of_find?_eq_some h) with ⟨_, hne⟩ | rfl
    · exact absurd hname hne
    · rfl

/-- A request on a stored route with a limiter is answered by that limiter's `Allow`, and the
    limiter is updated in place. -/
theorem RouteManager.allow_of_limiter {rm : RouteManager} {name : String} {rl : RateLimiter}
    (h : rm.limiter name = some rl) (model : String) (now : Time) :
    (rm.allow name model now).1 = (rl.allow model now).1 ∧
      (rm.allow name model now).2.limiter name = some (rl.allow model now).2 := by
  unfold RouteManager.limiter at h
  obtain ⟨r, hr, hrl⟩ := Option.bind_eq_some.mp h
  have hname : r.name = name := by simpa using List.find?_some hr
  unfold RouteManager.allow RouteManager.limiter
  rw [h]
  refine ⟨rfl, ?_⟩
  have hp : ((fun r : Route => r.name == name) ∘ fun r =>
      if r.name = name then { r with rateLimiter := some (rl.allow model now).2 } else r) =
      fun r => r.name == name := by
    funext r; simp only [Function.comp]; split <;> simp_all
  simp [List.find?_map, hp, hr, hname]

/-- A route limited to one request per second, with the default burst of one. -/
def limitedRouteObject : Unstructured :=
  ⟨[("metadata", .object [("namespace", .string "default"), ("name", .string "limited")]),
    ("spec", .object [("rateLimiting", .object [("requestsPerSecond", .int64 1)])])]⟩

/-- Adding `limitedRouteObject` at time `0` stores a fresh one-token limiter under its name. -/
theorem limiter_onRouteAdd_limitedRouteObject (rm : RouteManager) :
    (onRouteAdd mergeSortSlice 0 rm limitedRouteObject).limiter "default/limited" =
      some (newRateLimiter 1 1 false 0) :=
  limiter_addRoute mergeSortSlice rm (buildRoute 0 "default/limited"
    [("rateLimiting", .object [("requestsPerSecond", .int64 1)])])

/-- The fresh limiter admits a first request at its creation instant, leaving no token. -/
theorem newRateLimiter_allow_one :
    (newRateLimiter 1 1 false 0).allow "m" 0 = (true, { newRateLimiter 1 1 false 0 with tokens := 0 }) := by
  simp [RateLimiter.allow, ModelLimit.refillTake, ModelLimit.refilled, newRateLimiter, Time.seconds]

theorem onRouteUpdate_resets_limiter_limitedRouteObject :
    limitedRouteObject.unstructuredContent.getObject "spec" =
        some [("rateLimiting", .object [("requestsPerSecond", .int64 1)])] ∧
      (∃ r ∈ (onRouteUpdate mergeSortSlice 0 newRouteManager limitedRouteObject limitedRouteObject).routes,
        r.name = routeKey limitedRouteObject) :=
  ⟨rfl, (onRouteUpdate_resets_limiter mergeSortSlice 0 newRouteManager limitedRouteObject
    limitedRouteObject rfl).1⟩

/-- The store after the route is added at time `0` and one request takes its only token. -/
def drainedStore : RouteManager :=
  ((onRouteAdd mergeSortSlice 0 newRouteManager limitedRouteObject).allow "default/limited" "m" 0).2

/-- A resync at the same instant — old and new versions identical — refills the drained bucket,
    and a second request is admitted within the same instant. -/
theorem onRouteUpdate_refills_drained_bucket :
    (drainedStore.limiter "default/limited").map RateLimiter.tokens = some 0 ∧
      ((onRouteUpdate mergeSortSlice 0 drainedStore limitedRouteObject limitedRouteObject).limiter
        "default/limited").map RateLimiter.tokens = some 1 ∧
      ((onRouteUpdate mergeSortSlice 0 drainedStore limitedRouteObject limitedRouteObject).allow
        "default/limited" "m" 0).1 = true := by
  obtain ⟨-, hdrained⟩ := RouteManager.allow_of_limiter (limiter_onRouteAdd_limitedRouteObject newRouteManager) "m" 0
  obtain ⟨hans, -⟩ := RouteManager.allow_of_limiter (limiter_onRouteAdd_limitedRouteObject drainedStore) "m" 0
  refine ⟨?_, ?_, ?_⟩
  · rw [drainedStore, hdrained, newRateLimiter_allow_one]; rfl
  · rw [onRouteUpdate, limiter_onRouteAdd_limitedRouteObject]; simp [newRateLimiter]
  · rw [onRouteUpdate, hans, newRateLimiter_allow_one]

/-! ### Tombstones -/

/-- The route object `default/r`, with an empty `spec`. -/
def sampleRouteObject : Unstructured :=
  ⟨[("metadata", .object [("namespace", .string "default"), ("name", .string "r")]), ("spec", .object [])]⟩

/-- The object is added, then its delete arrives as a tombstone. -/
def addThenTombstone : List (Time × WatchEvent Unstructured) :=
  [(0, .add sampleRouteObject), (0, .delete (.tombstone "default/r" sampleRouteObject))]

/-- After the tombstone the object no longer exists, but its route is still stored. -/
theorem runRouteEvents_tombstone_keeps_route :
    (runRouteEvents mergeSortSlice newRouteManager addThenTombstone).routes.map Route.name = ["default/r"] ∧
      (routeObjects addThenTombstone "default/r").isNone = true := by
  refine ⟨?_, by decide⟩
  simp [runRouteEvents, addThenTombstone, handleRouteEvent, onRouteAdd, onRouteDelete,
    convertRoute_of_spec (show sampleRouteObject.unstructuredContent.getObject "spec" = some [] from rfl),
    RouteManager.addRoute, newRouteManager, SortSlice.slice_singleton, routeKey]
  decide

/-- `default/r` is added, then the limited route. -/
def twoRouteAdds : List (Time × WatchEvent Unstructured) :=
  [(0, .add sampleRouteObject), (1, .add limitedRouteObject)]

/-- Both adds carry a `spec`, so the store lists the routes of both objects. -/
theorem objectRoutes_refined_twoRouteAdds :
    (∀ e ∈ twoRouteAdds, CleanRouteEvent e.2) ∧
      SortedValues (routeObjects twoRouteAdds).routes (runRouteEvents mergeSortSlice newRouteManager twoRouteAdds).routes :=
  have hclean : ∀ e ∈ twoRouteAdds, CleanRouteEvent e.2 := by
    simp only [twoRouteAdds, List.mem_cons, List.not_mem_nil, or_false, forall_eq_or_imp, forall_eq]
    exact ⟨rfl, rfl⟩
  ⟨hclean, objectRoutes_refined mergeSortSlice twoRouteAdds hclean⟩

end Termite.Proxy
