import Termite.Proxy.Route
import Mathlib.Data.List.Sort
import Mathlib.Data.String.Basic

namespace Termite.Proxy

/-!
# The route store (`RouteManager`)

`AddRoute` drops any route of the same name, appends the new one and re-sorts with
`sort.Slice` by priority (descending) and name (ascending); `RemoveRoute` filters by name;
`Match` returns the first route in that order whose match block accepts the request and
updates its statistics.

`sort.Slice` is not stable and its algorithm is not ours to model: `SortSlice` is any sorting
function that meets its documented contract (a permutation, sorted by `less`), and every
result below holds for all of them.  `mergeSortSlice` is one such function.

* `SortedValues M routes` — `routes` lists the values of the finite map `M` from name to route,
  strictly ordered by `routeLess`; `SortedValues.unique` says there is one such list.
* `storeRun` / `storeMap` — a sequence of `AddRoute`/`RemoveRoute` calls from
  `NewRouteManager()`, and the same calls on the map.
* `routes_eq_sorted_values` — the store after any such sequence is the map's values in order,
  with its consequences (distinct names, idempotent upsert, no-op removal, order independence).
* `match_selects_best` — `Match` returns the highest-priority, least-named matching route and
  touches only its statistics.
-/

/-! ### The evaluation order -/

/-- The `less` function `AddRoute` passes to `sort.Slice`: priority descending, then name
    ascending.  Go compares strings bytewise, which on UTF-8 is code-point order, Lean's `<`. -/
def routeLess (a b : Route) : Bool :=
  if a.priority ≠ b.priority then a.priority > b.priority else decide (a.name.data < b.name.data)

theorem routeLess_iff {a b : Route} :
    routeLess a b = true ↔ b.priority < a.priority ∨ (a.priority = b.priority ∧ a.name < b.name) := by
  unfold routeLess
  by_cases h : a.priority = b.priority
  · simp [h, String.lt_iff_toList_lt]
  · simp only [ne_eq, h, not_false_eq_true, if_true, decide_eq_true_eq, false_and, or_false]

theorem routeLess_irrefl (a : Route) : routeLess a a = false := by
  simp [routeLess]

theorem routeLess_asymm {a b : Route} (h : routeLess a b = true) : routeLess b a = false := by
  rw [routeLess_iff] at h
  by_contra hba
  rw [Bool.not_eq_false, routeLess_iff] at hba
  rcases h with h | ⟨h1, h2⟩ <;> rcases hba with h' | ⟨h1', h2'⟩
  · omega
  · omega
  · omega
  · exact lt_asymm h2 h2'

/-- Two routes of different names are ordered one way or the other. -/
theorem routeLess_total {a b : Route} (h : a.name ≠ b.name) :
    routeLess a b = true ∨ routeLess b a = true := by
  simp only [routeLess_iff]
  rcases lt_trichotomy a.priority b.priority with hp | hp | hp
  · right; left; exact hp
  · rcases lt_or_gt_of_ne h with hn | hn
    · exact Or.inl (Or.inr ⟨hp, hn⟩)
    · exact Or.inr (Or.inr ⟨hp.symm, hn⟩)
  · left; left; exact hp

/-- `routeLess` is a strict weak order: if `c` comes before `a`, any `b` comes after `c` or
    before `a`. -/
theorem routeLess_split {a b c : Route} (hca : routeLess c a = true) :
    routeLess c b = true ∨ routeLess b a = true := by
  simp only [routeLess_iff] at *
  rcases hca with hp | ⟨hp, hn⟩
  · by_cases h : b.priority < c.priority
    · exact Or.inl (Or.inl h)
    · exact Or.inr (Or.inl (by omega))
  · rcases lt_trichotomy b.priority c.priority with h | h | h
    · exact Or.inl (Or.inl h)
    · rcases lt_or_le c.name b.name with h' | h'
      · exact Or.inl (Or.inr ⟨h.symm, h'⟩)
      · exact Or.inr (Or.inr ⟨by omega, lt_of_le_of_lt h' hn⟩)
    · exact Or.inr (Or.inl (by omega))

/-- Hence its complement is transitive. -/
theorem routeLess_neg_trans {a b c : Route} (hab : routeLess b a = false) (hbc : routeLess c b = false) :
    routeLess c a = false := by
  by_contra hca
  rcases routeLess_split (b := b) (Bool.not_eq_false _ ▸ hca) with h | h <;> simp_all

/-! ### `sort.Slice` -/

/-- A function meeting the contract of `sort.Slice(x, less)` for `less = routeLess`: the
    result is a permutation of the input, and no element is `less` than one before it. -/
structure SortSlice where
  slice : List Route → List Route
  perm : ∀ l, (slice l).Perm l
  sorted : ∀ l, (slice l).Pairwise fun a b => routeLess b a = false

/-- A `SortSlice`: merge sort by the complement of `routeLess`. -/
def mergeSortSlice : SortSlice where
  slice l := l.mergeSort fun a b => !routeLess b a
  perm l := List.mergeSort_perm l _
  sorted l := by
    have : (l.mergeSort fun a b => !routeLess b a).Pairwise fun a b => !routeLess b a :=
      List.sorted_mergeSort (fun a b c hab hbc => by
        simp only [Bool.not_eq_true'] at *
        exact routeLess_neg_trans hab hbc)
      (fun a b => by
        rcases Bool.eq_false_or_eq_true (routeLess b a) with h | h
        · simp [routeLess_asymm h]
        · simp [h]) l
    simpa using this

/-- A one-route list is already sorted. -/
theorem SortSlice.slice_singleton (S : SortSlice) (a : Route) : S.slice [a] = [a] :=
  List.perm_singleton.mp (S.perm [a])

/-! ### The store and its operations -/

/-- `RouteManager`; `routes` is kept in evaluation order.  The lock is left out: calls are
    sequential here. -/
structure RouteManager where
  routes : List Route
  deriving DecidableEq

/-- `NewRouteManager()`. -/
def newRouteManager : RouteManager := ⟨[]⟩

namespace RouteManager

/-- `AddRoute(route)`: drop the route of the same name, append, re-sort. -/
def addRoute (S : SortSlice) (rm : RouteManager) (route : Route) : RouteManager :=
  ⟨S.slice (rm.routes.filter (fun r => r.name != route.name) ++ [route])⟩

/-- `RemoveRoute(name)`. -/
def removeRoute (rm : RouteManager) (name : String) : RouteManager :=
  ⟨rm.routes.filter (fun r => r.name != name)⟩

end RouteManager

/-- The abstract store: a map from route name to route. -/
abbrev RouteMap := String → Option Route

/-- `routes` lists exactly the values of `M`, strictly increasing in `routeLess`. -/
def SortedValues (M : RouteMap) (routes : List Route) : Prop :=
  routes.Pairwise (fun a b => routeLess a b = true) ∧ ∀ r, r ∈ routes ↔ M r.name = some r

theorem SortedValues.nodup {M : RouteMap} {l : List Route} (h : SortedValues M l) : l.Nodup :=
  h.1.imp fun hab heq => by subst heq; simp [routeLess_irrefl] at hab

/-- The routes of a `SortedValues` list have pairwise distinct names. -/
theorem SortedValues.names_nodup {M : RouteMap} {l : List Route} (h : SortedValues M l) :
    (l.map Route.name).Nodup :=
  h.nodup.map_on fun x hx y hy hxy => by
    have hx' := (h.2 x).mp hx
    have hy' := (h.2 y).mp hy
    rw [hxy, hy'] at hx'
    exact (Option.some.inj hx').symm

/-- **There is one ordered list of a map's values.** -/
theorem SortedValues.unique {M : RouteMap} {l l' : List Route} (h : SortedValues M l)
    (h' : SortedValues M l') : l = l' := by
  have hperm : l.Perm l' :=
    (List.perm_ext_iff_of_nodup h.nodup h'.nodup).mpr fun r => (h.2 r).trans (h'.2 r).symm
  haveI : IsAntisymm Route fun a b => routeLess a b = true :=
    ⟨fun a b hab hba => by simp [routeLess_asymm hab] at hba⟩
  exact List.eq_of_perm_of_sorted hperm h.1 h'.1

/-- `sort.Slice` of a list with distinct names is strictly sorted. -/
theorem SortSlice.strict (S : SortSlice) {l : List Route} (hl : (l.map Route.name).Nodup) :
    (S.slice l).Pairwise fun a b => routeLess a b = true := by
  have hn : ((S.slice l).map Route.name).Nodup := ((S.perm l).map Route.name).nodup_iff.mpr hl
  refine ((S.sorted l).and (List.pairwise_map.mp hn)).imp ?_
  rintro a b ⟨hba, hne⟩
  rcases routeLess_total hne with h | h
  · exact h
  · rw [h] at hba; cases hba

theorem addRoute_sortedValues (S : SortSlice) {rm : RouteManager} {M : RouteMap} (route : Route)
    (h : SortedValues M rm.routes) :
    SortedValues (Function.update M route.name (some route)) (rm.addRoute S route).routes := by
  have hnames : ((rm.routes.filter (fun r => r.name != route.name) ++ [route]).map Route.name).Nodup := by
    rw [List.map_append, List.nodup_append]
    refine ⟨(h.names_nodup.sublist ((List.filter_sublist _).map _)), by simp, ?_⟩
    simp
  refine ⟨S.strict hnames, fun r => ?_⟩
  rw [RouteManager.addRoute, (S.perm _).mem_iff, List.mem_append, List.mem_filter, h.2,
    List.mem_singleton]
  by_cases hr : r.name = route.name
  · rw [hr, Function.update_same]; simp [eq_comm]
  · rw [Function.update_noteq hr]
    simp only [bne_iff_ne, ne_eq, hr, not_false_eq_true, and_true]
    exact ⟨fun e => e.elim id fun e => absurd (congrArg Route.name e) hr, Or.inl⟩

theorem removeRoute_sortedValues {rm : RouteManager} {M : RouteMap} (name : String)
    (h : SortedValues M rm.routes) :
    SortedValues (Function.update M name none) (rm.removeRoute name).routes := by
  refine ⟨h.1.filter _, fun r => ?_⟩
  rw [RouteManager.removeRoute, List.mem_filter, h.2]
  by_cases hr : r.name = name
  · rw [hr]; simp
  · simp [Function.update_noteq hr, hr]

/-- An `AddRoute` or `RemoveRoute` call. -/
inductive StoreOp where
  | addRoute (route : Route)
  | removeRoute (name : String)

/-- The call on the store. -/
def StoreOp.apply (S : SortSlice) (rm : RouteManager) : StoreOp → RouteManager
  | .addRoute r => rm.addRoute S r
  | .removeRoute n => rm.removeRoute n

/-- The same call on the map: `M[r.Name] := r`, or delete key `n`. -/
def StoreOp.applyMap (M : RouteMap) : StoreOp → RouteMap
  | .addRoute r => Function.update M r.name (some r)
  | .removeRoute n => Function.update M n none

/-- The store after a sequence of calls from `NewRouteManager()`. -/
def storeRun (S : SortSlice) (ops : List StoreOp) : RouteManager :=
  ops.foldl (StoreOp.apply S) newRouteManager

/-- The map after the same calls from the empty map. -/
def storeMap (ops : List StoreOp) : RouteMap :=
  ops.foldl StoreOp.applyMap fun _ => none

theorem StoreOp.apply_sortedValues (S : SortSlice) (op : StoreOp) {rm : RouteManager} {M : RouteMap}
    (h : SortedValues M rm.routes) : SortedValues (op.applyMap M) (op.apply S rm).routes := by
  cases op with
  | addRoute r => exact addRoute_sortedValues S r h
  | removeRoute n => exact removeRoute_sortedValues n h

/-- **Run lemma.** Every sequence of calls keeps the store the ordered values of the map. -/
theorem foldl_sortedValues (S : SortSlice) (ops : List StoreOp) {rm : RouteManager} {M : RouteMap}
    (h : SortedValues M rm.routes) :
    SortedValues (ops.foldl StoreOp.applyMap M) (ops.foldl (StoreOp.apply S) rm).routes := by
  induction ops generalizing rm M with
  | nil => exact h
  | cons op ops ih => exact ih (op.apply_sortedValues S h)

theorem storeRun_sortedValues (S : SortSlice) (ops : List StoreOp) :
    SortedValues (storeMap ops) (storeRun S ops).routes :=
  foldl_sortedValues S ops ⟨List.Pairwise.nil, fun _ => by simp [newRouteManager]⟩

/-- The name a call is about. -/
def StoreOp.name : StoreOp → String
  | .addRoute r => r.name
  | .removeRoute n => n

/-- Two calls on different names commute on the map. -/
theorem storeMap_swap (ops₁ ops₂ : List StoreOp) {a b : StoreOp} (hab : a.name ≠ b.name) :
    storeMap (ops₁ ++ a :: b :: ops₂) = storeMap (ops₁ ++ b :: a :: ops₂) := by
  have hc : ∀ M : RouteMap,
      StoreOp.applyMap (StoreOp.applyMap M a) b = StoreOp.applyMap (StoreOp.applyMap M b) a := by
    intro M
    cases a <;> cases b <;> exact Function.update_comm hab _ _ M
  simp only [storeMap, List.foldl_append, List.foldl_cons, hc]

/-- **The store is the map's values in evaluation order.** After any sequence of `AddRoute`
    and `RemoveRoute` calls from `NewRouteManager()`, `routes` is the one list of the values of
    the map those calls build, ordered by priority descending then name ascending.  Hence the
    names are distinct, a second `AddRoute(r)` changes nothing, removing an absent name changes
    nothing, and the store depends only on the final map: neither on the order of the calls
    that build it nor on the sorting algorithm. -/
theorem routes_eq_sorted_values (S : SortSlice) (ops : List StoreOp) :
    SortedValues (storeMap ops) (storeRun S ops).routes ∧
    (∀ l, SortedValues (storeMap ops) l → l = (storeRun S ops).routes) ∧
    ((storeRun S ops).routes.map Route.name).Nodup ∧
    (∀ r, ((storeRun S ops).addRoute S r).addRoute S r = (storeRun S ops).addRoute S r) ∧
    (∀ n, n ∉ (storeRun S ops).routes.map Route.name →
      (storeRun S ops).removeRoute n = storeRun S ops) ∧
    (∀ (S' : SortSlice) (ops' : List StoreOp), storeMap ops' = storeMap ops →
      storeRun S' ops' = storeRun S ops) ∧
    (∀ ops₁ ops₂ (a b : StoreOp), a.name ≠ b.name → ops = ops₁ ++ a :: b :: ops₂ →
      storeRun S (ops₁ ++ b :: a :: ops₂) = storeRun S ops) := by
  have h := storeRun_sortedValues S ops
  have hmap : ∀ (S' : SortSlice) (ops' : List StoreOp), storeMap ops' = storeMap ops →
      storeRun S' ops' = storeRun S ops := fun S' ops' hm => by
    have h' := storeRun_sortedValues S' ops'
    rw [hm] at h'
    exact congrArg RouteManager.mk (h'.unique h)
  refine ⟨h, fun l hl => hl.unique h, h.names_nodup, fun r => ?_, fun n hn => ?_, hmap,
    fun ops₁ ops₂ a b hab hops => hmap S _ (by rw [hops]; exact (storeMap_swap ops₁ ops₂ hab).symm)⟩
  · have h1 := addRoute_sortedValues S r h
    have h2 := addRoute_sortedValues S r h1
    rw [Function.update_idem] at h2
    exact congrArg RouteManager.mk (h2.unique h1)
  · have hf : (storeRun S ops).routes.filter (fun r => r.name != n) = (storeRun S ops).routes :=
      List.filter_eq_self.mpr fun r hr => by
        simp only [bne_iff_ne, ne_eq]; rintro rfl; exact hn (List.mem_map_of_mem _ hr)
    simp only [RouteManager.removeRoute, hf]

/-! ### `Match` -/

/-- The loop of `Match` (lines 292–300): the first route in order whose match block accepts
    the request has its statistics updated and is returned. -/
def matchFirst (req : RouteRequest) : List Route → Option Route × List Route
  | [] => (none, [])
  | r :: rs =>
    if matchRoute r req then (some (r.recordMatch req.timestamp), r.recordMatch req.timestamp :: rs)
    else ((matchFirst req rs).1, r :: (matchFirst req rs).2)

/-- `Match(req)`: the route returned (`nil` is `none`) and the store after the call. -/
def RouteManager.match' (rm : RouteManager) (req : RouteRequest) : Option Route × RouteManager :=
  ((matchFirst req rm.routes).1, ⟨(matchFirst req rm.routes).2⟩)

/-- The route `Match` must select: it is live, accepts the request, and every accepting route
    has a lower priority, or the same priority and a name no smaller. -/
def IsBestMatch (routes : List Route) (req : RouteRequest) (r : Route) : Prop :=
  r ∈ routes ∧ matchRoute r req = true ∧
    ∀ x ∈ routes, matchRoute x req = true →
      x.priority < r.priority ∨ (x.priority = r.priority ∧ r.name ≤ x.name)

variable (req : RouteRequest)

theorem matchFirst_none_iff (l : List Route) :
    (matchFirst req l).1 = none ↔ ∀ r ∈ l, matchRoute r req = false := by
  induction l with
  | nil => simp [matchFirst]
  | cons r rs ih => by_cases h : matchRoute r req <;> simp [matchFirst, h, ih]

theorem matchFirst_snd_of_none {l : List Route} (h : (matchFirst req l).1 = none) :
    (matchFirst req l).2 = l := by
  induction l with
  | nil => rfl
  | cons r rs ih =>
    by_cases hr : matchRoute r req
    · simp [matchFirst, hr] at h
    · simp only [matchFirst, hr] at h ⊢; simp [ih h]

/-- `Match` stops at a matching route with only non-matching routes before it, and updates
    exactly that one. -/
theorem matchFirst_some {l : List Route} {r' : Route} (h : (matchFirst req l).1 = some r') :
    ∃ l₁ r l₂, l = l₁ ++ r :: l₂ ∧ (∀ x ∈ l₁, matchRoute x req = false) ∧
      matchRoute r req = true ∧ r' = r.recordMatch req.timestamp ∧
      (matchFirst req l).2 = l₁ ++ r.recordMatch req.timestamp :: l₂ := by
  induction l with
  | nil => simp [matchFirst] at h
  | cons x rs ih =>
    by_cases hx : matchRoute x req
    · simp only [matchFirst, hx, if_true, Option.some.injEq] at h ⊢
      exact ⟨[], x, rs, rfl, by simp, hx, h.symm, rfl⟩
    · simp only [matchFirst, hx, Bool.false_eq_true, if_false] at h ⊢
      obtain ⟨l₁, r, l₂, rfl, hl₁, hr, hr', h2⟩ := ih h
      refine ⟨x :: l₁, r, l₂, rfl, ?_, hr, hr', by rw [h2]; rfl⟩
      intro y hy
      rcases List.mem_cons.mp hy with rfl | hy
      · simpa using hx
      · exact hl₁ y hy

/-- In a store ordered by `routeLess`, the first accepting route is the best match. -/
theorem isBestMatch_of_first {l₁ l₂ : List Route} {r : Route}
    (hs : (l₁ ++ r :: l₂).Pairwise fun a b => routeLess a b = true)
    (hl₁ : ∀ x ∈ l₁, matchRoute x req = false) (hr : matchRoute r req = true) :
    IsBestMatch (l₁ ++ r :: l₂) req r := by
  refine ⟨by simp, hr, fun x hx hmx => ?_⟩
  rcases List.mem_append.mp hx with hx | hx
  · rw [hl₁ x hx] at hmx; cases hmx
  · rcases List.mem_cons.mp hx with rfl | hx
    · exact Or.inr ⟨rfl, le_refl _⟩
    · have hrx := (List.pairwise_cons.mp (List.pairwise_append.mp hs).2.1).1 x hx
      rcases routeLess_iff.mp hrx with h | ⟨h1, h2⟩
      · exact Or.inl h
      · exact Or.inr ⟨h1.symm, h2.le⟩

/-- With distinct names there is one best match. -/
theorem IsBestMatch.unique {routes : List Route} (hn : (routes.map Route.name).Nodup) {r x : Route}
    (hr : IsBestMatch routes req r) (hx : IsBestMatch routes req x) : x = r := by
  have h1 := hr.2.2 x hx.1 hx.2.1
  have h2 := hx.2.2 r hr.1 hr.2.1
  have hname : x.name = r.name := by
    rcases h1 with h1 | ⟨_, h1⟩ <;> rcases h2 with h2 | ⟨_, h2⟩
    · omega
    · omega
    · omega
    · exact le_antisymm h2 h1
  exact List.inj_on_of_nodup_map hn hx.1 hr.1 hname

/-- **`Match` selects the best route and updates only it.** On every store reachable by
    `AddRoute`/`RemoveRoute`, `Match(q)` returns `nil` exactly when no live route accepts `q`,
    and then changes nothing.  Otherwise it returns the one best match `r` (highest priority,
    then least name) with `MatchedRequests` incremented by one and `LastMatchTime` set to
    `q.Timestamp`, and the store changes in that route alone. -/
theorem match_selects_best (S : SortSlice) (ops : List StoreOp) :
    (((storeRun S ops).match' req).1 = none ↔
      ∀ r ∈ (storeRun S ops).routes, matchRoute r req = false) ∧
    (((storeRun S ops).match' req).1 = none → ((storeRun S ops).match' req).2 = storeRun S ops) ∧
    ∀ r', ((storeRun S ops).match' req).1 = some r' →
      ∃ r, IsBestMatch (storeRun S ops).routes req r ∧
        (∀ x, IsBestMatch (storeRun S ops).routes req x → x = r) ∧
        r' = { r with matchedRequests := r.matchedRequests + 1, lastMatchTime := req.timestamp } ∧
        ((storeRun S ops).match' req).2.routes =
          (storeRun S ops).routes.map fun x => if x.name = r.name then r' else x := by
  have hs := storeRun_sortedValues S ops
  have hn := hs.names_nodup
  refine ⟨matchFirst_none_iff req _, fun h => ?_, fun r' h => ?_⟩
  · simp only [RouteManager.match'] at h ⊢
    rw [matchFirst_snd_of_none req h]
  · obtain ⟨l₁, r, l₂, hl, hl₁, hr, rfl, h2⟩ := matchFirst_some req h
    have hbest : IsBestMatch (storeRun S ops).routes req r := by
      rw [hl] at hs ⊢; exact isBestMatch_of_first req hs.1 hl₁ hr
    refine ⟨r, hbest, fun x hx => hbest.unique req hn hx, rfl, ?_⟩
    show (matchFirst req (storeRun S ops).routes).2 = _
    rw [h2, hl]
    rw [hl] at hn
    simp only [List.map_append, List.map_cons, List.nodup_append, List.nodup_cons, List.mem_map,
      List.disjoint_cons_right] at hn
    have hne : ∀ x ∈ l₁ ++ l₂, x.name ≠ r.name := by
      intro x hx heq
      rcases List.mem_append.mp hx with hx | hx
      · exact hn.2.2.1 ⟨x, hx, heq⟩
      · exact hn.2.1.1 ⟨x, hx, heq⟩
    have hid : ∀ l : List Route, (∀ x ∈ l, x ∈ l₁ ++ l₂) →
        l.map (fun x => if x.name = r.name then r.recordMatch req.timestamp else x) = l :=
      fun l hl => (List.map_congr_left fun x hx => if_neg (hne x (hl x hx))).trans (List.map_id l)
    rw [List.map_append, List.map_cons, if_pos rfl, hid l₁ (fun x hx => by simp [hx]),
      hid l₂ (fun x hx => by simp [hx])]

end Termite.Proxy
