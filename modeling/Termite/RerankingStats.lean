import Mathlib.Algebra.BigOperators.Group.Finset
import Termite.RerankingFlights

namespace Termite

open Termite.Go

/-!
# The counters behind `CachedReranker.Stats`

`CachedReranker.Rerank` counts, per wrapped model, its cache hits (`hits`), the flights it
starts, each running the reranker once (`misses`, added in the flight's function), and the
calls that return scores with `singleflight`'s `shared` flag set (`sfHits`); `Stats` reports the
three.  `singleflight.Group.Do` counts in each flight's `call` the callers that joined it
(`dups`), and returns `shared = dups > 0` to the leader and `shared = true` to every caller that
joined.

The counters follow the steps of `Termite.RerankingFlights` (`countedStep`) and change none of
them (`countedRun_fst`).

* `CountInv` — the counters' invariant over every reachable state (`CountInv.run`).
* `counters_account` — `misses` is the number of the model's flights, and `hits`, `misses` and
  the flights' `dups` count each call that has hit the cache or entered the group exactly once.
* `sfHits_eq_sharedOf` — once every call has returned, `sfHits` counts, for each successful
  flight that other calls joined, every caller that joined it and its leader as well.
-/

/-- Each model's `hits`, `misses` and `sfHits`, and each flight's `dups`. -/
structure RerankCounters where
  hits : String → Nat
  misses : String → Nat
  sfHits : String → Nat
  dups : Nat → Nat

/-- Every counter at zero. -/
def RerankCounters.init : RerankCounters := ⟨fun _ => 0, fun _ => 0, fun _ => 0, fun _ => 0⟩

/-- `Add(1)` on model `m`'s counter. -/
def bump (c : String → Nat) (m : String) : String → Nat := Function.update c m (c m + 1)

@[simp] theorem bump_apply (c : String → Nat) (m m' : String) :
    bump c m m' = c m' + if m = m' then 1 else 0 := by
  unfold bump
  split_ifs with h
  · subst h; exact Function.update_same _ _ _
  · exact Function.update_noteq (Ne.symm h) _ _

/-- The call has returned from the cache or entered its model's `sfGroup.Do`. -/
def CallState.entered : CallState → Bool
  | .start | .missed => false
  | .leading _ | .waiting _ | .done _ => true

/-- The call waits in `c.wg.Wait()` for flight `f`. -/
def CallState.waitsOn (f : Nat) : CallState → Bool
  | .waiting g => g == f
  | _ => false

namespace RerankState

section Counting

variable (rerankers : String → Reranker) (reqs : List RerankCall)

/-- What an enabled action adds to the counters, read off the state it starts from. -/
def countStep (s : RerankState) (k : RerankCounters) : RerankAction → RerankCounters
  | .lookup i =>
    match reqs[i]? with
    | some q =>
      if (s.cache.lookup (q.key rerankers)).isSome then { k with hits := bump k.hits q.model } else k
    | none => k
  | .join i =>
    match reqs[i]? with
    | some q =>
      match s.groups.lookup (q.model, q.key rerankers) with
      -- `c.dups++` on the flight in progress
      | some f => { k with dups := Function.update k.dups f (k.dups f + 1) }
      -- `new(call)`, and its function's `c.misses.Add(1)`
      | none =>
        { k with misses := bump k.misses q.model, dups := Function.update k.dups s.flights.length 0 }
    | none => k
  | .finish i =>
    match reqs[i]?, s.calls[i]? with
    | some q, some (.leading f) =>
      match q.answer rerankers with
      -- the leader's `shared` is `c.dups > 0`
      | .ok _ => if 0 < k.dups f then { k with sfHits := bump k.sfHits q.model } else k
      | .error _ => k
    | _, _ => k
  | .wake i =>
    match reqs[i]?, s.calls[i]? with
    | some q, some (.waiting f) =>
      match s.flights[f]? with
      -- a joined caller's `shared` is `true`
      | some ⟨_, some (.ok _)⟩ => { k with sfHits := bump k.sfHits q.model }
      | _ => k
    | _, _ => k
  | .expire _ => k

/-- A step of the system with its counters. -/
def countedStep (p : RerankState × RerankCounters) (a : RerankAction) :
    Option (RerankState × RerankCounters) :=
  (step rerankers reqs p.1 a).map fun s' => (s', countStep rerankers reqs p.1 p.2 a)

/-- The steps of a schedule with their counters. -/
def countedRun (p : RerankState × RerankCounters) (acts : List RerankAction) :
    Option (RerankState × RerankCounters) :=
  acts.foldlM (countedStep rerankers reqs) p

/-- A state and counters some schedule reaches from the start. -/
def CountedReachable (p : RerankState × RerankCounters) : Prop :=
  ∃ acts, countedRun rerankers reqs (init reqs, RerankCounters.init) acts = some p

/-- The counters change no step. -/
theorem countedRun_fst (p : RerankState × RerankCounters) (acts : List RerankAction) :
    (countedRun rerankers reqs p acts).map Prod.fst = run rerankers reqs p.1 acts := by
  induction acts generalizing p with
  | nil => rfl
  | cons a acts ih =>
    simp only [countedRun, run, List.foldlM_cons, countedStep] at ih ⊢
    cases step rerankers reqs p.1 a with
    | none => rfl
    | some s' => exact ih (s', _)

theorem CountedReachable.reachable {s : RerankState} {k : RerankCounters}
    (h : CountedReachable rerankers reqs (s, k)) : Reachable rerankers reqs s :=
  let ⟨acts, h⟩ := h
  ⟨acts, (countedRun_fst rerankers reqs (init reqs, .init) acts).symm.trans (by rw [h]; rfl)⟩

end Counting

/-! ### What the counters count -/

section Quantities

variable (reqs : List RerankCall) (m : String)

/-- The model of flight `f`: its leader's, whose wrapper's group runs it. -/
def flightModel (flights : List Flight) (f : Nat) : Option String :=
  (flights[f]?.bind fun fl => reqs[fl.leader]?).map RerankCall.model

/-- Flight `f` has returned scores. -/
def flightSucceeded (flights : List Flight) (f : Nat) : Bool :=
  match flights[f]? with
  | some ⟨_, some (.ok _)⟩ => true
  | _ => false

/-- The calls waiting for flight `f`. -/
def waitingOn (calls : List CallState) (f : Nat) : Nat := calls.countP (CallState.waitsOn f)

/-- Model `m`'s flights: the runs of its reranker. -/
def flightsOf (flights : List Flight) : Nat :=
  ∑ f ∈ Finset.range flights.length, if flightModel reqs flights f = some m then 1 else 0

/-- The callers that joined model `m`'s flights. -/
def joinedOf (flights : List Flight) (dups : Nat → Nat) : Nat :=
  ∑ f ∈ Finset.range flights.length, if flightModel reqs flights f = some m then dups f else 0

/-- Model `m`'s calls that have returned from the cache or entered the group. -/
def enteredOf (calls : List CallState) : Nat :=
  ∑ i ∈ Finset.range calls.length,
    if reqs[i]?.map RerankCall.model = some m ∧ calls[i]?.map CallState.entered = some true then 1
    else 0

/-- The callers still waiting for model `m`'s successful flights. -/
def okWaitingOf (flights : List Flight) (calls : List CallState) : Nat :=
  ∑ f ∈ Finset.range flights.length,
    if flightModel reqs flights f = some m ∧ flightSucceeded flights f then waitingOn calls f else 0

/-- What `sfHits` comes to for model `m` once its calls have returned: a successful flight that
    `d > 0` callers joined gives `d + 1`, its joiners and its leader. -/
def sharedOf (flights : List Flight) (dups : Nat → Nat) : Nat :=
  ∑ f ∈ Finset.range flights.length,
    if flightModel reqs flights f = some m ∧ flightSucceeded flights f ∧ 0 < dups f then dups f + 1
    else 0

end Quantities

/-- A sum whose term changes at one index only. -/
theorem sum_range_update {n f : Nat} {u v : Nat → Nat} (hf : f < n) (h : ∀ j, j ≠ f → v j = u j) :
    ∑ j ∈ Finset.range n, v j + u f = ∑ j ∈ Finset.range n, u j + v f := by
  have hmem := Finset.mem_range.2 hf
  have hrest : ∑ j ∈ (Finset.range n).erase f, v j = ∑ j ∈ (Finset.range n).erase f, u j :=
    Finset.sum_congr rfl fun j hj => h j (Finset.ne_of_mem_erase hj)
  rw [← Finset.add_sum_erase _ _ hmem, ← Finset.add_sum_erase _ u hmem, hrest]
  omega

/-- A sum with one more term, the others unchanged. -/
theorem sum_range_succ_congr {n : Nat} {u v : Nat → Nat} (h : ∀ j < n, v j = u j) :
    ∑ j ∈ Finset.range (n + 1), v j = ∑ j ∈ Finset.range n, u j + v n := by
  rw [Finset.sum_range_succ, Finset.sum_congr rfl fun j hj => h j (Finset.mem_range.1 hj)]

section Flights

variable {reqs : List RerankCall} {flights : List Flight} {f g : Nat}

theorem flightModel_append_lt (l : List Flight) (h : g < flights.length) :
    flightModel reqs (flights ++ l) g = flightModel reqs flights g := by
  simp only [flightModel, List.getElem?_append_left h]

theorem flightSucceeded_append_lt (l : List Flight) (h : g < flights.length) :
    flightSucceeded (flights ++ l) g = flightSucceeded flights g := by
  simp only [flightSucceeded, List.getElem?_append_left h]

/-- A new flight runs its leader's model and has not returned. -/
theorem flightModel_concat_length {i : Nat} {q : RerankCall} (hq : reqs[i]? = some q) :
    flightModel reqs (flights ++ [⟨i, none⟩]) flights.length = some q.model ∧
      flightSucceeded (flights ++ [⟨i, none⟩]) flights.length = false := by
  simp [flightModel, flightSucceeded, hq]

theorem flightSucceeded_of_pending {l : Nat} (hf : flights[f]? = some ⟨l, none⟩) :
    flightSucceeded flights f = false := by
  simp [flightSucceeded, hf]

/-- Completing a flight keeps its leader, and so its model. -/
theorem flightModel_set {i : Nat} {r r' : Option (Except String (List Score))}
    (hf : flights[f]? = some ⟨i, r⟩) :
    flightModel reqs (flights.set f ⟨i, r'⟩) = flightModel reqs flights := by
  funext g
  by_cases h : g = f
  · subst h; simp [flightModel, hf, List.getElem?_set_self (List.getElem?_eq_some_iff.mp hf).1]
  · simp only [flightModel, List.getElem?_set_ne (Ne.symm h)]

theorem flightSucceeded_set_ne (x : Flight) (h : g ≠ f) :
    flightSucceeded (flights.set f x) g = flightSucceeded flights g := by
  simp only [flightSucceeded, List.getElem?_set_ne (Ne.symm h)]

end Flights

section Calls

variable {reqs : List RerankCall} {calls : List CallState} {i : Nat} {c c' : CallState}

/-- A call's new state moves it between the waiters of flights. -/
theorem waitingOn_set (hc : calls[i]? = some c) (c' : CallState) (f : Nat) :
    waitingOn (calls.set i c') f + (if c.waitsOn f then 1 else 0) =
      waitingOn calls f + (if c'.waitsOn f then 1 else 0) := by
  obtain ⟨hi, rfl⟩ := List.getElem?_eq_some_iff.mp hc
  have := List.boole_getElem_le_countP (CallState.waitsOn f) calls i hi
  simp only [waitingOn, List.countP_set _ _ _ _ hi]
  omega

/-- A call's new state that waits for the same flights as the old leaves every flight's waiters. -/
theorem waitingOn_set_of_waitsOn (hc : calls[i]? = some c) (h : ∀ f, c'.waitsOn f = c.waitsOn f) :
    waitingOn (calls.set i c') = waitingOn calls := by
  funext f
  have := waitingOn_set hc c' f
  rw [h f] at this
  omega

/-- A call's new state moves it in or out of its model's entered calls. -/
theorem enteredOf_set (m : String) {q : RerankCall} (hq : reqs[i]? = some q) (hc : calls[i]? = some c)
    (c' : CallState) :
    enteredOf reqs m (calls.set i c') + (if q.model = m ∧ c.entered then 1 else 0) =
      enteredOf reqs m calls + (if q.model = m ∧ c'.entered then 1 else 0) := by
  have hi : i < calls.length := (List.getElem?_eq_some_iff.mp hc).1
  have := sum_range_update (u := fun j => if reqs[j]?.map RerankCall.model = some m ∧
      calls[j]?.map CallState.entered = some true then 1 else 0)
    (v := fun j => if reqs[j]?.map RerankCall.model = some m ∧
      (calls.set i c')[j]?.map CallState.entered = some true then 1 else 0) hi
    fun j hj => by simp only [List.getElem?_set_ne (Ne.symm hj)]
  simpa [enteredOf, hq, hc, List.getElem?_set_self hi] using this

end Calls

section Sums

variable {reqs : List RerankCall} (m : String) {flights : List Flight} {f : Nat}

/-- Waiters of flights that have not succeeded do not count. -/
theorem okWaitingOf_congr {calls calls' : List CallState}
    (h : ∀ g, flightSucceeded flights g → waitingOn calls' g = waitingOn calls g) :
    okWaitingOf reqs m flights calls' = okWaitingOf reqs m flights calls :=
  Finset.sum_congr rfl fun g _ => by
    split_ifs with hg
    · exact h g hg.2
    · rfl

/-- Duplicates of flights that have not succeeded do not count. -/
theorem sharedOf_congr {dups dups' : Nat → Nat} (h : ∀ g, flightSucceeded flights g → dups' g = dups g) :
    sharedOf reqs m flights dups' = sharedOf reqs m flights dups :=
  Finset.sum_congr rfl fun g _ => by
    by_cases hs : flightSucceeded flights g
    · rw [h g hs]
    · simp [hs]

/-- One more caller joins flight `f`. -/
theorem joinedOf_update {dups : Nat → Nat} (hf : f < flights.length) :
    joinedOf reqs m flights (Function.update dups f (dups f + 1)) =
      joinedOf reqs m flights dups + if flightModel reqs flights f = some m then 1 else 0 := by
  have := sum_range_update (u := fun j => if flightModel reqs flights j = some m then dups j else 0)
    (v := fun j => if flightModel reqs flights j = some m then Function.update dups f (dups f + 1) j else 0)
    hf fun j hj => by simp only [Function.update_noteq hj]
  simp only [Function.update_same] at this
  unfold joinedOf
  split_ifs at this ⊢ <;> omega

variable {i : Nat} {q : RerankCall}

/-- A new flight of model `q.model`. -/
theorem flightsOf_concat (hq : reqs[i]? = some q) :
    flightsOf reqs m (flights ++ [⟨i, none⟩]) = flightsOf reqs m flights + if q.model = m then 1 else 0 := by
  unfold flightsOf
  rw [List.length_append, List.length_singleton,
    sum_range_succ_congr fun j hj => by rw [flightModel_append_lt _ hj], (flightModel_concat_length hq).1]
  simp

/-- A new flight starts with no caller joined. -/
theorem joinedOf_concat {dups dups' : Nat → Nat}
    (h : ∀ j < flights.length, dups' j = dups j) (h0 : dups' flights.length = 0) :
    joinedOf reqs m (flights ++ [⟨i, none⟩]) dups' = joinedOf reqs m flights dups := by
  unfold joinedOf
  rw [List.length_append, List.length_singleton,
    sum_range_succ_congr fun j hj => by rw [flightModel_append_lt _ hj, h j hj], h0]
  simp

/-- A new flight has not succeeded. -/
theorem okWaitingOf_concat (hq : reqs[i]? = some q) {calls calls' : List CallState}
    (h : waitingOn calls' = waitingOn calls) :
    okWaitingOf reqs m (flights ++ [⟨i, none⟩]) calls' = okWaitingOf reqs m flights calls := by
  unfold okWaitingOf
  rw [List.length_append, List.length_singleton, sum_range_succ_congr fun j hj => by
    rw [flightModel_append_lt _ hj, flightSucceeded_append_lt _ hj, h], (flightModel_concat_length hq).2]
  simp

theorem sharedOf_concat (hq : reqs[i]? = some q) {dups dups' : Nat → Nat}
    (h : ∀ j < flights.length, dups' j = dups j) :
    sharedOf reqs m (flights ++ [⟨i, none⟩]) dups' = sharedOf reqs m flights dups := by
  unfold sharedOf
  rw [List.length_append, List.length_singleton, sum_range_succ_congr fun j hj => by
    rw [flightModel_append_lt _ hj, flightSucceeded_append_lt _ hj, h j hj], (flightModel_concat_length hq).2]
  simp

variable {r : Except String (List Score)}

theorem flightsOf_set {r₀ : Option (Except String (List Score))} (hf : flights[f]? = some ⟨i, r₀⟩) :
    flightsOf reqs m (flights.set f ⟨i, some r⟩) = flightsOf reqs m flights := by
  simp only [flightsOf, List.length_set, flightModel_set hf]

theorem joinedOf_set {r₀ : Option (Except String (List Score))} (hf : flights[f]? = some ⟨i, r₀⟩)
    (dups : Nat → Nat) : joinedOf reqs m (flights.set f ⟨i, some r⟩) dups = joinedOf reqs m flights dups := by
  simp only [joinedOf, List.length_set, flightModel_set hf]

/-- A completed flight's waiters count once it has succeeded. -/
theorem okWaitingOf_set (hf : flights[f]? = some ⟨i, none⟩) (calls : List CallState) :
    okWaitingOf reqs m (flights.set f ⟨i, some r⟩) calls = okWaitingOf reqs m flights calls +
      if flightModel reqs flights f = some m ∧ flightSucceeded (flights.set f ⟨i, some r⟩) f then
        waitingOn calls f else 0 := by
  have hlt : f < flights.length := (List.getElem?_eq_some_iff.mp hf).1
  have := sum_range_update
    (u := fun j => if flightModel reqs flights j = some m ∧ flightSucceeded flights j then waitingOn calls j else 0)
    (v := fun j => if flightModel reqs flights j = some m ∧ flightSucceeded (flights.set f ⟨i, some r⟩) j then
      waitingOn calls j else 0)
    hlt fun j hj => by simp only [flightSucceeded_set_ne _ hj]
  simp only [flightSucceeded_of_pending hf, Bool.false_eq_true, and_false, if_false, add_zero] at this
  simp only [okWaitingOf, List.length_set, flightModel_set hf]
  exact this

/-- A completed flight's duplicates count once it has succeeded. -/
theorem sharedOf_set (hf : flights[f]? = some ⟨i, none⟩) (dups : Nat → Nat) :
    sharedOf reqs m (flights.set f ⟨i, some r⟩) dups = sharedOf reqs m flights dups +
      if flightModel reqs flights f = some m ∧ flightSucceeded (flights.set f ⟨i, some r⟩) f ∧ 0 < dups f then
        dups f + 1 else 0 := by
  have hlt : f < flights.length := (List.getElem?_eq_some_iff.mp hf).1
  have := sum_range_update
    (u := fun j => if flightModel reqs flights j = some m ∧ flightSucceeded flights j ∧ 0 < dups j then
      dups j + 1 else 0)
    (v := fun j => if flightModel reqs flights j = some m ∧ flightSucceeded (flights.set f ⟨i, some r⟩) j ∧
      0 < dups j then dups j + 1 else 0)
    hlt fun j hj => by simp only [flightSucceeded_set_ne _ hj]
  simp only [flightSucceeded_of_pending hf, Bool.false_eq_true, false_and, and_false, if_false,
    add_zero] at this
  simp only [sharedOf, List.length_set, flightModel_set hf]
  exact this

/-- A waiter of flight `f` returns. -/
theorem okWaitingOf_wake {calls calls' : List CallState} (hf : f < flights.length)
    (h : ∀ g, g ≠ f → waitingOn calls' g = waitingOn calls g)
    (hw : waitingOn calls' f + 1 = waitingOn calls f) :
    okWaitingOf reqs m flights calls' +
        (if flightModel reqs flights f = some m ∧ flightSucceeded flights f then 1 else 0) =
      okWaitingOf reqs m flights calls := by
  have := sum_range_update
    (u := fun j => if flightModel reqs flights j = some m ∧ flightSucceeded flights j then
      waitingOn calls j else 0)
    (v := fun j => if flightModel reqs flights j = some m ∧ flightSucceeded flights j then
      waitingOn calls' j else 0)
    hf fun j hj => by simp only [h j hj]
  beta_reduce at this
  unfold okWaitingOf
  split_ifs at this ⊢ <;> omega

end Sums

/-! ### The counters' invariant -/

section Invariant

variable {rerankers : String → Reranker} {reqs : List RerankCall}

/-- No call waits for a flight that has not started. -/
theorem Inv.waitingOn_eq_zero {s : RerankState} (hI : Inv rerankers reqs s) {f : Nat}
    (hf : s.flights.length ≤ f) : waitingOn s.calls f = 0 := by
  refine List.countP_eq_zero.2 fun c hc hw => ?_
  obtain ⟨j, hj⟩ := List.mem_iff_getElem?.mp hc
  obtain ⟨q, hq⟩ := hI.exists_req hj
  cases c with
  | waiting g =>
    obtain rfl : g = f := by simpa [CallState.waitsOn] using hw
    obtain ⟨l, -, hl, -⟩ := hI.call_inv j q _ hq hj
    obtain ⟨fl, hfl, -⟩ := Option.map_eq_some'.mp hl
    exact absurd (List.getElem?_eq_some_iff.mp hfl).1 (by omega)
  | start | missed | leading _ | done _ => simp [CallState.waitsOn] at hw

variable (reqs) in
/-- The invariant of the counters. -/
structure CountInv (s : RerankState) (k : RerankCounters) : Prop where
  /-- `misses` counts the model's flights. -/
  misses_eq : ∀ m, k.misses m = flightsOf reqs m s.flights
  /-- `hits`, `misses` and the flights' `dups` count each entered call once. -/
  entered_eq : ∀ m, k.hits m + k.misses m + joinedOf reqs m s.flights k.dups = enteredOf reqs m s.calls
  /-- A flight in progress has every caller that joined it still waiting. -/
  waitingOn_pending : ∀ f l, s.flights[f]? = some ⟨l, none⟩ → waitingOn s.calls f = k.dups f
  /-- `sfHits` and the callers still waiting for successful flights make up what those share. -/
  sfHits_add : ∀ m, k.sfHits m + okWaitingOf reqs m s.flights s.calls = sharedOf reqs m s.flights k.dups

theorem CountInv.init : CountInv reqs (init reqs) RerankCounters.init where
  misses_eq _ := rfl
  entered_eq _ := (Finset.sum_eq_zero fun j _ => if_neg fun ⟨_, h⟩ => by
    simp only [RerankState.init, List.getElem?_map, Option.map_map] at h
    cases reqs[j]? <;> simp [CallState.entered] at h).symm
  waitingOn_pending _ _ h := by simp [RerankState.init] at h
  sfHits_add _ := rfl

variable {s : RerankState} {k k' : RerankCounters} {i : Nat} {q : RerankCall} {c c' : CallState}

/-- A call's new state, with no flight waited for before or after and the flights and their
    counters unchanged, keeps the invariant when `hits` follows the calls that entered. -/
theorem CountInv.setCall (hC : CountInv reqs s k) (hq : reqs[i]? = some q) (hc : s.calls[i]? = some c)
    (hw : ∀ f, c.waitsOn f = false ∧ c'.waitsOn f = false) (hmisses : k'.misses = k.misses)
    (hdups : k'.dups = k.dups) (hsf : k'.sfHits = k.sfHits)
    (hhits : ∀ m, k'.hits m + (if q.model = m ∧ c.entered then 1 else 0) =
      k.hits m + if q.model = m ∧ c'.entered then 1 else 0) :
    CountInv reqs { s with calls := s.calls.set i c' } k' := by
  have hwait : waitingOn (s.calls.set i c') = waitingOn s.calls :=
    waitingOn_set_of_waitsOn hc fun f => (hw f).2.trans (hw f).1.symm
  refine ⟨fun m => hmisses ▸ hC.misses_eq m, fun m => ?_, fun f l hf => ?_, fun m => ?_⟩
  · have := enteredOf_set m hq hc c'
    have := hC.entered_eq m
    have := hhits m
    dsimp only
    rw [hmisses, hdups]
    omega
  · dsimp only
    rw [hwait, hdups]
    exact hC.waitingOn_pending f l hf
  · dsimp only
    rw [okWaitingOf, hwait, hsf, hdups]
    exact hC.sfHits_add m

/-- A cache lookup: a hit counts in `hits`, a miss in nothing yet. -/
theorem CountInv.lookupStep (hC : CountInv reqs s k) (hq : reqs[i]? = some q)
    (hc : s.calls[i]? = some .start) :
    CountInv reqs (RerankState.lookupStep rerankers s i q) (countStep rerankers reqs s k (.lookup i)) := by
  cases hv : s.cache.lookup (q.key rerankers) with
  | none =>
    simp only [RerankState.lookupStep, countStep, hq, hv, Option.isSome_none]
    exact hC.setCall hq hc (fun _ => ⟨rfl, rfl⟩) rfl rfl rfl fun _ => rfl
  | some v =>
    simp only [RerankState.lookupStep, countStep, hq, hv, Option.isSome_some, if_true]
    exact hC.setCall hq hc (fun _ => ⟨rfl, rfl⟩) rfl rfl rfl fun m => by simp [CallState.entered]

/-- Joining the flight in progress for the key: its `dups` counts the caller, who waits. -/
theorem CountInv.joinWait (hI : Inv rerankers reqs s) (hC : CountInv reqs s k) (hq : reqs[i]? = some q)
    (hc : s.calls[i]? = some .missed) {f : Nat} (hg : s.groups.lookup (q.model, q.key rerankers) = some f) :
    CountInv reqs { s with calls := s.calls.set i (.waiting f) }
      { k with dups := Function.update k.dups f (k.dups f + 1) } := by
  obtain ⟨l, q', hfl, hql, hm, -⟩ := hI.group_pending _ _ f hg
  have hlt : f < s.flights.length := (List.getElem?_eq_some_iff.mp hfl).1
  have hmodel : flightModel reqs s.flights f = some q.model := by simp [flightModel, hfl, hql, hm]
  have hwait : ∀ g, waitingOn (s.calls.set i (.waiting f)) g = waitingOn s.calls g + if f = g then 1 else 0 :=
    fun g => by simpa [CallState.waitsOn] using waitingOn_set hc (.waiting f) g
  -- the flight has not succeeded, so what it shares is still to come
  have hne : ∀ g, flightSucceeded s.flights g → f ≠ g := by
    rintro g hg rfl
    exact Bool.false_ne_true ((flightSucceeded_of_pending hfl).symm.trans hg)
  refine ⟨hC.misses_eq, fun m => ?_, fun g l' hg' => ?_, fun m => ?_⟩
  · have he := enteredOf_set m hq hc (.waiting f)
    have := hC.entered_eq m
    simp only [CallState.entered, and_true, Bool.false_eq_true, and_false, if_false, add_zero] at he
    dsimp only
    simp only [joinedOf_update m hlt, hmodel, Option.some.injEq]
    omega
  · dsimp only
    rw [hwait, hC.waitingOn_pending g l' hg']
    by_cases h : f = g
    · subst h; simp
    · simp [h, Ne.symm h]
  · have hok : okWaitingOf reqs m s.flights (s.calls.set i (.waiting f)) = okWaitingOf reqs m s.flights s.calls :=
      okWaitingOf_congr m fun g hg => by rw [hwait, if_neg (hne g hg), add_zero]
    have hsh : sharedOf reqs m s.flights (Function.update k.dups f (k.dups f + 1)) =
        sharedOf reqs m s.flights k.dups :=
      sharedOf_congr m fun g hg => Function.update_noteq (Ne.symm (hne g hg)) _ _
    dsimp only
    rw [hok, hsh]
    exact hC.sfHits_add m

/-- Starting a flight: `misses` counts it, with no caller joined yet. -/
theorem CountInv.lead (hI : Inv rerankers reqs s) (hC : CountInv reqs s k) (hq : reqs[i]? = some q)
    (hc : s.calls[i]? = some .missed) (groups : List ((String × List UInt8) × Nat)) :
    CountInv reqs
      { s with groups, flights := s.flights ++ [⟨i, none⟩], calls := s.calls.set i (.leading s.flights.length) }
      { k with misses := bump k.misses q.model, dups := Function.update k.dups s.flights.length 0 } := by
  have hwait : waitingOn (s.calls.set i (.leading s.flights.length)) = waitingOn s.calls :=
    waitingOn_set_of_waitsOn hc fun _ => rfl
  have hdups : ∀ j < s.flights.length, Function.update k.dups s.flights.length 0 j = k.dups j :=
    fun j hj => Function.update_noteq (Nat.ne_of_lt hj) _ _
  refine ⟨fun m => ?_, fun m => ?_, fun g l hg => ?_, fun m => ?_⟩
  · dsimp only
    rw [flightsOf_concat m hq, bump_apply, hC.misses_eq m]
  · have he := enteredOf_set m hq hc (.leading s.flights.length)
    have := hC.entered_eq m
    simp only [CallState.entered, and_true, Bool.false_eq_true, and_false, if_false, add_zero] at he
    dsimp only
    rw [joinedOf_concat m hdups (Function.update_same _ _ _), bump_apply]
    omega
  · dsimp only at hg ⊢
    rw [hwait]
    rcases getElem?_concat_eq_some hg with hg | ⟨rfl, -⟩
    · rw [hC.waitingOn_pending g l hg, hdups g (List.getElem?_eq_some_iff.mp hg).1]
    · rw [Function.update_same, hI.waitingOn_eq_zero le_rfl]
  · dsimp only
    rw [okWaitingOf_concat m hq hwait, sharedOf_concat m hq hdups]
    exact hC.sfHits_add m

theorem CountInv.joinStep (hI : Inv rerankers reqs s) (hC : CountInv reqs s k) (hq : reqs[i]? = some q)
    (hc : s.calls[i]? = some .missed) :
    CountInv reqs (RerankState.joinStep rerankers s i q) (countStep rerankers reqs s k (.join i)) := by
  unfold RerankState.joinStep
  cases hg : s.groups.lookup (q.model, q.key rerankers) with
  | none =>
    simp only [countStep, hq, hg]
    exact hC.lead hI hq hc _
  | some f =>
    simp only [countStep, hq, hg]
    exact hC.joinWait hI hq hc hg

/-- Completing a flight: a successful leader counts in `sfHits` when other calls joined it. -/
theorem CountInv.finishStep (hI : Inv rerankers reqs s) (hC : CountInv reqs s k) (hq : reqs[i]? = some q)
    {f : Nat} (hc : s.calls[i]? = some (.leading f)) :
    CountInv reqs (RerankState.finishStep rerankers s i f q) (countStep rerankers reqs s k (.finish i)) := by
  obtain ⟨-, hf⟩ : _ ∧ s.flights[f]? = some ⟨i, none⟩ := hI.call_inv i q _ hq hc
  have hlt : f < s.flights.length := (List.getElem?_eq_some_iff.mp hf).1
  have hmodel : flightModel reqs s.flights f = some q.model := by simp [flightModel, hf, hq]
  have hwait : waitingOn (s.calls.set i (.done (q.answer rerankers))) = waitingOn s.calls :=
    waitingOn_set_of_waitsOn hc fun _ => rfl
  -- only `sfHits` changes, for a successful flight that other calls joined
  obtain ⟨hh, hmiss, hd, hsf⟩ : let k' := countStep rerankers reqs s k (.finish i)
      k'.hits = k.hits ∧ k'.misses = k.misses ∧ k'.dups = k.dups ∧ ∀ m, k'.sfHits m = k.sfHits m +
        if q.model = m ∧ flightSucceeded (s.flights.set f ⟨i, some (q.answer rerankers)⟩) f ∧ 0 < k.dups f
        then 1 else 0 := by
    simp only [countStep, hq, hc, flightSucceeded, List.getElem?_set_self hlt]
    cases q.answer rerankers
    · simp
    · by_cases hd : 0 < k.dups f <;> simp [hd]
  refine ⟨fun m => ?_, fun m => ?_, fun g l hg => ?_, fun m => ?_⟩
  · simp only [RerankState.finishStep, hmiss, hC.misses_eq m, flightsOf_set m hf]
  · have he := enteredOf_set m hq hc (.done (q.answer rerankers))
    simp only [CallState.entered] at he
    simp only [RerankState.finishStep, hh, hmiss, hd, joinedOf_set m hf, Nat.add_right_cancel he]
    exact hC.entered_eq m
  · simp only [RerankState.finishStep, List.getElem?_set] at hg ⊢
    split_ifs at hg with hfg
    · cases hg
    · rw [hwait, hd, hC.waitingOn_pending g l hg]
  · have hok : okWaitingOf reqs m (s.flights.set f ⟨i, some (q.answer rerankers)⟩)
        (s.calls.set i (.done (q.answer rerankers))) = _ := okWaitingOf_set m hf _
    have hcongr : okWaitingOf reqs m s.flights (s.calls.set i (.done (q.answer rerankers))) =
        okWaitingOf reqs m s.flights s.calls := okWaitingOf_congr m fun g _ => congrFun hwait g
    rw [hcongr, hwait, hC.waitingOn_pending f i hf] at hok
    have hsh : sharedOf reqs m (s.flights.set f ⟨i, some (q.answer rerankers)⟩) k.dups = _ :=
      sharedOf_set m hf _
    simp only [hmodel, Option.some.injEq] at hok hsh
    have := hC.sfHits_add m
    dsimp only [RerankState.finishStep]
    rw [hsf, hd, hok, hsh]
    rcases Nat.eq_zero_or_pos (k.dups f) with h0 | h0
    · simp only [h0, lt_self_iff_false, and_false, if_false, ite_self]
      omega
    · simp only [h0, and_true]
      split_ifs <;> omega

/-- A waiter takes its flight's result: scores count in `sfHits`. -/
theorem CountInv.wake (hI : Inv rerankers reqs s) (hC : CountInv reqs s k) {f l : Nat}
    {r : Except String (List Score)} (hc : s.calls[i]? = some (.waiting f))
    (hf : s.flights[f]? = some ⟨l, some r⟩) :
    CountInv reqs { s with calls := s.calls.set i (.done r) } (countStep rerankers reqs s k (.wake i)) := by
  obtain ⟨q, hq⟩ := hI.exists_req hc
  obtain ⟨l', q', hl', hql', hm, -⟩ := hI.call_inv i q _ hq hc
  rw [hf] at hl'
  cases hl'
  have hlt : f < s.flights.length := (List.getElem?_eq_some_iff.mp hf).1
  have hmodel : flightModel reqs s.flights f = some q.model := by simp [flightModel, hf, hql', hm]
  have hwait : ∀ g, waitingOn (s.calls.set i (.done r)) g + (if f = g then 1 else 0) = waitingOn s.calls g :=
    fun g => by simpa [CallState.waitsOn] using waitingOn_set hc (.done r) g
  -- only `sfHits` changes, for a successful flight
  obtain ⟨hh, hmiss, hd, hsf⟩ : let k' := countStep rerankers reqs s k (.wake i)
      k'.hits = k.hits ∧ k'.misses = k.misses ∧ k'.dups = k.dups ∧
        ∀ m, k'.sfHits m = k.sfHits m + if q.model = m ∧ flightSucceeded s.flights f then 1 else 0 := by
    simp only [countStep, hq, hc, hf, flightSucceeded]
    cases r <;> simp
  refine ⟨fun m => ?_, fun m => ?_, fun g l'' hg => ?_, fun m => ?_⟩
  · rw [hmiss]; exact hC.misses_eq m
  · have he := enteredOf_set m hq hc (.done r)
    simp only [CallState.entered] at he
    dsimp only
    rw [hh, hmiss, hd, Nat.add_right_cancel he]
    exact hC.entered_eq m
  · have hgf : f ≠ g := by rintro rfl; simp [hf] at hg
    have := hwait g
    rw [if_neg hgf, add_zero] at this
    dsimp only
    rw [this, hd]
    exact hC.waitingOn_pending g l'' hg
  · have hok : okWaitingOf reqs m s.flights (s.calls.set i (.done r)) + _ = _ :=
      okWaitingOf_wake m hlt (fun g hg => by simpa [Ne.symm hg] using hwait g) (by simpa using hwait f)
    have := hC.sfHits_add m
    simp only [hmodel, Option.some.injEq] at hok
    dsimp only
    rw [hsf, hd]
    omega

theorem CountInv.expire (hC : CountInv reqs s k) (key : List UInt8) :
    CountInv reqs { s with cache := mapDelete key s.cache } k :=
  ⟨hC.1, hC.2, hC.3, hC.4⟩

/-- **Step lemma.** -/
theorem CountInv.step (hI : Inv rerankers reqs s) (hC : CountInv reqs s k) {a : RerankAction}
    {s' : RerankState} (h : step rerankers reqs s a = some s') :
    CountInv reqs s' (countStep rerankers reqs s k a) := by
  cases a with
  | lookup i =>
    simp only [RerankState.step] at h
    split at h <;> cases h
    exact hC.lookupStep ‹_› ‹_›
  | join i =>
    simp only [RerankState.step] at h
    split at h <;> cases h
    exact hC.joinStep hI ‹_› ‹_›
  | finish i =>
    simp only [RerankState.step] at h
    split at h <;> cases h
    exact hC.finishStep hI ‹_› ‹_›
  | wake i =>
    simp only [RerankState.step] at h
    split at h
    · split at h <;> cases h
      exact hC.wake hI ‹_› ‹_›
    · cases h
  | expire key =>
    cases h
    exact hC.expire key

/-- **Run lemma.** -/
theorem CountInv.run (hI : Inv rerankers reqs s) (hC : CountInv reqs s k) {acts : List RerankAction}
    {p : RerankState × RerankCounters} (h : countedRun rerankers reqs (s, k) acts = some p) :
    CountInv reqs p.1 p.2 := by
  induction acts generalizing s k with
  | nil => cases h; exact hC
  | cons a acts ih =>
    simp only [countedRun, List.foldlM_cons, countedStep] at h
    cases hstep : RerankState.step rerankers reqs s a with
    | none => simp [hstep] at h
    | some s₁ =>
      simp only [hstep, Option.map_some', Option.some_bind] at h
      exact ih (hI.step hstep) (hC.step hI hstep) h

theorem CountedReachable.countInv (hs : CountedReachable rerankers reqs (s, k)) : CountInv reqs s k :=
  let ⟨_, h⟩ := hs
  CountInv.run Inv.init CountInv.init h

end Invariant

/-! ### What `Stats` reports -/

section Results

variable {rerankers : String → Reranker} {reqs : List RerankCall} {s : RerankState} {k : RerankCounters}

/-- **The counters account for every call.**  In every reachable state, whatever the
    interleaving of the calls and whatever expired meanwhile, a model's `misses` is the number of
    its flights, each of which runs its reranker once, and its `hits`, its `misses` and the `dups`
    of its flights add up to its calls that have returned from the cache or entered the group:
    each such call is counted exactly once. -/
theorem counters_account (hs : CountedReachable rerankers reqs (s, k)) (m : String) :
    k.misses m = flightsOf reqs m s.flights ∧
      k.hits m + k.misses m + joinedOf reqs m s.flights k.dups = enteredOf reqs m s.calls :=
  ⟨hs.countInv.misses_eq m, hs.countInv.entered_eq m⟩

/-- Once the second call has joined the first's flight and both have returned, the model's
    counters account for both. -/
theorem counters_account_sharedFlight :
    ∃ p, countedRun zeroRerankers sameRequestCalls (init sameRequestCalls, .init)
        (joinedSchedule ++ [.finish 0, .wake 1]) = some p ∧
      p.2.misses "m" = flightsOf sameRequestCalls "m" p.1.flights ∧
      p.2.hits "m" + p.2.misses "m" + joinedOf sameRequestCalls "m" p.1.flights p.2.dups =
        enteredOf sameRequestCalls "m" p.1.calls :=
  have h : countedRun zeroRerankers sameRequestCalls (init sameRequestCalls, .init)
      (joinedSchedule ++ [.finish 0, .wake 1]) = some _ := rfl
  ⟨_, h, counters_account ⟨_, h⟩ "m"⟩

/-- **`sfHits` counts the leaders of shared flights too.**  Once every call has returned, in any
    interleaving, a model's `sfHits` is the sum, over its successful flights that `d > 0` other
    calls joined, of `d + 1`: each caller that joined the flight, and its leader, whose `shared`
    is `dups > 0`.  The reranker runs the group saved are the `d` alone. -/
theorem sfHits_eq_sharedOf (hs : CountedReachable rerankers reqs (s, k))
    (hdone : ∀ c ∈ s.calls, ∃ r, c = .done r) (m : String) :
    k.sfHits m = sharedOf reqs m s.flights k.dups := by
  -- no call is left waiting
  have hidle : okWaitingOf reqs m s.flights s.calls = 0 :=
    Finset.sum_eq_zero fun f _ => by
      rw [waitingOn, List.countP_eq_zero.2 fun c hc => by
        obtain ⟨r, rfl⟩ := hdone c hc
        simp [CallState.waitsOn]]
      exact ite_self 0
  have := hs.countInv.sfHits_add m
  omega

/-- Two calls share one successful flight, and both have returned. -/
theorem sfHits_eq_sharedOf_sharedFlight :
    ∃ p, countedRun zeroRerankers sameRequestCalls (init sameRequestCalls, .init)
        (joinedSchedule ++ [.finish 0, .wake 1]) = some p ∧ (∀ c ∈ p.1.calls, ∃ r, c = .done r) ∧
      p.2.sfHits "m" = sharedOf sameRequestCalls "m" p.1.flights p.2.dups :=
  have ⟨p, h, hcalls⟩ : ∃ p, countedRun zeroRerankers sameRequestCalls (init sameRequestCalls, .init)
      (joinedSchedule ++ [.finish 0, .wake 1]) = some p ∧
        p.1.calls = [.done (.ok [0]), .done (.ok [0])] := ⟨_, rfl, rfl⟩
  have hdone : ∀ c ∈ p.1.calls, ∃ r, c = .done r := by simp [hcalls]
  ⟨p, h, hdone, sfHits_eq_sharedOf ⟨_, h⟩ hdone "m"⟩

/-- There one reranker run served two calls: no hit, one miss, and two `sfHits`, the joiner's
    and the leader's. -/
example : (countedRun zeroRerankers sameRequestCalls (init sameRequestCalls, .init)
    (joinedSchedule ++ [.finish 0, .wake 1])).map (fun p => (p.2.hits "m", p.2.misses "m", p.2.sfHits "m")) =
      some (0, 1, 2) := rfl

end Results

end RerankState

end Termite
