import Mathlib.Algebra.Order.Ring.Nat
import Termite.RerankingCache

namespace Termite

open Termite.Go

/-!
# Concurrent `Rerank` calls and their `singleflight` groups

`CachedReranker.Rerank` checks the shared cache and, on a miss, enters its wrapper's
`singleflight.Group`: the first caller for a key starts a flight and runs the reranker, and
every caller for the same key that arrives before the flight returns waits for it and gets the
same result.  The flight stores the scores in the cache on success and then leaves the group.
The cache check and the group are two steps, so calls interleave between them.

Here every caller takes its steps one at a time, in any interleaving with the others, and the
cache may forget any entry at any moment, as TTL expiry does.  A flight runs the reranker and
completes in one step, the leader's `finish`: the cache write, the end of the flight and its
removal from the group happen in `doCall` before any waiter reads the result.  Each model is
wrapped once, so there is one group per model.

* `Inv` — the invariant of every reachable state (`Inv.init`, `Inv.step`, `Inv.run`).
* `done_eq_answer` — when no two different requests share a key, every call that returns gets
  exactly what its own reranker answers, in every interleaving and whatever expires when.
* `leading_unique` — at any moment at most one call per model and key runs the reranker.
* `reachable_completes` — from every reachable state, the calls can all return: no call waits
  on a flight that nobody will complete.
* `run_serial_eq_rerankAll` — calls run one after the other return what the sequential model
  `rerankAll` returns and leave its cache: without concurrency the group changes nothing.

`Termite.RerankingStats` adds the counters that `Stats` reports.
-/

/-- Where a concurrent `Rerank` call is. -/
inductive CallState
  /-- Next: `c.cache.Get(key)`. -/
  | start
  /-- The cache missed; next: `c.sfGroup.Do(key, fn)`. -/
  | missed
  /-- Runs `fn`, the reranker, for flight `f`. -/
  | leading (f : Nat)
  /-- Waits in `c.wg.Wait()` for flight `f`. -/
  | waiting (f : Nat)
  /-- Returned `r`. -/
  | done (r : Except String (List Score))

/-- The steps a call has left to take. -/
def CallState.stepsLeft : CallState → Nat
  | .start => 3
  | .missed => 2
  | .leading _ | .waiting _ => 1
  | .done _ => 0

theorem CallState.eq_done_of_stepsLeft {c : CallState} (h : c.stepsLeft = 0) : ∃ r, c = .done r := by
  cases c <;> simp_all [CallState.stepsLeft]

/-- Setting an entry to one with fewer steps left lowers the total. -/
theorem CallState.sum_set_lt {l : List CallState} {i : Nat} {c c' : CallState} (hc : l[i]? = some c)
    (h : c'.stepsLeft < c.stepsLeft) : ((l.set i c').map stepsLeft).sum < (l.map stepsLeft).sum := by
  induction l generalizing i with
  | nil => cases hc
  | cons x l ih =>
    cases i with
    | zero =>
      rw [List.getElem?_cons_zero, Option.some.injEq] at hc
      subst hc
      simp only [List.set_cons_zero, List.map_cons, List.sum_cons]
      omega
    | succ i =>
      have := ih (by simpa only [List.getElem?_cons_succ] using hc)
      simp only [List.set_cons_succ, List.map_cons, List.sum_cons]
      omega

/-- A `singleflight` call: the caller running its function, and its result once returned. -/
structure Flight where
  leader : Nat
  result : Option (Except String (List Score))

/-- The shared cache, each model's `sfGroup.m`, the flights started so far, and the callers. -/
structure RerankState where
  cache : Cache
  groups : List ((String × List UInt8) × Nat)
  flights : List Flight
  calls : List CallState

/-- A step of one caller, or the expiry of a cached key. -/
inductive RerankAction
  | lookup (i : Nat)
  | join (i : Nat)
  | finish (i : Nat)
  | wake (i : Nat)
  | expire (k : List UInt8)

namespace RerankState

section Steps

variable (rerankers : String → Reranker)

/-- `c.cache.Get(key)`: a hit returns the cached scores, a miss goes on to the group. -/
def lookupStep (s : RerankState) (i : Nat) (q : RerankCall) : RerankState :=
  let c : CallState := match s.cache.lookup (q.key rerankers) with
    | some v => .done (.ok v)
    | none => .missed
  { s with calls := s.calls.set i c }

/-- `c.sfGroup.Do(key, fn)` entered: wait for the flight in progress for the key, or start one
    and lead it. -/
def joinStep (s : RerankState) (i : Nat) (q : RerankCall) : RerankState :=
  match s.groups.lookup (q.model, q.key rerankers) with
  | some f => { s with calls := s.calls.set i (.waiting f) }
  | none =>
    { s with
      groups := mapSet (q.model, q.key rerankers) s.flights.length s.groups
      flights := s.flights ++ [⟨i, none⟩]
      calls := s.calls.set i (.leading s.flights.length) }

/-- The leader's reranker returns and `doCall` completes flight `f`: the scores are cached on
    success, the flight keeps the result and leaves the group, and the leader returns it. -/
def finishStep (s : RerankState) (i f : Nat) (q : RerankCall) : RerankState where
  cache := match q.answer rerankers with
    | .ok scores => mapSet (q.key rerankers) scores s.cache
    | .error _ => s.cache
  groups := if s.groups.lookup (q.model, q.key rerankers) = some f then
    mapDelete (q.model, q.key rerankers) s.groups else s.groups
  flights := s.flights.set f ⟨i, some (q.answer rerankers)⟩
  calls := s.calls.set i (.done (q.answer rerankers))

variable (reqs : List RerankCall)

/-- One step of the system, for the callers of `reqs`; `none` when the action is not enabled. -/
def step (s : RerankState) : RerankAction → Option RerankState
  | .lookup i =>
    match reqs[i]?, s.calls[i]? with
    | some q, some .start => some (lookupStep rerankers s i q)
    | _, _ => none
  | .join i =>
    match reqs[i]?, s.calls[i]? with
    | some q, some .missed => some (joinStep rerankers s i q)
    | _, _ => none
  | .finish i =>
    match reqs[i]?, s.calls[i]? with
    | some q, some (.leading f) => some (finishStep rerankers s i f q)
    | _, _ => none
  | .wake i =>
    match s.calls[i]? with
    | some (.waiting f) =>
      match s.flights[f]? with
      | some ⟨_, some r⟩ => some { s with calls := s.calls.set i (.done r) }
      | _ => none
    | _ => none
  | .expire k => some { s with cache := mapDelete k s.cache }

/-- The steps of a schedule, one after the other. -/
def run (s : RerankState) (acts : List RerankAction) : Option RerankState :=
  acts.foldlM (step rerankers reqs) s

/-- An empty cache, empty groups, and every call about to start. -/
def init : RerankState := ⟨[], [], [], reqs.map fun _ => .start⟩

/-- A state some schedule reaches from the start. -/
def Reachable (s : RerankState) : Prop := ∃ acts, run rerankers reqs (init reqs) acts = some s

end Steps

/-! ### The invariant -/

/-- An entry of a list with one element appended is an entry of the list, or the new one. -/
theorem getElem?_concat_eq_some {α : Type} {l : List α} {x y : α} {f : Nat} (h : (l ++ [x])[f]? = some y) :
    l[f]? = some y ∨ f = l.length ∧ y = x := by
  rcases Nat.lt_or_ge f l.length with hf | hf
  · exact .inl ((List.getElem?_append_left hf).symm.trans h)
  · rw [List.getElem?_append_right hf] at h
    obtain ⟨hf', hy⟩ := List.getElem?_eq_some_iff.mp h
    simp only [List.length_singleton] at hf'
    exact .inr ⟨by omega, by simpa [show f - l.length = 0 by omega] using hy.symm⟩

theorem getElem?_append_of_eq_some {α : Type} {l : List α} (l' : List α) {f : Nat} {x : α} (h : l[f]? = some x) :
    (l ++ l')[f]? = some x :=
  (List.getElem?_append_left (List.getElem?_eq_some_iff.mp h).1).trans h

section Invariant

variable (rerankers : String → Reranker) (reqs : List RerankCall)

/-- What a caller's state says about the groups and the flights. -/
def CallInv (groups : List ((String × List UInt8) × Nat)) (flights : List Flight) (i : Nat)
    (q : RerankCall) : CallState → Prop
  | .start | .missed => True
  | .leading f => groups.lookup (q.model, q.key rerankers) = some f ∧ flights[f]? = some ⟨i, none⟩
  | .waiting f => ∃ l q', (flights[f]?.map Flight.leader) = some l ∧ reqs[l]? = some q' ∧
      q'.model = q.model ∧ q'.key rerankers = q.key rerankers
  | .done r => ∃ q' ∈ reqs, q'.key rerankers = q.key rerankers ∧ q'.answer rerankers = r

/-- The invariant of the reachable states. -/
structure Inv (s : RerankState) : Prop where
  length_calls : s.calls.length = reqs.length
  cache_sound : CacheSound rerankers reqs s.cache
  /-- A completed flight holds its leader's answer. -/
  result_answer : ∀ (f l : Nat) (r : Except String (List Score)), s.flights[f]? = some ⟨l, some r⟩ →
    ∃ q, reqs[l]? = some q ∧ q.answer rerankers = r
  /-- A flight in progress is led by a caller running it. -/
  pending_led : ∀ f l : Nat, s.flights[f]? = some ⟨l, none⟩ → s.calls[l]? = some (.leading f)
  /-- The groups hold flights in progress, under their leaders' model and key. -/
  group_pending : ∀ m k f, s.groups.lookup (m, k) = some f →
    ∃ (l : Nat) (q : RerankCall), s.flights[f]? = some ⟨l, none⟩ ∧ reqs[l]? = some q ∧
      q.model = m ∧ q.key rerankers = k
  call_inv : ∀ (i : Nat) (q : RerankCall) (c : CallState), reqs[i]? = some q → s.calls[i]? = some c →
    CallInv rerankers reqs s.groups s.flights i q c

variable {rerankers reqs}

/-- A caller's claim survives new groups and flights that keep its group entry and flight, if it
    leads one, and the leader of every flight. -/
theorem CallInv.mono {G G' : List ((String × List UInt8) × Nat)} {F F' : List Flight} {j : Nat}
    {q : RerankCall} {c : CallState} (h : CallInv rerankers reqs G F j q c)
    (hlead : ∀ f, G.lookup (q.model, q.key rerankers) = some f → F[f]? = some ⟨j, none⟩ →
      G'.lookup (q.model, q.key rerankers) = some f ∧ F'[f]? = some ⟨j, none⟩)
    (hleader : ∀ f l : Nat, F[f]?.map Flight.leader = some l → F'[f]?.map Flight.leader = some l) :
    CallInv rerankers reqs G' F' j q c := by
  cases c with
  | start | missed | done r => exact h
  | leading f => exact hlead f h.1 h.2
  | waiting f =>
    obtain ⟨l, q', hl, hrest⟩ := h
    exact ⟨l, q', hleader f l hl, hrest⟩

/-- Setting caller `i`'s state keeps the callers' claims when its new claim holds and the
    others' still do. -/
theorem callInv_set {G : List ((String × List UInt8) × Nat)} {F : List Flight} {calls : List CallState}
    {i : Nat} {q : RerankCall} {c' : CallState} (hq : reqs[i]? = some q) (hnew : CallInv rerankers reqs G F i q c')
    (hold : ∀ j qj cj, i ≠ j → reqs[j]? = some qj → calls[j]? = some cj →
      CallInv rerankers reqs G F j qj cj) :
    ∀ j qj cj, reqs[j]? = some qj → (calls.set i c')[j]? = some cj → CallInv rerankers reqs G F j qj cj := by
  intro j qj cj hqj hcj
  by_cases hij : i = j
  · subst hij
    rw [List.getElem?_set, if_pos rfl] at hcj
    split_ifs at hcj
    cases hcj
    rw [hq, Option.some.injEq] at hqj
    subst hqj
    exact hnew
  · exact hold j qj cj hij hqj (by rwa [List.getElem?_set_ne hij] at hcj)

theorem Inv.init : Inv rerankers reqs (init reqs) where
  length_calls := List.length_map _ _
  cache_sound := fun _ _ h => by cases h
  result_answer := fun _ _ _ h => by cases h
  pending_led := fun _ _ h => by cases h
  group_pending := fun _ _ _ h => by cases h
  call_inv := fun i q c _ hc => by
    simp only [RerankState.init, List.getElem?_map, Option.map_eq_some'] at hc
    obtain ⟨_, -, rfl⟩ := hc
    trivial

/-- Setting the state of a caller that leads no flight, with the groups and flights unchanged,
    keeps the invariant when the new state's claim holds. -/
theorem Inv.setCall {s : RerankState} {i : Nat} {q : RerankCall} {c c' : CallState} (hI : Inv rerankers reqs s)
    (hq : reqs[i]? = some q) (hc : s.calls[i]? = some c) (hlead : ∀ f, c ≠ .leading f)
    (hnew : CallInv rerankers reqs s.groups s.flights i q c') :
    Inv rerankers reqs { s with calls := s.calls.set i c' } where
  length_calls := (List.length_set _ _ _).trans hI.length_calls
  cache_sound := hI.cache_sound
  result_answer := hI.result_answer
  pending_led f l hf := by
    have hl := hI.pending_led f l hf
    have hne : i ≠ l := by rintro rfl; exact hlead f (Option.some.inj (hc.symm.trans hl))
    simpa only [List.getElem?_set_ne hne] using hl
  group_pending := hI.group_pending
  call_inv := callInv_set hq hnew fun j qj cj _ hqj hcj => hI.call_inv j qj cj hqj hcj

/-- A cache hit returns what some request with the key was answered. -/
theorem Inv.lookupStep {s : RerankState} {i : Nat} {q : RerankCall} (hI : Inv rerankers reqs s)
    (hq : reqs[i]? = some q) (hc : s.calls[i]? = some .start) :
    Inv rerankers reqs (lookupStep rerankers s i q) := by
  refine hI.setCall hq hc (fun _ h => by cases h) ?_
  cases hv : s.cache.lookup (q.key rerankers) with
  | none => trivial
  | some v => exact hI.cache_sound _ v hv

/-- Starting a flight: it gets the next id, enters the group, and its leader leads it. -/
theorem Inv.lead {s : RerankState} {i : Nat} {q : RerankCall} (hI : Inv rerankers reqs s)
    (hq : reqs[i]? = some q) (hc : s.calls[i]? = some .missed)
    (hg : s.groups.lookup (q.model, q.key rerankers) = none) :
    Inv rerankers reqs { s with
      groups := mapSet (q.model, q.key rerankers) s.flights.length s.groups
      flights := s.flights ++ [⟨i, none⟩]
      calls := s.calls.set i (.leading s.flights.length) } where
  length_calls := (List.length_set _ _ _).trans hI.length_calls
  cache_sound := hI.cache_sound
  result_answer f l r hf := by
    rcases getElem?_concat_eq_some hf with hf | ⟨-, h⟩
    · exact hI.result_answer f l r hf
    · cases h
  pending_led f l hf := by
    rcases getElem?_concat_eq_some hf with hf | ⟨rfl, h⟩
    · have hl := hI.pending_led f l hf
      have hne : i ≠ l := by rintro rfl; cases hc.symm.trans hl
      simpa only [List.getElem?_set_ne hne] using hl
    · cases h
      exact List.getElem?_set_self (List.getElem?_eq_some_iff.mp hc).1
  group_pending m k f hf := by
    rw [lookup_mapSet] at hf
    split_ifs at hf with hmk
    · cases hf
      obtain ⟨rfl, rfl⟩ := Prod.mk.inj hmk
      exact ⟨i, q, List.getElem?_concat_length _ _, hq, rfl, rfl⟩
    · obtain ⟨l, q', hfl, hrest⟩ := hI.group_pending m k f hf
      exact ⟨l, q', getElem?_append_of_eq_some _ hfl, hrest⟩
  call_inv := callInv_set hq ⟨by rw [lookup_mapSet, if_pos rfl], List.getElem?_concat_length _ _⟩
    fun j qj cj _ hqj hcj => (hI.call_inv j qj cj hqj hcj).mono
      -- another leader's key is in the group already, so it is not the new flight's
      (fun g hgj hfj => ⟨by rw [lookup_mapSet, if_neg fun heq => by rw [heq, hg] at hgj; cases hgj]; exact hgj,
        getElem?_append_of_eq_some _ hfj⟩)
      (fun g l hl => by
        obtain ⟨fl, hfl, -⟩ := Option.map_eq_some'.mp hl
        rwa [getElem?_append_of_eq_some _ hfl, ← hfl])

theorem Inv.joinStep {s : RerankState} {i : Nat} {q : RerankCall} (hI : Inv rerankers reqs s)
    (hq : reqs[i]? = some q) (hc : s.calls[i]? = some .missed) :
    Inv rerankers reqs (joinStep rerankers s i q) := by
  unfold RerankState.joinStep
  cases hg : s.groups.lookup (q.model, q.key rerankers) with
  | none => exact hI.lead hq hc hg
  | some f =>
    -- a flight for the key is in progress: wait for it
    obtain ⟨l, q', hf, hl, hm, hk⟩ := hI.group_pending _ _ f hg
    exact hI.setCall hq hc (fun _ h => by cases h) ⟨l, q', by rw [hf]; rfl, hl, hm, hk⟩

/-- Completing a flight: its leader's answer is cached, kept and returned, and the group entry,
    which is the flight's, goes. -/
theorem Inv.finishStep {s : RerankState} {i f : Nat} {q : RerankCall} (hI : Inv rerankers reqs s)
    (hq : reqs[i]? = some q) (hc : s.calls[i]? = some (.leading f)) :
    Inv rerankers reqs (RerankState.finishStep rerankers s i f q) := by
  obtain ⟨hg, hf⟩ : s.groups.lookup (q.model, q.key rerankers) = some f ∧ s.flights[f]? = some ⟨i, none⟩ :=
    hI.call_inv i q _ hq hc
  have hfi : f < s.flights.length := (List.getElem?_eq_some_iff.mp hf).1
  -- no other leader's flight, and no other key's group entry, is this flight
  have hother : ∀ g l, s.flights[g]? = some ⟨l, none⟩ → l ≠ i → g ≠ f := by
    rintro g l hgl hl rfl
    exact hl (Flight.mk.inj (Option.some.inj (hgl.symm.trans hf))).1
  have hgroups : (RerankState.finishStep rerankers s i f q).groups = mapDelete (q.model, q.key rerankers) s.groups :=
    if_pos hg
  exact {
    length_calls := (List.length_set _ _ _).trans hI.length_calls
    cache_sound := by
      intro k v hv
      simp only [RerankState.finishStep] at hv
      cases ha : q.answer rerankers with
      | error e => rw [ha] at hv; exact hI.cache_sound k v hv
      | ok scores =>
        rw [ha, lookup_mapSet] at hv
        split_ifs at hv with hk
        · cases hv
          exact ⟨q, List.getElem?_mem hq, hk.symm, ha⟩
        · exact hI.cache_sound k v hv
    result_answer := by
      intro g l r hgl
      simp only [RerankState.finishStep, List.getElem?_set] at hgl
      split_ifs at hgl with hfg
      · cases hgl
        exact ⟨q, hq, rfl⟩
      · exact hI.result_answer g l r hgl
    pending_led := by
      intro g l hgl
      simp only [RerankState.finishStep, List.getElem?_set] at hgl
      split_ifs at hgl with hfg
      · cases hgl
      · have hl := hI.pending_led g l hgl
        have hne : i ≠ l := by rintro rfl; exact hfg (CallState.leading.inj (Option.some.inj (hc.symm.trans hl)))
        exact (List.getElem?_set_ne hne).trans hl
    group_pending := by
      intro m k g hgk
      rw [hgroups, lookup_mapDelete] at hgk
      split_ifs at hgk with hmk
      obtain ⟨l, q', hgl, hql, hm, hk⟩ := hI.group_pending m k g hgk
      have hne : g ≠ f := hother g l hgl fun hli => hmk (by subst hli; rw [hq] at hql; cases hql; rw [hm, hk])
      exact ⟨l, q', by simp only [RerankState.finishStep, List.getElem?_set_ne (Ne.symm hne), hgl], hql, hm, hk⟩
    call_inv := callInv_set hq ⟨q, List.getElem?_mem hq, rfl, rfl⟩ fun j qj cj hij hqj hcj =>
      (hI.call_inv j qj cj hqj hcj).mono
        (fun g hgj hfj =>
          have hne : g ≠ f := hother g j hfj (Ne.symm hij)
          ⟨by
            rw [hgroups, lookup_mapDelete, if_neg fun heq => hne (by rw [heq, hg] at hgj; cases hgj; rfl)]
            exact hgj,
            by simp only [RerankState.finishStep, List.getElem?_set_ne (Ne.symm hne), hfj]⟩)
        -- the completed flight keeps its leader
        (fun g l hl => by
          simp only [RerankState.finishStep, List.getElem?_set]
          split_ifs with hfg
          · subst hfg
            rwa [hf] at hl
          · exact hl) }

/-- Every caller has its request. -/
theorem Inv.exists_req {s : RerankState} (hI : Inv rerankers reqs s) {j : Nat} {c : CallState}
    (hj : s.calls[j]? = some c) : ∃ q, reqs[j]? = some q :=
  have hj : j < reqs.length := hI.length_calls ▸ (List.getElem?_eq_some_iff.mp hj).1
  ⟨reqs[j], List.getElem?_eq_getElem hj⟩

/-- A waiter takes its flight's result. -/
theorem Inv.wake {s : RerankState} {i f l : Nat} {r : Except String (List Score)} (hI : Inv rerankers reqs s)
    (hc : s.calls[i]? = some (.waiting f)) (hf : s.flights[f]? = some ⟨l, some r⟩) :
    Inv rerankers reqs { s with calls := s.calls.set i (.done r) } := by
  obtain ⟨q, hq⟩ := hI.exists_req hc
  obtain ⟨l', q', hl', hql', -, hk⟩ := hI.call_inv i q _ hq hc
  rw [hf] at hl'
  cases hl'
  obtain ⟨q'', hq'', ha⟩ := hI.result_answer f l r hf
  rw [hql', Option.some.injEq] at hq''
  subst hq''
  exact hI.setCall hq hc (fun _ h => by cases h) ⟨q', List.getElem?_mem hql', hk, ha⟩

/-- Expiry only forgets. -/
theorem Inv.expire {s : RerankState} (hI : Inv rerankers reqs s) (k : List UInt8) :
    Inv rerankers reqs { s with cache := mapDelete k s.cache } :=
  { hI with
    cache_sound := fun k' v hv => by
      rw [lookup_mapDelete] at hv
      split_ifs at hv
      exact hI.cache_sound k' v hv }

/-- **Step lemma.** -/
theorem Inv.step {s s' : RerankState} (hI : Inv rerankers reqs s) {a : RerankAction}
    (h : step rerankers reqs s a = some s') : Inv rerankers reqs s' := by
  cases a with
  | lookup i =>
    simp only [RerankState.step] at h
    split at h <;> cases h
    exact hI.lookupStep ‹_› ‹_›
  | join i =>
    simp only [RerankState.step] at h
    split at h <;> cases h
    exact hI.joinStep ‹_› ‹_›
  | finish i =>
    simp only [RerankState.step] at h
    split at h <;> cases h
    exact hI.finishStep ‹_› ‹_›
  | wake i =>
    simp only [RerankState.step] at h
    split at h
    · split at h <;> cases h
      exact hI.wake ‹_› ‹_›
    · cases h
  | expire k =>
    cases h
    exact hI.expire k

/-- **Run lemma.** -/
theorem Inv.run {s s' : RerankState} (hI : Inv rerankers reqs s) {acts : List RerankAction}
    (h : run rerankers reqs s acts = some s') : Inv rerankers reqs s' := by
  induction acts generalizing s with
  | nil => cases h; exact hI
  | cons a acts ih =>
    simp only [RerankState.run, List.foldlM_cons, Option.bind_eq_bind, Option.bind_eq_some] at h
    obtain ⟨s₁, h₁, h⟩ := h
    exact ih (hI.step h₁) h

theorem Reachable.inv {s : RerankState} (hs : Reachable rerankers reqs s) : Inv rerankers reqs s :=
  Inv.init.run hs.choose_spec

end Invariant

/-! ### What every interleaving guarantees -/

/-- Two calls with one request, on one model. -/
def sameRequestCalls : List RerankCall := [⟨"m", "q", ["a"]⟩, ⟨"m", "q", ["a"]⟩]

/-- Rerankers giving every prompt the score `0`. -/
def zeroRerankers : String → Reranker := fun _ _ prompts => .ok (prompts.map fun _ => 0)

/-- Both calls miss the cache, then the first starts a flight and the second joins it. -/
def joinedSchedule : List RerankAction := [.lookup 0, .lookup 1, .join 0, .join 1]

section Results

variable {rerankers : String → Reranker} {reqs : List RerankCall}

/-- **Every call gets its own reranker's answer.**  When no two different requests share a key,
    a call that has returned, in any interleaving of the calls and whatever expired meanwhile,
    returned exactly what its wrapped reranker answers for it: a cache hit, a shared flight and
    its own flight all give that answer. -/
theorem done_eq_answer (hinj : ∀ q ∈ reqs, ∀ q' ∈ reqs, q.key rerankers = q'.key rerankers → q = q')
    {s : RerankState} (hs : Reachable rerankers reqs s) {i : Nat} {q : RerankCall}
    {r : Except String (List Score)} (hq : reqs[i]? = some q) (hdone : s.calls[i]? = some (.done r)) :
    r = q.answer rerankers := by
  obtain ⟨q', hq', hk, ha⟩ := hs.inv.call_inv i q _ hq hdone
  rw [← ha, hinj q' hq' q (List.getElem?_mem hq) hk]

/-- The joined call returns the flight's scores, which are its own reranker's answer. -/
theorem done_eq_answer_sharedFlight :
    ∃ s, run zeroRerankers sameRequestCalls (init sameRequestCalls) (joinedSchedule ++ [.finish 0, .wake 1]) =
        some s ∧ s.calls[1]? = some (.done (.ok [0])) ∧
      (.ok [0] : Except String (List Score)) = RerankCall.answer zeroRerankers ⟨"m", "q", ["a"]⟩ :=
  have hinj : ∀ q ∈ sameRequestCalls, ∀ q' ∈ sameRequestCalls,
      q.key zeroRerankers = q'.key zeroRerankers → q = q' := by decide
  have ⟨s, hrun, hdone⟩ : ∃ s, run zeroRerankers sameRequestCalls (init sameRequestCalls)
      (joinedSchedule ++ [.finish 0, .wake 1]) = some s ∧ s.calls[1]? = some (.done (.ok [0])) := ⟨_, rfl, rfl⟩
  ⟨s, hrun, hdone, done_eq_answer hinj ⟨_, hrun⟩ rfl hdone⟩

/-- **One reranker call per key at a time.**  In every reachable state, two calls running the
    reranker for the same model and key are one call, leading one flight. -/
theorem leading_unique {s : RerankState} (hs : Reachable rerankers reqs s) {i j f g : Nat}
    {q q' : RerankCall} (hqi : reqs[i]? = some q) (hqj : reqs[j]? = some q')
    (hi : s.calls[i]? = some (.leading f)) (hj : s.calls[j]? = some (.leading g))
    (hsame : q.model = q'.model ∧ q.key rerankers = q'.key rerankers) : i = j ∧ f = g := by
  obtain ⟨hgi, hfi⟩ := hs.inv.call_inv i q _ hqi hi
  obtain ⟨hgj, hfj⟩ := hs.inv.call_inv j q' _ hqj hj
  rw [hsame.1, hsame.2, hgj, Option.some.injEq] at hgi
  subst hgi
  exact ⟨(Flight.mk.inj (Option.some.inj (hfi.symm.trans hfj))).1, rfl⟩

/-- With both calls in the group, one leads the flight and the other waits for it. -/
theorem leading_unique_joinedSchedule :
    ∃ s, run zeroRerankers sameRequestCalls (init sameRequestCalls) joinedSchedule = some s ∧
      s.calls[0]? = some (.leading 0) ∧ s.calls[1]? = some (.waiting 0) ∧ ((0 : Nat) = 0 ∧ (0 : Nat) = 0) :=
  have hrun : run zeroRerankers sameRequestCalls (init sameRequestCalls) joinedSchedule = some _ := rfl
  ⟨_, hrun, rfl, rfl, leading_unique ⟨_, hrun⟩ rfl rfl rfl rfl ⟨rfl, rfl⟩⟩

/-- A call whose lookup missed before the first flight completed, and which enters the group
    after it, starts a second flight: only calls that overlap a flight share it. -/
example : (run zeroRerankers sameRequestCalls (init sameRequestCalls)
    [.lookup 0, .lookup 1, .join 0, .finish 0, .join 1]).map (·.flights.length) = some 2 := rfl

/-! #### Completion -/

/-- The steps the calls have left, together. -/
def stepsLeft (s : RerankState) : Nat := (s.calls.map CallState.stepsLeft).sum

/-- **Progress.**  While a call has not returned, some caller can take a step that lowers the
    steps left: a waiter's flight has its result, or else its leader can complete it. -/
theorem exists_step_of_pending {s : RerankState} (hI : Inv rerankers reqs s) {i : Nat} {c : CallState}
    (hc : s.calls[i]? = some c) (hpos : 0 < c.stepsLeft) :
    ∃ a s', step rerankers reqs s a = some s' ∧ s'.stepsLeft < s.stepsLeft := by
  obtain ⟨q, hq⟩ := hI.exists_req hc
  cases c with
  | start =>
    refine ⟨.lookup i, lookupStep rerankers s i q, by simp only [RerankState.step, hq, hc],
      CallState.sum_set_lt hc ?_⟩
    cases s.cache.lookup (q.key rerankers) <;> simp [CallState.stepsLeft]
  | missed =>
    refine ⟨.join i, joinStep rerankers s i q, by simp only [RerankState.step, hq, hc], ?_⟩
    unfold RerankState.joinStep
    cases s.groups.lookup (q.model, q.key rerankers) <;>
      exact CallState.sum_set_lt hc (by simp [CallState.stepsLeft])
  | leading f =>
    exact ⟨.finish i, finishStep rerankers s i f q, by simp only [RerankState.step, hq, hc],
      CallState.sum_set_lt hc (by simp [CallState.stepsLeft])⟩
  | waiting f =>
    obtain ⟨l, -, hl, -⟩ := hI.call_inv i q _ hq hc
    obtain ⟨⟨l', result⟩, hf, rfl⟩ := Option.map_eq_some'.mp hl
    cases result with
    | some r =>
      exact ⟨.wake i, { s with calls := s.calls.set i (.done r) }, by simp only [RerankState.step, hc, hf],
        CallState.sum_set_lt hc (by simp [CallState.stepsLeft])⟩
    | none =>
      -- the flight is in progress, and its leader can complete it
      have hlead := hI.pending_led f _ hf
      obtain ⟨ql, hql⟩ := hI.exists_req hlead
      exact ⟨.finish l', finishStep rerankers s l' f ql, by simp only [RerankState.step, hql, hlead],
        CallState.sum_set_lt hlead (by simp [CallState.stepsLeft])⟩
  | done r => cases hpos

/-- From a state with the invariant, some schedule returns every call. -/
theorem completes_of_inv (n : Nat) : ∀ {s : RerankState}, s.stepsLeft = n → Inv rerankers reqs s →
    ∃ acts s', run rerankers reqs s acts = some s' ∧ ∀ c ∈ s'.calls, ∃ r, c = .done r := by
  induction n using Nat.strong_induction_on with
  | _ n ih =>
    intro s hn hI
    by_cases hall : ∀ c ∈ s.calls, c.stepsLeft = 0
    · exact ⟨[], s, rfl, fun c hc => CallState.eq_done_of_stepsLeft (hall c hc)⟩
    simp only [not_forall] at hall
    obtain ⟨c, hcmem, hpos⟩ := hall
    obtain ⟨i, hi⟩ := List.mem_iff_getElem?.mp hcmem
    obtain ⟨a, s', hstep, hlt⟩ := exists_step_of_pending hI hi (Nat.pos_of_ne_zero hpos)
    obtain ⟨acts, s'', hrun, hdone⟩ := ih _ (hn ▸ hlt) rfl (hI.step hstep)
    exact ⟨a :: acts, s'', by simpa only [RerankState.run, List.foldlM_cons, hstep, Option.some_bind] using hrun,
      hdone⟩

/-- **No call is left waiting.**  From every reachable state some schedule returns every call:
    a waiter's flight always has its result or a leader that can complete it. -/
theorem reachable_completes {s : RerankState} (hs : Reachable rerankers reqs s) :
    ∃ acts s', run rerankers reqs s acts = some s' ∧ ∀ c ∈ s'.calls, ∃ r, c = .done r :=
  completes_of_inv _ rfl hs.inv

/-- While the second call waits, the first can complete the flight and both return. -/
theorem reachable_completes_joinedSchedule :
    ∃ s, run zeroRerankers sameRequestCalls (init sameRequestCalls) joinedSchedule = some s ∧
      ∃ acts s', run zeroRerankers sameRequestCalls s acts = some s' ∧ ∀ c ∈ s'.calls, ∃ r, c = .done r :=
  have hrun : run zeroRerankers sameRequestCalls (init sameRequestCalls) joinedSchedule = some _ := rfl
  ⟨_, hrun, reachable_completes ⟨_, hrun⟩⟩

end Results

/-! ### Serial runs -/

section Serial

variable (rerankers : String → Reranker) {reqs : List RerankCall}

/-- The steps of call `i` run alone: its lookup and, on a miss, the flight it leads. -/
def IsSerialPart (i : Nat) (part : List RerankAction) : Prop :=
  part = [.lookup i] ∨ part = [.lookup i, .join i, .finish i]

theorem run_append (s : RerankState) (a b : List RerankAction) :
    run rerankers reqs s (a ++ b) = (run rerankers reqs s a).bind fun s' => run rerankers reqs s' b := by
  simp only [run, List.foldlM_append]
  rfl

/-- A call run alone from an idle group does what the sequential `Rerank` does. -/
theorem run_serialCall {s : RerankState} {i : Nat} {q : RerankCall} (hq : reqs[i]? = some q)
    (hc : s.calls[i]? = some .start) (hg : s.groups = []) :
    ∃ part, IsSerialPart i part ∧ ∃ s', run rerankers reqs s part = some s' ∧ s'.groups = [] ∧
      s'.calls = s.calls.set i (.done ((q.wrapper rerankers).rerank s.cache q.query q.prompts).1) ∧
      s'.cache = ((q.wrapper rerankers).rerank s.cache q.query q.prompts).2 := by
  have hlt : i < s.calls.length := (List.getElem?_eq_some_iff.mp hc).1
  have hkey : (q.wrapper rerankers).cacheKey q.query q.prompts = q.key rerankers := rfl
  have hans : (q.wrapper rerankers).reranker q.query q.prompts = q.answer rerankers := rfl
  cases hv : s.cache.lookup (q.key rerankers) with
  | some v =>
    refine ⟨[.lookup i], .inl rfl, lookupStep rerankers s i q, ?_, hg, ?_, ?_⟩
    · simp [run, step, hq, hc]
    · simp [lookupStep, hv, CachedReranker.rerank, hkey]
    · simp [lookupStep, CachedReranker.rerank, hkey, hv]
  | none =>
    -- a miss: the call leads a flight of its own, alone in the group, and completes it
    refine ⟨_, .inr rfl,
      finishStep rerankers (joinStep rerankers (lookupStep rerankers s i q) i q) i s.flights.length q,
      ?_, ?_, ?_, ?_⟩
    · simp [run, step, hq, hc, lookupStep, hv, joinStep, hg, hlt]
    · simp [finishStep, joinStep, lookupStep, hg, mapDelete, mapSet]
    all_goals
      simp [finishStep, joinStep, lookupStep, hg, CachedReranker.rerank, hkey, hv, hans]
      cases q.answer rerankers <;> rfl

/-- After the first `k` calls have run alone, one after the other. -/
theorem run_serial_take {k : Nat} (hk : k ≤ reqs.length) :
    ∃ parts : List (List RerankAction), parts.length = k ∧
      (∀ i (h : i < parts.length), IsSerialPart i parts[i]) ∧
      ∃ s, run rerankers reqs (init reqs) parts.flatten = some s ∧ s.groups = [] ∧
        s.calls = (rerankAll rerankers [] (reqs.take k)).1.map .done ++
          List.replicate (reqs.length - k) .start ∧
        s.cache = (rerankAll rerankers [] (reqs.take k)).2 := by
  induction k with
  | zero =>
    exact ⟨[], rfl, fun _ h => absurd h (Nat.not_lt_zero _), init reqs, rfl, rfl,
      by simp [init, rerankAll, List.map_const'], rfl⟩
  | succ k ih =>
    obtain ⟨parts, hlen, hparts, s, hrun, hg, hcalls, hcache⟩ := ih (by omega)
    have hkq : reqs[k]? = some reqs[k] := List.getElem?_eq_getElem (by omega)
    have hpre : (rerankAll rerankers [] (reqs.take k)).1.length = k := by
      rw [length_rerankAll, List.length_take]; omega
    have hc : s.calls[k]? = some .start := by
      rw [hcalls, List.getElem?_append_right (by simp [hpre]), List.length_map, hpre, Nat.sub_self,
        List.getElem?_replicate, if_pos (by omega)]
    obtain ⟨part, hpart, s', hrun', hg', hcalls', hcache'⟩ := run_serialCall rerankers hkq hc hg
    refine ⟨parts ++ [part], by simp [hlen], ?_, s', ?_, hg', ?_, ?_⟩
    · intro i h
      rw [List.length_append, List.length_singleton] at h
      rcases Nat.lt_or_ge i parts.length with hi | hi
      · rw [List.getElem_append_left hi]
        exact hparts i hi
      · rw [List.getElem_concat_length parts part i (by omega), show i = k by omega]
        exact hpart
    · rw [List.flatten_append, run_append, hrun, Option.some_bind, List.flatten_singleton, hrun']
    · rw [hcalls', hcalls, List.take_succ, hkq, Option.toList_some, rerankAll_append_fst, hcache,
        List.set_append_right _ _ (by simp [hpre]), List.length_map, hpre, Nat.sub_self,
        show reqs.length - k = reqs.length - (k + 1) + 1 by omega, List.replicate_succ, List.set_cons_zero]
      simp [rerankAll]
    · rw [hcache', hcache, List.take_succ, hkq, Option.toList_some, rerankAll_append_snd]
      rfl

/-- **Without concurrency, the singleflight path is the plain cache.**  Running the calls one
    after the other, each from its lookup to its return, returns exactly what the sequential
    `Rerank` calls return, and leaves the same cache. -/
theorem run_serial_eq_rerankAll (reqs : List RerankCall) :
    ∃ parts : List (List RerankAction), parts.length = reqs.length ∧
      (∀ i (h : i < parts.length), IsSerialPart i parts[i]) ∧
      ∃ s, run rerankers reqs (init reqs) parts.flatten = some s ∧
        s.calls = (rerankAll rerankers [] reqs).1.map .done ∧ s.cache = (rerankAll rerankers [] reqs).2 := by
  obtain ⟨parts, hlen, hparts, s, hrun, -, hcalls, hcache⟩ :=
    run_serial_take rerankers (le_refl reqs.length)
  rw [List.take_length, Nat.sub_self, List.replicate_zero, List.append_nil] at hcalls
  rw [List.take_length] at hcache
  exact ⟨parts, hlen, hparts, s, hrun, hcalls, hcache⟩

end Serial

end RerankState

end Termite
