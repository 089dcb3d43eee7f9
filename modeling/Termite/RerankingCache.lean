import Termite.Go.Map

namespace Termite

open Termite.Go

/-!
# The reranking cache (`CachedReranker`)

`RerankingCache` is one `ttlcache` shared by the `CachedReranker` wrappers of all reranking
models.  `Rerank` looks its key up and, on a miss, calls the wrapped reranker and stores the
scores.  Calls are sequential here, so `singleflight.Do` runs its function at once and never
shares a result; the hit/miss counters are left out.  An entry may expire at any moment, as the
cache's two-minute TTL makes it.  `Termite.RerankingFlights` interleaves concurrent calls, with
their flights.  xxhash is taken to be
injective, so a key *is* the byte string `cacheKey` hashes.

* `CacheSound` / `CachedReranker.rerank_cacheSound` / `rerankAll_cacheSound` — every cached
  entry holds the answer of some earlier call with that key (step lemma, run lemma).
* `CachedReranker.rerank_error` — a call whose reranker fails leaves the cache unchanged.
* `rerankAll_eq_answers` — when no two different calls of a run have the same key, every
  call returns the wrapped reranker's own answer.
* `RerankCall.lookup_rerank` / `lookup_rerankAll` — a run caches, under a key, the scores of
  the first call with that key whose reranker succeeded.
* `lookup_rerankEvents` / `rerankEvents_result` — with entries expiring at any moments, a key
  holds the scores of the first successful call since it last expired, and every call returns
  those scores when such a call left them, its own reranker's answer otherwise.
* `cacheKey_collision` / `rerankAll_collision` — the key bytes are delimited but not escaped,
  so two different calls can have one key, and the second then gets the first one's scores.
-/

/-- A `float32` score, as its bit pattern. -/
abbrev Score := BitVec 32

/-- A `reranking.Model`'s `Rerank`, taken to be a deterministic function of the query and the
    prompts. -/
abbrev Reranker := String → List String → Except String (List Score)

/-- The bytes `h.WriteString(s)` hashes. -/
def utf8 (s : String) : List UInt8 := s.data.flatMap String.utf8EncodeChar

/-- `CachedReranker`: the wrapped reranker and its model name. -/
structure CachedReranker where
  reranker : Reranker
  model : String

/-- The shared cache, from key bytes to scores. -/
abbrev Cache := List (List UInt8 × List Score)

/-- `(*RerankingCache).WrapReranker`. -/
def wrapReranker (reranker : Reranker) (model : String) : CachedReranker := ⟨reranker, model⟩

namespace CachedReranker

/-- `(*CachedReranker).cacheKey`: the bytes fed to the hash — the model, `|`, `q:`, the query,
    `|`, then for each prompt `p`, its index as two big-endian bytes, `:`, the prompt, `|`. -/
def cacheKey (c : CachedReranker) (query : String) (prompts : List String) : List UInt8 :=
  utf8 c.model ++ utf8 "|" ++ utf8 "q:" ++ utf8 query ++ utf8 "|" ++
    (prompts.enum.flatMap fun ip =>
      utf8 "p" ++ [UInt8.ofNat (ip.1 / 256), UInt8.ofNat ip.1] ++ utf8 ":" ++ utf8 ip.2 ++ utf8 "|")

/-- `(*CachedReranker).Rerank`: the result, and the cache after the call. -/
def rerank (c : CachedReranker) (cache : Cache) (query : String) (prompts : List String) :
    Except String (List Score) × Cache :=
  match cache.lookup (c.cacheKey query prompts) with
  | some v => (.ok v, cache)
  | none =>
    match c.reranker query prompts with
    | .error e => (.error e, cache)
    | .ok scores => (.ok scores, mapSet (c.cacheKey query prompts) scores cache)

/-- A call whose reranker fails leaves the cache unchanged. -/
theorem rerank_error (c : CachedReranker) (cache : Cache) (query : String) (prompts : List String)
    {e : String} (h : (c.rerank cache query prompts).1 = .error e) :
    (c.rerank cache query prompts).2 = cache := by
  unfold rerank at h ⊢
  split
  · rfl
  · split
    · rfl
    · simp_all

end CachedReranker

/-- A call `Rerank(ctx, query, prompts)` on the wrapper of `model`. -/
structure RerankCall where
  model : String
  query : String
  prompts : List String
  deriving DecidableEq

section Run

variable (rerankers : String → Reranker)

/-- The wrapper the call goes to. -/
def RerankCall.wrapper (q : RerankCall) : CachedReranker := wrapReranker (rerankers q.model) q.model

/-- The call's key. -/
def RerankCall.key (q : RerankCall) : List UInt8 := (q.wrapper rerankers).cacheKey q.query q.prompts

/-- What the wrapped reranker itself answers. -/
def RerankCall.answer (q : RerankCall) : Except String (List Score) :=
  rerankers q.model q.query q.prompts

/-- Calls one after the other on the wrappers of one cache: the results, and the cache after. -/
def rerankAll (cache : Cache) : List RerankCall → List (Except String (List Score)) × Cache
  | [] => ([], cache)
  | q :: qs =>
    match (q.wrapper rerankers).rerank cache q.query q.prompts with
    | (r, cache') => (r :: (rerankAll cache' qs).1, (rerankAll cache' qs).2)

/-- Every cached entry holds the answer of some call of `seen` with that key. -/
def CacheSound (seen : List RerankCall) (cache : Cache) : Prop :=
  ∀ k v, cache.lookup k = some v → ∃ q ∈ seen, q.key rerankers = k ∧ q.answer rerankers = .ok v

/-- One call returns the cached scores on a hit and the reranker's answer on a miss. -/
theorem RerankCall.rerank_fst (cache : Cache) (q : RerankCall) :
    ((q.wrapper rerankers).rerank cache q.query q.prompts).1 =
      match cache.lookup (q.key rerankers) with
      | some v => .ok v
      | none => q.answer rerankers := by
  simp only [RerankCall.key, RerankCall.answer, RerankCall.wrapper, wrapReranker]
  cases h : cache.lookup (CachedReranker.cacheKey ⟨rerankers q.model, q.model⟩ q.query q.prompts) with
  | some v => simp only [CachedReranker.rerank, h]
  | none =>
    simp only [CachedReranker.rerank, h]
    cases rerankers q.model q.query q.prompts <;> rfl

/-- **Step lemma.** A call keeps the cache sound, with itself added to the calls seen. -/
theorem CachedReranker.rerank_cacheSound {seen : List RerankCall} {cache : Cache}
    (hs : CacheSound rerankers seen cache) (q : RerankCall) :
    CacheSound rerankers (q :: seen) ((q.wrapper rerankers).rerank cache q.query q.prompts).2 := by
  intro k v hk
  unfold CachedReranker.rerank at hk
  split at hk
  · obtain ⟨q', hq', h⟩ := hs k v hk; exact ⟨q', List.mem_cons_of_mem q hq', h⟩
  · split at hk
    · obtain ⟨q', hq', h⟩ := hs k v hk; exact ⟨q', List.mem_cons_of_mem q hq', h⟩
    · rename_i scores hr
      simp only [lookup_mapSet] at hk
      by_cases hkey : k = (q.wrapper rerankers).cacheKey q.query q.prompts
      · rw [if_pos hkey, Option.some.injEq] at hk
        exact ⟨q, List.mem_cons_self q seen, hkey.symm, by rw [← hk]; exact hr⟩
      · rw [if_neg hkey] at hk
        obtain ⟨q', hq', h⟩ := hs k v hk; exact ⟨q', List.mem_cons_of_mem q hq', h⟩

/-- **Run lemma.** The cache stays sound along a run, every call of it added to those seen. -/
theorem rerankAll_cacheSound (calls : List RerankCall) :
    ∀ {seen : List RerankCall} {cache : Cache}, CacheSound rerankers seen cache →
      CacheSound rerankers (calls.reverse ++ seen) (rerankAll rerankers cache calls).2 := by
  induction calls with
  | nil => intro seen cache hs; simpa [rerankAll] using hs
  | cons q qs ih =>
    intro seen cache hs
    simpa [rerankAll] using ih (CachedReranker.rerank_cacheSound rerankers hs q)

/-- From a sound cache, a run in which a call's key is shared only with itself (among the calls
    seen and the calls to come) answers every call as its wrapped reranker does. -/
theorem rerankAll_eq_answers_of_sound (calls : List RerankCall) :
    ∀ {seen : List RerankCall} {cache : Cache}, CacheSound rerankers seen cache →
      (∀ q ∈ calls, ∀ q' ∈ seen ++ calls, q.key rerankers = q'.key rerankers → q = q') →
      (rerankAll rerankers cache calls).1 = calls.map (·.answer rerankers) := by
  induction calls with
  | nil => intro _ _ _ _; rfl
  | cons q qs ih =>
    intro seen cache hs hinj
    have hhead : ((q.wrapper rerankers).rerank cache q.query q.prompts).1 = q.answer rerankers := by
      rw [RerankCall.rerank_fst]
      cases hk : cache.lookup (q.key rerankers) with
      | none => rfl
      | some v =>
        obtain ⟨q', hq', hkey, hv⟩ := hs _ v hk
        have : q = q' := hinj q (by simp) q' (by simp [hq']) hkey.symm
        subst this; exact hv.symm
    have htail := ih (CachedReranker.rerank_cacheSound rerankers hs q) fun a ha b hb hab =>
      hinj a (List.mem_cons_of_mem q ha) b (by simp at hb ⊢; tauto) hab
    simp only [rerankAll, List.map_cons, hhead, htail]

/-- **Transparency.** Starting from an empty cache, when no two different calls of a run have
    the same key, every call returns exactly its wrapped reranker's answer. -/
theorem rerankAll_eq_answers (calls : List RerankCall)
    (hinj : ∀ q ∈ calls, ∀ q' ∈ calls, q.key rerankers = q'.key rerankers → q = q') :
    (rerankAll rerankers [] calls).1 = calls.map (·.answer rerankers) :=
  @rerankAll_eq_answers_of_sound rerankers calls [] [] (by simp [CacheSound]) (by simpa using hinj)

end Run

/-- Two calls on one model with one query and different prompts. -/
def distinctPromptCalls : List RerankCall := [⟨"m", "q", ["a"]⟩, ⟨"m", "q", ["b"]⟩]

/-- Their keys differ, so each gets its reranker's own scores. -/
theorem rerankAll_eq_answers_distinctPromptCalls :
    (∀ q ∈ distinctPromptCalls, ∀ q' ∈ distinctPromptCalls,
        q.key (fun _ _ ps => .ok (ps.map fun _ => 0)) = q'.key (fun _ _ ps => .ok (ps.map fun _ => 0)) → q = q') ∧
      (rerankAll (fun _ _ ps => .ok (ps.map fun _ => 0)) [] distinctPromptCalls).1 =
        distinctPromptCalls.map (·.answer fun _ _ ps => .ok (ps.map fun _ => 0)) :=
  have hinj : ∀ q ∈ distinctPromptCalls, ∀ q' ∈ distinctPromptCalls,
      q.key (fun _ _ ps => .ok (ps.map fun _ => 0)) = q'.key (fun _ _ ps => .ok (ps.map fun _ => 0)) → q = q' := by
    decide
  ⟨hinj, rerankAll_eq_answers _ distinctPromptCalls hinj⟩

/-! ### What a run computes -/

section Memo

variable (rerankers : String → Reranker)

/-- What call `p` leaves in the cache under `k` when it misses: its scores, when it has that key
    and its reranker succeeds. -/
def RerankCall.stored (k : List UInt8) (p : RerankCall) : Option (List Score) :=
  if p.key rerankers = k then (p.answer rerankers).toOption else none

/-- **Step lemma.** A call adds its scores under its key when the key was not cached yet; no
    cached key ever changes. -/
theorem RerankCall.lookup_rerank (cache : Cache) (q : RerankCall) (k : List UInt8) :
    ((q.wrapper rerankers).rerank cache q.query q.prompts).2.lookup k =
      (cache.lookup k).or (q.stored rerankers k) := by
  have hkey : (q.wrapper rerankers).cacheKey q.query q.prompts = q.key rerankers := rfl
  have hans : (q.wrapper rerankers).reranker q.query q.prompts = q.answer rerankers := rfl
  unfold CachedReranker.rerank RerankCall.stored
  rw [hkey, hans]
  cases hc : cache.lookup (q.key rerankers) with
  | some v =>
    -- a hit: the key is cached already, so the call adds nothing
    by_cases hk : q.key rerankers = k
    · rw [if_pos hk, ← hk, hc]; rfl
    · rw [if_neg hk, Option.or_none]
  | none =>
    cases q.answer rerankers with
    | error e => simp only [Except.toOption, ite_self, Option.or_none]
    | ok scores =>
      simp only [lookup_mapSet, Except.toOption]
      by_cases hk : q.key rerankers = k
      · rw [if_pos hk.symm, if_pos hk, ← hk, hc]; rfl
      · rw [if_neg (Ne.symm hk), if_neg hk, Option.or_none]

/-- **Run lemma.** After a run, a key holds what it held before, or else the scores of the
    first call of the run with that key whose reranker succeeded. -/
theorem lookup_rerankAll (calls : List RerankCall) (cache : Cache) (k : List UInt8) :
    (rerankAll rerankers cache calls).2.lookup k =
      (cache.lookup k).or (calls.findSome? (RerankCall.stored rerankers k)) := by
  induction calls generalizing cache with
  | nil => simp [rerankAll]
  | cons q qs ih =>
    simp only [rerankAll, ih, RerankCall.lookup_rerank, Option.or_assoc, List.findSome?_cons]
    cases q.stored rerankers k <;> rfl

theorem length_rerankAll (calls : List RerankCall) (cache : Cache) :
    (rerankAll rerankers cache calls).1.length = calls.length := by
  induction calls generalizing cache with
  | nil => rfl
  | cons q qs ih => simp [rerankAll, ih]

theorem rerankAll_append_fst (l₁ l₂ : List RerankCall) (cache : Cache) :
    (rerankAll rerankers cache (l₁ ++ l₂)).1 =
      (rerankAll rerankers cache l₁).1 ++ (rerankAll rerankers (rerankAll rerankers cache l₁).2 l₂).1 := by
  induction l₁ generalizing cache with
  | nil => rfl
  | cons q qs ih => simp [rerankAll, ih]

theorem rerankAll_append_snd (cache : Cache) (l₁ l₂ : List RerankCall) :
    (rerankAll rerankers cache (l₁ ++ l₂)).2 = (rerankAll rerankers (rerankAll rerankers cache l₁).2 l₂).2 := by
  induction l₁ generalizing cache with
  | nil => rfl
  | cons q qs ih => simp [rerankAll, ih]

end Memo

/-! ### Expiry

`NewRerankingCache` builds its `ttlcache` with a TTL of `RerankingCacheTTL`, two minutes: an
entry goes when two minutes pass without a write or a read of it.  Here any entry may expire at
any moment, which covers every schedule the clock makes. -/

/-- What happens to the cache: a call, or the expiry of the entry of a key. -/
inductive CacheEvent
  | call (q : RerankCall)
  | expire (k : List UInt8)

/-- The call of an event, if it is one. -/
def CacheEvent.call? : CacheEvent → Option RerankCall
  | .call q => some q
  | .expire _ => none

/-- The calls since the last expiry of `k`, after the calls `acc`. -/
def callsSince (k : List UInt8) (acc : List RerankCall) : List CacheEvent → List RerankCall
  | [] => acc
  | .call q :: es => callsSince k (acc ++ [q]) es
  | .expire k' :: es => callsSince k (if k' = k then [] else acc) es

section Expiry

variable (rerankers : String → Reranker)

/-- Events one after the other on the wrappers of one cache: the calls' results, and the cache
    after. -/
def rerankEvents (cache : Cache) : List CacheEvent → List (Except String (List Score)) × Cache
  | [] => ([], cache)
  | .call q :: es =>
    match (q.wrapper rerankers).rerank cache q.query q.prompts with
    | (r, cache') => (r :: (rerankEvents cache' es).1, (rerankEvents cache' es).2)
  | .expire k :: es => rerankEvents (mapDelete k cache) es

/-- Without expiry, the events are the calls of `rerankAll`. -/
theorem rerankEvents_map_call (cache : Cache) (calls : List RerankCall) :
    rerankEvents rerankers cache (calls.map .call) = rerankAll rerankers cache calls := by
  induction calls generalizing cache with
  | nil => rfl
  | cons q qs ih => simp only [List.map_cons, rerankEvents, rerankAll, ih]

theorem rerankEvents_call (cache : Cache) (q : RerankCall) (es : List CacheEvent) :
    rerankEvents rerankers cache (.call q :: es) =
      (((q.wrapper rerankers).rerank cache q.query q.prompts).1 ::
          (rerankEvents rerankers ((q.wrapper rerankers).rerank cache q.query q.prompts).2 es).1,
        (rerankEvents rerankers ((q.wrapper rerankers).rerank cache q.query q.prompts).2 es).2) := rfl

/-- **Run lemma.** After the events, a key holds what the calls since its last expiry stored
    first — or, when it never expired, what it held before. -/
theorem lookup_rerankEvents (es : List CacheEvent) (cache : Cache) (acc : List RerankCall)
    (k : List UInt8) (hacc : cache.lookup k = acc.findSome? (RerankCall.stored rerankers k)) :
    (rerankEvents rerankers cache es).2.lookup k =
      (callsSince k acc es).findSome? (RerankCall.stored rerankers k) := by
  induction es generalizing cache acc with
  | nil => exact hacc
  | cons e es ih =>
    cases e with
    | call q =>
      rw [rerankEvents_call]
      refine ih _ _ ?_
      rw [RerankCall.lookup_rerank, hacc, List.findSome?_append, List.findSome?_cons, List.findSome?_nil]
      cases q.stored rerankers k <;> rfl
    | expire k' =>
      refine ih _ _ ?_
      by_cases hk : k' = k
      · simp [hk]
      · simp [hk, Ne.symm hk, hacc]

theorem length_rerankEvents (es : List CacheEvent) (cache : Cache) :
    (rerankEvents rerankers cache es).1.length = (es.filterMap CacheEvent.call?).length := by
  induction es generalizing cache with
  | nil => rfl
  | cons e es ih => cases e <;> simp [rerankEvents, CacheEvent.call?, ih]

theorem rerankEvents_append (cache : Cache) (es₁ es₂ : List CacheEvent) :
    rerankEvents rerankers cache (es₁ ++ es₂) =
      ((rerankEvents rerankers cache es₁).1 ++
          (rerankEvents rerankers (rerankEvents rerankers cache es₁).2 es₂).1,
        (rerankEvents rerankers (rerankEvents rerankers cache es₁).2 es₂).2) := by
  induction es₁ generalizing cache with
  | nil => rfl
  | cons e es ih => cases e <;> simp [rerankEvents, ih]

/-- **What every call returns.**  From an empty cache, whatever expires when, a call returns the
    scores of the first call with the same key since that key last expired whose reranker
    succeeded, and otherwise whatever its own reranker answers. -/
theorem rerankEvents_result (pre post : List CacheEvent) (q : RerankCall) :
    (rerankEvents rerankers [] (pre ++ .call q :: post)).1[(pre.filterMap CacheEvent.call?).length]? =
      some (match (callsSince (q.key rerankers) [] pre).findSome? (RerankCall.stored rerankers (q.key rerankers)) with
        | some v => .ok v
        | none => q.answer rerankers) := by
  rw [rerankEvents_append, List.getElem?_append_right (by rw [length_rerankEvents]),
    length_rerankEvents, Nat.sub_self]
  simp only [rerankEvents, List.getElem?_cons_zero, RerankCall.rerank_fst,
    lookup_rerankEvents rerankers pre [] [] _ rfl]

end Expiry

/-! ### Colliding keys -/

/-- The query `x|p\x00\x00:y` with no prompts spells the same bytes as the query `x` with the
    prompt `y`, for every model. -/
theorem cacheKey_collision (c : CachedReranker) :
    c.cacheKey "x|p\x00\x00:y" [] = c.cacheKey "x" ["y"] := by
  simp only [CachedReranker.cacheKey, List.append_assoc]
  congr 1

/-- A reranker giving every prompt the score `0`. -/
def zeroScores : Reranker := fun _ prompts => .ok (prompts.map fun _ => 0)

/-- The two calls of `cacheKey_collision`, on one model. -/
def collidingCalls : List RerankCall := [⟨"m", "x", ["y"]⟩, ⟨"m", "x|p\x00\x00:y", []⟩]

/-- The second call gets the first one's single score back, for no prompts. -/
theorem rerankAll_collision :
    (rerankAll (fun _ => zeroScores) [] collidingCalls).1 = [.ok [0], .ok [0]] ∧
      collidingCalls.map (RerankCall.answer fun _ => zeroScores) = [.ok [0], .ok []] :=
  ⟨rfl, rfl⟩

end Termite
