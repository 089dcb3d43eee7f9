import Termite.Go.Time
import Termite.Go.Map
import Mathlib.Data.List.Chain
import Mathlib.Tactic.Linarith

namespace Termite.Proxy

open Termite.Go

/-!
# The per-route token bucket (`RateLimiter`)

`NewRateLimiter(rps, burst, perModel)` starts one full bucket; `Allow(model)` refills the
bucket the call draws from for the time elapsed since its last update, clamps it to
`burstSize`, and takes one token if there is one.  With `perModel` each model name gets its
own bucket, created full on the model's first call.  Token counts are `float64` in the source
and exact rationals here; `time.Now()` is an explicit argument.

* `ModelLimit.refilled` / `ModelLimit.refillTake` — one bucket's step, with its spec lemmas.
* `BucketInv` — what every bucket satisfies after any run: tokens in `[0, burst]`, and the
  admission bound `#admitted in [a, u] ≤ rate·(u - a) + burst`, carried by a potential
  (`#admitted since a + tokens ≤ burst + rate·(last - a)`).
* `LimiterInv` — `BucketInv` for every bucket of the limiter, against the calls made on it.
* `allow_admissions_bounded` — the bound over every run from `newRateLimiter`.
-/

/-- One token bucket (`modelLimit`); the global bucket is the pair `tokens`/`lastUpdate`
    stored in `RateLimiter` itself. -/
@[ext] structure ModelLimit where
  tokens : ℚ
  lastUpdate : Time
  deriving DecidableEq

/-- `RateLimiter`; the mutex is left out (calls are sequential here). -/
structure RateLimiter where
  rate : ℚ
  burstSize : Int
  tokens : ℚ
  lastUpdate : Time
  perModel : Bool
  modelLimits : List (String × ModelLimit)
  deriving DecidableEq

/-- `NewRateLimiter(rps, burst, perModel)`, created at `now`. -/
def newRateLimiter (rps burst : Int) (perModel : Bool) (now : Time) : RateLimiter where
  rate := rps
  burstSize := burst
  tokens := burst
  lastUpdate := now
  perModel := perModel
  modelLimits := []

/-! ### One bucket -/

namespace ModelLimit

/-- The token count after the refill and the clamp (lines 211–215 of `Allow`). -/
def refilled (b : ModelLimit) (rate : ℚ) (burstSize : Int) (now : Time) : ℚ :=
  if b.tokens + Time.seconds (now - b.lastUpdate) * rate > burstSize then (burstSize : ℚ)
  else b.tokens + Time.seconds (now - b.lastUpdate) * rate

/-- Refill, then take one token if there is one (lines 211–223 of `Allow`). -/
def refillTake (b : ModelLimit) (rate : ℚ) (burstSize : Int) (now : Time) : Bool × ModelLimit :=
  if 1 ≤ b.refilled rate burstSize now then (true, ⟨b.refilled rate burstSize now - 1, now⟩)
  else (false, ⟨b.refilled rate burstSize now, now⟩)

variable (b : ModelLimit) (rate : ℚ) (burst : Int) (now : Time)

@[simp] theorem refillTake_fst :
    (b.refillTake rate burst now).1 = decide (1 ≤ b.refilled rate burst now) := by
  unfold refillTake; split <;> simp [*]

@[simp] theorem refillTake_lastUpdate : (b.refillTake rate burst now).2.lastUpdate = now := by
  unfold refillTake; split <;> rfl

theorem refillTake_tokens :
    (b.refillTake rate burst now).2.tokens =
      b.refilled rate burst now - if (b.refillTake rate burst now).1 then 1 else 0 := by
  unfold refillTake; split <;> simp_all

theorem refilled_le_burst : b.refilled rate burst now ≤ burst := by
  unfold refilled; split <;> linarith

theorem refilled_le_refill :
    b.refilled rate burst now ≤ b.tokens + Time.seconds (now - b.lastUpdate) * rate := by
  unfold refilled; split <;> linarith

theorem refillTake_tokens_le : (b.refillTake rate burst now).2.tokens ≤ burst := by
  have := b.refilled_le_burst rate burst now
  unfold refillTake; split <;> dsimp only <;> linarith

theorem refillTake_tokens_nonneg (h : 0 ≤ b.refilled rate burst now) :
    0 ≤ (b.refillTake rate burst now).2.tokens := by
  unfold refillTake; split <;> dsimp only <;> linarith

theorem refilled_nonneg (hb : 0 ≤ b.tokens) (hr : 0 ≤ rate) (hB : (0 : ℚ) ≤ burst)
    (hnow : b.lastUpdate ≤ now) : 0 ≤ b.refilled rate burst now := by
  have he := Time.seconds_nonneg (sub_nonneg.mpr hnow)
  unfold refilled; split
  · exact hB
  · exact add_nonneg hb (mul_nonneg he hr)

end ModelLimit

/-! ### The bucket invariant -/

/-- Calls admitted at a time `≥ a`, in a bucket's history of `(time, answer)` pairs. -/
def countSince (a : Time) (h : List (Time × Bool)) : Nat :=
  (h.filter fun p => decide (a ≤ p.1) && p.2).length

/-- Calls admitted at a time in `[a, u]`. -/
def countWithin (a u : Time) (h : List (Time × Bool)) : Nat :=
  (h.filter fun p => decide (a ≤ p.1) && decide (p.1 ≤ u) && p.2).length

@[simp] theorem countSince_nil (a : Time) : countSince a [] = 0 := rfl
@[simp] theorem countWithin_nil (a u : Time) : countWithin a u [] = 0 := rfl

theorem countSince_snoc (a t : Time) (ok : Bool) (h : List (Time × Bool)) :
    countSince a (h ++ [(t, ok)]) = countSince a h + if a ≤ t ∧ ok then 1 else 0 := by
  by_cases hc : a ≤ t ∧ ok = true <;> simp_all [countSince, List.filter_append]

theorem countWithin_snoc (a u t : Time) (ok : Bool) (h : List (Time × Bool)) :
    countWithin a u (h ++ [(t, ok)]) = countWithin a u h + if a ≤ t ∧ t ≤ u ∧ ok then 1 else 0 := by
  by_cases hc : a ≤ t ∧ t ≤ u ∧ ok = true <;> simp_all [countWithin, List.filter_append]

/-- When every recorded call is at or before `u`, the window `[a, u]` is everything since `a`. -/
theorem countWithin_eq_countSince {a u : Time} {h : List (Time × Bool)}
    (hu : ∀ p ∈ h, p.1 ≤ u) : countWithin a u h = countSince a h := by
  unfold countWithin countSince
  congr 1
  apply List.filter_congr
  intro p hp
  simp [hu p hp]

/-- The invariant of one bucket `b` against the history `h` of the calls made on it. -/
structure BucketInv (rate : ℚ) (burst : Int) (b : ModelLimit) (h : List (Time × Bool)) : Prop where
  tokens_nonneg : 0 ≤ b.tokens
  tokens_le : b.tokens ≤ burst
  past : ∀ p ∈ h, p.1 ≤ b.lastUpdate
  potential : ∀ a, countSince a h = 0 ∨
    (countSince a h : ℚ) + b.tokens ≤ burst + rate * Time.seconds (b.lastUpdate - a)
  window : ∀ a u, a ≤ u → (countWithin a u h : ℚ) ≤ rate * Time.seconds (u - a) + burst

variable {rate : ℚ} {burst : Int}

/-- A bucket that is full and has seen no call. -/
theorem BucketInv.fresh (hr : 0 ≤ rate) (hB : 0 ≤ burst) (t : Time) :
    BucketInv rate burst ⟨burst, t⟩ [] where
  tokens_nonneg := Int.cast_nonneg.mpr hB
  tokens_le := le_refl _
  past := by simp
  potential := by simp
  window a u hau := by
    have := mul_nonneg hr (Time.seconds_nonneg (sub_nonneg.mpr hau))
    have : (0 : ℚ) ≤ burst := Int.cast_nonneg.mpr hB
    simp only [countWithin_nil, Nat.cast_zero]; linarith

/-- The arithmetic of one step: the admitted call (if any) costs exactly the token it took,
    and the refill is at most `rate` per second since the last update. -/
private theorem potential_step {b : ModelLimit} {h : List (Time × Bool)}
    (hi : BucketInv rate burst b h) (hr : 0 ≤ rate) (now a : Time) :
    countSince a (h ++ [(now, (b.refillTake rate burst now).1)]) = 0 ∨
      (countSince a (h ++ [(now, (b.refillTake rate burst now).1)]) : ℚ) +
        (b.refillTake rate burst now).2.tokens ≤ burst + rate * Time.seconds (now - a) := by
  have hRB := b.refilled_le_burst rate burst now
  have hRle := b.refilled_le_refill rate burst now
  have hT := b.refillTake_tokens rate burst now
  -- the allowance since `a` is the refill since the last update plus the allowance before it
  have hsplit : rate * Time.seconds (now - a) =
      Time.seconds (now - b.lastUpdate) * rate + rate * Time.seconds (b.lastUpdate - a) := by
    rw [Time.seconds_sub now b.lastUpdate a]; ring
  rw [countSince_snoc]
  cases hok : (b.refillTake rate burst now).1
  · -- refused: the count is unchanged and the tokens are the refilled level
    simp only [hok, Bool.false_eq_true, and_false, if_false, add_zero, sub_zero] at hT ⊢
    rcases hi.potential a with h0 | hpot
    · exact Or.inl h0
    · right; rw [hT]; linarith
  · -- admitted: one more call since `a` when `a ≤ now`, one token fewer
    simp only [hok, and_true, if_true] at hT ⊢
    rcases hi.potential a with h0 | hpot
    · by_cases ha : a ≤ now
      · right
        have := mul_nonneg hr (Time.seconds_nonneg (sub_nonneg.mpr ha))
        simp only [h0, ha, if_true, zero_add, Nat.cast_one, hT]; linarith
      · left; simp [h0, ha]
    · right
      have hle : ((if a ≤ now then 1 else 0 : ℕ) : ℚ) ≤ 1 := by split <;> norm_num
      push_cast at hle ⊢; rw [hT]; linarith

/-- **Step lemma.** One `refillTake` at a time no earlier than the bucket's last update
    keeps the invariant, the call being appended to the history. -/
theorem BucketInv.refillTake {b : ModelLimit} {h : List (Time × Bool)} (hi : BucketInv rate burst b h)
    (hr : 0 ≤ rate) {now : Time} (hnow : b.lastUpdate ≤ now) :
    BucketInv rate burst (b.refillTake rate burst now).2 (h ++ [(now, (b.refillTake rate burst now).1)]) := by
  have hB : (0 : ℚ) ≤ burst := hi.tokens_nonneg.trans hi.tokens_le
  have hT0 := b.refillTake_tokens_nonneg rate burst now
    (b.refilled_nonneg rate burst now hi.tokens_nonneg hr hB hnow)
  have pot := potential_step hi hr now
  refine ⟨hT0, b.refillTake_tokens_le rate burst now, ?_, ?_, ?_⟩
  · rw [ModelLimit.refillTake_lastUpdate]
    exact List.forall_mem_append.mpr ⟨fun p hp => (hi.past p hp).trans hnow, by simp⟩
  · rw [ModelLimit.refillTake_lastUpdate]; exact pot
  · intro a u hau
    rw [countWithin_snoc]
    by_cases hc : a ≤ now ∧ now ≤ u ∧ (b.refillTake rate burst now).1 = true
    · -- the new call is in the window, and so is every earlier one after `a`
      have hall : ∀ p ∈ h ++ [(now, (b.refillTake rate burst now).1)], p.1 ≤ u :=
        List.forall_mem_append.mpr ⟨fun p hp => (hi.past p hp).trans (hnow.trans hc.2.1), by simpa using hc.2.1⟩
      have hw := countWithin_eq_countSince (a := a) hall
      rw [countWithin_snoc] at hw
      rw [hw]
      have hmono : Time.seconds (now - a) ≤ Time.seconds (u - a) := by
        have := Time.seconds_sub u now a
        have := Time.seconds_nonneg (sub_nonneg.mpr hc.2.1); linarith
      have := mul_le_mul_of_nonneg_left hmono hr
      have := mul_nonneg hr (Time.seconds_nonneg (sub_nonneg.mpr hau))
      rcases pot a with h0 | hpot
      · rw [h0]; simp only [Nat.cast_zero]; linarith
      · linarith
    · simp only [hc, if_false, add_zero]; exact hi.window a u hau

/-! ### The limiter -/

namespace RateLimiter

/-- `Allow(model)` at time `now`: the answer and the limiter after the call. -/
def allow (rl : RateLimiter) (model : String) (now : Time) : Bool × RateLimiter :=
  if rl.perModel then
    let ml := (rl.modelLimits.lookup model).getD ⟨rl.burstSize, now⟩
    ((ml.refillTake rl.rate rl.burstSize now).1,
      { rl with modelLimits := mapSet model (ml.refillTake rl.rate rl.burstSize now).2 rl.modelLimits })
  else
    let b : ModelLimit := ⟨rl.tokens, rl.lastUpdate⟩
    ((b.refillTake rl.rate rl.burstSize now).1,
      { rl with tokens := (b.refillTake rl.rate rl.burstSize now).2.tokens,
                lastUpdate := (b.refillTake rl.rate rl.burstSize now).2.lastUpdate })

/-- The bucket a call for `model` draws from: the model's own (`some model`) when `perModel`,
    the global one (`none`) otherwise. -/
def bucketKey (rl : RateLimiter) (model : String) : Option String :=
  if rl.perModel then some model else none

/-- The bucket stored under a key, if it exists yet. -/
def bucket (rl : RateLimiter) : Option String → Option ModelLimit
  | none => if rl.perModel then none else some ⟨rl.tokens, rl.lastUpdate⟩
  | some m => if rl.perModel then rl.modelLimits.lookup m else none

/-- A sequence of `Allow` calls, given as `(model, time)`, with their answers. -/
def run : RateLimiter → List (String × Time) → List Bool × RateLimiter
  | rl, [] => ([], rl)
  | rl, (m, t) :: cs =>
    ((rl.allow m t).1 :: ((rl.allow m t).2.run cs).1, ((rl.allow m t).2.run cs).2)

variable (rl : RateLimiter) (m : String) (now : Time)

@[simp] theorem run_rate (calls : List (String × Time)) : (rl.run calls).2.rate = rl.rate := by
  induction calls generalizing rl with
  | nil => rfl
  | cons c calls ih => simp only [run, ih]; unfold allow; split <;> rfl

@[simp] theorem run_burstSize (calls : List (String × Time)) :
    (rl.run calls).2.burstSize = rl.burstSize := by
  induction calls generalizing rl with
  | nil => rfl
  | cons c calls ih => simp only [run, ih]; unfold allow; split <;> rfl

@[simp] theorem run_perModel (calls : List (String × Time)) :
    (rl.run calls).2.perModel = rl.perModel := by
  induction calls generalizing rl with
  | nil => rfl
  | cons c calls ih => simp only [run, ih]; unfold allow; split <;> rfl

@[simp] theorem allow_rate : (rl.allow m now).2.rate = rl.rate := by
  unfold allow; split <;> rfl
@[simp] theorem allow_burstSize : (rl.allow m now).2.burstSize = rl.burstSize := by
  unfold allow; split <;> rfl
@[simp] theorem allow_perModel : (rl.allow m now).2.perModel = rl.perModel := by
  unfold allow; split <;> rfl

theorem allow_bucketKey : (rl.allow m now).2.bucketKey = rl.bucketKey := by
  funext m'; simp [bucketKey]

/-- The bucket the call draws from: the stored one, or a full one created now. -/
def current (k : Option String) : ModelLimit := (rl.bucket k).getD ⟨rl.burstSize, now⟩

/-- **Spec of `Allow`.** The answer is the drawn bucket's `refillTake`; that bucket is
    replaced by its result and every other bucket is left as it was. -/
theorem allow_spec :
    (rl.allow m now).1 = ((rl.current now (rl.bucketKey m)).refillTake rl.rate rl.burstSize now).1 ∧
    ∀ k, (rl.allow m now).2.bucket k =
      if k = rl.bucketKey m then
        some ((rl.current now (rl.bucketKey m)).refillTake rl.rate rl.burstSize now).2
      else rl.bucket k := by
  unfold allow current bucketKey
  by_cases hp : rl.perModel
  · refine ⟨by simp [hp, bucket], ?_⟩
    rintro (_ | k)
    · simp [hp, bucket]
    · by_cases hk : k = m <;> simp [hp, bucket, hk]
  · refine ⟨by simp [hp, bucket], ?_⟩
    rintro (_ | k)
    · simp only [hp, bucket, if_true, if_false, Bool.false_eq_true, Option.getD_some]
    · simp [hp, bucket]

end RateLimiter

/-- The calls made on bucket `k`, in order, from a record of `(bucket, time, answer)`. -/
def project (k : Option String) (hist : List (Option String × Time × Bool)) : List (Time × Bool) :=
  hist.filterMap fun e => if e.1 = k then some e.2 else none

theorem project_snoc (k k' : Option String) (t : Time) (ok : Bool)
    (hist : List (Option String × Time × Bool)) :
    project k (hist ++ [(k', t, ok)]) = if k' = k then project k hist ++ [(t, ok)] else project k hist := by
  by_cases h : k' = k <;> simp [project, List.filterMap_append, h]

/-- The limiter invariant against the record `hist` of all calls so far, `clock` being the time
    of the latest one: every bucket satisfies `BucketInv` for the calls made on it, and a bucket
    that does not exist yet has seen no call. -/
structure LimiterInv (rl : RateLimiter) (hist : List (Option String × Time × Bool)) (clock : Time) :
    Prop where
  rate_nonneg : 0 ≤ rl.rate
  burst_nonneg : 0 ≤ rl.burstSize
  buckets : ∀ k, match rl.bucket k with
    | some b => BucketInv rl.rate rl.burstSize b (project k hist) ∧ b.lastUpdate ≤ clock
    | none => project k hist = []

/-- **Step lemma.** `Allow` at a time no earlier than the latest call keeps the invariant. -/
theorem LimiterInv.allow {rl : RateLimiter} {hist : List (Option String × Time × Bool)} {clock : Time}
    (hi : LimiterInv rl hist clock) (m : String) {now : Time} (hnow : clock ≤ now) :
    LimiterInv (rl.allow m now).2 (hist ++ [(rl.bucketKey m, now, (rl.allow m now).1)]) now := by
  obtain ⟨hans, hbk⟩ := rl.allow_spec m now
  refine ⟨by simpa using hi.rate_nonneg, by simpa using hi.burst_nonneg, fun k => ?_⟩
  rw [hbk k, project_snoc]
  by_cases hk : k = rl.bucketKey m
  · subst hk
    simp only [if_true, RateLimiter.allow_rate, RateLimiter.allow_burstSize, hans]
    -- the drawn bucket satisfies the invariant before the call, whether stored or fresh
    have hcur : BucketInv rl.rate rl.burstSize (rl.current now (rl.bucketKey m))
        (project (rl.bucketKey m) hist) ∧ (rl.current now (rl.bucketKey m)).lastUpdate ≤ now := by
      have hb := hi.buckets (rl.bucketKey m)
      unfold RateLimiter.current
      cases hc : rl.bucket (rl.bucketKey m) with
      | none => rw [hc] at hb; rw [hb]; exact ⟨BucketInv.fresh hi.rate_nonneg hi.burst_nonneg now, le_refl _⟩
      | some b => rw [hc] at hb; exact ⟨hb.1, hb.2.trans hnow⟩
    exact ⟨hcur.1.refillTake hi.rate_nonneg hcur.2, by simp⟩
  · simp only [hk, if_false, Ne.symm hk, RateLimiter.allow_rate, RateLimiter.allow_burstSize]
    have hb := hi.buckets k
    cases hc : rl.bucket k with
    | none => rw [hc] at hb; exact hb
    | some b => rw [hc] at hb; exact ⟨hb.1, hb.2.trans hnow⟩

/-- The record of a run: each call's bucket, time and answer. -/
def record (rl : RateLimiter) (calls : List (String × Time)) (oks : List Bool) :
    List (Option String × Time × Bool) :=
  (calls.zip oks).map fun c => (rl.bucketKey c.1.1, c.1.2, c.2)

/-- **Run lemma.** Over any sequence of calls at non-decreasing times, none earlier than the
    latest call so far, the invariant holds of the final limiter and the whole record. -/
theorem LimiterInv.run {rl : RateLimiter} {hist : List (Option String × Time × Bool)} {clock : Time}
    (hi : LimiterInv rl hist clock) (calls : List (String × Time))
    (htimes : List.Chain (· ≤ ·) clock (calls.map Prod.snd)) :
    ∃ clock', LimiterInv (rl.run calls).2 (hist ++ record rl calls (rl.run calls).1) clock' := by
  induction calls generalizing rl hist clock with
  | nil => exact ⟨clock, by simpa [RateLimiter.run, record] using hi⟩
  | cons c calls ih =>
    obtain ⟨m, t⟩ := c
    simp only [List.map_cons, List.chain_cons] at htimes
    obtain ⟨clock', h'⟩ := ih (hi.allow m htimes.1) htimes.2
    refine ⟨clock', ?_⟩
    simpa [RateLimiter.run, record, RateLimiter.allow_bucketKey] using h'

/-- Admitted calls on bucket `k` at times in `[a, u]`, for calls and their answers. -/
def admitted (rl : RateLimiter) (k : Option String) (a u : Time) (calls : List (String × Time))
    (oks : List Bool) : Nat :=
  ((calls.zip oks).filter fun c =>
    decide (rl.bucketKey c.1.1 = k) && decide (a ≤ c.1.2) && decide (c.1.2 ≤ u) && c.2).length

theorem admitted_eq_countWithin (rl : RateLimiter) (k : Option String) (a u : Time)
    (calls : List (String × Time)) (oks : List Bool) :
    admitted rl k a u calls oks = countWithin a u (project k (record rl calls oks)) := by
  unfold admitted countWithin project record
  induction calls.zip oks with
  | nil => rfl
  | cons c l ih =>
    by_cases hk : rl.bucketKey c.1.1 = k <;>
      by_cases hw : a ≤ c.1.2 ∧ c.1.2 ≤ u ∧ c.2 = true <;>
      simp_all [List.filter_cons, List.filterMap_cons]

theorem newRateLimiter_inv (rps burst : Int) (perModel : Bool) (t0 : Time) (hrps : 0 < rps)
    (hburst : 0 ≤ burst) : LimiterInv (newRateLimiter rps burst perModel t0) [] t0 := by
  refine ⟨by simp [newRateLimiter]; exact_mod_cast hrps.le, hburst, ?_⟩
  rintro (_ | k) <;> cases perModel <;>
    simp [RateLimiter.bucket, newRateLimiter, project, BucketInv.fresh (Int.cast_nonneg.mpr hrps.le) hburst]

/-! ### A call one refill period later -/

/-- A bucket holding no debt, refilled for at least one token's worth of time, holds a token
    once clamped to a burst of at least one. -/
theorem ModelLimit.one_le_refilled {b : ModelLimit} {rate : ℚ} {burst : Int} {now : Time}
    (hb : 0 ≤ b.tokens) (hB : 1 ≤ burst) (hgap : 1 ≤ Time.seconds (now - b.lastUpdate) * rate) :
    1 ≤ b.refilled rate burst now := by
  have : (1 : ℚ) ≤ burst := by exact_mod_cast hB
  unfold ModelLimit.refilled; split <;> linarith

namespace RateLimiter

/-- **A call a refill period after the last one on its bucket is granted**, in any state of the
    limiter invariant with a burst of at least one. -/
theorem allow_eq_true_of_gap {rl : RateLimiter} {hist : List (Option String × Time × Bool)} {clock : Time}
    (hi : LimiterInv rl hist clock) (hB : 1 ≤ rl.burstSize) (m : String) (t : Time)
    (hgap : ∀ b, rl.bucket (rl.bucketKey m) = some b → 1 ≤ Time.seconds (t - b.lastUpdate) * rl.rate) :
    (rl.allow m t).1 = true := by
  rw [(rl.allow_spec m t).1, ModelLimit.refillTake_fst, decide_eq_true_eq]
  have hb := hi.buckets (rl.bucketKey m)
  unfold current
  cases hc : rl.bucket (rl.bucketKey m) with
  | none =>
    -- a bucket created by this call is full
    have : (1 : ℚ) ≤ rl.burstSize := by exact_mod_cast hB
    simp [ModelLimit.refilled, Time.seconds, this]
  | some b =>
    rw [hc] at hb
    exact ModelLimit.one_le_refilled hb.1.tokens_nonneg hB (hgap b hc)

/-- With a burst below one, no call is ever granted. -/
theorem allow_eq_false_of_burst {rl : RateLimiter} (hB : rl.burstSize < 1) (m : String) (t : Time) :
    (rl.allow m t).1 = false := by
  have hle := (rl.current t (rl.bucketKey m)).refilled_le_burst rl.rate rl.burstSize t
  have : (rl.burstSize : ℚ) < 1 := by exact_mod_cast hB
  rw [(rl.allow_spec m t).1, ModelLimit.refillTake_fst, decide_eq_false_iff_not]
  linarith

/-- The time of the latest call on bucket `k` among `calls`, if there is one. -/
def lastCallOn (rl : RateLimiter) (k : Option String) : List (String × Time) → Option Time
  | [] => none
  | c :: cs => (rl.lastCallOn k cs).or (if rl.bucketKey c.1 = k then some c.2 else none)

/-- **Run lemma.** After a run, a bucket was last updated by the latest call on it, or is as it
    was before the run. -/
theorem run_bucket_lastUpdate (rl : RateLimiter) (calls : List (String × Time)) (k : Option String) :
    ((rl.run calls).2.bucket k).map ModelLimit.lastUpdate =
      (rl.lastCallOn k calls).or ((rl.bucket k).map ModelLimit.lastUpdate) := by
  induction calls generalizing rl with
  | nil => rfl
  | cons c calls ih =>
    obtain ⟨m, t⟩ := c
    have hstep : ((rl.allow m t).2.bucket k).map ModelLimit.lastUpdate =
        (if rl.bucketKey m = k then some t else none).or ((rl.bucket k).map ModelLimit.lastUpdate) := by
      rw [(rl.allow_spec m t).2 k]
      by_cases hk : k = rl.bucketKey m
      · simp [hk]
      · simp [hk, Ne.symm hk]
    have hkey : ∀ cs, (rl.allow m t).2.lastCallOn k cs = rl.lastCallOn k cs := by
      intro cs
      induction cs with
      | nil => rfl
      | cons c cs ih' => simp only [lastCallOn, ih', allow_bucketKey]
    simp only [run, lastCallOn, ih, hstep, hkey, Option.or_assoc]

@[simp] theorem run_bucketKey (rl : RateLimiter) (calls : List (String × Time)) :
    (rl.run calls).2.bucketKey = rl.bucketKey := by
  funext m; simp [bucketKey]

end RateLimiter

/-- From a fresh limiter, a bucket was last updated by the latest call on it, or at the
    creation. -/
theorem newRateLimiter_run_lastUpdate (rps burst : Int) (perModel : Bool) (t0 : Time)
    (calls : List (String × Time)) (k : Option String) {b : ModelLimit}
    (hb : ((newRateLimiter rps burst perModel t0).run calls).2.bucket k = some b) :
    b.lastUpdate = ((newRateLimiter rps burst perModel t0).lastCallOn k calls).getD t0 := by
  have h := (newRateLimiter rps burst perModel t0).run_bucket_lastUpdate calls k
  rw [hb] at h
  cases hl : (newRateLimiter rps burst perModel t0).lastCallOn k calls with
  | some t => simpa [hl] using h
  | none => rcases k with _ | m <;> cases perModel <;> simp_all [newRateLimiter, RateLimiter.bucket]

/-- **Token-bucket admission bound.**  From `NewRateLimiter(rps, burst, perModel)` with
    `rps > 0` and `burst ≥ 0`, over any calls at non-decreasing times none earlier than the
    creation: after every call every bucket holds between `0` and `burst` tokens, and on every
    bucket at most `rps·W + burst` calls made in any window `[a, a + W]` are admitted. -/
theorem allow_admissions_bounded (rps burst : Int) (perModel : Bool) (t0 : Time)
    (calls : List (String × Time)) (hrps : 0 < rps) (hburst : 0 ≤ burst)
    (htimes : List.Chain (· ≤ ·) t0 (calls.map Prod.snd)) :
    (∀ n k b, ((newRateLimiter rps burst perModel t0).run (calls.take n)).2.bucket k = some b →
      0 ≤ b.tokens ∧ b.tokens ≤ burst) ∧
    ∀ k a W, 0 ≤ W →
      (admitted (newRateLimiter rps burst perModel t0) k a (a + W) calls
        ((newRateLimiter rps burst perModel t0).run calls).1 : ℚ) ≤ rps * Time.seconds W + burst := by
  have h0 := newRateLimiter_inv rps burst perModel t0 hrps hburst
  constructor
  · intro n k b hb
    have htake : List.Chain (· ≤ ·) t0 ((calls.take n).map Prod.snd) := by
      have := (show List.Chain' (· ≤ ·) (t0 :: calls.map Prod.snd) from htimes).take (n + 1)
      simpa [List.map_take] using this
    obtain ⟨_, hinv⟩ := h0.run (calls.take n) htake
    have := hinv.buckets k
    rw [hb] at this
    exact ⟨this.1.tokens_nonneg, by simpa [newRateLimiter] using this.1.tokens_le⟩
  · intro k a W hW
    obtain ⟨_, hinv⟩ := h0.run calls htimes
    rw [admitted_eq_countWithin]
    have hb := hinv.buckets k
    cases hc : ((newRateLimiter rps burst perModel t0).run calls).2.bucket k with
    | none =>
      rw [hc] at hb
      have := mul_nonneg (Int.cast_nonneg.mpr hrps.le) (Time.seconds_nonneg hW)
      have : (0 : ℚ) ≤ burst := Int.cast_nonneg.mpr hburst
      simp only [List.nil_append] at hb; rw [hb]; simp only [countWithin_nil, Nat.cast_zero]; linarith
    | some b =>
      rw [hc] at hb
      have hw := hb.1.window a (a + W) (le_add_of_nonneg_right hW)
      simpa [newRateLimiter] using hw

/-- Spec scenario 4: one request per second with a burst of one, three requests at once. -/
theorem allow_admissions_bounded_burst_one :
    0 < (1 : Int) ∧ 0 ≤ (1 : Int) ∧
      List.Chain (· ≤ ·) (0 : Time) ([("bge-small", 0), ("bge-small", 0), ("bge-small", 0)].map Prod.snd) ∧
      ((∀ n k b, ((newRateLimiter 1 1 false 0).run
          ([("bge-small", 0), ("bge-small", 0), ("bge-small", 0)].take n)).2.bucket k = some b →
        0 ≤ b.tokens ∧ b.tokens ≤ (1 : Int)) ∧
      ∀ k a W, 0 ≤ W →
        (admitted (newRateLimiter 1 1 false 0) k a (a + W)
          [("bge-small", 0), ("bge-small", 0), ("bge-small", 0)]
          ((newRateLimiter 1 1 false 0).run
            [("bge-small", 0), ("bge-small", 0), ("bge-small", 0)]).1 : ℚ) ≤
          (1 : Int) * Time.seconds W + (1 : Int)) :=
  ⟨by decide, by decide, by simp,
    allow_admissions_bounded 1 1 false 0 _ (by decide) (by decide) (by simp)⟩

end Termite.Proxy
