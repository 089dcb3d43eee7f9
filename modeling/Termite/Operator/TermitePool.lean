import Mathlib.Data.List.Basic
import Mathlib.Data.List.Forall2

namespace Termite.Operator

/-!
# Admission of `TermitePool` resources

The validating webhook for pools: `ValidateCreate` runs `validateTermitePool`, which collects
the first error of each of `validateGKEConfig`, `validateNoConflictingSettings` and
`validateReplicaCounts`; `ValidateUpdate` runs `validateImmutability` against the old version
first and returns its error alone if there is one.  An `error` is `Option String`, `none`
being `nil`, with the source's messages.

* `effectiveAutopilot` — `spec.gke.autopilot`, read as `false` without a `gke` block.
* `validateUpdate_keeps_autopilot` / `admitted_history_keeps_autopilot` — once the autopilot
  flag is on it stays on, with the same compute class, along every admitted update history.
* `validateUpdate_admits_enabling_autopilot` — but a pool admitted without a `gke` block can
  be updated to `gke.autopilot = true`.
* `validateTermitePool_reports` — against the seven rules of the spec (`PoolRule`): a pool is
  admitted iff it keeps them all, and otherwise the error has one line per helper that fails,
  naming the first rule of that helper's group the pool breaks
  (`validateGKEConfig_reports` and its two siblings).
* `validateTermitePool_reports_first_replica_rule` — so a pool that breaks two replica rules is
  told of one.
-/

/-- Modelled from the spec: the `GKE` block of `TermitePoolSpec` (the pool's type declaration
    is not among the sources), with the two fields the webhook reads. -/
structure GKEConfig where
  autopilot : Bool
  autopilotComputeClass : String
  deriving DecidableEq

/-- Modelled from the spec: the `TermitePoolSpec` fields the webhook reads — the `GKE` block,
    `Hardware.Spot`, the replica bounds, and the names of the resource limits (`nil` for no
    `Resources` block or no `Limits` map). -/
structure TermitePoolSpec where
  gke : Option GKEConfig
  hardwareSpot : Bool
  replicasMin : Int
  replicasMax : Int
  resourceLimits : Option (List String)
  deriving DecidableEq

/-- The compute classes `validateGKEConfig` accepts. -/
def validClasses : List String :=
  ["Accelerator", "Balanced", "Performance", "Scale-Out", "autopilot", "autopilot-spot"]

namespace TermitePoolSpec

/-- `hasGPUResources`. -/
def hasGPUResources (r : TermitePoolSpec) : Bool :=
  match r.resourceLimits with
  | none => false
  | some limits => "nvidia.com/gpu" ∈ limits || "cloud.google.com/gke-gpu" ∈ limits

/-- `validateGKEConfig`: the compute class is known, needs autopilot, and `Accelerator` needs
    a GPU limit. -/
def validateGKEConfig (r : TermitePoolSpec) : Option String :=
  match r.gke with
  | none => none
  | some gke =>
    if gke.autopilotComputeClass ≠ "" ∧ gke.autopilotComputeClass ∉ validClasses then
      some ("invalid GKE Autopilot compute class '" ++ gke.autopilotComputeClass ++
        "'. Must be one of: " ++ ", ".intercalate validClasses)
    else if gke.autopilotComputeClass ≠ "" ∧ ¬gke.autopilot then
      some "spec.gke.autopilotComputeClass is set but spec.gke.autopilot=false

Problem: Compute classes only work with GKE Autopilot clusters.

Solution: Either:
  Option 1 (Use Autopilot): Set spec.gke.autopilot=true
  Option 2 (Standard GKE): Remove spec.gke.autopilotComputeClass and use spec.hardware.spot instead"
    else if gke.autopilotComputeClass = "Accelerator" ∧ ¬r.hasGPUResources then
      some "spec.gke.autopilotComputeClass='Accelerator' requires GPU resources

Problem: GKE Autopilot's Accelerator compute class is for GPU workloads ONLY.
For TPU workloads, do NOT use 'Accelerator' class - TPU provisioning uses node selectors.

Solution for GPU workloads: Add GPU resources to spec.resources
Solution for TPU workloads: Remove autopilotComputeClass='Accelerator' and use TPU node selectors

Example (GPU):
  spec:
    resources:
      limits:
        nvidia.com/gpu: \"1\"
    gke:
      autopilot: true
      autopilotComputeClass: \"Accelerator\"

Example (TPU with Spot pricing):
  spec:
    hardware:
      accelerator: \"tpu-v4-podslice\"
      topology: \"2x2x1\"
    gke:
      autopilot: true
      autopilotComputeClass: \"autopilot-spot\"  # Use this for spot, NOT \"Accelerator\"
    resources:
      limits:
        google.com/tpu: \"4\""
    else none

/-- `validateNoConflictingSettings`: no `hardware.spot` under autopilot. -/
def validateNoConflictingSettings (r : TermitePoolSpec) : Option String :=
  match r.gke with
  | some gke =>
    if gke.autopilot ∧ r.hardwareSpot then
      some "spec.hardware.spot=true conflicts with spec.gke.autopilot=true

Problem: GKE Autopilot uses compute classes for spot scheduling, not node selectors.

Solution: Remove 'hardware.spot: true' and use 'gke.autopilotComputeClass: autopilot-spot' instead

Example:
  spec:
    hardware:
      # spot: true  # REMOVE THIS
      accelerator: \"tpu-v5-lite-podslice\"
      topology: \"2x2\"
    gke:
      autopilot: true
      autopilotComputeClass: 'autopilot-spot'  # ADD THIS"
    else none
  | none => none

/-- `validateReplicaCounts`. -/
def validateReplicaCounts (r : TermitePoolSpec) : Option String :=
  if r.replicasMin < 0 then
    some ("spec.replicas.min must be >= 0, got " ++ toString r.replicasMin)
  else if r.replicasMax ≤ 0 then
    some ("spec.replicas.max must be > 0, got " ++ toString r.replicasMax)
  else if r.replicasMin > r.replicasMax then
    some ("spec.replicas.min (" ++ toString r.replicasMin ++
      ") cannot be greater than spec.replicas.max (" ++ toString r.replicasMax ++ ")")
  else none

/-- `validateTermitePool`: every helper's error, one per line. -/
def validateTermitePool (r : TermitePoolSpec) : Option String :=
  let allErrors := [r.validateGKEConfig, r.validateNoConflictingSettings, r.validateReplicaCounts].filterMap id
  if allErrors = [] then none
  else some ("TermitePool validation failed:\n  - " ++ "\n  - ".intercalate allErrors)

/-- `validateImmutability` of `r` against the old version `old`. -/
def validateImmutability (r old : TermitePoolSpec) : Option String :=
  let both : List String :=
    match r.gke, old.gke with
    | some g, some o =>
      (if g.autopilot ≠ o.autopilot then
        ["field 'spec.gke.autopilot' is immutable after deployment

Problem: Changing Autopilot mode requires pod recreation, which may disrupt model serving.

Solution: Delete and recreate the pool to change this setting.

Current value: " ++ toString o.autopilot ++ "
Attempted change: " ++ toString g.autopilot]
      else []) ++
      (if g.autopilot ∧ g.autopilotComputeClass ≠ o.autopilotComputeClass then
        ["field 'spec.gke.autopilotComputeClass' is immutable after deployment

Problem: Changing compute class requires pod recreation, which may disrupt model serving.

Solution: Delete and recreate the pool to change this setting.

Current value: \"" ++ o.autopilotComputeClass ++ "\"
Attempted change: \"" ++ g.autopilotComputeClass ++ "\""]
      else [])
    | _, _ => []
  let addRemove : List String :=
    if (r.gke.isSome ∧ old.gke.isNone) ∨ (r.gke.isNone ∧ old.gke.isSome) then
      match old.gke with
      | some o =>
        if o.autopilot then
          ["cannot remove spec.gke configuration after deployment when autopilot was enabled

Problem: Removing GKE configuration would change the scheduling behavior.

Solution: Delete and recreate the pool to change this setting."]
        else []
      | none => []
    else []
  let errors := both ++ addRemove
  if errors = [] then none else some ("\n\n".intercalate errors)

/-- `ValidateCreate`. -/
def validateCreate (r : TermitePoolSpec) : Option String := r.validateTermitePool

/-- `ValidateUpdate(old)`. -/
def validateUpdate (r old : TermitePoolSpec) : Option String :=
  match r.validateImmutability old with
  | some err => some err
  | none => r.validateTermitePool

/-- The autopilot flag in effect: `spec.gke.autopilot`, `false` without a `gke` block. -/
def effectiveAutopilot (r : TermitePoolSpec) : Bool :=
  match r.gke with
  | some g => g.autopilot
  | none => false

/-- **Step lemma.** An update admitted against a version with autopilot on keeps the `gke`
    block as it was: autopilot on, same compute class. -/
theorem validateUpdate_keeps_autopilot {r old : TermitePoolSpec} (h : r.validateUpdate old = none)
    (ha : old.effectiveAutopilot = true) : r.gke = old.gke := by
  have himm : r.validateImmutability old = none := by
    unfold validateUpdate at h; split at h
    · cases h
    · assumption
  obtain ⟨o, ho, hoa⟩ : ∃ o, old.gke = some o ∧ o.autopilot = true := by
    cases hg : old.gke with
    | none => simp [effectiveAutopilot, hg] at ha
    | some o => exact ⟨o, rfl, by simpa [effectiveAutopilot, hg] using ha⟩
  simp only [validateImmutability, ho] at himm
  cases hr : r.gke with
  | none => simp [hr, hoa] at himm
  | some g =>
    simp only [hr, Option.isSome_some, Option.isNone_some] at himm
    have hap : g.autopilot = o.autopilot := by
      by_contra hne; simp [hne] at himm
    have hcl : g.autopilotComputeClass = o.autopilotComputeClass := by
      by_contra hne; simp [hne, hap, hoa] at himm
    rw [ho]; cases g; cases o; simp_all

/-- **Run lemma.** Along any chain of admitted updates from a version with autopilot on, every
    later version has the same `gke` block. -/
theorem admitted_history_keeps_autopilot {p : TermitePoolSpec} {ps : List TermitePoolSpec}
    (hchain : List.Chain (fun old new => new.validateUpdate old = none) p ps)
    (ha : p.effectiveAutopilot = true) : ∀ q ∈ ps, q.gke = p.gke := by
  induction hchain with
  | nil => simp
  | @cons a b l hab _ ih =>
    have hb := validateUpdate_keeps_autopilot hab ha
    have hb' : b.effectiveAutopilot = true := by unfold effectiveAutopilot at ha ⊢; rw [hb]; exact ha
    intro q hq
    rcases List.mem_cons.mp hq with rfl | hq
    · exact hb
    · rw [ih hb' q hq, hb]

end TermitePoolSpec

/-- A pool created without a `gke` block, then updated to turn autopilot on. -/
def poolWithoutGKE : TermitePoolSpec :=
  { gke := none, hardwareSpot := false, replicasMin := 1, replicasMax := 2, resourceLimits := none }

/-- The same pool with `gke.autopilot = true`. -/
def poolWithAutopilot : TermitePoolSpec :=
  { poolWithoutGKE with gke := some { autopilot := true, autopilotComputeClass := "" } }

/-- Both versions are admitted, yet the autopilot flag in effect goes from `false` to `true`. -/
theorem validateUpdate_admits_enabling_autopilot :
    poolWithoutGKE.validateCreate = none ∧
    poolWithAutopilot.validateUpdate poolWithoutGKE = none ∧
    poolWithoutGKE.effectiveAutopilot = false ∧ poolWithAutopilot.effectiveAutopilot = true := by
  decide

/-- The autopilot pool scaled out to three replicas. -/
def poolScaledOut : TermitePoolSpec := { poolWithAutopilot with replicasMax := 3 }

/-- Scaling the autopilot pool out is admitted and keeps its `gke` block. -/
theorem admitted_history_keeps_autopilot_poolScaledOut :
    List.Chain (fun old new => new.validateUpdate old = none) poolWithAutopilot [poolScaledOut] ∧
      poolWithAutopilot.effectiveAutopilot = true ∧ ∀ q ∈ [poolScaledOut], q.gke = poolWithAutopilot.gke :=
  have hchain : List.Chain (fun old new => new.validateUpdate old = none) poolWithAutopilot [poolScaledOut] :=
    .cons (by decide) .nil
  have ha : poolWithAutopilot.effectiveAutopilot = true := rfl
  ⟨hchain, ha, TermitePoolSpec.admitted_history_keeps_autopilot hchain ha⟩

/-! ### The pool rules -/

namespace TermitePoolSpec

/-- The compute class in effect: `spec.gke.autopilotComputeClass`, empty without a `gke` block. -/
def computeClass (r : TermitePoolSpec) : String := (r.gke.map (·.autopilotComputeClass)).getD ""

end TermitePoolSpec

/-- The rules of the pool admission spec, in the order the webhook's helpers check them. -/
inductive PoolRule
  | knownClass | classNeedsAutopilot | acceleratorNeedsGPU | spotNotAutopilot
  | minNonneg | maxPos | minLeMax
  deriving DecidableEq, Repr

namespace PoolRule

/-- Whether a pool keeps the rule. -/
def holds (r : TermitePoolSpec) : PoolRule → Bool
  | knownClass => decide (r.computeClass = "" ∨ r.computeClass ∈ validClasses)
  | classNeedsAutopilot => decide (r.computeClass = "" ∨ r.effectiveAutopilot = true)
  | acceleratorNeedsGPU => decide (r.computeClass ≠ "Accelerator" ∨
      "nvidia.com/gpu" ∈ r.resourceLimits.getD [] ∨ "cloud.google.com/gke-gpu" ∈ r.resourceLimits.getD [])
  | spotNotAutopilot => decide ¬(r.hardwareSpot = true ∧ r.effectiveAutopilot = true)
  | minNonneg => decide (0 ≤ r.replicasMin)
  | maxPos => decide (0 < r.replicasMax)
  | minLeMax => decide (r.replicasMin ≤ r.replicasMax)

/-- Words of the line that reports the rule broken. -/
def tag : PoolRule → String
  | knownClass => "invalid GKE Autopilot compute class"
  | classNeedsAutopilot => "spec.gke.autopilotComputeClass is set but spec.gke.autopilot=false"
  | acceleratorNeedsGPU => "spec.gke.autopilotComputeClass='Accelerator' requires GPU resources"
  | spotNotAutopilot => "spec.hardware.spot=true conflicts with spec.gke.autopilot=true"
  | minNonneg => "spec.replicas.min must be >= 0"
  | maxPos => "spec.replicas.max must be > 0"
  | minLeMax => "cannot be greater than spec.replicas.max"

/-- The rules in groups, one group per helper. -/
def groups : List (List PoolRule) :=
  [[knownClass, classNeedsAutopilot, acceleratorNeedsGPU], [spotNotAutopilot], [minNonneg, maxPos, minLeMax]]

/-- The first rule of a group the pool breaks. -/
def firstBroken (r : TermitePoolSpec) (g : List PoolRule) : Option PoolRule := g.find? fun ρ => !ρ.holds r

/-- A helper's error reports a rule: no error when no rule is broken, else a line naming it. -/
def Reports : Option String → Option PoolRule → Prop
  | none, none => True
  | some m, some ρ => ρ.tag.data <:+: m.data
  | _, _ => False

theorem reports_of_prefix {ρ : PoolRule} {m : String} (h : ρ.tag.data <+: m.data) :
    Reports (some m) (some ρ) := h.isInfix

theorem reports_of_prefix_append {ρ : PoolRule} {lit rest : String} (h : ρ.tag.data <+: lit.data) :
    Reports (some (lit ++ rest)) (some ρ) := by
  simp only [Reports, String.data_append]
  exact (h.trans (List.prefix_append _ _)).isInfix

theorem reports_of_infix {ρ : PoolRule} {pre lit post : String} (h : ρ.tag.data <:+: lit.data) :
    Reports (some (pre ++ lit ++ post)) (some ρ) := by
  simp only [Reports, String.data_append]
  exact h.trans (List.infix_append _ _ _)

end PoolRule

open PoolRule

namespace TermitePoolSpec

theorem validateGKEConfig_reports (r : TermitePoolSpec) :
    Reports r.validateGKEConfig (firstBroken r [knownClass, classNeedsAutopilot, acceleratorNeedsGPU]) := by
  cases hg : r.gke with
  | none => simp [validateGKEConfig, firstBroken, hg, holds, computeClass, Reports]
  | some g =>
    have hc : r.computeClass = g.autopilotComputeClass := by simp [computeClass, hg]
    have ha : r.effectiveAutopilot = g.autopilot := by simp [effectiveAutopilot, hg]
    have hgpu : r.hasGPUResources = decide ("nvidia.com/gpu" ∈ r.resourceLimits.getD [] ∨
        "cloud.google.com/gke-gpu" ∈ r.resourceLimits.getD []) := by
      unfold hasGPUResources; split <;> simp_all
    simp only [validateGKEConfig, hg, firstBroken, holds, hc, ha]
    split_ifs with h1 h2 h3
    · rw [List.find?_cons_of_pos _ (by simpa using h1), String.append_assoc, String.append_assoc]
      exact reports_of_prefix_append (by decide)
    · rw [List.find?_cons_of_neg _ (by simpa using h1), List.find?_cons_of_pos _ (by simpa using h2)]
      exact reports_of_prefix (by decide)
    · rw [List.find?_cons_of_neg _ (by simp [h3.1, validClasses]),
        List.find?_cons_of_neg _ (by simp [h3.1]; simpa [h3.1] using h2),
        List.find?_cons_of_pos _ (by simpa [hgpu, h3.1] using h3.2)]
      exact reports_of_prefix (by decide)
    · rw [List.find?_cons_of_neg _ (by simpa [or_iff_not_imp_left] using h1),
        List.find?_cons_of_neg _ (by simpa [or_iff_not_imp_left] using h2),
        List.find?_cons_of_neg _ (by simpa [hgpu, or_iff_not_imp_left] using h3), List.find?_nil]
      trivial

theorem validateNoConflictingSettings_reports (r : TermitePoolSpec) :
    Reports r.validateNoConflictingSettings (firstBroken r [spotNotAutopilot]) := by
  have ha : r.effectiveAutopilot = (r.gke.map (·.autopilot)).getD false := by
    unfold effectiveAutopilot; split <;> simp_all
  cases hg : r.gke with
  | none => simp [validateNoConflictingSettings, firstBroken, hg, holds, ha, Reports]
  | some g =>
    simp only [validateNoConflictingSettings, hg, firstBroken]
    split_ifs with h
    · rw [List.find?_cons_of_pos _ (by simp [holds, ha, hg, h.1, h.2])]
      exact reports_of_prefix (by decide)
    · rw [List.find?_cons_of_neg _ (by simp only [holds, ha, hg]; simpa [and_comm] using h), List.find?_nil]
      trivial

theorem validateReplicaCounts_reports (r : TermitePoolSpec) :
    Reports r.validateReplicaCounts (firstBroken r [minNonneg, maxPos, minLeMax]) := by
  simp only [validateReplicaCounts, firstBroken]
  split_ifs with h1 h2 h3
  · rw [List.find?_cons_of_pos _ (by simp [holds]; omega)]
    exact reports_of_prefix_append (by decide)
  · rw [List.find?_cons_of_neg _ (by simp [holds]; omega), List.find?_cons_of_pos _ (by simp [holds]; omega)]
    exact reports_of_prefix_append (by decide)
  · rw [List.find?_cons_of_neg _ (by simp [holds]; omega), List.find?_cons_of_neg _ (by simp [holds]; omega),
      List.find?_cons_of_pos _ (by simp [holds]; omega), String.append_assoc _ (toString r.replicasMax)]
    exact reports_of_infix ⟨") ".data, " (".data, rfl⟩
  · rw [List.find?_cons_of_neg _ (by simp [holds]; omega), List.find?_cons_of_neg _ (by simp [holds]; omega),
      List.find?_cons_of_neg _ (by simp [holds]; omega), List.find?_nil]
    trivial

theorem forall₂_filterMap_of_reports {os : List (Option String)} {rs : List (Option PoolRule)}
    (h : List.Forall₂ Reports os rs) :
    List.Forall₂ (fun ρ line => ρ.tag.data <:+: line.data) (rs.filterMap id) (os.filterMap id) := by
  induction h with
  | nil => exact .nil
  | @cons o ρ os rs hr _ ih =>
    match o, ρ, hr with
    | none, none, _ => exact ih
    | some _, some _, hr => exact .cons hr ih

/-- **The webhook against the pool rules.** A pool is admitted iff it keeps all seven rules;
    otherwise the error has one line per group of rules the pool breaks (the compute class
    rules, the spot rule, the replica rules), each naming the first rule of its group broken. -/
theorem validateTermitePool_reports (p : TermitePoolSpec) :
    (p.validateTermitePool = none ↔ ∀ ρ : PoolRule, ρ.holds p = true) ∧
    ∀ e, p.validateTermitePool = some e → ∃ ls : List String,
      e = "TermitePool validation failed:\n  - " ++ "\n  - ".intercalate ls ∧
      List.Forall₂ (fun ρ line => ρ.tag.data <:+: line.data) (groups.filterMap (firstBroken p)) ls := by
  have hlines : List.Forall₂ (fun ρ line => ρ.tag.data <:+: line.data) (groups.filterMap (firstBroken p))
      ([p.validateGKEConfig, p.validateNoConflictingSettings, p.validateReplicaCounts].filterMap id) := by
    have := forall₂_filterMap_of_reports (.cons p.validateGKEConfig_reports
      (.cons p.validateNoConflictingSettings_reports (.cons p.validateReplicaCounts_reports .nil)))
    exact this
  refine ⟨?_, fun e he => ?_⟩
  · have hnone : p.validateTermitePool = none ↔ groups.filterMap (firstBroken p) = [] := by
      rw [← List.length_eq_zero, hlines.length_eq, List.length_eq_zero]
      unfold validateTermitePool; dsimp only; split <;> simp_all
    rw [hnone]
    simp only [List.filterMap_eq_nil_iff, firstBroken, List.find?_eq_none, groups, Bool.not_eq_true',
      Bool.not_eq_false, List.mem_cons, List.mem_singleton, List.not_mem_nil, or_false, forall_eq_or_imp,
      forall_eq]
    exact ⟨fun h ρ => by cases ρ <;> simp_all, fun h => by simp [h]⟩
  · unfold validateTermitePool at he
    dsimp only at he
    split at he
    · cases he
    · cases he; exact ⟨_, rfl, hlines⟩

end TermitePoolSpec

/-- A pool with `replicas.min = -1` and `replicas.max = 0`. -/
def negativeMinPool : TermitePoolSpec :=
  { gke := none, hardwareSpot := false, replicasMin := -1, replicasMax := 0, resourceLimits := none }

/-- It breaks rules (5) and (6) of one group, and only the first is reported. -/
theorem validateTermitePool_reports_first_replica_rule :
    negativeMinPool.validateTermitePool =
        some "TermitePool validation failed:\n  - spec.replicas.min must be >= 0, got -1" ∧
      minNonneg.holds negativeMinPool = false ∧ maxPos.holds negativeMinPool = false := by
  decide

/-- An autopilot pool with `hardware.spot` and `replicas.min > replicas.max`. -/
def spotPool : TermitePoolSpec :=
  { gke := some { autopilot := true, autopilotComputeClass := "" }, hardwareSpot := true,
    replicasMin := 3, replicasMax := 2, resourceLimits := none }

theorem validateTermitePool_reports_spotPool :
    groups.filterMap (firstBroken spotPool) = [spotNotAutopilot, minLeMax] ∧
      ∃ e, spotPool.validateTermitePool = some e ∧ ∃ ls : List String,
        e = "TermitePool validation failed:\n  - " ++ "\n  - ".intercalate ls ∧
        List.Forall₂ (fun ρ line => ρ.tag.data <:+: line.data) [spotNotAutopilot, minLeMax] ls := by
  have hg : groups.filterMap (firstBroken spotPool) = [spotNotAutopilot, minLeMax] := by decide
  obtain ⟨e, he⟩ : ∃ e, spotPool.validateTermitePool = some e := ⟨_, rfl⟩
  exact ⟨hg, e, he, hg ▸ (TermitePoolSpec.validateTermitePool_reports spotPool).2 e he⟩

end Termite.Operator
