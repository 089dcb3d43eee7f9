import Termite.Proxy.Route
import Mathlib.Tactic.FieldSimp

namespace Termite.Proxy

open Termite.Go

/-!
# Threshold conditions (`ParseThresholdCondition`)

A destination condition such as `">50"` or `"<=100ms"` is an operator, then a number, then an
optional unit.  The number goes through the hand-written `parseFloat`, which reads every digit
of the text, switches to the fraction at a `.`, negates on a `-` in first position, skips any
other character, and never reports an error.  `float64` arithmetic is exact here.

The documented grammar of a condition is `OP? WS* NUM WS* UNIT?` (`ThresholdSyntax`).

* `parseThresholdCondition_grammar` — every text parses; a text of the grammar parses to its
  operator (`==` when absent) and to the exact value of its number, a thousandth of it for
  `ms`, and `Evaluate` is then that operator's comparison.  The proof follows the text through
  `splitOperator`, `TrimSpace` and `CutSuffix`, and the float loop over the number one segment
  at a time (`FloatScan.foldl_int`, `FloatScan.foldl_frac`, `FloatScan.foldl_spaces`).
* `parseThresholdCondition_accepts_garbage` — `"abc"`, which is no text of the grammar, parses
  to `== 0`.
-/

/-- The state of `parseFloatInternal`'s loop. -/
structure FloatScan where
  result : ℚ
  decimal : ℚ
  inDecimal : Bool
  negative : Bool
  digits : Nat
  deriving DecidableEq

/-- The loop's start. -/
def FloatScan.init : FloatScan := ⟨0, 1, false, false, 0⟩

/-- One character of the loop; `first` is whether it sits at byte `0`. -/
def FloatScan.step (first : Bool) (st : FloatScan) (c : Char) : FloatScan :=
  if c = '-' ∧ first then { st with negative := true }
  else if c = '.' then { st with inDecimal := true }
  else if '0' ≤ c ∧ c ≤ '9' then
    if st.inDecimal then
      { st with decimal := st.decimal * 10,
                result := st.result + ((c.toNat - 48 : Nat) : ℚ) / (st.decimal * 10),
                digits := st.digits + 1 }
    else { st with result := st.result * 10 + ((c.toNat - 48 : Nat) : ℚ), digits := st.digits + 1 }
  else st

/-- The whole loop over `s`. -/
def FloatScan.scan (s : String) : FloatScan :=
  match s.data with
  | [] => FloatScan.init
  | c :: cs => cs.foldl (FloatScan.step false) (FloatScan.step true FloatScan.init c)

/-- `parseFloat(s, &v)`: the digit count and the value; the error is always `nil`. -/
def parseFloat (s : String) : Except String (Nat × ℚ) :=
  .ok ((FloatScan.scan s).digits,
    if (FloatScan.scan s).negative then -(FloatScan.scan s).result else (FloatScan.scan s).result)

/-- The operator prefix of `ParseThresholdCondition` and the text after it; no prefix is `==`. -/
def splitOperator (s : String) : String × String :=
  if hasPrefix s ">=" then (">=", trimPrefix s ">=")
  else if hasPrefix s "<=" then ("<=", trimPrefix s "<=")
  else if hasPrefix s ">" then (">", trimPrefix s ">")
  else if hasPrefix s "<" then ("<", trimPrefix s "<")
  else if hasPrefix s "==" then ("==", trimPrefix s "==")
  else ("==", s)

/-- The value of `ParseThresholdCondition`: `ms` is divided by `1000`, `s` dropped. -/
def thresholdValue (valueStr : String) : Except String ℚ :=
  if (cutSuffix valueStr "ms").2 then (parseFloat (cutSuffix valueStr "ms").1).map fun p => p.2 / 1000
  else if (cutSuffix valueStr "s").2 then (parseFloat (cutSuffix valueStr "s").1).map Prod.snd
  else (parseFloat valueStr).map Prod.snd

/-- `ParseThresholdCondition(s)`. -/
def parseThresholdCondition (s : String) : Except String ThresholdCondition :=
  (thresholdValue (trimSpace (splitOperator (trimSpace s)).2)).map fun v =>
    ⟨(splitOperator (trimSpace s)).1, v⟩

/-! ### The grammar of a condition -/

/-- The operators of a threshold. -/
inductive ThresholdOp
  | ge | le | gt | lt | eq
  deriving DecidableEq

/-- The operator's text. -/
def ThresholdOp.text : ThresholdOp → String
  | .ge => ">=" | .le => "<=" | .gt => ">" | .lt => "<" | .eq => "=="

/-- `x OP v`. -/
def ThresholdOp.Holds : ThresholdOp → ℚ → ℚ → Prop
  | .ge, x, v => x ≥ v
  | .le, x, v => x ≤ v
  | .gt, x, v => x > v
  | .lt, x, v => x < v
  | .eq, x, v => x = v

/-- The units of a threshold: none, `ms` or `s`. -/
inductive ThresholdUnit
  | none | ms | s
  deriving DecidableEq

/-- The unit's text. -/
def ThresholdUnit.text : ThresholdUnit → List Char
  | .none => [] | .ms => ['m', 's'] | .s => ['s']

/-- A value in the unit, in seconds for a time: `ms` is a thousandth. -/
def ThresholdUnit.apply : ThresholdUnit → ℚ → ℚ
  | .ms, v => v / 1000
  | _, v => v

/-- A number of the grammar: an optional `-`, one or more digits, and optionally a `.` and one or
    more digits. -/
structure ThresholdNumber where
  negative : Bool
  intDigits : List Char
  fracDigits : Option (List Char)
  deriving DecidableEq

/-- The number's text. -/
def ThresholdNumber.text (n : ThresholdNumber) : List Char :=
  (if n.negative then ['-'] else []) ++ n.intDigits ++ (n.fracDigits.map ('.' :: ·)).getD []

/-- The digits are digits, and neither part is empty. -/
def ThresholdNumber.WellFormed (n : ThresholdNumber) : Prop :=
  n.intDigits ≠ [] ∧ (∀ c ∈ n.intDigits, c.isDigit = true) ∧
    ∀ fs, n.fracDigits = some fs → fs ≠ [] ∧ ∀ c ∈ fs, c.isDigit = true

/-- The number's value. -/
def ThresholdNumber.value (n : ThresholdNumber) : ℚ :=
  (if n.negative then -1 else 1) *
    ((decimalValue n.intDigits : ℚ) +
      ((n.fracDigits.map fun fs => (decimalValue fs : ℚ) / 10 ^ fs.length).getD 0))

/-- A trimmed threshold text of the grammar `OP? WS* NUM WS* UNIT?`. -/
structure ThresholdSyntax where
  op : Option ThresholdOp
  space₁ : List Char
  number : ThresholdNumber
  space₂ : List Char
  unit : ThresholdUnit

/-- Its text. -/
def ThresholdSyntax.text (g : ThresholdSyntax) : List Char :=
  ((g.op.map fun op => op.text.data).getD []) ++ g.space₁ ++ g.number.text ++ g.space₂ ++ g.unit.text

/-- The spaces are spaces and the number is well formed. -/
def ThresholdSyntax.WellFormed (g : ThresholdSyntax) : Prop :=
  (∀ c ∈ g.space₁, isSpace c = true) ∧ (∀ c ∈ g.space₂, isSpace c = true) ∧ g.number.WellFormed

namespace ThresholdNumber

theorem text_head (n : ThresholdNumber) (hn : n.WellFormed) :
    ∃ c t, n.text = c :: t ∧ (c = '-' ∨ c.isDigit = true) := by
  obtain ⟨d, ds, hd⟩ := List.exists_cons_of_ne_nil hn.1
  cases hneg : n.negative
  · exact ⟨d, _, by simp [text, hd, hneg]; rfl, .inr (hn.2.1 d (by simp [hd]))⟩
  · exact ⟨'-', _, by simp [text, hneg]; rfl, .inl rfl⟩

theorem text_last (n : ThresholdNumber) (hn : n.WellFormed) :
    ∃ t d, n.text = t ++ [d] ∧ d.isDigit = true := by
  cases hf : n.fracDigits with
  | none =>
    obtain ⟨t, d, hd⟩ := (List.eq_nil_or_concat n.intDigits).resolve_left hn.1
    exact ⟨(if n.negative then ['-'] else []) ++ t, d, by simp [text, hf, hd], hn.2.1 d (by simp [hd])⟩
  | some fs =>
    obtain ⟨hne, hfs⟩ := hn.2.2 fs hf
    obtain ⟨t, d, hd⟩ := (List.eq_nil_or_concat fs).resolve_left hne
    exact ⟨(if n.negative then ['-'] else []) ++ n.intDigits ++ '.' :: t, d, by simp [text, hf, hd],
      hfs d (by simp [hd])⟩

end ThresholdNumber

/-- The characters a number may start with are not spaces. -/
theorem isSpace_eq_false {c : Char} (h : c = '-' ∨ c.isDigit = true) : isSpace c = false := by
  rcases h with rfl | h
  · decide
  · have hd := isDigit_iff.mp h
    cases hs : isSpace c
    · rfl
    · rcases isSpace_toNat hs with h' | h' <;> omega

/-- A space, a minus sign or a digit is none of the operator and unit characters. -/
theorem ne_of_lead {c : Char} (h : isSpace c = true ∨ c = '-' ∨ c.isDigit = true) :
    c ≠ '=' ∧ c ≠ '>' ∧ c ≠ '<' ∧ c ≠ 'm' ∧ c ≠ 's' := by
  have hc : c.toNat < 33 ∨ 133 ≤ c.toNat ∨ c.toNat = 45 ∨ (48 ≤ c.toNat ∧ c.toNat ≤ 57) := by
    rcases h with h | rfl | h
    · rcases isSpace_toNat h with h | h <;> omega
    · decide
    · have := isDigit_iff.mp h; omega
  refine ⟨?_, ?_, ?_, ?_, ?_⟩ <;> rintro rfl <;> revert hc <;> decide

/-! ### The float loop over a number of the grammar -/

namespace FloatScan

theorem step_true_of_ne (st : FloatScan) {c : Char} (hc : c ≠ '-') : step true st c = step false st c := by
  simp [step, hc]

theorem step_dot (st : FloatScan) : step false st '.' = { st with inDecimal := true } := by
  simp [step]

theorem step_space (first : Bool) (st : FloatScan) {c : Char} (hc : isSpace c = true) :
    step first st c = st := by
  have h := isSpace_toNat hc
  have hm : c ≠ '-' := fun h' => by subst h'; simp at h
  have hd : c ≠ '.' := fun h' => by subst h'; simp at h
  have hn : ¬('0' ≤ c ∧ c ≤ '9') := by
    simp only [char_le_iff, not_and, not_le]; intro h0; have : '0'.toNat = 48 := rfl; have : '9'.toNat = 57 := rfl; omega
  simp [step, hm, hd, hn]

theorem step_digit (first : Bool) (st : FloatScan) {c : Char} (hc : c.isDigit = true) :
    step first st c =
      if st.inDecimal then
        { st with decimal := st.decimal * 10,
                  result := st.result + (digitValue c : ℚ) / (st.decimal * 10),
                  digits := st.digits + 1 }
      else { st with result := st.result * 10 + (digitValue c : ℚ), digits := st.digits + 1 } := by
  have h := isDigit_iff.mp hc
  have hm : c ≠ '-' := fun h' => by subst h'; simp at h
  have hd : c ≠ '.' := fun h' => by subst h'; simp at h
  have hn : '0' ≤ c ∧ c ≤ '9' := by simp only [char_le_iff]; exact h
  simp [step, hm, hd, hn, digitValue]

theorem foldl_int (st : FloatScan) (ds : List Char) (hd : ∀ c ∈ ds, c.isDigit = true)
    (h : st.inDecimal = false) :
    ds.foldl (step false) st =
      { st with result := st.result * 10 ^ ds.length + (decimalValue ds : ℚ),
                digits := st.digits + ds.length } := by
  induction ds generalizing st with
  | nil => simp [decimalValue]
  | cons c ds ih =>
    rw [List.foldl_cons, step_digit false st (hd c (List.mem_cons_self c ds)), if_neg (by simp [h]),
      ih _ fun x hx => hd x (List.mem_cons_of_mem c hx)]
    · simp only [decimalValue_cons, List.length_cons, pow_succ, Nat.cast_add, Nat.cast_mul, Nat.cast_pow]
      congr 1 <;> ring
    · exact h

theorem foldl_frac (st : FloatScan) (ds : List Char) (hd : ∀ c ∈ ds, c.isDigit = true)
    (h : st.inDecimal = true) (hD : st.decimal ≠ 0) :
    ds.foldl (step false) st =
      { st with result := st.result + (decimalValue ds : ℚ) / (st.decimal * 10 ^ ds.length),
                decimal := st.decimal * 10 ^ ds.length, digits := st.digits + ds.length } := by
  induction ds generalizing st with
  | nil => simp [decimalValue]
  | cons c ds ih =>
    rw [List.foldl_cons, step_digit false st (hd c (List.mem_cons_self c ds)), if_pos h,
      ih _ fun x hx => hd x (List.mem_cons_of_mem c hx)]
    · simp only [decimalValue_cons, List.length_cons, pow_succ, Nat.cast_add, Nat.cast_mul, Nat.cast_pow]
      congr 1
      · field_simp; ring
      · ring
      · omega
    · exact h
    · exact mul_ne_zero hD (by norm_num)

theorem foldl_spaces (first : Bool) (st : FloatScan) (ws : List Char) (hws : ∀ c ∈ ws, isSpace c = true) :
    ws.foldl (step first) st = st := by
  induction ws generalizing st with
  | nil => rfl
  | cons c ws ih =>
    rw [List.foldl_cons, step_space first st (hws c (List.mem_cons_self c ws))]
    exact ih st fun x hx => hws x (List.mem_cons_of_mem c hx)

end FloatScan

/-- The loop over a number followed by anything: the sign is taken at byte `0`, and every
    other character goes through the same step. -/
theorem scan_number (n : ThresholdNumber) (hn : n.WellFormed) (ws : List Char) :
    FloatScan.scan ⟨n.text ++ ws⟩ =
      (n.intDigits ++ (n.fracDigits.map ('.' :: ·)).getD [] ++ ws).foldl (FloatScan.step false)
        { FloatScan.init with negative := n.negative } := by
  obtain ⟨d, ds, hd⟩ := List.exists_cons_of_ne_nil hn.1
  cases hneg : n.negative
  · have hm : d ≠ '-' := fun h => absurd (hn.2.1 d (by simp [hd])) (by rw [h]; decide)
    simp only [ThresholdNumber.text, hneg, hd, if_false, List.nil_append, List.cons_append]
    exact congrArg (List.foldl _ · _) (FloatScan.step_true_of_ne _ hm)
  · simp only [ThresholdNumber.text, hneg, if_true, List.singleton_append, List.cons_append, List.append_assoc]
    rfl

theorem parseFloat_number (n : ThresholdNumber) (hn : n.WellFormed) (ws : List Char)
    (hws : ∀ c ∈ ws, isSpace c = true) : ∃ k, parseFloat ⟨n.text ++ ws⟩ = .ok (k, n.value) := by
  refine ⟨_, congrArg Except.ok (Prod.ext rfl ?_)⟩
  rw [scan_number n hn, List.foldl_append, List.foldl_append,
    FloatScan.foldl_spaces false _ ws hws, FloatScan.foldl_int _ _ hn.2.1 rfl]
  cases hf : n.fracDigits with
  | none =>
    cases hneg : n.negative <;> simp [ThresholdNumber.value, hf, hneg, FloatScan.init]
  | some fs =>
    rw [Option.map_some', Option.getD_some, List.foldl_cons, FloatScan.step_dot,
      FloatScan.foldl_frac _ _ (hn.2.2 fs hf).2 rfl one_ne_zero]
    cases hneg : n.negative <;> simp [ThresholdNumber.value, hf, hneg, FloatScan.init]

/-! ### The condition -/

theorem splitOperator_text (op : Option ThresholdOp) (c : Char) (t : List Char)
    (hc : c ≠ '=' ∧ c ≠ '>' ∧ c ≠ '<') :
    splitOperator ⟨(op.map fun o => o.text.data).getD [] ++ c :: t⟩ = ((op.getD .eq).text, ⟨c :: t⟩) := by
  obtain ⟨h1, h2, h3⟩ := hc
  rcases op with _ | _ | _ | _ | _ | _ <;>
    simp [splitOperator, hasPrefix, trimPrefix, ThresholdOp.text, String.length, h1.symm, h2.symm, h3.symm]

/-- `TrimSpace` of the text after the operator: the spaces before the number go, and so do the
    spaces after it unless a unit follows them. -/
theorem trimSpace_body (g : ThresholdSyntax) (hg : g.WellFormed) :
    trimSpace ⟨g.space₁ ++ g.number.text ++ g.space₂ ++ g.unit.text⟩ =
      ⟨g.number.text ++ if g.unit = .none then [] else g.space₂ ++ g.unit.text⟩ := by
  obtain ⟨hs₁, hs₂, hn⟩ := hg
  obtain ⟨c, t, hct, hc⟩ := g.number.text_head hn
  obtain ⟨t', d, htd, hd⟩ := g.number.text_last hn
  have hfront : (g.space₁ ++ g.number.text ++ g.space₂ ++ g.unit.text).dropWhile isSpace =
      g.number.text ++ g.space₂ ++ g.unit.text := by
    rw [List.append_assoc, List.append_assoc, dropWhile_isSpace_append hs₁, List.append_assoc]
    intro c' t'' h
    simp only [hct, List.cons_append, List.cons.injEq] at h
    exact h.1 ▸ isSpace_eq_false hc
  simp only [trimSpace, hfront]
  congr 1
  cases hu : g.unit
  · simp only [ThresholdUnit.text, List.append_nil, if_true, List.reverse_append, htd,
      List.reverse_cons, List.reverse_nil, List.nil_append, List.singleton_append]
    rw [dropWhile_isSpace_append (by simpa using hs₂) (by
      rintro _ _ ⟨rfl, rfl⟩; exact isSpace_eq_false (.inr hd)), List.reverse_cons, List.reverse_reverse]
  all_goals
    simp only [ThresholdUnit.text, reduceCtorEq, if_false, List.reverse_append, List.reverse_cons,
      List.reverse_nil, List.nil_append, List.singleton_append, List.cons_append]
    rw [List.dropWhile_cons_of_neg (show ¬isSpace 's' = true by decide)]
    simp

/-- The value of the text after the operator, trimmed: the unit's suffix is cut, and the
    number is read from what is left. -/
theorem thresholdValue_number (n : ThresholdNumber) (hn : n.WellFormed) (u : ThresholdUnit)
    (ws : List Char) (hws : ∀ c ∈ ws, isSpace c = true) :
    thresholdValue ⟨n.text ++ if u = .none then [] else ws ++ u.text⟩ = .ok (u.apply n.value) := by
  obtain ⟨t, d, htd, hd⟩ := n.text_last hn
  have hds := (ne_of_lead (.inr (.inr hd))).2.2.2.2
  cases u
  · obtain ⟨k, hk⟩ := parseFloat_number n hn [] (by simp)
    rw [List.append_nil] at hk
    rw [if_pos rfl, List.append_nil, thresholdValue, htd, cutSuffix_of_last_ne t "ms" rfl hds,
      cutSuffix_of_last_ne t "s" rfl hds, if_neg Bool.false_ne_true, if_neg Bool.false_ne_true, ← htd, hk]
    rfl
  · obtain ⟨k, hk⟩ := parseFloat_number n hn ws hws
    have : n.text ++ (ws ++ ThresholdUnit.ms.text) = n.text ++ ws ++ "ms".data := by
      simp [ThresholdUnit.text]
    rw [if_neg (by decide), this, thresholdValue, cutSuffix_append, if_pos rfl, hk]
    rfl
  · obtain ⟨k, hk⟩ := parseFloat_number n hn ws hws
    obtain ⟨l, x, hlx, hx⟩ : ∃ l x, n.text ++ ws = l ++ [x] ∧ x ≠ 'm' := by
      rcases List.eq_nil_or_concat ws with rfl | ⟨ws', w, rfl⟩
      · exact ⟨t, d, by simp [htd], (ne_of_lead (.inr (.inr hd))).2.2.2.1⟩
      · exact ⟨n.text ++ ws', w, by simp, (ne_of_lead (.inl (hws w (by simp)))).2.2.2.1⟩
    have hms : (cutSuffix ⟨n.text ++ ws ++ "s".data⟩ "ms").2 = false := by
      rw [hlx]; simp [cutSuffix, hasSuffix, List.isSuffixOf, List.isPrefixOf, hx.symm]
    have : n.text ++ (ws ++ ThresholdUnit.s.text) = n.text ++ ws ++ "s".data := by
      simp [ThresholdUnit.text]
    rw [if_neg (by decide), this, thresholdValue, hms, if_neg Bool.false_ne_true, cutSuffix_append,
      if_pos rfl, hk]
    rfl

/-- `Evaluate` on a parsed operator is that operator's comparison. -/
theorem evaluate_text (op : ThresholdOp) (v x : ℚ) :
    ThresholdCondition.evaluate ⟨op.text, v⟩ x = true ↔ op.Holds x v := by
  cases op <;> simp [ThresholdCondition.evaluate, ThresholdOp.text, ThresholdOp.Holds]

/-- `parseFloat` never fails, so neither does the value. -/
theorem thresholdValue_ok (s : String) : ∃ v, thresholdValue s = .ok v := by
  unfold thresholdValue parseFloat
  split
  · exact ⟨_, rfl⟩
  · split <;> exact ⟨_, rfl⟩

theorem parseThresholdCondition_grammar (s : String) :
    (∃ c, parseThresholdCondition s = .ok c) ∧
    ∀ g : ThresholdSyntax, g.WellFormed → (trimSpace s).data = g.text →
      parseThresholdCondition s = .ok ⟨(g.op.getD .eq).text, g.unit.apply g.number.value⟩ ∧
      ∀ x, ThresholdCondition.evaluate ⟨(g.op.getD .eq).text, g.unit.apply g.number.value⟩ x = true ↔
        (g.op.getD .eq).Holds x (g.unit.apply g.number.value) := by
  refine ⟨?_, fun g hg hs => ⟨?_, fun x => evaluate_text _ _ x⟩⟩
  · obtain ⟨v, hv⟩ := thresholdValue_ok (trimSpace (splitOperator (trimSpace s)).2)
    exact ⟨_, by rw [parseThresholdCondition, hv]; rfl⟩
  · obtain ⟨c, t, hct, hc⟩ := g.number.text_head hg.2.2
    obtain ⟨c', t', hbody, hne⟩ : ∃ c' t', g.space₁ ++ g.number.text ++ g.space₂ ++ g.unit.text = c' :: t' ∧
        c' ≠ '=' ∧ c' ≠ '>' ∧ c' ≠ '<' := by
      cases hs₁ : g.space₁ with
      | nil =>
        obtain ⟨h₁, h₂, h₃, -⟩ := ne_of_lead (.inr hc)
        exact ⟨c, t ++ g.space₂ ++ g.unit.text, by simp [hct], h₁, h₂, h₃⟩
      | cons w ws =>
        obtain ⟨h₁, h₂, h₃, -⟩ := ne_of_lead (.inl (hg.1 w (by simp [hs₁])))
        exact ⟨w, _, rfl, h₁, h₂, h₃⟩
    have htrim : trimSpace s = ⟨(g.op.map fun o => o.text.data).getD [] ++ c' :: t'⟩ := by
      rw [← hbody]
      exact congrArg String.mk (hs.trans (by simp [ThresholdSyntax.text]))
    rw [parseThresholdCondition, htrim, splitOperator_text _ _ _ hne, ← hbody, trimSpace_body g hg,
      thresholdValue_number _ hg.2.2 _ _ hg.2.1]
    rfl

/-- `" >= 1.5ms "`: an operator, a space, a number with a fraction, and a unit. -/
def queueWaitSyntax : ThresholdSyntax := ⟨some .ge, [' '], ⟨false, ['1'], some ['5']⟩, [], .ms⟩

theorem parseThresholdCondition_queueWait :
    queueWaitSyntax.WellFormed ∧ (trimSpace " >= 1.5ms ").data = queueWaitSyntax.text ∧
      parseThresholdCondition " >= 1.5ms " = .ok ⟨">=", 3 / 2000⟩ := by
  have hwf : queueWaitSyntax.WellFormed :=
    ⟨by decide, by decide, by decide, by decide, fun fs h => by cases h; decide⟩
  have htext : (trimSpace " >= 1.5ms ").data = queueWaitSyntax.text := rfl
  have hv : queueWaitSyntax.unit.apply queueWaitSyntax.number.value = 3 / 2000 := by
    have h1 : decimalValue ['1'] = 1 := rfl
    have h5 : decimalValue ['5'] = 5 := rfl
    simp only [queueWaitSyntax, ThresholdUnit.apply, ThresholdNumber.value, h1]
    norm_num [h5]
  refine ⟨hwf, htext, ?_⟩
  rw [← hv]
  exact ((parseThresholdCondition_grammar _).2 _ hwf htext).1

/-- Text outside the grammar is accepted too: `parseFloat` skips what is not a digit. -/
theorem parseThresholdCondition_accepts_garbage :
    parseThresholdCondition "abc" = .ok ⟨"==", 0⟩ ∧
      ∀ g : ThresholdSyntax, g.WellFormed → (trimSpace "abc").data ≠ g.text := by
  refine ⟨rfl, fun g hg h => ?_⟩
  obtain ⟨d, ds, hd⟩ := List.exists_cons_of_ne_nil hg.2.2.1
  have hdigit := hg.2.2.2.1 d (by simp [hd])
  have hmem : d ∈ ['a', 'b', 'c'] := by
    change d ∈ (trimSpace "abc").data
    rw [h]
    simp [ThresholdSyntax.text, ThresholdNumber.text, hd]
  simp only [List.mem_cons, List.mem_singleton, List.not_mem_nil, or_false] at hmem
  rcases hmem with rfl | rfl | rfl <;> exact absurd hdigit (by decide)

end Termite.Proxy
