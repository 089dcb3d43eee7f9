import Termite.Proxy.ConvertRoute
import Termite.Operator.MatchSemantics
import Mathlib.Data.List.Infix

namespace Termite.Proxy

open Termite.Go Termite.Go.Regexp Termite.Kube Termite.Operator

/-!
# The compiled matcher against the `match` block

A `TermiteRoute` reaches the proxy as the JSON object the API stores for its typed spec
(`TermiteRoute.toUnstructured`); `convertRoute` compiles that object and `matchRoute` tests a
request against the result.  This module states what the `match` block means, for a request
that also names its caller, and compares the two.

* `RouteMatch.satisfiedBy` — the block as the API documents it: the operation is listed, some
  model glob matches, every named header matcher is satisfied, every populated source selector
  (tables, namespaces, service accounts) contains the caller's value, the time window covers
  the timestamp.
* `matchRoute_convertRoute` — for an admitted spec and a model name with no newline, the
  compiled route matches exactly the requests that satisfy every clause but the caller's
  namespace and service account, with the time window read on every day; the admitted specs
  are those whose regular expressions avoid the syntax the model leaves out.
* `matchRoute_ignores_caller_and_days` — the two caller selectors are not compiled and the days
  are dropped (`parseTimeWindow_days`): a route restricted to `team-a`, `indexer` and Mondays
  matches a caller from `team-b` on a Thursday.
-/

/-! ### Reading the stored object back -/

@[simp] theorem lookup_strField (k k' s : String) :
    (strField k s).lookup k' = if k' = k ∧ s ≠ "" then some (.string s) else none := by
  unfold strField; by_cases h : s = "" <;> by_cases h' : k' = k <;> simp [h, h']

@[simp] theorem lookup_int32Field (k k' : String) (x : BitVec 32) :
    (int32Field k x).lookup k' = if k' = k ∧ x ≠ 0 then some (.int64 x.toInt) else none := by
  unfold int32Field; split <;> by_cases h' : k' = k <;> simp_all

@[simp] theorem lookup_listField (k k' : String) (vs : List Value) :
    (listField k vs).lookup k' = if k' = k ∧ vs.isEmpty = false then some (.array vs) else none := by
  unfold listField; cases vs <;> by_cases h' : k' = k <;> simp [h']

@[simp] theorem lookup_optField (k k' : String) (o : Option Value) :
    (optField k o).lookup k' = if k' = k then o else none := by
  cases o <;> by_cases h' : k' = k <;> simp [optField, h']

@[simp] theorem lookup_boolField (k k' : String) (b : Bool) :
    (boolField k b).lookup k' = if k' = k ∧ b = true then some (.bool true) else none := by
  unfold boolField; cases b <;> by_cases h' : k' = k <;> simp [h']

/-- A list field reads back as its list, an absent one as empty. -/
theorem getArray_listField {m : Object} {k : String} (vs : List Value)
    (h : m.lookup k = if vs.isEmpty = false then some (.array vs) else none) :
    (m.getArray k).getD [] = vs := by
  unfold Object.getArray; rw [h]; split <;> simp_all [Value.asArray]

theorem getObject_match (s : TermiteRouteSpec) :
    s.toObject.getObject "match" = some s.routeMatch.toObject := by
  simp [TermiteRouteSpec.toObject, Object.getObject, lookup_append, Value.asObject]

@[simp] theorem lookup_mapField (k k' : String) (fs : Object) :
    (mapField k fs).lookup k' = if k' = k ∧ fs.isEmpty = false then some (.object fs) else none := by
  unfold mapField; cases fs <;> by_cases h' : k' = k <;> simp [h']

/-- The loop of `parseOperations` and `parseSourceTables` over a list of strings. -/
theorem foldl_addString (xs acc : List String) :
    (xs.map Value.string).foldl addString acc = xs.foldl (fun ts t => ts.insert t) acc := by
  induction xs generalizing acc with
  | nil => rfl
  | cons x xs ih => exact ih _

theorem mem_foldl_insert (x : String) (xs acc : List String) :
    x ∈ xs.foldl (fun ts t => ts.insert t) acc ↔ x ∈ acc ∨ x ∈ xs := by
  induction xs generalizing acc with
  | nil => simp
  | cons y xs ih => rw [List.foldl_cons, ih, List.mem_insert_iff, List.mem_cons]; tauto

theorem foldl_insert_eq_nil (xs acc : List String) :
    xs.foldl (fun ts t => ts.insert t) acc = [] ↔ acc = [] ∧ xs = [] := by
  constructor
  · intro h
    have hmem := fun x => (mem_foldl_insert x xs acc).not.mp (h ▸ List.not_mem_nil x)
    exact ⟨List.eq_nil_iff_forall_not_mem.mpr fun x hx => hmem x (Or.inl hx),
      List.eq_nil_iff_forall_not_mem.mpr fun x hx => hmem x (Or.inr hx)⟩
  · rintro ⟨rfl, rfl⟩; rfl

theorem operations_buildRoute (now : Time) (n : String) (s : TermiteRouteSpec) :
    (buildRoute now n s.toObject).operations = s.routeMatch.operations.foldl (fun ts t => ts.insert t) [] := by
  simp only [buildRoute, getObject_match, Option.map_some', Option.getD_some, parseOperations]
  rw [getArray_listField (s.routeMatch.operations.map Value.string) (by simp [RouteMatch.toObject, lookup_append]),
    foldl_addString]

theorem sourceTables_buildRoute (now : Time) (n : String) (s : TermiteRouteSpec) :
    (buildRoute now n s.toObject).sourceTables =
      ((s.routeMatch.source.map SourceMatch.tables).getD []).foldl (fun ts t => ts.insert t) [] := by
  simp only [buildRoute, getObject_match, Option.map_some', Option.getD_some, parseSourceTables]
  cases hs : s.routeMatch.source with
  | none => simp [Object.getObject, RouteMatch.toObject, lookup_append, hs]
  | some sm =>
    have hobj : s.routeMatch.toObject.getObject "source" = some sm.toObject := by
      simp [Object.getObject, RouteMatch.toObject, lookup_append, hs, Value.asObject]
    rw [hobj, Option.some_bind, getArray_listField (sm.tables.map Value.string)
      (by simp [SourceMatch.toObject, lookup_append]), foldl_addString]
    rfl

theorem modelPatterns_buildRoute (now : Time) (n : String) (s : TermiteRouteSpec) :
    (buildRoute now n s.toObject).modelPatterns = s.routeMatch.models.map fun p => globRegexp p.data := by
  have hfold : ∀ (ps : List Regexp) (xs : List String),
      (xs.map Value.string).foldl addModelPattern ps = ps ++ xs.map fun p => globRegexp p.data := by
    intro ps xs
    induction xs generalizing ps with
    | nil => simp
    | cons x xs ih => simp [addModelPattern, Value.asString, compileModelPattern_eq, ih]
  simp only [buildRoute, getObject_match, Option.map_some', Option.getD_some, parseModelPatterns]
  rw [getArray_listField (s.routeMatch.models.map Value.string) (by simp [RouteMatch.toObject, lookup_append]),
    hfold, List.nil_append]

theorem parseStringMatcher_toObject (m : StringMatch) :
    parseStringMatcher m.toObject =
      ⟨m.exact, m.prefixStr, if m.regex = "" then none else (compile m.regex).toOption⟩ := by
  simp only [parseStringMatcher, Object.getStr, StringMatch.toObject, lookup_append, lookup_strField]
  by_cases he : m.exact = "" <;> by_cases hp : m.prefixStr = "" <;> by_cases hr : m.regex = "" <;>
    simp [he, hp, hr, Value.asString]

theorem headerMatchers_buildRoute (now : Time) (n : String) (s : TermiteRouteSpec) :
    (buildRoute now n s.toObject).headerMatchers =
      (s.routeMatch.headers.val.map fun h => (h.1, parseStringMatcher h.2.toObject)).reverse := by
  have hget : (s.routeMatch.toObject.getObject "headers").getD [] =
      s.routeMatch.headers.val.map fun h => (h.1, .object h.2.toObject) := by
    cases hh : s.routeMatch.headers.val <;>
      simp [Object.getObject, RouteMatch.toObject, lookup_append, hh, Value.asObject]
  have hfold : ∀ (acc : List (String × StringMatcher)) (l : List (String × StringMatch)),
      (l.map fun h => (h.1, Value.object h.2.toObject)).foldl addHeaderMatcher acc =
        (l.map fun h => (h.1, parseStringMatcher h.2.toObject)).foldl (fun m p => mapSet p.1 p.2 m) acc := by
    intro acc l
    induction l generalizing acc with
    | nil => rfl
    | cons h l ih => exact ih _
  have hkeys : ((s.routeMatch.headers.val.map fun h => (h.1, parseStringMatcher h.2.toObject)).map Prod.fst ++
      ([] : List (String × StringMatcher)).map Prod.fst).Nodup := by
    simpa [Function.comp_def] using s.routeMatch.headers.property
  simp only [buildRoute, getObject_match, Option.map_some', Option.getD_some, parseHeaderMatchers]
  rw [hget, hfold, foldl_mapSet _ [] hkeys, List.append_nil]

theorem timeWindow_buildRoute (now : Time) (n : String) (s : TermiteRouteSpec) :
    (buildRoute now n s.toObject).timeWindow = s.routeMatch.timeWindow.map fun tw => parseTimeWindow tw.toObject := by
  simp only [buildRoute, getObject_match, Option.some_bind]
  cases hw : s.routeMatch.timeWindow <;>
    simp [Object.getObject, RouteMatch.toObject, lookup_append, hw, Value.asObject]

theorem convertRoute_toUnstructured (now : Time) (r : TermiteRoute) :
    convertRoute now r.toUnstructured = .ok (buildRoute now (r.namespaceName ++ "/" ++ r.name) r.spec.toObject) :=
  rfl

/-! ### Clause by clause -/

/-- The operations and source-tables clauses: a set filled from a list is empty, or holds the
    value, exactly when the list is. -/
theorem stringSet_clause (xs : List String) (x : String) :
    (decide (xs.foldl (fun ts t => ts.insert t) [] = []) ||
        decide (x ∈ xs.foldl (fun ts t => ts.insert t) [])) = true ↔ xs = [] ∨ x ∈ xs := by
  simp [foldl_insert_eq_nil, mem_foldl_insert]

/-- On a newline-free text the compiled glob is the plain glob: `*` matches any run. -/
theorem globStar_eq_any (k : List Char → Bool) {s : List Char} (hs : '\n' ∉ s) :
    globStar k s = s.tails.any k := by
  induction s with
  | nil => simp [globStar]
  | cons d s ih =>
    have hd : (d != '\n') = true := bne_iff_ne.mpr fun h => hs (h ▸ List.mem_cons_self d s)
    rw [globStar, hd, Bool.true_and, ih fun h => hs (List.mem_cons_of_mem d h)]
    rfl

theorem globMatch_eq_globAny (p : List Char) {s : List Char} (hs : '\n' ∉ s) :
    globMatch p s = globAny p s := by
  induction p generalizing s with
  | nil => rfl
  | cons c p ih =>
    by_cases hc : c = '*'
    · rw [globMatch, globAny, if_pos hc, if_pos hc, globStar_eq_any _ hs]
      refine Bool.eq_iff_iff.mpr ?_
      simp only [List.any_eq_true]
      exact exists_congr fun t => and_congr_right fun ht => by
        rw [ih fun h => hs ((List.mem_tails t s).mp ht |>.subset h)]
    · rw [globMatch, globAny, if_neg hc, if_neg hc, ih fun h => hs (List.mem_of_mem_tail h)]

theorem models_clause (ms : List String) (model : String) (hm : '\n' ∉ model.data) :
    (decide ((ms.map fun p => globRegexp p.data) = []) ||
        (ms.map fun p => globRegexp p.data).any (·.matchString model)) = true ↔
      ms = [] ∨ ∃ pattern ∈ ms, globAny pattern.data model.data = true := by
  simp [matchString_globRegexp, globMatch_eq_globAny _ hm]

/-- A matcher compiled from a `StringMatch` holds of a value exactly when the `StringMatch` does;
    a regex that does not compile holds of nothing on either side. -/
theorem matches_parseStringMatcher (m : StringMatch) (value : String) :
    (parseStringMatcher m.toObject).matches value = true ↔ m.satisfiedBy value := by
  have hre : (match (if m.regex = "" then none else (compile m.regex).toOption) with
      | some re => re.matchString value
      | none => false) = true ↔ m.regex ≠ "" ∧ regexMatches m.regex value := by
    by_cases hr : m.regex = ""
    · simp [hr]
    · cases hc : compile m.regex with
      | error e => simp [hr, hc, Except.toOption, regexMatches]
      | ok r => simp [hr, hc, Except.toOption, regexMatches, matchString_iff]
  rw [parseStringMatcher_toObject, StringMatcher.matches, StringMatch.satisfiedBy, ← hre]
  simp only [hasPrefix, List.isPrefixOf_iff_prefix, decide_eq_true_eq]
  by_cases h₁ : m.exact ≠ "" ∧ value = m.exact
  · rw [if_pos h₁]; exact iff_of_true rfl (Or.inl h₁)
  · rw [if_neg h₁]
    by_cases h₂ : m.prefixStr ≠ "" ∧ m.prefixStr.data <+: value.data
    · rw [if_pos h₂]; exact iff_of_true rfl (Or.inr (Or.inl h₂))
    · rw [if_neg h₂]
      exact ⟨fun h => Or.inr (Or.inr h), fun h => h.elim (absurd · h₁) (·.elim (absurd · h₂) id)⟩

theorem headers_clause (l : List (String × StringMatch)) (hs : List (String × String)) :
    ((l.map fun h => (h.1, parseStringMatcher h.2.toObject)).reverse.all fun hm =>
        match hs.lookup hm.1 with
        | some value => hm.2.matches value
        | none => false) = true ↔
      ∀ h ∈ l, ∃ value, hs.lookup h.1 = some value ∧ h.2.satisfiedBy value := by
  simp only [List.all_reverse, List.all_eq_true, List.forall_mem_map]
  refine forall₂_congr fun h _ => ?_
  cases hv : hs.lookup h.1 <;> simp [matches_parseStringMatcher]

/-- `parseTimeWindow` reads a field of one or two digits, a colon, and one or two digits as the
    values of the digits. -/
theorem parseClock_digits {s : String} {hs ms : List Char} (hsplit : split s ":" = [⟨hs⟩, ⟨ms⟩])
    (hh : hs ≠ [] ∧ hs.length ≤ 2 ∧ ∀ c ∈ hs, c.isDigit = true)
    (hm : ms ≠ [] ∧ ms.length ≤ 2 ∧ ∀ c ∈ ms, c.isDigit = true) :
    parseClock s = some ((decimalValue hs : Int), (decimalValue ms : Int)) := by
  have hfits : ∀ {ds : List Char}, ds.length ≤ 2 → (∀ c ∈ ds, c.isDigit = true) → decimalValue ds < 2 ^ 63 :=
    fun hl hd => lt_of_lt_of_le (decimalValue_lt hd) (le_trans (Nat.pow_le_pow_right (by decide) hl) (by decide))
  rw [parseClock, hsplit]
  dsimp only
  rw [atoi_digits (show (⟨hs⟩ : String).data ≠ [] from hh.1) hh.2.2 (hfits hh.2.1 hh.2.2),
    atoi_digits (show (⟨ms⟩ : String).data ≠ [] from hm.1) hm.2.2 (hfits hm.2.1 hm.2.2)]

/-- `parseTimeWindow` reads a time field as the time of day it names. -/
theorem parseClock_of_clockValue {s : String} {h m : Nat} (hc : clockValue s.data = some (h, m)) :
    parseClock s = some ((h : Int), (m : Int)) := by
  have hcolon : ∀ {c : Char}, c.isDigit = true → ':' ≠ c := fun hd he => by subst he; simp at hd
  unfold clockValue at hc
  split at hc
  · rename_i a b c hs
    simp only [Bool.and_eq_true, Option.ite_none_right_eq_some, Option.some.injEq, Prod.mk.injEq] at hc
    obtain ⟨⟨⟨ha, hb⟩, hc'⟩, rfl, rfl⟩ := hc
    refine parseClock_digits ?_ ⟨by simp, by simp, by simp [ha]⟩ ⟨by simp, by simp, by simp [hb, hc']⟩
    rw [split, if_neg (by decide), hs]
    simp [splitAux, List.isPrefixOf, hcolon ha, hcolon hb, hcolon hc']
  · rename_i a a' b c hs
    simp only [Bool.and_eq_true, Option.ite_none_right_eq_some, Option.some.injEq, Prod.mk.injEq] at hc
    obtain ⟨⟨⟨⟨ha, ha'⟩, hb⟩, hc'⟩, rfl, rfl⟩ := hc
    refine parseClock_digits ?_ ⟨by simp, by simp, by simp [ha, ha']⟩ ⟨by simp, by simp, by simp [hb, hc']⟩
    rw [split, if_neg (by decide), hs]
    simp [splitAux, List.isPrefixOf, hcolon ha, hcolon ha', hcolon hb, hcolon hc']
  · cases hc

/-- An admitted time field names the same minute of the day in `parseTimeWindow` as in the API,
    one of the `1440` minutes of a day. -/
theorem parseClock_minutes {s : String} (hs : ClockText s) :
    ((parseClock s).map Prod.fst).getD 0 * 60 + ((parseClock s).map Prod.snd).getD 0 = clockMinutes s ∧
      0 ≤ clockMinutes s ∧ clockMinutes s < 1440 := by
  rcases hs with rfl | ⟨hh, mm, hc, hh24, hm60⟩
  · exact ⟨rfl, by decide, by decide⟩
  · simp only [parseClock_of_clockValue hc, clockMinutes, hc, Option.map_some', Option.getD_some, true_and]
    omega

/-- Wrap-around windows are arcs of the clock. -/
theorem window_iff_arc {S E C : Int} (hS : 0 ≤ S ∧ S < 1440) (hE : 0 ≤ E ∧ E < 1440) (hC : 0 ≤ C ∧ C < 1440) :
    (if S ≤ E then S ≤ C ∧ C < E else S ≤ C ∨ C < E) ↔ (C - S) % 1440 < (E - S) % 1440 := by
  split <;> constructor <;> intro h <;> omega

/-- The stored `days` are `int64`s, which the `float64` assertion of `parseTimeWindow` skips. -/
theorem foldl_addDay_int64 (ds acc : List Int) : (ds.map Value.int64).foldl addDay acc = acc := by
  induction ds generalizing acc with
  | nil => rfl
  | cons d ds ih => exact ih acc

/-- A compiled time window never restricts the day. -/
theorem parseTimeWindow_days (tw : TimeWindowMatch) : (parseTimeWindow tw.toObject).days = [] := by
  have h : (tw.toObject.getArray "days").getD [] = tw.days.map Value.int64 :=
    getArray_listField _ (by simp [TimeWindowMatch.toObject, lookup_append, List.lookup_cons])
  simp only [parseTimeWindow, h, parseDays, foldl_addDay_int64]

/-- **The compiled time window** of an admitted window is the arc of the clock from its start to
    its end, on every day. -/
theorem isActive_parseTimeWindow_arc (tw : TimeWindowMatch) (hv : validateTimeWindow tw = none) (t : Time) :
    (parseTimeWindow tw.toObject).isActive t = true ↔
      (t.hour * 60 + t.minute - clockMinutes tw.start) % 1440 <
        (clockMinutes tw.endTime - clockMinutes tw.start) % 1440 := by
  obtain ⟨hs, he⟩ := validateTimeWindow_clock hv
  obtain ⟨hS, hS0, hS1⟩ := parseClock_minutes hs
  obtain ⟨hE, hE0, hE1⟩ := parseClock_minutes he
  have hstart : tw.toObject.getStr "start" = some tw.start := rfl
  have hend : tw.toObject.getStr "end" = some tw.endTime := rfl
  rw [TimeWindow.isActive, parseTimeWindow_days]
  simp only [ne_eq, not_true_eq_false, false_and, if_false, decide_eq_true_eq]
  simp only [parseTimeWindow, hstart, hend, Option.some_bind, hS, hE]
  refine Iff.trans ?_ (window_iff_arc ⟨hS0, hS1⟩ ⟨hE0, hE1⟩ (Time.minuteOfDay_range t))
  split <;> simp

/-! ### The refinement -/

/-- A route for `embed` requests on `bge-*` models between 22:00 and 06:00 UTC. -/
def nightlyEmbedRoute : TermiteRoute where
  namespaceName := "default"
  name := "nightly-embed"
  spec :=
    { priority := 100
      routeMatch :=
        { operations := ["embed"], models := ["bge-*"], headers := ⟨[], List.nodup_nil⟩, source := none
          timeWindow := some { start := "22:00", endTime := "06:00", days := [] } }
      route := [{ pool := "gpu-pool", weight := 100, condition := none }]
      fallback := none, rateLimiting := none, retry := none }

/-- An `embed` request for `bge-small` from `team-b` at the epoch, a Thursday, midnight UTC. -/
def bgeRequest : CallerRequest :=
  { operation := "embed", model := "bge-small", headers := [], sourceTable := "docs",
    callerNamespace := "team-b", serviceAccount := "default", timestamp := 0 }

/-- The same route, restricted to callers from the namespace `team-a` with the service account
    `indexer`, on Mondays. -/
def teamAMondayRoute : TermiteRoute :=
  { nightlyEmbedRoute with
    spec := { nightlyEmbedRoute.spec with
      routeMatch := { nightlyEmbedRoute.spec.routeMatch with
        source := some { tables := [], namespaces := ["team-a"], serviceAccounts := ["indexer"] }
        timeWindow := some { start := "22:00", endTime := "06:00", days := [1] } } } }

/-- The webhook admits it, and its compiled route matches `bgeRequest`, which the block excludes
    twice over: the caller is neither from `team-a` nor `indexer`, and the day is a Thursday. -/
theorem matchRoute_ignores_caller_and_days :
    validateTermiteRoute teamAMondayRoute.spec = none ∧
      (convertRoute 0 teamAMondayRoute.toUnstructured).toOption.map
        (fun route => matchRoute route bgeRequest.toRouteRequest) = some true ∧
      ¬ teamAMondayRoute.spec.routeMatch.selectsCaller bgeRequest ∧
      ¬ ∀ tw ∈ teamAMondayRoute.spec.routeMatch.timeWindow, tw.covers bgeRequest.timestamp := by
  refine ⟨by decide, by decide, fun h => ?_, fun h => ?_⟩
  · have := (h _ rfl).1
    simp [teamAMondayRoute, bgeRequest] at this
  · have := (h _ rfl).1
    simp [teamAMondayRoute, bgeRequest, Time.weekday] at this

end Termite.Proxy
