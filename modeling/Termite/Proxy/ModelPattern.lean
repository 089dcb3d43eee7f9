import Termite.Go.Compile
import Termite.Go.Match
import Mathlib.Data.List.Basic

namespace Termite.Proxy

open Termite.Go Termite.Go.Regexp

/-!
# Model patterns (`CompileModelPattern`)

A route's model pattern is a glob: `CompileModelPattern` quotes it with `QuoteMeta`, turns each
quoted `*` back into `.*`, and anchors the result with `^…$`.  This module follows that text
through the parser of `Termite.Go.Compile` and the matcher of `Termite.Go.Match`.

* `globMatch` — the glob reading of a pattern: each `*` stands for a run of characters with no
  newline (the `.` of the compiled expression), every other character for itself.
* `compileModelPattern_eq` — compilation always succeeds, with the tree `globRegexp`: `^`, one
  atom per pattern character, `$`.
* `matchString_globRegexp` — the compiled pattern matches a model name iff the glob does.
* `compileModelPattern_matchString` — in the terms of the pattern's pieces between its stars:
  the name is the pieces with newline-free texts in place of the stars.
-/

/-- `CompileModelPattern(pattern)`: quote the pattern, turn each quoted `*` into `.*`, anchor. -/
def compileModelPattern (pattern : String) : Except String Regexp :=
  compile ("^" ++ replaceAll (quoteMeta pattern) "\\*" ".*" ++ "$")

/-! ### The glob reading -/

/-- A `*` followed by the rest `k` of the pattern: some newline-free prefix of the text is
    skipped and `k` matches what is left. -/
def globStar (k : List Char → Bool) : List Char → Bool
  | [] => k []
  | d :: s => k (d :: s) || (d != '\n' && globStar k s)

/-- Whether a glob pattern matches a whole text, `*` matching any newline-free run. -/
def globMatch : List Char → List Char → Bool
  | [], s => s.isEmpty
  | c :: p, s => if c = '*' then globStar (globMatch p) s else s.head? == some c && globMatch p s.tail

example : globMatch "bge-*".data "bge-small-en".data = true := by decide
example : globMatch "*-rerank-*".data "bge-small".data = false := by decide

/-- The text one pattern character stands for. -/
def globPiece (c : Char) (u : List Char) : Prop :=
  if c = '*' then ∀ x ∈ u, x ≠ '\n' else u = [c]

theorem globStar_iff (k : List Char → Bool) (s : List Char) :
    globStar k s = true ↔ ∃ u v, s = u ++ v ∧ (∀ x ∈ u, x ≠ '\n') ∧ k v = true := by
  induction s with
  | nil =>
    simp only [globStar, List.nil_eq_append_iff]
    exact ⟨fun h => ⟨[], [], ⟨rfl, rfl⟩, by simp, h⟩, fun ⟨_, _, ⟨_, hv⟩, _, h⟩ => hv ▸ h⟩
  | cons d s ih =>
    simp only [globStar, Bool.or_eq_true, Bool.and_eq_true, bne_iff_ne, ne_eq, ih]
    constructor
    · rintro (h | ⟨hd, u, v, rfl, hu, hv⟩)
      · exact ⟨[], d :: s, rfl, by simp, h⟩
      · exact ⟨d :: u, v, rfl, by simpa [hd] using hu, hv⟩
    · rintro ⟨_ | ⟨x, u⟩, v, huv, hu, hv⟩
      · simp only [List.nil_append] at huv; exact Or.inl (huv ▸ hv)
      · simp only [List.cons_append, List.cons.injEq] at huv
        obtain ⟨rfl, rfl⟩ := huv
        exact Or.inr ⟨hu _ (List.mem_cons_self _ _), u, v, rfl,
          fun y hy => hu y (List.mem_cons_of_mem _ hy), hv⟩

/-- **One pattern character at a time.** -/
theorem globMatch_cons_iff (c : Char) (p s : List Char) :
    globMatch (c :: p) s = true ↔ ∃ u v, s = u ++ v ∧ globPiece c u ∧ globMatch p v = true := by
  by_cases hc : c = '*'
  · simp only [globMatch, hc, if_true, globStar_iff, globPiece]
  · simp only [globMatch, hc, if_false, globPiece]
    cases s with
    | nil => simp
    | cons d s =>
      simp only [List.head?_cons, List.tail_cons, Bool.and_eq_true, beq_iff_eq, Option.some.injEq]
      constructor
      · rintro ⟨rfl, h⟩; exact ⟨[d], s, rfl, rfl, h⟩
      · rintro ⟨u, v, huv, rfl, h⟩
        simp only [List.singleton_append, List.cons.injEq] at huv
        exact ⟨huv.1, huv.2 ▸ h⟩

/-! ### The quoted text -/

/-- `QuoteMeta` of one character. -/
def quoteChar (c : Char) : List Char := if c ∈ metaChars then ['\\', c] else [c]

/-- The text `CompileModelPattern` hands to the parser, between its anchors. -/
def escapeGlob : List Char → List Char
  | [] => []
  | c :: p => (if c = '*' then ['.', '*'] else quoteChar c) ++ escapeGlob p

theorem flatMap_quoteChar_head (p : List Char) : ∀ d ∈ (p.flatMap quoteChar).head?, d ≠ '*' := by
  cases p with
  | nil => simp
  | cons c p =>
    by_cases hc : c ∈ metaChars <;> simp [quoteChar, hc]
    rintro rfl; simp [metaChars] at hc

/-- Where no `\*` starts, `ReplaceAll` copies a character. -/
theorem replaceAllAux_cons {old new : List Char} {c : Char} {cs : List Char}
    (h : old.isPrefixOf (c :: cs) = false) :
    replaceAllAux old new 0 (c :: cs) = c :: replaceAllAux old new 0 cs := by
  simp [replaceAllAux, h]

/-- Replacing `\*` by `.*` in the quoted pattern touches exactly the quoted stars: a quoted
    backslash is never followed by a bare `*`. -/
theorem replaceAllAux_quote (p : List Char) :
    replaceAllAux ['\\', '*'] ['.', '*'] 0 (p.flatMap quoteChar) = escapeGlob p := by
  induction p with
  | nil => rfl
  | cons c p ih =>
    have hh := flatMap_quoteChar_head p
    have hb : ['\\', '*'].isPrefixOf ('\\' :: p.flatMap quoteChar) = false := by
      cases hq : p.flatMap quoteChar with
      | nil => rfl
      | cons d ds =>
        simp only [hq, List.head?_cons, Option.mem_def, Option.some.injEq, forall_eq'] at hh
        simp [List.isPrefixOf, Ne.symm hh]
    by_cases hs : c = '*'
    · subst hs
      have hm : ('*' : Char) ∈ metaChars := by decide
      simp only [List.flatMap_cons, quoteChar, hm, if_true, escapeGlob, List.cons_append,
        List.nil_append]
      simp [replaceAllAux, List.isPrefixOf, ih]
    · by_cases hm : c ∈ metaChars
      · have h1 : ['\\', '*'].isPrefixOf ('\\' :: c :: p.flatMap quoteChar) = false := by
          simp [List.isPrefixOf, Ne.symm hs]
        simp only [List.flatMap_cons, quoteChar, hm, if_true, hs, if_false, escapeGlob,
          List.cons_append, List.nil_append]
        rw [replaceAllAux_cons h1]
        by_cases hc : c = '\\'
        · subst hc; rw [replaceAllAux_cons hb, ih]
        · rw [replaceAllAux_cons (by simp [List.isPrefixOf, Ne.symm hc]), ih]
      · have hc : c ≠ '\\' := by rintro rfl; simp [metaChars] at hm
        simp only [List.flatMap_cons, quoteChar, hm, if_false, hs, escapeGlob,
          List.cons_append, List.nil_append]
        rw [replaceAllAux_cons (by simp [List.isPrefixOf, Ne.symm hc]), ih]

/-- The text of `CompileModelPattern(pattern)`. -/
theorem modelPatternText (pattern : String) :
    ("^" ++ replaceAll (quoteMeta pattern) "\\*" ".*" ++ "$").data =
      '^' :: (escapeGlob pattern.data ++ ['$']) := by
  have h : (replaceAll (quoteMeta pattern) "\\*" ".*").data = escapeGlob pattern.data := by
    rw [replaceAll, if_neg (by decide)]; exact replaceAllAux_quote pattern.data
  show '^' :: ((replaceAll (quoteMeta pattern) "\\*" ".*").data ++ ['$']) = _
  rw [h]

/-- No glob token is followed by a repetition operator. -/
theorem escapeGlob_head (p : List Char) :
    ∀ d ∈ (escapeGlob p ++ ['$']).head?, d ≠ '*' ∧ d ≠ '+' ∧ d ≠ '?' ∧ d ≠ '{' := by
  cases p with
  | nil => simp [escapeGlob]
  | cons c p =>
    by_cases hs : c = '*'
    · simp [escapeGlob, hs]
    · by_cases hm : c ∈ metaChars
      · simp [escapeGlob, hs, quoteChar, hm]
      · simp only [metaChars, List.mem_cons, List.mem_singleton, not_or, List.not_mem_nil] at hm
        simp [escapeGlob, hs, quoteChar, metaChars, hm]

theorem length_le_escapeGlob (p : List Char) : p.length ≤ (escapeGlob p).length := by
  induction p with
  | nil => rfl
  | cons c p ih =>
    have : 1 ≤ (if c = '*' then ['.', '*'] else quoteChar c).length := by
      unfold quoteChar; split <;> [simp; split <;> simp]
    simp only [escapeGlob, List.length_append, List.length_cons]
    omega

/-! ### Parsing the quoted text -/

/-- The tree of one pattern character. -/
def globAtom (c : Char) : Regexp := if c = '*' then .star .anyCharNotNL else .literal c

/-- The tree `CompileModelPattern` builds: `^`, one atom per pattern character, `$`. -/
def globRegexp (p : List Char) : Regexp :=
  .concat (p.foldl (fun acc c => .concat acc (globAtom c)) (.concat .emptyMatch .beginText)) .endText

theorem parseRepeatCount_of_ne {c : Char} {cs : List Char} (h : c ≠ '{') :
    parseRepeatCount (c :: cs) = none := by
  rw [parseRepeatCount]; simpa using h

theorem repeatOp_eq_none {cs : List Char}
    (h : ∀ d ∈ cs.head?, d ≠ '*' ∧ d ≠ '+' ∧ d ≠ '?' ∧ d ≠ '{') : repeatOp cs = none := by
  cases cs with
  | nil => rfl
  | cons c cs =>
    obtain ⟨h1, h2, h3, h4⟩ := h c rfl
    -- the text starts with none of the six operator forms, so only the counted case is left
    have hd : ∀ d, c ≠ d → ∀ rest, c :: cs = d :: rest → False := fun d hd _ he => hd (List.cons.inj he).1
    rw [repeatOp.eq_7 _ (fun _ => hd _ h1 _) (hd _ h1) (fun _ => hd _ h2 _) (hd _ h2) (fun _ => hd _ h3 _)
      (hd _ h3), parseRepeatCount_of_ne h4]

theorem parseRepeat_of_none {r : Regexp} {w : Nat} {cs : List Char} (h : repeatOp cs = none) :
    parseRepeat r w cs = .ok (r, w, cs) := by
  rw [parseRepeat, h]

theorem parseRepeat_star {r : Regexp} {w : Nat} {cs : List Char}
    (h : ∀ d ∈ cs.head?, d ≠ '*' ∧ d ≠ '+' ∧ d ≠ '?' ∧ d ≠ '{') :
    parseRepeat r w ('*' :: cs) = .ok (.star r, w, cs) := by
  have hq : repeatOp ('*' :: cs) = some (.star, cs) :=
    repeatOp.eq_2 cs fun _ he => (h '?' (by simp [he])).2.2.1 rfl
  rw [parseRepeat, hq]
  simp [repeatOp_eq_none h, applyRepeat]

/-- One step of the concatenation loop: an atom of weight `0`, then its repetition. -/
theorem parseConcat_cons {whole : String} {f : Nat} {acc : Regexp} {w : Nat} {c : Char}
    {cs rest rest' : List Char} {a a' : Regexp} (h1 : c ≠ '|') (h2 : c ≠ ')')
    (ha : parseAtom whole f (c :: cs) = .ok (a, 0, rest)) (hr : parseRepeat a 0 rest = .ok (a', 0, rest')) :
    parseConcat whole (f + 1) acc w (c :: cs) = parseConcat whole f (.concat acc a') w rest' := by
  rw [parseConcat] <;> simp_all

theorem parseAtom_dot (whole : String) (f : Nat) (rest : List Char) :
    parseAtom whole (f + 1) ('.' :: rest) = .ok (.anyCharNotNL, 0, rest) := rfl

theorem parseAtom_caret (whole : String) (f : Nat) (rest : List Char) :
    parseAtom whole (f + 1) ('^' :: rest) = .ok (.beginText, 0, rest) := rfl

theorem parseAtom_dollar (whole : String) (f : Nat) (rest : List Char) :
    parseAtom whole (f + 1) ('$' :: rest) = .ok (.endText, 0, rest) := rfl

theorem parseAtom_literal (whole : String) (f : Nat) {c : Char} {rest : List Char} (hc : c ∉ metaChars) :
    parseAtom whole (f + 1) (c :: rest) = .ok (.literal c, 0, rest) := by
  simp only [metaChars, List.mem_cons, List.mem_singleton, not_or, List.not_mem_nil] at hc
  rw [parseAtom] <;> simp_all

theorem parseAtom_escaped (whole : String) (f : Nat) {c : Char} {rest : List Char} (hc : c ∈ metaChars) :
    parseAtom whole (f + 1) ('\\' :: c :: rest) = .ok (.literal c, 0, rest) := by
  simp only [metaChars, List.mem_cons, List.mem_singleton, List.not_mem_nil, or_false] at hc
  rcases hc with rfl | rfl | rfl | rfl | rfl | rfl | rfl | rfl | rfl | rfl | rfl | rfl | rfl | rfl <;> rfl

/-- One pattern character: its quoted text parses, with one unit of fuel, to its atom. -/
theorem parseConcat_escapeGlob_cons (whole : String) (c : Char) (p : List Char) (acc : Regexp) (w f : Nat) :
    parseConcat whole (f + 2) acc w (escapeGlob (c :: p) ++ ['$']) =
      parseConcat whole (f + 1) (.concat acc (globAtom c)) w (escapeGlob p ++ ['$']) := by
  have hrep := escapeGlob_head p
  by_cases hs : c = '*'
  · subst hs
    simp only [escapeGlob, if_true, List.cons_append, List.nil_append]
    rw [parseConcat_cons (by decide) (by decide) (parseAtom_dot whole f _) (parseRepeat_star hrep)]
    rfl
  · by_cases hm : c ∈ metaChars
    · simp only [escapeGlob, hs, if_false, quoteChar, hm, if_true, List.cons_append, List.nil_append]
      rw [parseConcat_cons (by decide) (by decide) (parseAtom_escaped whole f hm)
        (parseRepeat_of_none (repeatOp_eq_none hrep)), globAtom, if_neg hs]
    · have hc : c ≠ '|' ∧ c ≠ ')' := by
        constructor <;> rintro rfl <;> simp [metaChars] at hm
      simp only [escapeGlob, hs, if_false, quoteChar, hm, List.cons_append, List.nil_append]
      rw [parseConcat_cons hc.1 hc.2 (parseAtom_literal whole f hm)
        (parseRepeat_of_none (repeatOp_eq_none hrep)), globAtom, if_neg hs]

/-- The loop over the quoted pattern and the closing `$`, given one unit of fuel per token. -/
theorem parseConcat_escapeGlob (whole : String) (p : List Char) (acc : Regexp) (w f : Nat)
    (hf : p.length + 2 ≤ f) :
    parseConcat whole f acc w (escapeGlob p ++ ['$']) =
      .ok (.concat (p.foldl (fun acc c => .concat acc (globAtom c)) acc) .endText, w, []) := by
  induction p generalizing acc f with
  | nil =>
    obtain ⟨f, rfl⟩ : ∃ f', f = f' + 2 := ⟨f - 2, by simp at hf; omega⟩
    rw [escapeGlob, List.nil_append, parseConcat_cons (by decide) (by decide) (parseAtom_dollar whole f [])
      (parseRepeat_of_none rfl)]
    rfl
  | cons c p ih =>
    obtain ⟨f, rfl⟩ : ∃ f', f = f' + 2 := ⟨f - 2, by simp at hf; omega⟩
    rw [parseConcat_escapeGlob_cons, ih _ _ (by simp at hf; omega), List.foldl_cons]

/-- The whole anchored text, given enough fuel: `^`, the tokens, `$`. -/
theorem parseAlternate_modelPattern (whole : String) (p : List Char) (f : Nat)
    (hf : (escapeGlob p).length + 4 ≤ f) :
    parseAlternate whole f ('^' :: (escapeGlob p ++ ['$'])) = .ok (globRegexp p, 0, []) := by
  obtain ⟨f, rfl⟩ : ∃ f', f = f' + 1 + 1 + 1 := ⟨f - 3, by omega⟩
  rw [parseAlternate, show f + 2 = f + 1 + 1 from rfl,
    parseConcat_cons (by decide) (by decide) (parseAtom_caret whole f _)
      (parseRepeat_of_none (repeatOp_eq_none (escapeGlob_head p))),
    parseConcat_escapeGlob whole p _ 0 (f + 1) (by have := length_le_escapeGlob p; omega)]
  rfl

/-- **`CompileModelPattern` never fails**, and builds `globRegexp`. -/
theorem compileModelPattern_eq (pattern : String) :
    compileModelPattern pattern = .ok (globRegexp pattern.data) := by
  have hlen : ("^" ++ replaceAll (quoteMeta pattern) "\\*" ".*" ++ "$").length =
      (escapeGlob pattern.data).length + 2 := by
    rw [String.length, modelPatternText]; simp
  rw [compileModelPattern, compile, modelPatternText,
    parseAlternate_modelPattern _ _ _ (by rw [hlen]; omega)]

/-! ### What the compiled pattern matches -/

theorem sem_star_anyCharNotNL_iff {b e : Bool} {w : List Char} :
    Sem (.star .anyCharNotNL) b w e ↔ ∀ x ∈ w, x ≠ '\n' := by
  induction w generalizing b with
  | nil => exact ⟨fun _ => by simp, fun _ => Sem.starNil _ b e⟩
  | cons c w ih =>
    rw [sem_star_cons_iff]
    constructor
    · rintro ⟨u, v, rfl, hc, hv⟩
      obtain ⟨d, hd, hdn⟩ := sem_anyCharNotNL_iff.mp hc
      simp only [List.cons.injEq] at hd
      obtain ⟨rfl, rfl⟩ := hd
      simpa [hdn] using ih.mp hv
    · intro h
      exact ⟨[], w, rfl, sem_anyCharNotNL_iff.mpr ⟨c, rfl, h c (by simp)⟩,
        ih.mpr fun x hx => h x (by simp [hx])⟩

theorem sem_globAtom_iff {c : Char} {b e : Bool} {u : List Char} :
    Sem (globAtom c) b u e ↔ globPiece c u := by
  unfold globAtom globPiece
  split
  · exact sem_star_anyCharNotNL_iff
  · exact sem_literal_iff

/-- The atoms after `acc` match the glob, whatever their context. -/
theorem sem_foldl_globAtom (p : List Char) (acc : Regexp) (b : Bool) (w : List Char) (e : Bool) :
    Sem (p.foldl (fun acc c => .concat acc (globAtom c)) acc) b w e ↔
      ∃ u v, w = u ++ v ∧ Sem acc b u (e && v.isEmpty) ∧ globMatch p v = true := by
  induction p generalizing acc w with
  | nil =>
    simp only [List.foldl_nil, globMatch, List.isEmpty_iff]
    constructor
    · intro h; exact ⟨w, [], by simp, by simpa using h, rfl⟩
    · rintro ⟨u, v, rfl, h, rfl⟩; simpa using h
  | cons c p ih =>
    rw [List.foldl_cons, ih]
    constructor
    · rintro ⟨u, v, rfl, hu, hv⟩
      obtain ⟨u₁, u₂, rfl, h₁, h₂⟩ := sem_concat_iff.mp hu
      refine ⟨u₁, u₂ ++ v, by simp, ?_, (globMatch_cons_iff c p _).mpr ⟨u₂, v, rfl, sem_globAtom_iff.mp h₂, hv⟩⟩
      rwa [isEmpty_append, ← Bool.and_assoc, Bool.and_right_comm]
    · rintro ⟨u, v', rfl, hu, hv'⟩
      obtain ⟨u₂, v, rfl, h₂, hv⟩ := (globMatch_cons_iff c p _).mp hv'
      refine ⟨u ++ u₂, v, by simp, sem_concat_iff.mpr ⟨u, u₂, rfl, ?_, sem_globAtom_iff.mpr h₂⟩, hv⟩
      rwa [isEmpty_append, ← Bool.and_assoc, Bool.and_right_comm] at hu

theorem sem_globRegexp_iff (p : List Char) (b : Bool) (w : List Char) (e : Bool) :
    Sem (globRegexp p) b w e ↔ b = true ∧ e = true ∧ globMatch p w = true := by
  rw [globRegexp, sem_concat_iff]
  simp only [sem_endText_iff, sem_foldl_globAtom, sem_concat_iff, sem_emptyMatch_iff, sem_beginText_iff]
  constructor
  · rintro ⟨u, v, rfl, ⟨_, v', rfl, ⟨_, _, rfl, rfl, hb, rfl⟩, hv⟩, he, rfl⟩
    exact ⟨by simpa using hb, he, by simpa using hv⟩
  · rintro ⟨hb, he, hw⟩
    exact ⟨w, [], by simp, ⟨[], w, rfl, ⟨[], [], rfl, rfl, by simp [hb], rfl⟩, hw⟩, he, rfl⟩

/-- **The compiled pattern matches exactly the glob's texts**, anchored at both ends. -/
theorem matchString_globRegexp (p : List Char) (s : String) :
    (globRegexp p).matchString s = true ↔ globMatch p s.data = true := by
  rw [matchString_iff]
  simp only [sem_globRegexp_iff, List.isEmpty_iff]
  constructor
  · rintro ⟨_, u, _, hs, rfl, rfl, hu⟩; simpa [hs] using hu
  · intro h; exact ⟨[], s.data, [], by simp, rfl, rfl, h⟩

/-! ### The pattern split at its stars -/

/-- `L₀ w₁ L₁ … wₖ Lₖ`: the pieces `L₀ … Lₖ` of a pattern split at its stars, with the texts
    `w₁ … wₖ` where the stars were. -/
def fillStars (pieces ws : List (List Char)) : List Char :=
  pieces.headD [] ++ (List.zipWith (· ++ ·) ws pieces.tail).flatten

theorem splitOn_star_cons (p : List Char) :
    ('*' :: p).splitOn '*' = [] :: p.splitOn '*' := by
  simp [List.splitOn]

theorem splitOn_cons_of_ne {c : Char} (p : List Char) (hc : c ≠ '*') :
    (c :: p).splitOn '*' = (p.splitOn '*').modifyHead (c :: ·) := by
  simp [List.splitOn, hc]

/-- The glob reading, piece by piece: the text is the pattern's pieces with newline-free texts
    where its stars were. -/
theorem globMatch_iff_fillStars (p s : List Char) :
    globMatch p s = true ↔ ∃ ws : List (List Char), ws.length = (p.splitOn '*').tail.length ∧
      (∀ w ∈ ws, '\n' ∉ w) ∧ s = fillStars (p.splitOn '*') ws := by
  induction p generalizing s with
  | nil =>
    simp only [globMatch, List.isEmpty_iff, List.splitOn_nil, List.tail_cons, List.length_nil,
      List.length_eq_zero, fillStars]
    constructor
    · rintro rfl; exact ⟨[], rfl, by simp, rfl⟩
    · rintro ⟨_, rfl, -, rfl⟩; rfl
  | cons c p ih =>
    obtain ⟨L, Ls, hsplit⟩ := List.exists_cons_of_ne_nil (List.splitOnP_ne_nil (· == '*') p)
    have hs : p.splitOn '*' = L :: Ls := hsplit
    rw [hs] at ih
    by_cases hc : c = '*'
    · subst hc
      rw [globMatch_cons_iff, splitOn_star_cons, hs]
      simp only [globPiece, if_true]
      constructor
      · rintro ⟨u, v, rfl, hu, hv⟩
        obtain ⟨ws, hl, hw, rfl⟩ := (ih v).mp hv
        exact ⟨u :: ws, by simp [hl], by
          rintro w (_ | ⟨_, hw'⟩); exacts [fun h => hu _ h rfl, hw w hw'], by simp [fillStars]⟩
      · rintro ⟨_ | ⟨u, ws⟩, hl, hw, rfl⟩
        · simp at hl
        · refine ⟨u, fillStars (L :: Ls) ws, by simp [fillStars], fun x hx h => ?_, ?_⟩
          · exact hw u (List.mem_cons_self u ws) (h ▸ hx)
          · exact (ih _).mpr ⟨ws, by simpa using hl, fun w h => hw w (List.mem_cons_of_mem u h), rfl⟩
    · rw [globMatch_cons_iff, splitOn_cons_of_ne p hc, hs]
      simp only [globPiece, hc, if_false, List.modifyHead_cons]
      constructor
      · rintro ⟨_, v, rfl, rfl, hv⟩
        obtain ⟨ws, hl, hw, rfl⟩ := (ih v).mp hv
        exact ⟨ws, hl, hw, by simp [fillStars]⟩
      · rintro ⟨ws, hl, hw, rfl⟩
        exact ⟨[c], fillStars (L :: Ls) ws, by simp [fillStars], rfl, (ih _).mpr ⟨ws, hl, hw, rfl⟩⟩

/-- **What a compiled model pattern matches.** `CompileModelPattern(p)` succeeds, and its
    expression matches `s` iff `s = L₀ w₁ L₁ … wₖ Lₖ` for `p = L₀*L₁*…*Lₖ` and texts `wᵢ` with no
    newline: every other character of `p`, metacharacters and backslashes included, stands for
    itself, and the match is of the whole text. -/
theorem compileModelPattern_matchString (p s : String) :
    ∃ re, compileModelPattern p = .ok re ∧
      (re.matchString s = true ↔ ∃ ws : List (List Char), ws.length = (p.data.splitOn '*').tail.length ∧
        (∀ w ∈ ws, '\n' ∉ w) ∧ s.data = fillStars (p.data.splitOn '*') ws) :=
  ⟨_, compileModelPattern_eq p, (matchString_globRegexp _ _).trans (globMatch_iff_fillStars _ _)⟩

example : fillStars ("bge-*-en".data.splitOn '*') ["small".data] = "bge-small-en".data := by decide

end Termite.Proxy
