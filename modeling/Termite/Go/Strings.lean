import Mathlib.Data.List.Basic
import Mathlib.Algebra.Group.Int

namespace Termite.Go

/-!
# Go's `strings`, `strconv` and `path/filepath` helpers

The functions of the standard library the proxy, the webhooks, the CLIP tokenizer and the
model puller call on strings and paths, on the character list of a Lean `String`.  Go strings
are byte strings; every string here comes from decoded JSON, which is valid UTF-8, and on valid
UTF-8 the byte-wise functions below agree with their character-wise versions (a separator or
prefix that is ASCII cannot start inside a multi-byte sequence).
-/

/-- `strings.HasPrefix(s, prefix)`. -/
def hasPrefix (s p : String) : Bool := p.data.isPrefixOf s.data

/-- `strings.TrimPrefix(s, prefix)`. -/
def trimPrefix (s p : String) : String := if hasPrefix s p then ⟨s.data.drop p.length⟩ else s

/-- `strings.CutPrefix(s, prefix)`: `s` without the prefix, and whether it was there. -/
def cutPrefix (s p : String) : String × Bool :=
  if hasPrefix s p then (⟨s.data.drop p.length⟩, true) else (s, false)

/-- `strings.HasSuffix(s, suffix)`. -/
def hasSuffix (s p : String) : Bool := p.data.isSuffixOf s.data

/-- `strings.CutSuffix(s, suffix)`: `s` without the suffix, and whether it was there. -/
def cutSuffix (s p : String) : String × Bool :=
  if hasSuffix s p then (⟨s.data.take (s.length - p.length)⟩, true) else (s, false)

/-- Whether `p` occurs in `cs`. -/
def isInfixOf (p : List Char) : List Char → Bool
  | [] => p.isEmpty
  | c :: cs => p.isPrefixOf (c :: cs) || isInfixOf p cs

/-- `strings.Contains(s, substr)`. -/
def contains (s sub : String) : Bool := isInfixOf sub.data s.data

/-- The scan of `strings.Split` for a non-empty `sep`: `field` is the current field, reversed,
    and `skip` characters of a separator remain to be dropped. -/
def splitAux (sep : List Char) : Nat → List Char → List Char → List String
  | _, field, [] => [⟨field.reverse⟩]
  | skip + 1, field, _ :: cs => splitAux sep skip field cs
  | 0, field, c :: cs =>
    if sep.isPrefixOf (c :: cs) then ⟨field.reverse⟩ :: splitAux sep (sep.length - 1) [] cs
    else splitAux sep 0 (c :: field) cs

/-- `strings.Split(s, sep)`; an empty `sep` splits after every character. -/
def split (s sep : String) : List String :=
  if sep = "" then s.data.map fun c => ⟨[c]⟩ else splitAux sep.data 0 [] s.data

/-- `unicode.IsSpace`. -/
def isSpace (c : Char) : Bool :=
  c = '\t' || c = '\n' || c = '\x0B' || c = '\x0C' || c = '\r' || c = ' ' || c = '\x85' ||
    c = '\xA0' || c = '\u1680' || ('\u2000' ≤ c && c ≤ '\u200A') || c = '\u2028' ||
    c = '\u2029' || c = '\u202F' || c = '\u205F' || c = '\u3000'

/-- `strings.TrimSpace(s)`. -/
def trimSpace (s : String) : String :=
  ⟨((s.data.dropWhile isSpace).reverse.dropWhile isSpace).reverse⟩

/-- The scan of `strings.Fields`: `field` is the current field, reversed. -/
def fieldsAux : List Char → List Char → List String
  | field, [] => if field.isEmpty then [] else [⟨field.reverse⟩]
  | field, c :: cs =>
    if isSpace c then
      if field.isEmpty then fieldsAux [] cs else ⟨field.reverse⟩ :: fieldsAux [] cs
    else fieldsAux (c :: field) cs

/-- `strings.Fields(s)`: the maximal runs of characters that are not `unicode.IsSpace`. -/
def fields (s : String) : List String := fieldsAux [] s.data

example : fields "  A photo\tof a cat \n" = ["A", "photo", "of", "a", "cat"] := by decide

/-- `strings.ToLower(s)`, given `unicode.ToLower`: Go maps every rune through it (its ASCII
    fast path agrees).  The Unicode case tables are a parameter of the model. -/
def toLower (unicodeToLower : Char → Char) (s : String) : String := ⟨s.data.map unicodeToLower⟩

/-- The scan of `strings.ReplaceAll` for a non-empty `old`; `skip` characters of a replaced
    occurrence remain to be dropped. -/
def replaceAllAux (old new : List Char) : Nat → List Char → List Char
  | _, [] => []
  | skip + 1, _ :: cs => replaceAllAux old new skip cs
  | 0, c :: cs =>
    if old.isPrefixOf (c :: cs) then new ++ replaceAllAux old new (old.length - 1) cs
    else c :: replaceAllAux old new 0 cs

/-- `strings.ReplaceAll(s, old, new)`: the non-overlapping occurrences of `old`, left to right;
    an empty `old` matches before every character and at the end. -/
def replaceAll (s old new : String) : String :=
  if old = "" then ⟨new.data ++ s.data.flatMap fun c => c :: new.data⟩
  else ⟨replaceAllAux old.data new.data 0 s.data⟩

/-- The digit loop of `strconv.ParseUint(s, 10, 64)` from `n`: `none` at a non-digit, and
    `(2^64 - 1, false)` as soon as the value leaves the `uint64` range. -/
def parseUintDigits (n : Nat) : List Char → Option (Nat × Bool)
  | [] => some (n, true)
  | c :: cs =>
    if c.isDigit then
      if n * 10 + (c.toNat - '0'.toNat) ≥ 2 ^ 64 then some (2 ^ 64 - 1, false)
      else parseUintDigits (n * 10 + (c.toNat - '0'.toNat)) cs
    else none

/-- The value of a decimal digit. -/
def digitValue (c : Char) : Nat := c.toNat - '0'.toNat

/-- The value of a string of decimal digits. -/
def decimalValue (ds : List Char) : Nat := ds.foldl (fun n c => n * 10 + digitValue c) 0

theorem char_le_iff {c d : Char} : c ≤ d ↔ c.toNat ≤ d.toNat := Iff.rfl

theorem isDigit_iff {c : Char} : c.isDigit = true ↔ 48 ≤ c.toNat ∧ c.toNat ≤ 57 := by
  simp [Char.isDigit, Char.toNat]; rfl

theorem le_foldl_digits (n : Nat) (ds : List Char) : n ≤ ds.foldl (fun n c => n * 10 + digitValue c) n := by
  induction ds generalizing n with
  | nil => exact le_refl n
  | cons c ds ih => exact le_trans (by omega) (ih (n * 10 + digitValue c))

theorem digitValue_lt {c : Char} (h : c.isDigit = true) : digitValue c < 10 := by
  have := isDigit_iff.mp h; have h0 : '0'.toNat = 48 := rfl; simp only [digitValue, h0]; omega

theorem foldl_digits_lt (n : Nat) (ds : List Char) (hd : ∀ c ∈ ds, c.isDigit = true) :
    ds.foldl (fun n c => n * 10 + digitValue c) n < (n + 1) * 10 ^ ds.length := by
  induction ds generalizing n with
  | nil => simp
  | cons c ds ih =>
    have hc := digitValue_lt (hd c (List.mem_cons_self c ds))
    calc _ < (n * 10 + digitValue c + 1) * 10 ^ ds.length := ih _ fun x hx => hd x (List.mem_cons_of_mem c hx)
      _ ≤ (n + 1) * 10 * 10 ^ ds.length := Nat.mul_le_mul_right _ (by omega)
      _ = (n + 1) * 10 ^ (c :: ds).length := by rw [List.length_cons, Nat.pow_succ', Nat.mul_assoc]

/-- A string of `k` digits has a value below `10 ^ k`. -/
theorem decimalValue_lt {ds : List Char} (hd : ∀ c ∈ ds, c.isDigit = true) :
    decimalValue ds < 10 ^ ds.length := by
  simpa using foldl_digits_lt 0 ds hd

/-- The digit loop from `n` shifts `n` past the digits it reads. -/
theorem foldl_digits_eq (n : Nat) (ds : List Char) :
    ds.foldl (fun n c => n * 10 + digitValue c) n = n * 10 ^ ds.length + decimalValue ds := by
  induction ds generalizing n with
  | nil => simp [decimalValue]
  | cons c ds ih =>
    simp only [List.foldl_cons, decimalValue, Nat.zero_mul, Nat.zero_add] at ih ⊢
    rw [ih, ih (digitValue c), List.length_cons, Nat.pow_succ', Nat.add_mul, Nat.mul_assoc, Nat.add_assoc,
      Nat.mul_comm 10]

theorem decimalValue_cons (d : Char) (ds : List Char) :
    decimalValue (d :: ds) = digitValue d * 10 ^ ds.length + decimalValue ds := by
  rw [decimalValue, List.foldl_cons, Nat.zero_mul, Nat.zero_add, foldl_digits_eq]

/-- The digit loop reads a string of digits as its decimal value, while it fits. -/
theorem parseUintDigits_of_digits (n : Nat) (ds : List Char) (hd : ∀ c ∈ ds, c.isDigit = true)
    (hv : ds.foldl (fun n c => n * 10 + digitValue c) n < 2 ^ 64) :
    parseUintDigits n ds = some (ds.foldl (fun n c => n * 10 + digitValue c) n, true) := by
  induction ds generalizing n with
  | nil => rfl
  | cons c ds ih =>
    have hle := le_foldl_digits (n * 10 + digitValue c) ds
    rw [parseUintDigits, if_pos (hd c (List.mem_cons_self c ds)), if_neg (by simp only [digitValue, List.foldl_cons] at hle hv; omega)]
    exact ih _ (fun c' hc' => hd c' (List.mem_cons_of_mem c hc')) hv

/-- The sign `strconv.Atoi` reads (`true` for `-`) and the digits after it. -/
def signedDigits : List Char → Bool × List Char
  | '-' :: ds => (true, ds)
  | '+' :: ds => (false, ds)
  | ds => (false, ds)

/-- `strconv.Atoi(s)`: the value it returns and whether its error is `nil`.  A syntax error
    returns `0`; a value outside the 64-bit `int` range returns the nearest bound. -/
def atoi (s : String) : Int × Bool :=
  if (signedDigits s.data).2 = [] then (0, false)
  else match parseUintDigits 0 (signedDigits s.data).2 with
    | none => (0, false)
    | some (un, inRange) =>
      if !(signedDigits s.data).1 && (!inRange || un ≥ 2 ^ 63) then (2 ^ 63 - 1, false)
      else if (signedDigits s.data).1 && (!inRange || un > 2 ^ 63) then (-2 ^ 63, false)
      else (if (signedDigits s.data).1 then -(un : Int) else un, true)

/-- Go's `int` arithmetic: the 64-bit two's-complement value of `x`. -/
def wrapInt (x : Int) : Int := x.bmod (2 ^ 64)

/-- `strconv.Atoi` of a non-empty string of digits whose value fits an `int`. -/
theorem atoi_digits {s : String} (hne : s.data ≠ []) (hd : ∀ c ∈ s.data, c.isDigit = true)
    (hv : decimalValue s.data < 2 ^ 63) : atoi s = (((decimalValue s.data : Nat) : Int), true) := by
  have hsign : signedDigits s.data = (false, s.data) := by
    obtain ⟨c, cs, hs⟩ := List.exists_cons_of_ne_nil hne
    have hc := hd c (hs ▸ List.mem_cons_self c cs)
    rw [hs]
    unfold signedDigits
    split <;> simp_all
  have hp := parseUintDigits_of_digits 0 s.data hd (by unfold decimalValue at hv; omega)
  unfold decimalValue at hv ⊢
  have hlt : s.data.foldl (fun n c => n * 10 + digitValue c) 0 < 9223372036854775808 := hv
  simp [atoi, hsign, hne, hp, hlt, Nat.not_le.mpr hlt]

/-! ### Spaces and suffixes -/

/-- Every space `unicode.IsSpace` knows is an ASCII control or blank, or lies past `U+0084`. -/
theorem isSpace_toNat {c : Char} (h : isSpace c = true) : c.toNat < 33 ∨ 133 ≤ c.toNat := by
  simp only [isSpace, Bool.or_eq_true, decide_eq_true_eq, Bool.and_eq_true, char_le_iff] at h
  have h2000 : '\u2000'.toNat = 8192 := rfl
  rcases h with ((((((((((((((h | h) | h) | h) | h) | h) | h) | h) | h) | ⟨h, -⟩) | h) | h) | h) | h) | h) <;>
    first | (subst h; decide) | omega

/-- Dropping leading spaces stops at the first character that is not one. -/
theorem dropWhile_isSpace_append {ws rest : List Char} (hws : ∀ c ∈ ws, isSpace c = true)
    (hr : ∀ c t, rest = c :: t → isSpace c = false) : (ws ++ rest).dropWhile isSpace = rest := by
  induction ws with
  | nil =>
    cases rest with
    | nil => rfl
    | cons c t => exact List.dropWhile_cons_of_neg (by simp [hr c t rfl])
  | cons w ws ih =>
    rw [List.cons_append, List.dropWhile_cons_of_pos (hws w (List.mem_cons_self w ws))]
    exact ih fun c hc => hws c (List.mem_cons_of_mem w hc)

theorem hasPrefix_iff (s p : String) : hasPrefix s p = true ↔ ∃ t, s = p ++ t := by
  obtain ⟨s⟩ := s
  obtain ⟨p⟩ := p
  simp only [hasPrefix, List.isPrefixOf_iff_prefix, List.IsPrefix, String.ext_iff, String.data_append]
  exact ⟨fun ⟨t, ht⟩ => ⟨⟨t⟩, ht.symm⟩, fun ⟨t, ht⟩ => ⟨t.data, ht.symm⟩⟩

/-- Cutting a prefix from the string it starts returns the rest. -/
theorem cutPrefix_append (p t : String) : cutPrefix (p ++ t) p = (t, true) := by
  have h : hasPrefix (p ++ t) p = true := (hasPrefix_iff _ _).mpr ⟨t, rfl⟩
  simp only [cutPrefix, h, if_true, String.data_append, String.length, List.drop_left]

theorem cutSuffix_append (s : List Char) (p : String) : cutSuffix ⟨s ++ p.data⟩ p = (⟨s⟩, true) := by
  obtain ⟨p⟩ := p
  simp [cutSuffix, hasSuffix, String.length, List.isSuffixOf_iff_suffix]

/-- A suffix whose last character is not the string's last is not cut. -/
theorem cutSuffix_of_last_ne (s : List Char) {x : Char} (p : String) {c : Char} {cs : List Char}
    (hp : p.data.reverse = c :: cs) (hx : x ≠ c) : cutSuffix ⟨s ++ [x]⟩ p = (⟨s ++ [x]⟩, false) := by
  simp [cutSuffix, hasSuffix, List.isSuffixOf, hp, List.isPrefixOf, hx.symm]

/-! ### `path/filepath` -/

namespace Filepath

/-- `filepath.Base(path)` on a Unix system: the last element of the path, trailing slashes
    removed; `.` for the empty path and `/` for a path of slashes only. -/
def base (path : String) : String :=
  if path = "" then "."
  else
    let last := ((path.data.reverse.dropWhile (· == '/')).takeWhile (· != '/')).reverse
    if last = [] then "/" else ⟨last⟩

example : base "onnx/model.onnx" = "model.onnx" ∧ base "model.onnx/" = "model.onnx" ∧
    base "//" = "/" ∧ base "" = "." := by decide

end Filepath

end Termite.Go
