import Termite.Go.Regexp
import Termite.Go.Strings

namespace Termite.Go

/-!
# `regexp.Compile` and `regexp.QuoteMeta`

`regexp.Compile` parses with the `syntax.Perl` flags: `.` stops at a newline, `^` and `$` are
the start and end of the text, and a negated class matches a newline.  The parser is a
recursive descent over the pattern's characters with the precedence of `regexp/syntax`:
alternation, then concatenation, then at most one repetition operator after an atom (in Perl
mode a second one is the error `invalid nested repetition operator`).  Beside the tree, each
parse returns the largest product of repetition counts along a path of it, which is what
`repeatIsValid` bounds by `1000`.

Syntax outside the model — flag and named groups `(?…)` other than `(?:`, `\b`, `\B`, `\Q…\E`,
`\p{…}` and POSIX classes `[[:alpha:]]` — is the error `notModelled`; Go accepts it.  The limits
`regexp/syntax` puts on the size and nesting depth of very large expressions are left out.

* `compile` — `regexp.Compile`, on fuel `3 * length + 3`.
* `quoteMeta` — `regexp.QuoteMeta`.
-/

/-- The text of a `regexp/syntax` error. -/
def syntaxError (code expr : String) : String :=
  "error parsing regexp: " ++ code ++ ": `" ++ expr ++ "`"

/-- The error for syntax outside the model. -/
def notModelled (expr : String) : String := "regexp syntax not modelled: `" ++ expr ++ "`"

/-- The parser's fuel ran out. -/
def outOfFuel : String := "regexp parser out of fuel"

/-- `unicode.MaxRune`. -/
def maxRune : Char := Char.ofNat 0x10FFFF

/-- `\d`, `\s`, `\w` (`perlGroup`). -/
def perlClassRanges : Char → Option (List (Char × Char))
  | 'd' => some [('0', '9')]
  | 's' => some [('\t', '\n'), ('\x0C', '\r'), (' ', ' ')]
  | 'w' => some [('0', '9'), ('A', 'Z'), ('_', '_'), ('a', 'z')]
  | _ => none

/-- `\D`, `\S`, `\W` inside a class: the complements of `perlClassRanges`. -/
def perlClassComplement : Char → Option (List (Char × Char))
  | 'D' => some [('\x00', '/'), (':', maxRune)]
  | 'S' => some [('\x00', '\x08'), ('\x0B', '\x0B'), ('\x0E', '\x1F'), ('!', maxRune)]
  | 'W' => some [('\x00', '/'), (':', '@'), ('[', '^'), ('\x60', '\x60'), ('{', maxRune)]
  | _ => none

/-- The value of a hexadecimal digit. -/
def unhex (c : Char) : Option Nat :=
  if '0' ≤ c ∧ c ≤ '9' then some (c.toNat - '0'.toNat)
  else if 'a' ≤ c ∧ c ≤ 'f' then some (c.toNat - 'a'.toNat + 10)
  else if 'A' ≤ c ∧ c ≤ 'F' then some (c.toNat - 'A'.toNat + 10)
  else none

/-- An octal digit. -/
def isOctal (c : Char) : Bool := '0' ≤ c && c ≤ '7'

/-- The digits of `\x{…}` up to the closing brace, from the value `r` after `n` digits: `none`
    on a non-hex digit, no digit, or a value past `U+10FFFF`. -/
def parseHexBraces (r n : Nat) : List Char → Option (Nat × List Char)
  | [] => none
  | c :: cs =>
    if c = '}' then (if n = 0 then none else some (r, cs))
    else match unhex c with
      | some v => if r * 16 + v > 0x10FFFF then none else parseHexBraces (r * 16 + v) (n + 1) cs
      | none => none

/-- The C escapes `\a \f \n \r \t \v`. -/
def cEscape : Char → Option Char
  | 'a' => some '\x07'
  | 'f' => some '\x0C'
  | 'n' => some '\n'
  | 'r' => some '\r'
  | 't' => some '\t'
  | 'v' => some '\x0B'
  | _ => none

/-- Up to two more octal digits after the value `r`. -/
def octalTail (r : Nat) : List Char → Nat × List Char
  | d :: e :: cs =>
    if isOctal d then
      if isOctal e then (r * 64 + (d.toNat - 48) * 8 + (e.toNat - 48), cs)
      else (r * 8 + (d.toNat - 48), e :: cs)
    else (r, d :: e :: cs)
  | [d] => if isOctal d then (r * 8 + (d.toNat - 48), []) else (r, [d])
  | [] => (r, [])

/-- `parseEscape`: the character an escape stands for, read after its `\`, and the rest. -/
def parseEscape : List Char → Except String (Char × List Char)
  | [] => .error (syntaxError "trailing backslash at end of expression" "")
  | c :: cs =>
    let invalid : Except String (Char × List Char) :=
      .error (syntaxError "invalid escape sequence" ("\\" ++ c.toString))
    if c = '0' ∨ ('1' ≤ c ∧ c ≤ '7' ∧ cs.head?.map isOctal = some true) then
      .ok (Char.ofNat (octalTail (c.toNat - 48) cs).1, (octalTail (c.toNat - 48) cs).2)
    else if c = 'x' then
      match cs with
      | '{' :: ds =>
        match parseHexBraces 0 0 ds with
        | some (r, rest) => if r.isValidChar then .ok (Char.ofNat r, rest) else .error (notModelled "\\x")
        | none => invalid
      | d :: e :: rest =>
        match unhex d, unhex e with
        | some x, some y => .ok (Char.ofNat (x * 16 + y), rest)
        | _, _ => invalid
      | _ => invalid
    else match cEscape c with
      | some r => .ok (r, cs)
      | none => if c.toNat < 128 ∧ ¬c.isAlphanum then .ok (c, cs) else invalid

/-- `parseClassChar`: one character of a class, escaped or not. -/
def parseClassChar (whole : String) : List Char → Except String (Char × List Char)
  | [] => .error (syntaxError "missing closing ]" whole)
  | '\\' :: cs => parseEscape cs
  | c :: cs => .ok (c, cs)

/-- The items of a class up to its `]`, and the rest after it.  A `]` first in the class is an
    item; `a-b` is a range unless the `-` is followed by the closing `]`. -/
def parseClassItems (whole : String) : Nat → Bool → List Char →
    Except String (List (Char × Char) × List Char)
  | 0, _, _ => .error outOfFuel
  | fuel + 1, first, cs =>
    if ¬first ∧ cs.head? = some ']' then .ok ([], cs.tail)
    else
      let item : Except String (List (Char × Char) × List Char) :=
        match parseClassChar whole cs with
        | .error e => .error e
        | .ok (lo, rest) =>
          match rest with
          | '-' :: d :: rest' =>
            if d = ']' then
              (parseClassItems whole fuel false rest).map fun p => ((lo, lo) :: p.1, p.2)
            else
              match parseClassChar whole (d :: rest') with
              | .error e => .error e
              | .ok (hi, rest'') =>
                if hi < lo then .error (syntaxError "invalid character class range"
                  (String.mk [lo, '-', hi]))
                else (parseClassItems whole fuel false rest'').map fun p => ((lo, hi) :: p.1, p.2)
          | _ => (parseClassItems whole fuel false rest).map fun p => ((lo, lo) :: p.1, p.2)
      match cs with
      | '[' :: ':' :: rest => if isInfixOf [':', ']'] rest then .error (notModelled whole) else item
      | '\\' :: c :: rest =>
        if c = 'p' ∨ c = 'P' then .error (notModelled whole)
        else match (perlClassRanges c).orElse fun _ => perlClassComplement c with
          | some rs => (parseClassItems whole fuel false rest).map fun p => (rs ++ p.1, p.2)
          | none => item
      | _ => item

/-- `parseInt` of `regexp/syntax`: a decimal without leading zeros, `-1` from ten digits on. -/
def parseRepeatInt (cs : List Char) : Option (Int × List Char) :=
  if cs.takeWhile Char.isDigit = [] then none
  else if 2 ≤ (cs.takeWhile Char.isDigit).length ∧ cs.head? = some '0' then none
  else if 10 ≤ (cs.takeWhile Char.isDigit).length then some (-1, cs.dropWhile Char.isDigit)
  else some ((cs.takeWhile Char.isDigit).foldl (fun n c => n * 10 + (c.toNat - 48)) 0,
    cs.dropWhile Char.isDigit)

/-- `parseRepeat` of `regexp/syntax`: `{n}`, `{n,}` (`max = -1`) or `{n,m}`; `none` when the
    braces do not form one, and the `{` is then a literal. -/
def parseRepeatCount : List Char → Option (Int × Int × List Char)
  | '{' :: cs =>
    match parseRepeatInt cs with
    | none => none
    | some (min, '}' :: rest) => some (min, min, rest)
    | some (min, ',' :: '}' :: rest) => some (min, -1, rest)
    | some (min, ',' :: cs') =>
      match parseRepeatInt cs' with
      | some (max, '}' :: rest) => some (if max < 0 then -1 else min, max, rest)
      | _ => none
    | some _ => none
  | _ => none

/-- The count check `Parse` makes before applying `{min,max}`. -/
def invalidRepeatSize (min max : Int) : Bool :=
  min < 0 || min > 1000 || max > 1000 || (max ≥ 0 && min > max)

/-- A repetition operator at the head of the text. -/
inductive RepeatOp where
  | star
  | plus
  | quest
  | counted (min max : Int)
  deriving DecidableEq

/-- The repetition operator the text starts with, with its optional non-greedy `?`, and the
    rest; `none` if there is none.  Greediness does not change whether a text matches. -/
def repeatOp : List Char → Option (RepeatOp × List Char)
  | '*' :: '?' :: rest | '*' :: rest => some (.star, rest)
  | '+' :: '?' :: rest | '+' :: rest => some (.plus, rest)
  | '?' :: '?' :: rest | '?' :: rest => some (.quest, rest)
  | cs =>
    match parseRepeatCount cs with
    | some (min, max, '?' :: rest) | some (min, max, rest) => some (.counted min max, rest)
    | none => none

/-- `n` copies of `r`, concatenated. -/
def copies (r : Regexp) : Nat → Regexp
  | 0 => .emptyMatch
  | n + 1 => .concat r (copies r n)

/-- `n` nested optional copies, `(r(r…)?)?`. -/
def optionals (r : Regexp) : Nat → Regexp
  | 0 => .emptyMatch
  | n + 1 => .quest (.concat r (optionals r n))

/-- A repetition operator applied to `r` of weight `w`: the tree (`x{n,m}` expanded as
    `Simplify` does) and its weight, the factor of a counted repetition being `max` (`min` when
    unbounded) and a `{0}` cutting its operand off. -/
def applyRepeat (r : Regexp) (w : Nat) : RepeatOp → Regexp × Nat
  | .star => (.star r, w)
  | .plus => (.plus r, w)
  | .quest => (.quest r, w)
  | .counted min max =>
    if max < 0 then (.concat (copies r min.toNat) (.star r), if min = 0 then w else min.toNat * Nat.max 1 w)
    else
      (.concat (copies r min.toNat) (optionals r (max - min).toNat),
        if max = 0 then 0 else max.toNat * Nat.max 1 w)

/-- The text of an operator: `cs` up to `rest`. -/
def opText (cs rest : List Char) : String := String.mk (cs.take (cs.length - rest.length))

/-- The repetition after an atom: none, or one operator — whose count must be valid, with no
    second operator after it. -/
def parseRepeat (r : Regexp) (w : Nat) (cs : List Char) : Except String (Regexp × Nat × List Char) :=
  match repeatOp cs with
  | none => .ok (r, w, cs)
  | some (op, rest) =>
    match op with
    | .counted min max =>
      if invalidRepeatSize min max then .error (syntaxError "invalid repeat count" (opText cs rest))
      else
        match repeatOp rest with
        | some (_, rest') => .error (syntaxError "invalid nested repetition operator" (opText cs rest'))
        | none =>
          if (2 ≤ min ∨ 2 ≤ max) ∧ (applyRepeat r w op).2 > 1000 then
            .error (syntaxError "invalid repeat count" (opText cs rest))
          else .ok ((applyRepeat r w op).1, (applyRepeat r w op).2, rest)
    | _ =>
      match repeatOp rest with
      | some (.counted min max, rest') =>
        if invalidRepeatSize min max then .error (syntaxError "invalid repeat count" (opText rest rest'))
        else .error (syntaxError "invalid nested repetition operator" (opText cs rest'))
      | some (_, rest') => .error (syntaxError "invalid nested repetition operator" (opText cs rest'))
      | none => .ok ((applyRepeat r w op).1, (applyRepeat r w op).2, rest)

/-- Whether a class is negated, and its text after the `^`. -/
def classBody : List Char → Bool × List Char
  | '^' :: body => (true, body)
  | body => (false, body)

mutual

/-- An alternation `x|y|…`, up to a `)` or the end of the text. -/
def parseAlternate (whole : String) : Nat → List Char → Except String (Regexp × Nat × List Char)
  | 0, _ => .error outOfFuel
  | fuel + 1, cs =>
    match parseConcat whole fuel .emptyMatch 0 cs with
    | .error e => .error e
    | .ok (r, w, '|' :: rest) =>
      match parseAlternate whole fuel rest with
      | .error e => .error e
      | .ok (s, w', rest') => .ok (.alternate r s, Nat.max w w', rest')
    | .ok res => .ok res

/-- A concatenation after `acc`, up to a `|`, a `)` or the end of the text. -/
def parseConcat (whole : String) : Nat → Regexp → Nat → List Char →
    Except String (Regexp × Nat × List Char)
  | 0, _, _, _ => .error outOfFuel
  | fuel + 1, acc, w, cs =>
    match cs with
    | [] => .ok (acc, w, [])
    | '|' :: _ => .ok (acc, w, cs)
    | ')' :: _ => .ok (acc, w, cs)
    | _ =>
      match parseAtom whole fuel cs with
      | .error e => .error e
      | .ok (a, wa, rest) =>
        match parseRepeat a wa rest with
        | .error e => .error e
        | .ok (a', wa', rest') => parseConcat whole fuel (.concat acc a') (Nat.max w wa') rest'

/-- One atom: a group, a class, an escape, `.`, `^`, `$` or a literal character. -/
def parseAtom (whole : String) : Nat → List Char → Except String (Regexp × Nat × List Char)
  | 0, _ => .error outOfFuel
  | fuel + 1, cs =>
    match cs with
    | '(' :: rest =>
      if rest.head? = some '?' ∧ rest.take 2 ≠ ['?', ':'] then .error (notModelled whole)
      else
        match parseAlternate whole fuel (if rest.head? = some '?' then rest.drop 2 else rest) with
        | .error e => .error e
        | .ok (r, w, ')' :: rest') => .ok (r, w, rest')
        | .ok _ => .error (syntaxError "missing closing )" whole)
    | ')' :: _ => .error (syntaxError "unexpected )" whole)
    | '*' :: _ | '+' :: _ | '?' :: _ =>
      .error (syntaxError "missing argument to repetition operator" (cs.take 1).asString)
    | '{' :: rest =>
      match parseRepeatCount cs with
      | some (min, max, rest') =>
        if invalidRepeatSize min max then .error (syntaxError "invalid repeat count" (opText cs rest'))
        else .error (syntaxError "missing argument to repetition operator" (opText cs rest'))
      | none => .ok (.literal '{', 0, rest)
    | '[' :: rest =>
      (parseClassItems whole ((classBody rest).2.length + 1) true (classBody rest).2).map fun p =>
        (.charClass (classBody rest).1 p.1, 0, p.2)
    | '.' :: rest => .ok (.anyCharNotNL, 0, rest)
    | '^' :: rest => .ok (.beginText, 0, rest)
    | '$' :: rest => .ok (.endText, 0, rest)
    | '\\' :: rest =>
      match rest with
      | 'A' :: rest' => .ok (.beginText, 0, rest')
      | 'z' :: rest' => .ok (.endText, 0, rest')
      | 'C' :: _ => .error (syntaxError "invalid escape sequence" "\\C")
      | c :: rest' =>
        if c = 'b' ∨ c = 'B' ∨ c = 'Q' ∨ c = 'p' ∨ c = 'P' then .error (notModelled whole)
        else match perlClassRanges c, perlClassRanges c.toLower with
          | some rs, _ => .ok (.charClass false rs, 0, rest')
          | none, some rs => if c.isUpper then .ok (.charClass true rs, 0, rest') else
              (parseEscape rest).map fun p => (.literal p.1, 0, p.2)
          | none, none => (parseEscape rest).map fun p => (.literal p.1, 0, p.2)
      | [] => .error (syntaxError "trailing backslash at end of expression" "")
    | c :: rest => .ok (.literal c, 0, rest)
    | [] => .ok (.emptyMatch, 0, [])

end

/-- `regexp.Compile(expr)`. -/
def compile (expr : String) : Except String Regexp :=
  match parseAlternate expr (3 * expr.length + 3) expr.data with
  | .error e => .error e
  | .ok (r, _, []) => .ok r
  | .ok _ => .error (syntaxError "unexpected )" expr)

/-- The characters `QuoteMeta` escapes. -/
def metaChars : List Char := ['\\', '.', '+', '*', '?', '(', ')', '|', '[', ']', '{', '}', '^', '$']

/-- `regexp.QuoteMeta(s)`. -/
def quoteMeta (s : String) : String :=
  ⟨s.data.flatMap fun c => if c ∈ metaChars then ['\\', c] else [c]⟩

end Termite.Go
