import Mathlib.Data.List.Basic

namespace Termite.Go

/-!
# Go's `regexp` package, as the proxy and the webhook use it

Routes carry compiled regular expressions (`Route.ModelPatterns`, `StringMatcher.Regex`), and
the webhook compiles user patterns to validate them.  This file models the compiled form and
`(*Regexp).MatchString`:

* `Regexp` — the syntax tree `regexp/syntax` produces, for the operators the model covers
  (literals, `.`, classes, `^`/`$` as begin/end of text, concatenation, alternation, `*`, `+`,
  `?`).  Capture groups only group, so they leave no node, and a counted repetition
  `x{n,m}` is expanded into copies of `x` and `x?`, as `regexp/syntax`'s `Simplify` does.
* `Regexp.nullable`, `Regexp.deriv` — Brzozowski derivatives.  The anchors make a match depend
  on its position, so both take whether the current position is the start (`atBegin`) and,
  for `nullable`, the end (`atEnd`) of the text.
* `Regexp.matchString` — `MatchString`: is there a match anywhere in the string.

The parser (`compile`) and the strings helpers `QuoteMeta` and `strings.ReplaceAll` follow in
`Termite.Go.Compile`.
-/

/-- A compiled regular expression (`*regexp.Regexp`), as a syntax tree. -/
inductive Regexp where
  | noMatch
  | emptyMatch
  | literal (c : Char)
  | anyCharNotNL
  | charClass (negated : Bool) (ranges : List (Char × Char))
  | beginText
  | endText
  | concat (r s : Regexp)
  | alternate (r s : Regexp)
  | star (r : Regexp)
  | plus (r : Regexp)
  | quest (r : Regexp)
  deriving Repr, DecidableEq

namespace Regexp

/-- Membership of a character in a list of inclusive ranges. -/
def inRanges (c : Char) (ranges : List (Char × Char)) : Bool :=
  ranges.any fun p => p.1 ≤ c && c ≤ p.2

/-- Whether `r` matches the empty string at a position that is the start of the text iff
    `atBegin` and the end of the text iff `atEnd`. -/
def nullable (atBegin atEnd : Bool) : Regexp → Bool
  | noMatch => false
  | emptyMatch => true
  | literal _ => false
  | anyCharNotNL => false
  | charClass _ _ => false
  | beginText => atBegin
  | endText => atEnd
  | concat r s => r.nullable atBegin atEnd && s.nullable atBegin atEnd
  | alternate r s => r.nullable atBegin atEnd || s.nullable atBegin atEnd
  | star _ => true
  | plus r => r.nullable atBegin atEnd
  | quest _ => true

/-- The derivative of `r` by the character `c` read at a position that is the start of the
    text iff `atBegin`.  Every later position is not the start, so the result is matched with
    `atBegin = false`. -/
def deriv (atBegin : Bool) (c : Char) : Regexp → Regexp
  | noMatch => noMatch
  | emptyMatch => noMatch
  | literal d => if c = d then emptyMatch else noMatch
  | anyCharNotNL => if c = '\n' then noMatch else emptyMatch
  | charClass neg rs => if inRanges c rs != neg then emptyMatch else noMatch
  | beginText => noMatch
  | endText => noMatch
  | concat r s =>
      if r.nullable atBegin false then
        alternate (concat (r.deriv atBegin c) s) (s.deriv atBegin c)
      else concat (r.deriv atBegin c) s
  | alternate r s => alternate (r.deriv atBegin c) (s.deriv atBegin c)
  | star r => concat (r.deriv atBegin c) (star r)
  | plus r => concat (r.deriv atBegin c) (star r)
  | quest r => r.deriv atBegin c

/-- Whether `r` matches some prefix of `cs`, which runs to the end of the text. -/
def matchPrefix : Regexp → Bool → List Char → Bool
  | r, atBegin, [] => r.nullable atBegin true
  | r, atBegin, c :: cs => r.nullable atBegin false || (r.deriv atBegin c).matchPrefix false cs

/-- Whether `r` matches a substring starting anywhere in `cs`. -/
def search (r : Regexp) : Bool → List Char → Bool
  | atBegin, [] => r.matchPrefix atBegin []
  | atBegin, c :: cs => r.matchPrefix atBegin (c :: cs) || r.search false cs

/-- `(*Regexp).MatchString`: whether `s` contains any match of `r`. -/
def matchString (r : Regexp) (s : String) : Bool := r.search true s.data

end Regexp

end Termite.Go
