import Mathlib.Algebra.Order.Field.Rat
import Mathlib.Data.Rat.Cast.Order
import Mathlib.Tactic.Ring

namespace Termite.Go

/-!
# Go's `time` package, as the proxy reads it

`time.Time` values enter the proxy as request timestamps (`RouteRequest.Timestamp`),
as `time.Now()` in the rate limiter, and as route statistics.  We model an instant by its
offset from the Unix epoch in nanoseconds, which is exactly the information
`t.UTC()` keeps; a `time.Duration` is a nanosecond count too.

* `Time.weekday`, `Time.hour`, `Time.minute` — the UTC calendar fields `TimeWindow.IsActive`
  reads (`t.Weekday()`, `t.Hour()`, `t.Minute()`), with `0 = Sunday`.
* `Time.seconds` — `Duration.Seconds()`, taken over exact rationals.
* `Duration.string` — `Duration.String()`, the text `metav1.Duration` is stored as.

`now.Sub(last)` saturates at about ±292 years; instants here are Unix-epoch offsets of any
size and differences are exact.
-/

/-- An instant, in nanoseconds since `1970-01-01T00:00:00Z`. -/
abbrev Time := Int

/-- A `time.Duration`, in nanoseconds. -/
abbrev Duration := Int

/-- Nanoseconds per second, minute, hour and day. -/
def nsPerSecond : Int := 1000000000
def nsPerMinute : Int := 60 * nsPerSecond
def nsPerHour : Int := 60 * nsPerMinute
def nsPerDay : Int := 24 * nsPerHour

/-- `t.UTC().Weekday()`: `0` is Sunday.  The epoch fell on a Thursday (`4`). -/
def Time.weekday (t : Time) : Int := (t / nsPerDay + 4) % 7

/-- `t.UTC().Hour()`. -/
def Time.hour (t : Time) : Int := t % nsPerDay / nsPerHour

/-- `t.UTC().Minute()`. -/
def Time.minute (t : Time) : Int := t % nsPerHour / nsPerMinute

/-- `time.Time{}`, 0001-01-01T00:00:00Z. -/
def Time.zero : Time := -62135596800 * nsPerSecond

/-- `Duration.Seconds()`, exactly. -/
def Time.seconds (d : Duration) : ℚ := (d : ℚ) / (nsPerSecond : ℚ)

/-! ### `Duration.String` -/

/-- The loop of `fmtFrac` over `prec` digits of `v`, least significant first: the digits it
    writes (in the order they end up in), whether it has started writing (`print`), and `v` with
    the digits removed. -/
def fmtFracLoop (print : Bool) (v : Nat) : Nat → List Char × Bool × Nat
  | 0 => ([], print, v)
  | prec + 1 =>
    let p := print || v % 10 != 0
    let rest := fmtFracLoop p (v / 10) prec
    (rest.1 ++ (if p then [Char.ofNat (v % 10 + 48)] else []), rest.2)

/-- `fmtFrac(buf, v, prec)`: the fraction of `v / 10^prec` without its trailing zeros, and
    without the `.` when it is zero; and `v / 10^prec`. -/
def fmtFrac (v prec : Nat) : List Char × Nat :=
  let r := fmtFracLoop false v prec
  ((if r.2.1 then ['.'] else []) ++ r.1, r.2.2)

/-- `fmtInt(buf, v)`: the decimal digits of `v`. -/
def fmtInt (v : Nat) : List Char := (Nat.repr v).data

/-- `Duration.String()`: `"72h3m0.5s"`, or `"1.2ms"` and the like below a second. -/
def Duration.string (d : Duration) : String :=
  let u := d.natAbs
  let body : List Char :=
    if u < 1000000000 then
      if u = 0 then ['0', 's']
      else
        let (unit, prec) : List Char × Nat :=
          if u < 1000 then (['n', 's'], 0) else if u < 1000000 then (['µ', 's'], 3) else (['m', 's'], 6)
        let (frac, v) := fmtFrac u prec
        fmtInt v ++ frac ++ unit
    else
      let (frac, v) := fmtFrac u 9
      let secs := fmtInt (v % 60) ++ frac ++ ['s']
      if v / 60 > 0 then
        let mins := fmtInt (v / 60 % 60) ++ ['m'] ++ secs
        if v / 3600 > 0 then fmtInt (v / 3600) ++ ['h'] ++ mins else mins
      else secs
  ⟨(if d < 0 then ['-'] else []) ++ body⟩

example : Duration.string (90 * nsPerSecond + nsPerSecond / 2) = "1m30.5s" := by decide
example : Duration.string (-(3 * nsPerHour)) = "-3h0m0s" := by decide
example : Duration.string 1500000 = "1.5ms" := by decide

/-- The minute of the UTC day, `t.Hour()*60 + t.Minute()`, lies in `[0, 1440)`. -/
theorem Time.minuteOfDay_range (t : Time) :
    0 ≤ t.hour * 60 + t.minute ∧ t.hour * 60 + t.minute < 1440 := by
  simp only [Time.hour, Time.minute, nsPerDay, nsPerHour, nsPerMinute, nsPerSecond]
  omega

theorem Time.seconds_sub (a b c : Time) :
    Time.seconds (a - c) = Time.seconds (a - b) + Time.seconds (b - c) := by
  simp only [Time.seconds]; push_cast; ring

theorem Time.seconds_nonneg {d : Duration} (h : 0 ≤ d) : 0 ≤ Time.seconds d := by
  unfold Time.seconds nsPerSecond
  exact div_nonneg (Int.cast_nonneg.mpr h) (by norm_num)

end Termite.Go
