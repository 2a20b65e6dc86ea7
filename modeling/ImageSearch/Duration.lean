set_option autoImplicit false

namespace ImageSearch

/-- A span of time; `nanos` is less than a second. -/
structure Duration where
  secs : Nat
  nanos : Nat
  deriving Repr, DecidableEq

namespace Duration

def nanosPerSecond : Nat := 1000000000

def ofNanos (n : Nat) : Duration := ⟨n / nanosPerSecond, n % nanosPerSecond⟩

def ofMillis (n : Nat) : Duration := ofNanos (n * 1000000)

def ofSecs (n : Nat) : Duration := ⟨n, 0⟩

def toNanos (d : Duration) : Nat := d.secs * nanosPerSecond + d.nanos

/-- Digits behind the point: as many as `width`, without zeros at the end. -/
def fractionDigits (width fraction : Nat) : List Char :=
  let digits := (toString fraction).toList
  let padded := List.replicate (width - digits.length) '0' ++ digits
  (padded.reverse.dropWhile (· == '0')).reverse

def withFraction (whole width fraction : Nat) (unit : String) : String :=
  match fractionDigits width fraction with
  | [] => s!"{whole}{unit}"
  | digits => s!"{whole}.{String.ofList digits}{unit}"

/-- The largest unit of s, ms, µs and ns that leaves a whole part, with a decimal fraction. -/
def text (d : Duration) : String :=
  if 0 < d.secs then withFraction d.secs 9 d.nanos "s"
  else if 1000000 ≤ d.nanos then withFraction (d.nanos / 1000000) 6 (d.nanos % 1000000) "ms"
  else if 1000 ≤ d.nanos then withFraction (d.nanos / 1000) 3 (d.nanos % 1000) "µs"
  else s!"{d.nanos}ns"

end Duration

end ImageSearch
