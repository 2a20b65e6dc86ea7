set_option autoImplicit false

namespace ImageSearch.Number

/-- A finite double without its sign: `mantissa * 2 ^ exponent`. -/
structure Binary where
  mantissa : Nat
  exponent : Int
  deriving Repr, DecidableEq

def Binary.ofBits (bits : UInt64) : Binary :=
  let fraction : Nat := bits.toNat % Nat.pow 2 52
  let biased : Nat := bits.toNat / Nat.pow 2 52 % Nat.pow 2 11
  if biased = 0 then ⟨fraction, -1074⟩ else ⟨fraction + Nat.pow 2 52, (biased : Int) - 1075⟩

/-- The reals that round to a double, from `low` to `high`, and a decimal grid of step `unit`, all
over one denominator; `closed` tells whether the ends belong. -/
structure Interval where
  low : Nat
  value : Nat
  high : Nat
  unit : Nat
  closed : Bool

def Binary.interval (b : Binary) (place : Int) : Interval :=
  let lowStep := if b.mantissa = Nat.pow 2 52 ∧ b.exponent > -1074 then 1 else 2
  let two := if b.exponent ≥ 0 then Nat.pow 2 b.exponent.toNat else 1
  let twoDen := if b.exponent ≥ 0 then 1 else Nat.pow 2 (-b.exponent).toNat
  let tenNum := if place ≥ 0 then Nat.pow 10 place.toNat else 1
  let tenDen := if place ≥ 0 then 1 else Nat.pow 10 (-place).toNat
  { low := (4 * b.mantissa - lowStep) * two * tenDen
    value := 4 * b.mantissa * two * tenDen
    high := (4 * b.mantissa + 2) * two * tenDen
    unit := 4 * tenNum * twoDen
    closed := b.mantissa % 2 = 0 }

def Interval.holds (i : Interval) (n : Nat) : Bool :=
  let p := n * i.unit
  if i.closed then i.low ≤ p && p ≤ i.high else i.low < p && p < i.high

/-- The multiple of the grid's step nearest to the value among those that read back; a tie goes to
the even one. -/
def Interval.nearest? (i : Interval) : Option Nat :=
  let down := i.value / i.unit
  let up := down + 1
  let downGap := i.value - down * i.unit
  let upGap := up * i.unit - i.value
  let preferDown := downGap < upGap || (downGap == upGap && down % 2 == 0)
  match i.holds down, i.holds up with
  | true, true => some (if preferDown then down else up)
  | true, false => some down
  | false, true => some up
  | false, false => none

/-- The coarsest grid from `10 ^ place` downwards that has a point in the interval. -/
def Binary.search (b : Binary) : Nat → Int → Nat × Int
  | 0, place => ((b.interval place).nearest?.getD 0, place)
  | steps + 1, place =>
    match (b.interval place).nearest? with
    | some n => if n = 0 then b.search steps (place - 1) else (n, place)
    | none => b.search steps (place - 1)

def dropZeros : Nat → Nat → Int → Nat × Int
  | 0, n, place => (n, place)
  | steps + 1, n, place =>
    if n ≠ 0 ∧ n % 10 = 0 then dropZeros steps (n / 10) (place + 1) else (n, place)

def Binary.shortest (b : Binary) : Nat × Int :=
  let top : Int := ((b.exponent + 64) * 30103) / 100000 + 1
  let found := b.search 400 top
  dropZeros 400 found.1 found.2

def renderDecimal (digits : List Char) (place : Int) : List Char :=
  let point := digits.length + place
  if 0 ≤ place ∧ point ≤ 16 then digits ++ List.replicate place.toNat '0' ++ ['.', '0']
  else if 0 < point ∧ point ≤ 16 then
    digits.take point.toNat ++ '.' :: digits.drop point.toNat
  else if -5 < point ∧ point ≤ 0 then
    '0' :: '.' :: List.replicate (-point).toNat '0' ++ digits
  else
    let exponent := (if 0 < point then ['+'] else []) ++ (toString (point - 1)).toList
    match digits with
    | [] => []
    | [d] => d :: 'e' :: exponent
    | d :: ds => d :: '.' :: ds ++ 'e' :: exponent

/-- The shortest decimal that reads back as a finite double: positional for moderate sizes, with an
exponent otherwise. -/
def shortestText (x : Float) : String :=
  let bits := x.toBits
  let sign := if bits.toNat / Nat.pow 2 63 = 1 then ['-'] else []
  let b := Binary.ofBits bits
  let body :=
    if b.mantissa = 0 then ['0', '.', '0']
    else
      let (n, place) := b.shortest
      renderDecimal (toString n).toList place
  String.ofList (sign ++ body)

end ImageSearch.Number
