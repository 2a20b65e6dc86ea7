import ImageSearch.Json.Value

set_option autoImplicit false

namespace ImageSearch.Json

/-- The parts of a number as it is written; digits are most significant first. -/
structure Numeral where
  negative : Bool
  whole : List Char
  fraction : List Char
  /-- Sign (negative or not) and digits of the exponent. -/
  exponent : Option (Bool × List Char)
  deriving Repr, DecidableEq

def digitValue (c : Char) : Nat := c.toNat - '0'.toNat

def maxWord : Nat := 0xffffffffffffffff

/-- The leading digits that still fit a word, and the digits left over. -/
def takeWord : Nat → List Char → Nat × List Char
  | acc, [] => (acc, [])
  | acc, c :: rest =>
    if acc * 10 + digitValue c ≤ maxWord then takeWord (acc * 10 + digitValue c) rest
    else (acc, c :: rest)

/-- The greatest exponent that is read; a longer one counts as without end. -/
def maxExponent : Nat := 0x7fffffff

def digitsValue (ds : List Char) : Nat := ds.foldl (fun n c => n * 10 + digitValue c) 0

/-- `x * 10 ^ exponent`, none when it is not finite. Powers of ten go up to 308. -/
def scaleFloat : Nat → Float → Int → Option Float
  | 0, _, _ => none
  | fuel + 1, x, exponent =>
    if exponent.natAbs ≤ 308 then
      let pow := Float.ofScientific 1 false exponent.natAbs
      if exponent ≥ 0 then
        let y := x * pow
        if y.isInf then none else some y
      else some (x / pow)
    else if x == 0 then some x
    else if exponent ≥ 0 then none
    else scaleFloat fuel (x / Float.ofScientific 1 false 308) (exponent + 308)

/-- How often the smallest double survives a division by `10 ^ 308`. -/
def scaleFuel : Nat := 4

def signed (negative : Bool) (x : Float) : Float := if negative then -x else x

def Numeral.toFloat? (n : Numeral) (word : Nat) (exponent : Int) : Option Float :=
  match n.exponent with
  | none => (scaleFloat scaleFuel (Float.ofNat word) exponent).map (signed n.negative)
  | some (negativeExponent, ds) =>
    let e := digitsValue ds
    if maxExponent < e then
      if word ≠ 0 ∧ !negativeExponent then none else some (signed n.negative 0)
    else
      let total := if negativeExponent then exponent - e else exponent + e
      (scaleFloat scaleFuel (Float.ofNat word) total).map (signed n.negative)

/-- A whole number that fits 64 bits is exact. Any other number is the integer of its leading
digits, times or divided by a power of ten, each step in double precision. -/
def Numeral.value? (n : Numeral) : Option Number :=
  let (word, left) := takeWord 0 n.whole
  if left.isEmpty ∧ n.fraction.isEmpty ∧ n.exponent.isNone then
    if !n.negative then some (.int word)
    else if word = 0 ∨ maxWord / 2 + 1 < word then some (.float (-(Float.ofNat word)))
    else some (.int (-(word : Int)))
  else
    let (word, unread) := takeWord word n.fraction
    let taken : Int := n.fraction.length - unread.length
    (n.toFloat? word (left.length - taken)).map .float

end ImageSearch.Json
