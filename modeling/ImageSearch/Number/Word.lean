set_option autoImplicit false

namespace ImageSearch.Number

def digit? (base : Nat) (c : Char) : Option Nat :=
  let value :=
    if '0' ≤ c ∧ c ≤ '9' then some (c.toNat - '0'.toNat)
    else if 'a' ≤ c ∧ c ≤ 'f' then some (c.toNat - 'a'.toNat + 10)
    else if 'A' ≤ c ∧ c ≤ 'F' then some (c.toNat - 'A'.toNat + 10)
    else none
  value.filter (· < base)

def readDigits (base : Nat) : Nat → List Char → Option Nat
  | acc, [] => some acc
  | acc, c :: rest => (digit? base c).bind fun d => readDigits base (acc * base + d) rest

/-- One or more digits of a base whose number fits 64 bits. -/
def unsigned? (base : Nat) (cs : List Char) : Option Nat :=
  if cs.isEmpty then none else (readDigits base 0 cs).filter (· ≤ 0xffffffffffffffff)

def dropPlus : List Char → List Char
  | '+' :: rest => rest
  | cs => cs

/-- A decimal number; one plus sign may precede it. -/
def word? (cs : List Char) : Option Nat := unsigned? 10 (dropPlus cs)

end ImageSearch.Number
