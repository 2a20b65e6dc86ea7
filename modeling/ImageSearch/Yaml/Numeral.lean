import ImageSearch.Number.Word

set_option autoImplicit false

namespace ImageSearch.Yaml

open Number

/-- Zeros in front of digits make a text of a number. -/
def hasLeadingZero (cs : List Char) : Bool :=
  match cs with
  | '0' :: rest => !rest.isEmpty && rest.all Char.isDigit
  | _ => false

def word? (cs : List Char) : Option Nat :=
  let unmarked := dropPlus cs
  match unmarked with
  | '0' :: 'x' :: rest => unsigned? 16 rest
  | '0' :: 'o' :: rest => unsigned? 8 rest
  | '0' :: 'b' :: rest => unsigned? 2 rest
  | _ => if hasLeadingZero unmarked then none else unsigned? 10 unmarked

end ImageSearch.Yaml
