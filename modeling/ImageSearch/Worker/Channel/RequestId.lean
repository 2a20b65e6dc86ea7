import ImageSearch.Json.Draft

set_option autoImplicit false

namespace ImageSearch.Worker

/-- Identifiers are numbers of 128 bits. -/
abbrev RequestId := Nat

namespace RequestId

def ofDigits? (cs : List Char) : Option RequestId :=
  cs.foldlM (fun n c => (Json.hexValue? c).map (n * 16 + ·)) 0

def hyphenPlaces : List Nat := [8, 13, 18, 23]

/-- Without the hyphens, if they all are where they belong. -/
def dropHyphens? (cs : List Char) : Option (List Char) :=
  if hyphenPlaces.all fun place => cs[place]? == some '-' then
    some ((cs.zipIdx.filter fun entry => !hyphenPlaces.contains entry.2).map (·.1))
  else none

def ofHyphenated? (cs : List Char) : Option RequestId :=
  if cs.length = 36 then (dropHyphens? cs).bind ofDigits? else none

def namePart : List Char := "urn:uuid:".toList

def ofText? (text : String) : Option RequestId :=
  let cs := text.toList
  if cs.length = 32 then ofDigits? cs
  else if cs.length = 38 then
    if cs.head? = some '\x7b' ∧ cs.getLast? = some '\x7d' then ofHyphenated? (cs.drop 1).dropLast
    else none
  else if cs.length = 45 then
    if cs.take 9 = namePart then ofHyphenated? (cs.drop 9) else none
  else ofHyphenated? cs

end RequestId

end ImageSearch.Worker
