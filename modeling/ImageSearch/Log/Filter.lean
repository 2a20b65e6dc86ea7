import ImageSearch.Configuration.Check
import ImageSearch.Environment
import ImageSearch.Number.Word
import ImageSearch.Text.WordChar

set_option autoImplicit false

namespace ImageSearch.Log

open Text

inductive Level where
  | off
  | error
  | warn
  | info
  | debug
  | trace
  deriving Repr, DecidableEq

namespace Level

def name : Level → String
  | .off => "off"
  | .error => "error"
  | .warn => "warn"
  | .info => "info"
  | .debug => "debug"
  | .trace => "trace"

def all : List Level := [.off, .error, .warn, .info, .debug, .trace]

/-- A level by its number, or by its name in any letter case; empty text means errors. -/
def ofText? (cs : List Char) : Option Level :=
  ((Number.word? cs).bind (all[·]?)).or <|
    if cs.isEmpty then some .error
    else all.find? (·.name.toList = cs.map Char.toLower)

end Level

/-- A rule; without target and span it is for everything else. -/
structure Rule where
  target : Option (List Char)
  span : Option (List Char)
  level : Level
  deriving Repr, DecidableEq

namespace Rule

def render (r : Rule) : List Char :=
  let place := r.target.getD [] ++ (match r.span with
    | some span => '[' :: span ++ [']']
    | none => [])
  (if place.isEmpty then [] else place ++ ['=']) ++ r.level.name.toList

def startsRule (c : Char) : Bool := c == '-' || c == ':' || c == '_' || isAlphanumeric c

def levelOrAll? (cs : List Char) : Option Level :=
  if cs.isEmpty then some .trace else Level.ofText? cs

def readLevel? (place : Level → Rule) : List Char → Option Rule
  | '=' :: rest => (levelOrAll? rest).map place
  | rest => if isBlankText rest then some (place .trace) else none

/-- A rule with a span, which ends at the first bracket. -/
def readSpan? (target : Option (List Char)) (cs : List Char) : Option Rule :=
  match cs.dropWhile (· != ']') with
  | [] => none
  | _ :: rest => readLevel? (⟨target, some (cs.takeWhile (· != ']')), ·⟩) rest

def isPlaceEnd (c : Char) : Bool := c == '=' || c == '['

/-- A text with white space in front can only be a target, and the white space belongs to it. -/
def ofIndented? (cs : List Char) : Option Rule :=
  match cs.dropWhile isBlank with
  | [] => none
  | c :: _ => if startsRule c && !cs.any isPlaceEnd then some ⟨some cs, none, .trace⟩ else none

def ofText? (cs : List Char) : Option Rule :=
  match cs with
  | [] => none
  | '[' :: rest => readSpan? none rest
  | c :: _ =>
    if !startsRule c then ofIndented? cs
    else
      let target := cs.takeWhile (!isPlaceEnd ·)
      match cs.drop target.length with
      | [] =>
        match Level.ofText? cs with
        | some level => some ⟨none, none, level⟩
        | none => some ⟨some cs, none, .trace⟩
      | '[' :: rest => readSpan? (some target) rest
      | rest => readLevel? (⟨some target, none, ·⟩) rest

/-- Rules for one place replace each other. -/
def samePlace (a b : Rule) : Bool := a.target == b.target && a.span == b.span

/-- How a place is ranked: spans after all others, then by the length of the target, the presence
of a span, and the texts. -/
def size (text : Option (List Char)) : Nat :=
  match text with
  | none => 0
  | some cs => 1 + (String.ofList cs).utf8ByteSize

def textLe : Option (List Char) → Option (List Char) → Bool
  | none, _ => true
  | some _, none => false
  | some a, some b => decide (String.ofList a ≤ String.ofList b)

/-- The more specific rule comes first. -/
def precedes (a b : Rule) : Bool :=
  if a.span.isSome != b.span.isSome then b.span.isSome
  else if size a.target != size b.target then decide (size b.target < size a.target)
  else if a.target != b.target then textLe b.target a.target
  else textLe b.span a.span

def place (r : Rule) : List Rule → List Rule
  | [] => [r]
  | x :: rest =>
    if r.samePlace x then r :: rest else if r.precedes x then r :: x :: rest else x :: place r rest

end Rule

abbrev Filter := List Rule

namespace Filter

def render (f : Filter) : List Char := List.intercalate [','] (f.map Rule.render)

def text (f : Filter) : String := String.ofList f.render

/-- Without rules, errors are shown. -/
def ofRules (rules : List Rule) : Filter :=
  if rules.isEmpty then [⟨none, none, .error⟩]
  else rules.foldl (fun f r => Rule.place r f) []

def ofText? (cs : List Char) : Option Filter :=
  (((splitOnChar (· == ',') cs).filter (!·.isEmpty)).mapM Rule.ofText?).map ofRules

def info : Filter := [⟨none, none, .info⟩]

/-- The filter of a level's name or of a list of rules in any letter case. The rules are read by
`read`. -/
def ofLevel? (read : List Char → Option Filter) (level : String) : Option Filter :=
  let cs := (trim level.toList).map Char.toLower
  if cs.contains '=' || levelNames.contains (String.ofList cs) then read cs else none

def given? (read : List Char → Option Filter) (env : Environment) (level : String) :
    Option Filter :=
  ((env.get? "RUST_LOG").bind (read ·.toList)).or (ofLevel? read level)

/-- When no filter is given, everything up to the info level is shown. -/
def choose (env : Environment) (level : String) : Filter := (given? ofText? env level).getD info

end Filter

end ImageSearch.Log
