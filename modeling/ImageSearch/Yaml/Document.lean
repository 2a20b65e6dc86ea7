import ImageSearch.Yaml.Node
import ImageSearch.Yaml.Scalar

set_option autoImplicit false

namespace ImageSearch.Yaml

/-- Passes over blanks, comments and line breaks. Outside of brackets no tab may indent a line:
`fresh` tells that nothing but blanks precedes on the line. -/
def skipGap (flow fresh comment : Bool) (column : Nat) : List Char → Option Cursor
  | [] => some ⟨column, []⟩
  | '\n' :: rest => skipGap flow true false 0 rest
  | c :: rest =>
    if comment then skipGap flow fresh true (column + 1) rest
    else if c = '#' then skipGap flow fresh true (column + 1) rest
    else if c = ' ' then skipGap flow fresh false (column + 1) rest
    else if c = '\t' then
      if flow || !fresh then skipGap flow fresh false (column + 1) rest else none
    else some ⟨column, c :: rest⟩

def Cursor.content (c : Cursor) : Option Cursor := skipGap false (c.column == 0) false c.column c.rest

def Cursor.flowContent (c : Cursor) : Option Cursor := skipGap true false false c.column c.rest

def Cursor.skipBlanks (c : Cursor) : Cursor :=
  let blanks := c.rest.takeWhile isLineBlank
  ⟨c.column + blanks.length, c.rest.drop blanks.length⟩

def Cursor.lineDone (c : Cursor) : Bool :=
  match c.skipBlanks.rest with
  | [] => true
  | d :: _ => d == '\n' || d == '#'

/-- Behind a dash there are spaces, but no tab. -/
def Cursor.afterDash? (c : Cursor) : Option Cursor :=
  let spaces := (c.rest.drop 1).takeWhile (· == ' ')
  match c.rest.drop (1 + spaces.length) with
  | '\t' :: _ => none
  | rest => some ⟨c.column + 1 + spaces.length, rest⟩

def Cursor.atDash (c : Cursor) : Bool :=
  match c.rest with
  | '-' :: rest => endsToken rest
  | _ => false

def readScalar (flow : Bool) (minColumn : Nat) (c : Cursor) : Option (Node × Cursor) :=
  match c.rest with
  | '"' :: rest => do
    let (parts, after) ← readDouble (rest.length + 1) (c.column + 1) rest
    return (.scalar false (textOfParts parts), after)
  | '\'' :: rest => do
    let (parts, after) ← readSingle (c.column + 1) rest
    return (.scalar false (textOfParts parts), after)
  | rest =>
    if startsPlain rest then
      let (parts, after) := readPlain flow minColumn rest.length c
      some (.scalar true (textOfParts (dropFinalBlanks parts)), after)
    else none

/-- A key: a scalar on one line with a colon behind it. -/
def readKey (c : Cursor) : Option (String × Cursor) := do
  let (text, after) ← match c.rest with
    | '"' :: _ | '\'' :: _ => do
      let (node, after) ← readScalar false 0 c
      if (c.rest.take (c.rest.length - after.rest.length)).contains '\n' then none
      pure (← node.text?, after)
    | rest =>
      if startsPlain rest then
        let (parts, after) := plainLine false false c.column rest
        some (textOfParts (dropFinalBlanks parts), after)
      else none
  let mark := after.skipBlanks
  match mark.rest with
  | ':' :: rest => if endsToken rest then some (text, ⟨mark.column + 1, rest⟩) else none
  | _ => none

mutual

def readFlow : Nat → Cursor → Option (Node × Cursor)
  | 0, _ => none
  | fuel + 1, c =>
    match c.rest with
    | '[' :: rest => do
      let (items, after) ← readFlowItems fuel (← Cursor.flowContent ⟨c.column + 1, rest⟩)
      return (.sequence items, after)
    | '\x7b' :: rest => do
      let (members, after) ← readFlowMembers fuel (← Cursor.flowContent ⟨c.column + 1, rest⟩)
      return (.mapping members, after)
    | _ => readScalar true 0 c

def readFlowItems : Nat → Cursor → Option (List Node × Cursor)
  | 0, _ => none
  | fuel + 1, c =>
    match c.rest with
    | ']' :: rest => some ([], ⟨c.column + 1, rest⟩)
    | _ => do
      let (item, after) ← readFlow fuel c
      let mark ← after.flowContent
      match mark.rest with
      | ']' :: rest => return ([item], ⟨mark.column + 1, rest⟩)
      | ',' :: rest =>
        let (items, last) ← readFlowItems fuel (← Cursor.flowContent ⟨mark.column + 1, rest⟩)
        return (item :: items, last)
      | _ => none

/-- Members up to the closing brace; a value may be left out. -/
def readFlowMembers : Nat → Cursor → Option (List (String × Node) × Cursor)
  | 0, _ => none
  | fuel + 1, c =>
    match c.rest with
    | '\x7d' :: rest => some ([], ⟨c.column + 1, rest⟩)
    | _ => do
      let (key, afterKey) ← readScalar true 0 c
      let name ← key.text?
      let mark ← afterKey.flowContent
      let (value, after) ← match mark.rest with
        | ':' :: rest => do
          let start ← Cursor.flowContent ⟨mark.column + 1, rest⟩
          match start.rest with
          | ',' :: _ | '\x7d' :: _ => some (Node.empty, start)
          | _ => readFlow fuel start
        | _ => some (Node.empty, mark)
      let mark ← after.flowContent
      match mark.rest with
      | '\x7d' :: rest => return ([(name, value)], ⟨mark.column + 1, rest⟩)
      | ',' :: rest =>
        let (members, last) ← readFlowMembers fuel (← Cursor.flowContent ⟨mark.column + 1, rest⟩)
        return ((name, value) :: members, last)
      | _ => none

end

/-- A scalar, or a list or map in brackets, that ends its line; goes on to the next content. -/
def readInline (minColumn : Nat) (c : Cursor) : Option (Node × Cursor) := do
  let (node, after) ← match c.rest with
    | '[' :: _ | '\x7b' :: _ => readFlow (2 * c.rest.length + 2) c
    | _ => readScalar false minColumn c
  if after.lineDone then return (node, ← after.content) else none

mutual

/-- A value at content that begins at `minColumn` or right of it, and empty otherwise. -/
def readBlock : Nat → Nat → Cursor → Option (Node × Cursor)
  | 0, _, _ => none
  | fuel + 1, minColumn, c =>
    if c.rest.isEmpty || c.column < minColumn then some (.empty, c)
    else if c.atDash then do
      let (items, after) ← readBlockItems fuel c.column c
      return (.sequence items, after)
    else
      match readKey c with
      | some _ => do
        let (members, after) ← readBlockMembers fuel c.column c
        return (.mapping members, after)
      | none => readInline minColumn c

def readBlockItems : Nat → Nat → Cursor → Option (List Node × Cursor)
  | 0, _, _ => none
  | fuel + 1, column, c => do
    let inside ← c.afterDash?
    let (item, after) ←
      if inside.lineDone then do readBlock fuel (column + 1) (← inside.content)
      else readBlock fuel (column + 1) inside
    if after.rest.isEmpty || after.column < column then return ([item], after)
    else if column < after.column then none
    else if after.atDash then
      let (items, last) ← readBlockItems fuel column after
      return (item :: items, last)
    else return ([item], after)

/-- Members of a map whose keys stand in one column. A list may stand in the column of its key. -/
def readBlockMembers : Nat → Nat → Cursor → Option (List (String × Node) × Cursor)
  | 0, _, _ => none
  | fuel + 1, column, c => do
    let (name, afterKey) ← readKey c
    let (value, after) ←
      if afterKey.lineDone then do
        let start ← afterKey.content
        if start.column = column && start.atDash then
          let (items, last) ← readBlockItems fuel column start
          pure (Node.sequence items, last)
        else readBlock fuel (column + 1) start
      else readInline (column + 1) afterKey.skipBlanks
    if after.rest.isEmpty || after.column < column then return ([(name, value)], after)
    else if column < after.column then none
    else
      let (members, last) ← readBlockMembers fuel column after
      return ((name, value) :: members, last)

end

def isAllowed (c : Char) : Bool :=
  c == '\t' || c == '\n' || c == '\r' || (' ' ≤ c && c ≤ '~') || c == '\u0085'
    || ('\u00a0' ≤ c && c ≤ '\ufffd') || '\uffff' < c

def normalizeBreaks : List Char → List Char
  | '\r' :: '\n' :: rest => '\n' :: normalizeBreaks rest
  | '\r' :: rest => '\n' :: normalizeBreaks rest
  | '\u0085' :: rest => '\n' :: normalizeBreaks rest
  | c :: rest => c :: normalizeBreaks rest
  | [] => []

/-- A byte order mark in front takes the place of a space. -/
def normalizeText : List Char → List Char
  | '\ufeff' :: rest => ' ' :: normalizeBreaks rest
  | cs => normalizeBreaks cs

/-- The text up to a line of three dots, and what follows it. -/
def splitAtDots (lineStart : Bool) : List Char → List Char × List Char
  | [] => ([], [])
  | c :: rest =>
    if lineStart && (c :: rest).take 3 == ['.', '.', '.'] && endsToken (rest.drop 2) then
      ([], rest.drop 2)
    else
      let (before, after) := splitAtDots (c == '\n') rest
      (c :: before, after)

def isIdle (cs : List Char) : Bool :=
  match Cursor.content ⟨3, cs⟩ with
  | some c => c.rest.isEmpty
  | none => false

def afterMark? (c : Cursor) : Option Cursor :=
  match c.rest with
  | '-' :: '-' :: '-' :: rest =>
    if c.column = 0 && endsToken rest then some ⟨3, rest⟩ else none
  | _ => none

/-- The tree of a text that holds at most one document. Anchors, tags, directives and block scalars
are refused. -/
def readDocument (text : String) : Option Node := do
  let (cs, tail) := splitAtDots true (normalizeText text.toList)
  if !text.toList.all isAllowed || !isIdle tail then none
  let fuel := 3 * cs.length + 3
  let start ← Cursor.content ⟨0, cs⟩
  let (node, after) ← match afterMark? start with
    | some inside =>
      if inside.lineDone then do readBlock fuel 0 (← inside.content)
      else readInline 0 inside.skipBlanks
    | none => readBlock fuel 0 start
  if after.rest.isEmpty then return node else none

end ImageSearch.Yaml
