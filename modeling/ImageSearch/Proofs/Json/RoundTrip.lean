import ImageSearch.Json.Decode

set_option autoImplicit false

namespace ImageSearch.Json

mutual

/-- No number anywhere inside. -/
def Value.numberless : Value → Bool
  | .number _ => false
  | .null | .bool _ | .string _ => true
  | .array items => numberlessItems items
  | .object members => numberlessMembers members

def numberlessItems : List Value → Bool
  | [] => true
  | item :: rest => item.numberless && numberlessItems rest

def numberlessMembers : List (String × Value) → Bool
  | [] => true
  | (_, value) :: rest => value.numberless && numberlessMembers rest

end

theorem numberless_array_map {α : Type} {encode : α → Value} {xs : List α}
    (plain : ∀ x ∈ xs, (encode x).numberless = true) :
    (Value.array (xs.map encode)).numberless = true := by
  rw [Value.numberless]
  induction xs with
  | nil => rfl
  | cons x rest ih =>
      rw [List.map_cons, numberlessItems, plain x List.mem_cons_self, Bool.true_and]
      exact ih fun y mem => plain y (List.mem_cons_of_mem x mem)

theorem hexUnit?_digits : ∀ n < 32,
    hexUnit? '0' '0' (Nat.digitChar (n / 16)) (Nat.digitChar (n % 16)) = some n := by
  decide

theorem joinPieces_unit {n : Nat} (small : n < 32) (pieces : List Piece) :
    joinPieces (.unit n :: pieces) = (joinPieces pieces).map (Char.ofNat n :: ·) := by
  have high : isHighSurrogate n = false := by simp [isHighSurrogate]; omega
  have low : isLowSurrogate n = false := by simp [isLowSurrogate]; omega
  rcases pieces with _ | ⟨_ | _, pieces⟩
  · simp [joinPieces, high, low]
  · simp [joinPieces, high, low]
  · simp [joinPieces, high, low]

theorem readPieces_named {e c : Char} (known : simpleEscape? e = some c) (rest : List Char) :
    readPieces ('\\' :: e :: rest) =
      (readPieces rest).map fun (pieces, after) => (.char c :: pieces, after) := by
  have other : e ≠ 'u' := by
    rintro rfl
    cases known
  rw [readPieces, known]
  · cases readPieces rest <;> rfl
  · exact fun _ _ _ _ _ same _ => other same

theorem readPieces_control {c : Char} (small : c.toNat < 32) (rest : List Char) :
    readPieces (controlEscape c ++ rest) =
      (readPieces rest).map fun (pieces, after) => (.unit c.toNat :: pieces, after) := by
  rw [controlEscape, List.cons_append, List.cons_append, List.cons_append, List.cons_append,
    List.cons_append, List.cons_append, List.nil_append, readPieces, hexUnit?_digits _ small]
  cases readPieces rest <;> rfl

theorem readPieces_plain {c : Char} (large : ¬c.toNat < 32) (unquoted : c ≠ '"')
    (unescaped : c ≠ '\\') (rest : List Char) :
    readPieces (c :: rest) =
      (readPieces rest).map fun (pieces, after) => (.char c :: pieces, after) := by
  rw [readPieces, if_neg large]
  · cases readPieces rest <;> rfl
  · exact unquoted
  · exact fun _ _ _ _ _ same _ => unescaped same
  · exact fun _ _ same _ => unescaped same
  · exact fun same _ => unescaped same

/-- An escaped character is one piece, which stands for that character. -/
theorem escapeChar_read (c : Char) :
    ∃ piece, (∀ rest, readPieces (escapeChar c ++ rest) =
        (readPieces rest).map fun (pieces, after) => (piece :: pieces, after)) ∧
      ∀ pieces, joinPieces (piece :: pieces) = (joinPieces pieces).map (c :: ·) := by
  have plain (d : Char) (pieces : List Piece) :
      joinPieces (.char d :: pieces) = (joinPieces pieces).map (d :: ·) := by
    rw [joinPieces]
  unfold escapeChar
  split
  case h_8 unquoted unescaped _ _ _ _ _ =>
    by_cases small : c.toNat < 32
    · rw [if_pos small]
      refine ⟨.unit c.toNat, readPieces_control small, fun pieces => ?_⟩
      rw [joinPieces_unit small, Char.ofNat_toNat]
    · rw [if_neg small]
      exact ⟨.char c, readPieces_plain small unquoted unescaped, plain c⟩
  all_goals exact ⟨_, readPieces_named rfl, plain _⟩

/-- A string reads back, whatever follows it. -/
theorem readString_flatMap_escapeChar (cs rest : List Char) :
    readString (cs.flatMap escapeChar ++ '"' :: rest) = some (some (String.ofList cs), rest) := by
  have pieces : ∃ pieces, readPieces (cs.flatMap escapeChar ++ '"' :: rest) = some (pieces, rest) ∧
      joinPieces pieces = some cs := by
    induction cs with
    | nil => exact ⟨[], rfl, rfl⟩
    | cons c cs ih =>
        obtain ⟨pieces, read, joins⟩ := ih
        obtain ⟨piece, first, stands⟩ := escapeChar_read c
        refine ⟨piece :: pieces, ?_, ?_⟩
        · rw [List.flatMap_cons, List.append_assoc, first, read]
          rfl
        · rw [stands, joins]
          rfl
  obtain ⟨pieces, read, joins⟩ := pieces
  rw [readString, read]
  show some ((joinPieces pieces).map String.ofList, rest) = _
  rw [joins]
  rfl

theorem skipBlank_newline (level : Nat) (cs : List Char) :
    skipBlank (newline level ++ cs) = skipBlank cs := by
  have spaces (n : Nat) : skipBlank (List.replicate n ' ' ++ cs) = skipBlank cs := by
    induction n with
    | zero => rfl
    | succ n ih =>
        rw [List.replicate_succ]
        exact ih
  exact spaces (2 * level)

theorem readValue_congr {cs cs' : List Char} (same : skipBlank cs = skipBlank cs') (fuel : Nat) :
    readValue fuel cs = readValue fuel cs' := by
  cases fuel with
  | zero => rw [readValue, readValue]
  | succ fuel => rw [readValue, readValue, same]

/-- The text begins with a character that is neither white space nor the end of a container. -/
def Opens (cs : List Char) : Prop :=
  ∃ c rest, cs = c :: rest ∧ isJsonBlank c = false ∧ c ≠ ']' ∧ c ≠ closeBrace

theorem Opens.append {cs : List Char} (opens : Opens cs) (more : List Char) :
    Opens (cs ++ more) := by
  obtain ⟨c, rest, rfl, facts⟩ := opens
  exact ⟨c, rest ++ more, rfl, facts⟩

theorem Opens.skipBlank {cs : List Char} (opens : Opens cs) : skipBlank cs = cs := by
  obtain ⟨c, rest, rfl, solid, _⟩ := opens
  exact List.dropWhile_cons_of_neg (by simp [solid])

theorem opens_bracketed {opening closing : Char} {level : Nat} {pieces : List (List Char)}
    (open' : isJsonBlank opening = false ∧ opening ≠ ']' ∧ opening ≠ closeBrace) :
    Opens (bracketed opening closing level pieces) := by
  rw [bracketed]
  split
  · exact ⟨opening, _, rfl, open'⟩
  · exact ⟨opening, _, rfl, open'⟩

theorem opens_pretty {v : Value} (level : Nat) (numberless : v.numberless = true) :
    Opens (v.pretty level) := by
  cases v with
  | null => exact ⟨'n', _, rfl, by decide⟩
  | bool b =>
      cases b with
      | false => exact ⟨'f', _, rfl, by decide⟩
      | true => exact ⟨'t', _, rfl, by decide⟩
  | number n => cases numberless
  | string s => exact ⟨'"', _, rfl, by decide⟩
  | array items => exact opens_bracketed (by decide)
  | object members => exact opens_bracketed (by decide)

theorem joined_cons_cons (separator piece next : List Char) (pieces : List (List Char)) :
    joined separator (piece :: next :: pieces) =
      piece ++ (separator ++ joined separator (next :: pieces)) := by
  rw [joined, List.append_assoc]
  exact List.cons_ne_nil next pieces

theorem opens_joined {piece : List Char} (opens : Opens piece) (separator : List Char)
    (pieces : List (List Char)) : Opens (joined separator (piece :: pieces)) := by
  cases pieces with
  | nil => exact opens
  | cons next pieces =>
      rw [joined_cons_cons]
      exact opens.append _

theorem readItems_last {fuel : Nat} {cs ending rest : List Char} {draft : Draft}
    (item : readValue fuel cs = (draft, some ending)) (closes : skipBlank ending = ']' :: rest) :
    readItems (fuel + 1) cs = ([draft], some rest) := by
  rw [readItems, item]
  simp only [closes]

theorem readItems_more {fuel : Nat} {cs more rest : List Char} {draft : Draft}
    {drafts : List Draft} (item : readValue fuel cs = (draft, some (',' :: more)))
    (opens : Opens (skipBlank more)) (others : readItems fuel more = (drafts, some rest)) :
    readItems (fuel + 1) cs = (draft :: drafts, some rest) := by
  obtain ⟨c, tail, begins, _, open', _⟩ := opens
  have comma : skipBlank (',' :: more) = ',' :: more := rfl
  rw [readItems, item]
  simp only [comma, begins, others]
  split
  · rename_i same
    exact absurd (List.cons.inj same).1 open'
  · rfl

theorem readString_renderString (key : String) (after : List Char) :
    ∃ quoted, renderString key ++ after = '"' :: quoted ∧
      readString quoted = some (some key, after) := by
  refine ⟨key.toList.flatMap escapeChar ++ '"' :: after, by simp [renderString], ?_⟩
  rw [readString_flatMap_escapeChar, String.ofList_toList]

theorem readMembers_last {fuel : Nat} {cs after ending rest : List Char} {key : String}
    {draft : Draft} (named : skipBlank cs = renderString key ++ ':' :: after)
    (value : readValue fuel after = (draft, some ending))
    (closes : skipBlank ending = closeBrace :: rest) :
    readMembers (fuel + 1) cs = ([(some key, draft)], some rest) := by
  obtain ⟨quoted, text, read⟩ := readString_renderString key (':' :: after)
  have colon : skipBlank (':' :: after) = ':' :: after := rfl
  rw [readMembers, named, text]
  simp only [read, colon, value, closes]
  rfl

theorem readMembers_more {fuel : Nat} {cs after more rest : List Char} {key : String}
    {draft : Draft} {drafts : List (Option String × Draft)}
    (named : skipBlank cs = renderString key ++ ':' :: after)
    (value : readValue fuel after = (draft, some (',' :: more)))
    (others : readMembers fuel more = (drafts, some rest)) :
    readMembers (fuel + 1) cs = ((some key, draft) :: drafts, some rest) := by
  obtain ⟨quoted, text, read⟩ := readString_renderString key (':' :: after)
  have colon : skipBlank (':' :: after) = ':' :: after := rfl
  have comma : skipBlank (',' :: more) = ',' :: more := rfl
  rw [readMembers, named, text]
  simp only [read, colon, value, comma, others]

theorem readItems_congr {cs cs' : List Char} (same : skipBlank cs = skipBlank cs') (fuel : Nat) :
    readItems fuel cs = readItems fuel cs' := by
  cases fuel with
  | zero => rw [readItems, readItems]
  | succ fuel => rw [readItems, readItems, readValue_congr same]

theorem readMembers_congr {cs cs' : List Char} (same : skipBlank cs = skipBlank cs')
    (fuel : Nat) : readMembers fuel cs = readMembers fuel cs' := by
  cases fuel with
  | zero => rw [readMembers, readMembers]
  | succ fuel => rw [readMembers, readMembers, same]

theorem readValue_array {fuel : Nat} {cs rest : List Char} {drafts : List Draft}
    (opens : Opens (skipBlank cs)) (items : readItems fuel cs = (drafts, some rest)) :
    readValue (fuel + 1) ('[' :: cs) = (.array drafts true, some rest) := by
  obtain ⟨c, tail, begins, _, open', _⟩ := opens
  have bracket : skipBlank ('[' :: cs) = '[' :: cs := rfl
  rw [readValue, bracket]
  simp only [begins, items, if_pos]
  split
  · rename_i same
    exact absurd (List.cons.inj same).1 open'
  · rfl

theorem readValue_object {fuel : Nat} {cs rest : List Char}
    {drafts : List (Option String × Draft)} (opens : Opens (skipBlank cs))
    (members : readMembers fuel cs = (drafts, some rest)) :
    readValue (fuel + 1) (openBrace :: cs) = (.object drafts true, some rest) := by
  obtain ⟨c, tail, begins, _, _, open'⟩ := opens
  have brace : skipBlank (openBrace :: cs) = openBrace :: cs := rfl
  have other : ¬openBrace = '[' := by decide
  rw [readValue, brace]
  simp only [begins, members, if_neg other, if_neg open', if_pos]
  rfl

/-- The text of a container that is not empty: the first piece stands on a line of its own. -/
theorem bracketed_cons (opening closing : Char) (level : Nat) (piece : List Char)
    (pieces : List (List Char)) :
    bracketed opening closing level (piece :: pieces) =
      opening :: (newline (level + 1) ++ (joined (',' :: newline (level + 1)) (piece :: pieces) ++
        (newline level ++ [closing]))) := by
  simp [bracketed]

mutual

/-- The text of a value reads back, whatever follows it. -/
theorem readValue_pretty (v : Value) (numberless : v.numberless = true) (level fuel : Nat)
    (rest : List Char) (enough : 2 * (v.pretty level).length < fuel) :
    readValue fuel (v.pretty level ++ rest) = (v.toDraft, some rest) := by
  -- The recursion is on the fuel, as in the reader: a container spends one step on its bracket and
  -- one on each item, and its text has at least as many characters.
  obtain ⟨left, spend⟩ : ∃ left, fuel = left + 1 := ⟨fuel - 1, by omega⟩
  rw [spend]
  match v with
  | .null => rfl
  | .bool true => rfl
  | .bool false => rfl
  | .string s =>
      obtain ⟨quoted, text, read⟩ := readString_renderString s rest
      rw [Value.pretty, text]
      show readScalar ('"' :: quoted) = _
      rw [readScalar, read]
      rfl
  | .array [] => rfl
  | .array (item :: items) =>
      have first : Opens (item.pretty (level + 1)) :=
        opens_pretty (level + 1) (Bool.and_eq_true_iff.mp numberless).1
      have begins := (opens_joined first (',' :: newline (level + 1))
        (prettyItems (level + 1) items)).append (newline level ++ ([']'] ++ rest))
      have more := skipBlank_newline (level + 1)
      rw [Value.pretty, prettyItems, bracketed_cons] at enough ⊢
      rw [List.cons_append, List.append_assoc, List.append_assoc, List.append_assoc]
      apply readValue_array
      · rw [more, begins.skipBlank]
        exact begins
      · rw [readItems_congr (more _)]
        apply readItems_pretty item items numberless
        · exact skipBlank_newline level (']' :: rest)
        · simp only [List.length_cons, List.length_append] at enough
          rw [prettyItems]
          omega
  | .object [] => rfl
  | .object ((key, value) :: members) =>
      have first : Opens (renderString key ++ ':' :: ' ' :: value.pretty (level + 1)) :=
        ⟨'"', _, rfl, by decide⟩
      have begins := (opens_joined first (',' :: newline (level + 1))
        (prettyMembers (level + 1) members)).append (newline level ++ ([closeBrace] ++ rest))
      have more := skipBlank_newline (level + 1)
      rw [Value.pretty, prettyMembers, bracketed_cons] at enough ⊢
      rw [List.cons_append, List.append_assoc, List.append_assoc, List.append_assoc]
      apply readValue_object
      · rw [more, begins.skipBlank]
        exact begins
      · rw [readMembers_congr (more _)]
        apply readMembers_pretty key value members numberless
        · exact skipBlank_newline level (closeBrace :: rest)
        · simp only [List.length_cons, List.length_append] at enough
          rw [prettyMembers]
          omega
termination_by fuel

theorem readItems_pretty (item : Value) (items : List Value)
    (numberless : numberlessItems (item :: items) = true) (level fuel : Nat)
    (ending rest : List Char) (closes : skipBlank ending = ']' :: rest)
    (enough : 2 * (joined (',' :: newline level) (prettyItems level (item :: items))).length + 1
      < fuel) :
    readItems fuel (joined (',' :: newline level) (prettyItems level (item :: items)) ++ ending) =
      (toDrafts (item :: items), some rest) := by
  obtain ⟨left, spend⟩ : ∃ left, fuel = left + 1 := ⟨fuel - 1, by omega⟩
  rw [spend]
  obtain ⟨plain, others⟩ := Bool.and_eq_true_iff.mp numberless
  match items with
  | [] =>
      have one : 2 * (item.pretty level).length + 1 < fuel := enough
      exact readItems_last (readValue_pretty item plain level left ending (by omega)) closes
  | next :: items =>
      have opens : Opens (joined (',' :: newline level) (prettyItems level (next :: items))) :=
        opens_joined (opens_pretty level (Bool.and_eq_true_iff.mp others).1) _ _
      have begins := opens.append ending
      have more := skipBlank_newline level
      have split : joined (',' :: newline level) (prettyItems level (item :: next :: items)) =
          item.pretty level ++ (',' :: newline level ++
            joined (',' :: newline level) (prettyItems level (next :: items))) :=
        joined_cons_cons _ _ _ _
      rw [split] at enough ⊢
      simp only [List.length_append, List.length_cons] at enough
      rw [List.append_assoc, List.append_assoc, List.cons_append]
      apply readItems_more (readValue_pretty item plain level left _ (by omega))
      · rw [more, begins.skipBlank]
        exact begins
      · rw [readItems_congr (more _)]
        exact readItems_pretty next items others level left ending rest closes (by omega)
termination_by fuel

theorem readMembers_pretty (key : String) (value : Value) (members : List (String × Value))
    (numberless : numberlessMembers ((key, value) :: members) = true) (level fuel : Nat)
    (ending rest : List Char) (closes : skipBlank ending = closeBrace :: rest)
    (enough : 2 * (joined (',' :: newline level)
      (prettyMembers level ((key, value) :: members))).length + 1 < fuel) :
    readMembers fuel (joined (',' :: newline level)
      (prettyMembers level ((key, value) :: members)) ++ ending) =
        (toDraftMembers ((key, value) :: members), some rest) := by
  obtain ⟨left, spend⟩ : ∃ left, fuel = left + 1 := ⟨fuel - 1, by omega⟩
  rw [spend]
  obtain ⟨plain, others⟩ := Bool.and_eq_true_iff.mp numberless
  -- the space after the colon is skipped with the value
  have read (after : List Char) (fits : 2 * (value.pretty level).length < left) :
      readValue left (' ' :: (value.pretty level ++ after)) = (value.toDraft, some after) := by
    have space : skipBlank (' ' :: (value.pretty level ++ after)) =
        skipBlank (value.pretty level ++ after) := rfl
    rw [readValue_congr space]
    exact readValue_pretty value plain level left after fits
  have named (after : List Char) :
      skipBlank (renderString key ++ ':' :: after) = renderString key ++ ':' :: after := rfl
  match members with
  | [] =>
      have one : 2 * (renderString key ++ ':' :: ' ' :: value.pretty level).length + 1 < fuel :=
        enough
      simp only [List.length_append, List.length_cons] at one
      rw [prettyMembers, prettyMembers, joined, List.append_assoc, List.cons_append,
        List.cons_append]
      exact readMembers_last (named _) (read ending (by omega)) closes
  | (nextKey, next) :: members =>
      have more := skipBlank_newline level
      have split : joined (',' :: newline level)
            (prettyMembers level ((key, value) :: (nextKey, next) :: members)) =
          (renderString key ++ ':' :: ' ' :: value.pretty level) ++ (',' :: newline level ++
            joined (',' :: newline level) (prettyMembers level ((nextKey, next) :: members))) :=
        joined_cons_cons _ _ _ _
      rw [split] at enough ⊢
      simp only [List.length_append, List.length_cons] at enough
      rw [List.append_assoc, List.append_assoc, List.append_assoc, List.cons_append,
        List.cons_append, List.cons_append]
      apply readMembers_more (named _) (read _ (by omega))
      rw [readMembers_congr (more _)]
      exact readMembers_pretty nextKey next members others level left ending rest closes (by omega)
termination_by fuel

end

/-- A written value is read back whole. -/
theorem reading_prettyText {v : Value} (numberless : v.numberless = true) :
    Reading.ofText v.prettyText = ⟨v.toDraft, true⟩ := by
  have read := readValue_pretty v numberless 0 (2 * (v.pretty 0).length + 2) [] (by omega)
  rw [List.append_nil] at read
  rw [Reading.ofText, Value.prettyText, String.toList_ofList, read]
  rfl

theorem decodeText_prettyText {α : Type} (decoder : Decoder α) {v : Value}
    (numberless : v.numberless = true) :
    decodeText decoder v.prettyText = decoder (.text maxDepth) v.toDraft := by
  rw [decodeText, reading_prettyText numberless]
  show (decoder (.text maxDepth) v.toDraft >>= pure) = _
  rw [bind_pure]

end ImageSearch.Json
