import ImageSearch.Query.Parse

set_option autoImplicit false

namespace ImageSearch.Query

open ImageSearch.Text

theorem bare_of_blank {c : Char} (blank : isBlank c = true) : isBareWordChar c = false := by
  have apart : ∀ n ∈ blankRanges.codes, isBareWordChar (Char.ofNat n) = false := by
    decide +kernel
  have mine := apart c.toNat (CharRanges.mem_codes_of_has blank)
  rwa [Char.ofNat_toNat] at mine

theorem blank_of_bare {c : Char} (bare : isBareWordChar c = true) : isBlank c = false := by
  cases blank : isBlank c with
  | false => rfl
  | true => exact absurd bare (by rw [bare_of_blank blank]; decide)

def operators : List Char := ['&', '|', '!', '(', ')']

theorem operator?_eq_some {c : Char} {t : Token} (operator : operator? c = some t) :
    c ∈ operators := by
  rw [operator?.eq_def] at operator
  split at operator
  all_goals first | decide | cases operator

theorem operator?_eq_none {c : Char} (plain : c ∉ operators) : operator? c = none := by
  cases operator : operator? c with
  | none => rfl
  | some t => exact absurd (operator?_eq_some operator) plain

theorem operators_apart : (operators.all fun c => !isBlank c && !isBareWordChar c) = true := by
  decide

theorem plain_of_operator {c : Char} {t : Token} (operator : operator? c = some t) :
    isBlank c = false ∧ isBareWordChar c = false := by
  have apart := List.all_eq_true.mp operators_apart c (operator?_eq_some operator)
  simpa only [Bool.and_eq_true, Bool.not_eq_true'] using apart

theorem operator_of_bare {c : Char} (bare : isBareWordChar c = true) : operator? c = none := by
  cases operator : operator? c with
  | none => rfl
  | some t => exact absurd bare (by rw [(plain_of_operator operator).2]; decide)

theorem quote_of_bare {c : Char} (bare : isBareWordChar c = true) : isQuote c = false := by
  cases quote : isQuote c with
  | false => rfl
  | true =>
      have apart : isBareWordChar '"' = false ∧ isBareWordChar '\'' = false := by
        decide
      rcases (Bool.or_eq_true _ _).mp quote with same | same
      · rw [eq_of_beq same, apart.1] at bare
        cases bare
      · rw [eq_of_beq same, apart.2] at bare
        cases bare

theorem bare_of_quote {c : Char} (quote : isQuote c = true) : isBareWordChar c = false := by
  apply Bool.eq_false_iff.mpr
  intro bare
  cases quote.symm.trans (quote_of_bare bare)

theorem plain_of_quote {c : Char} (quote : isQuote c = true) :
    isBlank c = false ∧ operator? c = none := by
  rcases (Bool.or_eq_true _ _).mp quote with same | same
  · rw [eq_of_beq same]
    exact ⟨by decide, rfl⟩
  · rw [eq_of_beq same]
    exact ⟨by decide, rfl⟩

/-- The next character does not go on with a word. -/
def EndsWord (cs : List Char) : Prop := ∀ c ∈ cs.head?, isBareWordChar c = false

theorem endsWord_cons {c : Char} {rest : List Char} (other : isBareWordChar c = false) :
    EndsWord (c :: rest) := by
  rintro d ⟨⟩
  exact other

/-- The text from a position on, and its tokens. A word is as long as it can be. -/
inductive Scans : Nat → List Char → List Placed → Prop
  | nil (position : Nat) : Scans position [] []
  | blank {position : Nat} {c : Char} {rest : List Char} {ts : List Placed}
      (blank : isBlank c = true) (later : Scans (position + c.utf8Size) rest ts) :
      Scans position (c :: rest) ts
  | operator {position : Nat} {c : Char} {t : Token} {rest : List Char} {ts : List Placed}
      (operator : operator? c = some t) (later : Scans (position + c.utf8Size) rest ts) :
      Scans position (c :: rest) (⟨position, t⟩ :: ts)
  | quoted {position : Nat} {c : Char} {text rest : List Char} {ts : List Placed}
      (quote : isQuote c = true) (nonempty : text ≠ []) (inside : c ∉ text)
      (later : Scans (position + textSize text + 2 * c.utf8Size) rest ts) :
      Scans position (c :: (text ++ c :: rest)) (⟨position, .quoted (String.ofList text)⟩ :: ts)
  | word {position : Nat} {text rest : List Char} {ts : List Placed}
      (nonempty : text ≠ []) (bare : ∀ c ∈ text, isBareWordChar c = true) (stop : EndsWord rest)
      (later : Scans (position + textSize text) rest ts) :
      Scans position (text ++ rest) (⟨position, .word (String.ofList text)⟩ :: ts)

theorem map_eq_ok {α β : Type} {f : α → β} {result : Except ParseError α} {b : β} :
    f <$> result = .ok b ↔ ∃ a, result = .ok a ∧ f a = b := by
  cases result with
  | error e => simp [Functor.map, Except.map]
  | ok a => simp [Functor.map, Except.map]

/-- A quoted text ends at the next quote of its kind. -/
theorem exists_of_quoted {c d : Char} {rest after : List Char}
    (found : rest.dropWhile (· != c) = d :: after) :
    rest = rest.takeWhile (· != c) ++ c :: after ∧ c ∉ rest.takeWhile (· != c) := by
  have ended : d = c := by
    have last := List.head?_dropWhile_not (· != c) rest
    rw [found] at last
    simpa using last
  subst ended
  constructor
  · rw [← found, List.takeWhile_append_dropWhile]
  · intro inside
    have other := List.all_eq_true.mp List.all_takeWhile d inside
    simp at other

theorem endsWord_dropWhile (rest : List Char) : EndsWord (rest.dropWhile isBareWordChar) := by
  intro d first
  have last := List.head?_dropWhile_not isBareWordChar rest
  rw [Option.mem_def.mp first] at last
  simpa using last

theorem scans_of_scanFrom {position : Nat} {cs : List Char} {ts : List Placed}
    (scanned : scanFrom position cs = .ok ts) : Scans position cs ts := by
  fun_induction scanFrom position cs generalizing ts
  case case1 position =>
      cases scanned
      exact .nil position
  case case2 position c rest blank ih => exact .blank blank (ih scanned)
  case case3 position c rest solid t operator ih =>
      obtain ⟨later, found, rfl⟩ := map_eq_ok.mp scanned
      exact .operator operator (ih found)
  case case4 | case5 | case8 => cases scanned
  case case6 position c rest solid plain quote text d after found nonempty shorter ih =>
      obtain ⟨later, next, rfl⟩ := map_eq_ok.mp scanned
      obtain ⟨parts, inside⟩ := exists_of_quoted found
      rw [parts]
      have full : text ≠ [] := fun missing => nonempty (List.isEmpty_iff.mpr missing)
      exact .quoted quote full inside (ih next)
  case case7 position c rest solid plain unquoted bare text shorter ih =>
      obtain ⟨later, next, rfl⟩ := map_eq_ok.mp scanned
      have parts : c :: rest = text ++ rest.dropWhile isBareWordChar := by
        rw [List.cons_append, List.takeWhile_append_dropWhile]
      rw [parts]
      refine .word (List.cons_ne_nil _ _) (fun d inside => ?_) (endsWord_dropWhile rest) (ih next)
      rcases List.mem_cons.mp inside with rfl | inside
      · exact bare
      · exact List.all_eq_true.mp List.all_takeWhile d inside

section Steps

variable {position : Nat} {c : Char} {text rest : List Char}

theorem scanFrom_blank (blank : isBlank c = true) :
    scanFrom position (c :: rest) = scanFrom (position + c.utf8Size) rest := by
  rw [scanFrom, if_pos blank]

theorem scanFrom_operator {t : Token} (operator : operator? c = some t) :
    scanFrom position (c :: rest) =
      (⟨position, t⟩ :: ·) <$> scanFrom (position + c.utf8Size) rest := by
  rw [scanFrom, if_neg (Bool.eq_false_iff.mp (plain_of_operator operator).1)]
  simp only [operator]

theorem scanFrom_quoted (quote : isQuote c = true) (nonempty : text ≠ []) (inside : c ∉ text) :
    scanFrom position (c :: (text ++ c :: rest)) =
      (⟨position, .quoted (String.ofList text)⟩ :: ·) <$>
        scanFrom (position + textSize text + 2 * c.utf8Size) rest := by
  obtain ⟨solid, plain⟩ := plain_of_quote quote
  have other (d : Char) (among : d ∈ text) : (d != c) = true := by
    simp only [bne_iff_ne]
    rintro rfl
    exact inside among
  have found : (text ++ c :: rest).dropWhile (· != c) = c :: rest := by
    rw [List.dropWhile_append_of_pos other, List.dropWhile_cons_of_neg (by simp)]
  have taken : (text ++ c :: rest).takeWhile (· != c) = text := by
    rw [List.takeWhile_append_of_pos other, List.takeWhile_cons_of_neg (by simp),
      List.append_nil]
  have full : text.isEmpty = false := List.isEmpty_eq_false_iff.mpr nonempty
  rw [scanFrom, if_neg (Bool.eq_false_iff.mp solid)]
  simp only [plain, quote, if_true]
  split
  · rename_i missing
    cases found.symm.trans missing
  · rename_i d after found'
    cases found.symm.trans found'
    rw [taken, full]
    rfl

theorem scanFrom_word (nonempty : text ≠ []) (bare : ∀ c ∈ text, isBareWordChar c = true)
    (stop : EndsWord rest) :
    scanFrom position (text ++ rest) = (⟨position, .word (String.ofList text)⟩ :: ·) <$>
      scanFrom (position + textSize text) rest := by
  cases text with
  | nil => exact absurd rfl nonempty
  | cons c text =>
      have first := bare c List.mem_cons_self
      have others (d : Char) (among : d ∈ text) := bare d (List.mem_cons_of_mem c among)
      have stopped : rest.takeWhile isBareWordChar = [] ∧
          rest.dropWhile isBareWordChar = rest := by
        cases rest with
        | nil => exact ⟨rfl, rfl⟩
        | cons d rest =>
            have ended : ¬ isBareWordChar d = true := Bool.eq_false_iff.mp (stop d rfl)
            exact ⟨List.takeWhile_cons_of_neg ended, List.dropWhile_cons_of_neg ended⟩
      rw [List.cons_append, scanFrom, if_neg (Bool.eq_false_iff.mp (blank_of_bare first))]
      simp only [operator_of_bare first, quote_of_bare first, first, Bool.false_eq_true,
        if_false, if_true]
      rw [List.dropWhile_append_of_pos others, List.takeWhile_append_of_pos others, stopped.1,
        stopped.2, List.append_nil]

end Steps

theorem scanFrom_of_scans {position : Nat} {cs : List Char} {ts : List Placed}
    (scans : Scans position cs ts) : scanFrom position cs = .ok ts := by
  induction scans with
  | nil position => rw [scanFrom]
  | blank blank _ ih => rw [scanFrom_blank blank, ih]
  | operator operator _ ih =>
      rw [scanFrom_operator operator, ih]
      rfl
  | quoted quote nonempty inside _ ih =>
      rw [scanFrom_quoted quote nonempty inside, ih]
      rfl
  | word nonempty bare stop _ ih =>
      rw [scanFrom_word nonempty bare stop, ih]
      rfl

theorem scanFrom_eq_ok {position : Nat} {cs : List Char} {ts : List Placed} :
    scanFrom position cs = .ok ts ↔ Scans position cs ts :=
  ⟨scans_of_scanFrom, scanFrom_of_scans⟩

def Tokenized (cs : List Char) (ts : List Token) : Prop :=
  ∀ position, ∃ placed, Scans position cs placed ∧ placed.map Placed.token = ts

theorem Tokenized.nil : Tokenized [] [] := fun position => ⟨[], .nil position, rfl⟩

theorem Tokenized.blank {c : Char} {cs : List Char} {ts : List Token} (blank : isBlank c = true)
    (later : Tokenized cs ts) : Tokenized (c :: cs) ts := by
  intro position
  obtain ⟨placed, scans, same⟩ := later (position + c.utf8Size)
  exact ⟨placed, .blank blank scans, same⟩

theorem Tokenized.operator {c : Char} {t : Token} {cs : List Char} {ts : List Token}
    (operator : operator? c = some t) (later : Tokenized cs ts) :
    Tokenized (c :: cs) (t :: ts) := by
  intro position
  obtain ⟨placed, scans, same⟩ := later (position + c.utf8Size)
  exact ⟨⟨position, t⟩ :: placed, .operator operator scans, by rw [List.map_cons, same]⟩

theorem Tokenized.quoted {c : Char} {text cs : List Char} {ts : List Token}
    (quote : isQuote c = true) (nonempty : text ≠ []) (inside : c ∉ text)
    (later : Tokenized cs ts) :
    Tokenized (c :: (text ++ c :: cs)) (.quoted (String.ofList text) :: ts) := by
  intro position
  obtain ⟨placed, scans, same⟩ := later (position + textSize text + 2 * c.utf8Size)
  exact ⟨⟨position, .quoted (String.ofList text)⟩ :: placed, .quoted quote nonempty inside scans,
    by rw [List.map_cons, same]⟩

theorem Tokenized.word {text cs : List Char} {ts : List Token} (nonempty : text ≠ [])
    (bare : ∀ c ∈ text, isBareWordChar c = true) (stop : EndsWord cs) (later : Tokenized cs ts) :
    Tokenized (text ++ cs) (.word (String.ofList text) :: ts) := by
  intro position
  obtain ⟨placed, scans, same⟩ := later (position + textSize text)
  exact ⟨⟨position, .word (String.ofList text)⟩ :: placed, .word nonempty bare stop scans,
    by rw [List.map_cons, same]⟩

theorem EndsWord.append {cs rest : List Char} (stop : EndsWord cs) (stop' : EndsWord rest) :
    EndsWord (cs ++ rest) := by
  cases cs with
  | nil => exact stop'
  | cons c cs =>
      rintro d ⟨⟩
      exact stop c rfl

/-- A text in front of another one has the tokens that it has alone, unless a word goes on. -/
theorem Scans.tokenized_append {position : Nat} {cs : List Char} {ts : List Placed}
    (scans : Scans position cs ts) {rest : List Char} {us : List Token} (stop : EndsWord rest)
    (later : Tokenized rest us) : Tokenized (cs ++ rest) (ts.map Placed.token ++ us) := by
  induction scans with
  | nil => exact later
  | blank blank _ ih => exact .blank blank ih
  | operator operator _ ih => exact .operator operator ih
  | quoted quote nonempty inside _ ih =>
      have tokens := Tokenized.quoted quote nonempty inside ih
      simpa using tokens
  | word nonempty bare ended _ ih =>
      have tokens := Tokenized.word nonempty bare (ended.append stop) ih
      simpa using tokens

/-- What the text of a token looks like. -/
def Token.Genuine (cs : List Char) : Token → Prop
  | .word text => text.toList ≠ [] ∧ (∀ c ∈ text.toList, isBareWordChar c = true) ∧
      text.toList ⊆ cs
  | .quoted text => text.toList ≠ [] ∧ (∃ c, isQuote c = true ∧ c ∉ text.toList) ∧
      text.toList ⊆ cs
  | _ => True

theorem Token.Genuine.mono {cs ds : List Char} {t : Token} (within : cs ⊆ ds)
    (genuine : t.Genuine cs) : t.Genuine ds := by
  cases t with
  | word text | quoted text =>
      obtain ⟨nonempty, shape, part⟩ := genuine
      exact ⟨nonempty, shape, List.Subset.trans part within⟩
  | and | or | not | opening | closing => trivial

/-- The scanner finds only such tokens. -/
theorem Scans.genuine {position : Nat} {cs : List Char} {ts : List Placed}
    (scans : Scans position cs ts) : ∀ t ∈ ts, t.token.Genuine cs := by
  induction scans with
  | nil => exact fun t missing => absurd missing List.not_mem_nil
  | @blank _ c rest _ _ _ ih => exact fun t among => (ih t among).mono (List.subset_cons_self c rest)
  | @operator _ c t rest _ operator _ ih =>
      refine List.forall_mem_cons.mpr ⟨?_, fun t among =>
        (ih t among).mono (List.subset_cons_self c rest)⟩
      rw [operator?.eq_def] at operator
      split at operator
      all_goals first | (cases operator; trivial) | cases operator
  | @quoted position c text rest ts quote nonempty inside later ih =>
      have within : text ++ c :: rest ⊆ c :: (text ++ c :: rest) := List.subset_cons_self _ _
      refine List.forall_mem_cons.mpr ⟨?_, fun t among => (ih t among).mono ?_⟩
      · simp only [Token.Genuine, String.toList_ofList]
        exact ⟨nonempty, ⟨c, quote, inside⟩, List.Subset.trans (List.subset_append_left _ _) within⟩
      · have part : rest ⊆ text ++ c :: rest :=
          List.Subset.trans (List.subset_cons_self _ _) (List.subset_append_right _ _)
        exact List.Subset.trans part within
  | @word position text rest ts nonempty bare stop later ih =>
      refine List.forall_mem_cons.mpr ⟨?_, fun t among =>
        (ih t among).mono (List.subset_append_right _ _)⟩
      simp only [Token.Genuine, String.toList_ofList]
      exact ⟨nonempty, bare, List.subset_append_left _ _⟩

end ImageSearch.Query
