import ImageSearch.Proofs.Query.Scanning
import Mathlib.Data.List.TakeWhile

set_option autoImplicit false

namespace ImageSearch.Query

open ImageSearch.Text

variable {position : Nat} {cs ds rest : List Char} {c : Char} {t : Token} {ts : List Placed}

theorem textSize_append (cs ds : List Char) : textSize (cs ++ ds) = textSize cs + textSize ds := by
  induction cs with
  | nil => rw [List.nil_append, textSize, Nat.zero_add]
  | cons c cs ih => rw [List.cons_append, textSize, textSize, ih, Nat.add_assoc]

theorem textSize_singleton (c : Char) : textSize [c] = c.utf8Size := by
  rw [textSize, textSize, Nat.add_zero]

theorem textSize_pos (nonempty : cs ≠ []) : 0 < textSize cs := by
  cases cs with
  | nil => exact absurd rfl nonempty
  | cons c cs =>
      have size := c.utf8Size_pos
      rw [textSize]
      omega

theorem textSize_eq (cs : List Char) : textSize cs = (String.ofList cs).utf8ByteSize := by
  induction cs with
  | nil => rfl
  | cons c cs ih =>
      rw [textSize, ih, String.ofList_cons, String.utf8ByteSize_append,
        String.utf8ByteSize_singleton]

theorem textSize_quoted (c : Char) (cs : List Char) :
    textSize (c :: (cs ++ [c])) = textSize cs + 2 * c.utf8Size := by
  rw [textSize, textSize_append, textSize_singleton]
  omega

/-- A token and a text that stands for it. -/
inductive Lexeme : Token → List Char → Prop
  | and : Lexeme .and ['&']
  | or : Lexeme .or ['|']
  | not : Lexeme .not ['!']
  | opening : Lexeme .opening ['(']
  | closing : Lexeme .closing [')']
  | word {text : List Char} (nonempty : text ≠ [])
      (bare : ∀ c ∈ text, isBareWordChar c = true) : Lexeme (.word (String.ofList text)) text
  | quoted {c : Char} {text : List Char} (quote : isQuote c = true) (nonempty : text ≠ [])
      (inside : c ∉ text) : Lexeme (.quoted (String.ofList text)) (c :: (text ++ [c]))

theorem lexeme_of_operator (operator : operator? c = some t) : Lexeme t [c] := by
  rw [operator?.eq_def] at operator
  split at operator
  all_goals first | (cases operator; constructor) | cases operator

theorem Lexeme.ne_nil (lexeme : Lexeme t cs) : cs ≠ [] := by
  cases lexeme with
  | word nonempty bare => exact nonempty
  | and | or | not | opening | closing | quoted => exact List.cons_ne_nil _ _

def Segmented (cs : List Char) : Prop :=
  ∃ pieces : List (List Char), pieces.flatten = cs ∧
    ∀ piece ∈ pieces, (∃ c, isBlank c = true ∧ piece = [c]) ∨ ∃ t, Lexeme t piece

theorem Segmented.blank (blank : isBlank c = true) (later : Segmented rest) :
    Segmented (c :: rest) := by
  obtain ⟨pieces, whole, each⟩ := later
  refine ⟨[c] :: pieces, ?_, List.forall_mem_cons.mpr ⟨.inl ⟨c, blank, rfl⟩, each⟩⟩
  rw [List.flatten_cons, whole, List.singleton_append]

theorem Segmented.lexeme (lexeme : Lexeme t cs) (later : Segmented rest) :
    Segmented (cs ++ rest) := by
  obtain ⟨pieces, whole, each⟩ := later
  refine ⟨cs :: pieces, ?_, List.forall_mem_cons.mpr ⟨.inr ⟨t, lexeme⟩, each⟩⟩
  rw [List.flatten_cons, whole]

theorem Scans.segmented (scans : Scans position cs ts) : Segmented cs := by
  induction scans with
  | nil => exact ⟨[], rfl, fun _ missing => absurd missing List.not_mem_nil⟩
  | blank blank _ ih => exact .blank blank ih
  | operator operator _ ih => exact .lexeme (lexeme_of_operator operator) ih
  | @quoted _ c text rest _ quote nonempty inside _ ih =>
      have whole := Segmented.lexeme (.quoted quote nonempty inside) ih
      rwa [List.cons_append, List.append_assoc, List.singleton_append] at whole
  | word nonempty bare _ _ ih => exact .lexeme (.word nonempty bare) ih

def Scannable (cs : List Char) : Prop := ∀ position, ∃ ts, Scans position cs ts

/-- A text with tokens begins with a whole word, or with nothing that goes on with a word. -/
theorem Scans.word_or_endsWord (scans : Scans position cs ts) :
    EndsWord cs ∨ ∃ text rest us, cs = text ++ rest ∧ (∀ c ∈ text, isBareWordChar c = true) ∧
      EndsWord rest ∧ Scans (position + textSize text) rest us := by
  cases scans with
  | nil => exact .inl (by rintro d ⟨⟩)
  | blank blank later => exact .inl (endsWord_cons (bare_of_blank blank))
  | operator operator later => exact .inl (endsWord_cons (plain_of_operator operator).2)
  | quoted quote nonempty inside later => exact .inl (endsWord_cons (bare_of_quote quote))
  | word nonempty bare stop later => exact .inr ⟨_, _, _, rfl, bare, stop, later⟩

/-- A character of a word goes in front of a word, or makes one by itself. -/
theorem Scannable.bare (bare : isBareWordChar c = true) (later : Scannable rest) :
    Scannable (c :: rest) := by
  intro position
  obtain ⟨ts, scans⟩ := later (position + c.utf8Size)
  rcases scans.word_or_endsWord with stop | ⟨text, rest, us, rfl, inside, stop, beyond⟩
  · rw [← textSize_singleton c] at scans
    exact ⟨_, .word (List.cons_ne_nil c []) (List.forall_mem_singleton.mpr bare) stop scans⟩
  · rw [Nat.add_assoc, ← textSize] at beyond
    exact ⟨_, .word (List.cons_ne_nil c text) (List.forall_mem_cons.mpr ⟨bare, inside⟩) stop beyond⟩

theorem Scannable.lexeme (lexeme : Lexeme t cs) (later : Scannable rest) :
    Scannable (cs ++ rest) := by
  cases lexeme with
  | word nonempty bare =>
      clear nonempty
      induction cs with
      | nil => exact later
      | cons c cs ih =>
          obtain ⟨first, others⟩ := List.forall_mem_cons.mp bare
          exact .bare first (ih others)
  | @quoted c text quote nonempty inside =>
      intro position
      obtain ⟨ts, scans⟩ := later (position + textSize text + 2 * c.utf8Size)
      rw [List.cons_append, List.append_assoc, List.singleton_append]
      exact ⟨_, .quoted quote nonempty inside scans⟩
  | and | or | not | opening | closing =>
      intro position
      obtain ⟨ts, scans⟩ := later (position + Char.utf8Size _)
      exact ⟨_, .operator rfl scans⟩

theorem Segmented.scannable (segmented : Segmented cs) : Scannable cs := by
  obtain ⟨pieces, rfl, each⟩ := segmented
  induction pieces with
  | nil => exact fun position => ⟨[], .nil position⟩
  | cons piece pieces ih =>
      obtain ⟨first, others⟩ := List.forall_mem_cons.mp each
      rw [List.flatten_cons]
      rcases first with ⟨c, blank, rfl⟩ | ⟨t, lexeme⟩
      · intro position
        obtain ⟨ts, scans⟩ := ih others (position + c.utf8Size)
        exact ⟨ts, .blank blank scans⟩
      · exact .lexeme lexeme (ih others)

/-- White space up to the place of the first token, its text, and so on to the end. -/
inductive Layout : Nat → List Char → List Placed → Prop
  | done {position : Nat} {gap : List Char} (blank : ∀ c ∈ gap, isBlank c = true) :
      Layout position gap []
  | token {position : Nat} {gap text rest : List Char} {t : Token} {ts : List Placed}
      (blank : ∀ c ∈ gap, isBlank c = true) (lexeme : Lexeme t text)
      (later : Layout (position + textSize gap + textSize text) rest ts) :
      Layout position (gap ++ (text ++ rest)) (⟨position + textSize gap, t⟩ :: ts)

theorem Layout.blank (blank : isBlank c = true) (later : Layout (position + c.utf8Size) rest ts) :
    Layout position (c :: rest) ts := by
  cases later with
  | done others => exact .done (List.forall_mem_cons.mpr ⟨blank, others⟩)
  | token others lexeme beyond =>
      rw [Nat.add_assoc position, ← textSize] at beyond ⊢
      exact .token (List.forall_mem_cons.mpr ⟨blank, others⟩) lexeme beyond

theorem Layout.lexeme {text : List Char} (lexeme : Lexeme t text)
    (later : Layout (position + textSize text) rest ts) :
    Layout position (text ++ rest) (⟨position, t⟩ :: ts) := by
  have gapless : ∀ c ∈ ([] : List Char), isBlank c = true := by
    simp
  exact .token gapless lexeme later

theorem Scans.layout (scans : Scans position cs ts) : Layout position cs ts := by
  induction scans with
  | nil => exact .done fun _ missing => absurd missing List.not_mem_nil
  | blank blank _ ih => exact .blank blank ih
  | @operator position c _ _ _ operator _ ih =>
      rw [← textSize_singleton c] at ih
      exact .lexeme (lexeme_of_operator operator) ih
  | @quoted position c text rest _ quote nonempty inside _ ih =>
      rw [Nat.add_assoc, ← textSize_quoted] at ih
      have whole := Layout.lexeme (.quoted quote nonempty inside) ih
      rwa [List.cons_append, List.append_assoc, List.singleton_append] at whole
  | word nonempty bare _ _ ih => exact .lexeme (.word nonempty bare) ih

theorem Layout.within (layout : Layout position cs ts) :
    ∀ p ∈ ts, position ≤ p.position ∧ p.position < position + textSize cs := by
  induction layout with
  | done => exact fun _ missing => absurd missing List.not_mem_nil
  | token _ lexeme _ ih =>
      have size := textSize_pos lexeme.ne_nil
      rw [textSize_append, textSize_append]
      refine List.forall_mem_cons.mpr ⟨⟨Nat.le_add_right _ _, ?_⟩, fun p among => ?_⟩
      · show _ + _ < _
        omega
      · obtain ⟨above, below⟩ := ih p among
        omega

theorem Layout.ascending (layout : Layout position cs ts) :
    ts.Pairwise fun p q => p.position < q.position := by
  induction layout with
  | done => exact .nil
  | token _ lexeme later ih =>
      refine .cons (fun q among => ?_) ih
      have above := (later.within q among).1
      have size := textSize_pos lexeme.ne_nil
      show _ + _ < _
      omega

/-- The text so far does not end with a character of a word. -/
def StartsWord (cs : List Char) : Prop := ∀ c ∈ cs.getLast?, isBareWordChar c = false

theorem startsWord_concat (other : isBareWordChar c = false) : StartsWord (cs ++ [c]) := by
  intro d last
  rw [List.getLast?_concat] at last
  cases last
  exact other

/-- A token stands in a text, and if it is a word no character of a word is next to it. -/
def Occurs (cs : List Char) (p : Placed) : Prop :=
  ∃ before text after, cs = before ++ (text ++ after) ∧
    p.position = (String.ofList before).utf8ByteSize ∧ Lexeme p.token text ∧
    ∀ w, p.token = .word w → StartsWord before ∧ EndsWord after

theorem operator_ne_word {w : String} (operator : operator? c = some t) : t ≠ .word w := by
  rintro rfl
  rw [operator?.eq_def] at operator
  split at operator
  all_goals cases operator

/-- Every token stands in the text. The induction carries what was read so far: if it ends within a
word, then the rest does not go on with it. -/
theorem Scans.occurs (scans : Scans position cs ts) (before : List Char)
    (read : position = textSize before) (apart : StartsWord before ∨ EndsWord cs) :
    ∀ p ∈ ts, Occurs (before ++ cs) p := by
  induction scans generalizing before with
  | nil => exact fun _ missing => absurd missing List.not_mem_nil
  | @blank position c rest ts blank later ih =>
      have next := ih (before ++ [c])
        (by rw [textSize_append, textSize_singleton, read])
        (.inl (startsWord_concat (bare_of_blank blank)))
      rwa [List.append_assoc, List.singleton_append] at next
  | @operator position c t rest ts operator later ih =>
      have next := ih (before ++ [c])
        (by rw [textSize_append, textSize_singleton, read])
        (.inl (startsWord_concat (plain_of_operator operator).2))
      rw [List.append_assoc, List.singleton_append] at next
      refine List.forall_mem_cons.mpr ⟨⟨before, [c], rest, rfl, ?_⟩, next⟩
      exact ⟨read.trans (textSize_eq before), lexeme_of_operator operator,
        fun w same => absurd same (operator_ne_word operator)⟩
  | @quoted position c text rest ts quote nonempty inside later ih =>
      have next := ih (before ++ (c :: text) ++ [c])
        (by rw [textSize_append, textSize_append, textSize_singleton, textSize, read]; omega)
        (.inl (startsWord_concat (bare_of_quote quote)))
      have parts : before ++ (c :: text) ++ [c] ++ rest = before ++ c :: (text ++ c :: rest) := by
        simp
      rw [parts] at next
      refine List.forall_mem_cons.mpr ⟨⟨before, c :: (text ++ [c]), rest, by simp, ?_⟩, next⟩
      exact ⟨read.trans (textSize_eq before), .quoted quote nonempty inside,
        fun w other => by cases other⟩
  | @word position text rest ts nonempty bare stop later ih =>
      have next := ih (before ++ text) (by rw [textSize_append, read]) (.inr stop)
      rw [List.append_assoc] at next
      refine List.forall_mem_cons.mpr ⟨⟨before, text, rest, rfl, ?_⟩, next⟩
      have starts : StartsWord before := by
        refine apart.resolve_right fun stopped => ?_
        cases text with
        | nil => exact nonempty rfl
        | cons c text =>
            have other := stopped c rfl
            cases other.symm.trans (bare c List.mem_cons_self)
      exact ⟨read.trans (textSize_eq before), .word nonempty bare, fun w _ => ⟨starts, stop⟩⟩

/-- Why the scanner refuses a character, seen with the text behind it. -/
inductive Refuses : Char → List Char → Fault → Prop
  | unterminated {c : Char} {rest : List Char} (quote : isQuote c = true) (inside : c ∉ rest) :
      Refuses c rest .unterminatedQuote
  | empty {c : Char} {rest : List Char} (quote : isQuote c = true) :
      Refuses c (c :: rest) .emptyQuote
  | foreign {c : Char} {rest : List Char} (solid : isBlank c = false)
      (operator : c ∉ operators) (unquoted : isQuote c = false)
      (other : isBareWordChar c = false) : Refuses c rest (.unexpectedChar c)

theorem not_mem_operators (plain : operator? c = none) : c ∉ operators := by
  intro among
  have found : operators.all (fun c => (operator? c).isSome) = true := by decide
  have mine := List.all_eq_true.mp found c among
  rw [plain] at mine
  cases mine

theorem Refuses.bare {f : Fault} (refuses : Refuses c rest f) : isBareWordChar c = false := by
  cases refuses with
  | unterminated quote | empty quote => exact bare_of_quote quote
  | foreign _ _ _ other => exact other

theorem scanFrom_of_refuses {f : Fault} (refuses : Refuses c rest f) (position : Nat) :
    scanFrom position (c :: rest) = .error ⟨f, position⟩ := by
  cases refuses with
  | unterminated quote inside =>
      obtain ⟨solid, plain⟩ := plain_of_quote quote
      have other (d : Char) (among : d ∈ rest) : (d != c) = true := by
        simp only [bne_iff_ne]
        rintro rfl
        exact inside among
      have missing : rest.dropWhile (· != c) = [] := by
        rw [← List.append_nil rest, List.dropWhile_append_of_pos other, List.dropWhile_nil]
      rw [scanFrom, if_neg (Bool.eq_false_iff.mp solid)]
      simp only [plain, quote, if_true]
      split
      · rfl
      · rename_i found
        cases missing.symm.trans found
  | @empty rest quote =>
      obtain ⟨solid, plain⟩ := plain_of_quote quote
      have found : (c :: rest).dropWhile (· != c) = c :: rest :=
        List.dropWhile_cons_of_neg (by simp)
      have taken : (c :: rest).takeWhile (· != c) = [] := List.takeWhile_cons_of_neg (by simp)
      rw [scanFrom, if_neg (Bool.eq_false_iff.mp solid)]
      simp only [plain, quote, if_true]
      split
      · rename_i missing
        cases found.symm.trans missing
      · rw [taken]
        rfl
  | foreign solid operator unquoted other =>
      rw [scanFrom, if_neg (Bool.eq_false_iff.mp solid)]
      simp only [operator?_eq_none operator, unquoted, other, Bool.false_eq_true, if_false]

theorem map_append {α : Type} (a : α) (as : List α) (result : Except ParseError (List α)) :
    (a :: ·) <$> (as ++ ·) <$> result = (a :: as ++ ·) <$> result := by
  cases result with
  | error e => rfl
  | ok bs => rfl

/-- The tokens of a text stand in front of those of what follows, unless a word goes on. -/
theorem scanFrom_append (scans : Scans position cs ts) (stop : EndsWord rest) :
    scanFrom position (cs ++ rest) = (ts ++ ·) <$> scanFrom (position + textSize cs) rest := by
  induction scans with
  | nil position =>
      rw [List.nil_append, textSize, Nat.add_zero]
      cases scanFrom position rest with
      | error e => rfl
      | ok us => rfl
  | blank blank _ ih =>
      rw [List.cons_append, scanFrom_blank blank, ih, textSize, Nat.add_assoc]
  | operator operator _ ih =>
      rw [List.cons_append, scanFrom_operator operator, ih, map_append, textSize, Nat.add_assoc]
  | @quoted position c text after ts quote nonempty inside _ ih =>
      have size : textSize (c :: (text ++ c :: after)) =
          textSize text + 2 * c.utf8Size + textSize after := by
        rw [textSize, textSize_append, textSize]
        omega
      rw [List.cons_append, List.append_assoc, List.cons_append,
        scanFrom_quoted quote nonempty inside, ih, map_append, size, ← Nat.add_assoc,
        ← Nat.add_assoc]
  | word nonempty bare ended _ ih =>
      rw [List.append_assoc, scanFrom_word nonempty bare (ended.append stop), ih, map_append,
        textSize_append, Nat.add_assoc]

theorem map_eq_error {α β : Type} {f : α → β} {result : Except ParseError α} {e : ParseError} :
    f <$> result = .error e ↔ result = .error e := by
  cases result with
  | error e => simp [Functor.map, Except.map]
  | ok a => simp [Functor.map, Except.map]

/-- Where a text without tokens is refused, and why: up to there it has tokens. -/
theorem exists_of_scanFrom {e : ParseError} (failed : scanFrom position cs = .error e) :
    ∃ before c after ts, cs = before ++ c :: after ∧ Scans position before ts ∧
      e.position = position + textSize before ∧ Refuses c after e.fault := by
  fun_induction scanFrom position cs
  case case1 => cases failed
  case case2 position c rest blank ih =>
      obtain ⟨before, d, after, ts, rfl, scans, place, refuses⟩ := ih failed
      refine ⟨c :: before, d, after, ts, rfl, .blank blank scans, ?_, refuses⟩
      rw [place, textSize, Nat.add_assoc]
  case case3 position c rest solid t operator ih =>
      obtain ⟨before, d, after, ts, rfl, scans, place, refuses⟩ := ih (map_eq_error.mp failed)
      refine ⟨c :: before, d, after, _, rfl, .operator operator scans, ?_, refuses⟩
      rw [place, textSize, Nat.add_assoc]
  case case4 position c rest solid plain quote found =>
      cases failed
      refine ⟨[], c, rest, [], rfl, .nil position, rfl, .unterminated quote fun inside => ?_⟩
      have other := List.dropWhile_eq_nil_iff.mp found c inside
      simp at other
  case case5 position c rest solid plain quote text d after found empty =>
      cases failed
      obtain ⟨parts, _⟩ := exists_of_quoted found
      have bare : rest.takeWhile (· != c) = [] := List.isEmpty_iff.mp empty
      rw [bare, List.nil_append] at parts
      rw [parts]
      exact ⟨[], c, _, [], rfl, .nil position, rfl, .empty quote⟩
  case case6 position c rest solid plain quote text d after found nonempty shorter ih =>
      obtain ⟨parts, inside⟩ := exists_of_quoted found
      have full : text ≠ [] := fun missing => nonempty (List.isEmpty_iff.mpr missing)
      obtain ⟨before, d, after, ts, rfl, scans, place, refuses⟩ := ih (map_eq_error.mp failed)
      refine ⟨c :: (text ++ c :: before), d, after, _, ?_, .quoted quote full inside scans, ?_,
        refuses⟩
      · rw [parts, List.cons_append, List.append_assoc, List.cons_append]
      · rw [place, textSize, textSize_append, textSize]
        omega
  case case7 position c rest solid plain unquoted bare text shorter ih =>
      have parts : c :: rest = text ++ rest.dropWhile isBareWordChar := by
        rw [List.cons_append, List.takeWhile_append_dropWhile]
      have stop := endsWord_dropWhile rest
      obtain ⟨before, d, after, ts, split, scans, place, refuses⟩ := ih (map_eq_error.mp failed)
      have ended : EndsWord before := by
        rw [split] at stop
        cases before with
        | nil => rintro _ ⟨⟩
        | cons b before => exact fun b first => stop b first
      rw [parts, split, ← List.append_assoc]
      refine ⟨text ++ before, d, after, _, rfl, .word (List.cons_ne_nil _ _) ?_ ended scans, ?_,
        refuses⟩
      · intro d inside
        rcases List.mem_cons.mp inside with rfl | inside
        · exact bare
        · exact List.all_eq_true.mp List.all_takeWhile d inside
      · rw [place, textSize_append, Nat.add_assoc]
  case case8 position c rest solid plain unquoted other =>
      cases failed
      refine ⟨[], c, rest, [], rfl, .nil position, rfl, .foreign ?_ (not_mem_operators plain) ?_ ?_⟩
      · exact Bool.eq_false_iff.mpr solid
      · exact Bool.eq_false_iff.mpr unquoted
      · exact Bool.eq_false_iff.mpr other

theorem scanFrom_eq_error {e : ParseError} :
    scanFrom position cs = .error e ↔ ∃ before c after ts, cs = before ++ c :: after ∧
      Scans position before ts ∧ e.position = position + textSize before ∧
      Refuses c after e.fault := by
  constructor
  · exact exists_of_scanFrom
  · rintro ⟨before, c, after, ts, rfl, scans, place, refuses⟩
    rw [scanFrom_append scans (endsWord_cons refuses.bare), scanFrom_of_refuses refuses, ← place]
    rfl

/-- The scanner is lossless and maximal. A text has tokens exactly if it is put together from white
space and the texts of tokens. Their places ascend; the texts of the tokens at their places and the
white space between them make up the text; and no character of a word stands next to a word. If it
has none, the scanner stops behind a text with tokens at a character that opens a quoted text
without an end or without content, or that is in no token; and whenever a text with tokens is
followed by such a character, the scanner stops there. -/
theorem scan_lossless (text : String) :
    ((∃ ts, scan text.toList = .ok ts) ↔ Segmented text.toList) ∧
    (∀ ts, scan text.toList = .ok ts →
      ts.Pairwise (fun p q => p.position < q.position) ∧ Layout 0 text.toList ts ∧
      ∀ p ∈ ts, Occurs text.toList p) ∧
    ∀ e, scan text.toList = .error e ↔
      ∃ before c after ts, text.toList = before ++ c :: after ∧ scan before = .ok ts ∧
        e.position = (String.ofList before).utf8ByteSize ∧ Refuses c after e.fault := by
  refine ⟨?_, ?_, ?_⟩
  · constructor
    · rintro ⟨ts, scanned⟩
      exact (scanFrom_eq_ok.mp scanned).segmented
    · intro segmented
      obtain ⟨ts, scans⟩ := segmented.scannable 0
      exact ⟨ts, scanFrom_eq_ok.mpr scans⟩
  · intro ts scanned
    have scans := scanFrom_eq_ok.mp scanned
    refine ⟨scans.layout.ascending, scans.layout, ?_⟩
    exact scans.occurs [] rfl (.inl (by rintro c ⟨⟩))
  · intro e
    rw [scan, scanFrom_eq_error]
    simp only [scan, scanFrom_eq_ok, textSize_eq, Nat.zero_add]

end ImageSearch.Query
