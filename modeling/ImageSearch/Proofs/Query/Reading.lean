import ImageSearch.Proofs.Query.Acceptance
import ImageSearch.Proofs.Query.Scanning
import ImageSearch.Query.Match

set_option autoImplicit false

namespace ImageSearch.Query

open ImageSearch.Text

theorem scan_of_tokenized {cs : List Char} {ts : List Token} (whole : Tokenized cs ts) :
    ∃ placed, scan cs = .ok placed ∧ ts = placed.map Placed.token := by
  obtain ⟨placed, scans, same⟩ := whole 0
  exact ⟨placed, scanFrom_of_scans scans, same.symm⟩

/-- The tokens of a query text, letter case removed, are those of a derivation. -/
def Derives (source : String) (d : Derivation .or) : Prop :=
  ∃ ts, scan (lower source.toList) = .ok ts ∧ d.tokens = ts.map Placed.token

variable {source : String} {d e : Derivation .or}

theorem Derives.unique (first : Derives source d) (second : Derives source e) : d = e := by
  obtain ⟨ts, scanned, same⟩ := first
  obtain ⟨us, scanned', same'⟩ := second
  have together : ts = us := Except.ok.inj (scanned.symm.trans scanned')
  apply d.eq_of_tokens e
  rw [same, same', together]

/-- The text in front of another one keeps its tokens, unless a word goes on. -/
theorem Derives.tokenized_append (derives : Derives source d) {rest : List Char}
    {us : List Token} (stop : EndsWord rest) (later : Tokenized rest us) :
    Tokenized (lower source.toList ++ rest) (d.tokens ++ us) := by
  obtain ⟨ts, scanned, same⟩ := derives
  rw [same]
  exact (scans_of_scanFrom scanned).tokenized_append stop later

/-- Within the limits the text is a query with the tree of its derivation. -/
theorem Derives.parse (derives : Derives source d) :
    (d.Fits 0 → Query.parse source = .ok ⟨source, d.tree⟩) ∧
      (¬ d.Fits 0 → TooDeep (Query.parse source)) := by
  obtain ⟨ts, scanned, same⟩ := derives
  rw [← toList_lowerString] at scanned
  have parts : Query.parse source =
      (parseTokens ts (textSize (lowerString source).toList) >>= fun root => .ok ⟨source, root⟩) := by
    rw [Query.parse, parseText_of_scan scanned]
    rfl
  obtain ⟨good, bad⟩ := parseTokens_of_derivation same.symm (textSize (lowerString source).toList)
  rw [parts]
  constructor
  · intro fits
    rw [good fits]
    rfl
  · intro exceeds
    exact (bad exceeds).bind _

theorem exists_derives {query : Query} (parsed : Query.parse source = .ok query) :
    ∃ d, Derives source d ∧ d.Fits 0 ∧ query = ⟨source, d.tree⟩ := by
  obtain ⟨root, read, rest⟩ := bind_eq_ok.mp parsed
  obtain ⟨ts, scanned, tokens⟩ := bind_eq_ok.mp read
  obtain ⟨d, same, rfl, fits⟩ := parseTokens_eq_ok.mp tokens
  rw [toList_lowerString] at scanned
  exact ⟨d, ⟨ts, scanned, same⟩, fits, (Except.ok.inj rest).symm⟩

/-- The documents that a query text selects, or its refusal. -/
theorem Derives.search (derives : Derives source d) (documents : List Document) :
    (d.Fits 0 → ImageSearch.search documents source = .ok (documents.filter d.tree.holds)) ∧
      (¬ d.Fits 0 → TooDeep (ImageSearch.search documents source)) := by
  obtain ⟨good, bad⟩ := derives.parse
  constructor
  · intro fits
    rw [ImageSearch.search, good fits]
    rfl
  · intro exceeds
    exact (bad exceeds).bind _

end ImageSearch.Query
