import ImageSearch.Document.Index
import ImageSearch.Proofs.Disk.Files
import ImageSearch.Proofs.Document.Words
import ImageSearch.Proofs.Json.Decoding
import ImageSearch.Proofs.Json.RoundTrip

set_option autoImplicit false

namespace ImageSearch

open Json Text

theorem writeText_of_writeJson {disk saved : Disk} {path : Path} {value : Value}
    (written : writeJson disk path value = .ok saved) :
    ∃ below : Disk, below.writeText path value.prettyText = .ok saved := by
  unfold writeJson at written
  simp only at written
  split at written
  · split at written
    · exact ⟨disk, inContext_eq_ok.mp written⟩
    · obtain ⟨below, _, stored⟩ := bind_eq_ok.mp written
      exact ⟨below, inContext_eq_ok.mp stored⟩
  · exact ⟨disk, inContext_eq_ok.mp written⟩

theorem writeJson_of_writeText {disk saved : Disk} {path : Path} {value : Value}
    (folders : ∀ parent, path.parent? = some parent → parent.text.isEmpty = false →
      disk.makeFolders parent = .ok disk)
    (written : disk.writeText path value.prettyText = .ok saved) :
    writeJson disk path value = .ok saved := by
  unfold writeJson
  simp only
  split
  · rename_i parent above
    split
    · exact inContext_eq_ok.mpr written
    · rename_i filled
      have made := folders parent above (Bool.eq_false_iff.mpr filled)
      exact bind_eq_ok.mpr ⟨disk, inContext_eq_ok.mpr made, inContext_eq_ok.mpr written⟩
  · exact inContext_eq_ok.mpr written

namespace Document

def Lowered (d : Document) : Prop := ∀ w ∈ d.words.toList, lowerString w = w

/-- The ways to make a document. -/
inductive Made : Document → Prop where
  | ofWords (identifier : String) (path : Path) (words : List String) :
    Made (ofWords identifier path words)
  | ofRecognition {path : Path} {items : List Recognition.Item} {d : Document}
    (recognised : ofRecognition path items = some d) : Made d
  | decoded {source : Source} {draft : Draft} {d : Document}
    (read : decoder source draft = .ok d) : Made d

theorem lowered_of_words {words : List String} {w : String}
    (mem : w ∈ (WordSet.ofList (words.map lowerString)).toList) : lowerString w = w := by
  obtain ⟨v, _, rfl⟩ := List.mem_map.mp (WordSet.mem_ofList.mp mem)
  exact lowerString_lowerString v

/-- The words of a document are lowered when they are put into it; the other fields leave them. -/
theorem schema_keeps_lowered : schema.Keeps Lowered := by
  intro field mem source draft d d' lowered put
  simp only [schema, List.mem_cons, List.not_mem_nil, or_false] at mem
  rcases mem with rfl | rfl | rfl
  · obtain ⟨identifier, _, rest⟩ := bind_eq_ok.mp put
    cases rest
    exact lowered
  · obtain ⟨path, _, rest⟩ := bind_eq_ok.mp put
    cases rest
    exact lowered
  · obtain ⟨words, _, rest⟩ := bind_eq_ok.mp put
    cases rest
    exact fun w among => lowered_of_words among

theorem Made.lowered {d : Document} (made : d.Made) : d.Lowered := by
  cases made with
  | ofWords identifier path words => exact fun w mem => lowered_of_words mem
  | ofRecognition recognised =>
      simp only [Document.ofRecognition, Option.ite_none_left_eq_some, Option.some.injEq]
        at recognised
      obtain ⟨_, rfl⟩ := recognised
      exact fun w mem => lowered_of_words mem
  | decoded read =>
      exact schema_keeps_lowered.decode (fun w missing => absurd missing List.not_mem_nil) read

/-- A document with lowered words is read back from its own JSON. -/
theorem decoder_toJson {d : Document} (lowered : d.Lowered) {source inner last : Source}
    (enter : source.enter = .ok inner) (enter' : inner.enter = .ok last) :
    decoder source d.toJson.toDraft = .ok d := by
  have words : decodeList (decodeString "a string") inner
      (Value.array (d.words.toList.map .string)).toDraft = .ok d.words.toList :=
    decodeList_toDraft enter' fun _ _ => rfl
  have stored : WordSet.ofList (d.words.toList.map lowerString) = d.words := by
    rw [List.map_congr_left lowered, List.map_id', WordSet.ofList_toList]
  have put : (do
      let words ← decodeList (decodeString "a string") inner
        (Value.array (d.words.toList.map .string)).toDraft
      return { d with words := WordSet.ofList (words.map lowerString) }) =
        (.ok d : Except DecodeError Document) := by
    rw [words]
    show (.ok { d with words := _ } : Except DecodeError Document) = .ok d
    rw [stored]
  have members : schema.readMembers inner [] ⟨"", ⟨""⟩, WordSet.empty⟩
      (toDraftMembers [("fileName", .string d.identifier), ("filePath", .string d.path.text),
        ("words", .array (d.words.toList.map .string))]) =
        .ok (["words", "filePath", "fileName"], d) := by
    rw [toDraftMembers, Schema.readMembers_cons rfl rfl rfl, toDraftMembers,
      Schema.readMembers_cons rfl rfl rfl, toDraftMembers, Schema.readMembers_cons rfl rfl put]
    rfl
  exact Schema.decode_object enter members rfl

theorem numberless_toJson (d : Document) : d.toJson.numberless = true := by
  have words : (Value.array (d.words.toList.map .string)).numberless = true :=
    numberless_array_map fun _ _ => rfl
  show (true && (true && ((Value.array (d.words.toList.map .string)).numberless && true))) = true
  rw [words]
  rfl

end Document

namespace Index

/-- The ways to make an index: none, one document more, any documents at once, and a file. -/
inductive Made : Index → Prop where
  | new : Made []
  | push {documents : Index} {d : Document} (made : Made documents) (made' : d.Made) :
    Made (documents ++ [d])
  | collect {documents : List Document} (made : ∀ d ∈ documents, d.Made) : Made documents
  | load {disk : Disk} {path : Path} {documents : Index}
    (loaded : load disk path = .ok documents) : Made documents

theorem made_of_ofText {text : String} {documents : Index} (read : ofText text = .ok documents) :
    ∀ d ∈ documents, d.Made := by
  intro d mem
  obtain ⟨source, draft, listed⟩ := exists_of_decodeText read
  obtain ⟨inner, part, decoded⟩ := exists_of_mem_decodeList listed mem
  exact .decoded decoded

theorem Made.documents {documents : Index} (made : documents.Made) : ∀ d ∈ documents, d.Made := by
  induction made with
  | new => exact fun d missing => absurd missing List.not_mem_nil
  | push _ made' ih =>
      intro d mem
      rcases List.mem_append.mp mem with mem | mem
      · exact ih d mem
      · rw [List.mem_singleton.mp mem]
        exact made'
  | collect made => exact made
  | load loaded =>
      obtain ⟨text, _, parsed⟩ := bind_eq_ok.mp loaded
      exact made_of_ofText (inContext_eq_ok.mp parsed)

/-- The text of an index reads back as the index. -/
theorem ofText_prettyText {documents : Index} (lowered : ∀ d ∈ documents, d.Lowered) :
    ofText (toJson documents).prettyText = .ok documents := by
  have numberless : (toJson documents).numberless = true :=
    numberless_array_map fun d _ => d.numberless_toJson
  rw [ofText, decodeText_prettyText _ numberless]
  exact decodeList_toDraft rfl fun d mem => Document.decoder_toJson (lowered d mem) rfl rfl

/-- Persistence is lossless. -/
theorem load_save {documents : Index} (made : documents.Made) :
    (∀ d ∈ documents, ∀ w ∈ d.words.toList, lowerString w = w) ∧
      ofText (toJson documents).prettyText = .ok documents ∧
      ∀ (disk saved : Disk) (path : Path), save documents disk path = .ok saved →
        saved.readText path = .ok (toJson documents).prettyText ∧
        ∃ loaded, load saved path = .ok loaded ∧ loaded = documents ∧
          save loaded saved path = .ok saved ∧
          ∀ (disk' saved' : Disk) (path' : Path), save loaded disk' path' = .ok saved' →
            saved'.readText path' = .ok (toJson documents).prettyText := by
  have lowered : ∀ d ∈ documents, d.Lowered := fun d mem => (made.documents d mem).lowered
  have parsed := ofText_prettyText lowered
  refine ⟨lowered, parsed, fun disk saved path written => ?_⟩
  obtain ⟨below, file⟩ := writeText_of_writeJson written
  have text := Disk.readText_writeText file
  refine ⟨text, documents, ?_, rfl, ?_, fun disk' saved' path' again => ?_⟩
  · rw [load]
    exact bind_eq_ok.mpr ⟨_, inContext_eq_ok.mpr text, inContext_eq_ok.mpr parsed⟩
  · exact writeJson_of_writeText (fun parent above filled =>
      Disk.makeFolders_parent file above filled) (Disk.writeText_writeText file)
  · obtain ⟨_, file'⟩ := writeText_of_writeJson again
    exact Disk.readText_writeText file'

/-- Quotes, backslashes, control characters and capitals in every field. -/
theorem load_save_escaped :
    let documents : Index := [Document.ofWords "a\"b.png" ⟨"/c\\d\x01/a\"b.png"⟩ ["Über", "\n\"Σ"]]
    documents.Made ∧ ∃ saved, save documents ⟨.folder [], []⟩ ⟨"index.json"⟩ = .ok saved ∧
      saved.readText ⟨"index.json"⟩ = .ok (toJson documents).prettyText ∧
      load saved ⟨"index.json"⟩ = .ok documents := by
  intro documents
  have made : documents.Made := .collect fun d mem => by
    rw [List.mem_singleton.mp mem]
    exact .ofWords _ _ _
  have written : ∃ saved, save documents ⟨.folder [], []⟩ ⟨"index.json"⟩ = .ok saved := ⟨_, rfl⟩
  obtain ⟨saved, written⟩ := written
  obtain ⟨_, _, kept⟩ := load_save made
  obtain ⟨text, loaded, back, same, _⟩ := kept _ _ _ written
  exact ⟨made, saved, written, text, same ▸ back⟩

end Index

end ImageSearch
