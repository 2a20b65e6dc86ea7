import ImageSearch.Json.Decode
import ImageSearch.Proofs.Results

set_option autoImplicit false

namespace ImageSearch.Json

namespace Schema

variable {σ : Type} {s : Schema σ} {P : σ → Prop}

/-- No field breaks a property of the record. -/
def Keeps (s : Schema σ) (P : σ → Prop) : Prop :=
  ∀ field ∈ s.fields, ∀ source draft record record',
    P record → field.put source draft record = .ok record' → P record'

theorem Keeps.readMembers (keeps : s.Keeps P) {source : Source}
    {members : List (Option String × Draft)} {seen seen' : List String} {record record' : σ}
    (holds : P record) (read : s.readMembers source seen record members = .ok (seen', record')) :
    P record' := by
  induction members generalizing seen record with
  | nil =>
      cases read
      exact holds
  | cons member rest ih =>
      obtain ⟨_ | key, value⟩ := member
      · cases read
      · rw [Schema.readMembers] at read
        split at read
        · rename_i field found
          split at read
          · cases read
          · obtain ⟨next, put, later⟩ := bind_eq_ok.mp read
            exact ih (keeps field (List.mem_of_find?_eq_some found) _ _ _ _ holds put) later
        · split at read
          · cases read
          · split at read
            · exact ih holds read
            · cases read

theorem Keeps.readItems (keeps : s.Keeps P) {source : Source} {closed : Bool} {index : Nat}
    {fields : List (Field σ)} (among : ∀ field ∈ fields, field ∈ s.fields)
    {items extra : List Draft} {record record' : σ} (holds : P record)
    (read : s.readItems source closed index record fields items = .ok (extra, record')) :
    P record' := by
  induction fields generalizing index items record with
  | nil =>
      cases read
      exact holds
  | cons field fields ih =>
      have others := fun other mem => among other (List.mem_cons_of_mem field mem)
      cases items with
      | cons item items =>
          obtain ⟨next, put, later⟩ := bind_eq_ok.mp read
          exact ih others (keeps field (among field List.mem_cons_self) _ _ _ _ holds put) later
      | nil =>
          rw [Schema.readItems] at read
          split at read
          · cases read
          · split at read
            · cases read
            · exact ih others holds read

/-- A record that is read has every property that the empty one has and no field breaks. -/
theorem Keeps.decode (keeps : s.Keeps P) {empty record : σ} (holds : P empty) {source : Source}
    {draft : Draft} (decoded : s.decode empty source draft = .ok record) : P record := by
  unfold Schema.decode at decoded
  split at decoded
  · obtain ⟨inner, _, entered⟩ := bind_eq_ok.mp decoded
    obtain ⟨⟨seen, read⟩, members, checked⟩ := bind_eq_ok.mp entered
    have whole := keeps.readMembers holds members
    simp only [bind, Except.bind] at checked
    split at checked
    · cases checked
    · split at checked
      · cases checked
      · cases checked
        exact whole
  · obtain ⟨inner, _, entered⟩ := bind_eq_ok.mp decoded
    obtain ⟨⟨extra, read⟩, items, checked⟩ := bind_eq_ok.mp entered
    have whole := keeps.readItems (fun _ mem => mem) holds items
    simp only [bind, Except.bind] at checked
    split at checked
    · cases checked
    · split at checked
      · cases checked
      · cases checked
        exact whole
  · cases decoded

theorem readMembers_cons {source : Source} {seen : List String} {record next : σ} {key : String}
    {value : Draft} {field : Field σ} (found : s.fields.find? (·.names.contains key) = some field)
    (fresh : seen.contains field.name = false) (put : field.put source value record = .ok next)
    (rest : List (Option String × Draft)) :
    s.readMembers source seen record ((some key, value) :: rest) =
      s.readMembers source (field.name :: seen) next rest := by
  rw [readMembers]
  simp only [found, fresh, put]
  rfl

theorem decode_object {empty record : σ} {source inner : Source} {seen : List String}
    {members : List (Option String × Draft)} (enter : source.enter = .ok inner)
    (read : s.readMembers inner [] empty members = .ok (seen, record))
    (whole : s.fields.find? (fun f => f.required && !seen.contains f.name) = none) :
    s.decode empty source (.object members true) = .ok record := by
  rw [decode, enter]
  simp only [bind, Except.bind, read, whole]
  rfl

end Schema

theorem toDrafts_eq_map (values : List Value) : toDrafts values = values.map Value.toDraft := by
  induction values with
  | nil => rfl
  | cons value rest ih => rw [toDrafts, ih, List.map_cons]

/-- What a text is read as, a decoder has made. -/
theorem exists_of_decodeText {α : Type} {decoder : Decoder α} {text : String} {a : α}
    (read : decodeText decoder text = .ok a) : ∃ source draft, decoder source draft = .ok a := by
  obtain ⟨b, decoded, ended⟩ := bind_eq_ok.mp read
  split at ended
  · cases ended
    exact ⟨_, _, decoded⟩
  · cases ended

theorem exists_of_mem_decodeList {α : Type} {item : Decoder α} {source : Source} {draft : Draft}
    {xs : List α} (read : decodeList item source draft = .ok xs) {x : α} (mem : x ∈ xs) :
    ∃ inner part, item inner part = .ok x := by
  unfold decodeList at read
  split at read
  · obtain ⟨inner, _, items⟩ := bind_eq_ok.mp read
    obtain ⟨made, mapped, closed⟩ := bind_eq_ok.mp items
    split at closed
    · cases closed
      obtain ⟨part, _, decoded⟩ := exists_of_mem_mapM mapped mem
      exact ⟨inner, part, decoded⟩
    · cases closed
  · cases read

theorem decodeList_toDraft {α : Type} {item : Decoder α} {encode : α → Value} {xs : List α}
    {source inner : Source} (enter : source.enter = .ok inner)
    (undo : ∀ x ∈ xs, item inner (encode x).toDraft = .ok x) :
    decodeList item source (Value.array (xs.map encode)).toDraft = .ok xs := by
  have items : (toDrafts (xs.map encode)).mapM (item inner) = .ok xs := by
    rw [toDrafts_eq_map, List.map_map]
    exact mapM_map_eq_ok undo
  rw [Value.toDraft, decodeList, enter]
  simp only [bind, Except.bind, items]
  rfl

end ImageSearch.Json
