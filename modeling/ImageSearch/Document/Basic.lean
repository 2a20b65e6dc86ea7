import ImageSearch.Document.Words
import ImageSearch.Json.Decode
import ImageSearch.Path
import ImageSearch.Recognition.Item

set_option autoImplicit false

namespace ImageSearch

open Json Recognition

structure Document where
  identifier : String
  path : Path
  words : WordSet
  deriving DecidableEq

namespace Document

def ofWords (identifier : String) (path : Path) (words : List String) : Document :=
  ⟨identifier, path, WordSet.ofList (words.map Text.lowerString)⟩

def joinedText (items : List Item) : List Char :=
  List.intercalate [' '] (items.map (·.text.toList))

/-- The document of an image, none when nothing but white space was recognised. -/
def ofRecognition (path : Path) (items : List Item) : Option Document :=
  let text := joinedText items
  if Text.isBlankText text then none
  else
    some (ofWords (path.fileName?.getD path.text) path ((extractWords text).map String.ofList))

/-- Membership of a word that is in lower case already. -/
def contains (d : Document) (word : String) : Bool := d.words.contains word

/-- Places are compared component by component. -/
def same (a b : Document) : Bool :=
  a.identifier == b.identifier && a.path.same b.path && a.words.toList == b.words.toList

def toJson (d : Document) : Value :=
  .object [
    ("fileName", .string d.identifier),
    ("filePath", .string d.path.text),
    ("words", .array (d.words.toList.map .string))]

def schema : Schema Document where
  label := "struct Document"
  strict := false
  fields := [
    ⟨["fileName"], true, fun source d doc => do
      return { doc with identifier := ← decodeString "a string" source d }⟩,
    ⟨["filePath"], true, fun source d doc => do
      return { doc with path := ⟨← decodeString "path string" source d⟩ }⟩,
    ⟨["words"], true, fun source d doc => do
      let words ← decodeList (decodeString "a string") source d
      return { doc with words := WordSet.ofList (words.map Text.lowerString) }⟩]

def decoder : Decoder Document := schema.decode ⟨"", ⟨""⟩, WordSet.empty⟩

end Document

end ImageSearch
