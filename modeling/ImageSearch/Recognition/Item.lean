import ImageSearch.Json.Decode

set_option autoImplicit false

namespace ImageSearch.Recognition

open ImageSearch.Json

abbrev Point := Float × Float

structure Bounds where
  minX : Float
  minY : Float
  maxX : Float
  maxY : Float
  deriving Repr

/-- The smaller number, the first one of two that are not apart. -/
def lesser (a b : Float) : Float := if b < a then b else a

def greater (a b : Float) : Float := if a < b then b else a

def Bounds.extend (box : Bounds) (p : Point) : Bounds :=
  ⟨lesser box.minX p.1, lesser box.minY p.2, greater box.maxX p.1, greater box.maxY p.2⟩

def bounds? : List Point → Option Bounds
  | [] => none
  | first :: rest =>
    some ((first :: rest).foldl Bounds.extend ⟨first.1, first.2, first.1, first.2⟩)

structure Item where
  text : String
  confidence : Float
  /-- The corners of a polygon around the text. -/
  region : List Point
  deriving Repr

/-- The region may go by another name or be absent. -/
def Item.schema : Schema Item where
  label := "struct RecognizedText"
  strict := false
  fields := [
    ⟨["text"], true, fun source d item => do
      return { item with text := ← decodeString "a string" source d }⟩,
    ⟨["confidence"], true, fun source d item => do
      return { item with confidence := ← decodeFloat source d }⟩,
    ⟨["region", "bbox"], false, fun source d item => do
      return { item with region := ← decodeList (decodePair decodeFloat) source d }⟩]

def Item.decoder : Decoder Item := Item.schema.decode ⟨"", 0, []⟩

end ImageSearch.Recognition
