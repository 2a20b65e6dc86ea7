import ImageSearch.Path
import ImageSearch.Recognition.Failure
import ImageSearch.Recognition.Item

set_option autoImplicit false

namespace ImageSearch.Recognition

/-- Anything that can turn images into text, as steps on a state of its own. -/
structure Recognizer (σ : Type) where
  /-- Loads the models for some languages. -/
  start : List String → σ → Except Failure Unit × σ
  read : Path → σ → Except Failure (List Item) × σ
  stop : σ → Except Failure Unit × σ

end ImageSearch.Recognition
