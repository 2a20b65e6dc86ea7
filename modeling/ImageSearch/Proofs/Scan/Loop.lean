import ImageSearch.Scan

set_option autoImplicit false

namespace ImageSearch

open Recognition

variable {σ : Type} {r : Recognizer σ} {always ready : σ → Prop}

/-- What a recogniser keeps: a property that always holds, and one that holds whenever an image may
be read, which is from a start that succeeds until the loss of a worker. -/
structure Upholds (r : Recognizer σ) (always ready : σ → Prop) : Prop where
  start : ∀ languages s, always s → always (r.start languages s).2
  started : ∀ languages s, always s → (r.start languages s).1 = .ok () →
    ready (r.start languages s).2
  read : ∀ path s, always s → ready s → always (r.read path s).2
  unlost : ∀ path s, always s → ready s →
    (∀ failure, (r.read path s).1 = .error failure → failure.isWorkerLost = false) →
    ready (r.read path s).2

theorem readImage_state (r : Recognizer σ) (path : Path) (s : σ) :
    (readImage r path s).2.2 = (r.read path s).2 := by
  unfold readImage
  split
  all_goals
    rename_i same
    rw [same]

theorem readImage_unlost {path : Path} {s : σ} (unlost : (readImage r path s).2.1 = false)
    (failure : Recognition.Failure) (failed : (r.read path s).1 = .error failure) :
    failure.isWorkerLost = false := by
  unfold readImage at unlost
  split at unlost
  · rename_i same
    rw [same] at failed
    cases failed
  · rename_i same
    rw [same] at failed
    cases failed
    exact unlost

theorem Upholds.readImage (upholds : Upholds r always ready) (path : Path) {s : σ}
    (holds : always s) (able : ready s) :
    always (readImage r path s).2.2 ∧
      ((readImage r path s).2.1 = false → ready (readImage r path s).2.2) := by
  rw [readImage_state]
  refine ⟨upholds.read path s holds able, ?_⟩
  intro unlost
  exact upholds.unlost path s holds able (readImage_unlost unlost)

theorem Upholds.readImages (upholds : Upholds r always ready) (languages : List String)
    (images : List Path) (lost : Bool) {s : σ} (holds : always s)
    (able : lost = false → ready s) : always (readImages r languages images lost s).recognizer := by
  induction images generalizing lost s with
  | nil => exact holds
  | cons path rest ih =>
      cases lost with
      | false =>
          obtain ⟨kept, later⟩ := upholds.readImage path holds (able rfl)
          exact ih _ kept later
      | true =>
          have kept := upholds.start languages s holds
          have started := upholds.started languages s holds
          unfold ImageSearch.readImages
          split
          · rename_i same
            rw [same] at kept
            exact kept
          · rename_i same
            rw [same] at kept started
            obtain ⟨kept, later⟩ := upholds.readImage path kept (started rfl)
            exact ih _ kept later

/-- What always holds holds after a scan. -/
theorem Upholds.buildIndex (upholds : Upholds r always ready) (languages : List String)
    (images : List Path) {s : σ} (holds : always s) :
    always (buildIndex r languages images s).recognizer := by
  have kept := upholds.start languages s holds
  have started := upholds.started languages s holds
  unfold ImageSearch.buildIndex
  split
  · rename_i same
    rw [same] at kept
    exact kept
  · rename_i same
    rw [same] at kept started
    exact upholds.readImages languages images false kept fun _ => started rfl

end ImageSearch
