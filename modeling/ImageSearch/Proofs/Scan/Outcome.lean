import ImageSearch.Proofs.Document.Persistence
import ImageSearch.Proofs.Scan.Calls
import ImageSearch.Scan

set_option autoImplicit false

namespace ImageSearch

open Recognition

def Deed.isUse : Deed → Bool
  | .start _ | .read _ => true
  | .stop | .write _ => false

def Deed.isWrite : Deed → Bool
  | .write _ => true
  | .start _ | .read _ | .stop => false

theorem Deed.isWrite_of_isUse {deed : Deed} (use : deed.isUse = true) : deed.isWrite = false := by
  cases deed with
  | start | read | stop => rfl
  | write => cases use

variable {σ : Type}

/-- The recogniser with a record of what is asked of it, the stop included, oldest first. -/
def Recognition.Recognizer.watched (r : Recognizer σ) : Recognizer (σ × List Deed) where
  start languages s :=
    let (answer, next) := r.start languages s.1
    (answer, next, s.2 ++ [.start languages])
  read path s :=
    let (answer, next) := r.read path s.1
    (answer, next, s.2 ++ [.read path])
  stop s :=
    let (answer, next) := r.stop s.1
    (answer, next, s.2 ++ [.stop])

variable {r : Recognizer σ} {c : Configuration} {query : Option String} {disk : Disk} {s : σ}

/-- Why a scan fails before it writes anything; the flag tells that the recogniser was used. -/
inductive Setback (r : Recognizer σ) (c : Configuration) (query : Option String) (disk : Disk)
    (s : σ) : Bool → Failure → Prop
  | query {text : String} {error : Query.ParseError} (given : query = some text)
    (refused : Query.parse text = .error error) :
    Setback r c query disk s false ⟨[s!"Invalid query: {text}"], .query error⟩
  | folders {parsed : Option Query} (accepted : query.mapM parseQuery = .ok parsed)
    (missing : disk.imageFolders c.scan = []) :
    Setback r c query disk s false
      (.stated s!"No '{c.scan.folderName}' folders found under {c.scan.baseDir.text}")
  | images {parsed : Option Query} (accepted : query.mapM parseQuery = .ok parsed)
    (somewhere : disk.imageFolders c.scan ≠ [])
    (missing : disk.images (disk.imageFolders c.scan) c.scan.extensions = []) :
    Setback r c query disk s false
      (.stated s!"No images found in {(disk.imageFolders c.scan).length} folder(s)")
  | start {parsed : Option Query} {images : List Path} {failure : Recognition.Failure}
    (accepted : query.mapM parseQuery = .ok parsed) (found : findImages disk c.scan = .ok images)
    (failed : (r.start c.worker.languages s).1 = .error failure) :
    Setback r c query disk s true ⟨[], .recognition failure⟩
  | text {parsed : Option Query} {images : List Path}
    (accepted : query.mapM parseQuery = .ok parsed) (found : findImages disk c.scan = .ok images)
    (blank : (buildIndex r c.worker.languages images s).index = .ok []) :
    Setback r c query disk s true
      (.stated s!"No text recognized in any of {images.length} image(s)")

/-- The documents that the query of a scan selects; without a query there are none. -/
inductive Selected (index : Index) : Option String → List Document → Prop
  | none : Selected index none []
  | some {text : String} {query : Query} (parsed : Query.parse text = .ok query) :
    Selected index (some text) (index.filter query.selects)

/-- The writes that turn one disk into another: the index, and after it the selected documents if
there are any. -/
inductive Saves (output : OutputSettings) (index found : Index) (disk : Disk) :
    List Deed → Disk → Prop
  | index {saved : Disk} (stored : Index.save index disk output.indexFile = .ok saved)
    (text : saved.readText output.indexFile = .ok (Index.toJson index).prettyText)
    (nothing : found = []) : Saves output index found disk [.write output.indexFile] saved
  | results {saved after : Disk} (stored : Index.save index disk output.indexFile = .ok saved)
    (text : saved.readText output.indexFile = .ok (Index.toJson index).prettyText)
    (something : found ≠ []) (stored' : Index.save found saved output.resultsFile = .ok after)
    (text' : after.readText output.resultsFile = .ok (Index.toJson found).prettyText) :
    Saves output index found disk [.write output.indexFile, .write output.resultsFile] after

section Recording

/-- The stop of a recogniser has no part in the reading of images. -/
theorem readImages_anyStop (stop : σ → Except Recognition.Failure Unit × σ)
    (languages : List String) (images : List Path) (lost : Bool) (s : σ) :
    readImages { r with stop := stop } languages images lost s =
      readImages r languages images lost s := by
  induction images generalizing lost s with
  | nil => rfl
  | cons path rest ih =>
      cases lost with
      | false =>
          rw [readImages, readImages]
          simp only [readImage, ih]
      | true =>
          rw [readImages, readImages]
          simp only [readImage, ih]

theorem buildIndex_anyStop (stop : σ → Except Recognition.Failure Unit × σ)
    (languages : List String) (images : List Path) (s : σ) :
    buildIndex { r with stop := stop } languages images s = buildIndex r languages images s := by
  simp only [buildIndex, readImages_anyStop]

theorem readImage_watched (path : Path) (s : σ) (before : List Deed) :
    readImage r.watched path (s, before) =
      ((readImage r path s).1, (readImage r path s).2.1, (readImage r path s).2.2,
        before ++ [.read path]) := by
  rw [readImage_eq, readImage_eq]
  rfl

/-- What is noted of the reading of images is what the reading tells of itself. -/
theorem readImages_watched (languages : List String) (images : List Path) (lost : Bool) (s : σ)
    (before : List Deed) :
    let reading := readImages r languages images lost s
    readImages r.watched languages images lost (s, before) =
      ⟨reading.documents, (reading.recognizer, before ++ reading.deeds), reading.deeds⟩ := by
  induction images generalizing lost s before with
  | nil => simp [readImages]
  | cons path rest ih =>
      cases lost with
      | false => simp [readImages, readImage_watched, ih]
      | true =>
          have started : r.watched.start languages (s, before) =
              ((r.start languages s).1, (r.start languages s).2, before ++ [.start languages]) :=
            rfl
          simp only [readImages, started]
          cases r.start languages s with
          | mk answer next =>
              cases answer with
              | error => rfl
              | ok => simp [readImage_watched, ih]

theorem buildIndex_watched (languages : List String) (images : List Path) (s : σ) :
    let built := buildIndex r languages images s
    buildIndex r.watched languages images (s, []) =
      ⟨built.index, (built.recognizer, built.deeds), built.deeds⟩ := by
  have started : r.watched.start languages (s, []) =
      ((r.start languages s).1, (r.start languages s).2, [.start languages]) := rfl
  simp only [buildIndex, started]
  cases r.start languages s with
  | mk answer next =>
      cases answer with
      | error => rfl
      | ok => simp [readImages_watched]

/-- An index is built by a first start and by further uses. -/
theorem buildIndex_uses (languages : List String) (images : List Path) (s : σ) :
    (buildIndex r languages images s).deeds ≠ [] ∧
      ∀ deed ∈ (buildIndex r languages images s).deeds, deed.isUse = true := by
  have uses (calls : List Call) : ∀ deed ∈ calls.map Call.deed, deed.isUse = true := by
    intro deed member
    obtain ⟨call, _, rfl⟩ := List.mem_map.mp member
    cases call with
    | start => rfl
    | read => rfl
  cases outcome : r.start languages s with
  | mk answer next =>
      cases answer with
      | error failure =>
          rw [(buildIndex_failed outcome images).1]
          exact ⟨List.cons_ne_nil _ _, uses [.start languages (.error failure)]⟩
      | ok =>
          obtain ⟨visits, halt, _, _, deeds, _⟩ := buildIndex_started outcome images
          rw [deeds]
          exact ⟨List.cons_ne_nil _ _, uses _⟩

end Recording

section Storing

variable {output : OutputSettings} {index : Index} {images : Nat} {path : Path}
  {attempt : Except Failure Disk} {next : Disk → Stored}

theorem Stored.write_writes
    (later : ∀ saved, ∀ deed ∈ (next saved).deeds, deed.isWrite = true) :
    ∀ deed ∈ (Stored.write disk path attempt next).deeds, deed.isWrite = true := by
  cases attempt with
  | error => exact List.forall_mem_singleton.mpr rfl
  | ok saved => exact List.forall_mem_cons.mpr ⟨rfl, later saved⟩

theorem Stored.mem_write : .write path ∈ (Stored.write disk path attempt next).deeds := by
  cases attempt with
  | error => exact List.mem_singleton_self _
  | ok => exact List.mem_cons_self

theorem Stored.write_ok (stored : (Stored.write disk path attempt next).result = .ok ()) :
    ∃ saved, attempt = .ok saved ∧ (next saved).result = .ok () ∧
      Stored.write disk path attempt next =
        ⟨.ok (), (next saved).disk, .write path :: (next saved).deeds⟩ := by
  cases attempt with
  | error => cases stored
  | ok saved =>
      have rest : (next saved).result = .ok () := stored
      exact ⟨saved, rfl, rest, by rw [← rest]; rfl⟩

theorem storeMatches_eq (parsed : Option Query) :
    storeMatches output parsed index disk =
      if parsed.elim [] (·.filter index) = [] then ⟨.ok (), disk, []⟩
      else Stored.write disk output.resultsFile
        (Index.save (parsed.elim [] (·.filter index)) disk output.resultsFile)
        fun disk => ⟨.ok (), disk, []⟩ := by
  cases parsed with
  | none => rfl
  | some q =>
      by_cases nothing : q.filter index = []
      · simp [storeMatches, nothing]
      · simp [storeMatches, nothing]

theorem storeIndex_eq (parsed : Option Query) :
    storeIndex output parsed images index disk =
      if index = [] then
        ⟨.error (.stated s!"No text recognized in any of {images} image(s)"), disk, []⟩
      else Stored.write disk output.indexFile (Index.save index disk output.indexFile)
        (storeMatches output parsed index) := by
  simp only [storeIndex, List.isEmpty_iff]

theorem storeIndex_writes (parsed : Option Query) :
    ∀ deed ∈ (storeIndex output parsed images index disk).deeds, deed.isWrite = true := by
  rw [storeIndex_eq]
  split
  · exact List.forall_mem_nil _
  · refine Stored.write_writes fun saved => ?_
    rw [storeMatches_eq]
    split
    · exact List.forall_mem_nil _
    · exact Stored.write_writes fun _ => List.forall_mem_nil _

theorem readText_save {documents : Index} {saved : Disk}
    (stored : Index.save documents disk path = .ok saved) :
    saved.readText path = .ok (Index.toJson documents).prettyText := by
  obtain ⟨_, written⟩ := writeText_of_writeJson stored
  exact Disk.readText_writeText written

/-- What is stored if all goes well. -/
theorem storeIndex_ok {parsed : Option Query} {after : Disk} {deeds : List Deed}
    (stored : storeIndex output parsed images index disk = ⟨.ok (), after, deeds⟩) :
    Saves output index (parsed.elim [] (·.filter index)) disk deeds after := by
  rw [storeIndex_eq] at stored
  split at stored
  · cases stored
  · obtain ⟨saved, wrote, rest, whole⟩ := Stored.write_ok (congrArg Stored.result stored)
    rw [whole] at stored
    rw [storeMatches_eq] at rest stored
    split at rest
    · rename_i nothing
      rw [if_pos nothing] at stored
      cases stored
      exact .index wrote (readText_save wrote) nothing
    · rename_i something
      obtain ⟨last, wrote', _, whole'⟩ := Stored.write_ok rest
      rw [if_neg something, whole'] at stored
      cases stored
      exact .results wrote (readText_save wrote) something wrote' (readText_save wrote')

end Storing

section Stages

variable {parsed : Option Query} {images : List Path}

theorem selected_of_parsed (accepted : query.mapM parseQuery = .ok parsed) (index : Index) :
    Selected index query (parsed.elim [] (·.filter index)) := by
  cases query with
  | none =>
      cases accepted
      exact .none
  | some text =>
      obtain ⟨q, read, rest⟩ := bind_eq_ok.mp accepted
      cases rest
      exact .some (inContext_eq_ok.mp read)

theorem findImages_eq (disk : Disk) (settings : ScanSettings) :
    findImages disk settings =
      if disk.imageFolders settings = [] then
        .error (.stated s!"No '{settings.folderName}' folders found under {settings.baseDir.text}")
      else if disk.images (disk.imageFolders settings) settings.extensions = [] then
        .error (.stated s!"No images found in {(disk.imageFolders settings).length} folder(s)")
      else .ok (disk.images (disk.imageFolders settings) settings.extensions) := by
  simp only [findImages, List.isEmpty_iff]

theorem scan_unused {failure : Failure} (setback : Setback r c query disk s false failure) :
    scan r c query disk s = ⟨.error failure, disk, s, []⟩ := by
  cases setback with
  | query given refused =>
      rename_i text error
      have stopped : query.mapM parseQuery =
          .error ⟨[s!"Invalid query: {text}"], .query error⟩ := by
        rw [given, Option.mapM_some, parseQuery, refused]
        rfl
      simp only [scan, stopped]
  | folders accepted missing => simp only [scan, accepted, findImages_eq, missing, if_true]
  | images accepted somewhere missing =>
      simp only [scan, accepted, findImages_eq, missing, somewhere, if_true, if_false]

theorem scan_unstarted {failure : Recognition.Failure}
    (accepted : query.mapM parseQuery = .ok parsed)
    (found : findImages disk c.scan = .ok images)
    (failed : (buildIndex r c.worker.languages images s).index = .error failure) :
    scan r c query disk s =
      ⟨.error ⟨[], .recognition failure⟩, disk,
        (r.stop (buildIndex r c.worker.languages images s).recognizer).2,
        (buildIndex r c.worker.languages images s).deeds ++ [.stop]⟩ := by
  simp only [scan, accepted, found, failed]

theorem scan_built {index : Index} (accepted : query.mapM parseQuery = .ok parsed)
    (found : findImages disk c.scan = .ok images)
    (built : (buildIndex r c.worker.languages images s).index = .ok index) :
    let stored := storeIndex c.output parsed images.length index disk
    scan r c query disk s =
      ⟨stored.result, stored.disk, (r.stop (buildIndex r c.worker.languages images s).recognizer).2,
        (buildIndex r c.worker.languages images s).deeds ++ .stop :: stored.deeds⟩ := by
  simp only [scan, accepted, found, built]

/-- Building an index fails exactly with the first start. -/
theorem buildIndex_error_iff {languages : List String} {failure : Recognition.Failure} :
    (buildIndex r languages images s).index = .error failure ↔
      (r.start languages s).1 = .error failure := by
  unfold buildIndex
  cases r.start languages s with
  | mk answer next =>
      cases answer with
      | error => simp
      | ok => simp

/-- The recogniser is not used, or it gets images to read. -/
theorem unused_or_found (r : Recognizer σ) (c : Configuration) (query : Option String)
    (disk : Disk) (s : σ) :
    (∃ failure, Setback r c query disk s false failure) ∨
      ∃ parsed images, query.mapM parseQuery = .ok parsed ∧
        findImages disk c.scan = .ok images := by
  have readable : (∃ failure, Setback r c query disk s false failure) ∨
      ∃ parsed, query.mapM parseQuery = .ok parsed := by
    cases query with
    | none => exact .inr ⟨none, rfl⟩
    | some text =>
        cases read : Query.parse text with
        | error error => exact .inl ⟨_, .query rfl read⟩
        | ok q =>
            refine .inr ⟨some q, ?_⟩
            rw [Option.mapM_some, parseQuery, read]
            rfl
  rcases readable with unused | ⟨parsed, accepted⟩
  · exact .inl unused
  · by_cases somewhere : disk.imageFolders c.scan = []
    · exact .inl ⟨_, .folders accepted somewhere⟩
    · by_cases missing : disk.images (disk.imageFolders c.scan) c.scan.extensions = []
      · exact .inl ⟨_, .images accepted somewhere missing⟩
      · refine .inr ⟨parsed, disk.images (disk.imageFolders c.scan) c.scan.extensions, accepted, ?_⟩
        rw [findImages_eq, if_neg somewhere, if_neg missing]

/-- A setback after a use of the recogniser ends the scan with the stop. -/
theorem scan_used {failure : Failure} (setback : Setback r c query disk s true failure) :
    ∃ images, let built := buildIndex r c.worker.languages images s
      scan r c query disk s =
        ⟨.error failure, disk, (r.stop built.recognizer).2, built.deeds ++ [.stop]⟩ := by
  cases setback with
  | @start parsed images failure accepted found failed =>
      exact ⟨images, scan_unstarted accepted found (buildIndex_error_iff.mpr failed)⟩
  | @text parsed images accepted found blank =>
      refine ⟨images, ?_⟩
      rw [scan_built accepted found blank, storeIndex_eq, if_pos rfl]

/-- The ways a scan can end. -/
inductive Ends (r : Recognizer σ) (c : Configuration) (query : Option String) (disk : Disk)
    (s : σ) : ScanRun σ → Prop
  | unused {failure : Failure} (setback : Setback r c query disk s false failure) :
    Ends r c query disk s ⟨.error failure, disk, s, []⟩
  | used {failure : Failure} {images : List Path} {built : Built σ}
    (setback : Setback r c query disk s true failure)
    (build : buildIndex r c.worker.languages images s = built) :
    Ends r c query disk s
      ⟨.error failure, disk, (r.stop built.recognizer).2, built.deeds ++ [.stop]⟩
  | stored {parsed : Option Query} {images : List Path} {built : Built σ} {index : Index}
    {stored : Stored} (accepted : query.mapM parseQuery = .ok parsed)
    (found : findImages disk c.scan = .ok images)
    (build : buildIndex r c.worker.languages images s = built) (whole : built.index = .ok index)
    (filled : index ≠ []) (store : storeIndex c.output parsed images.length index disk = stored) :
    Ends r c query disk s
      ⟨stored.result, stored.disk, (r.stop built.recognizer).2,
        built.deeds ++ .stop :: stored.deeds⟩

theorem scan_ends (r : Recognizer σ) (c : Configuration) (query : Option String) (disk : Disk)
    (s : σ) : Ends r c query disk s (scan r c query disk s) := by
  have used {failure : Failure} (setback : Setback r c query disk s true failure) :
      Ends r c query disk s (scan r c query disk s) := by
    obtain ⟨images, whole⟩ := scan_used setback
    rw [whole]
    exact .used setback rfl
  rcases unused_or_found r c query disk s with ⟨failure, unused⟩ | ⟨parsed, images, accepted, found⟩
  · rw [scan_unused unused]
    exact .unused unused
  · cases built : (buildIndex r c.worker.languages images s).index with
    | error failure => exact used (.start accepted found (buildIndex_error_iff.mp built))
    | ok index =>
        by_cases filled : index = []
        · exact used (.text accepted found (filled ▸ built))
        · rw [scan_built accepted found built]
          exact .stored accepted found rfl built filled rfl

theorem filter_uses {uses writes : List Deed} (used : ∀ deed ∈ uses, deed.isUse = true)
    (wrote : ∀ deed ∈ writes, deed.isWrite = true) :
    (uses ++ .stop :: writes).filter (!·.isWrite) = uses ++ [.stop] := by
  have keeps : uses.filter (!·.isWrite) = uses :=
    List.filter_eq_self.mpr fun deed member => by simp [Deed.isWrite_of_isUse (used deed member)]
  have drops : writes.filter (!·.isWrite) = [] :=
    List.filter_eq_nil_iff.mpr fun deed member => by simp [wrote deed member]
  rw [List.filter_append, keeps, List.filter_cons_of_pos rfl, drops]

/-- The recogniser is asked what the scan tells of itself, and nothing else. -/
theorem scan_watched (r : Recognizer σ) (c : Configuration) (query : Option String) (disk : Disk)
    (s : σ) :
    let run := scan r c query disk s
    scan r.watched c query disk (s, []) =
      ⟨run.result, run.disk, (run.recognizer, run.deeds.filter (!·.isWrite)), run.deeds⟩ := by
  rcases unused_or_found r c query disk s with ⟨failure, unused⟩ | ⟨parsed, images, accepted, found⟩
  · have unused' : Setback r.watched c query disk (s, []) false failure := by
      cases unused with
      | query given refused => exact .query given refused
      | folders accepted missing => exact .folders accepted missing
      | images accepted somewhere missing => exact .images accepted somewhere missing
    rw [scan_unused unused, scan_unused unused']
    rfl
  · have used := (buildIndex_uses (r := r) c.worker.languages images s).2
    have watched := buildIndex_watched (r := r) c.worker.languages images s
    cases built : (buildIndex r c.worker.languages images s).index with
    | error failure =>
        simp only [scan_unstarted accepted found built,
          scan_unstarted (r := r.watched) accepted found (by rw [watched, built]), watched,
          filter_uses used (List.forall_mem_nil _)]
        rfl
    | ok index =>
        simp only [scan_built accepted found built,
          scan_built (r := r.watched) accepted found (by rw [watched, built]), watched,
          filter_uses used (storeIndex_writes parsed)]
        rfl

theorem scan_anyStop (stop : σ → Except Recognition.Failure Unit × σ) (c : Configuration)
    (query : Option String) (disk : Disk) (s : σ) :
    let run := scan r c query disk s
    let other := scan { r with stop := stop } c query disk s
    other.result = run.result ∧ other.disk = run.disk ∧ other.deeds = run.deeds := by
  simp only [scan, buildIndex_anyStop]
  cases query.mapM parseQuery with
  | error => exact ⟨rfl, rfl, rfl⟩
  | ok parsed =>
      cases findImages disk c.scan with
      | error => exact ⟨rfl, rfl, rfl⟩
      | ok images =>
          dsimp only
          cases (buildIndex r c.worker.languages images s).index with
          | error => exact ⟨rfl, rfl, rfl⟩
          | ok => exact ⟨rfl, rfl, rfl⟩

end Stages

/-- A scan is all or nothing. A setback before the first write leaves the disk alone, and one before
the recogniser is used leaves that alone too; every other failure comes after a write was tried. A
recogniser that is used is stopped once, after its last use and before anything is written, and it
does not matter whether the stop fails. A scan that succeeds has written the index that was built,
and the selected documents exactly if there are any. -/
theorem scan_all_or_nothing (r : Recognizer σ) (c : Configuration) (query : Option String)
    (disk : Disk) (s : σ) :
    let run := scan r c query disk s
    (∀ used failure, Setback r c query disk s used failure →
      run.result = .error failure ∧ run.disk = disk ∧ (∀ deed ∈ run.deeds, deed.isWrite = false) ∧
        (used = false → run.deeds = [] ∧ run.recognizer = s)) ∧
    (∀ failure, run.result = .error failure →
      (∃ used, Setback r c query disk s used failure) ∨ .write c.output.indexFile ∈ run.deeds) ∧
    (run.deeds = [] ∨ ∃ uses writes, run.deeds = uses ++ .stop :: writes ∧ uses ≠ [] ∧
      (∀ deed ∈ uses, deed.isUse = true) ∧ ∀ deed ∈ writes, deed.isWrite = true) ∧
    scan r.watched c query disk (s, []) =
      ⟨run.result, run.disk, (run.recognizer, run.deeds.filter (!·.isWrite)), run.deeds⟩ ∧
    (∀ stop, let other := scan { r with stop := stop } c query disk s
      other.result = run.result ∧ other.disk = run.disk ∧ other.deeds = run.deeds) ∧
    (run.result = .ok () → ∃ images index found writes, findImages disk c.scan = .ok images ∧
      let built := buildIndex r c.worker.languages images s
      built.index = .ok index ∧ index ≠ [] ∧ Selected index query found ∧
        Saves c.output index found disk writes run.disk ∧
        run.deeds = built.deeds ++ .stop :: writes) := by
  intro run
  have ends : Ends r c query disk s run := scan_ends r c query disk s
  refine ⟨?_, ?_, ?_, scan_watched r c query disk s,
    fun stop => scan_anyStop stop c query disk s, ?_⟩
  · intro used failure setback
    cases used with
    | false =>
        simp only [run, scan_unused setback]
        exact ⟨trivial, trivial, List.forall_mem_nil _, fun _ => ⟨trivial, trivial⟩⟩
    | true =>
        obtain ⟨images, whole⟩ := scan_used setback
        simp only [run, whole]
        refine ⟨trivial, trivial, ?_, fun unused => by cases unused⟩
        intro deed member
        rcases List.mem_append.mp member with use | stop
        · exact Deed.isWrite_of_isUse ((buildIndex_uses _ images s).2 deed use)
        · rw [List.mem_singleton.mp stop]
          rfl
  · intro failure failed
    clear_value run
    cases ends with
    | unused setback =>
        cases failed
        exact .inl ⟨false, setback⟩
    | used setback =>
        cases failed
        exact .inl ⟨true, setback⟩
    | stored accepted found build whole filled store =>
        subst store
        refine .inr (List.mem_append_right _ (List.mem_cons_of_mem _ ?_))
        rw [storeIndex_eq, if_neg filled]
        exact Stored.mem_write
  · clear_value run
    cases ends with
    | unused => exact .inl rfl
    | @used failure images _ setback build =>
        subst build
        obtain ⟨some_use, uses⟩ := buildIndex_uses (r := r) c.worker.languages images s
        exact .inr ⟨_, [], rfl, some_use, uses, List.forall_mem_nil _⟩
    | @stored parsed images _ index _ accepted found build whole filled store =>
        subst build store
        obtain ⟨some_use, uses⟩ := buildIndex_uses (r := r) c.worker.languages images s
        exact .inr ⟨_, _, rfl, some_use, uses, storeIndex_writes parsed⟩
  · intro succeeded
    clear_value run
    cases ends with
    | unused => cases succeeded
    | used => cases succeeded
    | @stored parsed images built index stored accepted found build whole filled store =>
        subst build
        have selected := selected_of_parsed accepted index
        have saves : Saves c.output index (parsed.elim [] (·.filter index)) disk stored.deeds
            stored.disk := by
          refine storeIndex_ok (store.trans ?_)
          rw [← succeeded]
        exact ⟨images, index, _, stored.deeds, found, whole, filled, selected, saves, rfl⟩

end ImageSearch
