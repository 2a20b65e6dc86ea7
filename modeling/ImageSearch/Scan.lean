import ImageSearch.Discovery
import ImageSearch.Document.Index
import ImageSearch.Query.Match
import ImageSearch.Recognition.Recognizer

set_option autoImplicit false

namespace ImageSearch

open Recognition

inductive Deed where
  | start (languages : List String)
  | read (path : Path)
  | stop
  | write (path : Path)
  deriving Repr, DecidableEq

structure Reading (σ : Type) where
  documents : Index
  recognizer : σ
  deeds : List Deed

variable {σ : Type}

/-- Reads one image; the flag tells that the worker is lost. -/
def readImage (r : Recognizer σ) (path : Path) (state : σ) : Option Document × Bool × σ :=
  match r.read path state with
  | (.ok items, state) => (Document.ofRecognition path items, false, state)
  | (.error failure, state) => (none, failure.isWorkerLost, state)

/-- Reads images one after another. After the loss of a worker the next image begins with a new
start, and if that fails the rest is left out. -/
def readImages (r : Recognizer σ) (languages : List String) :
    List Path → Bool → σ → Reading σ
  | [], _, state => ⟨[], state, []⟩
  | path :: rest, false, state =>
    let (document?, lost, state) := readImage r path state
    let later := readImages r languages rest lost state
    ⟨document?.toList ++ later.documents, later.recognizer, .read path :: later.deeds⟩
  | path :: rest, true, state =>
    match r.start languages state with
    | (.error _, state) => ⟨[], state, [.start languages]⟩
    | (.ok _, state) =>
      let (document?, lost, state) := readImage r path state
      let later := readImages r languages rest lost state
      ⟨document?.toList ++ later.documents, later.recognizer,
        .start languages :: .read path :: later.deeds⟩

structure Built (σ : Type) where
  index : Except Recognition.Failure Index
  recognizer : σ
  deeds : List Deed

/-- Only a failure of the first start is a failure. -/
def buildIndex (r : Recognizer σ) (languages : List String) (images : List Path) (state : σ) :
    Built σ :=
  match r.start languages state with
  | (.error failure, state) => ⟨.error failure, state, [.start languages]⟩
  | (.ok _, state) =>
    let reading := readImages r languages images false state
    ⟨.ok reading.documents, reading.recognizer, .start languages :: reading.deeds⟩

structure ScanRun (σ : Type) where
  result : Except Failure Unit
  disk : Disk
  recognizer : σ
  deeds : List Deed

def parseQuery (text : String) : Except Failure Query :=
  inContext s!"Invalid query: {text}" .query (Query.parse text)

def findImages (disk : Disk) (scan : ScanSettings) : Except Failure (List Path) :=
  let folders := disk.imageFolders scan
  let images := disk.images folders scan.extensions
  if folders.isEmpty then
    .error (.stated s!"No '{scan.folderName}' folders found under {scan.baseDir.text}")
  else if images.isEmpty then
    .error (.stated s!"No images found in {folders.length} folder(s)")
  else .ok images

/-- What is written at the end of a scan, and whether that succeeds. -/
structure Stored where
  result : Except Failure Unit
  disk : Disk
  deeds : List Deed

def Stored.write (disk : Disk) (path : Path) (attempt : Except Failure Disk)
    (next : Disk → Stored) : Stored :=
  match attempt with
  | .error failure => ⟨.error failure, disk, [.write path]⟩
  | .ok disk =>
    let later := next disk
    { later with deeds := .write path :: later.deeds }

def storeMatches (output : OutputSettings) (query : Option Query) (index : Index) (disk : Disk) :
    Stored :=
  let matched := match query with
    | some q => q.filter index
    | none => []
  if matched.isEmpty then ⟨.ok (), disk, []⟩
  else
    Stored.write disk output.resultsFile (Index.save matched disk output.resultsFile) fun disk =>
      ⟨.ok (), disk, []⟩

/-- Writes an index that must hold something, and then the matches of a query. -/
def storeIndex (output : OutputSettings) (query : Option Query) (images : Nat) (index : Index)
    (disk : Disk) : Stored :=
  if index.isEmpty then
    ⟨.error (.stated s!"No text recognized in any of {images} image(s)"), disk, []⟩
  else
    Stored.write disk output.indexFile (Index.save index disk output.indexFile)
      (storeMatches output query index)

/-- The query is read first, then images are sought, then the recogniser is used and stopped, and
at last files are written. -/
def scan (r : Recognizer σ) (c : Configuration) (query : Option String) (disk : Disk)
    (state : σ) : ScanRun σ :=
  match query.mapM parseQuery with
  | .error failure => ⟨.error failure, disk, state, []⟩
  | .ok query =>
    match findImages disk c.scan with
    | .error failure => ⟨.error failure, disk, state, []⟩
    | .ok images =>
      let built := buildIndex r c.worker.languages images state
      let (_, state) := r.stop built.recognizer
      match built.index with
      | .error failure =>
        ⟨.error ⟨[], .recognition failure⟩, disk, state, built.deeds ++ [.stop]⟩
      | .ok index =>
        let stored := storeIndex c.output query images.length index disk
        ⟨stored.result, stored.disk, state, built.deeds ++ .stop :: stored.deeds⟩

structure SearchRun where
  result : Except Failure Unit
  output : String
  disk : Disk

def matchLines (documents : List Document) : String :=
  String.join (documents.map fun d => s!"{d.identifier}\t{d.path.text}\n")

/-- Searches a saved index; the matches may also be written to a file. -/
def searchIndex (indexFile : Path) (query : String) (results : Option Path) (disk : Disk) :
    SearchRun :=
  let found := do
    let index ← Index.load disk indexFile
    return (← parseQuery query).filter index
  match found with
  | .error failure => ⟨.error failure, "", disk⟩
  | .ok documents =>
    match results with
    | none => ⟨.ok (), matchLines documents, disk⟩
    | some path =>
      match Index.save documents disk path with
      | .error failure => ⟨.error failure, matchLines documents, disk⟩
      | .ok disk => ⟨.ok (), matchLines documents, disk⟩

end ImageSearch
