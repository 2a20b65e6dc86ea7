import ImageSearch.Proofs.Discovery.Images
import ImageSearch.Proofs.Scan.Outcome

set_option autoImplicit false

namespace ImageSearch

open Recognition

def Deed.image? : Deed → Option Path
  | .read path => some path
  | .start _ | .stop | .write _ => none

theorem Document.path_of_ofRecognition {path : Path} {items : List Item} {document : Document}
    (made : Document.ofRecognition path items = some document) : document.path = path := by
  rw [ofRecognition] at made
  split at made
  · cases made
  · cases made
    rfl

theorem Visit.path_of_document? {visit : Visit} {document : Document}
    (made : visit.document? = some document) : document.path = visit.1 := by
  rw [document?] at made
  split at made
  · exact Document.path_of_ofRecognition made
  · cases made

theorem paths_of_documents (visits : List Visit) :
    ((visits.filterMap Visit.document?).map Document.path).Sublist (visits.map Prod.fst) := by
  induction visits with
  | nil => exact .slnil
  | cons visit visits ih =>
      rw [List.filterMap_cons]
      cases made : visit.document? with
      | none => exact ih.cons _
      | some document =>
          rw [List.map_cons, List.map_cons, Visit.path_of_document? made]
          exact ih.cons_cons _

variable {σ : Type} {r : Recognizer σ} {s : σ} {languages : List String} {images : List Path}

/-- The images are read in their order, at most to the end, and each document is of one of them. -/
theorem buildIndex_images (r : Recognizer σ) (languages : List String) (images : List Path) (s : σ) :
    let built := buildIndex r languages images s
    built.deeds.filterMap Deed.image? <+: images ∧
      ∀ index, built.index = .ok index → (index.map Document.path).Sublist images := by
  cases outcome : r.start languages s with
  | mk answer next =>
      cases answer with
      | error failure =>
          have failed := (buildIndex_failed outcome images).1
          rw [failed]
          exact ⟨List.nil_prefix, nofun⟩
      | ok =>
          obtain ⟨visits, halt, halts, documents, deeds, _⟩ := buildIndex_started outcome images
          have same : Deed.image? ∘ Call.deed = Call.read? := by
            funext call
            cases call <;> rfl
          refine ⟨?_, fun index built => ?_⟩
          · rw [deeds, List.filterMap_map, same, List.filterMap_cons_none rfl, List.filterMap_append,
              reads_visitCalls, halts.reads, List.append_nil]
            exact halts.visited
          · cases documents.symm.trans built
            exact (paths_of_documents visits).trans halts.visited.sublist

theorem images_of_findImages {d : Disk} {settings : ScanSettings}
    (found : findImages d settings = .ok images) :
    images = d.images (d.imageFolders settings) settings.extensions := by
  rw [findImages_eq] at found
  split at found
  · cases found
  · split at found
    · cases found
    · exact (Except.ok.inj found).symm

/-- After the images a scan only stops and writes. -/
theorem images_of_writes {writes : List Deed} (wrote : ∀ deed ∈ writes, deed.isWrite = true) :
    (Deed.stop :: writes).filterMap Deed.image? = [] := by
  rw [List.filterMap_cons_none rfl, List.filterMap_eq_nil_iff]
  intro deed mem
  cases deed with
  | start | stop | write => rfl
  | read path => exact absurd (wrote _ mem) Bool.false_ne_true

/-- A scan reads images that were found, in their order and at most to the end. -/
theorem scan_images (r : Recognizer σ) (c : Configuration) (query : Option String) (d : Disk)
    (s : σ) : (scan r c query d s).deeds.filterMap Deed.image? <+:
      d.images (d.imageFolders c.scan) c.scan.extensions := by
  rcases unused_or_found r c query d s with ⟨failure, unused⟩ | ⟨parsed, images, accepted, found⟩
  · rw [scan_unused unused]
    exact List.nil_prefix
  · rw [← images_of_findImages found]
    obtain ⟨read, _⟩ := buildIndex_images r c.worker.languages images s
    cases built : (buildIndex r c.worker.languages images s).index with
    | error failure =>
        rw [scan_unstarted accepted found built, List.filterMap_append,
          images_of_writes (List.forall_mem_nil _), List.append_nil]
        exact read
    | ok index =>
        rw [scan_built accepted found built, List.filterMap_append,
          images_of_writes (storeIndex_writes parsed), List.append_nil]
        exact read

namespace Disk

variable {d : Disk} {scan : ScanSettings} {root : String} {file : List String}

/-- An image directly inside a folder of the name that is below a root. -/
structure SoughtBelow (d : Disk) (scan : ScanSettings) (root : String) (file : List String) : Prop
    where
  leads : ∃ above names name, d.LeadsDown (scan.baseDir.join ⟨root⟩) scan.folderName above names ∧
    IsImageName scan.extensions name ∧ file = above ++ names ++ [name]
  file : ∃ content, d.root.at? file = some (.file content)

def imagesBelow (d : Disk) (scan : ScanSettings) (root : String) : List Path :=
  d.images (d.imageFoldersBelow (scan.baseDir.join ⟨root⟩) scan.folderName) scan.extensions

theorem images_eq_flatMap (d : Disk) (scan : ScanSettings) :
    d.images (d.imageFolders scan) scan.extensions = scan.roots.flatMap (d.imagesBelow scan) :=
  List.flatMap_assoc

/-- Different folders hold different images. -/
theorem nodup_images (proper : d.Proper) {folders : List Path}
    (once : (folders.map d.locate).Nodup) (extensions : List String) :
    ((d.images folders extensions).map d.locate).Nodup := by
  rw [images, List.map_flatMap, List.Nodup, List.pairwise_flatMap]
  refine ⟨fun folder _ => nodup_imagesIn proper _ folder, (List.pairwise_map.mp once).imp ?_⟩
  rintro a b apart _ memA _ memB rfl
  obtain ⟨p, memA, ledA⟩ := List.mem_map.mp memA
  obtain ⟨q, memB, ledB⟩ := List.mem_map.mp memB
  obtain ⟨place, name, image, led, _⟩ := (imagesIn_listed proper extensions a).sound p memA
  obtain ⟨place', name', image', led', _⟩ := (imagesIn_listed proper extensions b).sound q memB
  have same : place ++ [name] = place' ++ [name'] :=
    Except.ok.inj (led.symm.trans (ledA.trans (ledB.symm.trans led')))
  refine apart (image.led.trans ?_)
  rw [List.append_inj_left' same rfl]
  exact image'.led.symm

section Below

variable (proper : d.Proper) (valid : scan.problems = [])
  (filled : (scan.baseDir.join ⟨root⟩).text ≠ "")
include proper valid filled

theorem sought_of_mem {path : Path} (mem : path ∈ d.imagesBelow scan root) :
    ∃ file, d.locate path = .ok file ∧ d.SoughtBelow scan root file := by
  obtain ⟨folder, found, mem⟩ := List.mem_flatMap.mp mem
  obtain ⟨above, names, leads, led⟩ := leadsDown_of_found proper valid filled found
  obtain ⟨place, name, image, led', _⟩ :=
    (imagesIn_listed proper scan.extensions folder).sound path mem
  cases led.symm.trans image.led
  exact ⟨_, led', ⟨above, names, name, leads, image.named, rfl⟩, image.file⟩

theorem mem_of_sought (onward : (scan.baseDir.join ⟨root⟩).stalls = false)
    (sought : d.SoughtBelow scan root file) :
    ∃ path ∈ d.imagesBelow scan root, d.locate path = .ok file := by
  obtain ⟨whole, named⟩ := ScanSettings.folderName_plain valid
  have found := (imageFoldersBelow_found proper whole named filled).2 onward
  obtain ⟨⟨above, names, name, leads, image, rfl⟩, held⟩ := sought
  obtain ⟨folder, mem, led⟩ := found.complete above names leads
  have ⟨_, there⟩ := held
  have listed := (imagesIn_listed proper scan.extensions folder).complete _ name
    ⟨led, held, image⟩
  exact ⟨_, List.mem_flatMap.mpr ⟨folder, mem, listed⟩, (locate_join proper led there).1⟩

theorem nodup_imagesBelow : ((d.imagesBelow scan root).map d.locate).Nodup := by
  obtain ⟨whole, named⟩ := ScanSettings.folderName_plain valid
  obtain ⟨stalled, onward⟩ := imageFoldersBelow_found proper whole named filled
  refine nodup_images proper ?_ scan.extensions
  cases still : (scan.baseDir.join ⟨root⟩).stalls with
  | true =>
      rw [stalled still]
      exact .nil
  | false => exact (onward still).once

end Below

/-- No image is to be found below two of the roots. -/
def Unshared (d : Disk) (scan : ScanSettings) : Prop :=
  scan.roots.Pairwise fun r s => ∀ file, d.SoughtBelow scan r file → ¬d.SoughtBelow scan s file

/-- No root is inside of another or the same. -/
def Separate (d : Disk) (scan : ScanSettings) : Prop :=
  scan.roots.Pairwise fun r s => ∀ x y, d.locate (scan.baseDir.join ⟨r⟩) = .ok x →
    d.locate (scan.baseDir.join ⟨s⟩) = .ok y → ¬x <+: y ∧ ¬y <+: x

theorem SoughtBelow.inside {above : List String} (sought : d.SoughtBelow scan root file)
    (led : d.locate (scan.baseDir.join ⟨root⟩) = .ok above) : above <+: file := by
  obtain ⟨_, names, name, leads, _, rfl⟩ := sought.leads
  cases leads.led.symm.trans led
  rw [List.append_assoc]
  exact List.prefix_append _ _

/-- Two places around one are one inside of the other. -/
theorem Separate.unshared (separate : d.Separate scan) : d.Unshared scan := by
  refine separate.imp fun {r s} apart file first second => ?_
  obtain ⟨x, _, _, ledX, _⟩ := first.leads
  obtain ⟨y, _, _, ledY, _⟩ := second.leads
  have insideX := first.inside ledX.led
  have insideY := second.inside ledY.led
  obtain ⟨notX, notY⟩ := apart x y ledX.led ledY.led
  rcases Nat.le_total x.length y.length with short | long
  · exact notX (List.prefix_of_prefix_length_le insideX insideY short)
  · exact notY (List.prefix_of_prefix_length_le insideY insideX long)

section Roots

variable (proper : d.Proper) (valid : scan.problems = [])
  (filled : ∀ root ∈ scan.roots, (scan.baseDir.join ⟨root⟩).text ≠ "")
include proper valid filled

theorem nodup_of_unshared (unshared : d.Unshared scan) :
    ((d.images (d.imageFolders scan) scan.extensions).map d.locate).Nodup := by
  rw [images_eq_flatMap, List.map_flatMap, List.Nodup, List.pairwise_flatMap]
  refine ⟨fun root among => nodup_imagesBelow proper valid (filled root among), ?_⟩
  refine unshared.imp_of_mem ?_
  rintro r s amongR amongS apart _ memA _ memB rfl
  obtain ⟨p, memA, ledA⟩ := List.mem_map.mp memA
  obtain ⟨q, memB, ledB⟩ := List.mem_map.mp memB
  obtain ⟨file, led, sought⟩ := sought_of_mem proper valid (filled r amongR) memA
  obtain ⟨file', led', sought'⟩ := sought_of_mem proper valid (filled s amongS) memB
  cases led.symm.trans (ledA.trans (ledB.symm.trans led'))
  exact apart file sought sought'

theorem unshared_of_nodup (onward : ∀ root ∈ scan.roots, (scan.baseDir.join ⟨root⟩).stalls = false)
    (once : ((d.images (d.imageFolders scan) scan.extensions).map d.locate).Nodup) :
    d.Unshared scan := by
  rw [images_eq_flatMap, List.map_flatMap, List.Nodup, List.pairwise_flatMap] at once
  refine once.2.imp_of_mem fun {r s} amongR amongS apart file first second => ?_
  obtain ⟨p, memA, ledA⟩ :=
    mem_of_sought proper valid (filled r amongR) (onward r amongR) first
  obtain ⟨q, memB, ledB⟩ :=
    mem_of_sought proper valid (filled s amongS) (onward s amongS) second
  exact apart _ (List.mem_map_of_mem memA) _ (List.mem_map_of_mem memB) (ledA.trans ledB.symm)

end Roots

/-- No two of the images denote the same file exactly if none is to be found below two of the roots,
for which it is enough that no root is inside of another. A scan then reads each file once at most,
and the index has one document for it at most. -/
theorem images_once_iff (d : Disk) (proper : d.Proper) (scan : ScanSettings)
    (valid : scan.problems = [])
    (filled : ∀ root ∈ scan.roots, (scan.baseDir.join ⟨root⟩).text ≠ "") :
    let images := d.images (d.imageFolders scan) scan.extensions
    (∀ path ∈ images, ∃ root ∈ scan.roots, ∃ file,
      d.locate path = .ok file ∧ d.SoughtBelow scan root file) ∧
    (d.Separate scan → d.Unshared scan) ∧
    (d.Unshared scan → (images.map d.locate).Nodup ∧
      ∀ {σ : Type} (r : Recognizer σ) (c : Configuration) (query : Option String) (s : σ),
        c.scan = scan →
        (((ImageSearch.scan r c query d s).deeds.filterMap Deed.image?).map d.locate).Nodup ∧
        ∀ index, (buildIndex r c.worker.languages images s).index = .ok index →
          (index.map fun document => d.locate document.path).Nodup) ∧
    ((∀ root ∈ scan.roots, (scan.baseDir.join ⟨root⟩).stalls = false) →
      (images.map d.locate).Nodup → d.Unshared scan) := by
  intro images
  refine ⟨fun path mem => ?_, Separate.unshared, fun unshared => ?_,
    unshared_of_nodup proper valid filled⟩
  · rw [show images = scan.roots.flatMap (d.imagesBelow scan) from images_eq_flatMap d scan] at mem
    obtain ⟨root, among, mem⟩ := List.mem_flatMap.mp mem
    obtain ⟨file, led, sought⟩ := sought_of_mem proper valid (filled root among) mem
    exact ⟨root, among, file, led, sought⟩
  · have once := nodup_of_unshared proper valid filled unshared
    refine ⟨once, ?_⟩
    rintro σ r c query s rfl
    refine ⟨once.sublist ((scan_images r c query d s).sublist.map d.locate), fun index built => ?_⟩
    have documents := (buildIndex_images r c.worker.languages images s).2 index built
    have paths := once.sublist (documents.map d.locate)
    rwa [List.map_map] at paths

/-- Two roots, one of which is written with a turn back, and one image below each. -/
theorem images_once_separate :
    let d : Disk := ⟨.folder [("home", .folder [("site", .folder [
      ("docs", .folder [("_images", .folder [("a.png", .file (.text ""))])]),
      ("notes", .folder [("_images", .folder [("b.PNG", .file (.text ""))])])])])], ["home"]⟩
    let scan : ScanSettings := ⟨⟨"./site"⟩, ["docs", "docs/../notes"], "_images", ["png"]⟩
    let images := d.images (d.imageFolders scan) scan.extensions
    d.Proper ∧ scan.problems = [] ∧ (∀ root ∈ scan.roots, (scan.baseDir.join ⟨root⟩).text ≠ "") ∧
      images = [⟨"site/docs/_images/a.png"⟩, ⟨"site/docs/../notes/_images/b.PNG"⟩] ∧
      d.Unshared scan ∧ (images.map d.locate).Nodup := by
  intro d scan images
  have proper : d.Proper := ⟨by decide +kernel, _, rfl⟩
  have valid : scan.problems = [] := by decide +kernel
  have filled : ∀ root ∈ scan.roots, (scan.baseDir.join ⟨root⟩).text ≠ "" := by decide +kernel
  have separate : d.Separate scan := by
    have docs : scan.baseDir.join ⟨"docs"⟩ = ⟨"./site/docs"⟩ := by decide +kernel
    have notes : scan.baseDir.join ⟨"docs/../notes"⟩ = ⟨"./site/docs/../notes"⟩ := by
      decide +kernel
    refine List.pairwise_pair.mpr fun x y ledX ledY => ?_
    rw [docs] at ledX
    rw [notes] at ledY
    have ledX' : d.locate ⟨"./site/docs"⟩ = .ok ["home", "site", "docs"] := rfl
    have ledY' : d.locate ⟨"./site/docs/../notes"⟩ = .ok ["home", "site", "notes"] := rfl
    cases ledX.symm.trans ledX'
    cases ledY.symm.trans ledY'
    decide
  obtain ⟨_, apart, once, _⟩ := images_once_iff d proper scan valid filled
  exact ⟨proper, valid, filled, by decide +kernel, apart separate, (once (apart separate)).1⟩

/-- A root that is given twice is searched twice, and its image is read twice. -/
theorem images_repeated :
    let d : Disk := ⟨.folder [("docs", .folder [("_images", .folder [("a.png", .file (.text ""))])])],
      []⟩
    let scan : ScanSettings := ⟨⟨"."⟩, ["docs", "docs"], "_images", ["png"]⟩
    let images := d.images (d.imageFolders scan) scan.extensions
    let r : Recognizer Unit :=
      ⟨fun _ s => (.ok (), s), fun _ s => (.ok [⟨"text", 0.5, []⟩], s), fun s => (.ok (), s)⟩
    d.Proper ∧ scan.problems = [] ∧
      images = [⟨"docs/_images/a.png"⟩, ⟨"docs/_images/a.png"⟩] ∧ ¬(images.map d.locate).Nodup ∧
      (buildIndex r ["en"] images ()).deeds =
        [.start ["en"], .read ⟨"docs/_images/a.png"⟩, .read ⟨"docs/_images/a.png"⟩] ∧
      ∃ document, (buildIndex r ["en"] images ()).index = .ok [document, document] := by
  intro d scan images r
  have proper : d.Proper := ⟨by decide +kernel, _, rfl⟩
  have twice : images = [⟨"docs/_images/a.png"⟩, ⟨"docs/_images/a.png"⟩] := by decide +kernel
  refine ⟨proper, by decide +kernel, twice, ?_, ?_, ?_⟩
  · rw [twice]
    exact fun once => (List.nodup_cons.mp once).1 (List.mem_singleton_self _)
  · rw [twice]
    rfl
  · rw [twice]
    exact ⟨_, rfl⟩

end Disk

end ImageSearch
