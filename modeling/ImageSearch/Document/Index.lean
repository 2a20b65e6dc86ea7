import ImageSearch.Document.Basic
import ImageSearch.Failure

set_option autoImplicit false

namespace ImageSearch

open Json

/-- Writes a value as indented JSON; the folders around the file are made where they are missing. -/
def writeJson (disk : Disk) (path : Path) (value : Value) : Except Failure Disk := do
  let disk ← match path.parent? with
    | some parent =>
      if parent.text.isEmpty then pure disk
      else inContext s!"Failed to create directory: {parent.text}" .io (disk.makeFolders parent)
    | none => pure disk
  inContext s!"Failed to write file: {path.text}" .io (disk.writeText path value.prettyText)

abbrev Index := List Document

namespace Index

def toJson (documents : Index) : Value := .array (documents.map Document.toJson)

def same (a b : Index) : Bool := a.length == b.length && (a.zip b).all fun p => p.1.same p.2

def ofText (text : String) : Except DecodeError Index :=
  decodeText (decodeList Document.decoder) text

def load (disk : Disk) (path : Path) : Except Failure Index := do
  let text ← inContext s!"Failed to read index file: {path.text}" .io (disk.readText path)
  inContext s!"Failed to parse index file: {path.text}" .json (ofText text)

def save (documents : Index) (disk : Disk) (path : Path) : Except Failure Disk :=
  writeJson disk path (toJson documents)

end Index

end ImageSearch
