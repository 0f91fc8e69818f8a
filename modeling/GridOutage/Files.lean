import GridOutage.Document.Format
import GridOutage.Error
import GridOutage.Network.Document
import GridOutage.OutageList.Basic
import GridOutage.Settings

/-!
# Files (loaders of ctg-core, ctg-filter and ctg-contingency)

`Files` is what the program asks of a file system: the kind of a path, the text of a file and the
names in a directory, in any monad. On it stand the loaders of networks, filters, lists and
settings. `FileTree` is a file system that is a value.
-/
namespace GridOutage

open Document (Format decodeText)
open GridOutage.Filter (FilterSpec)

inductive FileKind where
  | file | directory
  deriving DecidableEq, Repr

/-- Access to a file system. -/
structure Files (m : Type → Type) where
  /-- What is at a path, if anything is. -/
  kind? : String → m (Option FileKind)
  /-- The text of a file. -/
  read? : String → m (Option String)
  /-- The names in a directory, in any order. -/
  names? : String → m (Option (List String))

namespace Files

variable {m : Type → Type} [Monad m]

/-! ## Documents -/

/-- The network of the text of a document. Mirrors `load_network_from_path`. -/
def networkOfText (format : Format) (text : String) : Except Error Network := do
  let d ← (decodeText NetworkDocument.decode format text).mapError (.undecodable .parse)
  d.toNetwork.mapError .network

/-- The filter of the text of a document. Mirrors `load_filter_spec_from_path`. -/
def filterOfText (format : Format) (text : String) : Except Error FilterSpec :=
  (decodeText FilterSpec.decode format text).mapError (.undecodable .configuration)

/-- The list of the text of a document. Its content is read before its type is known. Mirrors
`load_list_record_from_path`. -/
def listOfText (format : Format) (text : String) : Except Error OutageList.Draft :=
  (decodeText (fun o v => OutageList.Draft.decode (v.limited (Document.nesting o))) format text).mapError
    (.undecodable .configuration)

/-- What the file at a path holds. -/
def load {α : Type} (files : Files m) (read : Format → String → Except Error α) (path : String) :
    m (Except Error α) := do
  match ← files.read? path with
  | some text => return read (.ofPath path) text
  | none => return .error .unreadable

/-- The path of a name in a directory. -/
def child (directory name : String) : String := directory ++ "/" ++ name

/-- What all of some files hold; the first fault is the error. -/
def loadAll {α : Type} (files : Files m) (read : Format → String → Except Error α) :
    List String → m (Except Error (List α))
  | [] => return .ok []
  | path :: paths => do
    match ← files.load read path with
    | .ok a => return (← files.loadAll read paths).map (a :: ·)
    | .error e => return .error e

/-- The names in a directory that are those of files with documents, in order. -/
def documentNames (files : Files m) (directory : String) : m (Except Error (List String)) := do
  match ← files.names? directory with
  | some names =>
    let documents ← (names.filter fun n => (Format.ofName? n).isSome).filterM fun n => do
      return (← files.kind? (child directory n)) == some .file
    return .ok (documents.mergeSort fun a b => a ≤ b)
  | none => return .error .unreadable

/-- The lists in a directory, in the order of their file names. Mirrors
`load_list_records_from_dir`. -/
def loadDirectory (files : Files m) (directory : String) : m (Except Error (List OutageList.Draft)) := do
  match ← files.documentNames directory with
  | .ok names => files.loadAll listOfText (names.map (child directory))
  | .error e => return .error e

/-- The settings at a path; where there is nothing they are the standard ones. -/
def loadSettings (files : Files m) (path : String) : m (Except Error Settings) := do
  match ← files.kind? path with
  | none => return .ok .standard
  | some _ => match ← files.read? path with
    | some text => return Settings.ofText text
    | none => return .error .unreadable

end Files

/-! ## File systems as values -/

/-- Files with their texts and directories, by the parts of their paths. A directory is also what
stands before the last part of a path. -/
structure FileTree where
  files : List (List String × String)
  directories : List (List String) := []

namespace FileTree

/-- The parts of a path as it is written. -/
def parts (path : String) : List String := path.splitOn "/"

/-- A tree of files and directories given by their paths. -/
def ofPaths (files : List (String × String)) (directories : List String) : FileTree where
  files := files.map fun (path, text) => (parts path, text)
  directories := directories.map parts

def isDirectory (t : FileTree) (place : List String) : Bool :=
  place.isEmpty || t.directories.any place.isPrefixOf ||
    t.files.any fun (p, _) => place.length < p.length && place.isPrefixOf p

def textAt? (t : FileTree) (place : List String) : Option String := t.files.lookup place

/-- Where the parts of a path lead from a place. Only directories can be passed through. -/
def walk (t : FileTree) : List String → List String → Option (List String)
  | place, [] => some place
  | place, p :: ps =>
    if !t.isDirectory place then none
    else if p == "" || p == "." then t.walk place ps
    else if p == ".." then if place.isEmpty then none else t.walk place.dropLast ps
    else
      let next := place ++ [p]
      if t.isDirectory next || (t.textAt? next).isSome then t.walk next ps else none

/-- The place of a path below the root. An empty path and one from outside lead nowhere. -/
def resolve (t : FileTree) (path : String) : Option (List String) :=
  if path == "" || path.startsWith "/" then none else t.walk [] (parts path)

def kind? (t : FileTree) (path : String) : Option FileKind :=
  (t.resolve path).map fun p => if t.isDirectory p then .directory else .file

def read? (t : FileTree) (path : String) : Option String := (t.resolve path).bind t.textAt?

/-- The names right below a place. -/
def below (t : FileTree) (place : List String) : List String :=
  let paths := t.files.map Prod.fst ++ t.directories
  (paths.filterMap fun p => if place.isPrefixOf p then (p.drop place.length).head? else none).eraseDups

def names? (t : FileTree) (path : String) : Option (List String) := do
  let p ← t.resolve path
  if t.isDirectory p then some (t.below p) else none

/-- The tree as a file system. -/
def access (t : FileTree) : Files Id := ⟨t.kind?, t.read?, t.names?⟩

end FileTree

end GridOutage
