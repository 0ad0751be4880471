import SchemaToSwift.Fault
import SchemaToSwift.Text.Bytes
import SchemaToSwift.Text.Split

/-!
# Paths and trees of files

A `FilePath` is a slash-separated path without empty components and without single dots. A
`FileTree` is what a program sees of a file system: folders and files by location, and the folder
it works in. Following a path goes component by component, a double dot to the folder above. A
location holds the names that the bytes of the components spell, while messages show a path as it
was given. A text can also be written to a path that is taken as it stands: there a single dot has
to be in a folder, and a slash at the end asks for one.
-/

namespace SchemaToSwift

/-- Where a path starts. Two slashes are a start of their own, more are as one. -/
inductive PathStart
  | workingFolder
  | root
  | otherRoot
deriving Repr, DecidableEq

namespace PathStart

/-- The start of a text. -/
def ofText (s : String) : PathStart :=
  match (s.toList.takeWhile (· == '/')).length with
  | 0 => workingFolder
  | 2 => otherRoot
  | _ => root

/-- The slashes of a start. -/
def text : PathStart → String
  | workingFolder => ""
  | root => "/"
  | otherRoot => "//"

end PathStart

/-- A path. -/
structure FilePath where
  start : PathStart
  parts : List String
deriving Repr, DecidableEq

namespace FilePath

/-- The path that a text denotes. -/
def ofText (s : String) : FilePath where
  start := .ofText s
  parts := (Text.parts '/' s).filter fun p => p != "" && p != "."

/-- The text of a path. -/
def text (p : FilePath) : String :=
  if p.start = .workingFolder ∧ p.parts = [] then "." else p.start.text ++ "/".intercalate p.parts

/-- Whether the path does not depend on the folder in which relative paths start. -/
def isAbsolute (p : FilePath) : Bool := p.start != .workingFolder

/-- The second path as seen from the first. -/
def join (p q : FilePath) : FilePath := if q.isAbsolute then q else ⟨p.start, p.parts ++ q.parts⟩

/-- The path without its last component. -/
def parent (p : FilePath) : FilePath := { p with parts := p.parts.dropLast }

/-- The components with each double dot taken together with the component before it. -/
def collapsed (parts : List String) : List String :=
  parts.foldl (fun acc p => if p = ".." then acc.dropLast else acc ++ [p]) []

end FilePath

/-- What stands at a location. -/
inductive FileEntry
  | folder
  | text (content : String)
  /-- A file that is not text in UTF-8. -/
  | binary
deriving Repr, DecidableEq

/-- A place in a tree: the names that lead to it from the root. -/
abbrev Location := List String

/-- The name that a component of a path stands for: its bytes that are a character are that
character. -/
def FilePath.nameOf (part : String) : String :=
  Text.ofPoints (Text.joinBytes (Text.points part.toList))

/-- Files and folders by location. -/
structure FileTree where
  entries : List (Location × FileEntry)
  /-- The folder in which relative paths start. -/
  here : Location
deriving Repr

namespace FileTree

/-- The greatest length in bytes of a component and of a whole path. -/
def maxComponent : Nat := 255

/-- The greatest length in bytes of a path. -/
def maxPath : Nat := 4095

/-- The number of bytes of a code point in a path. Halves that stand for no byte cannot be in a
path. -/
def byteCount (p : Text.Point) : Except Fault Nat :=
  match p with
  | .char c => .ok c.utf8Size
  | .half _ => if p.byte?.isSome then .ok 1 else .error .unencodable

/-- The number of bytes of a text that can stand in a path, which holds no null. A half without a
byte is noticed before a null is. -/
def byteLength (s : String) : Except Fault Nat := do
  let counts ← (Text.points s.toList).mapM byteCount
  if s.toList.contains '\x00' then throw .badValue
  return counts.foldl (· + ·) 0

/-- Refuses a text that cannot be a path. -/
def checkText (s : String) : Except Fault Unit := do
  if maxPath < (← byteLength s) then throw .badName

/-- Whether a component is too long. -/
def isTooLong (part : String) : Bool :=
  match byteLength part with
  | .ok n => maxComponent < n
  | .error _ => true

/-- The tree with nothing but the folders that lead to the working folder. -/
def empty (here : Location) : FileTree where
  entries := (List.range (here.length + 1)).map fun n => (here.take n, .folder)
  here := here

/-- What stands at a location. -/
def entry? (t : FileTree) (loc : Location) : Option FileEntry :=
  if loc.isEmpty then some .folder else t.entries.lookup loc

/-- Whether a folder stands at a location. -/
def isFolder (t : FileTree) (loc : Location) : Bool := t.entry? loc == some .folder

/-- The tree with an entry put at a location. -/
def put (t : FileTree) (loc : Location) (e : FileEntry) : FileTree :=
  { t with entries := (loc, e) :: t.entries.filter (·.1 != loc) }

/-- The location where a path starts. -/
def origin (t : FileTree) (start : PathStart) : Location :=
  if start = .workingFolder then t.here else []

/-- The location that a path leads to from a location. -/
def follow (t : FileTree) : Location → List String → Except Fault Location
  | loc, [] => .ok loc
  | loc, part :: rest =>
    if !t.isFolder loc then .error .notFolder
    else if part = "." then t.follow loc rest
    else if part = ".." then t.follow loc.dropLast rest
    else if isTooLong part then .error .badName
    else
      let next := loc ++ [FilePath.nameOf part]
      if (t.entry? next).isSome then t.follow next rest else .error .noFile

/-- The location that a path leads to. -/
def locate (t : FileTree) (p : FilePath) : Except Fault Location := do
  checkText p.text
  t.follow (t.origin p.start) p.parts

/-- Whether something stands at the end of a path. -/
def has (t : FileTree) (p : FilePath) : Except Fault Bool :=
  match t.locate p with
  | .ok _ => .ok true
  | .error .badName => .error .badName
  | .error _ => .ok false

/-- The text of a file. -/
def read (t : FileTree) (p : FilePath) : Except Fault String := do
  match t.entry? (← t.locate p) with
  | some (.text s) => return s
  | some .binary => .error .badEncoding
  | some .folder => .error .isFolder
  | none => .error .noFile

/-- The location of the file that a path leads to, which need not be there, but its folder has
to. -/
def fileAt (t : FileTree) (start : Location) (parts : List String) : Except Fault Location := do
  match parts.getLast? with
  | none => throw .isFolder
  | some name =>
    let folder ← t.follow start parts.dropLast
    if !t.isFolder folder then throw .notFolder
    if name = "." || name = ".." then throw .isFolder
    if isTooLong name then throw .badName
    let loc := folder ++ [FilePath.nameOf name]
    if t.isFolder loc then throw .isFolder
    return loc

/-- The location of the file at a path. -/
def fileOf (t : FileTree) (p : FilePath) : Except Fault Location := do
  checkText p.text
  t.fileAt (t.origin p.start) p.parts

/-- The location of the file at a path that is taken as it stands. With a slash at its end it leads
to a folder, if anywhere. -/
def fileOfText (t : FileTree) (path : String) : Except Fault Location := do
  checkText path
  if path = "" then throw .noFile
  let names := (Text.parts '/' path).filter (· != "")
  let parts := if path.toList.getLast? == some '/' then names.dropLast ++ ["."] else names
  t.fileAt (t.origin (.ofText path)) parts

/-- The tree with a text written to the file at a location. A text that has no bytes leaves the file
empty. -/
def write (t : FileTree) (loc : Location) (content : String) : FileTree × Except Fault Unit :=
  if Text.hasHalf content then (t.put loc (.text ""), .error .unencodable)
  else (t.put loc (.text content), .ok ())

/-- The tree with a text put at the end of a file. -/
def append (t : FileTree) (loc : Location) (content : String) : FileTree :=
  match t.entry? loc with
  | some (.text before) => t.put loc (.text (before ++ content))
  | _ => t

/-- The tree with one folder made, where nothing may stand yet. -/
def makeFolder (t : FileTree) (p : FilePath) : Except Fault FileTree := do
  checkText p.text
  match p.parts.getLast? with
  | none => throw .fileExists
  | some name =>
    let folder ← t.follow (t.origin p.start) p.parts.dropLast
    if !t.isFolder folder then throw .notFolder
    if name = ".." then throw .fileExists
    if isTooLong name then throw .badName
    let loc := folder ++ [FilePath.nameOf name]
    if (t.entry? loc).isSome then throw .fileExists
    return t.put loc .folder

/-- Whether a path leads to a folder. -/
def isFolderAt (t : FileTree) (p : FilePath) : Bool :=
  match t.locate p with
  | .ok loc => t.isFolder loc
  | .error _ => false

/-- The tree with a folder made unless it is there, or the path and the fault that stopped it. -/
def ensureFolder (t : FileTree) (p : FilePath) : Except (FilePath × Fault) FileTree :=
  match t.makeFolder p with
  | .ok t => .ok t
  | .error fault => if t.isFolderAt p then .ok t else .error (p, fault)

/-- The tree with a folder and the missing folders above it made, by the components of its path in
reverse, and what stopped it. Above a folder whose parent is missing, the parent is made first. -/
def makeFoldersTo (t : FileTree) (start : PathStart) :
    List String → FileTree × Except (FilePath × Fault) Unit
  | [] => match t.ensureFolder ⟨start, []⟩ with
    | .ok t => (t, .ok ())
    | .error e => (t, .error e)
  | name :: above =>
    let p : FilePath := ⟨start, (name :: above).reverse⟩
    match t.ensureFolder p with
    | .ok t => (t, .ok ())
    | .error (_, .noFile) =>
      match t.makeFoldersTo start above with
      | (t, .error e) => (t, .error e)
      | (t, .ok ()) =>
        match t.ensureFolder p with
        | .ok t => (t, .ok ())
        | .error e => (t, .error e)
    | .error e => (t, .error e)

/-- The tree with all folders of a path, and the path and the fault that stopped it if they cannot
all be made. -/
def makeFolders (t : FileTree) (p : FilePath) : FileTree × Except (FilePath × Fault) Unit :=
  t.makeFoldersTo p.start p.parts.reverse

end FileTree

end SchemaToSwift
