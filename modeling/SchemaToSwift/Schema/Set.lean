import SchemaToSwift.Journal
import SchemaToSwift.Schema.Decode

/-!
# Sets of schema files

A set of schema files is what one run generates code from: the files and, if not all of them are
wanted, the names of the wanted ones, all of which have to be in the set.
-/

namespace SchemaToSwift

/-- The schema files of a run. -/
structure SchemaSet where
  files : List Schema
  /-- The names of the wanted files, if not all are. -/
  wanted : Option (List String)
deriving Repr

namespace SchemaSet

/-- The names among the wanted ones that no file has. A name that cannot be looked up is a fault. -/
def unknown (files : List Schema) (wanted : List Json) : Except Fault (List Json) := do
  let keys ← wanted.mapM Json.asKey
  return keys.filter fun k => !files.any fun f => k.same (.str f.name)

/-- The wanted names of a set, which are all names of its files. -/
def wantedNames (files : List Schema) (v : Json) :
    Except (Failure SchemaError) (Option (List String)) := do
  match v with
  | .null => return none
  | .arr items =>
    let missing ← Failure.escape (unknown files items)
    let names ← Failure.escape (missing.mapM (·.asText .wrongType))
    if !names.isEmpty then throw (.reported (.unknownFiles names))
    return some (← Failure.escape (items.mapM (·.asText .wrongType)))
  | _ => throw (.reported .wantedNotList)

/-- The set that a document describes: a list of files, or an object with one. -/
def ofJson (v : Json) : Except (Failure SchemaError) SchemaSet := do
  let (entries, wanted) := match v with
    | .obj members =>
      ((members.lookup "files").getD .null, (members.lookup "file_to_generate").getD .null)
    | v => (v, .null)
  match entries with
  | .arr items =>
    let files ← items.mapM Schema.ofJson
    return { files, wanted := ← wantedNames files wanted }
  | _ => throw (.reported .noFiles)

/-- The set in a file that is there. -/
def readFile (tree : FileTree) (p : FilePath) : Except (Failure SchemaError) SchemaSet := do
  match tree.read p with
  | .error .badEncoding => throw (.escaped .badEncoding)
  | .error fault => throw (.reported (.unreadable p.text fault))
  | .ok text =>
    match Json.parse text with
    | .error e => throw (e.failure (.badJson p.text))
    | .ok v => ofJson v

/-- The session after loading the set in a file, and the set. -/
def loadIn (s : Session) (path : String) : Session × Except (Failure SchemaError) SchemaSet :=
  let p := FilePath.ofText path
  let s := s.tell (.loadingSet p.text)
  match s.tree.has p with
  | .error fault => (s, .error (.escaped fault))
  | .ok false => (s.tell (.setMissing p.text), .error (.reported (.noSuchFile p.text)))
  | .ok true =>
    match readFile s.tree p with
    | .error e => (s, .error e)
    | .ok set => (s.tell (.setLoaded set.files.length), .ok set)

/-- The set in a file. -/
def load (tree : FileTree) (path : String) : Except (Failure SchemaError) SchemaSet :=
  (loadIn (.start tree) path).2

end SchemaSet

end SchemaToSwift
