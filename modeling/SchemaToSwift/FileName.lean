import SchemaToSwift.Text.Split

/-!
# File names

A slash-separated file name is a folder, a base and a suffix, which joined give the name back: the
folder ends with its slash, and the suffix begins with the last dot of what follows it, unless that
dot is its first character. `FileNaming` derives the name of an output file from these parts.
-/

namespace SchemaToSwift

/-- The parts of a file name. -/
structure FileName where
  folder : String
  base : String
  suffix : String
deriving Repr, DecidableEq

namespace FileName

/-- The parts of a file name. -/
def split (name : String) : FileName :=
  let (before, last) := Text.cutLast '/' name.toList
  let folder := match before with
    | some cs => cs ++ ['/']
    | none => []
  match Text.cutLast '.' last with
  | (some (c :: base), after) =>
    ⟨String.ofList folder, String.ofList (c :: base), String.ofList ('.' :: after)⟩
  | _ => ⟨String.ofList folder, String.ofList last, ""⟩

/-- The name without its folder. -/
def withoutFolder (n : FileName) : String := n.base ++ n.suffix

end FileName

/-- How the name of an output file is derived from the name of the input file. -/
inductive FileNaming
  /-- The folder is kept. -/
  | fullPath
  /-- The folder becomes part of the base, with underscores for slashes. -/
  | pathToUnderscores
  /-- The folder is dropped. -/
  | dropPath
deriving Repr, DecidableEq

namespace FileNaming

/-- The ending of generated files. -/
def swiftEnding : String := ".pb.swift"

/-- The name of the output file with the given ending. -/
def outputName (naming : FileNaming) (name ending : String) : String :=
  let parts := FileName.split name
  match naming with
  | .fullPath => parts.folder ++ parts.base ++ ending
  | .pathToUnderscores =>
    String.ofList (parts.folder.toList.map fun c => if c == '/' then '_' else c) ++ parts.base ++
      ending
  | .dropPath => parts.base ++ ending

end FileNaming

end SchemaToSwift
