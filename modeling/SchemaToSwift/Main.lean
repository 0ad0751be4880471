import SchemaToSwift.CommandLine.Run

/-!
# The command

The outer layer: it reads the files that the arguments and the settings name into a tree, runs the
command on the tree, and puts what the run changed, printed and told into the file system and the
standard streams.
-/

namespace SchemaToSwift.CommandLine

/-- The files of modules that pairs of a configuration name. -/
def moduleFiles (pairs : List (String × Json)) : List String :=
  pairs.filterMap fun
    | ("module_mappings_file", .str path) => some path
    | _ => none

/-- The files that a run with the arguments may read, as far as the tree shows them. -/
def inputPaths (tree : FileTree) (args : Arguments) : List String :=
  let configured := match args.config.value? with
    | some path =>
      path :: match SettingsFile.configuration.readObject tree path with
        | .ok pairs => moduleFiles pairs
        | .error _ => []
    | none => []
  let parameters := match Parameter.parse (args.parameter.value?.getD "") with
    | .ok pairs => moduleFiles pairs
    | .error _ => []
  configured ++ parameters ++ args.moduleMappings.value?.toList ++ args.descriptorSet.toList

/-- What stands at a path of the file system. -/
def entryAt (path : String) : IO (Option FileEntry) := do
  try
    if ← (← IO.FS.realPath path).isDir then return some .folder
    match String.fromUTF8? (← IO.FS.readBinFile path) with
    | some characters => return some (.text (Text.ofCharacters characters))
    | none => return some .binary
  catch _ => return none

/-- The tree with what stands at a path and at the folders on the way to it. -/
def withPath (tree : FileTree) (path : FilePath) : IO FileTree := do
  let start := if path.isAbsolute then [] else tree.here
  let mut tree := tree
  for n in List.range path.parts.length do
    let parts := path.parts.take (n + 1)
    if let some characters := Text.characters? (FilePath.text ⟨path.start, parts⟩) then
      if let some entry ← entryAt characters then
        tree := tree.put (FilePath.collapsed (start ++ parts)) entry
  return tree

/-- The tree with what stands at the paths. -/
def withPaths (tree : FileTree) (paths : List FilePath) : IO FileTree := paths.foldlM withPath tree

/-- The location of the folder in which relative paths start. -/
def workingFolder : IO Location := do
  return (FilePath.ofText (Text.ofCharacters (← IO.currentDir).toString)).parts

/-- The path in the file system of a location. -/
def pathOf (loc : Location) : String :=
  let path := FilePath.text ⟨.root, loc⟩
  (Text.characters? path).getD path

/-- Puts an entry of the tree after a run into the file system, unless it was there before. -/
def store (before : FileTree) (loc : Location) (entry : FileEntry) : IO Unit := do
  if before.entry? loc != some entry then
    match entry with
    | .folder => IO.FS.createDirAll (pathOf loc)
    | .text content => IO.FS.writeFile (pathOf loc) ((Text.characters? content).getD content)
    | .binary => return

/-- Puts what a run leaves behind into the file system and the standard streams. -/
def conclude (before : FileTree) (args : List String) (report : Report) : IO UInt32 := do
  for (loc, entry) in report.session.tree.entries.reverse do
    store before loc entry
  IO.print ((Text.characters? report.stdout).getD report.stdout)
  if let some e := report.error? then IO.eprintln ("Error: " ++ e.message ++ e.causeText)
  for outcome in report.outcomes do
    match outcome with
    | .generated .. => pure ()
    | .rejected _ reason => IO.eprintln reason.message
  match report.ending with
  | .exit 2 =>
    IO.eprintln ("cannot make sense of the arguments: " ++ " ".intercalate args)
    return 2
  | .exit code => return code.toUInt32
  | .fault _ =>
    IO.eprintln "Error: a value of the wrong kind stands in the input"
    return 1

end SchemaToSwift.CommandLine

open SchemaToSwift SchemaToSwift.CommandLine in
/-- Runs the command. -/
def main (args : List String) : IO UInt32 := do
  let argv := args.map Text.ofCharacters
  let start := FileTree.empty (← workingFolder)
  let before ← match Arguments.parse argv with
    | .error _ => pure start
    | .ok args =>
      let paths := inputPaths start args ++ args.outputDir.value?.toList
      let tree ← withPaths start (paths.map FilePath.ofText)
      let named := (inputPaths tree args).map FilePath.ofText
      withPaths tree (named ++ args.saveConfig.value?.toList ++ args.logFile.value?.toList)
  conclude before args (run before argv)
