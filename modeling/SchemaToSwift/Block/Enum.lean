import SchemaToSwift.Swift.Literal

/-!
# Blocks of an enum

The fixed text of a generated enum, as records of what varies in it and the text they give: the
declaration in the full and in the lite profile, and the extension that maps cases to proto names.
-/

namespace SchemaToSwift

/-- Lines, each with a line feed after it. -/
def unlines (lines : List String) : String := String.join (lines.map (· ++ "\n"))

/-- A case of a generated enum. -/
structure EnumCaseText where
  name : String
  number : String
  protoName : String
deriving Repr, DecidableEq

/-- The declaration of an enum. -/
structure EnumBlock where
  lite : Bool
  access : String
  runtimePrefix : String
  name : String
  cases : List EnumCaseText
  defaultCase : String
deriving Repr, DecidableEq

namespace EnumBlock

variable (b : EnumBlock)

/-- The lines of a declaration in the lite profile. -/
def liteLines : List String :=
  [b.access ++ "enum " ++ b.name ++ ": Int, Swift.CaseIterable \x7b"] ++
  b.cases.map (fun c => "  case " ++ c.name ++ " = " ++ c.number) ++
  ["",
    "  " ++ b.access ++ "init() \x7b",
    "    self = ." ++ b.defaultCase,
    "  \x7d",
    "\x7d"]

/-- The lines of a declaration in the full profile. -/
def fullLines : List String :=
  [b.access ++ "enum " ++ b.name ++ ": " ++ b.runtimePrefix ++ "Enum, Swift.CaseIterable \x7b",
    "  " ++ b.access ++ "typealias RawValue = Int"] ++
  b.cases.map (fun c => "  case " ++ c.name ++ " // = " ++ c.number) ++
  ["  case UNRECOGNIZED(Int)",
    "",
    "  " ++ b.access ++ "init() \x7b",
    "    self = ." ++ b.defaultCase,
    "  \x7d",
    "",
    "  " ++ b.access ++ "init?(rawValue: Int) \x7b",
    "    switch rawValue \x7b"] ++
  b.cases.map (fun c => "    case " ++ c.number ++ ": self = ." ++ c.name) ++
  ["    default: self = .UNRECOGNIZED(rawValue)",
    "    \x7d",
    "  \x7d",
    "",
    "  " ++ b.access ++ "var rawValue: Int \x7b",
    "    switch self \x7b"] ++
  b.cases.map (fun c => "    case ." ++ c.name ++ ": return " ++ c.number) ++
  ["    case .UNRECOGNIZED(let i): return i",
    "    \x7d",
    "  \x7d",
    "",
    "  // The compiler won't synthesize support with the UNRECOGNIZED case.",
    "  " ++ b.access ++ "static let allCases: [" ++ b.name ++ "] = ["] ++
  b.cases.map (fun c => "    ." ++ c.name ++ ",") ++
  ["  ]",
    "",
    "\x7d"]

/-- The text of the declaration. -/
def text : String := unlines (if b.lite then b.liteLines else b.fullLines)

end EnumBlock

/-- An entry of a table of proto names. -/
structure NameMapEntry where
  number : String
  /-- Whether the property has the proto name itself or the one derived from it. -/
  kind : String
  protoName : String
deriving Repr, DecidableEq

/-- The lines of the table of proto names. -/
def nameMapLines (access runtimePrefix : String) (entries : List NameMapEntry) : List String :=
  if entries.isEmpty then
    ["  " ++ access ++ "static let _protobuf_nameMap = " ++ runtimePrefix ++ "_NameMap()"]
  else
    ["  " ++ access ++ "static let _protobuf_nameMap: " ++ runtimePrefix ++ "_NameMap = ["] ++
    entries.map (fun e =>
      "    " ++ e.number ++ ": ." ++ e.kind ++ "(proto: \"" ++ Swift.literal e.protoName ++
        "\"),") ++
    ["  ]"]

/-- The extension of an enum that knows the proto names of its cases. -/
structure EnumRuntimeBlock where
  access : String
  runtimePrefix : String
  name : String
  cases : List EnumCaseText
deriving Repr, DecidableEq

/-- The text of the extension. -/
def EnumRuntimeBlock.text (b : EnumRuntimeBlock) : String :=
  "\n".intercalate (
    ["extension " ++ b.name ++ ": " ++ b.runtimePrefix ++ "_ProtoNameProviding \x7b"] ++
    nameMapLines b.access b.runtimePrefix
      (b.cases.map fun c => ⟨c.number, "same", c.protoName⟩) ++
    ["\x7d"])

end SchemaToSwift
