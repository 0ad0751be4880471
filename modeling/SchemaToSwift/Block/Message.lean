import SchemaToSwift.Block.Enum

/-!
# Blocks of a message

The fixed text of a generated message: the head of its declaration with the stored properties, to
which nested declarations and the initialiser are added by the printer, and the extension that gives
it its proto name.
-/

namespace SchemaToSwift

/-- A stored property. -/
structure PropertyText where
  name : String
  declaration : String
  initialValue : String
deriving Repr, DecidableEq

/-- The head of the declaration of a message. -/
structure MessageBlock where
  lite : Bool
  access : String
  runtimePrefix : String
  runtimeModule : String
  name : String
  properties : List PropertyText
deriving Repr, DecidableEq

/-- The text of the head. -/
def MessageBlock.text (b : MessageBlock) : String :=
  let inFull (lines : List String) : List String := if b.lite then [] else lines
  unlines (
    [b.access ++ "struct " ++ b.name ++ ": Sendable \x7b"] ++
    inFull [
      "  // " ++ b.runtimePrefix ++
        "Message conformance is added in an extension below. See the",
      "  // `Message` and `Message+*Additions` files in the " ++ b.runtimeModule ++ " library for",
      "  // methods supported on all messages.",
      ""] ++
    b.properties.flatMap (fun p =>
      ["  " ++ b.access ++ "var " ++ p.name ++ ": " ++ p.declaration ++ " = " ++ p.initialValue] ++
      inFull [""]) ++
    inFull ["  " ++ b.access ++ "var unknownFields = " ++ b.runtimePrefix ++ "UnknownStorage()"])

/-- The extension of a message that gives it its proto name and those of its fields. -/
structure MessageRuntimeBlock where
  access : String
  runtimePrefix : String
  name : String
  /-- The expression of the message's proto name. -/
  protoName : String
  fields : List NameMapEntry
deriving Repr, DecidableEq

/-- The text of the extension. -/
def MessageRuntimeBlock.text (b : MessageRuntimeBlock) : String :=
  "\n".intercalate (
    ["extension " ++ b.name ++ ": " ++ b.runtimePrefix ++ "Message, " ++ b.runtimePrefix ++
        "_MessageImplementationBase, " ++ b.runtimePrefix ++ "_ProtoNameProviding \x7b",
      "  " ++ b.access ++ "static let protoMessageName: String = " ++ b.protoName] ++
    nameMapLines b.access b.runtimePrefix b.fields ++
    ["\x7d"])

end SchemaToSwift
