import SchemaToSwift.Proofs.Emit.Code

/-!
# The lines that names stand in

In the code of a file every declaration begins with the line that has its name, every stored
property has a line in the head of its message, and every extension for the runtime begins with the
line that has the name of the extended type (`FileCode.namesInLines`).
-/

namespace SchemaToSwift

/-! ## The first lines of blocks -/

/-- The line that the declaration of an enum begins with. -/
def EnumBlock.headLine (b : EnumBlock) : String :=
  if b.lite then b.access ++ "enum " ++ b.name ++ ": Int, Swift.CaseIterable \x7b"
  else b.access ++ "enum " ++ b.name ++ ": " ++ b.runtimePrefix ++ "Enum, Swift.CaseIterable \x7b"

/-- The line that the declaration of a message begins with. -/
def MessageBlock.headLine (b : MessageBlock) : String :=
  b.access ++ "struct " ++ b.name ++ ": Sendable \x7b"

/-- The line that the extension of an enum begins with. -/
def EnumRuntimeBlock.headLine (b : EnumRuntimeBlock) : String :=
  "extension " ++ b.name ++ ": " ++ b.runtimePrefix ++ "_ProtoNameProviding \x7b"

/-- The line that the extension of a message begins with. -/
def MessageRuntimeBlock.headLine (b : MessageRuntimeBlock) : String :=
  "extension " ++ b.name ++ ": " ++ b.runtimePrefix ++ "Message, " ++ b.runtimePrefix ++
    "_MessageImplementationBase, " ++ b.runtimePrefix ++ "_ProtoNameProviding \x7b"

/-- The line of a property that is stored for a field. -/
def MessageBlock.propertyLine (b : MessageBlock) (p : PropertyText) : String :=
  "  " ++ b.access ++ "var " ++ p.name ++ ": " ++ p.declaration ++ " = " ++ p.initialValue

/-- The text of an enum begins with the line that names it. -/
theorem EnumBlock.exists_text (b : EnumBlock) : ∃ rest, b.text = unlines (b.headLine :: rest) := by
  unfold text headLine
  cases b.lite <;> exact ⟨_, rfl⟩

/-- So does the text of the head of a message. -/
theorem MessageBlock.exists_text (b : MessageBlock) :
    ∃ rest, b.text = unlines (b.headLine :: rest) := ⟨_, rfl⟩

/-- So does the runtime support of an enum. -/
theorem EnumRuntimeBlock.exists_text (b : EnumRuntimeBlock) :
    ∃ rest, b.text = "\n".intercalate (b.headLine :: rest) := ⟨_, rfl⟩

/-- So does the runtime support of a message. -/
theorem MessageRuntimeBlock.exists_text (b : MessageRuntimeBlock) :
    ∃ rest, b.text = "\n".intercalate (b.headLine :: rest) := ⟨_, rfl⟩

/-- A stored property has a line of its own in the head. -/
theorem MessageBlock.exists_propertyLine (b : MessageBlock) {p : PropertyText}
    (hp : p ∈ b.properties) :
    ∃ before after, b.text = unlines (before ++ b.propertyLine p :: after) := by
  have hlines (opening closing : List String) (between : List String) :
      ∃ before after, opening ++ (b.properties.flatMap fun q => [b.propertyLine q] ++ between) ++
        closing = before ++ b.propertyLine p :: after := by
    refine List.append_of_mem (List.mem_append_left _ (List.mem_append_right _ ?_))
    exact List.mem_flatMap.2 ⟨p, hp, .head _⟩
  obtain ⟨before, after, h⟩ := hlines _ _ _
  exact ⟨before, after, congrArg unlines h⟩

/-! ## Declarations -/

namespace TypeDeclaration

mutual

/-- The declarations in a declaration, each before those nested in it. -/
def subtree : TypeDeclaration → List TypeDeclaration
  | .enum block => [.enum block]
  | .message head nested => .message head nested :: subtrees nested

/-- The declarations in those of a list, each before those nested in it. -/
def subtrees : List TypeDeclaration → List TypeDeclaration
  | [] => []
  | d :: ds => subtree d ++ subtrees ds

end

/-- The text that a declaration begins with: all of an enum, and the head of a message. -/
def text : TypeDeclaration → String
  | .enum block => block.text
  | .message head _ => head.text

/-- The line that a declaration begins with. -/
def headLine : TypeDeclaration → String
  | .enum block => block.headLine
  | .message head _ => head.headLine

end TypeDeclaration

/-- All names in the code stand in lines of it: those of declarations in their first lines, those of
properties in lines of their own, and those of extended types in the first lines of the
extensions. -/
structure FileCode.NamesInLines (code : FileCode) : Prop where
  declarations : ∀ d ∈ TypeDeclaration.subtrees code.declarations,
    ∃ rest, d.text = unlines (d.headLine :: rest)
  properties : ∀ head ∈ code.heads, ∀ p ∈ head.properties,
    ∃ before after, head.text = unlines (before ++ head.propertyLine p :: after)
  messages : ∀ m ∈ code.support.messages,
    ∃ rest, m.own.text = "\n".intercalate (m.own.headLine :: rest)
  enums : ∀ b ∈ code.support.enums ++ code.support.messages.flatMap (·.enums),
    ∃ rest, b.text = "\n".intercalate (b.headLine :: rest)

theorem FileCode.namesInLines (code : FileCode) : code.NamesInLines where
  declarations d _ := by
    cases d with
    | enum block => exact block.exists_text
    | message head nested => exact head.exists_text
  properties head _ _ hp := head.exists_propertyLine hp
  messages m _ := m.own.exists_text
  enums b _ := b.exists_text

end SchemaToSwift
