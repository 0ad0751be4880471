import SchemaToSwift.Block.Extension
import SchemaToSwift.Block.File
import SchemaToSwift.Block.Message
import SchemaToSwift.Proofs.Swift.Literal
import SchemaToSwift.Proofs.Text.OneLine

/-!
# Lines of blocks

A line of a block is empty, has a margin or has a mark that stands in no import (`IsBlockLine`). All
lines of a block are such lines if it is filled with texts of one line: no filling begins a line,
and each line has a margin or a mark of the block's own.
-/

namespace SchemaToSwift

open Text (OneLine EachLine oneLine_append)

/-- Characters one of which stands in each line of a block that is not empty and has no margin. -/
def lineMarks : List Char := ['/', '=', '.', '\x7b', '\x7d', ']', ')']

/-- A text has one of the marks. -/
def IsMarked (s : String) : Prop := s.toList.any (· ∈ lineMarks) = true
deriving Decidable

/-- A text begins with a blank. -/
def HasMargin (s : String) : Prop := s.toList.head? = some ' '
deriving Decidable

/-- A mark of either part is a mark of both together. -/
@[simp] theorem isMarked_append {s u : String} : IsMarked (s ++ u) ↔ IsMarked s ∨ IsMarked u := by
  rw [IsMarked, String.toList_append, List.any_append, Bool.or_eq_true]
  rfl

/-- The margin of a line is that of its first part, unless this is empty. -/
@[simp] theorem hasMargin_append {s u : String} :
    HasMargin (s ++ u) ↔ HasMargin s ∨ s = "" ∧ HasMargin u := by
  rw [HasMargin, HasMargin, HasMargin, String.toList_append, List.head?_append,
    ← String.toList_eq_nil_iff]
  cases s.toList <;> simp

/-- A line as blocks have them. -/
def IsBlockLine (line : String) : Prop :=
  OneLine line ∧ (line = "" ∨ HasMargin line ∨ IsMarked line)
deriving Decidable

theorem isBlockLine_empty : IsBlockLine "" := ⟨by decide, .inl rfl⟩

/-- Lines of a block are all the lines that they have. -/
theorem eachLine_of_isBlockLine {lines : List String} (h : ∀ line ∈ lines, IsBlockLine line) :
    ∀ line ∈ lines, EachLine IsBlockLine line := fun line hline =>
  (h line hline).1.eachLine (h line hline)

/-- So a text of lines of a block has no other lines. -/
theorem eachLine_blockLines {lines : List String} (h : ∀ line ∈ lines, IsBlockLine line) :
    EachLine IsBlockLine (unlines lines) :=
  Text.eachLine_unlines isBlockLine_empty (eachLine_of_isBlockLine h)

/-- Nor has a text of such lines with line feeds between them. -/
theorem eachLine_blockLines_between {lines : List String} (hne : lines ≠ [])
    (h : ∀ line ∈ lines, IsBlockLine line) : EachLine IsBlockLine ("\n".intercalate lines) :=
  Text.eachLine_intercalate hne (eachLine_of_isBlockLine h)

/-! ## Enums -/

/-- A case that is filled with texts of one line. -/
structure EnumCaseText.OneLine (c : EnumCaseText) : Prop where
  name : Text.OneLine c.name
  number : Text.OneLine c.number

namespace EnumBlock

variable {b : EnumBlock} (haccess : OneLine b.access) (hruntime : OneLine b.runtimePrefix)
  (hname : OneLine b.name) (hcases : ∀ c ∈ b.cases, c.OneLine) (hdefault : OneLine b.defaultCase)
include haccess hname hcases hdefault

/-- The lines of an enum in the lite profile. -/
theorem isBlockLine_liteLines : ∀ line ∈ b.liteLines, IsBlockLine line := by
  have hcase : ∀ c ∈ b.cases, IsBlockLine ("  case " ++ c.name ++ " = " ++ c.number) :=
    fun c hc => by
      simp +decide [IsBlockLine, (hcases c hc).name, (hcases c hc).number]
  rw [liteLines]
  simp only [List.forall_mem_append, List.forall_mem_map]
  refine ⟨⟨?_, hcase⟩, ?_⟩ <;> simp +decide [IsBlockLine, haccess, hname, hdefault]

include hruntime

/-- Its lines in the full profile, which adds the two switches and the list of cases. -/
theorem isBlockLine_fullLines : ∀ line ∈ b.fullLines, IsBlockLine line := by
  have hcase : ∀ c ∈ b.cases, IsBlockLine ("  case " ++ c.name ++ " // = " ++ c.number) ∧
      IsBlockLine ("    case " ++ c.number ++ ": self = ." ++ c.name) ∧
      IsBlockLine ("    case ." ++ c.name ++ ": return " ++ c.number) ∧
      IsBlockLine ("    ." ++ c.name ++ ",") := fun c hc => by
    simp +decide [IsBlockLine, (hcases c hc).name, (hcases c hc).number]
  rw [fullLines]
  simp only [List.forall_mem_append, List.forall_mem_map]
  refine ⟨⟨⟨⟨⟨⟨⟨⟨?_, fun c hc => (hcase c hc).1⟩, ?_⟩, fun c hc => (hcase c hc).2.1⟩, ?_⟩,
    fun c hc => (hcase c hc).2.2.1⟩, ?_⟩, fun c hc => (hcase c hc).2.2.2⟩, ?_⟩ <;>
    simp +decide [IsBlockLine, haccess, hruntime, hname, hdefault]

/-- The declaration of an enum. -/
theorem eachLine_text : EachLine IsBlockLine b.text := by
  refine eachLine_blockLines ?_
  split
  · exact isBlockLine_liteLines haccess hname hcases hdefault
  · exact isBlockLine_fullLines haccess hruntime hname hcases hdefault

end EnumBlock

/-- The table of proto names has its lines one level further in. The names themselves are literals,
so they may be any texts. -/
theorem isBlockLine_nameMapLines {access runtimePrefix : String} (haccess : OneLine access)
    (hruntime : OneLine runtimePrefix) {entries : List NameMapEntry}
    (h : ∀ e ∈ entries, OneLine e.number ∧ OneLine e.kind) :
    ∀ line ∈ nameMapLines access runtimePrefix entries, IsBlockLine line := by
  have hentry : ∀ e ∈ entries, IsBlockLine ("    " ++ e.number ++ ": ." ++ e.kind ++
      "(proto: \"" ++ Swift.literal e.protoName ++ "\"),") := fun e he => by
    have hliteral : OneLine (Swift.literal e.protoName) := Swift.not_mem_literal _ (.head _)
    simp +decide [IsBlockLine, (h e he).1, (h e he).2, hliteral]
  unfold nameMapLines
  split
  · simp +decide [IsBlockLine, haccess, hruntime]
  · simp only [List.forall_mem_append, List.forall_mem_map]
    refine ⟨⟨?_, hentry⟩, ?_⟩ <;> simp +decide [IsBlockLine, haccess, hruntime]

/-- The runtime support of an enum. -/
theorem EnumRuntimeBlock.eachLine_text {b : EnumRuntimeBlock} (haccess : OneLine b.access)
    (hruntime : OneLine b.runtimePrefix) (hname : OneLine b.name)
    (hcases : ∀ c ∈ b.cases, OneLine c.number) : EachLine IsBlockLine b.text := by
  refine eachLine_blockLines_between (by simp) ?_
  have hentries : ∀ e ∈ b.cases.map fun c => (⟨c.number, "same", c.protoName⟩ : NameMapEntry),
      OneLine e.number ∧ OneLine e.kind :=
    List.forall_mem_map.2 fun c hc => ⟨hcases c hc, show OneLine "same" by decide⟩
  have htable := isBlockLine_nameMapLines haccess hruntime hentries
  simp only [List.forall_mem_append, List.forall_mem_singleton]
  refine ⟨⟨?_, htable⟩, by decide⟩
  simp +decide [IsBlockLine, hruntime, hname]

/-! ## Messages -/

/-- A stored property that is filled with texts of one line. -/
structure PropertyText.OneLine (p : PropertyText) : Prop where
  name : Text.OneLine p.name
  declaration : Text.OneLine p.declaration
  initialValue : Text.OneLine p.initialValue

/-- The head of a message. -/
theorem MessageBlock.eachLine_text {b : MessageBlock} (haccess : OneLine b.access)
    (hruntime : OneLine b.runtimePrefix) (hmodule : OneLine b.runtimeModule)
    (hname : OneLine b.name) (hproperties : ∀ p ∈ b.properties, p.OneLine) :
    EachLine IsBlockLine b.text := by
  refine eachLine_blockLines ?_
  have hfull {lines : List String} (h : ∀ line ∈ lines, IsBlockLine line) :
      ∀ line ∈ if b.lite then [] else lines, IsBlockLine line := by
    split
    · exact List.forall_mem_nil _
    · exact h
  have hproperty : ∀ p ∈ b.properties, IsBlockLine
      ("  " ++ b.access ++ "var " ++ p.name ++ ": " ++ p.declaration ++ " = " ++ p.initialValue) :=
    fun p hp => by
      simp +decide [IsBlockLine, haccess, (hproperties p hp).name, (hproperties p hp).declaration,
        (hproperties p hp).initialValue]
  simp only [List.forall_mem_append, List.forall_mem_flatMap]
  refine ⟨⟨⟨?_, hfull ?_⟩, fun p hp => ⟨List.forall_mem_singleton.2 (hproperty p hp),
    hfull (List.forall_mem_singleton.2 isBlockLine_empty)⟩⟩, hfull ?_⟩ <;>
    simp +decide [IsBlockLine, haccess, hruntime, hmodule, hname]

/-- The runtime support of a message. -/
theorem MessageRuntimeBlock.eachLine_text {b : MessageRuntimeBlock} (haccess : OneLine b.access)
    (hruntime : OneLine b.runtimePrefix) (hname : OneLine b.name) (hproto : OneLine b.protoName)
    (hfields : ∀ e ∈ b.fields, OneLine e.number ∧ OneLine e.kind) :
    EachLine IsBlockLine b.text := by
  refine eachLine_blockLines_between (by simp) ?_
  simp only [List.forall_mem_append, List.forall_mem_singleton]
  refine ⟨⟨?_, isBlockLine_nameMapLines haccess hruntime hfields⟩, by decide⟩
  simp +decide [IsBlockLine, haccess, hruntime, hname, hproto]

/-! ## Extensions -/

/-- An accessor that is filled with texts of one line. -/
structure AccessorText.OneLine (x : AccessorText) : Prop where
  property : Text.OneLine x.property
  suffix : Text.OneLine x.suffix
  valueType : Text.OneLine x.valueType
  object : Text.OneLine x.object
  defaultValue : Text.OneLine x.defaultValue

/-- The lines of an accessor are lines of a block. -/
theorem AccessorText.OneLine.isBlockLine {x : AccessorText} (h : x.OneLine) {access : String}
    (haccess : Text.OneLine access) : ∀ line ∈ x.lines access, IsBlockLine line := by
  rw [AccessorText.lines, List.forall_mem_append]
  constructor
  · simp +decide [IsBlockLine, haccess, h.property, h.valueType, h.object, h.defaultValue]
  · split
    · exact List.forall_mem_nil _
    · simp +decide [IsBlockLine, haccess, h.suffix, h.object]

/-- The accessors of extensions. -/
theorem AccessorBlock.eachLine_text {b : AccessorBlock} (haccess : OneLine b.access)
    (hgroups : ∀ g ∈ b.groups, OneLine g.extendee ∧ ∀ x ∈ g.accessors, x.OneLine) :
    EachLine IsBlockLine b.text := by
  refine eachLine_blockLines (List.forall_mem_append.2 ⟨by decide +kernel, ?_⟩)
  refine List.forall_mem_flatMap.2 fun g hg => ?_
  obtain ⟨hextendee, haccessors⟩ := hgroups g hg
  simp only [AccessorGroup.lines, List.forall_mem_append, List.forall_mem_flatMap]
  refine ⟨⟨?_, fun x hx => (haccessors x hx).isBlockLine haccess⟩, by decide⟩
  simp +decide [IsBlockLine, hextendee]

/-- So are the entries of a table of extensions. -/
theorem RegistryBlock.isBlockLine_entryLines {objects : List String}
    (h : ∀ o ∈ objects, OneLine o) : ∀ line ∈ entryLines objects, IsBlockLine line := by
  fun_induction entryLines objects with
  | case1 => exact List.forall_mem_nil _
  | case2 last =>
    have hlast := h last (.head _)
    simp +decide [IsBlockLine, hlast]
  | case3 object rest _ ih =>
    obtain ⟨hobject, hrest⟩ := List.forall_mem_cons.1 h
    refine List.forall_mem_cons.2 ⟨?_, ih hrest⟩
    simp +decide [IsBlockLine, hobject]

/-- The table of extensions. -/
theorem RegistryBlock.eachLine_text {b : RegistryBlock} (haccess : OneLine b.access)
    (hruntime : OneLine b.runtimePrefix) (hname : OneLine b.name)
    (hobjects : ∀ o ∈ b.objects, OneLine o) : EachLine IsBlockLine b.text := by
  refine eachLine_blockLines_between (by simp) ?_
  simp only [List.forall_mem_append, List.forall_mem_singleton]
  refine ⟨⟨?_, isBlockLine_entryLines hobjects⟩, by decide⟩
  simp +decide [IsBlockLine, haccess, hruntime, hname]

/-- An extension object that is filled with texts of one line, its full name left out. -/
structure ObjectText.OneLine (x : ObjectText) : Prop where
  object : Text.OneLine x.object
  fieldType : Text.OneLine x.fieldType
  extendee : Text.OneLine x.extendee
  number : Text.OneLine x.number

/-- The extension objects. -/
theorem ObjectBlock.eachLine_text {b : ObjectBlock} (haccess : OneLine b.access)
    (hruntime : OneLine b.runtimePrefix) (hobjects : ∀ x ∈ b.objects, x.OneLine) :
    EachLine IsBlockLine b.text := by
  refine eachLine_blockLines (List.forall_mem_append.2 ⟨by decide +kernel, ?_⟩)
  refine List.forall_mem_flatMap.2 fun x hx => ?_
  have hliteral : OneLine (Swift.literal x.fullName) := Swift.not_mem_literal _ (.head _)
  obtain ⟨hobject, htype, hextendee, hnumber⟩ := hobjects x hx
  rw [ObjectText.lines]
  simp +decide [IsBlockLine, haccess, hruntime, hobject, htype, hextendee, hnumber, hliteral]

/-! ## The check of the runtime version -/

/-- The check of the runtime version. -/
theorem VersionBlock.eachLine_text {b : VersionBlock} (hruntime : OneLine b.runtimePrefix)
    (hmodule : OneLine b.runtimeModule) (hversion : OneLine b.version) :
    EachLine IsBlockLine b.text := by
  refine eachLine_blockLines_between (by simp) ?_
  simp +decide [IsBlockLine, hruntime, hmodule, hversion]

end SchemaToSwift
