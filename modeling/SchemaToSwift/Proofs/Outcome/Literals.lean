import SchemaToSwift.Proofs.Emit.ProtoName
import SchemaToSwift.Proofs.Outcome.Extensions
import SchemaToSwift.Proofs.Swift.Literal

/-!
# Literals in generated code

Five kinds of lines in the code of a file hold a literal with a text of the schema. The entries of
name tables and the names of extensions are written as literals, and so they are read as what the
schema has (`LiteralLine.readsAs_literal`). The package and the names of messages stand between
quotes as they are, and so they are read as what the schema has if and only if they need no escape
(`LiteralLine.readsAs_self_iff`). `Schema.literals_of_generate` says so of all such lines in the
code of a file.
-/

namespace SchemaToSwift

/-! ## Lines with literals -/

/-- A line of code with a literal in it. -/
structure LiteralLine where
  before : String
  /-- What stands between the quotes. -/
  written : String
  after : String

namespace LiteralLine

/-- The text of the line. -/
def text (l : LiteralLine) : String := l.before ++ "\"" ++ l.written ++ "\"" ++ l.after

/-- What follows the opening quote is read as a literal of the value, which ends where the line has
its closing quote. -/
def ReadsAs (l : LiteralLine) (value : String) : Prop :=
  Swift.readLiteral (l.written.toList ++ '"' :: l.after.toList) =
    some (value.toList, l.after.toList)

/-- One of the lines is this one, and its literal is read as the value. -/
def Gives (l : LiteralLine) (lines : List String) (value : Json) : Prop :=
  l.text ∈ lines ∧ ∃ s, value = .str s ∧ l.ReadsAs s

/-- An escaped text is read as the text. -/
theorem readsAs_literal (before value after : String) :
    ReadsAs ⟨before, Swift.literal value, after⟩ value :=
  Swift.readLiteral_literal value after.toList

/-- What is written as it is, is read as itself exactly if it needs no escape. -/
theorem readsAs_self_iff (l : LiteralLine) :
    l.ReadsAs l.written ↔ Swift.NeedsNoEscape l.written.toList :=
  Swift.readLiteral_raw_iff l.written.toList l.after.toList

end LiteralLine

/-- The line of an entry in a table of names. -/
def NameMapEntry.literalLine (e : NameMapEntry) : LiteralLine :=
  ⟨"    " ++ e.number ++ ": ." ++ e.kind ++ "(proto: ", Swift.literal e.protoName, "),"⟩

/-- The line of an extension object that has the name of the extension. -/
def ObjectText.literalLine (x : ObjectText) : LiteralLine :=
  ⟨"  fieldName: ", Swift.literal x.fullName, ""⟩

/-- The line that binds the package. -/
def RuntimeSupport.packageLine (package : String) : LiteralLine :=
  ⟨"fileprivate let _protobuf_package = ", package, ""⟩

/-- The line that gives a message its proto name. -/
def ProtoName.literalLine (access : String) (e : ProtoName) : LiteralLine :=
  ⟨"  " ++ access ++ "static let protoMessageName: String = " ++ e.opening, e.quoted, ""⟩

/-! ## Blocks with literals -/

/-- An entry is on a line of its table. -/
theorem NameMapEntry.mem_nameMapLines (access runtimePrefix : String) {entries : List NameMapEntry}
    {e : NameMapEntry} (h : e ∈ entries) :
    e.literalLine.text ∈ nameMapLines access runtimePrefix entries := by
  have hsome : ¬ entries.isEmpty = true := by simpa using List.ne_nil_of_mem h
  have htext : e.literalLine.text = "    " ++ e.number ++ ": ." ++ e.kind ++ "(proto: \"" ++
      Swift.literal e.protoName ++ "\")," :=
    String.toList_injective (by simp [literalLine, LiteralLine.text])
  rw [nameMapLines, if_neg hsome, htext]
  exact List.mem_append_left _ (List.mem_append_right _ (List.mem_map_of_mem h))

/-- Each entry of a message's table of names has its line in the runtime support. -/
theorem MessageRuntimeBlock.mem_lines (b : MessageRuntimeBlock) {e : NameMapEntry}
    (h : e ∈ b.fields) : e.literalLine.text ∈ b.lines :=
  List.mem_append_left _ (List.mem_append_right _ (NameMapEntry.mem_nameMapLines _ _ h))

/-- So has each entry of an enum's table. -/
theorem EnumRuntimeBlock.mem_lines (b : EnumRuntimeBlock) {e : NameMapEntry} (h : e ∈ b.entries) :
    e.literalLine.text ∈ b.lines :=
  List.mem_append_left _ (List.mem_append_right _ (NameMapEntry.mem_nameMapLines _ _ h))

/-- An extension object has a line with the name of the extension. -/
theorem ObjectText.mem_lines (access runtimePrefix : String) (x : ObjectText) :
    x.literalLine.text ∈ x.lines access runtimePrefix := by
  have htext : x.literalLine.text = "  fieldName: \"" ++ Swift.literal x.fullName ++ "\"" :=
    String.toList_injective (by simp [literalLine, LiteralLine.text])
  rw [lines, htext]
  simp

/-- The package is bound in a line of its own after a blank one. -/
theorem RuntimeSupport.packageSteps_some (package : String) :
    packageSteps (some package) = [.lines ["", (packageLine package).text]] := by
  have htext : (packageLine package).text =
      "fileprivate let _protobuf_package = \"" ++ package ++ "\"" :=
    String.toList_injective (by simp [packageLine, LiteralLine.text])
  rw [packageSteps, htext]

/-- Entries with the names of what they are made of are read as these names. -/
theorem NameMapEntry.gives_of_names {α : Type} {nameOf : α → Json} {xs : List α}
    {entries : List NameMapEntry} {lines : List String}
    (h : List.Forall₂ (fun x e => nameOf x = .str e.protoName) xs entries)
    (hlines : ∀ e ∈ entries, e.literalLine.text ∈ lines) :
    List.Forall₂ (fun x e => e.literalLine.Gives lines (nameOf x)) xs entries := by
  induction h with
  | nil => exact .nil
  | cons hname _ ih =>
    obtain ⟨hfirst, hrest⟩ := List.forall_mem_cons.1 hlines
    exact .cons ⟨hfirst, _, hname, LiteralLine.readsAs_literal ..⟩ (ih hrest)

/-! ## Proto names -/

/-- The expression that is printed for the proto name of a message of the given Swift name. -/
def ProtoName.printed (hasPackage : Bool) (swiftName name : String) : ProtoName :=
  if Text.scopeOf swiftName ≠ "" then .inMessage (Text.scopeOf swiftName) name
  else if hasPackage then .inPackage name
  else .literal name

/-- The expression is the text that the plan of a message prints. -/
theorem ProtoName.text_printed (hasPackage : Bool) (swiftName name : String) :
    MessagePlan.protoName hasPackage swiftName name = (printed hasPackage swiftName name).text := by
  unfold MessagePlan.protoName printed
  by_cases hscope : Text.scopeOf swiftName = ""
  · cases hasPackage <;> simp [hscope, text_literal, text_inPackage]
  · simp [hscope, text_inMessage]

/-- It stands at the end of the line that gives the message its proto name. -/
theorem ProtoName.text_literalLine (access : String) (e : ProtoName) :
    (e.literalLine access).text =
      "  " ++ access ++ "static let protoMessageName: String = " ++ e.text :=
  String.toList_injective (by simp [literalLine, LiteralLine.text, text])

/-- The name stands between the quotes, after a dot unless there is nothing before it. -/
theorem ProtoName.quoted_printed (hasPackage : Bool) (swiftName name : String) :
    (printed hasPackage swiftName name).quoted = name ∨
      (printed hasPackage swiftName name).quoted = "." ++ name := by
  unfold printed
  split
  · exact .inr rfl
  · split
    · exact .inr rfl
    · exact .inl rfl

/-! ## Support with literals -/

/-- The line that gives a supported message its proto name. -/
def MessageSupport.nameLine (hasPackage : Bool) (support : MessageSupport) (name : String) :
    LiteralLine :=
  (ProtoName.printed hasPackage support.own.name name).literalLine support.own.access

/-- The extension of an enum gives the name of the first value of each number. -/
structure EnumType.GivenBy (e : EnumType) (block : EnumRuntimeBlock) : Prop where
  text : block.text = "\n".intercalate block.lines
  values : List.Forall₂ (fun v entry => entry.literalLine.Gives block.lines v.name)
    (EnumType.firstValues e.values) block.entries

/-- The support of a message gives the names of its fields and of the values of its enums. The name
of the message is the end of its proto name, and is read there as it is if and only if it needs no
escape. -/
structure MessageType.GivenBy (hasPackage : Bool) (m : MessageType) (support : MessageSupport) :
    Prop where
  text : support.own.text = "\n".intercalate support.own.lines
  fields : List.Forall₂ (fun f entry => entry.literalLine.Gives support.own.lines f.name) m.fields
    support.own.fields
  enums : List.Forall₂ EnumType.GivenBy m.enums support.enums
  line : (support.nameLine hasPackage m.name.display).text ∈ support.own.lines
  name : (support.nameLine hasPackage m.name.display).written = m.name.display ∨
    (support.nameLine hasPackage m.name.display).written = "." ++ m.name.display
  read : (support.nameLine hasPackage m.name.display).ReadsAs
      (support.nameLine hasPackage m.name.display).written ↔
    Swift.NeedsNoEscape m.name.display.toList

variable {t : NameTable} {shorten : Bool}

/-- The runtime support of an enum gives the names of its values. -/
theorem EnumType.SupportedBy.givenBy {e : EnumType} {block : EnumRuntimeBlock}
    (h : e.SupportedBy t shorten block) : e.GivenBy block where
  text := rfl
  values := by
    have hnames : List.Forall₂ (fun (v : EnumValue) (entry : NameMapEntry) =>
        v.name = .str entry.protoName) (EnumType.firstValues e.values) block.entries :=
      List.forall₂_map_right_iff.2 h.cases
    exact NameMapEntry.gives_of_names hnames fun _ => block.mem_lines

/-- That of a message gives the names of its fields and enums. -/
theorem MessageType.SupportedBy.givenBy {hasPackage : Bool} {m : MessageType}
    {support : MessageSupport} (h : m.SupportedBy t shorten hasPackage support) :
    m.GivenBy hasPackage support where
  text := rfl
  fields := NameMapEntry.gives_of_names h.fields fun _ => support.own.mem_lines
  enums := h.enums.imp fun _ _ => EnumType.SupportedBy.givenBy
  line := by
    rw [MessageSupport.nameLine, ProtoName.text_literalLine, ← ProtoName.text_printed,
      ← h.protoName, MessageRuntimeBlock.lines]
    simp
  name := ProtoName.quoted_printed hasPackage support.own.name m.name.display
  read := by
    rw [LiteralLine.readsAs_self_iff]
    rcases ProtoName.quoted_printed hasPackage support.own.name m.name.display with hname | hname
    · rw [MessageSupport.nameLine, ProtoName.literalLine, hname]
    · rw [MessageSupport.nameLine, ProtoName.literalLine, hname, String.toList_append]
      simp [Swift.NeedsNoEscape]

/-- The package, if there are messages to refer to it, is bound to what it is if and only if it
needs no escape. -/
structure Schema.PackageBoundBy (file : Schema) (r : RuntimeSupport) : Prop where
  package : r.package =
    if file.package.truthy && !file.messages.isEmpty then some file.package.display else none
  line (package : String) : r.package = some package →
    RuntimeSupport.packageSteps r.package =
      [.lines ["", (RuntimeSupport.packageLine package).text]]
  read (package : String) : r.package = some package →
    ((RuntimeSupport.packageLine package).ReadsAs package ↔ Swift.NeedsNoEscape package.toList)

/-- That of a file binds the package. -/
theorem Schema.SupportedBy.packageBoundBy {file : Schema} {r : RuntimeSupport}
    (h : file.SupportedBy t r) : file.PackageBoundBy r where
  package := h.package
  line package hpackage := by rw [hpackage, RuntimeSupport.packageSteps_some]
  read package _ := LiteralLine.readsAs_self_iff (RuntimeSupport.packageLine package)

/-! ## Extensions with literals -/

/-- The objects of plans give the full names of the extensions. -/
theorem ExtensionPlan.gives_of_objectTexts {xs : List ExtensionField} {plans : List ExtensionPlan}
    {objects : List ObjectText} (access runtimePrefix : String)
    (hplans : List.Forall₂ (fun x plan => make t x = .ok plan) xs plans)
    (hobjects : List.Forall₂ (fun plan object => plan.objectText = .ok object) plans objects) :
    List.Forall₂ (fun x object =>
      object.literalLine.Gives (object.lines access runtimePrefix) x.fullName) xs objects := by
  induction hplans generalizing objects with
  | nil =>
    cases hobjects
    exact .nil
  | cons hplan _ ih =>
    obtain _ | ⟨hobject, hrest⟩ := hobjects
    obtain ⟨extendee, -, hobject⟩ := Result.bind_eq_ok_iff.1 hobject
    cases hobject
    exact .cons ⟨ObjectText.mem_lines .., _, (names_of_make hplan).1,
      LiteralLine.readsAs_literal ..⟩ (ih hrest)

/-! ## The literals of a file -/

/-- In the code of a file that is generated in the full profile, the entries of all name tables and
the names of all extensions are read as what the schema has. The package and the name in each proto
name are read as what the schema has if and only if they need no escape. -/
theorem Schema.literals_of_generate {settings : Settings} {file : Schema}
    (hfull : settings.isLite = false) {name output content : String}
    (h : file.generate settings = .ok (.generated name output content)) :
    ∃ (plan : FilePlan) (code : FileCode), FilePlan.make settings file = .ok plan ∧
      code.IsCodeOf plan content ∧ file.PackageBoundBy code.support ∧
      List.Forall₂ EnumType.GivenBy file.enums code.support.enums ∧
      List.Forall₂ (MessageType.GivenBy file.package.truthy) file.allMessages
        code.support.messages ∧
      if file.distinctExtensions.isEmpty then code.extensions = []
      else ∃ c : ExtensionCode, code.extensions = ExtensionCode.markSteps file.name ++ c.steps ∧
        List.Forall₂ (fun x object => object.literalLine.Gives
          (object.lines c.objects.access c.objects.runtimePrefix) x.fullName)
          file.distinctExtensions c.objects.objects := by
  obtain ⟨plan, code, hplan, -, hcode⟩ := code_of_generate h
  obtain ⟨-, rfl, rfl⟩ := FilePlan.make_eq_ok hplan
  have hsupported := hcode.represents.supported hfull
  refine ⟨plan, code, hplan, hcode, hsupported.packageBoundBy,
    hsupported.enums.imp fun _ _ => EnumType.SupportedBy.givenBy,
    hsupported.messages.imp fun _ _ => MessageType.SupportedBy.givenBy, ?_⟩
  have hextended := hcode.represents.extended hfull
  unfold ExtendedBy at hextended
  split
  · next hempty => rwa [if_pos hempty] at hextended
  · next hsome =>
    rw [if_neg hsome] at hextended
    obtain ⟨c, plans, hsteps, hmade⟩ := hextended
    exact ⟨c, hsteps, ExtensionPlan.gives_of_objectTexts _ _ hmade.planned
      (Result.mapM_ok_iff.1 hmade.objects)⟩

/-- A file with a quote in its package and a backslash in a field. -/
def Schema.quotedNames : Schema :=
  { blank "a.proto" with
    package := .str "a\"b"
    swiftPrefix := .str "P"
    messages := [⟨.str "M", .str "a\"b.M", [⟨.str "x\\y", 1, .int32, .optional, "", .str "xY"⟩],
      [], [], []⟩] }

theorem Schema.typed_quotedNames : quotedNames.Typed := by
  refine { typed_blank "a.proto" with
    package := ⟨_, rfl⟩, swiftPrefix := ⟨_, rfl⟩, messages := fun m hm => ?_ }
  obtain rfl := List.mem_singleton.1 hm
  refine ⟨⟨_, rfl⟩, ⟨_, rfl⟩, fun f hf => ?_, by simp, by simp⟩
  rw [List.mem_singleton.1 hf]
  exact ⟨⟨_, rfl⟩, ⟨_, rfl⟩⟩

/-- The backslash of the field is read, and so is the name of the message, but the quote of the
package is not. -/
theorem Schema.literals_of_generate_quoted : ∃ (output content : String) (code : FileCode),
    quotedNames.generate Settings.default = .ok (.generated "a.proto" output content) ∧
      code.Prints content ∧ code.support.package = some "a\"b" ∧
      ¬ (RuntimeSupport.packageLine "a\"b").ReadsAs "a\"b" ∧
      ∃ support entry, code.support.messages = [support] ∧ support.own.fields = [entry] ∧
        entry.literalLine.Gives support.own.lines (.str "x\\y") ∧
        (support.nameLine true "M").ReadsAs (support.nameLine true "M").written := by
  obtain ⟨output, content, hgenerate⟩ := generate_of_sound Settings.typed_default
    typed_quotedNames rfl (by
      rintro ⟨-, x, hx, -⟩
      cases hx)
  obtain ⟨plan, code, -, hcode, hpackage, -, hmessages, -⟩ := literals_of_generate rfl hgenerate
  refine ⟨output, content, code, hgenerate, hcode.prints, hpackage.package, ?_, ?_⟩
  · rw [hpackage.read "a\"b" hpackage.package]
    intro h
    exact h '"' (by decide) (by decide)
  · obtain ⟨support, rest, hgiven, hrest, hsupports⟩ := List.forall₂_cons_left_iff.1 hmessages
    obtain ⟨entry, others, hentry, hothers, hentries⟩ := List.forall₂_cons_left_iff.1 hgiven.fields
    rw [List.forall₂_nil_left_iff.1 hrest] at hsupports
    rw [List.forall₂_nil_left_iff.1 hothers] at hentries
    refine ⟨support, entry, hsupports, hentries, hentry, hgiven.read.2 ?_⟩
    change Swift.NeedsNoEscape ['M']
    simp [Swift.NeedsNoEscape]

end SchemaToSwift
