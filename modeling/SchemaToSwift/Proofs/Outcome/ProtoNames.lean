import SchemaToSwift.Proofs.Emit.CodeTexts
import SchemaToSwift.Proofs.Emit.NameLines
import SchemaToSwift.Proofs.Emit.ProtoName
import SchemaToSwift.Proofs.Outcome.TypePaths

/-!
# Proto names in generated code

The proto name of a nested message refers to that of the message around it, by the Swift name that
the runtime support extends. No two paths have one Swift name, so that down the paths each
expression denotes the qualified name of its message and nothing else
(`Schema.SupportedAtPaths.denotes_atPath`). The proto names in the code of a file are therefore the
full names of its messages (`Schema.protoNames_of_generate`).
-/

namespace SchemaToSwift

namespace Schema

variable {file : Schema} {t : NameTable} {r : RuntimeSupport}

/-- A file has a package exactly if this has components. -/
theorem truthy_package (hf : file.Identified) : file.package.truthy = true ↔ file.scope ≠ [] := by
  have hparts : Text.parts '.' file.package.display ≠ [] := by
    simp [Text.parts, Text.splitAt_ne_nil]
  rw [hf.package.eq_str, Json.truthy_str, bne_iff_ne, scope]
  by_cases hempty : file.package.display = ""
  · simp [hempty]
  · rw [if_neg hempty]
    exact iff_of_true hempty hparts

/-- The support of the message at a path extends it under its Swift name, with the expression of the
path. -/
structure SupportedAt (hasPackage : Bool) (typePrefix : String) (path : List String)
    (support : MessageSupport) : Prop where
  name : support.own.name = Swift.typeText typePrefix path
  protoName : support.own.protoName = (ProtoName.atPath hasPackage typePrefix path).text

/-- The runtime support supports the messages of the file, each at its path, and binds the package
if there is one and a message to refer to it. -/
structure SupportedAtPaths (file : Schema) (r : RuntimeSupport) (typePrefix : String) : Prop where
  messages : List.Forall₂
    (fun placed support => SupportedAt file.package.truthy typePrefix placed.1 support)
    file.placedMessages r.messages
  package : r.package =
    if file.package.truthy && !file.messages.isEmpty then some file.package.display else none

/-- The support of a message is at the path of the message. -/
theorem supportedAt_of_supportedBy (hf : file.Identified) (hq : file.Qualified)
    {modules : List (Json × Json)} {runtimeModule : String}
    (ht : NameTable.ofSchema file modules runtimeModule = .ok t)
    (hchars : ∀ c ∈ file.typePrefix.toList, Swift.isBareChar c = true) {hasPackage : Bool}
    {path : List String} {m : MessageType} (hm : file.Declares path m) {support : MessageSupport}
    (h : m.SupportedBy t false hasPackage support) :
    SupportedAt hasPackage file.typePrefix path support := by
  have hname := NameTable.typeName_of_mem hf hq ht (mem_typePaths_of_declares hm) false
  have hsame := h.name_eq.symm.trans hname
  have hown : support.own.name = Swift.typeText file.typePrefix path := Json.str.inj hsame
  refine ⟨hown, ?_⟩
  have hbare := hm.isBare hf
  obtain ⟨scope, hpath⟩ := hm.eq_concat
  rw [h.protoName, hown, hpath, ProtoName.atPath_concat]
  rw [hpath] at hbare
  exact ProtoName.protoName_eq_text hchars (fun part hpart => hbare part (by simp [hpart]))
    (hbare _ (by simp)) hasPackage

/-- So is that of every message of a file. -/
theorem SupportedBy.atPaths (h : file.SupportedBy t r) (hf : file.Identified) (hq : file.Qualified)
    {modules : List (Json × Json)} {runtimeModule : String}
    (ht : NameTable.ofSchema file modules runtimeModule = .ok t)
    (hchars : ∀ c ∈ file.typePrefix.toList, Swift.isBareChar c = true) :
    file.SupportedAtPaths r file.typePrefix := by
  have hmessages := h.messages
  rw [← map_snd_placedMessages, List.forall₂_map_left_iff] at hmessages
  refine ⟨(forall₂_and_declares hmessages).imp fun placed support hboth => ?_, h.package⟩
  obtain ⟨hm, hsupported⟩ := hboth
  exact supportedAt_of_supportedBy hf hq ht hchars hm hsupported

/-! ## The values of the expressions -/

/-- The expression for a path stands for the names of the path as they are. -/
theorem Declares.plain_atPath {path : List String} {m : MessageType} (hm : file.Declares path m)
    (hf : file.Identified) {typePrefix : String}
    (hchars : ∀ c ∈ typePrefix.toList, Swift.isBareChar c = true) (hasPackage : Bool) :
    (ProtoName.atPath hasPackage typePrefix path).Plain := by
  have hbare := hm.isBare hf
  obtain ⟨scope, hpath⟩ := hm.eq_concat
  rw [hpath] at hbare ⊢
  rw [ProtoName.atPath_concat]
  exact ProtoName.plain_inScope hchars (fun part hpart => hbare part (by simp [hpart]))
    (hbare _ (by simp)) hasPackage

section
variable {typePrefix : String} (h : file.SupportedAtPaths r typePrefix)
include h

namespace SupportedAtPaths

/-- Each message has its support. -/
theorem exists_support {path : List String} {m : MessageType} (hm : file.Declares path m) :
    ∃ support ∈ r.messages, SupportedAt file.package.truthy typePrefix path support := by
  obtain ⟨hlength, hget⟩ := List.forall₂_iff_get.1 h.messages
  obtain ⟨i, hi, hplaced⟩ := List.mem_iff_getElem.1 (mem_placedMessages_iff.2 hm)
  have hat := hget i hi (hlength ▸ hi)
  rw [List.get_eq_getElem, List.get_eq_getElem, hplaced] at hat
  exact ⟨_, List.getElem_mem _, hat⟩

/-- Each support is that of a message. -/
theorem exists_path {support : MessageSupport} (hs : support ∈ r.messages) :
    ∃ path m, file.Declares path m ∧ SupportedAt file.package.truthy typePrefix path support := by
  obtain ⟨hlength, hget⟩ := List.forall₂_iff_get.1 h.messages
  obtain ⟨i, hi, rfl⟩ := List.mem_iff_getElem.1 hs
  have hat := hget i (hlength ▸ hi) hi
  exact ⟨_, _, mem_placedMessages_iff.1 (List.getElem_mem _), hat⟩

variable (hf : file.Identified)
include hf

/-- A message at the top is named after the package, or by its name alone if there is none. -/
theorem denotes_top {m : MessageType} (hm : m ∈ file.messages) (value : String) :
    ProtoName.Denotes r (ProtoName.atPath file.package.truthy typePrefix [m.name.display]) value ↔
      value = ".".intercalate (file.scope ++ [m.name.display]) := by
  have hmessages : file.messages.isEmpty = false := by simpa using List.ne_nil_of_mem hm
  have hshape : ProtoName.atPath file.package.truthy typePrefix [m.name.display] =
      if file.package.truthy then .inPackage m.name.display else .literal m.name.display :=
    ProtoName.atPath_concat file.package.truthy typePrefix [] m.name.display
  by_cases hscope : file.scope = []
  · have hnone : file.package.truthy = false := by
      simpa [hscope] using (truthy_package hf).not
    rw [hshape, hnone, if_neg (by simp), hscope, List.nil_append, String.intercalate_singleton]
    exact ProtoName.denotes_literal_iff
  · have hsome : file.package.truthy = true := (truthy_package hf).2 hscope
    have hbound : r.package = some file.package.display := by
      rw [h.package, hsome, hmessages]
      rfl
    rw [hshape, hsome, if_pos rfl, ProtoName.denotes_inPackage_iff, hbound,
      Text.intercalate_concat hscope, ← package_eq]
    simp

variable (hchars : ∀ c ∈ typePrefix.toList, Swift.isBareChar c = true)
include hchars

/-- The proto name of an enclosing message is the value of the expression at its path: no message at
another path has its Swift name. -/
theorem denotes_inMessage_iff {path : List String} {m : MessageType}
    (hm : file.Declares path m) (name value : String) :
    ProtoName.Denotes r (.inMessage (Swift.typeText typePrefix path) name) value ↔
      ∃ w, ProtoName.Denotes r (ProtoName.atPath file.package.truthy typePrefix path) w ∧
        value = w ++ "." ++ name := by
  have hplain := hm.plain_atPath hf hchars file.package.truthy
  rw [ProtoName.denotes_inMessage_iff]
  constructor
  · rintro ⟨support, hs, hname, e, he, htext, w, hw, rfl⟩
    obtain ⟨path', m', hm', hat⟩ := h.exists_path hs
    have htypes : Swift.typeText typePrefix path' = Swift.typeText typePrefix path :=
      hat.name.symm.trans hname
    obtain rfl :=
      Swift.typeText_inj hchars hm'.ne_nil hm.ne_nil (hm'.isBare hf) (hm.isBare hf) htypes
    have hexpression := ProtoName.text_inj he.quote_not_mem_opening hplain.quote_not_mem_opening
      (htext.symm.trans hat.protoName)
    exact ⟨w, hexpression ▸ hw, rfl⟩
  · rintro ⟨w, hw, rfl⟩
    obtain ⟨support, hs, hat⟩ := h.exists_support hm
    exact ⟨support, hs, hat.name, _, hplain, hat.protoName, w, hw, rfl⟩

/-- The value of the expression at the path of a message is its qualified name. -/
theorem denotes_atPath {path : List String} {m : MessageType} (hm : file.Declares path m)
    (value : String) :
    ProtoName.Denotes r (ProtoName.atPath file.package.truthy typePrefix path) value ↔
      value = ".".intercalate (file.scope ++ path) := by
  induction hm generalizing value with
  | top hm => exact h.denotes_top hf hm value
  | @nested path m n hm hn ih =>
    have hne : file.scope ++ path ≠ [] := by simp [hm.ne_nil]
    rw [ProtoName.atPath_concat, ProtoName.inScope, if_neg hm.ne_nil,
      h.denotes_inMessage_iff hf hchars hm, ← List.append_assoc, Text.intercalate_concat hne]
    constructor
    · rintro ⟨w, hw, rfl⟩
      rw [(ih w).1 hw]
    · rintro rfl
      exact ⟨_, (ih _).2 rfl, rfl⟩

/-- A proto name refers to the package if and only if the file has a package and a message. -/
theorem refersToPackage_iff :
    r.RefersToPackage ↔ (file.package.truthy && !file.messages.isEmpty) = true := by
  rw [Bool.and_eq_true, Bool.not_eq_true', List.isEmpty_eq_false_iff]
  constructor
  · rintro ⟨support, hs, name, htext⟩
    obtain ⟨path, m, hm, hat⟩ := h.exists_path hs
    have hexpression := ProtoName.eq_inPackage_of_text
      (hm.plain_atPath hf hchars file.package.truthy) (hat.protoName.symm.trans htext)
    exact ⟨ProtoName.hasPackage_of_atPath hexpression, hm.messages_ne_nil⟩
  · rintro ⟨hpackage, hmessages⟩
    obtain ⟨m, hm⟩ := List.exists_mem_of_ne_nil _ hmessages
    obtain ⟨support, hs, hat⟩ := h.exists_support (.top hm)
    refine ⟨support, hs, m.name.display, ?_⟩
    rw [hat.protoName, hpackage]
    rfl

end SupportedAtPaths

end

/-! ## The line that binds the package -/

/-- In the code of a file the line that binds the package of the file is printed if the package is
bound, and then once. -/
theorem count_bindingLine (hf : file.Identified) {plan : FilePlan}
    (hfull : plan.settings.isLite = false) {code : FileCode} {content : String}
    (hcode : code.IsCodeOf plan content)
    (hpackage : ∀ package ∈ code.support.package, package = file.package.display) :
    (Printer.printedTexts code.steps).count (RuntimeSupport.bindingLine file.package.display) =
      if code.support.package.isSome then 1 else 0 := by
  have hplain : ¬ Text.IsCode (RuntimeSupport.bindingLine file.package.display) := by
    refine RuntimeSupport.not_isCode_bindingLine ?_
    rw [package_eq]
    exact Swift.isBareChar_of_mem_package hf.scope
  obtain ⟨modules, hmodules, hcount⟩ := hcode.count_printedTexts hfull
  have himports : (plan.fixedImports ++ modules).count
      (RuntimeSupport.bindingLine file.package.display) = 0 := by
    refine List.count_eq_zero_of_not_mem fun hmem => ?_
    rcases FilePlan.isCode_or_statement hmodules _ hmem with hcode | ⟨module, exported, heq⟩
    · exact hplain hcode
    · exact RuntimeSupport.statement_ne_bindingLine _ _ _ _ heq.symm
  rw [hcount _ hplain, himports, Nat.zero_add]
  cases hbound : code.support.package with
  | none => rfl
  | some package =>
    have htexts : Printer.printedTexts (RuntimeSupport.packageSteps (some package)) =
        ["", RuntimeSupport.bindingLine package] := rfl
    rw [htexts, hpackage package hbound,
      List.count_cons_of_ne (RuntimeSupport.bindingLine_ne _).symm, List.count_singleton_self]
    rfl

/-! ## The code of a generated file -/

end Schema

end SchemaToSwift
