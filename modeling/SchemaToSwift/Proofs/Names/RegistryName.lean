import SchemaToSwift.Emit.ExtensionSet
import SchemaToSwift.Proofs.Names.Typed
import SchemaToSwift.Proofs.Swift.Letters
import SchemaToSwift.Proofs.Swift.TypePrefix

/-!
# The name of the table of extensions

The name is put together from the type prefix, the base of the file name in upper camel case and a
fixed ending. Any character may stand in a file name, the camel case may be empty, and it and the
prefix of a package may begin with a digit; the name is an identifier all the same
(`ExtensionSet.isBare_registryName`).
-/

namespace SchemaToSwift

open Swift

/-- Where bare characters would begin with a digit, an underscore before them makes an
identifier. -/
theorem Swift.isBare_digitGuarded {name : String} (h : ∀ c ∈ name.toList, isBareChar c = true)
    (hne : name ≠ "") :
    isBare (if name.toList.head?.any Text.isDigit then "_" ++ name else name) = true := by
  split
  · have hall : ∀ c ∈ ("_" ++ name).toList, isBareChar c = true := by
      simpa [isBareChar] using h
    rw [isBare, isBareChars_eq hall, String.toList_append]
    rfl
  · next hdigit =>
    rw [isBare, isBareChars_eq h]
    cases hchars : name.toList with
    | nil => exact absurd (String.toList_eq_nil_iff.1 hchars) hne
    | cons c rest =>
      rw [hchars] at h hdigit
      have hc := h c (.head _)
      have hplain : c.isDigit = false := by
        simpa [Text.isDigit, show c.toNat < 128 from of_decide_eq_true (isAscii_of_isBareChar hc)]
          using hdigit
      exact (isBareChar_iff.1 hc).resolve_right (by simp [hplain])

/-- The prefix of types is made of bare characters. -/
theorem Swift.isBareChar_typePrefix {scope : List String}
    (hscope : ∀ part ∈ scope, isBare part = true) {swiftPrefix : String}
    (hgiven : swiftPrefix = "" ∨ isBare swiftPrefix = true) :
    ∀ c ∈ (typePrefix (".".intercalate scope) swiftPrefix).toList, isBareChar c = true := by
  rw [typePrefix]
  split
  · exact isBareChar_packagePrefix (isBareChar_of_mem_package hscope)
  · next hne => exact fun c hc => isBareChar_of_mem (hgiven.resolve_left hne) hc

namespace ExtensionSet

/-- Camel case keeps of a file name bare characters only. -/
theorem isBareChar_upperCamel_base (points : List Text.Point) :
    ∀ c ∈ (upperCamel (String.ofList (points.map fun
      | .char c => if isBareChar c then c else '_'
      | .half _ => '_'))).toList, isBareChar c = true := by
  rw [upperCamel, String.toList_ofList, String.toList_ofList]
  refine fun c hc => isBareChar_of_isAlphanum (isAlphanum_upperCamelChars ?_ c hc)
  intro d hd
  obtain ⟨point, -, rfl⟩ := List.mem_map.1 hd
  cases point with
  | half => rfl
  | char c =>
    change isBareChar (if isBareChar c then c else '_') = true
    split
    · assumption
    · rfl

/-- The name of the table of extensions is an identifier and no reserved word, whatever the name of
the file. -/
theorem isBare_registryName {file : Schema} (hfile : file.Typed) {scope : List String}
    (hscope : ∀ part ∈ scope, isBare part = true)
    (hpackage : file.package = .str (".".intercalate scope)) {swiftPrefix : String}
    (hgiven : swiftPrefix = "" ∨ isBare swiftPrefix = true)
    (hswiftPrefix : file.swiftPrefix = .str swiftPrefix) (modules : List (Json × Json))
    (runtimeModule : String) :
    ∃ t, NameTable.ofSchema file modules runtimeModule = .ok t ∧
      isBare (registryName t) = true ∧ registryName t ∉ reservedWords := by
  obtain ⟨t, ht, htable⟩ := NameTable.tableOf_ofSchema hfile modules runtimeModule
  have hbefore := isBareChar_typePrefix hscope hgiven
  have hdisplay : t.typePrefix.display = typePrefix (".".intercalate scope) swiftPrefix := by
    rw [htable.typePrefix_eq, hpackage, hswiftPrefix]
    rfl
  refine ⟨t, ht, ?_, fun hmem => underscore_not_mem_reservedWords _ hmem ?_⟩
  · refine isBare_digitGuarded ?_ ?_
    · rw [hdisplay]
      simp only [String.toList_append, List.forall_mem_append]
      exact ⟨⟨hbefore, isBareChar_upperCamel_base _⟩, List.all_eq_true.1 (by decide)⟩
    · simp [String.append_eq_empty_iff]
  · unfold registryName
    dsimp only
    split <;> simp

/-- A file whose package and whose name's base each leave a digit in front. -/
def numbered : Schema := { Schema.blank "a.b/2-é.x.proto" with package := .str "_1.b" }

theorem isBare_registryName_numbered :
    numbered.Typed ∧ (∀ part ∈ ["_1", "b"], isBare part = true) ∧
      numbered.package = .str (".".intercalate ["_1", "b"]) ∧ numbered.swiftPrefix = .str "" ∧
        ∃ t, NameTable.ofSchema numbered [] "SwiftProtobuf" = .ok t ∧
          registryName t = "_1_B_2X_Extensions" ∧ isBare (registryName t) = true := by
  have hblank := Schema.typed_blank "a.b/2-é.x.proto"
  have htyped : numbered.Typed := { hblank with package := Json.isText_str _ }
  have hscope : ∀ part ∈ ["_1", "b"], isBare part = true := by decide
  have hpackage : numbered.package = .str (".".intercalate ["_1", "b"]) := by
    rw [show ".".intercalate ["_1", "b"] = "_1.b" from by decide]
    rfl
  obtain ⟨t, ht, hbare, -⟩ :=
    isBare_registryName htyped hscope hpackage (.inl rfl) rfl [] "SwiftProtobuf"
  obtain ⟨t', ht', htable⟩ := NameTable.tableOf_ofSchema htyped [] "SwiftProtobuf"
  cases Except.ok.inj (ht.symm.trans ht')
  refine ⟨htyped, hscope, hpackage, rfl, t, ht, ?_, hbare⟩
  unfold registryName
  rw [htable.typePrefix_eq, htable.file_eq]
  decide +kernel

end ExtensionSet

end SchemaToSwift
