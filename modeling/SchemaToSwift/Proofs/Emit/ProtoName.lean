import SchemaToSwift.Proofs.Emit.Code
import SchemaToSwift.Proofs.Swift.Components

/-!
# Expressions of proto names

The runtime support of a message gives it a proto name by an expression: the name itself, or the
name appended to the package that the file binds, or to the proto name of the enclosing message,
which the runtime support of that message gives (`ProtoName.Denotes`). Expressions that hold no
quotes but those of the literal are told apart by their texts (`ProtoName.text_inj`), so that the
text of an expression can be read back.
-/

namespace SchemaToSwift

/-- The expression of a proto name. -/
inductive ProtoName
  | literal (name : String)
  | inPackage (name : String)
  | inMessage (parent name : String)

namespace ProtoName

/-- The text before the quotes. -/
def opening : ProtoName → String
  | .literal _ => ""
  | .inPackage _ => "_protobuf_package + "
  | .inMessage parent _ => parent ++ ".protoMessageName + "

/-- The text between the quotes. -/
def quoted : ProtoName → String
  | .literal name => name
  | .inPackage name | .inMessage _ name => "." ++ name

/-- The text of the expression. -/
def text (e : ProtoName) : String := e.opening ++ "\"" ++ e.quoted ++ "\""

theorem text_literal (name : String) : (literal name).text = "\"" ++ name ++ "\"" := by
  rw [text, opening, quoted, String.empty_append]

theorem text_inPackage (name : String) :
    (inPackage name).text = "_protobuf_package + \"." ++ name ++ "\"" :=
  String.toList_injective (by simp [text, opening, quoted])

theorem text_inMessage (parent name : String) :
    (inMessage parent name).text = parent ++ ".protoMessageName + \"." ++ name ++ "\"" :=
  String.toList_injective (by simp [text, opening, quoted])

/-- A text that stands for itself between quotes. -/
structure PlainText (s : String) : Prop where
  quote : '"' ∉ s.toList
  backslash : '\\' ∉ s.toList
  newline : '\n' ∉ s.toList

/-- An expression whose names stand for themselves. -/
def Plain : ProtoName → Prop
  | .literal name | .inPackage name => PlainText name
  | .inMessage parent name => PlainText parent ∧ PlainText name

/-- The value of an expression in the runtime support of a file. The proto name of a message is the
value of the expression that its own runtime support has for it. -/
inductive Denotes (r : RuntimeSupport) : ProtoName → String → Prop
  | literal (name : String) : Denotes r (.literal name) name
  | inPackage {package : String} (h : r.package = some package) (name : String) :
      Denotes r (.inPackage name) (package ++ "." ++ name)
  | inMessage {support : MessageSupport} {e : ProtoName} {value : String}
      (hsupport : support ∈ r.messages) (he : e.Plain) (htext : support.own.protoName = e.text)
      (hvalue : Denotes r e value) (name : String) :
      Denotes r (.inMessage support.own.name name) (value ++ "." ++ name)

section
variable {r : RuntimeSupport} {parent name value : String}

/-- A literal has the value that is written. -/
theorem denotes_literal_iff : Denotes r (.literal name) value ↔ value = name := by
  constructor
  · rintro ⟨⟩
    rfl
  · rintro rfl
    exact .literal value

/-- A name in the package has a value if the package is bound. -/
theorem denotes_inPackage_iff :
    Denotes r (.inPackage name) value ↔
      ∃ package, r.package = some package ∧ value = package ++ "." ++ name := by
  constructor
  · intro h
    cases h with
    | inPackage hpackage => exact ⟨_, hpackage, rfl⟩
  · rintro ⟨package, hpackage, rfl⟩
    exact .inPackage hpackage name

/-- A name in a message has a value if the support of that message has an expression with a value.
-/
theorem denotes_inMessage_iff :
    Denotes r (.inMessage parent name) value ↔
      ∃ support ∈ r.messages, support.own.name = parent ∧ ∃ e : ProtoName, e.Plain ∧
        support.own.protoName = e.text ∧ ∃ w, Denotes r e w ∧ value = w ++ "." ++ name := by
  constructor
  · intro h
    cases h with
    | inMessage hsupport he htext hvalue =>
      exact ⟨_, hsupport, rfl, _, he, htext, _, hvalue, rfl⟩
  · rintro ⟨support, hsupport, rfl, e, he, htext, w, hvalue, rfl⟩
    exact .inMessage hsupport he htext hvalue name

end

/-! ## Texts -/

/-- There is no quote before the one that opens the name. -/
theorem quote_not_mem_opening_inPackage (name : String) :
    '"' ∉ (inPackage name).opening.toList :=
  (by decide : '"' ∉ "_protobuf_package + ".toList)

/-- So it is for any expression whose names stand for themselves. -/
theorem Plain.quote_not_mem_opening {e : ProtoName} (h : e.Plain) : '"' ∉ e.opening.toList := by
  cases e with
  | literal name => simp [opening]
  | inPackage name => exact quote_not_mem_opening_inPackage name
  | inMessage parent name =>
    rw [opening, String.toList_append, List.mem_append, not_or]
    exact ⟨h.1.quote, by decide⟩

/-- No name of a message is followed by what the package is followed by. -/
theorem opening_inMessage_ne (parent name name' : String) :
    (inPackage name).opening ≠ (inMessage parent name').opening := by
  intro h
  have hsuffix : ".protoMessageName + ".toList <:+ "_protobuf_package + ".toList := by
    refine ⟨parent.toList, ?_⟩
    rw [← String.toList_append]
    exact congrArg String.toList h.symm
  revert hsuffix
  decide

/-- Expressions of one text are the same, if the first quotes in them are those of the literal. -/
theorem text_inj {e e' : ProtoName} (he : '"' ∉ e.opening.toList) (he' : '"' ∉ e'.opening.toList)
    (h : e.text = e'.text) : e = e' := by
  have hcut {x : ProtoName} (hx : '"' ∉ x.opening.toList) : Text.cut '"' x.text.toList =
      (x.opening.toList, some (x.quoted.toList ++ ['"'])) := by
    have hchars : x.text.toList = x.opening.toList ++ '"' :: (x.quoted.toList ++ ['"']) := by
      simp [text]
    rw [hchars, Text.cut_append_cons hx]
  have hsame : Text.cut '"' e.text.toList = Text.cut '"' e'.text.toList := by rw [h]
  rw [hcut he, hcut he'] at hsame
  obtain ⟨hbefore, hbetween⟩ := Prod.mk.inj hsame
  have hopening : e.opening = e'.opening := String.toList_injective hbefore
  have hquoted : e.quoted = e'.quoted :=
    String.toList_injective (List.append_cancel_right (Option.some.inj hbetween))
  cases e with
  | literal name =>
    cases e' with
    | literal name' => exact congrArg literal hquoted
    | inPackage name' => simp [ProtoName.opening] at hopening
    | inMessage parent' name' => simp [ProtoName.opening] at hopening
  | inPackage name =>
    cases e' with
    | literal name' => simp [ProtoName.opening] at hopening
    | inPackage name' => exact congrArg inPackage ((String.append_right_inj ".").1 hquoted)
    | inMessage parent' name' => exact absurd hopening (opening_inMessage_ne parent' name name')
  | inMessage parent name =>
    cases e' with
    | literal name' => simp [ProtoName.opening] at hopening
    | inPackage name' => exact absurd hopening.symm (opening_inMessage_ne parent name' name)
    | inMessage parent' name' =>
      rw [(String.append_left_inj ".protoMessageName + ").1 hopening,
        (String.append_right_inj ".").1 hquoted]

/-- The text of an expression refers to the package only if the expression does. -/
theorem eq_inPackage_of_text {e : ProtoName} (he : e.Plain) {name : String}
    (h : e.text = (inPackage name).text) : e = inPackage name :=
  text_inj he.quote_not_mem_opening (quote_not_mem_opening_inPackage name) h

/-! ## The printed expression -/

/-- The expression that is printed for a message of a name in a scope. -/
def inScope (hasPackage : Bool) (typePrefix : String) (scope : List String) (name : String) :
    ProtoName :=
  if scope = [] then if hasPackage then .inPackage name else .literal name
  else .inMessage (Swift.typeText typePrefix scope) name

/-- The expression that is printed for the message at a path. -/
def atPath (hasPackage : Bool) (typePrefix : String) (path : List String) : ProtoName :=
  inScope hasPackage typePrefix path.dropLast (path.getLastD "")

/-- The last name of a path is the one that is written, the others are its scope. -/
theorem atPath_concat (hasPackage : Bool) (typePrefix : String) (scope : List String)
    (name : String) :
    atPath hasPackage typePrefix (scope ++ [name]) = inScope hasPackage typePrefix scope name := by
  simp [atPath]

/-- Only in a file that has a package does an expression refer to it. -/
theorem hasPackage_of_atPath {hasPackage : Bool} {typePrefix : String} {path : List String}
    {name : String} (h : atPath hasPackage typePrefix path = .inPackage name) :
    hasPackage = true := by
  unfold atPath inScope at h
  split at h
  · split at h
    · assumption
    · cases h
  · cases h

section
variable {typePrefix : String} (hchars : ∀ c ∈ typePrefix.toList, Swift.isBareChar c = true)
  {scope : List String} {name : String} (hscope : ∀ part ∈ scope, Swift.isBare part = true)
  (hname : Swift.isBare name = true)
include hchars hscope hname

/-- The support of a message has the expression of its scope. -/
theorem protoName_eq_text (hasPackage : Bool) :
    MessagePlan.protoName hasPackage (Swift.typeText typePrefix (scope ++ [name])) name =
      (inScope hasPackage typePrefix scope name).text := by
  rw [MessagePlan.protoName, Swift.scopeOf_typeText hchars hname scope, inScope]
  by_cases hnil : scope = []
  · have hempty : Swift.typeText typePrefix scope = "" := by
      rw [hnil]
      exact String.intercalate_nil
    rw [if_pos hnil, hempty]
    cases hasPackage with
    | true => exact (text_inPackage name).symm
    | false => exact (text_literal name).symm
  · have hne := Swift.typeText_ne_empty typePrefix hnil hscope
    rw [if_neg hnil, text_inMessage]
    exact if_pos (bne_iff_ne.2 hne)

/-- The names in that expression stand for themselves if they are identifiers. -/
theorem plain_inScope (hasPackage : Bool) : (inScope hasPackage typePrefix scope name).Plain := by
  have hplain : PlainText name :=
    ⟨Swift.not_mem_of_isBare hname rfl, Swift.not_mem_of_isBare hname rfl,
      Swift.not_mem_of_isBare hname rfl⟩
  have hparent : PlainText (Swift.typeText typePrefix scope) :=
    ⟨Swift.not_mem_typeText hchars rfl (by decide) (by decide) hscope,
      Swift.not_mem_typeText hchars rfl (by decide) (by decide) hscope,
      Swift.not_mem_typeText hchars rfl (by decide) (by decide) hscope⟩
  unfold inScope
  split
  · split
    · exact hplain
    · exact hplain
  · exact ⟨hparent, hplain⟩

end

end ProtoName

/-- A proto name in the runtime support refers to the package. -/
def RuntimeSupport.RefersToPackage (r : RuntimeSupport) : Prop :=
  ∃ support ∈ r.messages, ∃ name, support.own.protoName = (ProtoName.inPackage name).text

end SchemaToSwift
