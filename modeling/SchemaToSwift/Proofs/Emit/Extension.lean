import SchemaToSwift.Emit.File
import SchemaToSwift.Proofs.Emit.Message
import SchemaToSwift.Proofs.Swift.Camel

/-!
# Emission of typed extensions

A typed extension has a plan unless no property name is left for it: its full name ends in
underscores, and there is no scope to put before it. Such an extension is `Schema.Nameless`, and its
plan takes the first character of an empty text. Without one the code for the extensions of a file
is printed to the end (`FilePlan.ends_printExtensions`).
-/

namespace SchemaToSwift

/-- An extension that no property name is left for: the file has neither a package nor a prefix, no
declaration encloses the extension, and the last part of its name is made of underscores. -/
def Schema.Nameless (f : Schema) (fullName : Json) : Prop :=
  f.package = .str "" ∧ f.swiftPrefix = .str "" ∧
    Text.scopeOf (Text.dropLeading '.' fullName.display) ∉ f.declaredNames.map (·.display) ∧
    ∀ c ∈ (Text.lastComponent (Text.dropLeading '.' fullName.display)).toList, c = '_'

/-- All extensions of a file, those declared in messages included. -/
def Schema.allExtensions (f : Schema) : List ExtensionField :=
  f.extensions ++ f.allMessages.flatMap (·.extensions)

/-! ## The name of an extension -/

namespace NameTable

variable {file : Schema} {t : NameTable}

/-- The scope of an extension is a text, empty only where there is none. -/
theorem TableOf.extensionScope_ok (ht : t.TableOf file) (hf : file.Typed) (fullName : String) :
    ∃ scope, t.extensionScope fullName false = .ok (.str scope) ∧
      (scope = "" ↔ file.package = .str "" ∧ file.swiftPrefix = .str "" ∧
        Text.scopeOf (Text.dropLeading '.' fullName) ∉ file.declaredNames.map (·.display)) := by
  rw [← ht.declared?_eq_none]
  unfold extensionScope
  cases hd : t.declared? (Text.scopeOf (Text.dropLeading '.' fullName)) with
  | some name =>
    have htext := (ht.textual_declared hd).pick false
    simp only [htext.asText, Result.bind_ok]
    exact ⟨_, rfl, by simp⟩
  | none =>
    refine ⟨_, congrArg Except.ok ht.typePrefix_eq, ?_⟩
    rw [Swift.typePrefix_eq_empty]
    obtain ⟨package, hpackage⟩ := hf.package
    obtain ⟨swiftPrefix, hprefix⟩ := hf.swiftPrefix
    simp [hpackage, hprefix]

/-- The property name of an extension is empty exactly if no name is left for it. -/
theorem TableOf.extensionName_ok (ht : t.TableOf file) (hf : file.Typed) (fullName : String) :
    ∃ name, t.extensionName fullName false = .ok name ∧
      (name = "" ↔ file.Nameless (.str fullName)) := by
  obtain ⟨scope, hscope, hempty⟩ := ht.extensionScope_ok hf fullName
  refine ⟨scope ++ Swift.lowerCamel (Text.lastComponent (Text.dropLeading '.' fullName)), ?_, ?_⟩
  · rw [extensionName, hscope]
    rfl
  · rw [String.append_eq_empty_iff, hempty, Swift.lowerCamel_eq_empty, Schema.Nameless]
    simp only [Json.display_str, and_assoc]

end NameTable

/-! ## Plans -/

namespace ExtensionPlan

variable {file : Schema} {t : NameTable} {x : ExtensionField}

section
variable {fullName : String} (ht : t.TableOf file) (hfull : x.fullName = .str fullName)
include ht hfull

/-- An extension that no property name is left for has no plan. -/
theorem make_of_noProperty (hproperty : t.extensionName fullName false = .ok "") :
    make t x = .error .noElement := by
  obtain ⟨stored, hstored, -⟩ := ht.storedType_ok x.type x.label x.typeName false
  simp only [make, NameTable.extensionValueType, hstored, Result.bind_ok, hfull, Json.asText_str,
    hproperty]
  rfl

/-- An extension with a property name has a plan, with that name and with an object in its scope. -/
theorem make_of_property {scope property : String}
    (hscope : t.extensionScope fullName false = .ok (.str scope))
    (hproperty : t.extensionName fullName false = .ok property) (hne : property ≠ "") :
    ∃ plan, make t x = .ok plan ∧ plan.property = property ∧
      plan.object = scope ++ "Extensions_" ++ Text.lastComponent fullName ∧
      plan.extendee = t.typeName x.extendee false := by
  obtain ⟨stored, hstored, htext⟩ := ht.storedType_ok x.type x.label x.typeName false
  obtain ⟨declaration, hdeclaration, hd⟩ := StoredType.declaration_ok htext
  obtain ⟨c, rest, hchars⟩ : ∃ c rest, property.toList = c :: rest :=
    List.exists_cons_of_ne_nil fun hnil => hne (String.toList_eq_nil_iff.1 hnil)
  obtain ⟨fieldType, hfieldType⟩ : ∃ s, t.extensionFieldType x false = .ok s := by
    unfold NameTable.extensionFieldType
    cases x.type.scalar? with
    | some scalar => exact ⟨_, rfl⟩
    | none =>
      simp only [(ht.isText_typeName x.typeName false).shown]
      exact ⟨_, rfl⟩
  simp only [make, NameTable.extensionValueType, hstored, Result.bind_ok, hfull, Json.asText_str,
    hproperty, hchars, hscope, hdeclaration, hd.asText, hfieldType]
  exact ⟨_, rfl, rfl, rfl, rfl⟩

end

/-- A typed extension without a name has no plan. -/
theorem make_of_nameless (ht : t.TableOf file) (hf : file.Typed) (hx : x.Typed)
    (hnone : file.Nameless x.fullName) : make t x = .error .noElement := by
  obtain ⟨fullName, hfull⟩ := hx.fullName
  rw [hfull] at hnone
  obtain ⟨name, hname, hempty⟩ := ht.extensionName_ok hf fullName
  rw [hempty.2 hnone] at hname
  exact make_of_noProperty ht hfull hname

/-- A typed extension with a name has a plan, with a textual extended message. -/
theorem make_of_named (ht : t.TableOf file) (hf : file.Typed) (hx : x.Typed)
    (hnamed : ¬ file.Nameless x.fullName) :
    ∃ plan, make t x = .ok plan ∧ plan.extendee.IsText := by
  obtain ⟨fullName, hfull⟩ := hx.fullName
  rw [hfull] at hnamed
  obtain ⟨name, hname, hempty⟩ := ht.extensionName_ok hf fullName
  obtain ⟨scope, hscope, -⟩ := ht.extensionScope_ok hf fullName
  obtain ⟨plan, hplan, -, -, hextendee⟩ :=
    make_of_property ht hfull hscope hname fun hnil => hnamed (hempty.1 hnil)
  refine ⟨plan, hplan, ?_⟩
  rw [hextendee]
  exact ht.isText_typeName x.extendee false

/-- Plans with textual extended messages give extension objects. -/
theorem objectTexts_ok {plans : List ExtensionPlan} (h : ∀ plan ∈ plans, plan.extendee.IsText) :
    ∃ texts, plans.mapM (·.objectText) = .ok texts := by
  refine Result.mapM_of_ok fun plan hplan => ?_
  rw [objectText, (h plan hplan).shown]
  exact ⟨_, rfl⟩

end ExtensionPlan

namespace ExtensionSet

/-- Groups whose extended messages are texts stay so with one more accessor. -/
theorem isText_intoGroup {extendee : Json} (h : extendee.IsText) (x : AccessorText) :
    ∀ {gs : List Group}, (∀ g ∈ gs, g.1.IsText) → ∀ g ∈ intoGroup extendee x gs, g.1.IsText
  | [], _, g, hg => by
    rw [List.mem_singleton.1 hg]
    exact h
  | (name, accessors) :: rest, hgs, g, hg => by
    have hrest : ∀ g ∈ rest, g.1.IsText := fun g hg => hgs g (.tail _ hg)
    rw [intoGroup] at hg
    split at hg
    · rcases List.mem_cons.1 hg with rfl | hg
      · exact hgs (name, accessors) (.head _)
      · exact hrest g hg
    · rcases List.mem_cons.1 hg with rfl | hg
      · exact hgs (name, accessors) (.head _)
      · exact isText_intoGroup h x hrest g hg

/-- Plans with textual extended messages can be grouped by them. -/
theorem groups_ok {plans : List ExtensionPlan} (h : ∀ plan ∈ plans, plan.extendee.IsText) :
    ∃ gs, groups plans = .ok gs := by
  have hfold (ps : List ExtensionPlan) (gs : List Group) (hps : ∀ plan ∈ ps, plan.extendee.IsText)
      (hgs : ∀ g ∈ gs, g.1.IsText) : ∀ g ∈ ps.foldl
        (fun gs x => intoGroup x.extendee x.accessor gs) gs, g.1.IsText := by
    induction ps generalizing gs with
    | nil => exact hgs
    | cons p rest ih =>
      exact ih _ (fun plan hplan => hps plan (.tail _ hplan))
        (isText_intoGroup (hps p (.head _)) p.accessor hgs)
  refine Result.mapM_of_ok fun (name, accessors) hg => ?_
  obtain ⟨s, rfl⟩ := hfold plans [] h (by simp) (name, accessors) hg
  exact ⟨⟨s, accessors⟩, rfl⟩

variable {file : Schema} {t : NameTable} {set : ExtensionSet}

/-- A set of typed extensions has plans if each has a name. -/
theorem plans_of_named (ht : t.TableOf file) (hf : file.Typed) (hset : ∀ x ∈ set.entries, x.Typed)
    (hnamed : ∀ x ∈ set.entries, ¬ file.Nameless x.fullName) :
    ∃ plans, set.plans t = .ok plans ∧ ∀ plan ∈ plans, plan.extendee.IsText :=
  Result.mapM_of_ok_and fun x hx => ExtensionPlan.make_of_named ht hf (hset x hx) (hnamed x hx)

/-- A set of typed extensions has no plans if one has no name. -/
theorem plans_of_nameless (ht : t.TableOf file) (hf : file.Typed)
    (hset : ∀ x ∈ set.entries, x.Typed) (hnone : ∃ x ∈ set.entries, file.Nameless x.fullName) :
    set.plans t = .error .noElement := by
  refine Result.mapM_error (fun x hx => ?_) ?_
  · by_cases h : file.Nameless x.fullName
    · exact .inl (ExtensionPlan.make_of_nameless ht hf (hset x hx) h)
    · obtain ⟨plan, hplan, -⟩ := ExtensionPlan.make_of_named ht hf (hset x hx) h
      exact .inr ⟨plan, hplan⟩
  · obtain ⟨x, hx, h⟩ := hnone
    exact ⟨x, hx, ExtensionPlan.make_of_nameless ht hf (hset x hx) h⟩

end ExtensionSet

/-! ## The code for the extensions of a file -/

namespace FilePlan

variable {plan : FilePlan} {set : ExtensionSet} {xs : List ExtensionField}

/-- The code for extensions that all have names is printed to the end. -/
theorem ends_printExtensions (ht : plan.names.TableOf plan.file) (hf : plan.file.Typed)
    (hset : set.Holds xs) (hnamed : ∀ x ∈ xs, ¬ plan.file.Nameless x.fullName) :
    (plan.printExtensions set).Ends (.ok ()) := by
  unfold printExtensions
  split
  · exact Emission.ends_nothing
  have hentries : ∀ x ∈ set.entries, ¬ plan.file.Nameless x.fullName := by
    intro x hx
    obtain ⟨y, hy, hname⟩ := (hset.fullNames x.fullName).1 ⟨x, hx, rfl⟩
    rw [← hname]
    exact hnamed y hy
  obtain ⟨plans, hplans, htexts⟩ := ExtensionSet.plans_of_named ht hf hset.typed hentries
  obtain ⟨groups, hgroups⟩ := ExtensionSet.groups_ok htexts
  obtain ⟨objects, hobjects⟩ := ExtensionPlan.objectTexts_ok htexts
  have hproperties : (set.properties plan.names plan.surroundings).Ends (.ok ()) :=
    Emission.ends_onValue hplans <| (Emission.ends_lines _).all_cons <|
      (Emission.ends_onValue hgroups (Emission.ends_lines _)).all_cons Emission.ends_all_nil
  have hregistry : (set.registry plan.names plan.surroundings).Ends (.ok ()) :=
    (Emission.ends_lines _).all_cons <|
      (Emission.ends_onValue hplans (Emission.ends_lines _)).all_cons Emission.ends_all_nil
  have hobjectTexts :
      (do (← set.plans plan.names).mapM ExtensionPlan.objectText) = .ok objects := by
    rw [hplans, Result.bind_ok, hobjects]
  have hobjectCode : (set.objects plan.names plan.surroundings).Ends (.ok ()) :=
    (Emission.ends_lines _).all_cons <|
      (Emission.ends_onValue hobjectTexts (Emission.ends_lines _)).all_cons Emission.ends_all_nil
  exact (Emission.ends_lines _).all_cons <| hproperties.all_cons <| hregistry.all_cons <|
    hobjectCode.all_cons Emission.ends_all_nil

/-- The code for extensions of which one has no name stops where that name is needed. -/
theorem ends_printExtensions_nameless (ht : plan.names.TableOf plan.file)
    (hf : plan.file.Typed) (hset : set.Holds xs)
    (hnone : ∃ x ∈ xs, plan.file.Nameless x.fullName) :
    (plan.printExtensions set).Ends (.error (.escaped .noElement)) := by
  obtain ⟨x, hx, hnameless⟩ := hnone
  obtain ⟨y, hy, hname⟩ := (hset.fullNames x.fullName).2 ⟨x, hx, rfl⟩
  have hplans := ExtensionSet.plans_of_nameless ht hf hset.typed ⟨y, hy, by rwa [hname]⟩
  unfold printExtensions
  split
  · next hempty =>
    rw [List.isEmpty_iff.1 hempty] at hy
    cases hy
  · exact (Emission.ends_lines _).all_cons <|
      (Emission.ends_onValue_error _ hplans).all_cons_stop _

end FilePlan

end SchemaToSwift
