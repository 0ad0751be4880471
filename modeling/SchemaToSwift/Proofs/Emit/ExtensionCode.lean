import Mathlib.Data.List.Induction
import Mathlib.Data.List.Nodup
import Mathlib.Data.List.Perm.Basic
import SchemaToSwift.Proofs.Emit.ExtensionSet
import SchemaToSwift.Proofs.Emit.Printed
import SchemaToSwift.Proofs.Swift.Lines

/-!
# Code for extensions

The code for the extensions of a file is an `ExtensionCode`: the accessors in groups, the table of
the extensions and the extension objects. It is made of the plans of the extensions in the set
(`FilePlan.extensions_of_yields`). Plans whose extended messages have textual names fall into one
group for each name, in the order in which the names first occur (`ExtensionSet.groups_eq`).
-/

namespace SchemaToSwift

/-- The code for the extensions of a file. -/
structure ExtensionCode where
  accessors : AccessorBlock
  registry : RegistryBlock
  objects : ObjectBlock

/-- The steps that print the code. -/
def ExtensionCode.steps (c : ExtensionCode) : List Printer.Step :=
  Printer.blockSteps c.accessors.text ++
    (Printer.blockSteps c.registry.text ++ Printer.blockSteps c.objects.text)

/-- The steps that mark the code for the extensions of a file. -/
def ExtensionCode.markSteps (file : String) : List Printer.Step :=
  [.lines ["", "// MARK: - Extension support defined in " ++
    (FileName.split file).withoutFolder ++ "."]]

/-- The code is made of the plans of the extensions. -/
structure ExtensionCode.MadeOf (c : ExtensionCode) (t : NameTable) (xs : List ExtensionField)
    (plans : List ExtensionPlan) : Prop where
  planned : List.Forall₂ (fun x plan => ExtensionPlan.make t x = .ok plan) xs plans
  groups : ExtensionSet.groups plans = .ok c.accessors.groups
  registry : c.registry.objects = plans.map (·.object)
  objects : plans.mapM (·.objectText) = .ok c.objects.objects

/-- The steps print the code for extensions, if there are any. -/
def Schema.ExtendedBy (t : NameTable) (f : Schema) (steps : List Printer.Step) : Prop :=
  if f.distinctExtensions.isEmpty then steps = []
  else ∃ (c : ExtensionCode) (plans : List ExtensionPlan),
    steps = ExtensionCode.markSteps f.name ++ c.steps ∧ c.MadeOf t f.distinctExtensions plans

/-- What is printed for a set of extensions is code made of their plans. -/
theorem FilePlan.extensions_of_yields {plan : FilePlan} {set : ExtensionSet} {p q : Printer}
    (hset : set.entries = plan.file.distinctExtensions)
    (h : (plan.printExtensions set).Yields p q) :
    ∃ steps, Printer.Printed p steps q ∧ plan.file.ExtendedBy plan.names steps := by
  unfold printExtensions at h
  rw [ExtensionSet.isEmpty, hset] at h
  unfold Schema.ExtendedBy
  split at h
  · next hempty =>
    obtain rfl := Emission.yields_nothing.1 h
    exact ⟨[], .nil p, by rw [if_pos hempty]⟩
  · next hsome =>
    obtain ⟨p₁, hmark, h⟩ := Emission.yields_all_cons.1 h
    obtain ⟨p₂, haccessors, h⟩ := Emission.yields_all_cons.1 h
    obtain ⟨p₃, hregistry, h⟩ := Emission.yields_all_cons.1 h
    obtain ⟨p₄, hobjects, hend⟩ := Emission.yields_all_cons.1 h
    obtain rfl := Emission.yields_all_nil.1 hend
    obtain rfl := Emission.yields_lines.1 hmark
    obtain ⟨plans, hplans, haccessors⟩ := Emission.yields_onValue.1 haccessors
    obtain ⟨groups, hgroups, hprintedAccessors⟩ := Emission.printed_block haccessors
    obtain ⟨plans', hplans', hprintedRegistry⟩ := Emission.printed_block hregistry
    obtain rfl := Except.ok.inj (hplans.symm.trans hplans')
    obtain ⟨objects, hobjectTexts, hprintedObjects⟩ := Emission.printed_block hobjects
    rw [hplans, Result.bind_ok] at hobjectTexts
    let c : ExtensionCode := {
      accessors := ⟨plan.surroundings.access, groups⟩
      registry := ⟨plan.surroundings.access, plan.surroundings.runtimePrefix,
        ExtensionSet.registryName plan.names, plans.map (·.object)⟩
      objects := ⟨plan.surroundings.access, plan.surroundings.runtimePrefix, objects⟩ }
    refine ⟨ExtensionCode.markSteps plan.file.name ++ c.steps, ?_, ?_⟩
    · exact (Printer.Printed.lines p _).append <|
        hprintedAccessors.append (hprintedRegistry.append hprintedObjects)
    · rw [if_neg hsome]
      rw [ExtensionSet.plans, Result.mapM_ok_iff, hset] at hplans
      exact ⟨c, plans, rfl, hplans, hgroups, rfl, hobjectTexts⟩

/-! ## Groups -/

section
variable {α β : Type} [DecidableEq β] (key : α → β)

/-- Elements by their keys are all elements. -/
theorem perm_flatMap_filter : ∀ {ks : List β}, ks.Nodup → ∀ {xs : List α},
    (∀ x ∈ xs, key x ∈ ks) → (ks.flatMap fun k => xs.filter (key · = k)).Perm xs
  | [], _, xs, hkeys => by
    rw [List.eq_nil_iff_forall_not_mem.2 fun x hx => List.not_mem_nil (hkeys x hx)]
    rfl
  | k :: ks, hnodup, xs, hkeys => by
    obtain ⟨hk, hks⟩ := List.nodup_cons.1 hnodup
    have hothers : ∀ x ∈ xs.filter (key · ≠ k), key x ∈ ks := by
      intro x hx
      obtain ⟨hx, hne⟩ := List.mem_filter.1 hx
      exact (List.mem_cons.1 (hkeys x hx)).resolve_left (by simpa using hne)
    have hrest := perm_flatMap_filter hks hothers
    have hsame : (ks.flatMap fun j => (xs.filter (key · ≠ k)).filter (key · = j)) =
        ks.flatMap fun j => xs.filter (key · = j) := by
      refine List.flatMap_congr fun j hj => ?_
      rw [List.filter_filter]
      refine List.filter_congr fun x _ => ?_
      have hjk : j ≠ k := fun h => hk (h ▸ hj)
      by_cases hx : key x = j <;> simp [hx, hjk]
    rw [hsame] at hrest
    rw [List.flatMap_cons]
    refine (hrest.append_left _).trans ?_
    simpa using List.filter_append_perm (key · = k) xs

end

namespace ExtensionSet

/-- The Swift name of the message that a plan extends. -/
def extendeeText (x : ExtensionPlan) : String := x.extendee.display

/-- The accessors of the plans that extend the message of a name. -/
def accessorsOf (plans : List ExtensionPlan) (name : String) : List AccessorText :=
  (plans.filter (extendeeText · = name)).map (·.accessor)

/-- An accessor comes into the group of its message, or into a new one at the end. -/
theorem intoGroup_map (name : String) (x : AccessorText) (accessors : String → List AccessorText) :
    ∀ {names : List String}, names.Nodup →
      intoGroup (.str name) x (names.map fun n => (.str n, accessors n)) =
        if name ∈ names then
          names.map fun n => (.str n, if n = name then accessors n ++ [x] else accessors n)
        else (names.map fun n => (.str n, accessors n)) ++ [(.str name, [x])]
  | [], _ => rfl
  | n :: names, hnodup => by
    obtain ⟨hn, hnames⟩ := List.nodup_cons.1 hnodup
    rw [List.map_cons, intoGroup, Json.same_str]
    by_cases heq : n = name
    · subst heq
      have hothers : (names.map fun m => (Json.str m, accessors m)) = names.map fun m =>
          (Json.str m, if m = n then accessors m ++ [x] else accessors m) := by
        refine List.map_congr_left fun m hm => ?_
        rw [if_neg fun h : m = n => hn (h ▸ hm)]
      rw [if_pos (by simp), if_pos (.head _), List.map_cons, if_pos rfl, hothers]
    · rw [if_neg (by simpa using heq), intoGroup_map name x accessors hnames]
      by_cases hmem : name ∈ names
      · rw [if_pos hmem, if_pos (.tail _ hmem), List.map_cons, if_neg heq]
      · rw [if_neg hmem, if_neg (by simp [hmem, Ne.symm heq])]
        rfl

/-- Plans with textual extended messages, grouped. -/
theorem foldl_intoGroup {plans : List ExtensionPlan} (h : ∀ x ∈ plans, x.extendee.IsText) :
    plans.foldl (fun gs x => intoGroup x.extendee x.accessor gs) [] =
      (plans.map extendeeText).eraseDups.map fun name => (.str name, accessorsOf plans name) := by
  induction plans using List.reverseRecOn with
  | nil => rfl
  | append_singleton plans x ih =>
    have hplans : ∀ y ∈ plans, y.extendee.IsText := fun y hy => h y (List.mem_append_left _ hy)
    have hx : x.extendee = .str (extendeeText x) := (h x (by simp)).eq_str
    have haccessors (name : String) : accessorsOf (plans ++ [x]) name =
        if name = extendeeText x then accessorsOf plans name ++ [x.accessor]
        else accessorsOf plans name := by
      rw [accessorsOf, List.filter_append, List.map_append]
      by_cases hname : name = extendeeText x
      · simp [hname, accessorsOf]
      · simp [hname, Ne.symm hname, accessorsOf]
    rw [List.foldl_append, List.foldl_cons, List.foldl_nil, ih hplans, hx,
      intoGroup_map _ _ _ (nodup_eraseDups _), List.map_append, List.map_singleton,
      eraseDups_concat]
    simp only [List.mem_eraseDups]
    split
    · refine List.map_congr_left fun name _ => ?_
      rw [haccessors]
    · next hnew =>
      rw [List.map_append, List.map_singleton, haccessors, if_pos rfl]
      have hnone : accessorsOf plans (extendeeText x) = [] := by
        rw [accessorsOf, List.map_eq_nil_iff, List.filter_eq_nil_iff]
        intro y hy hname
        exact hnew (List.mem_map.2 ⟨y, hy, by simpa using hname⟩)
      rw [hnone]
      refine congrArg (· ++ _) (List.map_congr_left fun name hname => ?_)
      rw [haccessors, if_neg fun h : name = extendeeText x => hnew (h ▸ List.mem_eraseDups.1 hname)]

/-- Plans with textual extended messages have one group for each name, in the order in which the
names first occur, and in it the accessors of the plans that extend the message of that name, in
order. -/
theorem groups_eq {plans : List ExtensionPlan} (h : ∀ x ∈ plans, x.extendee.IsText) :
    groups plans = .ok ((plans.map extendeeText).eraseDups.map fun name =>
      ⟨name, accessorsOf plans name⟩) := by
  rw [groups, foldl_intoGroup h, Result.mapM_ok_iff, List.forall₂_map_left_iff,
    List.forall₂_map_right_iff, List.forall₂_same]
  exact fun name _ => rfl

/-- The groups have all accessors, each once. -/
theorem perm_accessors (plans : List ExtensionPlan) :
    ((plans.map extendeeText).eraseDups.flatMap (accessorsOf plans)).Perm
      (plans.map (·.accessor)) := by
  have hkeys : ∀ x ∈ plans, extendeeText x ∈ (plans.map extendeeText).eraseDups :=
    fun x hx => List.mem_eraseDups.2 (List.mem_map_of_mem hx)
  have hall := perm_flatMap_filter extendeeText (nodup_eraseDups (plans.map extendeeText)) hkeys
  have hmap := hall.map (·.accessor)
  rwa [List.map_flatMap] at hmap

end ExtensionSet

/-! ## The table -/

/-- All entries of a table but the last end with a comma. -/
theorem RegistryBlock.entryLines_eq : ∀ objects : List String, entryLines objects =
    objects.dropLast.map (fun o => "  " ++ o ++ ",") ++ objects.getLast?.toList.map ("  " ++ ·)
  | [] => rfl
  | [_] => rfl
  | o :: next :: rest => by
    rw [entryLines, entryLines_eq (next :: rest)]
    · simp
    · simp

/-! ## Objects -/

/-- The object that a plan with a textual extended message describes. -/
def ExtensionPlan.textOfObject (x : ExtensionPlan) : ObjectText :=
  ⟨x.object, x.fieldType, ExtensionSet.extendeeText x, toString x.number, x.fullName⟩

/-- The extension objects are those of the plans, in the same order. -/
theorem ExtensionPlan.objectTexts_eq {plans : List ExtensionPlan}
    (h : ∀ x ∈ plans, x.extendee.IsText) :
    plans.mapM (·.objectText) = .ok (plans.map (·.textOfObject)) := by
  rw [Result.mapM_ok_iff, List.forall₂_map_right_iff, List.forall₂_same]
  intro x hx
  rw [objectText, (h x hx).shown]
  rfl

/-! ## Extended messages -/

/-- A plan holds the full name of the extension and the Swift name of the extended message. -/
theorem ExtensionPlan.names_of_make {t : NameTable} {x : ExtensionField} {plan : ExtensionPlan}
    (h : make t x = .ok plan) :
    x.fullName = .str plan.fullName ∧ plan.extendee = t.typeName x.extendee false := by
  obtain ⟨valueType, -, h⟩ := Result.bind_eq_ok_iff.1 h
  obtain ⟨fullName, hname, h⟩ := Result.bind_eq_ok_iff.1 h
  obtain ⟨property, -, h⟩ := Result.bind_eq_ok_iff.1 h
  split at h
  · cases h
  · obtain ⟨scope, -, h⟩ := Result.bind_eq_ok_iff.1 h
    obtain ⟨scopeText, -, h⟩ := Result.bind_eq_ok_iff.1 h
    obtain ⟨declaration, -, h⟩ := Result.bind_eq_ok_iff.1 h
    obtain ⟨declarationText, -, h⟩ := Result.bind_eq_ok_iff.1 h
    obtain ⟨fieldType, -, h⟩ := Result.bind_eq_ok_iff.1 h
    cases h
    exact ⟨Json.asText_eq_ok hname, rfl⟩

/-- The extendee of a plan is the Swift name of the message that is extended. -/
theorem ExtensionPlan.extendee_of_make {t : NameTable} {x : ExtensionField} {plan : ExtensionPlan}
    (h : make t x = .ok plan) : plan.extendee = t.typeName x.extendee false := (names_of_make h).2

/-! ## The lines of the blocks -/

namespace AccessorBlock

/-- The accessors are printed after a comment, in the groups. -/
theorem exists_lines (b : AccessorBlock) :
    ∃ above, (∀ line ∈ above, Swift.IsCommentLine (String.toList line)) ∧
      b.text = unlines (above ++ b.groups.flatMap (·.lines b.access)) :=
  ⟨_, by decide +kernel, rfl⟩

end AccessorBlock

namespace RegistryBlock

/-- The table is printed after a comment, with a line for each entry. -/
theorem exists_lines (b : RegistryBlock) :
    ∃ above, (∀ line ∈ above, Swift.IsCommentLine (String.toList line)) ∧
      b.text = "\n".intercalate (above ++
        [b.access ++ "let " ++ b.name ++ ": " ++ b.runtimePrefix ++ "SimpleExtensionMap = ["] ++
          entryLines b.objects ++ ["]"]) := by
  have hmarked {before : String} (h : ['/', '/'] <+: before.toList) (after : String) :
      ['/', '/'] <+: (before ++ after).toList := by
    rw [String.toList_append]
    exact h.trans (List.prefix_append ..)
  refine ⟨[_, _, _, _, _, _], ?_, rfl⟩
  simp only [List.forall_mem_cons, List.not_mem_nil, false_implies, implies_true, and_true]
  exact ⟨.inr (hmarked (by decide) _), .inl rfl, .inr (hmarked (hmarked (by decide) _) _),
    .inr (hmarked (hmarked (by decide) _) _), .inr (hmarked (hmarked (by decide) _) _),
    .inr (hmarked (hmarked (by decide) _) _)⟩

end RegistryBlock

namespace ObjectBlock

/-- The objects are printed after a comment. -/
theorem exists_lines (b : ObjectBlock) :
    ∃ above, (∀ line ∈ above, Swift.IsCommentLine (String.toList line)) ∧
      b.text = unlines (above ++ b.objects.flatMap (·.lines b.access b.runtimePrefix)) :=
  ⟨_, by decide +kernel, rfl⟩

end ObjectBlock

/-! ## Each extension once -/

namespace ExtensionPlan

/-- The property that reads and writes the value of the extension. -/
def propertyLines (access : String) (x : ExtensionPlan) : List String := [
  "",
  "  " ++ access ++ "var " ++ x.property ++ ": " ++ x.valueType ++ " \x7b",
  "    get \x7breturn getExtensionValue(ext: " ++ x.object ++ ") ?? " ++ x.defaultValue ++ "\x7d",
  "    set \x7bsetExtensionValue(ext: " ++ x.object ++ ", value: newValue)\x7d",
  "  \x7d"]

/-- The property that tells whether there is a value, and the method that clears it. -/
def presenceLines (access : String) (x : ExtensionPlan) : List String := [
  "  /// Returns true if extension \x60" ++ x.object ++ "\x60",
  "  /// has been explicitly set.",
  "  " ++ access ++ "var has" ++ x.suffix ++ ": Bool \x7b",
  "    return hasExtensionValue(ext: " ++ x.object ++ ")",
  "  \x7d",
  "  /// Clears the value of extension \x60" ++ x.object ++ "\x60.",
  "  /// Subsequent reads from it will return its default value.",
  "  " ++ access ++ "mutating func clear" ++ x.suffix ++ "() \x7b",
  "    clearExtensionValue(ext: " ++ x.object ++ ")",
  "  \x7d"]

/-- The accessors of the extension. -/
def accessorLines (access : String) (x : ExtensionPlan) : List String :=
  x.propertyLines access ++ if x.repeated then [] else x.presenceLines access

/-- The object of the extension. -/
def objectLines (access runtimePrefix : String) (x : ExtensionPlan) : List String := [
  "",
  access ++ "let " ++ x.object ++ " = " ++ runtimePrefix ++ "MessageExtension<" ++ x.fieldType ++
    ", " ++ ExtensionSet.extendeeText x ++ ">(",
  "  _protobuf_fieldNumber: " ++ toString x.number ++ ",",
  "  fieldName: \"" ++ Swift.literal x.fullName ++ "\"",
  ")"]

theorem lines_textOfObject (access runtimePrefix : String) (x : ExtensionPlan) :
    x.textOfObject.lines access runtimePrefix = x.objectLines access runtimePrefix := rfl

end ExtensionPlan

/-- The lines of a group: the accessors of the plans that extend the message of a name. -/
def ExtensionSet.groupLines (access : String) (plans : List ExtensionPlan) (name : String) :
    List String :=
  ["", "extension " ++ name ++ " \x7b"] ++
    (plans.filter (extendeeText · = name)).flatMap (·.accessorLines access) ++ ["", "\x7d"]

theorem ExtensionSet.lines_group (access : String) (plans : List ExtensionPlan) (name : String) :
    AccessorGroup.lines access ⟨name, accessorsOf plans name⟩ = groupLines access plans name := by
  rw [AccessorGroup.lines, accessorsOf, List.flatMap_map]
  rfl

/-- The code of a file prints each of the extensions once: its accessors in the group of the message
that it extends, under the Swift name of that message, its entry in the table, and its object. Each
of the three blocks begins with a comment and has no other lines besides. -/
structure ExtensionCode.PrintsOnce (c : ExtensionCode) (t : NameTable) (xs : List ExtensionField)
    (plans : List ExtensionPlan) : Prop where
  planned : List.Forall₂ (fun x plan => ExtensionPlan.make t x = .ok plan) xs plans
  extendees : plans.map ExtensionSet.extendeeText =
    xs.map fun x => (t.typeName x.extendee false).display
  groups : c.accessors.groups = (plans.map ExtensionSet.extendeeText).eraseDups.map fun name =>
    ⟨name, ExtensionSet.accessorsOf plans name⟩
  accessors : (c.accessors.groups.flatMap (·.accessors)).Perm (plans.map (·.accessor))
  accessorText : ∃ above, (∀ line ∈ above, Swift.IsCommentLine (String.toList line)) ∧
    c.accessors.text = unlines (above ++ (plans.map ExtensionSet.extendeeText).eraseDups.flatMap
      (ExtensionSet.groupLines c.accessors.access plans))
  registryText : ∃ above, (∀ line ∈ above, Swift.IsCommentLine (String.toList line)) ∧
    c.registry.text = "\n".intercalate (above ++
      [c.registry.access ++ "let " ++ c.registry.name ++ ": " ++ c.registry.runtimePrefix ++
        "SimpleExtensionMap = ["] ++
      ((plans.map (·.object)).dropLast.map (fun o => "  " ++ o ++ ",") ++
        (plans.map (·.object)).getLast?.toList.map ("  " ++ ·)) ++ ["]"])
  objectText : ∃ above, (∀ line ∈ above, Swift.IsCommentLine (String.toList line)) ∧
    c.objects.text = unlines (above ++
      plans.flatMap (·.objectLines c.objects.access c.objects.runtimePrefix))

/-- The Swift names of the extended messages, as the plans have them. -/
theorem ExtensionPlan.extendees_of_make {t : NameTable} {xs : List ExtensionField}
    {plans : List ExtensionPlan} (h : List.Forall₂ (fun x plan => make t x = .ok plan) xs plans) :
    plans.map ExtensionSet.extendeeText =
      xs.map fun x => (t.typeName x.extendee false).display := by
  induction h with
  | nil => rfl
  | cons hplan _ ih =>
    rw [List.map_cons, List.map_cons, ih, ExtensionSet.extendeeText, extendee_of_make hplan]

/-- Code that is made of plans with textual extended messages prints each extension once. -/
theorem ExtensionCode.MadeOf.printsOnce {c : ExtensionCode} {t : NameTable}
    {xs : List ExtensionField} {plans : List ExtensionPlan} (h : c.MadeOf t xs plans)
    (htexts : ∀ x ∈ plans, x.extendee.IsText) : c.PrintsOnce t xs plans := by
  have hgroups : c.accessors.groups = (plans.map ExtensionSet.extendeeText).eraseDups.map
      fun name => ⟨name, ExtensionSet.accessorsOf plans name⟩ :=
    Except.ok.inj (h.groups.symm.trans (ExtensionSet.groups_eq htexts))
  have hobjects : c.objects.objects = plans.map (·.textOfObject) :=
    Except.ok.inj (h.objects.symm.trans (ExtensionPlan.objectTexts_eq htexts))
  refine ⟨h.planned, ExtensionPlan.extendees_of_make h.planned, hgroups, ?accessors, ?accessorText,
    ?registryText, ?objectText⟩
  case accessors =>
    rw [hgroups, List.flatMap_map]
    exact ExtensionSet.perm_accessors plans
  case accessorText =>
    obtain ⟨above, hcomment, htext⟩ := c.accessors.exists_lines
    refine ⟨above, hcomment, ?_⟩
    simp only [htext, hgroups, List.flatMap_map, ExtensionSet.lines_group]
  case registryText =>
    obtain ⟨above, hcomment, htext⟩ := c.registry.exists_lines
    exact ⟨above, hcomment, by rw [htext, RegistryBlock.entryLines_eq, h.registry]⟩
  case objectText =>
    obtain ⟨above, hcomment, htext⟩ := c.objects.exists_lines
    refine ⟨above, hcomment, ?_⟩
    simp only [htext, hobjects, List.flatMap_map, ExtensionPlan.lines_textOfObject]

end SchemaToSwift
