import SchemaToSwift.Proofs.Imports
import SchemaToSwift.Proofs.Text.Point

/-!
# The import statements of a file

A file imports the modules of all dependencies that stand in its forest, each module once and in the
order of the names, and a module is made visible further if one of the dependencies that belong to
it, or one above such a dependency, is public (`NameTable.importLines_spec`). The invariant along
the walk through the forest is `NameTable.Gathered`: the modules found so far are those of the
dependencies visited so far, with a flag that is the disjunction of theirs.
-/

namespace SchemaToSwift

/-- The words before the name of a module that is made visible further. -/
def ImportForm.exportingKeywords : ImportForm → String
  | .plain | .implementationOnly => "@_exported import"
  | .accessLevel => "public import"

/-- The import statement of a module. -/
def ImportForm.statement (form : ImportForm) (module : String) (exported : Bool) : String :=
  (if exported then form.exportingKeywords else form.keywords) ++ " " ++ module

/-- The line of an imported module is its import statement. -/
theorem ImportedModule.line_eq (form : ImportForm) (i : ImportedModule) :
    i.line form = form.statement i.module.display i.exported := by
  cases form <;> rfl

/-- The statement of a module is none of another one without making it visible further. -/
theorem ImportForm.statement_ne {form : ImportForm} {module other : String} (h : module ≠ other)
    (exported : Bool) : form.statement module exported ≠ form.statement other false := by
  intro heq
  cases exported with
  | false => exact h (by simpa [statement] using heq)
  | true =>
    replace heq := congrArg String.toList heq
    cases form <;> simp [statement, exportingKeywords, keywords] at heq

/-- A text that is the writing of code points. -/
def Json.IsCanonical (v : Json) : Prop := ∃ text, v = .str text ∧ Text.Canonical text

theorem Json.IsCanonical.isText {v : Json} (h : v.IsCanonical) : v.IsText :=
  h.imp fun _ htext => htext.1

theorem Json.isCanonical_of_noMark {s : String} (h : Text.mark ∉ s.toList) :
    (Json.str s).IsCanonical := ⟨s, rfl, (Text.wellFormed_of_noMark h).canonical⟩

/-! ## Noting a module -/

namespace ImportedModule

variable {found : List ImportedModule} {module : String} {exported : Bool}

/-- A module that is noted is there afterwards, with those that were there before. -/
theorem mem_map_module_note {m : Json} : m ∈ (note (.str module) exported found).map (·.module) ↔
    m = .str module ∨ m ∈ found.map (·.module) := by
  induction found with
  | nil => simp [note]
  | cons j rest ih =>
    rw [note]
    split
    · next hj => simp [Json.same_str_right.1 hj]
    · rw [List.map_cons, List.map_cons, List.mem_cons, List.mem_cons, ih, or_left_comm]

/-- A module that is noted again is not there twice. -/
theorem nodup_note (h : (found.map (·.module)).Nodup) :
    ((note (.str module) exported found).map (·.module)).Nodup := by
  induction found with
  | nil => simp [note]
  | cons j rest ih =>
    obtain ⟨hj, hrest⟩ := List.nodup_cons.1 h
    rw [note]
    split
    · exact h
    · next hne =>
      refine List.nodup_cons.2 ⟨fun hmem => ?_, ih hrest⟩
      rcases mem_map_module_note.1 hmem with heq | hmem
      · exact hne (Json.same_str_right.2 heq)
      · exact hj hmem

theorem eq_mk_iff {i : ImportedModule} {m : Json} {e : Bool} :
    i = ⟨m, e⟩ ↔ i.module = m ∧ (i.exported = true ↔ e = true) := by
  rw [← Bool.eq_iff_iff]
  exact ⟨by rintro rfl; exact ⟨rfl, rfl⟩, by rintro ⟨rfl, rfl⟩; rfl⟩

/-- Of the modules after noting one, that one is made visible further if it was before or is now,
and the others are as they were. -/
theorem mem_note_iff (h : (found.map (·.module)).Nodup) {i : ImportedModule} :
    i ∈ note (.str module) exported found ↔
      i.module ≠ .str module ∧ i ∈ found ∨
      i.module = .str module ∧
        (i.exported = true ↔ exported = true ∨ ⟨.str module, true⟩ ∈ found) := by
  induction found with
  | nil => simp [note, eq_mk_iff]
  | cons j rest ih =>
    obtain ⟨hj, hrest⟩ := List.nodup_cons.1 h
    rw [note]
    split
    · next hsame =>
      -- the module was noted before, and only there
      have hmodule : j.module = .str module := Json.same_str_right.1 hsame
      have hnone : ∀ k ∈ rest, k.module ≠ .str module := fun k hk heq =>
        hj (List.mem_map.2 ⟨k, hk, heq.trans hmodule.symm⟩)
      have hflag : ⟨.str module, true⟩ ∈ j :: rest ↔ j.exported = true := by
        rw [List.mem_cons, or_iff_left fun hmem => hnone _ hmem rfl, eq_comm, eq_mk_iff]
        simp [hmodule]
      rw [hflag, List.mem_cons, List.mem_cons, eq_mk_iff, Bool.or_eq_true,
        or_comm (b := j.exported = true), hmodule]
      constructor
      · rintro (⟨hi, hexported⟩ | hmem)
        · exact .inr ⟨hi, hexported⟩
        · exact .inl ⟨hnone i hmem, .inr hmem⟩
      · rintro (⟨hi, rfl | hmem⟩ | ⟨hi, hexported⟩)
        · exact absurd hmodule hi
        · exact .inr hmem
        · exact .inl ⟨hi, hexported⟩
    · next hne =>
      have hother : j.module ≠ .str module := fun heq => hne (Json.same_str_right.2 heq)
      have hflag : (⟨.str module, true⟩ : ImportedModule) ∈ j :: rest ↔
          ⟨.str module, true⟩ ∈ rest := by
        refine List.mem_cons.trans (or_iff_right ?_)
        rintro rfl
        exact hother rfl
      rw [List.mem_cons, ih hrest, hflag, List.mem_cons]
      constructor
      · rintro (rfl | ⟨hi, hmem⟩ | hi)
        · exact .inl ⟨hother, .inl rfl⟩
        · exact .inl ⟨hi, .inr hmem⟩
        · exact .inr hi
      · rintro (⟨hi, rfl | hmem⟩ | hi)
        · exact .inl rfl
        · exact .inr (.inl ⟨hi, hmem⟩)
        · exact .inr (.inr hi)

end ImportedModule

namespace NameTable

variable {t : NameTable}

/-! ## What the walk through the forest gathers -/

/-- The modules to import of the dependencies that have been visited, each once. One is made visible
further if that is asked for and one of its dependencies is. -/
structure Gathered (t : NameTable) (reexport : Bool) (visited : List Dependency.Visit)
    (found : List ImportedModule) : Prop where
  distinct : (found.map (·.module)).Nodup
  mem_iff (i : ImportedModule) : i ∈ found ↔ ∃ module, i.module = .str module ∧
    (∃ v ∈ visited, t.Imports v.1 module) ∧
      (i.exported = true ↔ reexport = true ∧ ∃ v ∈ visited, t.Imports v.1 module ∧ v.2 = true)

namespace Gathered

variable {reexport : Bool} {visited : List Dependency.Visit} {found : List ImportedModule}

theorem nil : Gathered t reexport [] [] := ⟨.nil, by simp⟩

/-- One more dependency. -/
theorem step (ht : ∀ entry ∈ t.modules, entry.2.IsText) (h : Gathered t reexport visited found)
    {v : Dependency.Visit} (hv : v.1.IsText) :
    ∃ found', t.noteVisit reexport found v = .ok found' ∧
      Gathered t reexport (visited ++ [v]) found' := by
  obtain ⟨own, hown, hmodule⟩ := moduleToImport?_spec ht hv
  rw [noteVisit, hown, Result.bind_ok]
  cases own with
  | none =>
    have hnone : ∀ module, ¬ t.Imports v.1 module := fun module himports =>
      nomatch (hmodule module).2 himports
    refine ⟨found, rfl, h.distinct, fun i => ?_⟩
    rw [h.mem_iff]
    simp [or_and_right, exists_or, hnone]
  | some module =>
    refine ⟨_, rfl, ImportedModule.nodup_note h.distinct, fun i => ?_⟩
    have hself : ∀ m, t.Imports v.1 m ↔ m = module := fun m => by
      rw [← hmodule, Option.some.injEq, eq_comm]
    have hconcat : ∀ P : Dependency.Visit → Prop,
        (∃ w ∈ visited ++ [v], P w) ↔ (∃ w ∈ visited, P w) ∨ P v := by
      simp [or_and_right, exists_or]
    rw [ImportedModule.mem_note_iff h.distinct, h.mem_iff, h.mem_iff]
    simp only [hconcat, hself]
    by_cases hi : i.module = .str module
    · -- the module of this dependency, which may have been found before
      simp only [hi, Json.str.injEq, exists_eq_left', true_iff, true_and, or_true,
        ne_eq, not_true_eq_false, false_and, false_or, Bool.and_eq_true]
      refine iff_congr .rfl ?_
      constructor
      · rintro (⟨hreexport, hpublic⟩ | ⟨-, hreexport, hbefore⟩)
        · exact ⟨hreexport, .inr hpublic⟩
        · exact ⟨hreexport, .inl hbefore⟩
      · rintro ⟨hreexport, ⟨w, hw, himports, hpublic⟩ | hpublic⟩
        · exact .inr ⟨⟨w, hw, himports⟩, hreexport, w, hw, himports, hpublic⟩
        · exact .inl ⟨hreexport, hpublic⟩
    · -- another module, which this dependency does not belong to
      have hother : ∀ m, i.module = .str m → m ≠ module := by
        rintro m hm rfl
        exact hi hm
      simp only [hi, ne_eq, not_false_eq_true, true_and, false_and, or_false]
      refine exists_congr fun m => and_congr_right fun hm => ?_
      simp only [hother m hm, false_and, or_false]

/-- A walk that comes to further dependencies. -/
theorem walk (ht : ∀ entry ∈ t.modules, entry.2.IsText) : ∀ {visited : List Dependency.Visit}
    {found : List ImportedModule} (vs : List Dependency.Visit),
    Gathered t reexport visited found → (∀ v ∈ vs, v.1.IsText) →
      ∃ found', vs.foldlM (t.noteVisit reexport) found = .ok found' ∧
        Gathered t reexport (visited ++ vs) found'
  | visited, found, [], h, _ => ⟨found, rfl, by rwa [List.append_nil]⟩
  | visited, found, v :: vs, h, hvs => by
    obtain ⟨hv, hrest⟩ := List.forall_mem_cons.1 hvs
    obtain ⟨found', hnote, hstep⟩ := h.step ht hv
    obtain ⟨found'', hwalk, hall⟩ := walk ht vs hstep hrest
    refine ⟨found'', ?_, by rwa [List.append_assoc] at hall⟩
    rw [List.foldlM_cons, hnote]
    exact hwalk

/-- The order of the modules does not matter, only which dependencies have been visited. -/
theorem perm (h : Gathered t reexport visited found) {visited' : List Dependency.Visit}
    {found' : List ImportedModule} (h' : Gathered t reexport visited' found')
    (hvisited : ∀ v, v ∈ visited ↔ v ∈ visited') : found.Perm found' := by
  refine (List.perm_ext_iff_of_nodup (h.distinct.of_map _) (h'.distinct.of_map _)).2 fun i => ?_
  rw [h.mem_iff, h'.mem_iff]
  simp only [hvisited]

/-- The order of the modules does not matter. -/
theorem of_perm (h : Gathered t reexport visited found) {found' : List ImportedModule}
    (hperm : found'.Perm found) : Gathered t reexport visited found' where
  distinct := (hperm.map _).nodup_iff.2 h.distinct
  mem_iff i := by rw [hperm.mem_iff, h.mem_iff]

/-- Of the table of names only the modules of files matter. -/
theorem of_imports (h : Gathered t reexport visited found) {other : NameTable}
    (himports : other.Imports = t.Imports) : Gathered other reexport visited found where
  distinct := h.distinct
  mem_iff := by simpa only [himports] using h.mem_iff

/-- Modules that are found are modules of the table. -/
theorem canonical (ht : ∀ entry ∈ t.modules, entry.2.IsCanonical)
    (h : Gathered t reexport visited found) : ∀ i ∈ found, i.module.IsCanonical := by
  intro i hi
  obtain ⟨module, hmodule, ⟨_, _, himports, _⟩, -⟩ := (h.mem_iff i).1 hi
  rw [hmodule]
  exact ModuleMap.forall_moduleOf? ht himports

/-- Different modules differ in the code points of their names. -/
theorem nodup_codes (ht : ∀ entry ∈ t.modules, entry.2.IsCanonical)
    (h : Gathered t reexport visited found) :
    (found.map fun i => Text.codes i.module.display).Nodup := by
  rw [List.nodup_map_iff_inj_on (h.distinct.of_map _)]
  intro i hi j hj hcodes
  obtain ⟨a, ha, hacanonical⟩ := h.canonical ht i hi
  obtain ⟨b, hb, hbcanonical⟩ := h.canonical ht j hj
  rw [ha, hb, Json.display_str, Json.display_str] at hcodes
  have hmodule : i.module = j.module := by
    rw [ha, hb, hacanonical.eq_of_codes hbcanonical hcodes]
  exact List.inj_on_of_nodup_map h.distinct hi hj hmodule

end Gathered

/-- The import statements are statements of modules of the table, whatever these are. -/
theorem statements_of_importLines {P : Json → Prop} (ht : ∀ entry ∈ t.modules, P entry.2)
    {form : ImportForm} {reexport : Bool} {lines : List String}
    (h : t.importLines form reexport = .ok lines) :
    ∀ line ∈ lines, ∃ module exported, P module ∧
      line = form.statement module.display exported := by
  obtain ⟨_, -, h⟩ := Result.bind_eq_ok_iff.1 h
  obtain ⟨found, hfound, h⟩ := Result.bind_eq_ok_iff.1 h
  obtain ⟨sorted, hsorted, h⟩ := Result.bind_eq_ok_iff.1 h
  cases h
  rw [← Bool.and_false reexport, collect_eq] at hfound
  intro line hline
  obtain ⟨i, hi, rfl⟩ := List.mem_map.1 hline
  have hnone : ∀ i ∈ ([] : List ImportedModule), P i.module := nofun
  have hmodule := forall_walk ht hnone hfound i ((Json.perm_of_sortBy hsorted).subset hi)
  exact ⟨i.module, i.exported, hmodule, i.line_eq form⟩

/-- The import statements are those of the modules of all dependencies, in order. -/
theorem importLines_gathered (ht : ∀ entry ∈ t.modules, entry.2.IsCanonical)
    (hnames : ∀ d ∈ Dependency.subtrees t.file.dependencies, d.name.IsText) (form : ImportForm)
    (reexport : Bool) :
    ∃ sorted, t.importLines form reexport = .ok (sorted.map (·.line form)) ∧
      Gathered t reexport (Dependency.visits false t.file.dependencies) sorted ∧
        Sorting.InOrder (fun i => Text.codes i.module.display) sorted := by
  have hstart : Gathered t reexport [] [] := .nil
  have hmodules : ∀ entry ∈ t.modules, entry.2.IsText := fun entry hentry =>
    (ht entry hentry).isText
  obtain ⟨found, hwalk, hfound⟩ := hstart.walk hmodules _ (Dependency.forall_visits_iff.2 hnames)
  obtain ⟨sorted, hsorted, hperm, horder⟩ :=
    Json.sortBy_texts fun i hi => (hfound.canonical ht i hi).isText
  exact ⟨sorted, importLines_of_walk hmodules form hwalk hsorted, hfound.of_perm hperm, horder⟩

/-- The modules that are imported are those of the dependencies of the forest that are to be
imported, each once and in the order of the code points of their names. One is made visible further
if that is asked for and one of its dependencies or one above it is public. So neither the order of
the dependencies nor their repetition, at any level, changes an import statement. -/
theorem importLines_spec (hmodules : ∀ entry ∈ t.modules, entry.2.IsCanonical)
    (hnames : ∀ d ∈ Dependency.subtrees t.file.dependencies, d.name.IsText) (form : ImportForm)
    (reexport : Bool) :
    (∃ imports : List (String × Bool),
      t.importLines form reexport = .ok (imports.map fun i => form.statement i.1 i.2) ∧
      imports.Pairwise (fun i j => Text.codes i.1 < Text.codes j.1) ∧
      ∀ module exported, (module, exported) ∈ imports ↔
        (∃ above d, Dependency.StandsIn t.file.dependencies above d ∧ t.Imports d.name module) ∧
        (exported = true ↔ reexport = true ∧
          ∃ above d, Dependency.StandsIn t.file.dependencies above d ∧ t.Imports d.name module ∧
            ∃ e ∈ d :: above, e.isPublic = true)) ∧
    ∀ forest, Dependency.Rearranged t.file.dependencies forest →
      ({ t with file := { t.file with dependencies := forest } } : NameTable).importLines form
        reexport = t.importLines form reexport := by
  obtain ⟨sorted, hlines, hsorted, horder⟩ := importLines_gathered hmodules hnames form reexport
  refine ⟨⟨sorted.map fun i => (i.module.display, i.exported), ?_, ?_, ?_⟩,
    fun forest hforest => ?_⟩
  · rw [hlines, List.map_map]
    exact congrArg Except.ok (List.map_congr_left fun i _ => i.line_eq form)
  · have hne := List.pairwise_map.1 (hsorted.nodup_codes hmodules)
    exact List.pairwise_map.2 ((horder.and hne).imp fun h => lt_of_le_of_ne h.1 h.2)
  · intro module exported
    have hmem : (module, exported) ∈ sorted.map (fun i => (i.module.display, i.exported)) ↔
        ⟨.str module, exported⟩ ∈ sorted := by
      rw [List.mem_map]
      constructor
      · rintro ⟨i, hi, heq⟩
        obtain ⟨text, htext, -⟩ := hsorted.canonical hmodules i hi
        obtain ⟨rfl, rfl⟩ := Prod.mk.inj heq
        rw [htext, Json.display_str, ← htext]
        exact hi
      · exact fun h => ⟨_, h, rfl⟩
    rw [hmem, hsorted.mem_iff]
    simp only [Json.str.injEq, exists_eq_left', Dependency.exists_visits_iff, Dependency.visitAt,
      Bool.or_false, List.any_eq_true]
  · have hvisits : ∀ v, v ∈ Dependency.visits false forest ↔
        v ∈ Dependency.visits false t.file.dependencies := fun v =>
      (hforest.mem_visits_iff false).symm
    have hnames' : ∀ d ∈ Dependency.subtrees forest, d.name.IsText :=
      Dependency.forall_visits_iff.1 fun v hv =>
        Dependency.forall_visits_iff.2 hnames v ((hvisits v).1 hv)
    obtain ⟨sorted', hlines', hsorted', horder'⟩ := importLines_gathered
      (t := { t with file := { t.file with dependencies := forest } }) hmodules hnames' form
      reexport
    have hother : Gathered t reexport (Dependency.visits false forest) sorted' :=
      hsorted'.of_imports rfl
    have hperm : sorted'.Perm sorted := hother.perm hsorted hvisits
    have heq : sorted' = sorted :=
      horder'.eq_of_perm horder hperm (hother.nodup_codes hmodules)
    rw [hlines', hlines, heq]

/-- A file with a dependency that makes another file visible, and with one of its own module. -/
def publicChain : NameTable where
  file := { Schema.blank "a.proto" with
    dependencies := [⟨.str "b.proto", true, [⟨.str "c.proto", false, []⟩]⟩,
      ⟨.str "d.proto", false, []⟩] }
  modules := [(.str "a.proto", .str "Own"), (.str "c.proto", .str "Inner"),
    (.str "d.proto", .str "Own")]
  runtimeModule := "SwiftProtobuf"
  typePrefix := .str ""
  entries := []

theorem canonical_publicChain : ∀ entry ∈ publicChain.modules, entry.2.IsCanonical :=
  List.forall_mem_cons.2 ⟨Json.isCanonical_of_noMark (by decide),
    List.forall_mem_cons.2 ⟨Json.isCanonical_of_noMark (by decide),
      List.forall_mem_singleton.2 (Json.isCanonical_of_noMark (by decide))⟩⟩

/-- The module below the public dependency is made visible further, the file's own module is not
imported, and the dependencies can stand the other way round. -/
theorem importLines_publicChain :
    ∃ imports : List (String × Bool),
      publicChain.importLines .plain true =
        .ok (imports.map fun i => ImportForm.plain.statement i.1 i.2) ∧
      ("Inner", true) ∈ imports ∧ (∀ exported, ("Own", exported) ∉ imports) ∧
      ({ publicChain with file := { publicChain.file with
          dependencies := publicChain.file.dependencies.reverse } } : NameTable).importLines .plain
        true = publicChain.importLines .plain true := by
  have hnames : ∀ d ∈ Dependency.subtrees publicChain.file.dependencies, d.name.IsText := by
    change ∀ d ∈ [_, _, _], Json.IsText (Dependency.name d)
    simp only [List.forall_mem_cons, Json.isText_str, true_and, List.not_mem_nil, false_implies,
      implies_true]
  obtain ⟨⟨imports, hlines, -, hmem⟩, hrearranged⟩ :=
    importLines_spec canonical_publicChain hnames .plain true
  have hbelow : Dependency.StandsIn publicChain.file.dependencies
      [⟨.str "b.proto", true, [⟨.str "c.proto", false, []⟩]⟩] ⟨.str "c.proto", false, []⟩ :=
    .through (.head _) (.direct (.head _))
  have hown : ModuleMap.moduleOf? publicChain.modules (.str publicChain.file.name) =
      some (.str "Own") := rfl
  have himports : publicChain.Imports (.str "c.proto") "Inner" := ⟨rfl, by simp [hown], by decide⟩
  refine ⟨imports, hlines, (hmem _ _).2 ⟨⟨_, _, hbelow, himports⟩, iff_of_true rfl ⟨rfl, _, _,
    hbelow, himports, _, .tail _ (.head _), rfl⟩⟩, fun exported himported => ?_, ?_⟩
  · obtain ⟨⟨_, _, _, _, hother, _⟩, _⟩ := (hmem _ _).1 himported
    exact hother hown
  · exact hrearranged _ (.of_perm (List.reverse_perm _).symm)

end NameTable

end SchemaToSwift
