import SchemaToSwift.Imports
import SchemaToSwift.Proofs.Imports.Forest
import SchemaToSwift.Proofs.Json.Order

/-!
# Imports of a typed file

Where modules and the names of dependencies are texts, the modules to import are texts, and texts
can be put in order. So the import statements of a typed file can always be made
(`NameTable.importLines_ok`).
-/

namespace SchemaToSwift

/-- The module that a table gives is one of its modules. -/
theorem ModuleMap.forall_moduleOf? {P : Json → Prop} {m : ModuleMap} (h : ∀ entry ∈ m, P entry.2)
    {file module : Json} (hm : moduleOf? m file = some module) : P module := by
  obtain ⟨entry, he, rfl⟩ := Option.map_eq_some_iff.1 hm
  exact h entry (List.mem_of_find?_eq_some he)

/-- The modules after noting one are that one and those that were there before. -/
theorem ImportedModule.forall_note {P : Json → Prop} {module : Json} (hm : P module)
    (exported : Bool) : ∀ {ms : List ImportedModule}, (∀ m ∈ ms, P m.module) →
      ∀ m ∈ note module exported ms, P m.module
  | [], _ => List.forall_mem_singleton.2 hm
  | first :: rest, h => by
    obtain ⟨hfirst, hrest⟩ := List.forall_mem_cons.1 h
    rw [note]
    split
    · exact List.forall_mem_cons.2 ⟨hfirst, hrest⟩
    · exact List.forall_mem_cons.2 ⟨hfirst, forall_note hm exported hrest⟩

theorem Json.asKey_eq_ok {v key : Json} (h : v.asKey = .ok key) : key = v := by
  unfold asKey at h
  split at h
  · exact (Except.ok.inj h).symm
  · cases h

/-- Modules to import that are texts. -/
def ImportedModule.Textual (ms : List ImportedModule) : Prop := ∀ m ∈ ms, m.module.IsText

theorem ImportedModule.Textual.nil : Textual [] := by simp [Textual]

theorem ImportedModule.Textual.note {module : Json} (hm : module.IsText) (exported : Bool)
    {ms : List ImportedModule} (h : Textual ms) : Textual (note module exported ms) :=
  forall_note hm exported h

namespace NameTable

variable {t : NameTable}

/-! ## Modules of dependencies -/

/-- A schema file belongs to a module that is to be imported: neither the module of the file itself
nor the runtime library. -/
def Imports (t : NameTable) (file : Json) (module : String) : Prop :=
  ModuleMap.moduleOf? t.modules file = some (.str module) ∧
    ModuleMap.moduleOf? t.modules (.str t.file.name) ≠ some (.str module) ∧
      module ≠ t.runtimeModule

/-- What is left out is the file's own module and the runtime library. -/
theorem leftOut_iff {own : Option Json} {module runtimeModule : String} :
    (own.any (·.same (.str module)) || (Json.str module).same (.str runtimeModule)) = true ↔
      own = some (.str module) ∨ module = runtimeModule := by
  rw [Bool.or_eq_true, Json.same_str, beq_iff_eq]
  cases own with
  | none => simp
  | some v => simp [Json.same_str_right]

/-- The module to import of a dependency. -/
theorem moduleToImport?_spec (ht : ∀ entry ∈ t.modules, entry.2.IsText) {file : Json}
    (hf : file.IsText) :
    ∃ found : Option String, t.moduleToImport? file = .ok (found.map .str) ∧
      ∀ module, found = some module ↔ t.Imports file module := by
  rw [moduleToImport?, hf.asKey, Result.bind_ok]
  cases hm : ModuleMap.moduleOf? t.modules file with
  | none => exact ⟨none, rfl, fun module => by simp [Imports, hm]⟩
  | some module =>
    obtain ⟨text, rfl⟩ := ModuleMap.forall_moduleOf? ht hm
    simp only [(Json.isText_str text).asKey, Result.bind_ok]
    split
    · next hskip =>
      refine ⟨none, rfl, fun module => iff_of_false nofun ?_⟩
      rintro ⟨hmodule, hown, hruntime⟩
      obtain rfl : text = module := by simpa [hm] using hmodule
      exact (leftOut_iff.1 hskip).elim hown hruntime
    · next hkeep =>
      rw [leftOut_iff, not_or] at hkeep
      refine ⟨some text, rfl, fun module => ?_⟩
      rw [Option.some.injEq, Imports, hm, Option.some.injEq, Json.str.injEq]
      exact ⟨by rintro rfl; exact ⟨rfl, hkeep⟩, fun h => h.1⟩

/-! ## The walk through the forest -/

/-- The modules with that of a dependency that the walk comes to. -/
def noteVisit (t : NameTable) (reexport : Bool) (found : List ImportedModule)
    (v : Dependency.Visit) : Except Fault (List ImportedModule) := do
  match ← t.moduleToImport? v.1 with
  | some module => return ImportedModule.note module (reexport && v.2) found
  | none => return found

mutual

/-- The modules of a tree are those that a walk through it notes. -/
theorem collectOne_eq (reexport : Bool) : ∀ (through : Bool) (found : List ImportedModule)
    (d : Dependency), t.collectOne reexport (reexport && through) found d =
      (d.visit through).foldlM (t.noteVisit reexport) found
  | through, found, ⟨name, isPublic, reexports⟩ => by
    have hexported : (reexport && (isPublic || reexport && through)) =
        (reexport && (isPublic || through)) := by
      cases reexport <;> rfl
    rw [collectOne, hexported, Dependency.visit, List.foldlM_cons, noteVisit]
    cases hmodule : t.moduleToImport? name with
    | error fault => rfl
    | ok module? =>
      simp only [Result.bind_ok]
      cases module? with
      | none => exact collect_eq reexport (isPublic || through) found reexports
      | some module => exact collect_eq reexport (isPublic || through) _ reexports

/-- The modules of a forest are those that a walk through it notes. -/
theorem collect_eq (reexport : Bool) : ∀ (through : Bool) (found : List ImportedModule)
    (forest : List Dependency), t.collect reexport (reexport && through) found forest =
      (Dependency.visits through forest).foldlM (t.noteVisit reexport) found
  | _, found, [] => by
    rw [collect, Dependency.visits]
    rfl
  | through, found, d :: ds => by
    rw [collect, collectOne_eq, Dependency.visits, List.foldlM_append]
    exact Result.bind_congr fun found' _ => collect_eq reexport through found' ds

end

/-- A walk to dependencies with textual names adds modules to textual ones, which stay textual. -/
theorem walk_ok (ht : ∀ entry ∈ t.modules, entry.2.IsText) (reexport : Bool) :
    ∀ {vs : List Dependency.Visit} {found : List ImportedModule}, ImportedModule.Textual found →
      (∀ v ∈ vs, v.1.IsText) →
        ∃ ms, vs.foldlM (t.noteVisit reexport) found = .ok ms ∧ ImportedModule.Textual ms
  | [], found, hfound, _ => ⟨found, rfl, hfound⟩
  | v :: vs, found, hfound, h => by
    obtain ⟨hv, hrest⟩ := List.forall_mem_cons.1 h
    obtain ⟨own, hown, -⟩ := moduleToImport?_spec ht hv
    rw [List.foldlM_cons, noteVisit, hown, Result.bind_ok]
    cases own with
    | none => exact walk_ok ht reexport hfound hrest
    | some module => exact walk_ok ht reexport (hfound.note (Json.isText_str module) _) hrest

/-- The module to import of a dependency is one of the table. -/
theorem forall_moduleToImport? {P : Json → Prop} (ht : ∀ entry ∈ t.modules, P entry.2)
    {file module : Json} (h : t.moduleToImport? file = .ok (some module)) : P module := by
  obtain ⟨key, -, h⟩ := Result.bind_eq_ok_iff.1 h
  split at h
  · cases h
  · cases h
  · next found _ hfound =>
    obtain ⟨own, hown, h⟩ := Result.bind_eq_ok_iff.1 h
    dsimp only at h
    split at h
    · cases h
    · cases h
      obtain rfl := Json.asKey_eq_ok hown
      exact ModuleMap.forall_moduleOf? ht hfound

/-- A walk notes modules of the table. -/
theorem forall_walk {P : Json → Prop} (ht : ∀ entry ∈ t.modules, P entry.2) {reexport : Bool} :
    ∀ {vs : List Dependency.Visit} {found ms : List ImportedModule}, (∀ m ∈ found, P m.module) →
      vs.foldlM (t.noteVisit reexport) found = .ok ms → ∀ m ∈ ms, P m.module
  | [], found, ms, hfound, h => by
    cases h
    exact hfound
  | v :: vs, found, ms, hfound, h => by
    rw [List.foldlM_cons] at h
    obtain ⟨next, hnext, h⟩ := Result.bind_eq_ok_iff.1 h
    refine forall_walk ht ?_ h
    obtain ⟨own, hown, hnext⟩ := Result.bind_eq_ok_iff.1 hnext
    cases own with
    | none =>
      cases hnext
      exact hfound
    | some module =>
      cases hnext
      exact ImportedModule.forall_note (forall_moduleToImport? ht hown) _ hfound

theorem checkOwnModule_ok (ht : ∀ entry ∈ t.modules, entry.2.IsText) :
    t.checkOwnModule = .ok () := by
  unfold checkOwnModule
  split
  · next module hm =>
    rw [(ModuleMap.forall_moduleOf? ht hm).asKey]
    rfl
  · rfl

/-- The import statements are those of the modules that the walk through the dependencies notes. -/
theorem importLines_of_walk (ht : ∀ entry ∈ t.modules, entry.2.IsText) (form : ImportForm)
    {reexport : Bool} {found sorted : List ImportedModule}
    (hwalk : (Dependency.visits false t.file.dependencies).foldlM (t.noteVisit reexport) [] =
      .ok found) (hsorted : Json.sortBy (·.module) found = .ok sorted) :
    t.importLines form reexport = .ok (sorted.map (·.line form)) := by
  have hcollect : t.collect reexport false [] t.file.dependencies = .ok found := by
    rw [← hwalk, ← collect_eq, Bool.and_false]
  rw [importLines, checkOwnModule_ok ht, Result.bind_ok, hcollect, Result.bind_ok,
    ImportedModule.sort, hsorted]
  rfl

/-- A file whose dependencies have textual names has import statements. -/
theorem importLines_ok (ht : ∀ entry ∈ t.modules, entry.2.IsText) (form : ImportForm)
    (reexport : Bool) (hd : ∀ d ∈ Dependency.subtrees t.file.dependencies, d.name.IsText) :
    ∃ lines, t.importLines form reexport = .ok lines := by
  obtain ⟨found, hwalk, htext⟩ := walk_ok ht reexport .nil (Dependency.forall_visits_iff.2 hd)
  obtain ⟨sorted, hsorted, -⟩ := Json.sortBy_texts htext
  exact ⟨_, importLines_of_walk ht form hwalk hsorted⟩

end NameTable

end SchemaToSwift
