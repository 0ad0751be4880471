import SchemaToSwift.Proofs.Json.Texts
import SchemaToSwift.Proofs.Settings.ModuleFile
import SchemaToSwift.Proofs.Settings.Precedence
import SchemaToSwift.Proofs.Settings.Same
import SchemaToSwift.Proofs.Text.Split

/-!
# Settings from files can be saved

What a document holds can be held by a document again (`Json.parse_wellFormed`), and so can the
files, modules and patterns that settings take from it: each update that a pair of a configuration
asks for keeps this up (`Settings.readPair_wellFormed`). So settings of texts that come from a
configuration file, and from overrides that a document can hold, can be saved
(`Settings.savable_of_load`): a surrogate pair in its two halves is in none of them.
-/

namespace SchemaToSwift

/-- A tree whose files have bytes. -/
def FileTree.HoldsBytes (t : FileTree) : Prop :=
  ∀ loc content, t.entry? loc = some (.text content) →
    Text.WellFormed content ∧ Text.hasHalf content = false

/-! ## Documents -/

namespace Json

/-- The values of an object that a document can hold can be held by a document. -/
theorem WellFormed.values {members : List (String × Json)} (h : (Json.obj members).WellFormed) :
    ∀ m ∈ members, m.2.WellFormed := by
  cases h with
  | obj _ _ hvalues => exact hvalues

/-- So can what a name of the object has as its value. -/
theorem WellFormed.lookup {members : List (String × Json)} (h : (Json.obj members).WellFormed)
    {name : String} {v : Json} (hv : members.lookup name = some v) : v.WellFormed := by
  obtain ⟨before, after, rfl, -⟩ := List.lookup_eq_some_iff.1 hv
  exact h.values (name, v) (List.mem_append_right _ (.head _))

/-- The elements of a document other than the code points of a text can be held by a document. -/
theorem WellFormed.elements {v : Json} (hv : v.WellFormed) (htext : ¬ v.IsText)
    {items : List Json} (h : v.elements = .ok items) : ∀ item ∈ items, item.WellFormed := by
  cases hv with
  | null | bool | int | double => cases h
  | str => exact absurd ⟨_, rfl⟩ htext
  | arr hitems =>
    cases h
    exact hitems
  | obj _ hnames _ =>
    cases h
    exact List.forall_mem_map.2 fun m hm => .str (hnames m hm)

end Json

/-- A document can hold the object that a file of a tree gives. -/
theorem SettingsFile.wellFormed_of_readObject {tree : FileTree} (htree : tree.HoldsBytes)
    {kind : SettingsFile} {path : String} {members : List (String × Json)}
    (h : kind.readObject tree path = .ok members) : (Json.obj members).WellFormed := by
  cases hloc : tree.locate (.ofText path) with
  | error fault =>
    rw [readObject_of_locate_error kind hloc] at h
    cases h
  | ok loc =>
    rw [readObject_of_locate_ok kind hloc] at h
    split at h
    · next text hentry =>
      obtain ⟨htext, hbytes⟩ := htree loc text hentry
      split at h
      · next members' hparse =>
        cases h
        exact Json.parse_wellFormed htext hbytes hparse
      · cases h
      · cases h
    · cases h
    · cases h
    · cases h

/-! ## Tables of modules -/

namespace ModuleMap

/-- A table of files and modules that a document can hold, with each file once. -/
structure WellFormed (m : ModuleMap) : Prop where
  entries : ∀ entry ∈ m, entry.1.WellFormed ∧ entry.2.WellFormed
  distinct : m.Pairwise fun a b => a.1.same b.1 = false

variable {m n : ModuleMap}

theorem wellFormed_nil : WellFormed [] := ⟨List.forall_mem_nil _, .nil⟩

/-- The files of a table after one is put into it are that one and those before. -/
theorem mem_put {file module : Json} {entry : Json × Json} (h : entry ∈ m.put file module) :
    entry ∈ m ∨ entry.2 = module ∧ (entry.1 = file ∨ ∃ old ∈ m, old.1 = entry.1) := by
  induction m with
  | nil =>
    obtain rfl := List.mem_singleton.1 h
    exact .inr ⟨rfl, .inl rfl⟩
  | cons first rest ih =>
    rw [put] at h
    split at h <;> rcases List.mem_cons.1 h with rfl | hrest
    · exact .inr ⟨rfl, .inr ⟨first, .head _, rfl⟩⟩
    · exact .inl (.tail _ hrest)
    · exact .inl (.head _)
    · rcases ih hrest with hold | ⟨hmodule, hfile | ⟨old, hold, hsame⟩⟩
      · exact .inl (.tail _ hold)
      · exact .inr ⟨hmodule, .inl hfile⟩
      · exact .inr ⟨hmodule, .inr ⟨old, .tail _ hold, hsame⟩⟩

/-- No file is in the table twice if none was. -/
theorem pairwise_put (h : m.Pairwise fun a b => a.1.same b.1 = false) (file module : Json) :
    (m.put file module).Pairwise fun a b => a.1.same b.1 = false := by
  induction m with
  | nil => exact List.pairwise_singleton _ _
  | cons first rest ih =>
    obtain ⟨hfirst, hrest⟩ := List.pairwise_cons.1 h
    rw [put]
    split
    · exact List.pairwise_cons.2 ⟨hfirst, hrest⟩
    · next hother =>
      refine List.pairwise_cons.2 ⟨fun entry hentry => ?_, ih hrest⟩
      rcases mem_put hentry with hold | ⟨-, hfile | ⟨old, hold, hsame⟩⟩
      · exact hfirst entry hold
      · rw [hfile]
        exact Bool.eq_false_iff.2 hother
      · rw [← hsame]
        exact hfirst old hold

/-- So a table stays well formed when a file is put into it. -/
theorem WellFormed.put (h : m.WellFormed) {file module : Json} (hfile : file.WellFormed)
    (hmodule : module.WellFormed) : (m.put file module).WellFormed := by
  refine ⟨fun entry hentry => ?_, pairwise_put h.distinct file module⟩
  rcases mem_put hentry with hold | ⟨heq, hnew | ⟨old, hold, hsame⟩⟩
  · exact h.entries entry hold
  · exact ⟨hnew ▸ hfile, heq ▸ hmodule⟩
  · exact ⟨hsame ▸ (h.entries old hold).1, heq ▸ hmodule⟩

/-- The members of an object make such a table. -/
theorem wellFormed_ofMembers {members : List (String × Json)}
    (h : (Json.obj members).WellFormed) : (ofMembers members).WellFormed := by
  cases h with
  | obj hdistinct hnames hvalues =>
    refine ⟨List.forall_mem_map.2 fun m hm => ⟨.str (hnames m hm), hvalues m hm⟩, ?_⟩
    refine List.pairwise_map.2 ((List.pairwise_map.1 hdistinct).imp fun hne => ?_)
    exact Bool.eq_false_iff.2 fun hsame => hne (Json.str.inj (Json.same_str_left.1 hsame)).symm

/-- A file is put under a module, or not at all. -/
theorem claim_eq_ok {path : String} {module file : Json} (h : claim path module m file = .ok n) :
    n = m.put file module := by
  obtain ⟨key, hkey, h⟩ := Result.bind_eq_ok_iff.1 h
  have hfile : key = file := by
    have hasKey := Failure.escape_eq_ok hkey
    unfold Json.asKey at hasKey
    split at hasKey <;> cases hasKey
    rfl
  rw [hfile] at h
  split at h
  · split at h <;> cases h
    rfl
  · cases h
    rfl

/-- The files that an entry lists can be held by a document. -/
theorem wellFormed_of_filesOf {members : List (String × Json)} (h : (Json.obj members).WellFormed)
    {files : List Json} (hfiles : filesOf members = .ok files) :
    ∀ file ∈ files, file.WellFormed := by
  unfold filesOf at hfiles
  cases hlookup : members.lookup "proto_file_path" with
  | none =>
    rw [hlookup] at hfiles
    cases hfiles
    exact List.forall_mem_nil _
  | some v =>
    have hv := h.lookup hlookup
    rw [hlookup, Option.getD_some] at hfiles
    split at hfiles
    · cases hfiles
      exact List.forall_mem_singleton.2 hv
    · next hother => exact hv.elements (fun ⟨s, hs⟩ => hother s hs) hfiles

/-- A table stays well formed when the files of an entry are put into it, one after the other. -/
theorem WellFormed.addEntry (h : m.WellFormed) {path : String} {entry : Json}
    (hentry : entry.WellFormed) (hn : addEntry path m entry = .ok n) : n.WellFormed := by
  rcases addEntry_cases path m entry with hreported | ⟨members, module, rfl, hname, htruthy⟩
  · rw [hreported] at hn
    cases hn
  rw [addEntry_of_named hname htruthy] at hn
  obtain ⟨files, hfiles, hn⟩ := Result.bind_eq_ok_iff.1 hn
  have hlisted := wellFormed_of_filesOf hentry (Failure.escape_eq_ok hfiles)
  refine Result.of_foldlM_eq_ok (P := WellFormed) (fun file hfile b c hb hc => ?_) h hn
  rw [claim_eq_ok hc]
  exact hb.put (hlisted file hfile) (hentry.lookup hname)

/-- A table that a file gives. -/
theorem wellFormed_of_load {tree : FileTree} (htree : tree.HoldsBytes) {path : String}
    (h : load tree path = .ok m) : m.WellFormed := by
  obtain ⟨members, hmembers, h⟩ := Result.bind_eq_ok_iff.1 h
  have hobject := SettingsFile.wellFormed_of_readObject htree hmembers
  cases hlookup : members.lookup "mapping" with
  | none =>
    rw [hlookup] at h
    cases h
    exact wellFormed_nil
  | some v =>
    rw [hlookup, Option.getD_some] at h
    cases hobject.lookup hlookup with
    | arr hentries =>
      exact Result.of_foldlM_eq_ok (P := WellFormed)
        (fun entry hentry b c hb hc => hb.addEntry (hentries entry hentry) hc) wellFormed_nil h
    | null | bool | int | double | str | obj => cases h

/-- A table of texts among them can be saved. -/
theorem WellFormed.ofTexts (h : m.WellFormed)
    (htexts : ∀ entry ∈ m, entry.1.IsText ∧ entry.2.IsText) : m.OfTexts where
  entries entry hentry := by
    obtain ⟨⟨file, hfile⟩, ⟨module, hmodule⟩⟩ := htexts entry hentry
    obtain ⟨hwfFile, hwfModule⟩ := h.entries entry hentry
    rw [hfile] at hwfFile
    rw [hmodule] at hwfModule
    cases hwfFile with
    | str hfileText =>
      cases hwfModule with
      | str hmoduleText => exact ⟨file, module, Prod.ext hfile hmodule, hfileText, hmoduleText⟩
  distinct := by
    refine List.pairwise_map.2 (h.distinct.imp_of_mem fun ha _ hother heq => ?_)
    obtain ⟨⟨file, hfile⟩, -⟩ := htexts _ ha
    rw [← heq, hfile, Json.same_str_left.2 rfl] at hother
    cases hother

end ModuleMap

/-! ## Settings -/

namespace Settings

/-- Settings whose files, modules and patterns a document can hold. -/
structure WellFormed (s : Settings) : Prop where
  modules : s.modules.WellFormed
  shortened : ∀ pattern ∈ s.shortened, pattern.WellFormed
  runtimeModule : Text.isIdentifier s.runtimeModule = true

/-- An update to such settings. -/
def Update.WellFormed : Update → Prop
  | .modules m | .moduleFile _ m => m.WellFormed
  | .shortened patterns => ∀ pattern ∈ patterns, pattern.WellFormed
  | .runtimeModule name => Text.isIdentifier name = true
  | .naming _ | .importForm _ | .access _ | .profile _ | .noModuleFile => True

theorem wellFormed_default : default.WellFormed where
  modules := ModuleMap.wellFormed_nil
  shortened := List.forall_mem_nil _
  runtimeModule := by decide +kernel

/-- An update keeps this up. -/
theorem WellFormed.apply {s : Settings} (h : s.WellFormed) {u : Update} (hu : u.WellFormed) :
    (s.apply u).WellFormed := by
  cases u with
  | modules | moduleFile => exact { h with modules := hu }
  | shortened => exact { h with shortened := hu }
  | runtimeModule => exact { h with runtimeModule := hu }
  | naming | importForm | access | profile => exact ⟨h.modules, h.shortened, h.runtimeModule⟩
  | noModuleFile => exact h

/-- So do updates one after the other. -/
theorem WellFormed.foldl {s : Settings} (h : s.WellFormed) {updates : List Update}
    (hupdates : ∀ u ∈ updates, u.WellFormed) : (updates.foldl Settings.apply s).WellFormed := by
  induction updates generalizing s with
  | nil => exact h
  | cons u rest ih =>
    obtain ⟨hu, hrest⟩ := List.forall_mem_cons.1 hupdates
    exact ih (h.apply hu) hrest

/-- The patterns between semicolons. -/
theorem wellFormed_patterns {s : String} (h : Text.WellFormed s) :
    ∀ pattern ∈ Parameter.patterns s, pattern.WellFormed := by
  refine List.forall_mem_map.2 fun text htext => .str ?_
  exact h.parts (by decide) (by decide) text (List.mem_of_mem_filter htext)

/-- A value that a document can hold asks for such an update. -/
theorem readPair_wellFormed {tree : FileTree} (htree : tree.HoldsBytes) {key : String}
    {value : Json} (hvalue : value.WellFormed) {u : Update}
    (h : readPair tree key value = .ok u) : u.WellFormed := by
  unfold readPair at h
  -- one case for each key, in the order in which they are read
  split at h
  case h_1 | h_2 | h_3 | h_4 =>
    obtain ⟨_, -, rfl⟩ := Result.map_eq_ok_iff.1 h
    trivial
  case h_5 =>
    split at h <;> cases h
    exact ModuleMap.wellFormed_ofMembers hvalue
  case h_6 =>
    split at h
    · cases h
      trivial
    · split at h
      · obtain ⟨m, hm, rfl⟩ := Result.map_eq_ok_iff.1 h
        exact ModuleMap.wellFormed_of_load htree hm
      · cases h
  case h_7 =>
    split at h
    · cases h
      cases hvalue with
      | str htext => exact wellFormed_patterns htext
    · next hother =>
      obtain ⟨patterns, hpatterns, rfl⟩ := Result.map_eq_ok_iff.1 h
      exact hvalue.elements (fun ⟨s, hs⟩ => hother s hs) (Failure.escape_eq_ok hpatterns)
  case h_8 =>
    split at h <;> cases h
    next hname => exact (Bool.and_eq_true_iff.1 hname).2
  case h_9 => cases h

/-- The pairs of a source. -/
theorem wellFormed_of_readings {tree : FileTree} (htree : tree.HoldsBytes)
    {source : Except (Failure SettingsError) (List (String × Json))} {updates : List Update}
    (hsource : ∀ pairs, source = .ok pairs → ∀ p ∈ pairs, p.2.WellFormed)
    (h : (readings tree source).mapM id = .ok updates) : ∀ u ∈ updates, u.WellFormed := by
  obtain ⟨pairs, hpairs, hread⟩ := exists_pairs_of_readings h
  intro u hu
  obtain ⟨p, hp, hpair⟩ := Result.exists_of_mem_mapM hread hu
  exact readPair_wellFormed htree (hsource pairs hpairs p hp) hpair

/-- Settings that come from a configuration file, and from overrides that a document can hold, have
files, modules and patterns that a document can hold. -/
theorem wellFormed_of_load {tree : FileTree} (htree : tree.HoldsBytes) {file : Option String}
    {overrides : List (String × Json)} (hoverrides : ∀ p ∈ overrides, p.2.WellFormed)
    {s : Settings} (h : load tree ⟨file, none, overrides⟩ = .ok s) : s.WellFormed := by
  rw [load_eq] at h
  obtain ⟨updates, hupdates, rfl⟩ := Result.map_eq_ok_iff.1 h
  rw [Sources.attempts, List.mapM_append] at hupdates
  obtain ⟨first, hfirst, hupdates⟩ := Result.bind_eq_ok_iff.1 hupdates
  rw [List.mapM_append] at hfirst
  obtain ⟨configured, hconfigured, hfirst⟩ := Result.bind_eq_ok_iff.1 hfirst
  obtain ⟨given, hgiven, hfirst⟩ := Result.bind_eq_ok_iff.1 hfirst
  obtain ⟨overriding, hoverriding, hupdates⟩ := Result.bind_eq_ok_iff.1 hupdates
  cases hfirst
  cases hupdates
  refine wellFormed_default.foldl
    (List.forall_mem_append.2 ⟨List.forall_mem_append.2 ⟨?config, ?parameter⟩, ?overrides⟩)
  case config =>
    refine wellFormed_of_readings htree (fun pairs hpairs => ?_) hconfigured
    unfold configPairs at hpairs
    dsimp only at hpairs
    split at hpairs
    · cases hpairs
      exact List.forall_mem_nil _
    · exact (SettingsFile.wellFormed_of_readObject htree hpairs).values
  case parameter =>
    refine wellFormed_of_readings htree (fun pairs hpairs => ?_) hgiven
    cases hpairs
    exact List.forall_mem_nil _
  case overrides =>
    refine wellFormed_of_readings htree (fun pairs hpairs => ?_) hoverriding
    cases hpairs
    exact hoverrides

/-- So they can be saved if they are of texts. -/
theorem savable_of_load {tree : FileTree} (htree : tree.HoldsBytes) {file : Option String}
    {overrides : List (String × Json)} (hoverrides : ∀ p ∈ overrides, p.2.WellFormed)
    {s : Settings} (h : load tree ⟨file, none, overrides⟩ = .ok s)
    (hmodules : ∀ entry ∈ s.modules, entry.1.IsText ∧ entry.2.IsText)
    (hshortened : ∀ pattern ∈ s.shortened, pattern.IsText) : s.Savable := by
  have hs := wellFormed_of_load htree hoverrides h
  refine ⟨hs.modules.ofTexts hmodules, fun pattern hpattern => ?_, hs.runtimeModule⟩
  obtain ⟨text, rfl⟩ := hshortened pattern hpattern
  cases hs.shortened _ hpattern with
  | str htext => exact ⟨text, rfl, htext⟩

end Settings

end SchemaToSwift
