import SchemaToSwift.Proofs.FileTree
import SchemaToSwift.Proofs.Json.RoundTrip
import SchemaToSwift.Proofs.Settings.Same
import SchemaToSwift.Settings.Load

/-!
# Saving settings and loading them

Saved settings are a document of texts, so the file that they are written to is read back as that
document, and each of its members as the setting that gave it. What is loaded is what was saved,
with the modules in order (`load_save`).
-/

namespace SchemaToSwift

namespace Choice

variable {α : Type} [DecidableEq α] {c : Choice α}

/-- Every choice has a name that a document can hold and that names the choice. -/
structure NamesItself (c : Choice α) : Prop where
  noMark : ∀ a, Text.mark ∉ (c.nameOf a).toList
  named : ∀ a, c.ofText? (Text.lower (Text.trim (c.nameOf a))) = some a

/-- The name of a choice is read as the choice. -/
theorem NamesItself.read (h : c.NamesItself) (a : α) : c.read (.str (c.nameOf a)) = .ok a := by
  rw [Choice.read, Json.display_str, h.named a]

theorem NamesItself.ofTexts (h : c.NamesItself) (a : α) : (Json.str (c.nameOf a)).OfTexts :=
  .str (Text.wellFormed_of_noMark (h.noMark a))

theorem namesItself_naming : naming.NamesItself := by
  constructor <;> intro a <;> cases a <;> decide +kernel

theorem namesItself_importForm : importForm.NamesItself := by
  constructor <;> intro a <;> cases a <;> decide +kernel

theorem namesItself_access : access.NamesItself := by
  constructor <;> intro a <;> cases a <;> decide +kernel

theorem namesItself_profile : profile.NamesItself := by
  constructor <;> intro a <;> cases a <;> decide +kernel

end Choice

namespace Settings

variable {s : Settings} {modules : ModuleMap}

/-! ## The saved document -/

/-- The members of a saved table of modules. -/
def moduleObject (modules : ModuleMap) : List (String × Json) :=
  (moduleMembers modules).map fun (name, module) => (name, module.byName)

/-- A file of a table of texts and its module are saved as texts. -/
theorem mem_moduleObject (h : modules.OfTexts) {member : String × Json}
    (hmember : member ∈ moduleObject modules) :
    Text.WellFormed member.1 ∧ ∃ text, member.2 = .str text ∧ Text.WellFormed text := by
  rw [moduleObject, moduleMembers, List.map_map] at hmember
  obtain ⟨entry, hentry, rfl⟩ := List.mem_map.1 hmember
  obtain ⟨file, module, rfl, hfile, hmodule⟩ := h.entries entry hentry
  exact ⟨hfile, module, rfl, hmodule⟩

/-- A table of texts is the table of its members. -/
theorem ofMembers_moduleObject (h : modules.OfTexts) :
    ModuleMap.ofMembers (moduleObject modules) = modules := by
  rw [ModuleMap.ofMembers, moduleObject, moduleMembers, List.map_map, List.map_map]
  refine (List.map_congr_left fun entry hentry => ?_).trans (List.map_id _)
  obtain ⟨file, module, rfl, -⟩ := h.entries entry hentry
  rfl

/-- Patterns that are texts are saved as they are. -/
theorem map_byName_texts {vs : List Json} (h : ∀ v ∈ vs, v.IsText) : vs.map Json.byName = vs := by
  refine (List.map_congr_left fun v hv => ?_).trans (List.map_id _)
  obtain ⟨text, rfl⟩ := h v hv
  rfl

/-- The members of a table of texts are a document of texts. -/
theorem ofTexts_moduleObject (h : modules.OfTexts) : (Json.obj (moduleObject modules)).OfTexts := by
  refine .obj ?_ (fun _ hmember => (mem_moduleObject h hmember).1) fun member hmember => ?_
  · have hfiles : (ModuleMap.ofMembers (moduleObject modules)).map (·.1) =
        ((moduleObject modules).map (·.1)).map Json.str := by
      rw [ModuleMap.ofMembers, List.map_map, List.map_map]
      rfl
    have hdistinct := h.distinct
    rw [← ofMembers_moduleObject h, hfiles] at hdistinct
    exact hdistinct.of_map _
  · obtain ⟨-, text, htext, hwf⟩ := mem_moduleObject h hmember
    rw [htext]
    exact .str hwf

/-- The members of saved settings. -/
def savedMembers (s : Settings) (modules : ModuleMap) : List (String × Json) := [
  ("generation_mode", .str (Choice.profile.nameOf s.profile)),
  ("import_directive", .str (Choice.importForm.nameOf s.importForm)),
  ("output_naming", .str (Choice.naming.nameOf s.naming)),
  ("proto_to_module_mappings", .obj (moduleObject modules)),
  ("runtime_module_name", .str s.runtimeModule),
  ("shorten_type_naming_files", .arr (s.shortened.map Json.byName)),
  ("visibility", .str (Choice.access.nameOf s.access))]

/-- The saved document is an object with the saved members. -/
theorem document_eq (s : Settings) (modules : ModuleMap) :
    s.document modules = .obj (s.savedMembers modules) := rfl

/-- The keys of saved settings. -/
def settingKeys : List String := [
  "generation_mode", "import_directive", "output_naming", "proto_to_module_mappings",
  "runtime_module_name", "shorten_type_naming_files", "visibility"]

theorem isIdentifier_settingKeys : ∀ key ∈ settingKeys, Text.isIdentifier key = true := by
  decide +kernel

/-- Saved settings are a document of texts. -/
theorem Savable.ofTexts_document (hs : s.Savable) (hmodules : modules.OfTexts) :
    (s.document modules).OfTexts := by
  have hruntime : (Json.str s.runtimeModule).OfTexts :=
    .str (Text.wellFormed_of_isIdentifier hs.runtimeModule)
  have hshortened : (Json.arr (s.shortened.map Json.byName)).OfTexts := by
    rw [map_byName_texts hs.shortened_isText]
    refine .arr fun pattern hpattern => ?_
    obtain ⟨text, rfl, hwf⟩ := hs.shortened pattern hpattern
    exact .str hwf
  rw [document_eq]
  refine .obj ?_ ?_ ?_
  · exact (show settingKeys.Nodup by decide)
  · intro member hmember
    have hkey : member.1 ∈ settingKeys := List.mem_map_of_mem hmember
    exact Text.wellFormed_of_isIdentifier (isIdentifier_settingKeys _ hkey)
  · simp only [savedMembers, List.forall_mem_cons]
    exact ⟨Choice.namesItself_profile.ofTexts _, Choice.namesItself_importForm.ofTexts _,
      Choice.namesItself_naming.ofTexts _, ofTexts_moduleObject hmodules, hruntime, hshortened,
      Choice.namesItself_access.ofTexts _, fun _ hmember => nomatch hmember⟩

/-- A list of texts has one level. -/
theorem depthItems_texts {vs : List Json} (h : ∀ v ∈ vs, v.IsText) : Json.depthItems vs ≤ 1 := by
  induction vs with
  | nil => exact Nat.zero_le _
  | cons v vs ih =>
    obtain ⟨text, rfl⟩ := h v (.head _)
    rw [Json.depthItems, Nat.max_le]
    exact ⟨Nat.le_refl 1, ih fun w hw => h w (.tail _ hw)⟩

/-- So has an object of texts. -/
theorem depthMembers_texts {ms : List (String × Json)} (h : ∀ m ∈ ms, m.2.IsText) :
    Json.depthMembers ms ≤ 1 := by
  induction ms with
  | nil => exact Nat.zero_le _
  | cons m ms ih =>
    obtain ⟨name, v⟩ := m
    obtain ⟨text, htext⟩ := h _ (.head _)
    dsimp only at htext
    subst htext
    rw [Json.depthMembers, Nat.max_le]
    exact ⟨Nat.le_refl 1, ih fun w hw => h w (.tail _ hw)⟩

/-- Saved settings are not nested too deep. -/
theorem Savable.depth_document (hs : s.Savable) (hmodules : modules.OfTexts) :
    (s.document modules).depth ≤ Json.Parser.maxDepth := by
  have hshortened : Json.depthItems (s.shortened.map Json.byName) ≤ 1 := by
    rw [map_byName_texts hs.shortened_isText]
    exact depthItems_texts hs.shortened_isText
  have hmembers : Json.depthMembers (moduleObject modules) ≤ 1 := by
    refine depthMembers_texts fun member hmember => ?_
    obtain ⟨-, text, htext, -⟩ := mem_moduleObject hmodules hmember
    exact ⟨text, htext⟩
  simp only [document_eq, savedMembers, Json.depth, Json.depthMembers, Json.Parser.maxDepth]
  omega

/-! ## Loading -/

/-- Each member of saved settings is read as the setting that gave it. -/
theorem Savable.mapM_readPair (hs : s.Savable) (hmodules : modules.OfTexts) (tree : FileTree) :
    (s.savedMembers modules).mapM (fun p => readPair tree p.1 p.2) =
      .ok [.profile s.profile, .importForm s.importForm, .naming s.naming, .modules modules,
        .runtimeModule s.runtimeModule, .shortened s.shortened, .access s.access] := by
  have hprofile := Choice.namesItself_profile.read s.profile
  have himportForm := Choice.namesItself_importForm.read s.importForm
  have hnaming := Choice.namesItself_naming.read s.naming
  have haccess := Choice.namesItself_access.read s.access
  have htable := ofMembers_moduleObject hmodules
  have hpatterns := map_byName_texts hs.shortened_isText
  have helements : (Failure.escape (Json.arr s.shortened).elements :
      Except (Failure SettingsError) (List Json)) = .ok s.shortened := rfl
  have hruntime : s.runtimeModule ≠ "" := by
    intro hempty
    have hidentifier := hs.runtimeModule
    rw [hempty] at hidentifier
    exact absurd hidentifier (by decide)
  simp [savedMembers, List.mapM_cons, readPair, hprofile, himportForm, hnaming, haccess, htable,
    hpatterns, helements, hruntime, hs.runtimeModule]

/-- Updating with saved settings gives them, with the modules in their order. -/
theorem Savable.update_savedMembers (hs : s.Savable) (hmodules : modules.OfTexts)
    (tree : FileTree) (base : Settings) :
    update tree (s.savedMembers modules) base = .ok { s with modules := modules } := by
  rw [update, updateIn_eq rfl]
  have hread := hs.mapM_readPair hmodules tree
  simp only [Session.start, hread]
  rfl

/-- The members of an object in a file. -/
theorem readObject_of_read (kind : SettingsFile) {tree : FileTree} {path text : String}
    {members : List (String × Json)} (hhas : tree.has (.ofText path) = .ok true)
    (hread : tree.read (.ofText path) = .ok text) (hparse : Json.parse text = .ok (.obj members)) :
    kind.readObject tree path = .ok members := by
  unfold SettingsFile.readObject
  simp only [hhas, hread, hparse, Failure.escape]
  rfl

/-- A configuration file gives what its members give. -/
theorem applyFile_of_read (session : Session) (base : Settings) {path : String} (hpath : path ≠ "")
    {members : List (String × Json)}
    (h : SettingsFile.configuration.readObject session.tree path = .ok members) :
    (applyFile session base (some path)).2 = (updateIn session base members).2 := by
  unfold applyFile
  split
  · next hnone => cases hnone
  · next hempty => exact absurd (Option.some.inj hempty) hpath
  · next other hother =>
    obtain rfl := Option.some.inj hother
    simp only [h]
    rcases updateIn session base members with ⟨session', _ | settings⟩ <;> rfl

/-- Settings from a configuration file alone. -/
theorem load_configFile {tree : FileTree} {path : String} (hpath : path ≠ "")
    {members : List (String × Json)}
    (h : SettingsFile.configuration.readObject tree path = .ok members) :
    load tree ⟨some path, none, []⟩ = update tree members default := by
  rw [update, ← applyFile_of_read (.start tree) default hpath h, load, loadIn]
  rcases applyFile (.start tree) default (some path) with ⟨session, _ | settings⟩ <;> rfl

/-- Another table of texts does not make settings less savable. -/
theorem Savable.withModules (hs : s.Savable) (hmodules : modules.OfTexts) :
    Savable { s with modules := modules } where
  modules := hmodules
  shortened := hs.shortened
  runtimeModule := hs.runtimeModule

/-- Settings of texts are saved as a whole. -/
theorem Savable.save_ok (hs : s.Savable) {tree : FileTree} {path : String} {loc : Location}
    (hpath : tree.fileOfText path = .ok loc) :
    s.save tree path = (tree.put loc (.text s.text.1), .ok ()) := by
  obtain ⟨ordered, hordered, hperm, -⟩ := orderedModules_ok hs.modules
  have htext : s.text = ((s.document ordered).write .lines, .ok ()) := by
    rw [text, hordered]
  have hbytes : Text.hasHalf ((s.document ordered).write .lines) = false :=
    Json.hasHalf_write (hs.ofTexts_document (hs.modules.perm hperm)) _
  unfold save
  rw [hpath, htext]
  simp only [FileTree.write, hbytes]
  rfl

/-- The file that settings of texts are saved to gives them, with the modules in their order. -/
theorem Savable.load_put (hs : s.Savable) {ordered : ModuleMap}
    (hordered : orderedModules s.modules = .ok ordered) (hmodules : ordered.OfTexts)
    {tree : FileTree} {path : String} {loc : Location} (hpath : tree.fileOfText path = .ok loc) :
    load (tree.put loc (.text s.text.1)) ⟨some path, none, []⟩ =
      .ok { s with modules := ordered } := by
  have htext : s.text.1 = (s.document ordered).write .lines := by
    rw [text, hordered]
  have hparse : Json.parse s.text.1 = .ok (.obj (s.savedMembers ordered)) := by
    rw [htext, Json.parse_write (hs.ofTexts_document hmodules) (hs.depth_document hmodules),
      document_eq]
  obtain ⟨hhas, hread, -⟩ := FileTree.readable_put hpath s.text.1
  have hmembers := readObject_of_read .configuration hhas hread hparse
  rw [load_configFile (FileTree.ne_empty_of_fileOfText hpath) hmembers,
    hs.update_savedMembers hmodules]

/-- Settings that are saved to a file and loaded from it are the same, and saving them again leaves
the file as it is. Any settings that are the same are saved as the same text. -/
theorem load_save {s : Settings} (hs : s.Savable) {tree : FileTree} {path : String}
    {loc : Location} (hpath : tree.fileOfText path = .ok loc) :
    ∃ (saved : FileTree) (loaded : Settings), s.save tree path = (saved, .ok ()) ∧
      load saved ⟨some path, none, []⟩ = .ok loaded ∧ loaded.same s = true ∧
        loaded.save saved path = (saved, .ok ()) ∧
          ∀ other : Settings, s.same other = true → other.text = s.text := by
  obtain ⟨ordered, hordered, hperm, -⟩ := orderedModules_ok hs.modules
  have hmodules : ordered.OfTexts := hs.modules.perm hperm
  obtain ⟨-, -, hagain⟩ := FileTree.readable_put hpath s.text.1
  refine ⟨_, { s with modules := ordered }, hs.save_ok hpath,
    hs.load_put hordered hmodules hpath, hs.same_of_perm hperm, ?_, fun other => hs.text_of_same⟩
  rw [(hs.withModules hmodules).save_ok hagain, hs.text_of_perm hperm.symm, FileTree.put_put]

/-- Settings with modules out of order, an empty pattern, and one that needs escapes. -/
def twoModules : Settings where
  naming := .dropPath
  importForm := .accessLevel
  access := .publicAccess
  profile := .lite
  modules := [(.str "b/ü.proto", .str "Late"), (.str "a.proto", .str "Early")]
  shortened := [.str "", .str "x;y,\"\n😀"]
  runtimeModule := "Runtime"

theorem savable_twoModules : twoModules.Savable where
  modules := {
    entries := List.forall_mem_cons.2
      ⟨⟨_, _, rfl, Text.wellFormed_of_noMark (by decide), Text.wellFormed_of_noMark (by decide)⟩,
        List.forall_mem_singleton.2 ⟨_, _, rfl, Text.wellFormed_of_noMark (by decide),
          Text.wellFormed_of_noMark (by decide)⟩⟩
    distinct := by simp [twoModules] }
  shortened := List.forall_mem_cons.2 ⟨⟨_, rfl, Text.wellFormed_of_noMark (by decide)⟩,
    List.forall_mem_singleton.2 ⟨_, rfl, Text.wellFormed_of_noMark (by decide)⟩⟩
  runtimeModule := by decide

theorem fileOfText_run :
    (FileTree.empty []).fileOfText "run.json" = .ok [FilePath.nameOf "run.json"] := by
  rw [FileTree.fileOfText_ok_iff]
  refine ⟨by decide, by decide, ?_⟩
  exact .intro (.here _) (by decide) (by decide) (by decide) (by decide) rfl

/-- The settings are the same after they went through a file of the working folder. -/
theorem load_save_twoModules :
    ∃ (saved : FileTree) (loaded : Settings),
      twoModules.save (.empty []) "run.json" = (saved, .ok ()) ∧
        load saved ⟨some "run.json", none, []⟩ = .ok loaded ∧ loaded.same twoModules = true ∧
          loaded.save saved "run.json" = (saved, .ok ()) ∧
            ∀ other : Settings, twoModules.same other = true → other.text = twoModules.text := by
  exact load_save savable_twoModules fileOfText_run

/-- Settings with one pattern. -/
def onePattern (pattern : String) : Settings :=
  { Settings.default with shortened := [.str pattern] }

theorem savable_onePattern {pattern : String} (h : Text.WellFormed pattern) :
    (onePattern pattern).Savable where
  modules := ⟨fun _ hentry => (List.not_mem_nil hentry).elim, .nil⟩
  shortened := List.forall_mem_singleton.2 ⟨pattern, rfl, h⟩
  runtimeModule := show Text.isIdentifier "SwiftProtobuf" = true by decide +kernel

/-- A surrogate pair in its two halves. It is no character, and as a pattern it is saved with the
escapes of the character that the pair stands for. -/
def splitPair : String := Text.ofPoints [.half 0x3d, .half 0x600]

/-- A pattern that holds a surrogate pair in its two halves is loaded as another one, in which the
pair is a character. No file can be saved in a folder that is not there. -/
theorem load_save_splitPair :
    (∃ saved : FileTree,
      (onePattern splitPair).save (.empty []) "run.json" = (saved, .ok ()) ∧
        load saved ⟨some "run.json", none, []⟩ = .ok (onePattern "😀") ∧
          (onePattern "😀").same (onePattern splitPair) = false) ∧
      ∃ fault, Settings.default.save (.empty []) "missing/run.json" =
        (.empty [], .error (.reported (.unsaved "missing/run.json" fault))) := by
  have hs : (onePattern "😀").Savable :=
    savable_onePattern (Text.wellFormed_of_noMark (by decide +kernel))
  have htext : (onePattern splitPair).text = (onePattern "😀").text := by decide +kernel
  have hsave := hs.save_ok fileOfText_run
  have hload := hs.load_put rfl hs.modules fileOfText_run
  refine ⟨⟨_, ?_, hload, by decide +kernel⟩, ?_⟩
  · rw [← hsave, save, save, htext]
  · exact ⟨_, rfl⟩

end Settings

end SchemaToSwift
