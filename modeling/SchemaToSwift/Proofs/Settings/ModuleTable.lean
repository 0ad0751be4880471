import SchemaToSwift.Proofs.Json.RoundTrip
import SchemaToSwift.Proofs.Settings.ModuleFile
import SchemaToSwift.Proofs.Settings.Table

/-!
# Tables of documents

A document lists files under modules (`ModuleMap.Lists`), and what it lists is a relation between
files and modules (`ModuleMap.Belongs`). Putting a file under a module keeps the table a function
from the files listed so far, or finds a file with two modules (`ModuleMap.claim_settles`). So a
table comes out of a document if and only if the relation is a function, it is that function, and
neither the order of the document nor the division into entries has a part in it
(`ModuleMap.load_listed`).
-/

namespace SchemaToSwift

namespace ModuleMap

variable {m : ModuleMap} {listed : String → String → Prop}

theorem tabulates_nil : Tabulates [] fun _ _ => False := ⟨List.nodup_nil, by simp⟩

/-! ## Putting files under modules -/

/-- A file that is not in the table comes last. -/
theorem put_of_moduleOf?_eq_none {file module : Json} (h : m.moduleOf? file = none) :
    m.put file module = m ++ [(file, module)] := by
  induction m with
  | nil => rfl
  | cons entry rest ih =>
    obtain ⟨f, a⟩ := entry
    rw [moduleOf?, Option.map_eq_none_iff, List.find?_cons] at h
    cases hsame : f.same file with
    | true => simp [hsame] at h
    | false =>
      rw [hsame] at h
      rw [put, hsame, if_neg Bool.false_ne_true, ih (Option.map_eq_none_iff.2 h), List.cons_append]

/-- A file that has the module already leaves the table as it is. -/
theorem put_of_moduleOf?_eq_some {file module : Json} (h : m.moduleOf? file = some module) :
    m.put file module = m := by
  induction m with
  | nil => cases h
  | cons entry rest ih =>
    obtain ⟨f, a⟩ := entry
    rw [moduleOf?, List.find?_cons] at h
    cases hsame : f.same file with
    | true =>
      rw [hsame] at h
      obtain rfl := Option.some.inj h
      rw [put, hsame, if_pos rfl]
    | false =>
      rw [hsame] at h
      rw [put, hsame, if_neg Bool.false_ne_true, ih h]

/-- One more file and its module. -/
theorem Tabulates.concat (h : m.Tabulates listed) {file module : String}
    (hnew : ∀ a, ¬ listed file a) : Tabulates (m ++ [(.str file, .str module)])
      fun f a => listed f a ∨ f = file ∧ a = module where
  distinct := by
    rw [List.map_append, List.nodup_append]
    refine ⟨h.distinct, List.nodup_singleton _, ?_⟩
    intro f hf f' hf'
    obtain ⟨⟨_, a⟩, hmem, rfl⟩ := List.mem_map.1 hf
    obtain rfl := List.mem_singleton.1 hf'
    obtain ⟨g, b, hlisted, rfl, -⟩ := (h.mem_iff _ _).1 hmem
    rintro heq
    obtain rfl := Json.str.inj heq
    exact hnew b hlisted
  mem_iff f a := by
    rw [List.mem_append, h.mem_iff, List.mem_singleton, Prod.mk.injEq]
    constructor
    · rintro (⟨g, b, hlisted, hg, hb⟩ | ⟨hf, ha⟩)
      · exact ⟨g, b, .inl hlisted, hg, hb⟩
      · exact ⟨file, module, .inr ⟨rfl, rfl⟩, hf, ha⟩
    · rintro ⟨g, b, hlisted | ⟨rfl, rfl⟩, hg, hb⟩
      · exact .inl ⟨g, b, hlisted, hg, hb⟩
      · exact .inr ⟨hg, hb⟩

/-- What listing files under modules comes to: a table of what is listed, or the error of a file
that is listed under two modules. -/
inductive Settles (path : String) (listed : String → String → Prop) :
    Except (Failure SettingsError) ModuleMap → Prop
  | table {m : ModuleMap} (h : m.Tabulates listed) : Settles path listed (.ok m)
  | twice {file first second : String} (hfirst : listed file first) (hsecond : listed file second)
    (hne : first ≠ second) : Settles path listed
      (.error (.reported (.twoModules (.str file) (.str first) (.str second) path)))

theorem Settles.congr {path : String} {listed' : String → String → Prop}
    {result : Except (Failure SettingsError) ModuleMap} (h : Settles path listed result)
    (hiff : ∀ f a, listed f a ↔ listed' f a) : Settles path listed' result := by
  cases h with
  | table h => exact .table (h.congr hiff)
  | twice hfirst hsecond hne => exact .twice ((hiff _ _).1 hfirst) ((hiff _ _).1 hsecond) hne

section
variable {path file : String} {module : Json}

/-- A file without a module gets one. -/
theorem claim_of_none (h : m.moduleOf? (.str file) = none) :
    claim path module m (.str file) = .ok (m.put (.str file) module) := by
  have hkey : Json.asKey (.str file) = .ok (.str file) := rfl
  rw [claim, hkey, Failure.escape_ok, Result.bind_ok, h]
  rfl

/-- A file with a module keeps it. -/
theorem claim_of_some {existing : Json} (h : m.moduleOf? (.str file) = some existing) :
    claim path module m (.str file) =
      if existing.equal module then .ok (m.put (.str file) module)
      else .error (.reported (.twoModules (.str file) existing module path)) := by
  have hkey : Json.asKey (.str file) = .ok (.str file) := rfl
  rw [claim, hkey, Failure.escape_ok, Result.bind_ok, h]
  rfl

end

/-- A file is put under a module unless it is under another one. -/
theorem claim_settles (h : m.Tabulates listed) (path file module : String) :
    Settles path (fun f a => listed f a ∨ f = file ∧ a = module)
      (claim path (.str module) m (.str file)) := by
  cases hfound : m.moduleOf? (.str file) with
  | none =>
    have hnew : ∀ a, ¬ listed file a := fun a ha => by
      rw [h.moduleOf?_eq_some_iff.2 ⟨file, a, ha, rfl, rfl⟩] at hfound
      cases hfound
    rw [claim_of_none hfound, put_of_moduleOf?_eq_none hfound]
    exact .table (h.concat hnew)
  | some existing =>
    obtain ⟨f, a, hlisted, hf, rfl⟩ := h.moduleOf?_eq_some_iff.1 hfound
    obtain rfl := Json.str.inj hf
    have hequal : (Json.str a).equal (.str module) = (a == module) := by
      simp [Json.equal, Json.isNan]
    rw [claim_of_some hfound, hequal]
    by_cases hmodule : a = module
    · subst hmodule
      rw [if_pos (beq_self_eq_true a), put_of_moduleOf?_eq_some hfound]
      refine .table (h.congr fun g b => ?_)
      constructor
      · exact .inl
      · rintro (hg | ⟨rfl, rfl⟩)
        · exact hg
        · exact hlisted
    · rw [if_neg (by simpa using hmodule)]
      exact .twice (.inl hlisted) (.inr ⟨rfl, rfl⟩) hmodule

/-- Going through elements settles what they list if each step does. -/
theorem foldlM_settles {α : Type} {path : String}
    {step : ModuleMap → α → Except (Failure SettingsError) ModuleMap}
    {lists : α → String → String → Prop} {xs : List α}
    (hstep : ∀ x ∈ xs, ∀ (m : ModuleMap) (listed : String → String → Prop), m.Tabulates listed →
      Settles path (fun f a => listed f a ∨ lists x f a) (step m x)) (h : m.Tabulates listed) :
    Settles path (fun f a => listed f a ∨ ∃ x ∈ xs, lists x f a) (xs.foldlM step m) := by
  induction xs generalizing m listed with
  | nil => exact .table (h.congr fun f a => by simp)
  | cons x rest ih =>
    obtain ⟨hx, hrest⟩ := List.forall_mem_cons.1 hstep
    rw [List.foldlM_cons]
    have hsettles := hx m listed h
    cases hresult : step m x with
    | ok m' =>
      rw [hresult] at hsettles
      cases hsettles with
      | table htable =>
        have hall := ih hrest htable
        simpa only [List.exists_mem_cons_iff, or_assoc, Result.bind_ok] using hall
    | error e =>
      rw [hresult] at hsettles
      cases hsettles with
      | twice hfirst hsecond hne =>
        exact .twice (hfirst.imp_right fun hlists => ⟨x, .head _, hlists⟩)
          (hsecond.imp_right fun hlists => ⟨x, .head _, hlists⟩) hne

section
variable {path : String} {result : Except (Failure SettingsError) ModuleMap}
  (h : Settles path listed result)
include h

/-- A table comes out exactly if no file is listed under two modules. -/
theorem Settles.exists_ok_iff :
    (∃ m, result = .ok m) ↔ ∀ file a b, listed file a → listed file b → a = b := by
  cases h with
  | table h => exact iff_of_true ⟨_, rfl⟩ fun _ _ _ => h.functional
  | twice hfirst hsecond hne =>
    exact iff_of_false (by simp) fun hall => hne (hall _ _ _ hfirst hsecond)

/-- A table that is had gives what is listed. -/
theorem Settles.table_of_ok (hm : result = .ok m) : m.Tabulates listed := by
  subst hm
  cases h with
  | table h => exact h

/-- An error names a file that is listed under two modules. -/
theorem Settles.twice_of_error {e : Failure SettingsError} (he : result = .error e) :
    ∃ file a b, listed file a ∧ listed file b ∧ a ≠ b ∧
      e = .reported (.twoModules (.str file) (.str a) (.str b) path) := by
  subst he
  cases h with
  | twice hfirst hsecond hne => exact ⟨_, _, _, hfirst, hsecond, hne, rfl⟩

end

/-! ## Documents -/

/-- An entry that lists files under a module: none at all, one, or a sequence of them. -/
inductive Lists : Json → String → List String → Prop
  | nothing {members : List (String × Json)} {module : String}
    (hname : members.lookup "module_name" = some (.str module)) (hmodule : module ≠ "")
    (hfiles : members.lookup "proto_file_path" = none) : Lists (.obj members) module []
  | one {members : List (String × Json)} {module file : String}
    (hname : members.lookup "module_name" = some (.str module)) (hmodule : module ≠ "")
    (hfiles : members.lookup "proto_file_path" = some (.str file)) :
    Lists (.obj members) module [file]
  | many {members : List (String × Json)} {module : String} {files : List String}
    (hname : members.lookup "module_name" = some (.str module)) (hmodule : module ≠ "")
    (hfiles : members.lookup "proto_file_path" = some (.arr (files.map .str))) :
    Lists (.obj members) module files

/-- Every entry lists files under a module. -/
def Listed (entries : List Json) : Prop :=
  ∀ entry ∈ entries, ∃ module files, Lists entry module files

/-- An entry lists a file under a module. -/
def Belongs (entries : List Json) (file module : String) : Prop :=
  ∃ entry ∈ entries, ∃ files, Lists entry module files ∧ file ∈ files

/-- A file holds a document of entries. Without a mapping it has none. -/
def Holds (tree : FileTree) (path : String) (entries : List Json) : Prop :=
  ∃ text members, tree.Holds path (.text text) ∧ Json.parse text = .ok (.obj members) ∧
    (members.lookup "mapping" = some (.arr entries) ∨
      members.lookup "mapping" = none ∧ entries = [])

/-- An entry that lists files has them and its module by name. -/
theorem Lists.reads {entry : Json} {module : String} {files : List String}
    (h : Lists entry module files) : ∃ members, entry = .obj members ∧
      members.lookup "module_name" = some (.str module) ∧ module ≠ "" ∧
        filesOf members = .ok (files.map Json.str) := by
  cases h with
  | nothing hname hmodule hfiles | one hname hmodule hfiles | many hname hmodule hfiles =>
    refine ⟨_, rfl, hname, hmodule, ?_⟩
    rw [filesOf, hfiles]
    rfl

/-- An entry lists one sequence of files under one module. -/
theorem Lists.unique {entry : Json} {module module' : String} {files files' : List String}
    (h : Lists entry module files) (h' : Lists entry module' files') :
    module' = module ∧ files' = files := by
  obtain ⟨members, rfl, hname, -, hfiles⟩ := h.reads
  obtain ⟨members', hmembers, hname', -, hfiles'⟩ := h'.reads
  obtain rfl := Json.obj.inj hmembers
  rw [hname', Option.some.injEq, Json.str.injEq] at hname
  rw [hfiles', Except.ok.injEq] at hfiles
  exact ⟨hname, List.map_injective_iff.2 (fun _ _ => Json.str.inj) hfiles⟩

/-- An entry lists its files under its module and no others. -/
theorem Lists.exists_iff {entry : Json} {module : String} {files : List String}
    (h : Lists entry module files) {file a : String} :
    (∃ files', Lists entry a files' ∧ file ∈ files') ↔ a = module ∧ file ∈ files := by
  constructor
  · rintro ⟨files', hlists, hfile⟩
    obtain ⟨rfl, rfl⟩ := h.unique hlists
    exact ⟨rfl, hfile⟩
  · rintro ⟨rfl, hfile⟩
    exact ⟨files, h, hfile⟩

/-- The files of an entry are put under its module, one after the other. -/
theorem addEntry_settles {entry : Json} {module : String} {files : List String}
    (hentry : Lists entry module files) (path : String) (h : m.Tabulates listed) :
    Settles path (fun f a => listed f a ∨ ∃ files', Lists entry a files' ∧ f ∈ files')
      (addEntry path m entry) := by
  have hadd : addEntry path m entry =
      files.foldlM (fun m file => claim path (.str module) m (.str file)) m := by
    obtain ⟨members, rfl, hname, hmodule, hfiles⟩ := hentry.reads
    rw [addEntry_of_named hname (by simpa using hmodule), hfiles, Failure.escape_ok, Result.bind_ok,
      List.foldlM_map]
  have hsettles : Settles path (fun f a => listed f a ∨ ∃ file ∈ files, f = file ∧ a = module)
      (files.foldlM (fun m file => claim path (.str module) m (.str file)) m) :=
    foldlM_settles (fun file _ _ _ htable => claim_settles htable path file module) h
  rw [hadd]
  refine hsettles.congr fun f a => or_congr_right ?_
  rw [hentry.exists_iff]
  simp [and_comm]

/-- Entries settle what they list. -/
theorem ofEntries_settles {entries : List Json} (h : Listed entries) (path : String) :
    Settles path (Belongs entries) (ofEntries path entries) := by
  have hsettles : Settles path (fun f a => False ∨ Belongs entries f a)
      (entries.foldlM (addEntry path) []) := by
    refine foldlM_settles (fun entry hentry _ _ htable => ?_) tabulates_nil
    obtain ⟨module, files, hlists⟩ := h entry hentry
    exact addEntry_settles hlists path htable
  exact hsettles.congr fun _ _ => iff_of_eq (false_or _)

/-- Reading a document settles what it lists. -/
theorem load_settles {tree : FileTree} {path : String} {entries : List Json}
    (hfile : Holds tree path entries) (h : Listed entries) :
    Settles path (Belongs entries) (load tree path) := by
  obtain ⟨text, members, ⟨loc, hloc, hentry⟩, hparse, hmapping⟩ := hfile
  have hread : SettingsFile.moduleMap.readObject tree path = .ok members := by
    rw [SettingsFile.readObject_of_locate_ok _ hloc, hentry]
    dsimp only
    rw [hparse]
  have hload : load tree path = ofEntries path entries := by
    rw [load, hread, Result.bind_ok]
    rcases hmapping with hmapping | ⟨hmapping, rfl⟩
    all_goals
      rw [hmapping]
      rfl
  rw [hload]
  exact ofEntries_settles h path

/-! ## Documents in another form -/

/-- Documents that differ in the order of entries, in the order of the files of an entry, in how
often a file is repeated under its module, and in what is one entry of a module and what is
several. -/
inductive Rearranged : List Json → List Json → Prop
  | refl (entries : List Json) : Rearranged entries entries
  | swap (a b : Json) (rest : List Json) : Rearranged (a :: b :: rest) (b :: a :: rest)
  | cons (a : Json) {rest rest' : List Json} (h : Rearranged rest rest') :
      Rearranged (a :: rest) (a :: rest')
  | inside {a b : Json} {module : String} {files files' : List String}
      (ha : Lists a module files) (hb : Lists b module files')
      (hfiles : ∀ file, file ∈ files ↔ file ∈ files') (rest : List Json) :
      Rearranged (a :: rest) (b :: rest)
  | split {a b c : Json} {module : String} {files files' : List String}
      (ha : Lists a module (files ++ files')) (hb : Lists b module files)
      (hc : Lists c module files') (rest : List Json) : Rearranged (a :: rest) (b :: c :: rest)
  | again {a : Json} {module : String} {files : List String} {rest : List Json}
      (ha : Lists a module files) (hfiles : ∀ file ∈ files, Belongs rest file module) :
      Rearranged rest (a :: rest)
  | symm {entries entries' : List Json} (h : Rearranged entries entries') :
      Rearranged entries' entries
  | trans {entries entries' entries'' : List Json} (h : Rearranged entries entries')
      (h' : Rearranged entries' entries'') : Rearranged entries entries''

/-- A permutation puts entries in another order. -/
theorem Rearranged.of_perm {entries entries' : List Json} (h : entries.Perm entries') :
    Rearranged entries entries' := by
  induction h with
  | nil => exact .refl []
  | cons a _ ih => exact .cons a ih
  | swap a b rest => exact .swap b a rest
  | trans _ _ ih ih' => exact .trans ih ih'

theorem listed_cons {a : Json} {rest : List Json} :
    Listed (a :: rest) ↔ (∃ module files, Lists a module files) ∧ Listed rest :=
  List.forall_mem_cons

theorem not_belongs_nil {file module : String} : ¬ Belongs [] file module := by
  rintro ⟨_, hentry, -⟩
  cases hentry

/-- What belongs to a module is listed by the first entry or by a later one. -/
theorem belongs_cons {a : Json} {rest : List Json} {file module : String} :
    Belongs (a :: rest) file module ↔
      (∃ files, Lists a module files ∧ file ∈ files) ∨ Belongs rest file module := by
  simp only [Belongs, List.exists_mem_cons_iff]

/-- A document in another form lists the same files under the same modules. -/
theorem Rearranged.same {entries entries' : List Json} (h : Rearranged entries entries') :
    (Listed entries ↔ Listed entries') ∧
      ∀ file module, Belongs entries file module ↔ Belongs entries' file module := by
  induction h with
  | refl entries => exact ⟨.rfl, fun _ _ => .rfl⟩
  | swap a b rest =>
    simp only [listed_cons, belongs_cons]
    exact ⟨and_left_comm, fun _ _ => or_left_comm⟩
  | cons a _ ih =>
    simp only [listed_cons, belongs_cons, ih.1, ih.2, implies_true, and_self]
  | inside ha hb hfiles rest =>
    simp only [listed_cons, belongs_cons, ha.exists_iff, hb.exists_iff, hfiles, implies_true,
      and_true]
    exact and_congr_left' (iff_of_true ⟨_, _, ha⟩ ⟨_, _, hb⟩)
  | split ha hb hc rest =>
    simp only [listed_cons, belongs_cons, ha.exists_iff, hb.exists_iff, hc.exists_iff,
      List.mem_append, and_or_left, or_assoc, implies_true, and_true]
    exact (and_iff_right ⟨_, _, ha⟩).trans
      ((and_iff_right ⟨_, _, hb⟩).trans (and_iff_right ⟨_, _, hc⟩)).symm
  | @again a module files rest ha hfiles =>
    refine ⟨?_, fun file b => ?_⟩
    · rw [listed_cons]
      exact (and_iff_right ⟨_, _, ha⟩).symm
    · rw [belongs_cons, ha.exists_iff, iff_or_self]
      rintro ⟨rfl, hfile⟩
      exact hfiles file hfile
  | symm _ ih => exact ⟨ih.1.symm, fun file module => (ih.2 file module).symm⟩
  | trans _ _ ih ih' =>
    exact ⟨ih.1.trans ih'.1, fun file module => (ih.2 file module).trans (ih'.2 file module)⟩

/-! ## Reading a document -/

/-- A table comes out of a document if and only if no file is listed under two modules, and it gives
exactly the files that are listed their modules. Otherwise the error is that of a file with two
modules. A document in another form, wherever it is, comes to a table that is the same, or to none
as well. -/
theorem load_listed {tree : FileTree} {path : String} {entries : List Json}
    (hfile : Holds tree path entries) (h : Listed entries) :
    ((∃ m, load tree path = .ok m) ↔
      ∀ file a b, Belongs entries file a → Belongs entries file b → a = b) ∧
    (∀ m, load tree path = .ok m → m.Tabulates (Belongs entries) ∧
      ∀ file module, m.moduleOf? file = some module ↔
        ∃ f a, Belongs entries f a ∧ file = .str f ∧ module = .str a) ∧
    (∀ e, load tree path = .error e → ∃ file a b, Belongs entries file a ∧
      Belongs entries file b ∧ a ≠ b ∧
        e = .reported (.twoModules (.str file) (.str a) (.str b) path)) ∧
    ∀ tree' path' entries', Rearranged entries entries' → Holds tree' path' entries' →
      ((∃ m, load tree path = .ok m) ↔ ∃ m', load tree' path' = .ok m') ∧
      ∀ m m', load tree path = .ok m → load tree' path' = .ok m' →
        m.same m' = true ∧ ∀ file, m.moduleOf? file = m'.moduleOf? file := by
  have hsettles := load_settles hfile h
  refine ⟨hsettles.exists_ok_iff, fun m hm => ?_, fun e he => ?_, fun tree' path' entries' hother
    hfile' => ?_⟩
  · have htable := hsettles.table_of_ok hm
    exact ⟨htable, fun _ _ => htable.moduleOf?_eq_some_iff⟩
  · exact hsettles.twice_of_error he
  · obtain ⟨hlisted, hbelongs⟩ := hother.same
    have hsettles' : Settles path' (Belongs entries) (load tree' path') :=
      (load_settles hfile' (hlisted.1 h)).congr fun f a => (hbelongs f a).symm
    refine ⟨hsettles.exists_ok_iff.trans hsettles'.exists_ok_iff.symm, fun m m' hm hm' => ?_⟩
    have htable := hsettles.table_of_ok hm
    have htable' := hsettles'.table_of_ok hm'
    exact ⟨htable.same htable', htable.moduleOf?_eq htable'⟩

/-- A working folder with a document of entries in it. -/
def documentTree (entries : List Json) : FileTree :=
  (FileTree.empty []).put [FilePath.nameOf "m.json"]
    (.text ((Json.obj [("mapping", .arr entries)]).write .lines))

/-- The tree holds the document of the entries. -/
theorem holds_documentTree {entries : List Json} (htexts : ∀ entry ∈ entries, entry.OfTexts)
    (hdepth : Json.depthItems entries ≤ 3) : Holds (documentTree entries) "m.json" entries := by
  have hpath : (FileTree.empty []).fileOfText "m.json" = .ok [FilePath.nameOf "m.json"] := by
    rw [FileTree.fileOfText_ok_iff]
    refine ⟨by decide, by decide, ?_⟩
    exact .intro (.here _) (by decide) (by decide) (by decide) (by decide) rfl
  have hname : Text.WellFormed "mapping" := Text.wellFormed_of_noMark (by decide)
  have hdocument : (Json.obj [("mapping", .arr entries)]).OfTexts :=
    .obj (List.nodup_singleton _) (List.forall_mem_singleton.2 hname)
      (List.forall_mem_singleton.2 (.arr htexts))
  refine ⟨_, _, FileTree.holds_put hpath _, Json.parse_write hdocument ?_ .lines, .inl rfl⟩
  simp only [Json.depth, Json.depthMembers, Json.Parser.maxDepth]
  omega

/-- A module in two entries, which repeat a file, and a module without files. -/
def twoEntries : List Json := [
  .obj [("module_name", .str "A"), ("proto_file_path", .arr (["x", "y"].map .str))],
  .obj [("module_name", .str "A"), ("proto_file_path", .str "y")],
  .obj [("module_name", .str "B")]]

/-- One entry for the files of the module. -/
def oneEntry : List Json := [
  .obj [("module_name", .str "B")],
  .obj [("module_name", .str "A"), ("proto_file_path", .arr (["y", "x"].map .str))]]

/-- The entries of the two documents list files as they are meant to. -/
theorem lists_twoEntries :
    (∀ files : List String, Lists (.obj [("module_name", .str "A"),
      ("proto_file_path", .arr (files.map .str))]) "A" files) ∧
    Lists (.obj [("module_name", .str "A"), ("proto_file_path", .str "y")]) "A" ["y"] ∧
    Lists (.obj [("module_name", .str "B")]) "B" [] :=
  ⟨fun _ => .many rfl (by decide) rfl, .one rfl (by decide) rfl, .nothing rfl (by decide) rfl⟩

theorem listed_twoEntries : Listed twoEntries := by
  obtain ⟨hmany, hone, hnothing⟩ := lists_twoEntries
  simp only [twoEntries, listed_cons]
  exact ⟨⟨_, _, hmany _⟩, ⟨_, _, hone⟩, ⟨_, _, hnothing⟩, nofun⟩

theorem belongs_twoEntries {file module : String} :
    Belongs twoEntries file module ↔ module = "A" ∧ (file = "x" ∨ file = "y") := by
  obtain ⟨hmany, hone, hnothing⟩ := lists_twoEntries
  simp only [twoEntries, belongs_cons, (hmany _).exists_iff, hone.exists_iff, hnothing.exists_iff,
    not_belongs_nil, List.mem_cons, List.not_mem_nil, or_false, and_false]
  constructor
  · rintro (h | ⟨rfl, rfl⟩)
    · exact h
    · exact ⟨rfl, .inr rfl⟩
  · exact .inl

theorem rearranged_twoEntries : Rearranged twoEntries oneEntry := by
  obtain ⟨hmany, hone, -⟩ := lists_twoEntries
  have hmerged := (Rearranged.split (hmany ["x", "y", "y"]) (hmany ["x", "y"]) hone
    [.obj [("module_name", .str "B")]]).symm
  have hinside := Rearranged.inside (hmany ["x", "y", "y"]) (hmany ["y", "x"]) (by simp [or_comm])
    [.obj [("module_name", .str "B")]]
  exact hmerged.trans (hinside.trans (.swap _ _ []))

theorem ofTexts_twoEntries :
    (∀ entry ∈ twoEntries, entry.OfTexts) ∧ ∀ entry ∈ oneEntry, entry.OfTexts := by
  have hword (word : String) (h : Text.mark ∉ word.toList) : (Json.str word).OfTexts :=
    .str (Text.wellFormed_of_noMark h)
  have hname : Text.WellFormed "module_name" := Text.wellFormed_of_noMark (by decide)
  have hpath : Text.WellFormed "proto_file_path" := Text.wellFormed_of_noMark (by decide)
  have hentry {files : Json} (h : files.OfTexts) :
      (Json.obj [("module_name", .str "A"), ("proto_file_path", files)]).OfTexts :=
    .obj (by simp) (by simp [hname, hpath]) (by simp [hword "A" (by decide), h])
  have hnothing : (Json.obj [("module_name", .str "B")]).OfTexts :=
    .obj (by simp) (by simp [hname]) (by simp [hword "B" (by decide)])
  have hone := hword "y" (by decide)
  have hmany : ∀ file ∈ ["x", "y"].map Json.str, file.OfTexts := by
    simp [hone, hword "x" (by decide)]
  have hmany' : ∀ file ∈ ["y", "x"].map Json.str, file.OfTexts := by
    simp [hone, hword "x" (by decide)]
  constructor
  · simp only [twoEntries, List.forall_mem_cons]
    exact ⟨hentry (.arr hmany), hentry hone, hnothing, nofun⟩
  · simp only [oneEntry, List.forall_mem_cons]
    exact ⟨hnothing, hentry (.arr hmany'), nofun⟩

/-- The document gives a table, and the other form of it the same one. -/
theorem load_listed_twoEntries :
    ∃ m m', load (documentTree twoEntries) "m.json" = .ok m ∧
      load (documentTree oneEntry) "m.json" = .ok m' ∧ m.same m' = true ∧
        m.moduleOf? (.str "y") = some (.str "A") ∧ m.moduleOf? (.str "z") = none := by
  obtain ⟨htexts, htexts'⟩ := ofTexts_twoEntries
  have hfile : Holds (documentTree twoEntries) "m.json" twoEntries :=
    holds_documentTree htexts (by decide)
  have hfile' : Holds (documentTree oneEntry) "m.json" oneEntry :=
    holds_documentTree htexts' (by decide)
  obtain ⟨hok, htable, -, hother⟩ := load_listed hfile listed_twoEntries
  obtain ⟨hverdict, hsame⟩ := hother _ _ _ rearranged_twoEntries hfile'
  have hfunction : ∀ file a b, Belongs twoEntries file a → Belongs twoEntries file b → a = b := by
    intro file a b ha hb
    rw [(belongs_twoEntries.1 ha).1, (belongs_twoEntries.1 hb).1]
  obtain ⟨m, hm⟩ := hok.2 hfunction
  obtain ⟨m', hm'⟩ := hverdict.1 ⟨m, hm⟩
  refine ⟨m, m', hm, hm', (hsame m m' hm hm').1, ?_, ?_⟩
  · exact ((htable m hm).2 _ _).2 ⟨_, _, belongs_twoEntries.2 ⟨rfl, .inr rfl⟩, rfl, rfl⟩
  · rw [Option.eq_none_iff_forall_ne_some]
    intro module hmodule
    obtain ⟨f, a, hbelongs, hf, -⟩ := ((htable m hm).2 _ _).1 hmodule
    obtain rfl := Json.str.inj hf
    simp [belongs_twoEntries] at hbelongs

end ModuleMap

end SchemaToSwift
