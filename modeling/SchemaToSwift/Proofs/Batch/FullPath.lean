import Mathlib.Data.List.Nodup
import SchemaToSwift.Proofs.Batch.Collision
import SchemaToSwift.Proofs.FileName

/-!
# Batches that keep folders

If folders are kept, the name of an output file has the folder and the base of the file's name, and
tells where the one ends and the other begins (`FileNaming.outputName_fullPath_eq_iff`). So files of
different names with one suffix have different output names, and as names are taken by nobody else,
each result of a batch is what the file gives on its own (`Batch.generate_fullPath`).
-/

namespace SchemaToSwift

/-! ## Output names -/

section Parts
variable {a b : String} {m n : FileName}

/-- The parts of a file name make the name. -/
theorem FileName.Splits.eq_of_eq (ha : Splits a n) (hb : Splits b n) : a = b :=
  String.toList_injective (ha.joined.symm.trans hb.joined)

/-- The folder and the base of a name can be told apart: the base is what follows the last slash. -/
theorem FileName.Splits.folder_base_inj (hm : Splits a m) (hn : Splits b n)
    (h : m.folder ++ m.base = n.folder ++ n.base) : m.folder = n.folder ∧ m.base = n.base := by
  obtain ⟨before, hbefore⟩ := hm.folder
  obtain ⟨before', hbefore'⟩ := hn.folder
  have hparts : Text.splitAt '/' (m.folder ++ m.base).toList =
      Text.splitAt '/' (n.folder ++ n.base).toList := by rw [h]
  rw [String.toList_append, String.toList_append, hbefore _ hm.base, hbefore' _ hn.base] at hparts
  have hbase : m.base = n.base :=
    String.toList_injective (List.singleton_inj.1 (List.append_inj' hparts rfl).2)
  rw [hbase, String.append_left_inj] at h
  exact ⟨h, hbase⟩

end Parts

namespace FileNaming

/-- Where folders are kept, two files have one output name only if their names agree up to the
suffix. -/
theorem outputName_fullPath_eq_iff (a b ending : String) :
    fullPath.outputName a ending = fullPath.outputName b ending ↔
      (FileName.split a).folder = (FileName.split b).folder ∧
        (FileName.split a).base = (FileName.split b).base := by
  rw [outputName, outputName, String.append_left_inj]
  constructor
  · exact (FileName.split_spec a).folder_base_inj (FileName.split_spec b)
  · rintro ⟨hfolder, hbase⟩
    rw [hfolder, hbase]

/-- Where folders are kept, two files with one suffix have one output name only if they have one
name. -/
theorem eq_of_outputName_fullPath {a b ending : String}
    (hsuffix : (FileName.split a).suffix = (FileName.split b).suffix)
    (h : fullPath.outputName a ending = fullPath.outputName b ending) : a = b := by
  obtain ⟨hfolder, hbase⟩ := (outputName_fullPath_eq_iff a b ending).1 h
  have hparts : FileName.split a = FileName.split b := by
    rw [FileName.mk.injEq]
    exact ⟨hfolder, hbase, hsuffix⟩
  exact (hparts ▸ FileName.split_spec a).eq_of_eq (FileName.split_spec b)

end FileNaming

/-! ## Outcomes of files -/

/-- A file on its own does not collide with others. -/
theorem Schema.ne_collision_of_generate {settings : Settings} {file : Schema} {o : Outcome}
    (h : file.generate settings = .ok o) (input other output owner : String) :
    o ≠ .rejected input (.collision other output owner) := by
  obtain ⟨plan, -, houtcome⟩ := Result.bind_eq_ok_iff.1 h
  rintro rfl
  unfold FilePlan.outcome at houtcome
  split at houtcome <;> cases houtcome

namespace Batch

variable {settings : Settings} {wanted : Option (List String)} {files : List Schema}

/-- The output names of outcomes are among those that come from the names of the files. -/
theorem outputs_sublist {own : List Outcome}
    (h : List.Forall₂ (fun f o => Schema.generate settings f = .ok o) files own) :
    (own.filterMap (·.output?)).Sublist
      (files.map fun f => settings.naming.outputName f.name FileNaming.swiftEnding) := by
  induction h with
  | nil => exact .slnil
  | @cons f o fs own ho _ ih =>
    cases o with
    | rejected => exact ih.cons _
    | generated name output content =>
      have hname : name = f.name := Schema.file_of_generate ho
      have houtput := Schema.output_of_generate ho
      rw [hname] at houtput
      rw [List.filterMap_cons_some (output?_generated ..), List.map_cons, houtput]
      exact ih.cons_cons _

/-- Outcomes with different output names are results as they are. -/
theorem claimAll_of_nodup {before own : List Outcome}
    (h : ((before ++ own).filterMap (·.output?)).Nodup) :
    claimAll (ownersOf before) own = own := by
  induction own generalizing before with
  | nil => rfl
  | cons o rest ih =>
    have hnew : ∀ r ∈ before, r.output? = none ∨ r.output? ≠ o.output? := by
      intro r hr
      rw [List.filterMap_append, List.nodup_append] at h
      cases houtput : r.output? with
      | none => exact .inl rfl
      | some output =>
        refine .inr fun hsame => ?_
        exact h.2.2 output (List.mem_filterMap.2 ⟨r, hr, houtput⟩) output
          (List.mem_filterMap.2 ⟨o, .head _, hsame.symm⟩) rfl
    rw [claimAll_cons, settled_of_new hnew, ih]
    rwa [List.append_assoc, List.singleton_append]

/-- A batch whose files have different output names gives what the files give on their own. -/
theorem generate_of_nodup (hwanted : ∀ f ∈ files, isWanted wanted f = true)
    (houtputs : (files.map fun f =>
      settings.naming.outputName f.name FileNaming.swiftEnding).Nodup) :
    generate settings wanted files = files.mapM (Schema.generate settings) := by
  rw [generate, List.filter_eq_self.2 hwanted]
  cases hown : files.mapM (Schema.generate settings) with
  | error => rfl
  | ok own =>
    have hdistinct : ((([] : List Outcome) ++ own).filterMap (·.output?)).Nodup :=
      houtputs.sublist (outputs_sublist (Result.mapM_ok_iff.1 hown))
    rw [Result.bind_ok, ← ownersOf_nil, claimAll_of_nodup hdistinct, Result.pure_eq]

/-- Where folders are kept, a batch of files with different names and one suffix gives what the
files give on their own, and none of it is a collision; output names are the same only if folder and
base are. -/
theorem generate_fullPath (hnaming : settings.naming = .fullPath)
    (hwanted : ∀ f ∈ files, isWanted wanted f = true) (hnames : (files.map (·.name)).Nodup)
    (hsuffix : ∀ f ∈ files, ∀ g ∈ files,
      (FileName.split f.name).suffix = (FileName.split g.name).suffix) :
    generate settings wanted files = files.mapM (Schema.generate settings) ∧
      ((∀ f ∈ files, ∃ o, f.generate settings = .ok o) →
        ∃ own, List.Forall₂ (fun f o => Schema.generate settings f = .ok o) files own ∧
          generate settings wanted files = .ok own ∧
          ∀ o ∈ own, ∀ input other output owner,
            o ≠ .rejected input (.collision other output owner)) ∧
      ∀ a b ending,
        settings.naming.outputName a ending = settings.naming.outputName b ending ↔
          (FileName.split a).folder = (FileName.split b).folder ∧
            (FileName.split a).base = (FileName.split b).base := by
  have houtputs : (files.map fun f =>
      settings.naming.outputName f.name FileNaming.swiftEnding).Nodup := by
    refine List.Nodup.map_on (fun f hf g hg hsame => ?_) (List.Nodup.of_map _ hnames)
    rw [hnaming] at hsame
    exact List.inj_on_of_nodup_map hnames hf hg
      (FileNaming.eq_of_outputName_fullPath (hsuffix f hf g hg) hsame)
  have hgenerate := generate_of_nodup hwanted houtputs
  refine ⟨hgenerate, fun hown => ?_, fun a b ending => ?_⟩
  · obtain ⟨own, hmap⟩ := Result.mapM_of_ok hown
    refine ⟨own, Result.mapM_ok_iff.1 hmap, hgenerate.trans hmap, fun o ho => ?_⟩
    obtain ⟨f, -, hf⟩ := Result.exists_of_mem_mapM hmap ho
    exact Schema.ne_collision_of_generate hf
  · rw [hnaming]
    exact FileNaming.outputName_fullPath_eq_iff a b ending

/-- Files with dots in a folder and in a base. -/
def dottedFiles : List Schema := [Schema.blank "x.y/a.proto", Schema.blank "x/y.a.proto"]

/-- A dot in a folder and one in a base are told apart. -/
theorem generate_fullPath_dots :
    ∃ first second, generate { Settings.default with profile := .lite } none dottedFiles =
      .ok [.generated "x.y/a.proto" "x.y/a.pb.swift" first,
        .generated "x/y.a.proto" "x/y.a.pb.swift" second] := by
  have hnaming : ({ Settings.default with profile := .lite } : Settings).naming = .fullPath := rfl
  have hwanted : ∀ f ∈ dottedFiles, isWanted none f = true := fun _ _ => rfl
  obtain ⟨hgenerate, -, -⟩ := generate_fullPath hnaming hwanted (by decide) (by decide)
  exact ⟨_, _, hgenerate⟩

end Batch

end SchemaToSwift
