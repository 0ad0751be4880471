import Mathlib.Logic.Relation
import SchemaToSwift.Journal
import SchemaToSwift.Proofs.FileTree

/-!
# Trees that grow

While a program writes files, nothing of its tree is lost: folders stay folders, what is there
stays there, and only the files that are written change what they hold. `Grows` says so of two
trees, with the locations of the written files. Each operation on a tree grows it (`grows_put`,
`grows_makeFolders`, `Session.grows_tell`), so a sequence of operations does, and a path leads where
it led before (`Grows.locate`). Whatever comes of making the folders of a path, it is a sequence of
steps that each make one (`FolderSteps`).
-/

namespace SchemaToSwift

namespace FileTree

/-- A tree after operations that write to some locations. -/
structure Grows (t t' : FileTree) (written : List Location) : Prop where
  here : t'.here = t.here
  folder : ∀ l, t.isFolder l = true → t'.isFolder l = true
  there : ∀ l, (t.entry? l).isSome = true → (t'.entry? l).isSome = true
  kept : ∀ l e, t.entry? l = some e → l ∉ written → t'.entry? l = some e

namespace Grows

variable {t t' t'' : FileTree} {written more : List Location}

/-- A tree has grown by nothing. -/
theorem refl (t : FileTree) (written : List Location) : Grows t t written :=
  ⟨rfl, fun _ h => h, fun _ h => h, fun _ _ h _ => h⟩

/-- Growing twice is growing by what was written both times. -/
theorem trans (h : Grows t t' written) (h' : Grows t' t'' more) :
    Grows t t'' (written ++ more) where
  here := h'.here.trans h.here
  folder l hl := h'.folder l (h.folder l hl)
  there l hl := h'.there l (h.there l hl)
  kept l e he hl := by
    rw [List.mem_append, not_or] at hl
    exact h'.kept l e (h.kept l e he hl.1) hl.2

/-- What has been written may be more than is needed. -/
theorem mono (h : Grows t t' written) (hsub : written ⊆ more) : Grows t t' more :=
  { h with kept := fun l e he hl => h.kept l e he fun hmem => hl (hsub hmem) }

/-- A path leads where it led before. -/
theorem locate (h : Grows t t' written) {p : FilePath} {loc : Location}
    (hloc : t.locate p = .ok loc) : t'.locate p = .ok loc := by
  obtain ⟨u, hcheck, hfollow⟩ := Result.bind_eq_ok_iff.1 hloc
  have horigin : t'.origin p.start = t.origin p.start := by rw [origin, origin, h.here]
  rw [FileTree.locate, hcheck, Result.bind_ok, horigin]
  exact follow_ok_iff.2 ((follow_ok_iff.1 hfollow).mono h.folder h.there)

end Grows

/-! ## Files -/

section
variable {t t' : FileTree} {loc : Location}

/-- Writing a text where no folder stands. -/
theorem grows_put (hfile : t.isFolder loc = false) (content : String) :
    Grows t (t.put loc (.text content)) [loc] := by
  have hne : loc ≠ [] := by
    rintro rfl
    cases hfile
  refine ⟨rfl, isFolder_put hfile, isSome_entry_put hne _, fun l e he hl => ?_⟩
  rwa [entry_put t hne, if_neg fun h => hl (List.mem_singleton.2 h)]

/-- What a successful writing to a path leaves: the path leads to the text. -/
theorem write_of_fileOf {p : FilePath} {content : String} (hloc : t.fileOf p = .ok loc)
    (hwrite : t.write loc content = (t', .ok ())) :
    Grows t t' [loc] ∧ t'.locate p = .ok loc ∧ t'.entry? loc = some (.text content) := by
  obtain ⟨u, hcheck, hfileAt⟩ := Result.bind_eq_ok_iff.1 hloc
  have hfile := fileAt_ok_iff.1 hfileAt
  unfold write at hwrite
  split at hwrite
  · cases hwrite
  cases hwrite
  refine ⟨grows_put hfile.not_isFolder content, ?_, ?_⟩
  · rw [locate, hcheck, Result.bind_ok]
    exact follow_ok_iff.2 (hfile.leads_put content)
  · rw [entry_put t hfile.ne_nil, if_pos rfl]

/-- Putting a text at the end of a file. -/
theorem grows_append (t : FileTree) (loc : Location) (content : String) :
    Grows t (t.append loc content) [loc] := by
  unfold append
  split
  · next before hbefore =>
    refine grows_put ?_ _
    rw [isFolder, hbefore]
    rfl
  · exact .refl t _

end

/-! ## Folders -/

/-- A folder is made where nothing stands. -/
def FolderStep (t t' : FileTree) : Prop := ∃ loc, t.entry? loc = none ∧ t' = t.put loc .folder

/-- Trees with folders made one after the other, each where nothing stands. -/
abbrev FolderSteps : FileTree → FileTree → Prop := Relation.ReflTransGen FolderStep

section
variable {t t' : FileTree}

theorem folderStep_makeFolder {p : FilePath} (h : t.makeFolder p = .ok t') : FolderStep t t' := by
  unfold makeFolder at h
  obtain ⟨u, -, h⟩ := Result.bind_eq_ok_iff.1 h
  split at h
  · cases h
  next name hname =>
  obtain ⟨folder, -, h⟩ := Result.bind_eq_ok_iff.1 h
  by_cases hfolder : t.isFolder folder = true
  · by_cases hup : name = ".."
    · simp [hfolder, hup] at h
    · by_cases hlong : isTooLong name = true
      · simp [hfolder, hup, hlong] at h
      · by_cases hsome : (t.entry? (folder ++ [FilePath.nameOf name])).isSome = true
        · simp [hfolder, hup, hlong, hsome] at h
        · obtain rfl : t.put (folder ++ [FilePath.nameOf name]) .folder = t' := by
            simpa [hfolder, hup, hlong, hsome] using h
          exact ⟨_, by simpa using hsome, rfl⟩
  · simp [hfolder] at h

/-- A folder that has to be there is made or is there. -/
theorem folderSteps_ensureFolder {p : FilePath} (h : t.ensureFolder p = .ok t') :
    FolderSteps t t' := by
  unfold ensureFolder at h
  split at h
  · next hmake =>
    cases h
    exact .single (folderStep_makeFolder hmake)
  · split at h
    · cases h
      exact .refl
    · cases h

/-- Making the folders of a path, whether all can be made or not. -/
theorem folderSteps_makeFoldersTo (start : PathStart) (names : List String) (t : FileTree) :
    FolderSteps t (t.makeFoldersTo start names).1 := by
  induction names generalizing t with
  | nil =>
    unfold makeFoldersTo
    split
    · next h => exact folderSteps_ensureFolder h
    · exact .refl
  | cons name above ih =>
    unfold makeFoldersTo
    dsimp only
    split
    · next h => exact folderSteps_ensureFolder h
    · have habove := ih t
      rcases hmade : t.makeFoldersTo start above with ⟨t', made⟩
      rw [hmade] at habove
      cases made with
      | error e => exact habove
      | ok u =>
        dsimp only
        split
        · next h => exact habove.trans (folderSteps_ensureFolder h)
        · exact habove
    · exact .refl

theorem folderSteps_makeFolders (t : FileTree) (p : FilePath) :
    FolderSteps t (t.makeFolders p).1 :=
  folderSteps_makeFoldersTo p.start p.parts.reverse t

/-- A location where nothing stands is below the root. -/
theorem ne_nil_of_entry_none {loc : Location} (hnone : t.entry? loc = none) : loc ≠ [] := by
  rintro rfl
  cases hnone

/-- A new folder where nothing stands. -/
theorem grows_put_folder {loc : Location} (hnone : t.entry? loc = none) :
    Grows t (t.put loc .folder) [] := by
  have hne := ne_nil_of_entry_none hnone
  have hkept (l : Location) (e : FileEntry) (he : t.entry? l = some e) :
      FileTree.entry? (t.put loc .folder) l = some e := by
    rw [entry_put t hne, if_neg, he]
    rintro rfl
    rw [hnone] at he
    cases he
  refine ⟨rfl, fun l hl => ?_, isSome_entry_put hne _, fun l e he _ => hkept l e he⟩
  rw [isFolder, beq_iff_eq] at hl ⊢
  exact hkept l _ hl

/-- Making folders writes no file. -/
theorem FolderSteps.grows (h : FolderSteps t t') : Grows t t' [] := by
  induction h with
  | refl => exact .refl _ _
  | tail _ hstep ih =>
    obtain ⟨loc, hnone, rfl⟩ := hstep
    exact ih.trans (grows_put_folder hnone)

/-- So making all folders of a path does not, whether it gets to the end or not. -/
theorem grows_makeFolders (t : FileTree) (p : FilePath) : Grows t (t.makeFolders p).1 [] :=
  (folderSteps_makeFolders t p).grows

end

end FileTree

namespace Session

/-- What is told goes to the log file, if there is one. -/
theorem grows_tell (s : Session) (e : Event) :
    FileTree.Grows s.tree (s.tell e).tree s.logFile.toList := by
  unfold tell logged
  cases s.logFile with
  | none => exact .refl _ _
  | some loc =>
    dsimp only
    split
    · exact .refl _ _
    · exact FileTree.grows_append _ _ _

/-- Without a log file, telling leaves the tree alone. -/
theorem tellAll_of_noLog (events : List Event) {s : Session} (h : s.logFile = none) :
    (s.tellAll events).tree = s.tree ∧ (s.tellAll events).logFile = none := by
  induction events generalizing s with
  | nil => exact ⟨rfl, h⟩
  | cons e rest ih =>
    obtain ⟨htree, hlog⟩ := ih (s := s.tell e) h
    exact ⟨htree.trans (tree_tell h e), hlog⟩

end Session

end SchemaToSwift
