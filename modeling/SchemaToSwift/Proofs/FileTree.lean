import SchemaToSwift.FileTree
import SchemaToSwift.Proofs.Result
import SchemaToSwift.Proofs.Text.Split

/-!
# Writing a file and reading it

A path is taken as it stands where a file is written, and without its single dots and empty
components where it is read (`FilePath.ofText`). Both ways it leads to the same location, and a
location that a text was written to holds that text: `readable_put` says so, and that the file can
be written again. The path that is read is not longer than the one that was written to
(`checkText_text`), as its code points are among those of the other.
-/

namespace SchemaToSwift.FileTree

/-! ## Where a path leads -/

/-- The location that a path leads to, step by step. -/
inductive Leads (t : FileTree) : Location → List String → Location → Prop
  | here (loc : Location) : Leads t loc [] loc
  | dot {loc dest : Location} {rest : List String} (hfolder : t.isFolder loc = true)
    (h : Leads t loc rest dest) : Leads t loc ("." :: rest) dest
  | up {loc dest : Location} {rest : List String} (hfolder : t.isFolder loc = true)
    (h : Leads t loc.dropLast rest dest) : Leads t loc (".." :: rest) dest
  | down {loc dest : Location} {part : String} {rest : List String}
    (hfolder : t.isFolder loc = true) (hdot : part ≠ ".") (hup : part ≠ "..")
    (hlong : isTooLong part = false)
    (hsome : (t.entry? (loc ++ [FilePath.nameOf part])).isSome = true)
    (h : Leads t (loc ++ [FilePath.nameOf part]) rest dest) : Leads t loc (part :: rest) dest

/-- Following a path finds the location that it leads to. -/
theorem follow_ok_iff {t : FileTree} {parts : List String} {loc dest : Location} :
    t.follow loc parts = .ok dest ↔ Leads t loc parts dest := by
  constructor
  · intro h
    induction parts generalizing loc with
    | nil =>
      cases h
      exact .here _
    | cons part rest ih =>
      unfold follow at h
      split at h
      · cases h
      next hfolder =>
      rw [Bool.not_eq_true, Bool.not_eq_false'] at hfolder
      split at h
      · next hdot => exact hdot ▸ .dot hfolder (ih h)
      next hdot =>
      split at h
      · next hup => exact hup ▸ .up hfolder (ih h)
      next hup =>
      split at h
      · cases h
      next hlong =>
      dsimp only at h
      split at h
      · next hsome => exact .down hfolder hdot hup (Bool.eq_false_iff.2 hlong) hsome (ih h)
      · cases h
  · intro h
    induction h with
    | here => rfl
    | dot hfolder _ ih => simp [follow, hfolder, ih]
    | up hfolder _ ih => simp [follow, hfolder, ih]
    | down hfolder hdot hup hlong hsome _ ih =>
      simp [follow, hfolder, hdot, hup, hlong, hsome, ih]

/-- Where nothing is lost, a path leads where it led before. -/
theorem Leads.mono {t t' : FileTree} (hfolder : ∀ l, t.isFolder l = true → t'.isFolder l = true)
    (hsome : ∀ l, (t.entry? l).isSome = true → (t'.entry? l).isSome = true) {loc dest : Location}
    {parts : List String} (h : Leads t loc parts dest) : Leads t' loc parts dest := by
  induction h with
  | here => exact .here _
  | dot h _ ih => exact .dot (hfolder _ h) ih
  | up h _ ih => exact .up (hfolder _ h) ih
  | down h hdot hup hlong hthere _ ih =>
    exact .down (hfolder _ h) hdot hup hlong (hsome _ hthere) ih

/-- A path that goes on leads on. -/
theorem Leads.append {t : FileTree} {loc mid dest : Location} {parts rest : List String}
    (h : Leads t loc parts mid) (hrest : Leads t mid rest dest) :
    Leads t loc (parts ++ rest) dest := by
  induction h with
  | here => exact hrest
  | dot hfolder _ ih => exact .dot hfolder (ih hrest)
  | up hfolder _ ih => exact .up hfolder (ih hrest)
  | down hfolder hdot hup hlong hsome _ ih => exact .down hfolder hdot hup hlong hsome (ih hrest)

/-- Single dots lead nowhere else. -/
theorem Leads.withoutDots {t : FileTree} {loc dest : Location} {parts : List String}
    (h : Leads t loc parts dest) : Leads t loc (parts.filter (· != ".")) dest := by
  induction h with
  | here => exact .here _
  | dot _ _ ih => simpa using ih
  | up hfolder _ ih => simpa using .up hfolder ih
  | down hfolder hdot hup hlong hsome _ ih =>
    simpa [hdot] using .down hfolder hdot hup hlong hsome ih

/-- The location of a file that need not be there: its folder is, and it is none itself. -/
inductive FileAt (t : FileTree) (start : Location) : List String → Location → Prop
  | intro {init : List String} {name : String} {folder : Location}
    (hleads : Leads t start init folder) (hfolder : t.isFolder folder = true) (hdot : name ≠ ".")
    (hup : name ≠ "..") (hlong : isTooLong name = false)
    (hfile : t.isFolder (folder ++ [FilePath.nameOf name]) = false) :
    FileAt t start (init ++ [name]) (folder ++ [FilePath.nameOf name])

theorem not_fileAt_nil {t : FileTree} {start loc : Location} : ¬ FileAt t start [] loc := by
  generalize hparts : ([] : List String) = parts
  rintro ⟨_⟩
  exact List.append_ne_nil_of_right_ne_nil _ (List.cons_ne_nil _ _) hparts.symm

/-- A file is found exactly if the way to its folder is, and nothing else stands in its place. -/
theorem fileAt_ok_iff {t : FileTree} {start loc : Location} {parts : List String} :
    t.fileAt start parts = .ok loc ↔ FileAt t start parts loc := by
  unfold fileAt
  constructor
  · intro h
    split at h
    · cases h
    next name hname =>
    obtain ⟨init, rfl⟩ := List.getLast?_eq_some_iff.1 hname
    rw [List.dropLast_concat] at h
    cases hfollow : t.follow start init with
    | error e =>
      rw [hfollow] at h
      cases h
    | ok folder =>
      rw [hfollow, Result.bind_ok] at h
      by_cases hfolder : t.isFolder folder = true
      · by_cases hdots : name = "." ∨ name = ".."
        · simp [hfolder, hdots] at h
        · by_cases hlong : isTooLong name = true
          · simp [hfolder, hdots, hlong] at h
          · by_cases hfile : t.isFolder (folder ++ [FilePath.nameOf name]) = true
            · simp [hfolder, hdots, hlong, hfile] at h
            · obtain rfl : folder ++ [FilePath.nameOf name] = loc := by
                simpa [hfolder, hdots, hlong, hfile] using h
              rw [not_or] at hdots
              exact .intro (follow_ok_iff.1 hfollow) hfolder hdots.1 hdots.2
                (Bool.eq_false_iff.2 hlong) (Bool.eq_false_iff.2 hfile)
      · simp [hfolder] at h
  · rintro ⟨hleads, hfolder, hdot, hup, hlong, hfile⟩
    simp [follow_ok_iff.2 hleads, hfolder, hdot, hup, hlong, hfile]

/-! ## Trees with a file written -/

/-- A written location holds what was put there, and the others what they held. -/
theorem entry_put (t : FileTree) {loc : Location} (hloc : loc ≠ []) (e : FileEntry)
    (l : Location) : FileTree.entry? (t.put loc e) l = if l = loc then some e else t.entry? l := by
  have hkeep (hne : l ≠ loc) : (t.entries.filter (·.1 != loc)).lookup l = t.entries.lookup l := by
    induction t.entries with
    | nil => rfl
    | cons entry rest ih =>
      obtain ⟨k, v⟩ := entry
      by_cases hk : k = loc
      · have hl : (l == k) = false := by simpa [hk] using hne
        rw [List.filter_cons_of_neg (by simpa using hk), ih, List.lookup_cons, hl]
      · rw [List.filter_cons_of_pos (by simpa using hk), List.lookup_cons, List.lookup_cons, ih]
  unfold entry? put
  by_cases hl : l = loc
  · subst hl
    simp [hloc]
  · have hbeq : (l == loc) = false := by simpa using hl
    dsimp only
    rw [List.lookup_cons, hbeq, hkeep hl, if_neg hl]

section
variable {t : FileTree} {loc : Location} {content : String}

/-- Putting a file in a place that is no folder leaves all folders. -/
theorem isFolder_put (hfile : t.isFolder loc = false) (l : Location)
    (h : t.isFolder l = true) : (t.put loc (.text content)).isFolder l = true := by
  have hloc : loc ≠ [] := by
    rintro rfl
    cases hfile
  have hne : l ≠ loc := by
    rintro rfl
    rw [h] at hfile
    cases hfile
  unfold isFolder at h ⊢
  rwa [entry_put t hloc, if_neg hne]

/-- Putting an entry takes none away. -/
theorem isSome_entry_put (hloc : loc ≠ []) (e : FileEntry) (l : Location)
    (h : (t.entry? l).isSome = true) : (FileTree.entry? (t.put loc e) l).isSome = true := by
  rw [entry_put t hloc]
  split
  · rfl
  · exact h

/-- No file stands at the root. -/
theorem FileAt.ne_nil {start : Location} {parts : List String} (h : FileAt t start parts loc) :
    loc ≠ [] := by
  cases h
  exact List.append_ne_nil_of_right_ne_nil _ (List.cons_ne_nil _ _)

/-- No folder stands where a file can. -/
theorem FileAt.not_isFolder {start : Location} {parts : List String}
    (h : FileAt t start parts loc) : t.isFolder loc = false := by
  cases h
  assumption

/-- The path of a file is more than single dots. -/
theorem FileAt.components_ne_nil {start : Location} {parts : List String}
    (h : FileAt t start parts loc) : parts.filter (· != ".") ≠ [] := by
  cases h with
  | intro _ _ hdot _ _ _ =>
    rw [List.filter_append]
    exact List.append_ne_nil_of_right_ne_nil _ (by simp [hdot])

/-- A file can be written again. -/
theorem FileAt.put {start : Location} {parts : List String} (h : FileAt t start parts loc) :
    FileAt (t.put loc (.text content)) start parts loc := by
  have hne := h.ne_nil
  cases h with
  | intro hleads hfolder hdot hup hlong hfile =>
    refine .intro ?_ (isFolder_put hfile _ hfolder) hdot hup hlong ?_
    · exact hleads.mono (isFolder_put hfile) (isSome_entry_put hne _)
    · rw [isFolder, entry_put t hne, if_pos rfl]
      rfl

/-- A path leads to the file that was written. -/
theorem FileAt.leads_put {start : Location} {parts : List String} (h : FileAt t start parts loc)
    (content : String) : Leads (t.put loc (.text content)) start parts loc := by
  have hne := h.ne_nil
  cases h with
  | intro hleads hfolder hdot hup hlong hfile =>
    refine (hleads.mono (isFolder_put hfile) (isSome_entry_put hne _)).append ?_
    refine .down (isFolder_put hfile _ hfolder) hdot hup hlong ?_ (.here _)
    rw [entry_put t hne, if_pos rfl]
    rfl

/-- Putting the same text again changes nothing. -/
theorem put_put (t : FileTree) (loc : Location) (e : FileEntry) :
    (t.put loc e).put loc e = t.put loc e := by
  simp [put]

end

/-! ## Lengths of paths -/

/-- Fewer numbers come to less. -/
theorem foldl_add_le {xs ys : List Nat} (h : xs.Sublist ys) {a b : Nat} (hab : a ≤ b) :
    xs.foldl (· + ·) a ≤ ys.foldl (· + ·) b := by
  induction h generalizing a b with
  | slnil => exact hab
  | cons y _ ih => exact ih (Nat.le_add_right_of_le hab)
  | cons_cons x _ ih => exact ih (Nat.add_le_add_right hab x)

/-- Fewer code points have fewer bytes. -/
theorem byteLength_of_sublist {s' s : String}
    (hpoints : (Text.points s'.toList).Sublist (Text.points s.toList))
    (hchars : s'.toList ⊆ s.toList) {n : Nat} (hn : byteLength s = .ok n) :
    ∃ n' ≤ n, byteLength s' = .ok n' := by
  unfold byteLength at hn ⊢
  cases hcounts : (Text.points s.toList).mapM byteCount with
  | error e =>
    rw [hcounts] at hn
    cases hn
  | ok counts =>
    obtain ⟨counts', hcounts', hsub⟩ := Result.mapM_of_sublist hpoints hcounts
    rw [hcounts, Result.bind_ok] at hn
    by_cases hnull : '\x00' ∈ s.toList
    · simp [hnull] at hn
    · have hnull' : '\x00' ∉ s'.toList := fun hmem => hnull (hchars hmem)
      obtain rfl : counts.foldl (· + ·) 0 = n := by simpa [hnull] using hn
      exact ⟨counts'.foldl (· + ·) 0, foldl_add_le hsub (Nat.le_refl 0), by
        simp [hcounts', hnull']⟩

/-! ## Texts of paths -/

/-- The parts that slashes at the start give. -/
theorem splitAt_slashes (cs : List Char) : Text.splitAt '/' cs =
    List.replicate (cs.takeWhile (· == '/')).length [] ++
      Text.splitAt '/' (cs.dropWhile (· == '/')) := by
  induction cs with
  | nil => rfl
  | cons c rest ih =>
    by_cases hc : c = '/'
    · subst hc
      simp [Text.splitAt, ih, List.replicate_succ]
    · simp [hc]

/-- The number of slashes that a start is written with. -/
def slashes : PathStart → Nat
  | .workingFolder => 0
  | .root => 1
  | .otherRoot => 2

theorem slashes_le (path : String) :
    slashes (.ofText path) ≤ (path.toList.takeWhile (· == '/')).length := by
  unfold PathStart.ofText
  split
  · exact Nat.zero_le _
  · next h => rw [h]; exact Nat.le_refl 2
  · next h0 _ => exact Nat.pos_of_ne_zero h0

theorem toList_start (start : PathStart) {parts : List (List Char)} (h : parts ≠ []) :
    ['/'].intercalate (List.replicate (slashes start) [] ++ parts) =
      start.text.toList ++ ['/'].intercalate parts := by
  cases start with
  | workingFolder => rfl
  | root =>
    rw [slashes, List.replicate_one, List.singleton_append, List.intercalate_cons_of_ne_nil h]
    rfl
  | otherRoot =>
    have hcons : ([] :: parts : List (List Char)) ≠ [] := List.cons_ne_nil _ _
    rw [slashes, List.replicate_succ, List.replicate_one, List.cons_append, List.singleton_append,
      List.intercalate_cons_of_ne_nil hcons, List.intercalate_cons_of_ne_nil h]
    rfl

/-- A path is made of some of the parts of the text that denotes it. -/
theorem exists_parts_text {path : String} (h : (FilePath.ofText path).parts ≠ []) :
    ∃ parts ≠ [], (FilePath.ofText path).text.toList = ['/'].intercalate parts ∧
      parts.Sublist (Text.splitAt '/' path.toList) := by
  let keeps (cs : List Char) : Bool := String.ofList cs != "" && String.ofList cs != "."
  have hkept : (FilePath.ofText path).parts =
      ((Text.splitAt '/' (path.toList.dropWhile (· == '/'))).filter keeps).map String.ofList := by
    rw [FilePath.ofText, Text.parts, List.filter_map, splitAt_slashes, List.filter_append]
    simp [keeps, Function.comp_def]
  have hne : (Text.splitAt '/' (path.toList.dropWhile (· == '/'))).filter keeps ≠ [] := by
    intro hnil
    rw [hkept, hnil] at h
    exact h rfl
  refine ⟨List.replicate (slashes (.ofText path)) [] ++
    (Text.splitAt '/' (path.toList.dropWhile (· == '/'))).filter keeps, ?_, ?_, ?_⟩
  · exact List.append_ne_nil_of_right_ne_nil _ hne
  · rw [toList_start _ hne, FilePath.text, if_neg fun hdot => h hdot.2, String.toList_append,
      String.toList_intercalate, hkept]
    simp [FilePath.ofText, Function.comp_def]
  · rw [splitAt_slashes path.toList]
    exact ((List.replicate_sublist_replicate []).2 (slashes_le path)).append List.filter_sublist

/-- A path that is read is not longer than the text that denotes it. -/
theorem checkText_text {path : String} (h : (FilePath.ofText path).parts ≠ [])
    (hcheck : checkText path = .ok ()) : checkText (FilePath.ofText path).text = .ok () := by
  obtain ⟨parts, hne, htext, hsub⟩ := exists_parts_text h
  have hchars : (FilePath.ofText path).text.toList.Sublist path.toList := by
    rw [htext, ← Text.intercalate_splitAt '/' path.toList]
    exact Text.intercalate_sublist '/' hne hsub
  have hpoints : (Text.points (FilePath.ofText path).text.toList).Sublist
      (Text.points path.toList) := by
    rw [htext, ← Text.intercalate_splitAt '/' path.toList,
      Text.points_intercalate (by decide) (by decide), Text.points_intercalate (by decide)
        (by decide)]
    exact Text.intercalate_sublist _ (by simpa using hne) (hsub.map _)
  unfold checkText at hcheck ⊢
  cases hlength : byteLength path with
  | error e =>
    rw [hlength] at hcheck
    cases hcheck
  | ok n =>
    obtain ⟨n', hle, hn'⟩ := byteLength_of_sublist hpoints hchars.subset hlength
    have hn : n ≤ maxPath := by
      by_contra hlong
      simp [hlength, hlong] at hcheck
    rw [hn', Result.bind_ok, if_neg (by omega)]
    rfl

/-- The components of a path as it stands. -/
def componentsOf (path : String) : List String := (Text.parts '/' path).filter (· != "")

/-- A text leads to a file exactly if it can be a path, does not end with a slash, and its
components lead there. -/
theorem fileOfText_ok_iff {t : FileTree} {path : String} {loc : Location} :
    t.fileOfText path = .ok loc ↔ checkText path = .ok () ∧ path.toList.getLast? ≠ some '/' ∧
      FileAt t (t.origin (.ofText path)) (componentsOf path) loc := by
  have hempty : ¬ FileAt t (t.origin (.ofText "")) (componentsOf "") loc := not_fileAt_nil
  have hdot (init : List String) :
      ¬ t.fileAt (t.origin (.ofText path)) (init ++ ["."]) = .ok loc := by
    rw [fileAt_ok_iff]
    generalize hparts : init ++ ["."] = parts
    rintro ⟨_, _, hname, _⟩
    exact hname (List.singleton_inj.1 (List.append_inj' hparts rfl).2).symm
  unfold fileOfText
  cases hcheck : checkText path with
  | error e => simp
  | ok u =>
    by_cases hpath : path = ""
    · subst hpath
      simp [hempty]
    · by_cases hslash : path.toList.getLast? = some '/'
      · simp [hpath, hslash, hdot]
      · simp [hpath, hslash, fileAt_ok_iff, componentsOf]

theorem ne_empty_of_fileOfText {t : FileTree} {path : String} {loc : Location}
    (h : t.fileOfText path = .ok loc) : path ≠ "" := by
  rintro rfl
  exact not_fileAt_nil (fileOfText_ok_iff.1 h).2.2

theorem parts_ofText (path : String) :
    (FilePath.ofText path).parts = (componentsOf path).filter (· != ".") := by
  rw [FilePath.ofText, componentsOf, List.filter_filter]
  exact List.filter_congr fun p _ => Bool.and_comm _ _

/-- A path leads to the text that was written to it. -/
theorem locate_put {t : FileTree} {path : String} {loc : Location}
    (h : t.fileOfText path = .ok loc) (content : String) :
    (t.put loc (.text content)).locate (.ofText path) = .ok loc := by
  obtain ⟨hcheck, -, hfile⟩ := fileOfText_ok_iff.1 h
  have hleads := (hfile.leads_put content).withoutDots
  rw [← parts_ofText] at hleads
  have hparts : (FilePath.ofText path).parts ≠ [] := by
    rw [parts_ofText]
    exact hfile.components_ne_nil
  rw [locate, checkText_text hparts hcheck]
  exact follow_ok_iff.2 hleads

/-- A text that was written to a path is found there, and can be written there again. -/
theorem readable_put {t : FileTree} {path : String} {loc : Location}
    (h : t.fileOfText path = .ok loc) (content : String) :
    (t.put loc (.text content)).has (.ofText path) = .ok true ∧
      (t.put loc (.text content)).read (.ofText path) = .ok content ∧
      (t.put loc (.text content)).fileOfText path = .ok loc := by
  obtain ⟨hcheck, hslash, hfile⟩ := fileOfText_ok_iff.1 h
  have hlocate := locate_put h content
  refine ⟨?_, ?_, ?_⟩
  · rw [has, hlocate]
  · rw [read, hlocate, Result.bind_ok, entry_put t hfile.ne_nil, if_pos rfl]
    rfl
  · exact fileOfText_ok_iff.2 ⟨hcheck, hslash, hfile.put⟩

end SchemaToSwift.FileTree
