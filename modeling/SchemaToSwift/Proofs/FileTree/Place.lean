import SchemaToSwift.Proofs.FileTree.Growth

/-!
# The places of paths

Where nothing is in its way, a path leads to a location that depends on the working folder only: its
place (`place_of_locate`). Different texts can be paths to one place, as empty components, single
dots and double dots go nowhere new. They cannot if their components are names (`IsNormal`): then
the place is the folder with the names after it, and it determines the text (`place_join_inj`).
-/

namespace SchemaToSwift

namespace FilePath

/-- The location that components lead to from a location, if they lead anywhere. -/
def placeFrom (start : Location) (parts : List String) : Location :=
  parts.foldl (fun loc part =>
    if part = "." then loc else if part = ".." then loc.dropLast else loc ++ [nameOf part]) start

/-- A component that is the name of what it leads to. -/
def IsName (part : String) : Prop := part ≠ "" ∧ part ≠ "." ∧ part ≠ ".." ∧ nameOf part = part

/-- A text of names with slashes between them. -/
def IsNormal (s : String) : Prop := ∀ part ∈ Text.parts '/' s, IsName part

instance (part : String) : Decidable (IsName part) :=
  inferInstanceAs (Decidable (_ ∧ _ ∧ _ ∧ _))

instance (s : String) : Decidable (IsNormal s) :=
  inferInstanceAs (Decidable (∀ part ∈ Text.parts '/' s, IsName part))

/-- Names lead to themselves. -/
theorem placeFrom_of_isName {parts : List String} (h : ∀ part ∈ parts, IsName part)
    (start : Location) : placeFrom start parts = start ++ parts := by
  induction parts generalizing start with
  | nil => exact (List.append_nil start).symm
  | cons part rest ih =>
    obtain ⟨⟨-, hdot, hup, hname⟩, hrest⟩ := List.forall_mem_cons.1 h
    rw [placeFrom, List.foldl_cons, if_neg hdot, if_neg hup, hname]
    exact (ih hrest _).trans (List.append_cons start part rest).symm

/-- Single dots go nowhere. -/
theorem placeFrom_filter_dot (start : Location) (parts : List String) :
    placeFrom start (parts.filter (· != ".")) = placeFrom start parts := by
  induction parts generalizing start with
  | nil => rfl
  | cons part rest ih =>
    by_cases hdot : part = "."
    · rw [List.filter_cons_of_neg (by simpa using hdot), ih, placeFrom, placeFrom, List.foldl_cons,
        if_pos hdot]
    · rw [List.filter_cons_of_pos (by simpa using hdot), placeFrom, List.foldl_cons]
      exact ih _

/-- A text without marks holds no bytes, so it is the name that it stands for. -/
theorem nameOf_of_noMark {s : String} (h : Text.mark ∉ s.toList) : nameOf s = s := by
  have hbytes : ∀ p ∈ s.toList.map Text.Point.char, p.byte? = none := by
    simp [Text.Point.byte?]
  rw [nameOf, Text.points_of_noMark h, Text.joinBytes_of_noByte hbytes, Text.ofPoints_map_char h]

/-- The path of a normal text. -/
theorem ofText_of_isNormal {s : String} (h : IsNormal s) :
    ofText s = ⟨.workingFolder, Text.parts '/' s⟩ := by
  have hstart : PathStart.ofText s = .workingFolder := by
    unfold PathStart.ofText
    cases hs : s.toList with
    | nil => rfl
    | cons c rest =>
      have hc : c ≠ '/' := by
        rintro rfl
        have hempty : "" ∈ Text.parts '/' s := by simp [Text.parts, Text.splitAt, hs]
        exact (h "" hempty).1 rfl
      simp [hc]
  have hparts : (Text.parts '/' s).filter (fun p => p != "" && p != ".") = Text.parts '/' s := by
    refine List.filter_eq_self.2 fun part hpart => ?_
    simp [(h part hpart).1, (h part hpart).2.1]
  rw [ofText, hstart, hparts]

end FilePath

namespace FileTree

/-- The location that a path leads to, if it leads anywhere. -/
def place (t : FileTree) (p : FilePath) : Location :=
  FilePath.placeFrom (t.origin p.start) p.parts

variable {t t' : FileTree}

theorem Leads.place {loc dest : Location} {parts : List String} (h : Leads t loc parts dest) :
    FilePath.placeFrom loc parts = dest := by
  induction h with
  | here => rfl
  | dot _ _ ih | up _ _ ih => exact ih
  | down _ hdot hup _ _ _ ih =>
    rw [FilePath.placeFrom, List.foldl_cons, if_neg hdot, if_neg hup]
    exact ih

/-- A path that leads somewhere leads to its place. -/
theorem place_of_locate {p : FilePath} {loc : Location} (h : t.locate p = .ok loc) :
    t.place p = loc := by
  obtain ⟨u, -, hfollow⟩ := Result.bind_eq_ok_iff.1 h
  exact (follow_ok_iff.1 hfollow).place

/-- A file is at the place of its path. -/
theorem FileAt.place {start loc : Location} {parts : List String} (h : FileAt t start parts loc) :
    FilePath.placeFrom start parts = loc := by
  cases h with
  | intro hleads hfolder hdot hup _ _ =>
    rw [FilePath.placeFrom, List.foldl_append, List.foldl_cons, List.foldl_nil, if_neg hdot,
      if_neg hup, ← hleads.place, FilePath.placeFrom]

theorem place_of_fileOf {p : FilePath} {loc : Location} (h : t.fileOf p = .ok loc) :
    t.place p = loc := by
  obtain ⟨u, -, hfile⟩ := Result.bind_eq_ok_iff.1 h
  exact (fileAt_ok_iff.1 hfile).place

/-- A path that is taken as it stands leads to its place, too. -/
theorem place_of_fileOfText {path : String} {loc : Location} (h : t.fileOfText path = .ok loc) :
    t.place (.ofText path) = loc := by
  obtain ⟨-, -, hfile⟩ := fileOfText_ok_iff.1 h
  rw [FileTree.place, parts_ofText, FilePath.placeFrom_filter_dot]
  exact hfile.place

/-- Places stay where they are. -/
theorem Grows.place {written : List Location} (h : Grows t t' written) (p : FilePath) :
    t'.place p = t.place p := by
  rw [FileTree.place, FileTree.place, origin, origin, h.here]

/-- Below a folder, normal texts with one place are equal. -/
theorem place_join_inj (folder : FilePath) {a b : String} (ha : FilePath.IsNormal a)
    (hb : FilePath.IsNormal b)
    (h : t.place (folder.join (.ofText a)) = t.place (folder.join (.ofText b))) : a = b := by
  have hplace {s : String} (hs : FilePath.IsNormal s) :
      t.place (folder.join (.ofText s)) = t.place folder ++ Text.parts '/' s := by
    rw [FilePath.ofText_of_isNormal hs, place, FilePath.join,
      if_neg (by simp [FilePath.isAbsolute]), FilePath.placeFrom, List.foldl_append]
    exact FilePath.placeFrom_of_isName hs _
  rw [hplace ha, hplace hb, List.append_cancel_left_eq] at h
  exact Text.parts_inj h

example : FilePath.IsNormal "a/b.pb.swift" ∧ ¬ FilePath.IsNormal "a//b.pb.swift" := by
  decide +kernel

end FileTree

end SchemaToSwift
