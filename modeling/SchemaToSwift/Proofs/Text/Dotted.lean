import Mathlib.Data.List.TakeDrop
import Mathlib.Data.List.TakeWhile
import SchemaToSwift.Proofs.Text.Split

/-!
# Dotted names

A dotted name is made of components without dots. Taking it apart at its dots gives the components
back (`parts_intercalate`), and cutting at the last dot separates the last component from the others
(`lastComponent_concat`, `scopeOf_concat`).
-/

namespace SchemaToSwift.Text

variable {sep : Char}

/-! ## Parts -/

/-- Splitting at a character is splitting a list at it. -/
theorem splitAt_eq_splitOn (sep : Char) (cs : List Char) : splitAt sep cs = cs.splitOn sep := by
  induction cs with
  | nil => rfl
  | cons c rest ih =>
    rw [splitAt, List.splitOn_cons_eq_if_modifyHead, ih]
    cases hrest : rest.splitOn sep with
    | nil => exact absurd hrest (List.splitOn_ne_nil sep rest)
    | cons part parts => simp [beq_iff_eq]

/-- Parts without separators are the parts of what they make. -/
theorem splitAt_intercalate {parts : List (List Char)} (hne : parts ≠ [])
    (h : ∀ part ∈ parts, sep ∉ part) : splitAt sep ([sep].intercalate parts) = parts := by
  rw [splitAt_eq_splitOn]
  exact List.splitOn_intercalate sep h hne

/-- The components of a dotted name. -/
theorem parts_intercalate {names : List String} (hne : names ≠ [])
    (h : ∀ name ∈ names, '.' ∉ name.toList) : parts '.' (".".intercalate names) = names := by
  have hparts : ∀ part ∈ names.map String.toList, '.' ∉ part := by
    intro part hpart
    obtain ⟨name, hname, rfl⟩ := List.mem_map.1 hpart
    exact h name hname
  rw [parts, String.toList_intercalate]
  change (splitAt '.' (['.'].intercalate (names.map String.toList))).map String.ofList = names
  rw [splitAt_intercalate (by simpa using hne) hparts, List.map_map]
  simp [Function.comp_def]

/-- A text is what its parts between dots make. -/
theorem intercalate_parts (s : String) : ".".intercalate (parts '.' s) = s := by
  have hlist : ((parts '.' s).map String.toList) = splitAt '.' s.toList := by
    rw [parts, List.map_map]
    simp [Function.comp_def]
  have hchars : (".".intercalate (parts '.' s)).toList = s.toList := by
    rw [String.toList_intercalate, hlist]
    exact intercalate_splitAt '.' s.toList
  exact String.toList_injective hchars

/-- Joined names have the characters of the names and of what stands between them. -/
theorem mem_intercalate {between : String} {names : List String} {c : Char}
    (h : c ∈ (between.intercalate names).toList) :
    c ∈ between.toList ∨ ∃ name ∈ names, c ∈ name.toList := by
  induction names with
  | nil => cases h
  | cons name rest ih =>
    by_cases hrest : rest = []
    · rw [hrest, String.intercalate_singleton] at h
      exact .inr ⟨name, .head _, h⟩
    · rw [String.intercalate_cons_of_ne_nil hrest, String.toList_append, String.toList_append,
        List.mem_append, List.mem_append] at h
      rcases h with (h | h) | h
      · exact .inr ⟨name, .head _, h⟩
      · exact .inl h
      · rcases ih h with hbetween | ⟨other, hother, hc⟩
        · exact .inl hbetween
        · exact .inr ⟨other, .tail _ hother, hc⟩

/-- One more name comes after a dot. -/
theorem intercalate_concat {names : List String} (hne : names ≠ []) (name : String) :
    ".".intercalate (names ++ [name]) = ".".intercalate names ++ "." ++ name := by
  rw [String.intercalate_append_of_ne_nil hne (by simp), String.intercalate_singleton]

/-- Joined names begin like the first of them. -/
theorem intercalate_eq_cons {between name : String} {c : Char} {cs : List Char}
    (h : name.toList = c :: cs) (rest : List String) :
    ∃ tail, (between.intercalate (name :: rest)).toList = c :: tail := by
  cases rest with
  | nil =>
    rw [String.intercalate_singleton]
    exact ⟨cs, h⟩
  | cons next rest =>
    rw [String.intercalate_cons_cons, String.toList_append, String.toList_append, h]
    exact ⟨_, rfl⟩

/-- Two dotted names are the same only if their components are. -/
theorem intercalate_inj {xs ys : List String} (hx : xs ≠ []) (hy : ys ≠ [])
    (hxs : ∀ x ∈ xs, '.' ∉ x.toList) (hys : ∀ y ∈ ys, '.' ∉ y.toList)
    (h : ".".intercalate xs = ".".intercalate ys) : xs = ys := by
  rw [← parts_intercalate hx hxs, h, parts_intercalate hy hys]

/-! ## The last component -/

theorem bne_of_not_mem {cs : List Char} (h : sep ∉ cs) : ∀ c ∈ cs, (c != sep) = true := by
  intro c hc
  rw [bne_iff_ne]
  rintro rfl
  exact h hc

theorem cut_of_not_mem {cs : List Char} (h : sep ∉ cs) : cut sep cs = (cs, none) := by
  rw [cut, List.span_eq_takeWhile_dropWhile, List.takeWhile_eq_self_iff.2 (bne_of_not_mem h),
    List.dropWhile_eq_nil_iff.2 (bne_of_not_mem h)]

/-- A text is cut where the separator stands first. -/
theorem cut_append_cons {xs : List Char} (h : sep ∉ xs) (ys : List Char) :
    cut sep (xs ++ sep :: ys) = (xs, some ys) := by
  rw [cut, List.span_eq_takeWhile_dropWhile, List.takeWhile_append_of_pos (bne_of_not_mem h),
    List.dropWhile_append_of_pos (bne_of_not_mem h)]
  simp

/-- A text without separators is not cut. -/
theorem cutLast_of_not_mem {cs : List Char} (h : sep ∉ cs) : cutLast sep cs = (none, cs) := by
  rw [cutLast, cut_of_not_mem (by simpa using h)]
  simp

/-- The cut is made at the last separator. -/
theorem cutLast_append_cons (xs : List Char) {ys : List Char} (h : sep ∉ ys) :
    cutLast sep (xs ++ sep :: ys) = (some xs, ys) := by
  have hreverse : (xs ++ sep :: ys).reverse = ys.reverse ++ sep :: xs.reverse := by simp
  rw [cutLast, hreverse, cut_append_cons (by simpa using h)]
  simp

/-- A text has no separator, or it is cut at its last one. -/
theorem cutLast_cases (sep : Char) (cs : List Char) :
    sep ∉ cs ∧ cutLast sep cs = (none, cs) ∨
      ∃ xs ys, sep ∉ ys ∧ cs = xs ++ sep :: ys ∧ cutLast sep cs = (some xs, ys) := by
  by_cases hmem : sep ∈ cs
  · obtain ⟨ys, xs, hcs, hnew⟩ := List.eq_append_cons_of_mem (List.mem_reverse.2 hmem)
    have heq : cs = xs.reverse ++ sep :: ys.reverse := by simpa using congrArg List.reverse hcs
    have hys : sep ∉ ys.reverse := by simpa using hnew
    exact .inr ⟨xs.reverse, ys.reverse, hys, heq, heq ▸ cutLast_append_cons _ hys⟩
  · exact .inl ⟨hmem, cutLast_of_not_mem hmem⟩

section
variable {name : String} (h : '.' ∉ name.toList)
include h

/-- Without a dot there is one component, the text. -/
theorem lastComponent_of_noDot : lastComponent name = name := by
  rw [lastComponent, cutLast_of_not_mem h, String.ofList_toList]

theorem scopeOf_of_noDot : scopeOf name = "" := by
  rw [scopeOf, cutLast_of_not_mem h]
  rfl

theorem cutLast_dotted (scope : String) :
    cutLast '.' (scope ++ "." ++ name).toList = (some scope.toList, name.toList) := by
  have hchars : (scope ++ "." ++ name).toList = scope.toList ++ '.' :: name.toList := by simp
  rw [hchars, cutLast_append_cons _ h]

/-- Otherwise it is what comes after the last dot. -/
theorem lastComponent_dotted (scope : String) : lastComponent (scope ++ "." ++ name) = name := by
  rw [lastComponent, cutLast_dotted h, String.ofList_toList]

/-- What comes before it is the scope. -/
theorem scopeOf_dotted (scope : String) : scopeOf (scope ++ "." ++ name) = scope := by
  rw [scopeOf, cutLast_dotted h]
  exact String.ofList_toList

/-- The last component of a dotted name. -/
theorem lastComponent_concat (scope : List String) :
    lastComponent (".".intercalate (scope ++ [name])) = name := by
  by_cases hscope : scope = []
  · rw [hscope, List.nil_append, String.intercalate_singleton, lastComponent_of_noDot h]
  · rw [intercalate_concat hscope,
      lastComponent_dotted h]

/-- The other components of a dotted name. -/
theorem scopeOf_concat (scope : List String) :
    scopeOf (".".intercalate (scope ++ [name])) = ".".intercalate scope := by
  by_cases hscope : scope = []
  · rw [hscope, List.nil_append, String.intercalate_singleton, scopeOf_of_noDot h,
      String.intercalate_nil]
  · rw [intercalate_concat hscope,
      scopeOf_dotted h]

end

/-! ## Dots at the start -/

/-- Dots before a name that does not begin with one are dropped, however many there are. -/
theorem dropLeading_dots {name : String} (h : name.toList.head? ≠ some '.') (n : Nat) :
    dropLeading '.' (String.ofList (List.replicate n '.') ++ name) = name := by
  have hdots : ∀ c ∈ List.replicate n '.', (c == '.') = true := fun c hc => by
    simpa using List.eq_of_mem_replicate hc
  rw [dropLeading, String.toList_append, String.toList_ofList, List.dropWhile_append_of_pos hdots,
    List.dropWhile_beq_eq_self_of_head?_ne h, String.ofList_toList]

end SchemaToSwift.Text
