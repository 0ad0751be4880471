import Mathlib.Data.List.Flatten
import SchemaToSwift.Proofs.Text.Point
import SchemaToSwift.Text.Split

/-!
# Parts between separators

The parts of a text put together are the text (`intercalate_splitAt`), so they determine it
(`parts_inj`). Some of the parts put together are among what all of them make
(`intercalate_sublist`), and a separator that is a code point of its own separates code points as it
separates characters (`points_intercalate`).
-/

namespace SchemaToSwift.Text

/-- The parts between separators, put together. -/
theorem intercalate_splitAt (sep : Char) (cs : List Char) :
    [sep].intercalate (splitAt sep cs) = cs := by
  induction cs with
  | nil => rfl
  | cons c rest ih =>
    rw [splitAt]
    split
    · next hc =>
      rw [List.intercalate_cons_of_ne_nil (splitAt_ne_nil _ _), ih, hc]
      rfl
    · cases hrest : splitAt sep rest with
      | nil => exact absurd hrest (splitAt_ne_nil _ _)
      | cons part parts =>
        rw [hrest] at ih
        rw [List.intercalate_cons_cons_left, ih]

/-- A text is determined by its parts. -/
theorem parts_inj {sep : Char} {s u : String} (h : parts sep s = parts sep u) : s = u := by
  have hsplit : splitAt sep s.toList = splitAt sep u.toList :=
    List.map_injective_iff.2 (fun _ _ => String.ofList_inj.1) h
  refine String.toList_injective ?_
  rw [← intercalate_splitAt sep s.toList, hsplit, intercalate_splitAt]

/-- A text without separators is one part. -/
theorem splitAt_of_not_mem {sep : Char} {cs : List Char} (h : sep ∉ cs) :
    splitAt sep cs = [cs] := by
  induction cs with
  | nil => rfl
  | cons c rest ih =>
    rw [List.mem_cons, not_or] at h
    rw [splitAt, if_neg (Ne.symm h.1), ih h.2]

/-- The parts before and after a separator. -/
theorem splitAt_append_cons (sep : Char) (xs ys : List Char) :
    splitAt sep (xs ++ sep :: ys) = splitAt sep xs ++ splitAt sep ys := by
  induction xs with
  | nil => simp [splitAt]
  | cons x rest ih =>
    rw [List.cons_append, splitAt, splitAt, ih]
    split
    · rfl
    · cases hrest : splitAt sep rest with
      | nil => exact absurd hrest (splitAt_ne_nil _ _)
      | cons part parts => rfl

/-- Parts put together have their own parts. -/
theorem splitAt_intercalate_eq (sep : Char) {parts : List (List Char)} (h : parts ≠ []) :
    splitAt sep ([sep].intercalate parts) = parts.flatMap (splitAt sep) := by
  induction parts with
  | nil => exact absurd rfl h
  | cons part rest ih =>
    cases rest with
    | nil => simp
    | cons next rest =>
      rw [List.intercalate_cons_cons, List.append_assoc, List.singleton_append,
        splitAt_append_cons, ih (List.cons_ne_nil _ _)]
      rfl

/-- A text in front changes none of the parts but the first one. -/
theorem tail_splitAt_append (sep : Char) (xs ys : List Char) :
    (splitAt sep ys).tail <:+ (splitAt sep (xs ++ ys)).tail := by
  induction xs with
  | nil => exact List.suffix_rfl
  | cons x rest ih =>
    rw [List.cons_append, splitAt]
    split
    · exact ih.trans (List.tail_suffix _)
    · split
      · next hrest => exact absurd hrest (splitAt_ne_nil _ _)
      · next part parts hrest =>
        rw [hrest] at ih
        exact ih

/-- A text without separators in front is put before the first part. -/
theorem splitAt_append_of_not_mem {sep : Char} {xs : List Char} (h : sep ∉ xs) (ys : List Char) :
    ∃ first rest, splitAt sep ys = first :: rest ∧
      splitAt sep (xs ++ ys) = (xs ++ first) :: rest := by
  obtain ⟨first, rest, hys⟩ := List.exists_cons_of_ne_nil (splitAt_ne_nil sep ys)
  refine ⟨first, rest, hys, ?_⟩
  induction xs with
  | nil => exact hys
  | cons x xs ih =>
    rw [List.mem_cons, not_or] at h
    rw [List.cons_append, splitAt, if_neg (Ne.symm h.1), ih h.2]
    rfl

/-- A character at the end is put after the last part. -/
theorem splitAt_concat {sep c : Char} (hc : c ≠ sep) (xs : List Char) :
    ∃ before last, splitAt sep xs = before ++ [last] ∧
      splitAt sep (xs ++ [c]) = before ++ [last ++ [c]] := by
  induction xs with
  | nil => exact ⟨[], [], rfl, splitAt_of_not_mem (by simpa using hc.symm)⟩
  | cons x rest ih =>
    obtain ⟨before, last, hrest, hlonger⟩ := ih
    rw [List.cons_append, splitAt, splitAt, hrest, hlonger]
    by_cases hx : x = sep
    · rw [if_pos hx, if_pos hx]
      exact ⟨[] :: before, last, rfl, rfl⟩
    · rw [if_neg hx, if_neg hx]
      cases before with
      | nil => exact ⟨[], x :: last, rfl, rfl⟩
      | cons first parts => exact ⟨(x :: first) :: parts, last, rfl, rfl⟩

/-- So the parts but the first one are as before, unless they have the character. -/
theorem mem_tail_splitAt_concat {sep c : Char} (hc : c ≠ sep) {part xs : List Char}
    (h : part ∈ (splitAt sep (xs ++ [c])).tail) : part ∈ (splitAt sep xs).tail ∨ c ∈ part := by
  obtain ⟨before, last, hxs, hlonger⟩ := splitAt_concat hc xs
  rw [hlonger] at h
  rw [hxs]
  cases before with
  | nil => cases h
  | cons first rest =>
    rcases List.mem_append.1 h with hrest | hlast
    · exact .inl (List.mem_append_left _ hrest)
    · rw [List.mem_singleton.1 hlast]
      exact .inr (List.mem_append_right _ (.head _))

section
variable {α : Type}

theorem cons_intercalate (a : α) {parts : List (List α)} (h : parts ≠ []) :
    a :: [a].intercalate parts = parts.flatMap (a :: ·) := by
  induction parts with
  | nil => exact absurd rfl h
  | cons part parts ih =>
    cases parts with
    | nil => simp
    | cons next parts =>
      rw [List.intercalate_cons_cons, List.flatMap_cons, ← ih (List.cons_ne_nil _ _)]
      simp

/-- Fewer parts are among more of them. -/
theorem intercalate_sublist (a : α) {xs ys : List (List α)} (hxs : xs ≠ []) (h : xs.Sublist ys) :
    ([a].intercalate xs).Sublist ([a].intercalate ys) := by
  have hys : ys ≠ [] := by
    rintro rfl
    exact hxs (List.sublist_nil.1 h)
  rw [← List.cons_sublist_cons, cons_intercalate a hxs, cons_intercalate a hys]
  exact h.flatMap _

end

/-- The parts between separators have none. -/
theorem not_mem_of_mem_splitAt {sep : Char} {cs part : List Char} (h : part ∈ splitAt sep cs) :
    sep ∉ part := by
  induction cs generalizing part with
  | nil =>
    rw [splitAt, List.mem_singleton] at h
    simp [h]
  | cons c rest ih =>
    rw [splitAt] at h
    split at h
    · rcases List.mem_cons.1 h with rfl | hrest
      · simp
      · exact ih hrest
    · next hc =>
      cases hsplit : splitAt sep rest with
      | nil => exact absurd hsplit (splitAt_ne_nil _ _)
      | cons first parts =>
        rw [hsplit] at h ih
        rcases List.mem_cons.1 h with rfl | hparts
        · simpa [Ne.symm hc] using ih (.head _)
        · exact ih (.tail _ hparts)

/-- The parts of a text have its characters, in order. -/
theorem sublist_of_mem_splitAt {sep : Char} {cs part : List Char} (h : part ∈ splitAt sep cs) :
    part.Sublist cs := by
  have hsub := intercalate_sublist sep (List.cons_ne_nil part []) (List.singleton_sublist.2 h)
  rwa [List.intercalate_singleton, intercalate_splitAt] at hsub

/-- A separator that is a code point of its own separates code points. -/
theorem points_intercalate {sep : Char} (hmark : sep ≠ mark) (hhalf : half? sep = none)
    (parts : List (List Char)) :
    points ([sep].intercalate parts) = [Point.char sep].intercalate (parts.map points) := by
  induction parts with
  | nil => rfl
  | cons part parts ih =>
    cases parts with
    | nil => simp
    | cons next parts =>
      rw [List.intercalate_cons_cons, List.append_assoc, List.singleton_append,
        points_append_cons hmark hhalf, ih]
      simp [List.intercalate_cons_cons]

/-- Other code points are written without it. -/
theorem sep_not_mem_chars {sep : Char} (hmark : sep ≠ mark) (hhalf : half? sep = none) {p : Point}
    (hp : p ≠ .char sep) : sep ∉ p.chars := by
  cases p with
  | char c =>
    have hc : sep ≠ c := fun heq => hp (congrArg Point.char heq.symm)
    rw [Point.chars]
    split
    · simpa using hmark
    · simpa using hc
  | half offset =>
    have hstandIn : sep ≠ Char.ofNat (firstStandIn + offset) := by
      rintro rfl
      rw [half?_standIn] at hhalf
      cases hhalf
    rw [Point.chars, List.mem_pair, not_or]
    exact ⟨hmark, hstandIn⟩

/-- It separates the writing of code points into the writings of code points next to each other. -/
theorem splitAt_flatMap_chars {sep : Char} (hmark : sep ≠ mark) (hhalf : half? sep = none)
    (ps : List Point) :
    ∃ (first : List Point) (rest : List (List Point)), splitAt sep (ps.flatMap Point.chars) =
        first.flatMap Point.chars :: rest.map (·.flatMap Point.chars) ∧
      first <+: ps ∧ ∀ qs ∈ rest, qs <:+: ps := by
  induction ps with
  | nil => exact ⟨[], [], rfl, List.prefix_rfl, List.forall_mem_nil _⟩
  | cons p ps ih =>
    obtain ⟨first, rest, hsplit, hfirst, hrest⟩ := ih
    rw [List.flatMap_cons]
    by_cases hp : p = .char sep
    · have hchars : p.chars = [sep] := by rw [hp, Point.chars, if_neg hmark]
      refine ⟨[], first :: rest, ?_, List.nil_prefix, List.forall_mem_cons.2 ⟨?_, ?_⟩⟩
      · rw [hchars, List.singleton_append, splitAt, if_pos rfl, hsplit]
        rfl
      · exact hfirst.isInfix.trans (List.suffix_cons p ps).isInfix
      · exact fun qs hqs => (hrest qs hqs).trans (List.suffix_cons p ps).isInfix
    · have hnone : sep ∉ p.chars := sep_not_mem_chars hmark hhalf hp
      obtain ⟨first', rest', hsplit', hlonger⟩ :=
        splitAt_append_of_not_mem hnone (ps.flatMap Point.chars)
      rw [hsplit] at hsplit'
      obtain ⟨rfl, rfl⟩ := List.cons.inj hsplit'
      refine ⟨p :: first, rest, hlonger, List.cons_prefix_cons.2 ⟨rfl, hfirst⟩, fun qs hqs => ?_⟩
      exact (hrest qs hqs).trans (List.suffix_cons p ps).isInfix

/-- So the parts of a text that a document can hold are such texts too. -/
theorem WellFormed.parts {sep : Char} (hmark : sep ≠ mark) (hhalf : half? sep = none) {s : String}
    (h : WellFormed s) : ∀ part ∈ parts sep s, WellFormed part := by
  obtain ⟨ps, rfl, hjoined⟩ := h
  obtain ⟨first, rest, hsplit, hfirst, hrest⟩ := splitAt_flatMap_chars hmark hhalf ps
  rw [Text.parts, ofPoints, String.toList_ofList, hsplit, List.forall_mem_map,
    List.forall_mem_cons, List.forall_mem_map]
  exact ⟨⟨first, rfl, hjoined.infix hfirst.isInfix⟩,
    fun qs hqs => ⟨qs, rfl, hjoined.infix (hrest qs hqs)⟩⟩

end SchemaToSwift.Text
