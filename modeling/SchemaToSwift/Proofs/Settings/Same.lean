import Mathlib.Data.List.Perm.Subperm
import SchemaToSwift.Proofs.Settings.Table
import SchemaToSwift.Proofs.Text.Point
import SchemaToSwift.Settings.Save

/-!
# Settings that are the same

Settings are the same if their tables give the same modules to the same files, whatever the order of
the entries. For settings of texts (`Savable`) the tables are then permutations of each other
(`perm_of_same`), and as a saved table is in the order of its files, which are different, the text
is the same too (`Settings.text_of_same`).
-/

namespace SchemaToSwift

/-! ## Tables of modules -/

namespace ModuleMap

/-- A table from texts to texts that a document can hold, with each file once. -/
structure OfTexts (m : ModuleMap) : Prop where
  entries : ∀ entry ∈ m, ∃ file module, entry = (.str file, .str module) ∧
    Text.WellFormed file ∧ Text.WellFormed module
  distinct : (m.map (·.1)).Nodup

variable {m n : ModuleMap}

theorem OfTexts.perm (h : m.OfTexts) (hperm : n.Perm m) : n.OfTexts where
  entries entry hentry := h.entries entry (hperm.subset hentry)
  distinct := (hperm.map _).nodup_iff.2 h.distinct

theorem OfTexts.files_isText (h : m.OfTexts) : ∀ entry ∈ m, entry.1.IsText := by
  intro entry hentry
  obtain ⟨file, module, rfl, -⟩ := h.entries entry hentry
  exact ⟨file, rfl⟩

/-- It is a function of texts. -/
theorem OfTexts.tabulates (h : m.OfTexts) : m.Tabulates fun f a => (.str f, .str a) ∈ m where
  distinct := h.distinct
  mem_iff file module := by
    constructor
    · intro hmem
      obtain ⟨f, a, heq, -⟩ := h.entries _ hmem
      obtain ⟨rfl, rfl⟩ := Prod.mk.inj heq
      exact ⟨f, a, hmem, rfl, rfl⟩
    · rintro ⟨f, a, hmem, rfl, rfl⟩
      exact hmem

/-- Tables that are permutations of each other are the same. -/
theorem OfTexts.same_of_perm (h : m.OfTexts) (hperm : m.Perm n) : m.same n = true :=
  h.tabulates.same ((h.perm hperm.symm).tabulates.congr fun _ _ => hperm.symm.mem_iff)

/-- A table that is the same has the same entries. -/
theorem OfTexts.perm_of_same (h : m.OfTexts) (hsame : m.same n = true) : m.Perm n := by
  rw [same, Bool.and_eq_true, beq_iff_eq, List.all_eq_true] at hsame
  obtain ⟨hlength, hentries⟩ := hsame
  have hsub : m ⊆ n := by
    intro entry hentry
    have hfound := hentries entry hentry
    obtain ⟨file, module, rfl, -⟩ := h.entries entry hentry
    dsimp only at hfound
    rw [moduleOf?, Option.any_map, Option.any_eq_true] at hfound
    obtain ⟨found, hfind, hmodule⟩ := hfound
    have hsame := List.find?_some hfind
    have hfile : found.1 = .str file := Json.same_str_right.1 hsame
    have hvalue : found.2 = .str module := Json.same_str_left.1 hmodule
    have hentry' : found = (.str file, .str module) := Prod.ext hfile hvalue
    rw [← hentry']
    exact List.mem_of_find?_eq_some hfind
  have hnodup : m.Nodup := h.distinct.of_map _
  exact (List.subperm_of_subset hnodup hsub).perm_of_length_le hlength.ge

/-! ## The order of a table -/

theorem OfTexts.nodup_codes (h : m.OfTexts) :
    (m.map fun entry => Text.codes entry.1.display).Nodup := by
  rw [List.nodup_map_iff_inj_on (h.distinct.of_map _)]
  intro x hx y hy hcodes
  obtain ⟨a, _, rfl, hwfa, -⟩ := h.entries x hx
  obtain ⟨b, _, rfl, hwfb, -⟩ := h.entries y hy
  have hab : a = b := hwfa.canonical.eq_of_codes hwfb.canonical hcodes
  exact List.inj_on_of_nodup_map h.distinct hx hy (congrArg Json.str hab)

end ModuleMap

namespace Settings

/-- The table of modules can be put in order, which changes nothing but the order. -/
theorem orderedModules_ok {m : ModuleMap} (h : m.OfTexts) :
    ∃ ordered, orderedModules m = .ok ordered ∧ ordered.Perm m ∧
      Sorting.InOrder (fun entry => Text.codes entry.1.display) ordered :=
  Json.sortBy_texts h.files_isText

/-- Tables with the same entries have one order. -/
theorem orderedModules_of_perm {m n : ModuleMap} (h : m.OfTexts) (hperm : m.Perm n) :
    orderedModules n = orderedModules m := by
  obtain ⟨ordered, hordered, hpermOrdered, hinOrder⟩ := orderedModules_ok h
  obtain ⟨ordered', hordered', hpermOrdered', hinOrder'⟩ := orderedModules_ok (h.perm hperm.symm)
  have hall : ordered'.Perm ordered := (hpermOrdered'.trans hperm.symm).trans hpermOrdered.symm
  rw [hordered, hordered', hinOrder'.eq_of_perm hinOrder hall]
  exact (h.perm (hpermOrdered'.trans hperm.symm)).nodup_codes

/-- Settings that a configuration file can hold: files, modules and patterns are texts, of any code
points but a surrogate pair in its two halves, and the runtime library has the name of a module.
Settings that are read from a document hold no such pair (`savable_of_load`). -/
structure Savable (s : Settings) : Prop where
  modules : s.modules.OfTexts
  shortened : ∀ pattern ∈ s.shortened, ∃ text, pattern = .str text ∧ Text.WellFormed text
  runtimeModule : Text.isIdentifier s.runtimeModule = true

variable {s : Settings}

theorem Savable.shortened_isText (hs : s.Savable) : ∀ pattern ∈ s.shortened, pattern.IsText := by
  intro pattern hpattern
  obtain ⟨text, htext, -⟩ := hs.shortened pattern hpattern
  exact ⟨text, htext⟩

/-- Settings that are the same differ in the order of their modules only. -/
theorem Savable.eq_of_same (hs : s.Savable) {other : Settings} (hsame : s.same other = true) :
    s.modules.Perm other.modules ∧ other = { s with modules := other.modules } := by
  simp only [same, Bool.and_eq_true, beq_iff_eq] at hsame
  obtain ⟨⟨⟨⟨⟨⟨hnaming, himportForm⟩, haccess⟩, hprofile⟩, hmodules⟩, hshortened⟩, hruntime⟩ :=
    hsame
  refine ⟨hs.modules.perm_of_same hmodules, ?_⟩
  rw [Json.sameItems_texts hs.shortened_isText] at hshortened
  cases other
  dsimp only at hnaming himportForm haccess hprofile hshortened hruntime
  subst hnaming himportForm haccess hprofile hshortened hruntime
  rfl

/-- Settings with the same modules in another order are the same. -/
theorem Savable.same_of_perm (hs : s.Savable) {m : ModuleMap} (hperm : m.Perm s.modules) :
    ({ s with modules := m } : Settings).same s = true := by
  have hmodules : m.same s.modules = true := (hs.modules.perm hperm).same_of_perm hperm
  have hshortened : Json.sameItems s.shortened s.shortened = true :=
    (Json.sameItems_texts hs.shortened_isText).2 rfl
  simp [same, hmodules, hshortened]

/-- Modules in another order give the same text. -/
theorem Savable.text_of_perm (hs : s.Savable) {m : ModuleMap} (hperm : s.modules.Perm m) :
    text { s with modules := m } = s.text := by
  unfold text
  dsimp only
  rw [orderedModules_of_perm hs.modules hperm]
  obtain ⟨ordered, hordered, -, -⟩ := orderedModules_ok hs.modules
  rw [hordered]
  rfl

/-- Settings that are the same are saved as the same text. -/
theorem Savable.text_of_same (hs : s.Savable) {other : Settings} (hsame : s.same other = true) :
    other.text = s.text := by
  obtain ⟨hperm, heq⟩ := hs.eq_of_same hsame
  rw [heq, hs.text_of_perm hperm]

end Settings

end SchemaToSwift
