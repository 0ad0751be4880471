import Mathlib.Data.List.Nodup
import Mathlib.Data.List.Perm.Basic
import SchemaToSwift.Proofs.Json.Order
import SchemaToSwift.Settings.Basic

/-!
# Tables of modules as functions

A table from texts to texts in which each file stands once is a function from files to modules
(`ModuleMap.Tabulates`): it gives a file the module that it tabulates (`moduleOf?_eq_some_iff`), and
tables of one function are permutations of each other and the same (`perm`, `same`).
-/

namespace SchemaToSwift

namespace ModuleMap

/-- A table that gives files the modules that a relation does. -/
structure Tabulates (m : ModuleMap) (listed : String → String → Prop) : Prop where
  distinct : (m.map (·.1)).Nodup
  mem_iff : ∀ file module, (file, module) ∈ m ↔
    ∃ f a, listed f a ∧ file = .str f ∧ module = .str a

variable {m n : ModuleMap} {listed : String → String → Prop}

theorem Tabulates.congr {listed' : String → String → Prop} (h : m.Tabulates listed)
    (hiff : ∀ f a, listed f a ↔ listed' f a) : m.Tabulates listed' :=
  ⟨h.distinct, by simpa only [hiff] using h.mem_iff⟩

/-- The entry that is found for a file is one of the table. -/
theorem Tabulates.moduleOf?_eq_some_iff (h : m.Tabulates listed) {file module : Json} :
    m.moduleOf? file = some module ↔ ∃ f a, listed f a ∧ file = .str f ∧ module = .str a := by
  rw [← h.mem_iff]
  constructor
  · intro hfound
    obtain ⟨entry, hentry, rfl⟩ := Option.map_eq_some_iff.1 hfound
    have hmem := List.mem_of_find?_eq_some hentry
    obtain ⟨f, a, -, hf, -⟩ := (h.mem_iff _ _).1 hmem
    have hsame := List.find?_some hentry
    rw [hf, Json.same_str_left] at hsame
    rw [hsame, ← hf]
    exact hmem
  · intro hmem
    obtain ⟨f, a, -, rfl, rfl⟩ := (h.mem_iff _ _).1 hmem
    obtain ⟨entry, hentry⟩ : ∃ entry, m.find? (·.1.same (.str f)) = some entry := by
      rw [← Option.isSome_iff_exists, List.find?_isSome]
      exact ⟨_, hmem, Json.same_str_left.2 rfl⟩
    have hsame := List.find?_some hentry
    have hfile : entry.1 = .str f := Json.same_str_right.1 hsame
    have heq := List.inj_on_of_nodup_map h.distinct (List.mem_of_find?_eq_some hentry) hmem hfile
    rw [moduleOf?, hentry, heq]
    rfl

/-- A table gives a file one module. -/
theorem Tabulates.functional (h : m.Tabulates listed) {f a b : String} (ha : listed f a)
    (hb : listed f b) : a = b := by
  have hfound := h.moduleOf?_eq_some_iff.2 ⟨f, a, ha, rfl, rfl⟩
  have hfound' := h.moduleOf?_eq_some_iff.2 ⟨f, b, hb, rfl, rfl⟩
  rw [hfound] at hfound'
  exact Json.str.inj (Option.some.inj hfound')

/-- Tables that give files the modules of one relation have the same entries. -/
theorem Tabulates.perm (h : m.Tabulates listed) (h' : n.Tabulates listed) : m.Perm n := by
  refine (List.perm_ext_iff_of_nodup (h.distinct.of_map _) (h'.distinct.of_map _)).2 ?_
  rintro ⟨file, module⟩
  rw [h.mem_iff, h'.mem_iff]

/-- Tables that give files the modules of one relation are the same. -/
theorem Tabulates.same (h : m.Tabulates listed) (h' : n.Tabulates listed) : m.same n = true := by
  rw [ModuleMap.same, Bool.and_eq_true, beq_iff_eq, List.all_eq_true]
  refine ⟨(h.perm h').length_eq, fun entry hentry => ?_⟩
  obtain ⟨f, a, hlisted, hf, ha⟩ := (h.mem_iff _ _).1 hentry
  dsimp only
  rw [h'.moduleOf?_eq_some_iff.2 ⟨f, a, hlisted, hf, ha⟩, Option.any_some, ha]
  exact Json.same_str_left.2 rfl

/-- They give every file the same module, or none. -/
theorem Tabulates.moduleOf?_eq (h : m.Tabulates listed) (h' : n.Tabulates listed) (file : Json) :
    m.moduleOf? file = n.moduleOf? file :=
  Option.ext fun _ => h.moduleOf?_eq_some_iff.trans h'.moduleOf?_eq_some_iff.symm

end ModuleMap

end SchemaToSwift
