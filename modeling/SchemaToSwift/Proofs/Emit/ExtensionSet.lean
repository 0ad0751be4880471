import Mathlib.Data.List.TakeWhile
import SchemaToSwift.Proofs.Emit.Declaration
import SchemaToSwift.Proofs.Emit.Extension
import SchemaToSwift.Proofs.FirstOccurrence

/-!
# What an extension set holds

Whatever is added to an extension set in whatever goes, it holds the first occurrence of each full
name in all that was added (`ExtensionSet.entries_addAll`). Planning a message adds its extensions
and then those of the messages nested in it, in order of declaration
(`MessagePlan.entries_of_makeAll`).
-/

namespace SchemaToSwift

/-- Whether two extensions have the same full name. -/
def ExtensionField.sameName (x y : ExtensionField) : Bool := x.fullName.same y.fullName

namespace ExtensionSet

variable (set : ExtensionSet)

/-- The extensions up to one whose full name cannot be a key. -/
def keyed (xs : List ExtensionField) : List ExtensionField := xs.takeWhile (·.fullName.isKey)

/-- The set after extensions have been added in several goes, whether or not one of them was
stopped. -/
def addAll (goes : List (List ExtensionField)) : ExtensionSet :=
  goes.foldl (fun set xs => (set.add xs).1) set

/-- An extension is added unless one of the same name is there. -/
theorem entries_insert (x : ExtensionField) :
    (set.insert x).entries = pushNew ExtensionField.sameName set.entries x := by
  unfold insert pushNew ExtensionField.sameName
  split <;> rfl

/-- Extensions are inserted one after the other until one cannot be a key. -/
theorem entries_add : ∀ (xs : List ExtensionField) (set : ExtensionSet),
    (set.add xs).1.entries = (keyed xs).foldl (pushNew ExtensionField.sameName) set.entries
  | [], set => by rw [add]; rfl
  | x :: rest, set => by
    rw [add, keyed]
    by_cases hx : x.fullName.isKey = true
    · rw [if_pos hx, List.takeWhile_cons, if_pos hx, List.foldl_cons, entries_add rest,
        entries_insert]
      rfl
    · rw [if_neg hx, List.takeWhile_cons, if_neg hx]
      rfl

/-- All extensions are added exactly if all can be keys. -/
theorem add_ok_iff {xs : List ExtensionField} : ∀ {set : ExtensionSet},
    (set.add xs).2 = .ok () ↔ ∀ x ∈ xs, x.fullName.isKey = true := by
  induction xs with
  | nil => simp [add]
  | cons x rest ih =>
    intro set
    rw [add]
    by_cases hx : x.fullName.isKey = true
    · rw [if_pos hx, ih, List.forall_mem_cons]
      exact (and_iff_right hx).symm
    · rw [if_neg hx]
      exact iff_of_false (by simp) fun h => hx (h x (.head _))

theorem keyed_of_forall {xs : List ExtensionField} (h : ∀ x ∈ xs, x.fullName.isKey = true) :
    keyed xs = xs := List.takeWhile_eq_self_iff.2 h

/-- So are several, one after the other. -/
theorem entries_add_of_ok {set set' : ExtensionSet} {xs : List ExtensionField}
    (h : set.add xs = (set', .ok ())) :
    set'.entries = xs.foldl (pushNew ExtensionField.sameName) set.entries := by
  have hkeys := add_ok_iff.1 (congrArg Prod.snd h)
  have hentries := entries_add xs set
  rwa [h, keyed_of_forall hkeys] at hentries

/-- What a set holds after any goes of adding to it. -/
theorem foldl_addAll (goes : List (List ExtensionField)) : ∀ set : ExtensionSet,
    (set.addAll goes).entries =
      (goes.flatMap keyed).foldl (pushNew ExtensionField.sameName) set.entries := by
  induction goes with
  | nil => exact fun set => rfl
  | cons xs rest ih =>
    intro set
    rw [addAll, List.foldl_cons, List.flatMap_cons, List.foldl_append, ← entries_add xs set]
    exact ih _

/-- A set holds the first occurrences in all that was added to it. -/
theorem entries_addAll (goes : List (List ExtensionField)) :
    (empty.addAll goes).entries =
      firstOccurrences ExtensionField.sameName (goes.flatMap keyed) := by
  rw [foldl_addAll]
  exact foldl_pushNew_nil _ _

end ExtensionSet

/-! ## The set of a file -/

namespace MessagePlan

variable {t : NameTable} {shorten : Bool}

mutual

/-- Planning a message adds its extensions and those of the messages nested in it. -/
theorem entries_of_make : ∀ {m : MessageType} {set set' : ExtensionSet} {plan : MessagePlan},
    make t shorten m set = (set', .ok plan) →
      set'.entries = (m.subtree.flatMap (·.extensions)).foldl (pushNew ExtensionField.sameName)
        set.entries
  | ⟨name, fullName, fields, messages, enums, extensions⟩, set, set', plan, h => by
    obtain ⟨-, -, plans, set₁, -, -, hadd, hmessages, -⟩ := make_eq_ok h
    rw [entries_of_makeAll hmessages, ExtensionSet.entries_add_of_ok hadd, MessageType.subtree,
      List.flatMap_cons, List.foldl_append]

/-- Planning messages adds their extensions and those of the messages nested in them. -/
theorem entries_of_makeAll : ∀ {ms : List MessageType} {set set' : ExtensionSet}
    {plans : List MessagePlan}, makeAll t shorten ms set = (set', .ok plans) →
      set'.entries = ((MessageType.subtrees ms).flatMap (·.extensions)).foldl
        (pushNew ExtensionField.sameName) set.entries
  | [], set, set', plans, h => by
    rw [makeAll] at h
    cases h
    rfl
  | m :: ms, set, set', plans, h => by
    obtain ⟨plan, rest, set₁, hplan, hrest, -⟩ := makeAll_cons_eq_ok h
    rw [entries_of_makeAll hrest, entries_of_make hplan, MessageType.subtrees, List.flatMap_append,
      List.foldl_append]

end

end MessagePlan

/-- The extensions of a file without those whose full name an earlier one has. -/
def Schema.distinctExtensions (f : Schema) : List ExtensionField :=
  firstOccurrences ExtensionField.sameName f.allExtensions

end SchemaToSwift
