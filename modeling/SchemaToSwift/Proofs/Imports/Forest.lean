import SchemaToSwift.Proofs.Schema.Typed

/-!
# Forests of dependencies

The dependencies of a file make up a forest, in which a dependency stands below the ones that lead
to it (`Dependency.StandsIn`). A walk through the forest comes to each of them with a flag that says
whether it is made visible further: it is if the dependency itself or one above it is public
(`mem_visits_iff`). What the walk comes to does not change when dependencies are put in another
order or occur more than once, at any level (`Rearranged.mem_visits_iff`).
-/

namespace SchemaToSwift.Dependency

/-- A dependency of a forest, below those that lead to it, from the outermost one on. -/
inductive StandsIn : List Dependency → List Dependency → Dependency → Prop
  | direct {forest : List Dependency} {d : Dependency} (hd : d ∈ forest) : StandsIn forest [] d
  | through {forest above : List Dependency} {a d : Dependency} (ha : a ∈ forest)
      (hd : StandsIn a.reexports above d) : StandsIn forest (a :: above) d

/-- In a forest with a first tree something stands at its root, below its root, or in the rest. -/
theorem standsIn_cons_iff {a d : Dependency} {forest above : List Dependency} :
    StandsIn (a :: forest) above d ↔
      (above = [] ∧ d = a ∨ ∃ inner, above = a :: inner ∧ StandsIn a.reexports inner d) ∨
        StandsIn forest above d := by
  constructor
  · intro h
    cases h with
    | direct hd =>
      rcases List.mem_cons.1 hd with rfl | hd
      · exact .inl (.inl ⟨rfl, rfl⟩)
      · exact .inr (.direct hd)
    | through hb hd =>
      rcases List.mem_cons.1 hb with rfl | hb
      · exact .inl (.inr ⟨_, rfl, hd⟩)
      · exact .inr (.through hb hd)
  · rintro ((⟨rfl, rfl⟩ | ⟨inner, rfl, hd⟩) | h)
    · exact .direct (.head _)
    · exact .through (.head _) hd
    · cases h with
      | direct hd => exact .direct (.tail _ hd)
      | through hb hd => exact .through (.tail _ hb) hd

/-! ## The walk -/

/-- A dependency that a walk comes to: its name, and whether it is made visible further. -/
abbrev Visit := Json × Bool

mutual

/-- The dependency and all that it makes visible, on a walk that has come through a public
dependency or not. -/
def visit (through : Bool) : Dependency → List Visit
  | ⟨name, isPublic, reexports⟩ =>
    (name, isPublic || through) :: visits (isPublic || through) reexports

/-- The dependencies of a list and all that they make visible. -/
def visits (through : Bool) : List Dependency → List Visit
  | [] => []
  | d :: ds => visit through d ++ visits through ds

end

/-- What the walk notes of a dependency below others. -/
def visitAt (through : Bool) (above : List Dependency) (d : Dependency) : Visit :=
  (d.name, (d :: above).any (·.isPublic) || through)

/-- What is visible through a dependency depends on whether this is public. -/
theorem visitAt_below (through : Bool) (a : Dependency) (above : List Dependency)
    (d : Dependency) :
    visitAt (a.isPublic || through) above d = visitAt through (a :: above) d := by
  simp [visitAt, Bool.or_assoc, Bool.or_left_comm]

mutual

/-- A walk through a tree comes to its root and to what stands below it. -/
theorem mem_visit_iff {v : Visit} : ∀ {through : Bool} {d : Dependency},
    v ∈ d.visit through ↔ v = visitAt through [] d ∨
      ∃ above e, StandsIn d.reexports above e ∧ v = visitAt through (d :: above) e
  | through, ⟨name, isPublic, reexports⟩ => by
    rw [visit, List.mem_cons, mem_visits_iff]
    refine or_congr (by simp [visitAt]) (exists₂_congr fun above e => ?_)
    rw [← visitAt_below]

/-- A walk comes to what stands in the forest. -/
theorem mem_visits_iff {v : Visit} : ∀ {through : Bool} {forest : List Dependency},
    v ∈ visits through forest ↔
      ∃ above d, StandsIn forest above d ∧ v = visitAt through above d
  | through, [] => by
    refine iff_of_false (by simp [visits]) ?_
    rintro ⟨above, d, h, -⟩
    cases h with
    | direct hd | through hd => cases hd
  | through, a :: forest => by
    rw [visits, List.mem_append, mem_visit_iff, mem_visits_iff]
    simp only [standsIn_cons_iff]
    constructor
    · rintro ((rfl | ⟨inner, e, he, rfl⟩) | ⟨above, d, h, rfl⟩)
      · exact ⟨[], a, .inl (.inl ⟨rfl, rfl⟩), rfl⟩
      · exact ⟨a :: inner, e, .inl (.inr ⟨inner, rfl, he⟩), rfl⟩
      · exact ⟨above, d, .inr h, rfl⟩
    · rintro ⟨above, d, (⟨rfl, rfl⟩ | ⟨inner, rfl, he⟩) | h, rfl⟩
      · exact .inl (.inl rfl)
      · exact .inl (.inr ⟨inner, d, he, rfl⟩)
      · exact .inr ⟨above, d, h, rfl⟩

end

/-- A file is visited with something exactly if it stands in the forest so. -/
theorem exists_visits_iff {P : Visit → Prop} {through : Bool} {forest : List Dependency} :
    (∃ v ∈ visits through forest, P v) ↔
      ∃ above d, StandsIn forest above d ∧ P (visitAt through above d) := by
  simp only [mem_visits_iff]
  constructor
  · rintro ⟨v, ⟨above, d, hd, rfl⟩, hv⟩
    exact ⟨above, d, hd, hv⟩
  · rintro ⟨above, d, hd, hv⟩
    exact ⟨_, ⟨above, d, hd, rfl⟩, hv⟩

mutual

/-- A walk comes to each dependency of a tree once, in order. -/
theorem map_fst_visit : ∀ (through : Bool) (d : Dependency),
    (d.visit through).map (·.1) = d.subtree.map (·.name)
  | through, ⟨name, isPublic, reexports⟩ => by
    rw [visit, subtree, List.map_cons, List.map_cons, map_fst_visits]

/-- Each dependency is visited, in the order in which they stand. -/
theorem map_fst_visits : ∀ (through : Bool) (forest : List Dependency),
    (visits through forest).map (·.1) = (subtrees forest).map (·.name)
  | _, [] => rfl
  | through, d :: ds => by
    rw [visits, subtrees, List.map_append, List.map_append, map_fst_visit, map_fst_visits]

end

/-- What holds of the names of all dependencies holds of those that a walk comes to. -/
theorem forall_visits_iff {P : Json → Prop} {through : Bool} {forest : List Dependency} :
    (∀ v ∈ visits through forest, P v.1) ↔ ∀ d ∈ subtrees forest, P d.name := by
  have hvisits : (∀ v ∈ visits through forest, P v.1) ↔
      ∀ name ∈ (visits through forest).map (·.1), P name := List.forall_mem_map.symm
  rw [hvisits, map_fst_visits, List.forall_mem_map]

/-! ## Other orders -/

/-- Forests that differ in the order of dependencies and in how often they occur, at any level. -/
inductive Rearranged : List Dependency → List Dependency → Prop
  | refl (forest : List Dependency) : Rearranged forest forest
  | swap (a b : Dependency) (rest : List Dependency) : Rearranged (a :: b :: rest) (b :: a :: rest)
  | twice (a : Dependency) (rest : List Dependency) : Rearranged (a :: rest) (a :: a :: rest)
  | cons (a : Dependency) {rest rest' : List Dependency} (h : Rearranged rest rest') :
      Rearranged (a :: rest) (a :: rest')
  | inside (name : Json) (isPublic : Bool) {inner inner' : List Dependency}
      (h : Rearranged inner inner') (rest : List Dependency) :
      Rearranged (⟨name, isPublic, inner⟩ :: rest) (⟨name, isPublic, inner'⟩ :: rest)
  | symm {forest forest' : List Dependency} (h : Rearranged forest forest') :
      Rearranged forest' forest
  | trans {forest forest' forest'' : List Dependency} (h : Rearranged forest forest')
      (h' : Rearranged forest' forest'') : Rearranged forest forest''

/-- A permutation puts dependencies in another order. -/
theorem Rearranged.of_perm {forest forest' : List Dependency} (h : forest.Perm forest') :
    Rearranged forest forest' := by
  induction h with
  | nil => exact .refl []
  | cons a _ ih => exact .cons a ih
  | swap a b rest => exact .swap b a rest
  | trans _ _ ih ih' => exact .trans ih ih'

/-- A walk comes to the same dependencies whatever their order is and however often they occur. -/
theorem Rearranged.mem_visits_iff {forest forest' : List Dependency}
    (h : Rearranged forest forest') {v : Visit} :
    ∀ through, v ∈ visits through forest ↔ v ∈ visits through forest' := by
  induction h with
  | refl forest => exact fun _ => .rfl
  | swap a b rest =>
    intro through
    simp only [visits, List.mem_append]
    exact or_left_comm
  | twice a rest =>
    intro through
    simp only [visits, List.mem_append]
    exact (or_self_left).symm
  | cons a _ ih =>
    intro through
    simp only [visits, List.mem_append, ih through]
  | inside name isPublic _ rest ih =>
    intro through
    simp only [visits, visit, List.mem_append, List.mem_cons, ih (isPublic || through)]
  | symm _ ih => exact fun through => (ih through).symm
  | trans _ _ ih ih' => exact fun through => (ih through).trans (ih' through)

end SchemaToSwift.Dependency
