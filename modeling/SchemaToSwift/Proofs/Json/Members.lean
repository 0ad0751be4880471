import Mathlib.Data.List.Induction
import Mathlib.Data.List.Nodup
import SchemaToSwift.Json.Basic

/-!
# Members of an object

The members of an object have each name once (`ofMembers_spec`), and members with distinct names are
those of the object as they are (`ofMembers_of_nodup`). Members that are put into an object take the
place of those of their names (`override`): the last value of a name counts (`lookup_override`), and
it is the same whether they are put in as they are or as the object that they make up
(`override_ofMembers`).
-/

namespace SchemaToSwift.Json

/-- A new name comes last. -/
theorem insert_of_not_mem {name : String} {v : Json} {ms : List (String × Json)}
    (h : name ∉ ms.map (·.1)) : insert name v ms = ms ++ [(name, v)] := by
  induction ms with
  | nil => rfl
  | cons m ms ih =>
    rw [List.map_cons, List.mem_cons, not_or] at h
    rw [insert, if_neg (Ne.symm h.1), ih h.2, List.cons_append]

/-- Members with distinct names are those of the object. -/
theorem ofMembers_of_nodup {ms : List (String × Json)} (h : (ms.map (·.1)).Nodup) :
    ofMembers ms = ms := by
  suffices hfold : ∀ acc : List (String × Json), ((acc ++ ms).map (·.1)).Nodup →
      ms.foldl (fun acc m => insert m.1 m.2 acc) acc = acc ++ ms from hfold [] h
  intro acc hacc
  induction ms generalizing acc with
  | nil => simp
  | cons m ms ih =>
    have hnew : m.1 ∉ acc.map (·.1) := by
      rw [List.map_append, List.map_cons, List.nodup_append] at hacc
      exact fun hmem => hacc.2.2 _ hmem _ (.head _) rfl
    rw [List.foldl_cons, insert_of_not_mem hnew, ih h.of_cons, List.append_assoc]
    · rfl
    · simpa using hacc

/-- A name is new, or it has been there. -/
theorem map_insert (name : String) (v : Json) (ms : List (String × Json)) :
    (insert name v ms).map (·.1) =
      if name ∈ ms.map (·.1) then ms.map (·.1) else ms.map (·.1) ++ [name] := by
  induction ms with
  | nil => rfl
  | cons m ms ih =>
    obtain ⟨n, w⟩ := m
    by_cases hn : n = name
    · simp [insert, hn]
    · have hname : ¬ name = n := Ne.symm hn
      rw [insert, if_neg hn, List.map_cons, ih, List.map_cons]
      by_cases hmem : name ∈ ms.map (·.1) <;> simp [hmem, hname]

/-- After a member is set, there are this one and those before. -/
theorem mem_insert {name : String} {v : Json} {m : String × Json} {ms : List (String × Json)}
    (h : m ∈ insert name v ms) : m = (name, v) ∨ m ∈ ms := by
  induction ms with
  | nil => exact .inl (List.mem_singleton.1 h)
  | cons m' ms ih =>
    obtain ⟨n, w⟩ := m'
    rw [insert] at h
    split at h
    · next hn =>
      rcases List.mem_cons.1 h with rfl | h
      · exact .inl (by rw [hn])
      · exact .inr (.tail _ h)
    · rcases List.mem_cons.1 h with rfl | h
      · exact .inr (.head _)
      · exact (ih h).imp_right (.tail _)

/-- The object of members has each name once, and no member but those. -/
theorem ofMembers_spec (ms : List (String × Json)) :
    ((ofMembers ms).map (·.1)).Nodup ∧ ∀ m ∈ ofMembers ms, m ∈ ms := by
  suffices hfold : ∀ acc : List (String × Json), (acc.map (·.1)).Nodup →
      ((ms.foldl (fun acc m => insert m.1 m.2 acc) acc).map (·.1)).Nodup ∧
        ∀ m ∈ ms.foldl (fun acc m => insert m.1 m.2 acc) acc, m ∈ acc ++ ms from
    hfold [] List.nodup_nil
  induction ms with
  | nil => exact fun acc hacc => ⟨hacc, fun m hm => by simpa using hm⟩
  | cons m ms ih =>
    intro acc hacc
    have hinsert : ((insert m.1 m.2 acc).map (·.1)).Nodup := by
      rw [map_insert]
      split
      · exact hacc
      · next hnew => exact List.nodup_append.2 ⟨hacc, List.nodup_singleton _, by
          intro a ha b hb
          obtain rfl := List.mem_singleton.1 hb
          exact fun hab => hnew (hab ▸ ha)⟩
    obtain ⟨hnodup, hmem⟩ := ih _ hinsert
    refine ⟨hnodup, fun x hx => ?_⟩
    rcases List.mem_append.1 (hmem x hx) with hx | hx
    · rcases mem_insert hx with rfl | hx
      · exact List.mem_append_right _ (.head _)
      · exact List.mem_append_left _ hx
    · exact List.mem_append_right _ (.tail _ hx)

/-! ## Members put into an object -/

/-- The members of an object with other members put in, one after the other: a member takes the
place of the one of its name, or comes last. -/
def override (base ms : List (String × Json)) : List (String × Json) :=
  ms.foldl (fun acc m => insert m.1 m.2 acc) base

/-- Members that come later override those before. -/
theorem ofMembers_append (xs ys : List (String × Json)) :
    ofMembers (xs ++ ys) = override (ofMembers xs) ys := List.foldl_append

theorem override_concat (base ms : List (String × Json)) (m : String × Json) :
    override base (ms ++ [m]) = insert m.1 m.2 (override base ms) := List.foldl_concat ..

/-- Setting a member changes no other one. -/
theorem lookup_insert (name key : String) (v : Json) (ms : List (String × Json)) :
    (insert name v ms).lookup key = if key = name then some v else ms.lookup key := by
  induction ms with
  | nil =>
    by_cases hkey : key = name
    · simp [insert, hkey]
    · simp [insert, hkey, List.lookup_cons, beq_eq_false_iff_ne.2 hkey]
  | cons m ms ih =>
    obtain ⟨n, w⟩ := m
    rw [insert]
    by_cases hn : n = name
    · subst hn
      by_cases hkey : key = n
      · simp [hkey]
      · simp [hkey, List.lookup_cons, beq_eq_false_iff_ne.2 hkey]
    · rw [if_neg hn, List.lookup_cons, List.lookup_cons, ih]
      by_cases hkey : key = n
      · subst hkey
        simp [hn]
      · simp [beq_eq_false_iff_ne.2 hkey]

/-- The last of the members that are put in counts, and else what was there. -/
theorem lookup_override (base ms : List (String × Json)) (key : String) :
    (override base ms).lookup key = (ms.reverse.lookup key).or (base.lookup key) := by
  induction ms using List.reverseRecOn with
  | nil => simp [override]
  | append_singleton ms m ih =>
    rw [override_concat, lookup_insert, ih, List.reverse_concat, List.lookup_cons]
    by_cases hkey : key = m.1
    · simp [hkey]
    · simp [hkey, beq_eq_false_iff_ne.2 hkey]

/-- The last of the members of a name is the one of the object. -/
theorem lookup_ofMembers_of_last {before after : List (String × Json)} {m : String × Json}
    (h : ∀ n ∈ after, n.1 ≠ m.1) : (ofMembers (before ++ m :: after)).lookup m.1 = some m.2 := by
  have hlast : (before ++ m :: after).reverse.lookup m.1 = some m.2 := by
    refine List.lookup_eq_some_iff.2 ⟨after.reverse, before.reverse, by simp, fun n hn => ?_⟩
    rw [bne_iff_ne]
    exact (h n (List.mem_reverse.1 hn)).symm
  exact (lookup_override [] _ _).trans (by rw [hlast, Option.some_or])

/-- A name that is there gets its value before or after another name is put in. -/
theorem insert_insert_of_mem {name other : String} {v w : Json} {ms : List (String × Json)}
    (hmem : name ∈ ms.map (·.1)) (hne : name ≠ other) :
    insert name v (insert other w ms) = insert other w (insert name v ms) := by
  induction ms with
  | nil => cases hmem
  | cons m ms ih =>
    obtain ⟨n, u⟩ := m
    by_cases hn : n = name
    · subst hn
      simp [insert, hne]
    · have hrest : name ∈ ms.map (·.1) := by simpa [Ne.symm hn] using hmem
      by_cases hother : n = other
      · subst hother
        simp [insert, hn]
      · simp [insert, hn, hother, ih hrest]

/-- Of two values that are set, the later one counts. -/
theorem insert_insert (name : String) (v w : Json) (ms : List (String × Json)) :
    insert name v (insert name w ms) = insert name v ms := by
  induction ms with
  | nil => simp [insert]
  | cons m ms ih =>
    obtain ⟨n, u⟩ := m
    by_cases hn : n = name <;> simp [insert, hn, ih]

/-- A name that is there gets its value before or after members of other names are put in. -/
theorem insert_override {name : String} {v : Json} {base ms : List (String × Json)}
    (hmem : name ∈ base.map (·.1)) (hnew : name ∉ ms.map (·.1)) :
    insert name v (override base ms) = override (insert name v base) ms := by
  induction ms generalizing base with
  | nil => rfl
  | cons m ms ih =>
    rw [List.map_cons, List.mem_cons, not_or] at hnew
    have hmem' : name ∈ (insert m.1 m.2 base).map (·.1) := by
      rw [map_insert]
      split
      · exact hmem
      · exact List.mem_append_left _ hmem
    exact (ih hmem' hnew.2).trans (by rw [insert_insert_of_mem hmem hnew.1]; rfl)

/-- Putting in a member of members with distinct names and then those members. -/
theorem override_insert {base ms : List (String × Json)} (h : (ms.map (·.1)).Nodup) (name : String)
    (v : Json) : override base (insert name v ms) = insert name v (override base ms) := by
  induction ms generalizing base with
  | nil => rfl
  | cons m ms ih =>
    obtain ⟨n, w⟩ := m
    rw [List.map_cons, List.nodup_cons] at h
    by_cases hn : n = name
    · subst hn
      have hmem : n ∈ (insert n w base).map (·.1) := by
        rw [map_insert]
        split
        · next hmem => exact hmem
        · simp
      rw [insert, if_pos rfl]
      change override (insert n v base) ms = insert n v (override (insert n w base) ms)
      rw [insert_override hmem h.1, insert_insert]
    · rw [insert, if_neg hn]
      exact ih h.2

/-- Members are put in as the object that they make up. -/
theorem override_ofMembers (base ms : List (String × Json)) :
    override base (ofMembers ms) = override base ms := by
  induction ms using List.reverseRecOn with
  | nil => rfl
  | append_singleton ms m ih =>
    have hobject : ofMembers (ms ++ [m]) = insert m.1 m.2 (ofMembers ms) := ofMembers_append ms [m]
    rw [hobject, override_insert (ofMembers_spec ms).1, ih, override_concat]

/-- A name has its value among the members that are put in, and else in the object. -/
theorem lookup_override_ofMembers (base ms : List (String × Json)) (key : String) :
    (override base (ofMembers ms)).lookup key =
      ((ofMembers ms).lookup key).or (base.lookup key) := by
  have hobject : ofMembers ms = override [] ms := rfl
  rw [override_ofMembers, hobject, lookup_override, lookup_override, List.lookup_nil,
    Option.or_none]

end SchemaToSwift.Json
