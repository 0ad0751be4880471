import Mathlib.Data.List.Induction
import Mathlib.Data.List.Nodup
import SchemaToSwift.Proofs.Result
import SchemaToSwift.Schema.Decode

/-!
# Comments by path

Keys are the same exactly if their canonical forms are equal, where a truth value or a double that
is a whole number is that integer (`Json.same_iff`). Decoding keeps comments by path: of the paths
that are the same the first one given stays, with the comments that were given for it last
(`Schema.Decode.forall_mem_placed`).
-/

namespace SchemaToSwift

/-! ## Keys -/

namespace Json

/-- The integer that a truth value or a number is equal to, and any other value as it is. -/
def canonical (v : Json) : Json := (v.integral?.map .int).getD v

/-- A value that is an integer is taken as this integer. -/
theorem canonical_eq_int {v : Json} {n : Int} (h : v.integral? = some n) :
    v.canonical = .int n := by
  rw [canonical, h]
  rfl

/-- Any other value is taken as it is. -/
theorem canonical_eq_self {v : Json} (h : v.integral? = none) : v.canonical = v := by
  rw [canonical, h]
  rfl

/-- What is equal to no integer is not one. -/
theorem ne_int {v : Json} (h : v.integral? = none) (n : Int) : v ≠ .int n := by
  rintro rfl
  cases h

/-- Keys are the same if they are one integer, or one value. -/
theorem same_iff {a b : Json} (ha : a.isKey = true) (hb : b.isKey = true) :
    same a b = true ↔ a.canonical = b.canonical := by
  unfold same
  split
  · simp
  · simp [canonical, integral?]
  · cases ha
  · cases ha
  · simp
  · simp [canonical, integral?, Double.toInt?]
  · split
    · next m n hm hn => rw [canonical_eq_int hm, canonical_eq_int hn, beq_iff_eq, Json.int.injEq]
    · next hm hn =>
      rw [canonical_eq_self hm, canonical_eq_self hn]
      cases a <;> cases b <;> simp_all [integral?, isKey]
    · next hm hn =>
      -- Only one of them is equal to an integer.
      refine iff_of_false Bool.false_ne_true fun heq => ?_
      cases ha' : a.integral? with
      | none =>
        rw [canonical_eq_self ha'] at heq
        cases hb' : b.integral? with
        | none => exact hn ha' hb'
        | some n => exact ne_int ha' n (heq.trans (canonical_eq_int hb'))
      | some m =>
        rw [canonical_eq_int ha'] at heq
        cases hb' : b.integral? with
        | none => exact ne_int hb' m ((canonical_eq_self hb').symm.trans heq.symm)
        | some n => exact hm m n ha' hb'

/-- Lists of keys are the same if the keys are, one by one. -/
theorem sameItems_iff {vs ws : List Json} (hv : ∀ v ∈ vs, v.isKey = true)
    (hw : ∀ w ∈ ws, w.isKey = true) :
    sameItems vs ws = true ↔ vs.map canonical = ws.map canonical := by
  induction vs generalizing ws with
  | nil => cases ws <;> simp [sameItems]
  | cons v vs ih =>
    cases ws with
    | nil => simp [sameItems]
    | cons w ws =>
      obtain ⟨hv, hvs⟩ := List.forall_mem_cons.1 hv
      obtain ⟨hw, hws⟩ := List.forall_mem_cons.1 hw
      rw [sameItems, Bool.and_eq_true, same_iff hv hw, ih hvs hws, List.map_cons, List.map_cons,
        List.cons.injEq]

end Json

/-! ## Tables of comments -/

namespace Schema.Decode

/-- Comments and their path. -/
abbrev Place := List Json × Comments

/-- The elements of the path are keys. -/
def Place.Keyed (x : Place) : Prop := ∀ v ∈ x.1, v.isKey = true

/-- What a path is found by. -/
def Place.key (x : Place) : List Json := x.1.map Json.canonical

/-- Whether the place has a path. -/
def Place.isAt (path : List Json) (x : Place) : Bool := Json.sameItems x.1 path

/-- Of the places with one path the first one, with the comments of the last one. -/
def placed (places : List Place) : List Place := places.foldl (fun acc x => putComments x acc) []

variable {x y e : Place} {acc places : List Place}

/-- Comments that come later take the place of those before at the same path. -/
theorem placed_concat (places : List Place) (x : Place) :
    placed (places ++ [x]) = putComments x (placed places) := List.foldl_concat ..

/-- Paths are the same exactly if their keys are. -/
theorem isAt_iff (hx : x.Keyed) (hy : y.Keyed) : x.isAt y.1 = true ↔ x.key = y.key :=
  Json.sameItems_iff hx hy

theorem isAt_congr (hx : x.Keyed) (hy : y.Keyed) (he : e.Keyed) (h : x.isAt y.1 = true) :
    x.isAt e.1 = y.isAt e.1 := by
  rw [Bool.eq_iff_iff, isAt_iff hx he, isAt_iff hy he, (isAt_iff hx hy).1 h]

/-- Comments that are put at a path are found there, and the others are found as before. -/
theorem find?_putComments (hacc : ∀ y ∈ acc, y.Keyed) (hx : x.Keyed) (he : e.Keyed) :
    (putComments x acc).find? (Place.isAt e.1) =
      if x.isAt e.1 then some (((acc.find? (Place.isAt e.1)).map (·.1)).getD x.1, x.2)
      else acc.find? (Place.isAt e.1) := by
  induction acc with
  | nil => simp [putComments, List.find?_singleton]
  | cons y rest ih =>
    obtain ⟨hy, hrest⟩ := List.forall_mem_cons.1 hacc
    rw [putComments]
    split
    · next hyx =>
      have hsame : y.isAt e.1 = x.isAt e.1 := isAt_congr hy hx he hyx
      have hput : Place.isAt e.1 (y.1, x.2) = x.isAt e.1 := hsame
      rw [List.find?_cons, List.find?_cons, hput, hsame]
      cases x.isAt e.1 <;> rfl
    · next hyx =>
      rw [List.find?_cons, List.find?_cons, ih hrest]
      cases hye : y.isAt e.1 with
      | false => rfl
      | true =>
        -- Only one of them has the path, as they are not the same.
        have hxe : x.isAt e.1 = false := by
          rw [Bool.eq_false_iff]
          intro hxe
          have hkeys := ((isAt_iff hy he).1 hye).trans ((isAt_iff hx he).1 hxe).symm
          exact hyx ((isAt_iff hy hx).2 hkeys)
        rw [hxe]
        rfl

/-- The paths stay as they are, or there is one more. -/
theorem map_key_putComments (hacc : ∀ y ∈ acc, y.Keyed) (hx : x.Keyed) :
    (putComments x acc).map Place.key = acc.map Place.key ∨
      x.key ∉ acc.map Place.key ∧
        (putComments x acc).map Place.key = acc.map Place.key ++ [x.key] := by
  induction acc with
  | nil => exact .inr ⟨nofun, rfl⟩
  | cons y rest ih =>
    obtain ⟨hy, hrest⟩ := List.forall_mem_cons.1 hacc
    rw [putComments]
    split
    · exact .inl rfl
    · next hyx =>
      have hne : x.key ≠ y.key := fun h => hyx ((isAt_iff hy hx).2 h.symm)
      obtain hkeys | ⟨hnew, hkeys⟩ := ih hrest
      · exact .inl (by rw [List.map_cons, List.map_cons, hkeys])
      · refine .inr ⟨?_, by rw [List.map_cons, List.map_cons, hkeys, List.cons_append]⟩
        simpa using ⟨hne, by simpa using hnew⟩

/-- What is put has a path that is there already or is given. -/
theorem path_of_mem_putComments (h : e ∈ putComments x acc) :
    e.1 = x.1 ∨ ∃ y ∈ acc, e.1 = y.1 := by
  induction acc with
  | nil => exact .inl (congrArg Prod.fst (List.mem_singleton.1 h))
  | cons y rest ih =>
    rw [putComments] at h
    split at h
    · rcases List.mem_cons.1 h with rfl | h
      · exact .inr ⟨y, .head _, rfl⟩
      · exact .inr ⟨e, .tail _ h, rfl⟩
    · rcases List.mem_cons.1 h with rfl | h
      · exact .inr ⟨e, .head _, rfl⟩
      · exact (ih h).imp_right fun ⟨z, hz, hpath⟩ => ⟨z, .tail _ hz, hpath⟩

/-- All places that are kept have keys. -/
theorem keyed_placed (h : ∀ x ∈ places, x.Keyed) : ∀ e ∈ placed places, e.Keyed := by
  induction places using List.reverseRecOn with
  | nil => exact nofun
  | append_singleton places x ih =>
    obtain ⟨hplaces, hx⟩ := List.forall_mem_append.1 h
    rw [placed_concat]
    intro e he
    obtain hpath | ⟨y, hy, hpath⟩ := path_of_mem_putComments he
    · have hkeyed := List.forall_mem_singleton.1 hx
      rwa [Place.Keyed, hpath]
    · have hkeyed := ih hplaces y hy
      rwa [Place.Keyed, hpath]

/-- A path occurs once. -/
theorem nodup_keys_placed (h : ∀ x ∈ places, x.Keyed) :
    ((placed places).map Place.key).Nodup := by
  induction places using List.reverseRecOn with
  | nil => exact List.nodup_nil
  | append_singleton places x ih =>
    obtain ⟨hplaces, hx⟩ := List.forall_mem_append.1 h
    have hput := map_key_putComments (keyed_placed hplaces) (List.forall_mem_singleton.1 hx)
    rw [placed_concat]
    obtain hkeys | ⟨hnew, hkeys⟩ := hput <;> rw [hkeys]
    · exact ih hplaces
    · exact List.nodup_append.2 ⟨ih hplaces, List.nodup_singleton _, by
        rintro key hkey _ hx rfl
        exact hnew (List.mem_singleton.1 hx ▸ hkey)⟩

/-- At a path are the path that is given first and the comments that are given last. -/
theorem find?_placed (h : ∀ x ∈ places, x.Keyed) (he : e.Keyed) :
    (placed places).find? (Place.isAt e.1) = (places.find? (Place.isAt e.1)).bind fun first =>
      (places.reverse.find? (Place.isAt e.1)).map fun last => (first.1, last.2) := by
  induction places using List.reverseRecOn with
  | nil => rfl
  | append_singleton places x ih =>
    obtain ⟨hplaces, hx⟩ := List.forall_mem_append.1 h
    rw [placed_concat,
      find?_putComments (keyed_placed hplaces) (List.forall_mem_singleton.1 hx) he, ih hplaces,
      List.find?_append, List.find?_singleton, List.reverse_append, List.reverse_singleton,
      List.singleton_append, List.find?_cons]
    cases x.isAt e.1 with
    | false => simp
    | true =>
      cases hfirst : places.find? (Place.isAt e.1) with
      | none => simp
      | some first =>
        have hlast : (places.reverse.find? (Place.isAt e.1)).isSome := by
          rw [List.find?_isSome]
          exact ⟨first, List.mem_reverse.2 (List.mem_of_find?_eq_some hfirst),
            List.find?_some hfirst⟩
        obtain ⟨last, hlast⟩ := Option.isSome_iff_exists.1 hlast
        simp [hlast]

/-- What is kept is found at its own path. -/
theorem find?_placed_self (h : ∀ x ∈ places, x.Keyed) (he : e ∈ placed places) :
    (placed places).find? (Place.isAt e.1) = some e := by
  have hkeyed := keyed_placed h
  obtain ⟨found, hfound⟩ : ∃ found, (placed places).find? (Place.isAt e.1) = some found := by
    rw [← Option.isSome_iff_exists, List.find?_isSome]
    exact ⟨e, he, (isAt_iff (hkeyed e he) (hkeyed e he)).2 rfl⟩
  have hmem := List.mem_of_find?_eq_some hfound
  have hkey := (isAt_iff (hkeyed found hmem) (hkeyed e he)).1 (List.find?_some hfound)
  rw [hfound, List.inj_on_of_nodup_map (nodup_keys_placed h) hmem he hkey]

/-- What holds of all paths and comments of the table holds, for each path that is given, of the
path as it is given first and of the comments that are given for it last. -/
theorem forall_mem_placed (h : ∀ x ∈ places, x.Keyed) {P : List Json → Prop}
    {Q : Comments → Prop} :
    (∀ e ∈ placed places, P e.1 ∧ Q e.2) ↔ ∀ x ∈ places,
      (∀ first ∈ places.find? (Place.isAt x.1), P first.1) ∧
        ∀ last ∈ places.reverse.find? (Place.isAt x.1), Q last.2 := by
  constructor
  · intro hall x hx
    have hfind := find?_placed h (h x hx)
    have hself : x.isAt x.1 = true := (isAt_iff (h x hx) (h x hx)).2 rfl
    obtain ⟨first, hfirst⟩ : ∃ first, places.find? (Place.isAt x.1) = some first := by
      rw [← Option.isSome_iff_exists, List.find?_isSome]
      exact ⟨x, hx, hself⟩
    obtain ⟨last, hlast⟩ : ∃ last, places.reverse.find? (Place.isAt x.1) = some last := by
      rw [← Option.isSome_iff_exists, List.find?_isSome]
      exact ⟨x, List.mem_reverse.2 hx, hself⟩
    rw [hfirst, hlast] at hfind
    obtain ⟨hpath, hcomments⟩ := hall _ (List.mem_of_find?_eq_some hfind)
    simpa [hfirst, hlast] using ⟨hpath, hcomments⟩
  · intro hall e he
    have hfind := find?_placed h (keyed_placed h e he)
    rw [find?_placed_self h he, eq_comm, Option.bind_eq_some_iff] at hfind
    obtain ⟨first, hfirst, hlast⟩ := hfind
    obtain ⟨last, hlast, rfl⟩ := Option.map_eq_some_iff.1 hlast
    -- The table is asked for the path as it is given first.
    have hmem := List.mem_of_find?_eq_some hfirst
    obtain ⟨hpath, hcomments⟩ := hall first hmem
    exact ⟨hpath first hfirst, hcomments last hlast⟩

end Schema.Decode

end SchemaToSwift
