import SchemaToSwift.Proofs.FileTree.Place

/-!
# Routes of paths

The components of a path come down to a `Route`, some levels up and then names down: where they lead
from a location is what the levels leave of it, with the names after it (`placeFrom_eq`). So a path
from a folder stays in it if its route goes up no level, and else only if it comes down the way that
it went up (`prefix_place_join_iff`).
-/

namespace SchemaToSwift

/-- A location below another one. -/
def Below (base loc : Location) : Prop := base <+: loc ∧ loc ≠ base

/-- What is directly in a folder is below what the folder is in, and below the folder itself. -/
theorem below_concat_iff {base loc : Location} {name : String} :
    Below base (loc ++ [name]) ↔ base <+: loc := by
  rw [Below, List.prefix_concat_iff]
  constructor
  · rintro ⟨rfl | h, hne⟩
    · exact absurd rfl hne
    · exact h
  · intro h
    refine ⟨.inr h, ?_⟩
    rintro rfl
    have hlength := h.length_le
    rw [List.length_append, List.length_singleton] at hlength
    omega

namespace FilePath

/-- A way from a location: a number of levels up, and then names down. -/
structure Route where
  up : Nat
  down : List String
deriving Repr, DecidableEq

namespace Route

/-- The route after one more component. -/
def step (r : Route) (part : String) : Route :=
  if part = "." then r
  else if part = ".." then
    match r.down with
    | [] => { r with up := r.up + 1 }
    | _ :: _ => { r with down := r.down.dropLast }
  else { r with down := r.down ++ [nameOf part] }

/-- The route of components. -/
def ofParts (parts : List String) : Route := parts.foldl step ⟨0, []⟩

/-- Where a route leads from a location. -/
def place (r : Route) (base : Location) : Location := base.take (base.length - r.up) ++ r.down

/-- A route goes on as a location does. -/
theorem place_step (r : Route) (base : Location) (part : String) :
    (r.step part).place base = placeFrom (r.place base) [part] := by
  rw [placeFrom, List.foldl_cons, List.foldl_nil, step]
  split
  · rfl
  split
  -- A double dot takes back the last name, and goes up where there is none.
  · cases hdown : r.down with
    | nil =>
      have htake : base.take (base.length - (r.up + 1)) =
          (base.take (base.length - r.up)).dropLast := by
        rw [List.dropLast_eq_take, List.length_take, List.take_take]
        congr 1
        omega
      rw [place, place, hdown, List.append_nil, List.append_nil, ← htake]
    | cons name rest =>
      rw [place, place, hdown, List.dropLast_append_of_ne_nil (List.cons_ne_nil _ _)]
  · rw [place, place, List.append_assoc]

theorem place_foldl (r : Route) (base : Location) (parts : List String) :
    (parts.foldl step r).place base = placeFrom (r.place base) parts := by
  induction parts generalizing r with
  | nil => rfl
  | cons part rest ih =>
    rw [List.foldl_cons, ih, place_step]
    rfl

/-- A route leads back into the location that it starts from if it comes down the way up. -/
theorem prefix_place_iff (r : Route) (base : Location) :
    base <+: r.place base ↔ base.drop (base.length - r.up) <+: r.down := by
  nth_rewrite 1 [← List.take_append_drop (base.length - r.up) base]
  exact List.prefix_append_right_inj _

end Route

/-- Components lead where their route does. -/
theorem placeFrom_eq (base : Location) (parts : List String) :
    placeFrom base parts = (Route.ofParts parts).place base := by
  rw [Route.ofParts, Route.place_foldl, Route.place, Nat.sub_zero, List.take_length,
    List.append_nil]

/-- The path stays in a folder from which it is followed: it comes down all the way that it goes up,
or all the way to the folder if it starts from a root. -/
inductive StaysIn (base : Location) (p : FilePath) : Prop
  | relative (hstart : p.isAbsolute = false)
    (hdown : base.drop (base.length - (Route.ofParts p.parts).up) <+: (Route.ofParts p.parts).down)
  | absolute (hstart : p.isAbsolute = true) (hdown : base <+: (Route.ofParts p.parts).down)

/-- A path that goes up no level stays in every folder. -/
theorem staysIn_of_up_eq_zero {p : FilePath} (hstart : p.isAbsolute = false)
    (hup : (Route.ofParts p.parts).up = 0) (base : Location) : StaysIn base p := by
  refine .relative hstart ?_
  rw [hup, Nat.sub_zero, List.drop_length]
  exact List.nil_prefix

end FilePath

namespace FileTree

/-- The last component of a path leads one level down, unless it is made of dots. -/
theorem place_join_concat (t : FileTree) (folder : FilePath) (start : PathStart)
    (parts : List String) {last : String} (hdot : last ≠ ".") (hup : last ≠ "..") :
    t.place (folder.join ⟨start, parts ++ [last]⟩) =
      t.place (folder.join ⟨start, parts⟩) ++ [FilePath.nameOf last] := by
  have hlast (loc : Location) (parts : List String) : FilePath.placeFrom loc (parts ++ [last]) =
      FilePath.placeFrom loc parts ++ [FilePath.nameOf last] := by
    rw [FilePath.placeFrom, List.foldl_append, List.foldl_cons, List.foldl_nil, if_neg hdot,
      if_neg hup, FilePath.placeFrom]
  unfold FilePath.join FilePath.isAbsolute
  split
  · exact hlast _ _
  · rw [place, place, ← List.append_assoc, hlast]

/-- A path from a folder leads into it if the path stays in it. -/
theorem prefix_place_join_iff (t : FileTree) (folder p : FilePath) :
    t.place folder <+: t.place (folder.join p) ↔ p.StaysIn (t.place folder) := by
  cases hstart : p.isAbsolute with
  | true =>
    have horigin : t.origin p.start = [] := if_neg (by simpa [FilePath.isAbsolute] using hstart)
    have hplace : t.place (folder.join p) = (FilePath.Route.ofParts p.parts).down := by
      rw [FilePath.join, if_pos hstart, place, horigin, FilePath.placeFrom_eq, FilePath.Route.place,
        List.take_nil, List.nil_append]
    rw [hplace]
    refine ⟨.absolute hstart, fun h => ?_⟩
    cases h with
    | relative hstart' =>
      rw [hstart] at hstart'
      cases hstart'
    | absolute _ hdown => exact hdown
  | false =>
    have hplace : t.place (folder.join p) =
        (FilePath.Route.ofParts p.parts).place (t.place folder) := by
      rw [FilePath.join, if_neg (by simp [hstart]), place, FilePath.placeFrom, List.foldl_append,
        ← FilePath.placeFrom_eq]
      rfl
    rw [hplace, FilePath.Route.prefix_place_iff]
    refine ⟨.relative hstart, fun h => ?_⟩
    cases h with
    | relative _ hdown => exact hdown
    | absolute hstart' =>
      rw [hstart] at hstart'
      cases hstart'

end FileTree

end SchemaToSwift
