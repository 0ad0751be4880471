import SchemaToSwift.Proofs.Json.Members
import SchemaToSwift.Proofs.Settings.Precedence
import SchemaToSwift.Proofs.Text.Split

/-!
# Parameter strings and updates

A parameter string sets each key once (`Parameter.parse_sets`), and after another one, with a comma
between them, it sets what the other one sets with its own settings put in
(`Parameter.parse_append`). The keys of parameters write one setting each. So an update of what
counts in the end comes to an update of everything in order (`Settings.update_ofMembers`).
-/

namespace SchemaToSwift

/-! ## What a parameter string sets -/

namespace Parameter

/-- A chunk sets a text, or the patterns of files, under the key of a parameter. -/
theorem chunk_sets {cs : List Char} {key : String} {value : Json}
    (h : chunk cs = .ok (some (key, value))) : key ∈ keys.map (·.2) ∧
      ((∃ s, value = .str s) ∨
        key = "shorten_type_naming_files" ∧ ∃ items, value = .arr items) := by
  unfold chunk at h
  split at h
  · cases h
  · dsimp only at h
    split at h
    · next form _ =>
      obtain ⟨on, -, h⟩ := Result.bind_eq_ok_iff.1 h
      split at h
      · cases h
        exact ⟨by simp [keys, Choice.importForm], .inl ⟨_, rfl⟩⟩
      · cases h
    · split at h
      · cases h
        exact ⟨by simp [keys], .inr ⟨rfl, _, rfl⟩⟩
      · next hlookup =>
        cases h
        obtain ⟨before, after, hkeys, -⟩ := List.lookup_eq_some_iff.1 hlookup
        rw [hkeys]
        exact ⟨by simp, .inl ⟨_, rfl⟩⟩
      · cases h

/-- A parameter string sets each key once. -/
theorem parse_sets {s : String} {pairs : List (String × Json)} (h : parse s = .ok pairs) :
    (pairs.map (·.1)).Nodup ∧ ∀ p ∈ pairs, p.1 ∈ keys.map (·.2) ∧
      ((∃ text, p.2 = .str text) ∨
        p.1 = "shorten_type_naming_files" ∧ ∃ items, p.2 = .arr items) := by
  obtain ⟨chunks, hchunks, h⟩ := Result.bind_eq_ok_iff.1 h
  cases h
  obtain ⟨hnodup, hsubset⟩ := Json.ofMembers_spec (chunks.filterMap id)
  refine ⟨hnodup, fun p hp => ?_⟩
  have hmem := hsubset p hp
  rw [List.mem_filterMap] at hmem
  obtain ⟨_, hmem, rfl⟩ := hmem
  obtain ⟨cs, -, hchunk⟩ := Result.exists_of_mem_mapM hchunks hmem
  exact chunk_sets hchunk

/-- A parameter string after another one sets what the other one sets, with its own settings put
in. -/
theorem parse_append (a b : String) : parse (a ++ "," ++ b) = do
    let x ← parse a
    let y ← parse b
    return Json.override x y := by
  have hchars : (a ++ "," ++ b).toList = a.toList ++ ',' :: b.toList := by simp
  simp only [parse, hchars, Text.splitAt_append_cons, List.mapM_append]
  cases (Text.splitAt ',' a.toList).mapM chunk with
  | error e => rfl
  | ok xs =>
    cases (Text.splitAt ',' b.toList).mapM chunk with
    | error e => rfl
    | ok ys =>
      simp only [Result.bind_ok, Result.pure_eq, List.filterMap_append, Json.ofMembers_append,
        Json.override_ofMembers]

/-- What is put in is what counts. -/
theorem lookup_override_of_parse {b : String} {y : List (String × Json)} (h : parse b = .ok y)
    (x : List (String × Json)) (key : String) :
    (Json.override x y).lookup key = (y.lookup key).or (x.lookup key) := by
  rw [← Json.ofMembers_of_nodup (parse_sets h).1]
  exact Json.lookup_override_ofMembers x y key

end Parameter

/-! ## Updates -/

namespace Settings

variable {tree : FileTree}

theorem ext_get {s t : Settings} (h : ∀ x : Setting, s.get x = t.get x) : s = t := by
  obtain ⟨naming, importForm, access, profile, modules, shortened, runtimeModule⟩ := s
  obtain ⟨naming', importForm', access', profile', modules', shortened', runtimeModule'⟩ := t
  obtain rfl : naming = naming' := h .naming
  obtain rfl : importForm = importForm' := h .importForm
  obtain rfl : access = access' := h .access
  obtain rfl : profile = profile' := h .profile
  obtain rfl : modules = modules' := h .modules
  obtain rfl : shortened = shortened' := h .shortened
  obtain rfl : runtimeModule = runtimeModule' := h .runtimeModule
  rfl

/-- An update reads the pairs and applies what they ask for. -/
theorem update_eq (tree : FileTree) (pairs : List (String × Json)) (base : Settings) :
    update tree pairs base =
      (pairs.mapM fun p => readPair tree p.1 p.2).map (·.foldl apply base) := by
  rw [update, updateIn_eq rfl]
  rfl

theorem update_eq_ok_iff {pairs : List (String × Json)} {base s : Settings} :
    update tree pairs base = .ok s ↔ ∃ updates,
      (pairs.mapM fun p => readPair tree p.1 p.2) = .ok updates ∧ updates.foldl apply base = s := by
  rw [update_eq]
  exact Result.map_eq_ok_iff

/-- Pairs after others update what the others left. -/
theorem update_append (tree : FileTree) (x y : List (String × Json)) (base : Settings) :
    update tree (x ++ y) base = update tree x base >>= fun s => update tree y s := by
  simp only [update_eq, List.mapM_append]
  cases (x.mapM fun p => readPair tree p.1 p.2) with
  | error e => rfl
  | ok updates =>
    cases (y.mapM fun p => readPair tree p.1 p.2) with
    | error e => rfl
    | ok later => simp [Except.map, List.foldl_append]

/-- Pair after pair. -/
theorem update_eq_foldlM (tree : FileTree) (pairs : List (String × Json)) (base : Settings) :
    update tree pairs base = pairs.foldlM (fun s p => update tree [p] s) base := by
  induction pairs generalizing base with
  | nil => rfl
  | cons p rest ih =>
    rw [List.foldlM_cons, ← List.singleton_append, update_append]
    simp only [ih]

/-- A pair with the key of a parameter that names a file of modules if it has that key. -/
def SetsParameter (p : String × Json) : Prop :=
  p.1 ∈ Parameter.keys.map (·.2) ∧ (p.1 = "module_mappings_file" → p.2.truthy = true)

/-- Such pairs write the same setting exactly if they have the same key. -/
theorem SetsParameter.writtenBy_iff {p q : String × Json} (hp : SetsParameter p)
    (hq : SetsParameter q) {x : Setting} (h : x.WrittenBy p) : x.WrittenBy q ↔ q.1 = p.1 := by
  have hmodules (r : String × Json) (hr : SetsParameter r) :
      r.1 ≠ "proto_to_module_mappings" := by
    rintro heq
    have hkey := hr.1
    rw [heq] at hkey
    exact absurd hkey (by decide)
  cases x with
  | modules =>
    have hkey := h.resolve_left (hmodules p hp)
    rw [hkey.1]
    exact ⟨fun hwritten => (hwritten.resolve_left (hmodules q hq)).1,
      fun hsame => .inr ⟨hsame, hq.2 hsame⟩⟩
  | _ =>
    have hkey : p.1 = _ := h
    rw [hkey]
    exact .rfl

/-- Of the elements with a property there is a last one. -/
theorem exists_last {α : Type} {P : α → Prop} {xs : List α} (h : ∃ x ∈ xs, P x) :
    ∃ before x after, xs = before ++ x :: after ∧ P x ∧ ∀ y ∈ after, ¬ P y := by
  classical
  obtain ⟨x, hx⟩ : ∃ x, xs.reverse.find? (fun x => decide (P x)) = some x := by
    rw [← Option.isSome_iff_exists, List.find?_isSome]
    simpa using h
  obtain ⟨hPx, after, before, hsplit, hafter⟩ := List.find?_eq_some_iff_append.1 hx
  refine ⟨before.reverse, x, after.reverse, ?_, by simpa using hPx, by simpa using hafter⟩
  simpa using congrArg List.reverse hsplit

/-- Parameters in order come to what those of them that count come to. -/
theorem update_ofMembers {pairs : List (String × Json)} (hsets : ∀ p ∈ pairs, SetsParameter p)
    {base s : Settings} (h : update tree pairs base = .ok s) :
    update tree (Json.ofMembers pairs) base = .ok s := by
  obtain ⟨updates, hread, rfl⟩ := update_eq_ok_iff.1 h
  obtain ⟨hnodup, hsubset⟩ := Json.ofMembers_spec pairs
  obtain ⟨counting, hcounting⟩ := Result.mapM_of_ok fun p hp =>
    Result.ok_of_mem_mapM hread (hsubset p hp)
  refine update_eq_ok_iff.2 ⟨counting, hcounting, ext_get fun x => ?_⟩
  by_cases hwritten : ∃ p ∈ pairs, x.WrittenBy p
  · obtain ⟨before, p, after, rfl, hp, hafter⟩ := exists_last hwritten
    have hpSets := hsets p (by simp)
    have hkeys : ∀ q ∈ after, q.1 ≠ p.1 := fun q hq hsame =>
      hafter q hq ((hpSets.writtenBy_iff (hsets q (by simp [hq])) hp).2 hsame)
    have hlookup : (Json.ofMembers (before ++ p :: after)).lookup p.1 = some p.2 :=
      Json.lookup_ofMembers_of_last hkeys
    obtain ⟨earlier, later, hobject, -⟩ := List.lookup_eq_some_iff.1 hlookup
    rw [hobject] at hcounting hnodup hsubset
    have hlater : ∀ q ∈ later, ¬ x.WrittenBy q := by
      intro q hq hwritten
      have hsame := (hpSets.writtenBy_iff (hsets q (hsubset q (by simp [hq]))) hp).1 hwritten
      -- the object has each key once
      rw [List.map_append, List.map_cons] at hnodup
      exact (List.nodup_middle.1 hnodup).notMem
        (List.mem_append_right _ (hsame ▸ List.mem_map_of_mem hq))
    obtain ⟨u, hu, hvalue⟩ := get_of_last hread hp hafter base
    obtain ⟨u', hu', hvalue'⟩ := get_of_last hcounting hp hlater base
    rw [hu, Except.ok.injEq] at hu'
    rw [← hu', hvalue] at hvalue'
    exact (Option.some.inj hvalue').symm
  · have hnone : ∀ p ∈ pairs, ¬ x.WrittenBy p := fun p hp hx => hwritten ⟨p, hp, hx⟩
    rw [get_foldl_of_none (value?_eq_none_of_mapM hread hnone),
      get_foldl_of_none (value?_eq_none_of_mapM hcounting fun p hp => hnone p (hsubset p hp))]

end Settings

end SchemaToSwift
