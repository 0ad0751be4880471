import SchemaToSwift.Proofs.Result
import SchemaToSwift.Schema.Decode

/-!
# Faults of decoding

Each step of decoding has its `Faults`: it meets a number that is too large in one case exactly, and
every other fault it meets is one of values of the wrong kind. Steps are put together with
`Faults.bind`, and the elements of a member are decoded up to the first that cannot be
(`faults_elements_mapM`). Of the values themselves nothing but an infinite number is too large to be
an integer (`faults_integer`).
-/

namespace SchemaToSwift

/-- The faults of values that are of the wrong kind or make no sense. -/
def Fault.IsOfValue : Fault → Prop
  | .wrongType | .noOperation | .noMember | .badValue | .badNumeral _ => True
  | _ => False

namespace Schema.Decode

/-! ## Steps of decoding -/

/-- The faults that a step can meet: a number that is too large in one case exactly, and otherwise
those of values. -/
structure Faults {α : Type} (r : Decode α) (overflow : Prop) : Prop where
  tooLarge_iff : r = .error (.escaped .tooLarge) ↔ overflow
  isOfValue : ∀ f, r = .error (.escaped f) → f ≠ .tooLarge → f.IsOfValue

section
variable {α β : Type}

/-- A value meets no fault. -/
theorem faults_ok (a : α) : Faults (.ok a : Decode α) False := ⟨by simp, by simp⟩

/-- A problem that is reported is none either. -/
theorem faults_problem (p : SchemaProblem) : Faults (problem p : Decode α) False :=
  ⟨by simp [problem], by simp [problem]⟩

/-- A fault of a value is no number that is too large. -/
theorem faults_fault {f : Fault} (h : f.IsOfValue) : Faults (fault f : Decode α) False := by
  refine ⟨?_, ?_⟩
  · rw [fault, Except.error.injEq, Failure.escaped.injEq, iff_false]
    rintro rfl
    exact h
  · rintro g hg -
    obtain rfl : f = g := by simpa [fault] using hg
    exact h

theorem Faults.congr {r : Decode α} {p q : Prop} (h : Faults r p) (hpq : p ↔ q) : Faults r q :=
  ⟨h.tooLarge_iff.trans hpq, h.isOfValue⟩

/-- Of two steps the second one is taken with what the first one gives. -/
theorem Faults.bind {r : Decode α} {next : α → Decode β} {p : Prop} {q : α → Prop}
    (h : Faults r p) (hnext : ∀ a, r = .ok a → Faults (next a) (q a)) :
    Faults (r >>= next) (p ∨ ∃ a, r = .ok a ∧ q a) := by
  cases r with
  | error e =>
    rw [Result.bind_error]
    exact ⟨by simpa using h.tooLarge_iff, fun f hf => h.isOfValue f (by simpa using hf)⟩
  | ok a =>
    have hp : ¬ p := fun hp => by simpa using h.tooLarge_iff.2 hp
    have ha := hnext a rfl
    rw [Result.bind_ok]
    exact ⟨by simpa [hp] using ha.tooLarge_iff, ha.isOfValue⟩

/-- A step that meets no number too large leaves it to the next one. -/
theorem Faults.bind_of_never {r : Decode α} {next : α → Decode β} {q : α → Prop}
    (h : Faults r False) (hnext : ∀ a, r = .ok a → Faults (next a) (q a)) :
    Faults (r >>= next) (∃ a, r = .ok a ∧ q a) :=
  (h.bind hnext).congr (by simp)

/-- Steps that meet no such number do not meet one together. -/
theorem Faults.never {r : Decode α} {next : α → Decode β} (h : Faults r False)
    (hnext : ∀ a, Faults (next a) False) : Faults (r >>= next) False :=
  (h.bind_of_never fun a _ => hnext a).congr (by simp)

/-- Elements are decoded in order, up to the first that cannot be. -/
theorem faults_mapM {f : Json → Decode α} {p : Json → Prop} {items : List Json}
    (h : ∀ x ∈ items, Faults (f x) (p x)) : Faults (items.mapM f) (Result.StopsAt f p items) := by
  have hstops (e : Failure SchemaProblem) : items.mapM f = .error e ↔
      Result.StopsAt f (fun x => f x = .error e) items := Result.mapM_eq_error_iff
  constructor
  case tooLarge_iff =>
    rw [hstops]
    exact ⟨.congr (fun _ _ h => h) fun x hx => (h x hx).tooLarge_iff.1,
      .congr (fun _ _ h => h) fun x hx => (h x hx).tooLarge_iff.2⟩
  case isOfValue =>
    intro e he
    obtain ⟨before, x, after, rfl, -, hx⟩ := (hstops _).1 he
    exact (h x (by simp)).isOfValue e hx

/-- So it is for the elements of a list. -/
theorem faults_mapM_never {f : Json → Decode α} {items : List Json}
    (h : ∀ x ∈ items, Faults (f x) False) : Faults (items.mapM f) False :=
  (faults_mapM h).congr (by simp [Result.StopsAt])

/-- A result that fails with faults of values meets no such number. -/
theorem faults_escape {r : Except Fault α} (h : ∀ f, r = .error f → f.IsOfValue) :
    Faults (Failure.escape r : Decode α) False := by
  cases r with
  | error f => exact faults_fault (h f rfl)
  | ok a => exact faults_ok a

end

/-! ## Readers of values -/

/-- Only an object has members. -/
theorem membersOf_eq_ok_iff {v : Json} {members : List (String × Json)} :
    membersOf v = .ok members ↔ v = .obj members := by
  cases v <;> simp [membersOf, fault]

/-- A member is had exactly if it is there. -/
theorem require_eq_ok_iff {v value : Json} {key : String} {place : SchemaPlace} :
    require v key place = .ok value ↔ ∃ members, v = .obj members ∧
      members.lookup key = some value := by
  unfold require
  split
  · next members => cases hlookup : members.lookup key <;> simp [problem, hlookup]
  · split <;> simp [fault, problem]
  · split <;> simp [fault, problem]
  · next hobj _ _ =>
    constructor
    · rintro ⟨⟩
    · rintro ⟨members, rfl, -⟩
      exact absurd rfl (hobj members)

/-- What a value gives one after the other are elements of an array, or texts. -/
theorem mem_elements {v x : Json} {items : List Json} (h : v.elements = .ok items)
    (hx : x ∈ items) : (∃ values, v = .arr values ∧ x ∈ values) ∨ ∃ s, x = .str s := by
  cases v with
  | null | bool | int | double => cases h
  | arr values =>
    cases h
    exact .inl ⟨items, rfl, hx⟩
  | str s =>
    cases h
    obtain ⟨p, -, rfl⟩ := List.mem_map.1 hx
    exact .inr ⟨_, rfl⟩
  | obj members =>
    cases h
    obtain ⟨m, -, rfl⟩ := List.mem_map.1 hx
    exact .inr ⟨_, rfl⟩

/-- The elements of a member are those of its value. -/
theorem exists_of_mem_elementsOf {key : String} {members : List (String × Json)}
    {items : List Json} {x : Json} (h : elementsOf key members = .ok items) (hx : x ∈ items) :
    ∃ v, members.lookup key = some v ∧
      ((∃ values, v = .arr values ∧ x ∈ values) ∨ ∃ s, x = .str s) := by
  unfold elementsOf memberOr at h
  cases hlookup : members.lookup key with
  | none =>
    rw [hlookup] at h
    cases h
    cases hx
  | some v =>
    rw [hlookup, Option.getD_some] at h
    cases helements : v.elements with
    | error f =>
      rw [helements] at h
      cases h
    | ok values =>
      rw [helements] at h
      cases h
      exact ⟨v, rfl, mem_elements helements hx⟩

/-- Taking members meets no number that is too large. -/
theorem faults_membersOf (v : Json) : Faults (membersOf v) False := by
  cases v with
  | obj members => exact faults_ok members
  | _ => exact faults_fault trivial

/-- Nor does requiring one. -/
theorem faults_require (v : Json) (key : String) (place : SchemaPlace) :
    Faults (require v key place) False := by
  unfold require
  split
  · split
    · exact faults_ok _
    · exact faults_problem _
  · split
    · exact faults_fault trivial
    · exact faults_problem _
  · split
    · exact faults_fault trivial
    · exact faults_problem _
  · exact faults_fault trivial

/-- Nor does going through elements. -/
theorem faults_elements (v : Json) : Faults (Failure.escape v.elements : Decode _) False := by
  refine faults_escape fun f hf => ?_
  cases v <;> cases hf
  all_goals trivial

/-- Nor does going through those of a member. -/
theorem faults_elementsOf (key : String) (members : List (String × Json)) :
    Faults (elementsOf key members) False :=
  faults_elements _

/-- Nor does taking a text. -/
theorem faults_asText (v : Json) :
    Faults (Failure.escape (v.asText .noOperation) : Decode _) False := by
  refine faults_escape fun f hf => ?_
  cases v <;> cases hf
  all_goals trivial

/-- Nor does decoding the type of a field. -/
theorem faults_fieldType (v : Json) : Faults (fieldType v) False := by
  refine (faults_asText v).never fun name => ?_
  split
  · exact faults_ok _
  · exact faults_problem _

/-- Nor does decoding its label. -/
theorem faults_label (v : Json) : Faults (label v) False := by
  refine (faults_asText v).never fun name => ?_
  split
  · exact faults_ok _
  · exact faults_problem _

/-- Nor does decoding the name of its type. -/
theorem faults_typeName (v : Json) : Faults (typeName v) False :=
  (faults_asText v).never fun _ => faults_ok _

/-- Only an infinite number is too large to be an integer. -/
theorem faults_integer (v : Json) : Faults (Failure.escape (integer v) : Decode Int)
    (∃ negative, v = .double (.infinite negative)) := by
  cases v with
  | bool b => exact (faults_ok _).congr (by simp)
  | int n => exact (faults_ok _).congr (by simp)
  | null | arr | obj => exact (faults_fault (f := .wrongType) trivial).congr (by simp)
  | str s =>
    unfold integer
    dsimp only
    cases Numeral.integer? s with
    | none => exact (faults_fault (f := .badNumeral s) trivial).congr (by simp)
    | some n => exact (faults_ok _).congr (by simp)
  | double d =>
    cases d with
    | finite => exact (faults_ok _).congr (by simp)
    | nan => exact (faults_fault (f := .badValue) trivial).congr (by simp)
    | infinite negative =>
      refine ⟨iff_of_true rfl ⟨negative, rfl⟩, fun f hf hne => ?_⟩
      cases hf
      exact absurd rfl hne

/-! ## Lists of declarations -/

section
variable {α β : Type} {key : String} {f : Json → Decode α} {p : Json → Prop}
  {members : List (String × Json)}

/-- Decoding the elements of a member comes to one with a property. -/
def StopsIn (key : String) (f : Json → Decode α) (p : Json → Prop)
    (members : List (String × Json)) : Prop :=
  ∃ items, elementsOf key members = .ok items ∧ Result.StopsAt f p items

/-- All elements of a member are decoded. -/
def Decodes (key : String) (f : Json → Decode α) (members : List (String × Json)) : Prop :=
  ∃ items, elementsOf key members = .ok items ∧ ∀ x ∈ items, ∃ a, f x = .ok a

/-- Decoding comes to no element with a property that none has. -/
theorem not_stopsIn : ¬ StopsIn key f (fun _ => False) members := by
  simp [StopsIn, Result.StopsAt]

/-- Decodings that agree on the elements of a member stop at the same ones. -/
theorem stopsIn_congr {g : Json → Decode α}
    (h : ∀ items, elementsOf key members = .ok items → ∀ x ∈ items, f x = g x) :
    StopsIn key f p members ↔ StopsIn key g p members := by
  constructor
  · rintro ⟨items, hitems, hstops⟩
    exact ⟨items, hitems, hstops.congr (fun x hx hf => h items hitems x hx ▸ hf) fun _ _ h => h⟩
  · rintro ⟨items, hitems, hstops⟩
    exact ⟨items, hitems, hstops.congr (fun x hx hg => h items hitems x hx ▸ hg) fun _ _ h => h⟩

/-- Which elements are decoded depends on the decoder at these elements only. -/
theorem decodes_congr {g : Json → Decode α}
    (h : ∀ items, elementsOf key members = .ok items → ∀ x ∈ items, f x = g x) :
    Decodes key f members ↔ Decodes key g members := by
  refine exists_congr fun items => and_congr_right fun hitems => ?_
  exact forall₂_congr fun x hx => by rw [h items hitems x hx]

/-- Decoding the elements of a member, and what comes after it. -/
theorem faults_elements_mapM {next : List α → Decode β} {q : Prop}
    (hf : ∀ items, elementsOf key members = .ok items → ∀ x ∈ items, Faults (f x) (p x))
    (hnext : ∀ values, Faults (next values) q) :
    Faults (do next (← (← elementsOf key members).mapM f))
      (StopsIn key f p members ∨ Decodes key f members ∧ q) := by
  refine ((faults_elementsOf key members).bind_of_never fun items hitems =>
    (faults_mapM (hf items hitems)).bind fun values _ => hnext values).congr ?_
  constructor
  · rintro ⟨items, hitems, hstops | ⟨values, hvalues, hq⟩⟩
    · exact .inl ⟨items, hitems, hstops⟩
    · exact .inr ⟨⟨items, hitems, fun x hx => Result.ok_of_mem_mapM hvalues hx⟩, hq⟩
  · rintro (⟨items, hitems, hstops⟩ | ⟨⟨items, hitems, hall⟩, hq⟩)
    · exact ⟨items, hitems, .inl hstops⟩
    · obtain ⟨values, hvalues⟩ := Result.mapM_of_ok hall
      exact ⟨items, hitems, .inr ⟨values, hvalues, hq⟩⟩

end

end Schema.Decode

end SchemaToSwift
