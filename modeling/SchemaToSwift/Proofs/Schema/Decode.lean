import SchemaToSwift.Proofs.Schema.Faults

/-!
# What escapes from decoding

Decoding the description of a schema file goes through its declarations in order, and through
messages by the depth to which they are nested, for which any fuel is enough that is not less than
it (`messageType_eq_of_depth`). It meets a number that is too large exactly if it comes to an
infinite one before anything else is found wrong (`Overflows`). So every description gives a file or
an error, but for those, which let that fault escape (`ofJson_escapes`).
-/

namespace SchemaToSwift.Schema

namespace Decode

/-! ## Declarations -/

/-- A declaration that has a name, and a number that is infinite. -/
def HasInfiniteNumber (v : Json) : Prop :=
  ∃ members name negative, v = .obj members ∧ members.lookup "name" = some name ∧
    members.lookup "number" = some (.double (.infinite negative))

/-- Reading the number of a declaration. -/
theorem faults_number {α : Type} {v : Json} {place : SchemaPlace} {next : Int → Decode α}
    (hnext : ∀ n, Faults (next n) False) :
    Faults (do next (← Failure.escape (integer (← require v "number" place))))
      (∃ members negative, v = .obj members ∧
        members.lookup "number" = some (.double (.infinite negative))) := by
  refine ((faults_require v "number" place).bind_of_never fun number _ =>
    (faults_integer number).bind fun n _ => hnext n).congr ?_
  simp only [require_eq_ok_iff]
  constructor
  · rintro ⟨number, ⟨members, rfl, hnumber⟩, ⟨negative, rfl⟩ | ⟨-, -, hnever⟩⟩
    · exact ⟨members, negative, rfl, hnumber⟩
    · exact hnever.elim
  · rintro ⟨members, negative, rfl, hnumber⟩
    exact ⟨_, ⟨members, rfl, hnumber⟩, .inl ⟨negative, rfl⟩⟩

/-- A declaration with a name has an infinite number if its number is infinite. -/
theorem hasInfiniteNumber_iff {v : Json} {place : SchemaPlace} :
    (∃ name, require v "name" place = .ok name ∧ ∃ members negative, v = .obj members ∧
      members.lookup "number" = some (.double (.infinite negative))) ↔ HasInfiniteNumber v := by
  simp only [require_eq_ok_iff]
  constructor
  · rintro ⟨name, ⟨members, rfl, hname⟩, _, negative, ⟨⟩, hnumber⟩
    exact ⟨members, name, negative, rfl, hname, hnumber⟩
  · rintro ⟨members, name, negative, rfl, hname, hnumber⟩
    exact ⟨name, ⟨members, rfl, hname⟩, members, negative, rfl, hnumber⟩

/-- Decoding a value of an enum overflows exactly if its number is infinite. -/
theorem faults_enumValue (enum v : Json) : Faults (enumValue enum v) (HasInfiniteNumber v) :=
  ((faults_require v "name" _).bind_of_never fun _ _ =>
    faults_number fun _ => faults_ok _).congr hasInfiniteNumber_iff

/-- Reading the members and the number of a declaration. -/
theorem faults_membersAndNumber {α : Type} {v : Json} {place : SchemaPlace}
    {next : List (String × Json) → Int → Decode α}
    (hnext : ∀ members n, Faults (next members n) False) :
    Faults (do
        let members ← membersOf v
        next members (← Failure.escape (integer (← require v "number" place))))
      (∃ members negative, v = .obj members ∧
        members.lookup "number" = some (.double (.infinite negative))) := by
  refine ((faults_membersOf v).bind_of_never fun members _ =>
    faults_number fun n => hnext members n).congr ?_
  simp only [membersOf_eq_ok_iff]
  constructor
  · rintro ⟨-, -, h⟩
    exact h
  · rintro ⟨members, negative, rfl, hnumber⟩
    exact ⟨members, rfl, members, negative, rfl, hnumber⟩

/-- So does decoding an extension. -/
theorem faults_extensionField (scope v : Json) :
    Faults (extensionField scope v) (HasInfiniteNumber v) := by
  refine ((faults_require v "name" _).bind_of_never fun name _ =>
    faults_membersAndNumber fun members number => ?_).congr hasInfiniteNumber_iff
  refine (faults_require v "type" _).never fun type => (faults_fieldType type).never fun type => ?_
  refine (faults_require v "extendee" _).never fun extendee =>
    (faults_typeName extendee).never fun extendee => ?_
  exact (faults_label _).never fun _ => (faults_typeName _).never fun _ => faults_ok _

/-- So does decoding a field. -/
theorem faults_field (message v : Json) : Faults (field message v) (HasInfiniteNumber v) := by
  refine ((faults_require v "name" _).bind_of_never fun name _ =>
    faults_membersAndNumber fun members number => ?_).congr hasInfiniteNumber_iff
  refine (faults_require v "type" _).never fun type => (faults_fieldType type).never fun type => ?_
  exact (faults_label _).never fun _ => (faults_typeName _).never fun _ => faults_ok _

/-- An enum whose first value that cannot be decoded has an infinite number. -/
def EnumOverflows (v : Json) : Prop :=
  ∃ members name, v = .obj members ∧ members.lookup "name" = some name ∧
    StopsIn "values" (enumValue name) HasInfiniteNumber members

/-- Decoding an enum overflows exactly if one of its values does before anything else fails. -/
theorem faults_enumType (scope v : Json) : Faults (enumType scope v) (EnumOverflows v) := by
  refine ((faults_require v "name" _).bind_of_never fun name _ =>
    (faults_membersOf v).bind_of_never fun members _ =>
      faults_elements_mapM (fun _ _ x _ => faults_enumValue name x) fun _ => faults_ok _).congr ?_
  simp only [require_eq_ok_iff, membersOf_eq_ok_iff]
  constructor
  · rintro ⟨name, ⟨_, rfl, hname⟩, members, ⟨⟩, hstops | ⟨-, hnever⟩⟩
    · exact ⟨_, name, rfl, hname, hstops⟩
    · exact hnever.elim
  · rintro ⟨members, name, rfl, hname, hstops⟩
    exact ⟨name, ⟨members, rfl, hname⟩, members, rfl, .inl hstops⟩

/-! ## Depths of nesting -/

/-- No element is deeper than all elements. -/
theorem depth_le_of_mem {x : Json} {items : List Json} (h : x ∈ items) :
    x.depth ≤ Json.depthItems items := by
  induction items with
  | nil => cases h
  | cons y rest ih =>
    rw [Json.depthItems]
    rcases List.mem_cons.1 h with rfl | h
    · exact Nat.le_max_left _ _
    · exact Nat.le_trans (ih h) (Nat.le_max_right _ _)

/-- No member is deeper than all members. -/
theorem depth_le_of_lookup {key : String} {v : Json} {members : List (String × Json)}
    (h : members.lookup key = some v) : v.depth ≤ Json.depthMembers members := by
  induction members with
  | nil => cases h
  | cons m rest ih =>
    obtain ⟨name, w⟩ := m
    rw [Json.depthMembers]
    rw [List.lookup_cons] at h
    split at h
    · obtain rfl := Option.some.inj h
      exact Nat.le_max_left _ _
    · exact Nat.le_trans (ih h) (Nat.le_max_right _ _)

theorem one_le_depth (v : Json) : 1 ≤ v.depth := by
  cases v <;> simp [Json.depth]

/-- The elements of a member are nested less deep than the object. -/
theorem depth_le_of_elementsOf {key : String} {members : List (String × Json)}
    {items : List Json} (h : elementsOf key members = .ok items) {x : Json} (hx : x ∈ items) :
    x.depth ≤ Json.depthMembers members := by
  obtain ⟨v, hlookup, ⟨values, rfl, hx⟩ | ⟨s, rfl⟩⟩ := exists_of_mem_elementsOf h hx
  · have harray : (Json.arr values).depth ≤ Json.depthMembers members := depth_le_of_lookup hlookup
    rw [Json.depth] at harray
    exact Nat.le_trans (depth_le_of_mem hx) (Nat.le_of_succ_le harray)
  · exact Nat.le_trans (one_le_depth v) (depth_le_of_lookup hlookup)

/-! ## Messages -/

/-- A message declared in a scope. -/
def messageAt (scope v : Json) : Decode MessageType := messageType v.depth scope v

/-- Decoding a message, where decoding the messages nested in it is given. -/
def messageWith (nested : Json → Json → Decode MessageType) (scope v : Json) :
    Decode MessageType := do
  let name ← require v "name" .message
  let members ← membersOf v
  let full := fullName members scope name
  let fields ← (← elementsOf "fields" members).mapM (field name)
  let messages ← (← elementsOf "messages" members).mapM (nested full)
  let enums ← (← elementsOf "enums" members).mapM (enumType full)
  let extensions ← (← elementsOf "extensions" members).mapM (extensionField full)
  return { name, fullName := full, fields, messages, enums, extensions }

/-- Decodings of nested messages that agree on what is nested less deep decode a message alike. -/
theorem messageWith_congr {nested nested' : Json → Json → Decode MessageType} {v : Json}
    (h : ∀ scope x, x.depth < v.depth → nested scope x = nested' scope x) (scope : Json) :
    messageWith nested scope v = messageWith nested' scope v := by
  refine Result.bind_congr fun name _ => Result.bind_congr fun members hmembers => ?_
  obtain rfl := membersOf_eq_ok_iff.1 hmembers
  refine Result.bind_congr fun _ _ => Result.bind_congr fun fields _ =>
    Result.bind_congr fun items hitems => ?_
  rw [Result.mapM_congr fun x hx => h _ x (Nat.lt_succ_of_le (depth_le_of_elementsOf hitems hx))]

/-- Enough fuel is as good as more. -/
theorem messageType_eq_of_depth {fuel fuel' : Nat} {v : Json} (h : v.depth ≤ fuel)
    (h' : v.depth ≤ fuel') (scope : Json) :
    messageType fuel scope v = messageType fuel' scope v := by
  -- What is nested in a message is nested less deep, so for it less fuel is enough.
  induction fuel generalizing fuel' v scope with
  | zero => exact absurd (Nat.le_trans (one_le_depth v) h) (by decide)
  | succ fuel ih =>
    cases fuel' with
    | zero => exact absurd (Nat.le_trans (one_le_depth v) h') (by decide)
    | succ fuel' =>
      have hless {x : Json} {n : Nat} (hx : x.depth < v.depth) (hn : v.depth ≤ n + 1) :
          x.depth ≤ n := Nat.le_of_lt_succ (Nat.lt_of_lt_of_le hx hn)
      exact messageWith_congr (v := v)
        (fun scope x hx => ih (hless hx h) (hless hx h') scope) scope

/-- A message is decoded with the messages nested in it. -/
theorem messageAt_eq (scope v : Json) : messageAt scope v = messageWith messageAt scope v := by
  obtain ⟨depth, hdepth⟩ := Nat.exists_eq_add_of_le' (one_le_depth v)
  unfold messageAt
  rw [hdepth]
  refine messageWith_congr (fun scope x hx => ?_) scope
  rw [hdepth] at hx
  exact messageType_eq_of_depth (Nat.le_of_lt_succ hx) (Nat.le_refl _) scope

/-- A message the first part of which that cannot be decoded has an infinite number. Its fields
come first, then the messages nested in it, its enums and its extensions. -/
inductive MessageOverflows : Json → Json → Prop
  | field {scope name : Json} {members : List (String × Json)}
    (hname : members.lookup "name" = some name)
    (h : StopsIn "fields" (field name) HasInfiniteNumber members) :
    MessageOverflows scope (.obj members)
  | message {scope name x : Json} {members : List (String × Json)} {before after : List Json}
    (hname : members.lookup "name" = some name) (hfields : Decodes "fields" (field name) members)
    (hmessages : elementsOf "messages" members = .ok (before ++ x :: after))
    (hbefore : ∀ y ∈ before, ∃ m, messageAt (fullName members scope name) y = .ok m)
    (h : MessageOverflows (fullName members scope name) x) :
    MessageOverflows scope (.obj members)
  | enum {scope name : Json} {members : List (String × Json)}
    (hname : members.lookup "name" = some name) (hfields : Decodes "fields" (field name) members)
    (hmessages : Decodes "messages" (messageAt (fullName members scope name)) members)
    (h : StopsIn "enums" (enumType (fullName members scope name)) EnumOverflows members) :
    MessageOverflows scope (.obj members)
  | extension {scope name : Json} {members : List (String × Json)}
    (hname : members.lookup "name" = some name) (hfields : Decodes "fields" (field name) members)
    (hmessages : Decodes "messages" (messageAt (fullName members scope name)) members)
    (henums : Decodes "enums" (enumType (fullName members scope name)) members)
    (h : StopsIn "extensions" (extensionField (fullName members scope name)) HasInfiniteNumber
      members) :
    MessageOverflows scope (.obj members)

/-- What can overflow in the members of a message, in the order of decoding. -/
def MembersOverflow (scope name : Json) (members : List (String × Json)) : Prop :=
  let full := fullName members scope name
  StopsIn "fields" (field name) HasInfiniteNumber members ∨
    Decodes "fields" (field name) members ∧
      (StopsIn "messages" (messageAt full) (MessageOverflows full) members ∨
        Decodes "messages" (messageAt full) members ∧
          (StopsIn "enums" (enumType full) EnumOverflows members ∨
            Decodes "enums" (enumType full) members ∧
              StopsIn "extensions" (extensionField full) HasInfiniteNumber members))

/-- A message overflows exactly if one of its members does, in the order of decoding. -/
theorem messageOverflows_iff {scope : Json} {members : List (String × Json)} :
    MessageOverflows scope (.obj members) ↔
      ∃ name, members.lookup "name" = some name ∧ MembersOverflow scope name members := by
  constructor
  · intro h
    cases h with
    | field hname h => exact ⟨_, hname, .inl h⟩
    | message hname hfields hmessages hbefore h =>
      exact ⟨_, hname, .inr ⟨hfields, .inl ⟨_, hmessages, _, _, _, rfl, hbefore, h⟩⟩⟩
    | enum hname hfields hmessages h =>
      exact ⟨_, hname, .inr ⟨hfields, .inr ⟨hmessages, .inl h⟩⟩⟩
    | extension hname hfields hmessages henums h =>
      exact ⟨_, hname, .inr ⟨hfields, .inr ⟨hmessages, .inr ⟨henums, h⟩⟩⟩⟩
  · rintro ⟨name, hname, h | ⟨hfields, ⟨_, hmessages, _, _, _, rfl, hbefore, h⟩ |
      ⟨hmessages, h | ⟨henums, h⟩⟩⟩⟩
    · exact .field hname h
    · exact .message hname hfields hmessages hbefore h
    · exact .enum hname hfields hmessages h
    · exact .extension hname hfields hmessages henums h

/-- Messages are decoded from the outside in, part by part. -/
theorem faults_messageAt (scope v : Json) :
    Faults (messageAt scope v) (MessageOverflows scope v) := by
  -- By the depth, as any fuel that is enough gives the same (`messageAt_eq`).
  induction hdepth : v.depth using Nat.strongRecOn generalizing scope v with
  | ind depth ih =>
    have hnested (members : List (String × Json)) (hmembers : membersOf v = .ok members)
        (scope : Json) (items : List Json) (hitems : elementsOf "messages" members = .ok items)
        (x : Json) (hx : x ∈ items) : Faults (messageAt scope x) (MessageOverflows scope x) := by
      obtain rfl := membersOf_eq_ok_iff.1 hmembers
      exact ih _ (hdepth ▸ Nat.lt_succ_of_le (depth_le_of_elementsOf hitems hx)) scope x rfl
    rw [messageAt_eq, messageWith]
    refine Faults.congr (Faults.bind_of_never (faults_require v "name" _) fun name _ =>
      Faults.bind_of_never (faults_membersOf v) fun members hmembers =>
      faults_elements_mapM (fun _ _ x _ => faults_field name x) fun _ =>
      faults_elements_mapM (hnested members hmembers (fullName members scope name)) fun _ =>
      faults_elements_mapM (fun _ _ x _ => faults_enumType (fullName members scope name) x) fun _ =>
      faults_elements_mapM
        (fun _ _ x _ => faults_extensionField (fullName members scope name) x) fun _ =>
      faults_ok _) ?_
    simp only [require_eq_ok_iff, membersOf_eq_ok_iff, and_false, or_false]
    constructor
    · rintro ⟨name, ⟨members, rfl, hname⟩, _, ⟨⟩, h⟩
      exact messageOverflows_iff.2 ⟨name, hname, h⟩
    · intro h
      cases v with
      | obj members =>
        obtain ⟨name, hname, h⟩ := messageOverflows_iff.1 h
        exact ⟨name, ⟨members, rfl, hname⟩, members, rfl, h⟩
      | _ => cases h

/-! ## Dependencies and comments -/

/-- Decoding a dependency never overflows. -/
theorem faults_dependency (fuel : Nat) (v : Json) : Faults (dependency fuel v) False := by
  induction fuel generalizing v with
  | zero => exact faults_fault (f := .badValue) trivial
  | succ fuel ih =>
    cases v with
    | str name => exact faults_ok _
    | _ =>
      refine (faults_require _ "name" _).never fun _ => (faults_membersOf _).never fun members =>
        (faults_elementsOf _ members).never fun _ => ?_
      exact (faults_mapM_never fun x _ => ih x).never fun _ => faults_ok _

/-- Nor does checking a structural path. -/
theorem faults_keys (path : List Json) :
    Faults (discard (Failure.escape (path.mapM Json.asKey)) : Decode Unit) False := by
  cases hpath : path.mapM Json.asKey with
  | ok keys => exact faults_ok ()
  | error f =>
    obtain ⟨before, x, after, rfl, -, hx⟩ := Result.mapM_eq_error_iff.1 hpath
    unfold Json.asKey at hx
    split at hx
    · cases hx
    · cases hx
      exact faults_fault (f := .wrongType) trivial

/-- Nor does decoding comments. -/
theorem faults_placedComments (v : Json) : Faults (placedComments v) False := by
  unfold placedComments
  split
  · split
    · exact faults_fault trivial
    · exact (faults_elements _).never fun path => (faults_elementsOf _ _).never fun detached =>
        (faults_keys path).never fun _ => faults_ok _
  · exact faults_fault trivial

/-! ## Files -/

/-- What can overflow in the declarations of a file, in the order of decoding. -/
def DeclarationsOverflow (members : List (String × Json)) : Prop :=
  let package := memberOr "package" (.str "") members
  StopsIn "enums" (enumType package) EnumOverflows members ∨
    Decodes "enums" (enumType package) members ∧
      (StopsIn "messages" (messageAt package) (MessageOverflows package) members ∨
        Decodes "messages" (messageAt package) members ∧
          StopsIn "extensions" (extensionField package) HasInfiniteNumber members)

/-- The options of a file are an object, or as good as missing. -/
def OptionsDecode (members : List (String × Json)) : Prop :=
  (memberOr "options" .null members).truthy = true →
    ∃ options, memberOr "options" .null members = .obj options

/-- The options of a file are read before its declarations. -/
theorem faults_options {α : Type} {members : List (String × Json)}
    {next : List (String × Json) → Decode α} {q : Prop}
    (hnext : ∀ options, Faults (next options) q) :
    Faults (do
        let options := memberOr "options" .null members
        next (← if options.truthy then membersOf options else pure []))
      (OptionsDecode members ∧ q) := by
  unfold OptionsDecode
  dsimp only
  generalize memberOr "options" .null members = options
  cases htruthy : options.truthy with
  | false => exact (hnext []).congr (by simp)
  | true =>
    refine ((faults_membersOf options).bind_of_never fun members _ => hnext members).congr ?_
    simp only [membersOf_eq_ok_iff, exists_and_right, true_implies]

/-- Files are decoded up to their first declaration that cannot be. -/
theorem faults_ofMembers (name : String) (members : List (String × Json)) :
    Faults (ofMembers name members (Json.obj members).depth)
      (OptionsDecode members ∧ DeclarationsOverflow members) := by
  have hfuel (scope : Json) (items : List Json) (hitems : elementsOf "messages" members = .ok items)
      (x : Json) (hx : x ∈ items) :
      messageType (Json.obj members).depth scope x = messageAt scope x :=
    messageType_eq_of_depth (Nat.le_succ_of_le (depth_le_of_elementsOf hitems hx)) (Nat.le_refl _) _
  have hmessages (scope : Json) (items : List Json)
      (hitems : elementsOf "messages" members = .ok items) (x : Json) (hx : x ∈ items) :
      Faults (messageType (Json.obj members).depth scope x) (MessageOverflows scope x) :=
    hfuel scope items hitems x hx ▸ faults_messageAt scope x
  unfold ofMembers
  refine Faults.congr (faults_options fun options =>
    faults_elements_mapM (fun _ _ x _ => faults_enumType _ x) fun _ =>
    faults_elements_mapM (hmessages _) fun _ =>
    faults_elements_mapM (fun _ _ x _ => faults_extensionField _ x) fun _ =>
    faults_elements_mapM (fun _ _ x _ => faults_dependency _ x) fun _ =>
    faults_elements_mapM (fun _ _ x _ => faults_placedComments x) fun _ =>
    faults_ok _) ?_
  simp only [stopsIn_congr (hfuel _), decodes_congr (hfuel _), not_stopsIn, and_false, or_false]
  rfl

end Decode

open Decode

/-- A description of a file with the given name. -/
def Names (v : Json) (name : String) (members : List (String × Json)) : Prop :=
  v = .obj members ∧ members.lookup "name" = some (.str name) ∧ name ≠ ""

/-- A description is decoded if it names its file. -/
theorem ofJson_cases (v : Json) :
    (∃ name members, Names v name members) ∨
      ((∀ name members, ¬ Names v name members) ∧
        (ofJson v = .error (.reported .nameless) ∨ ofJson v = .error (.reported .notObject))) := by
  unfold ofJson Names
  split
  · next members =>
    split
    · next name hname =>
      split
      · next hempty =>
        refine .inr ⟨?_, .inl rfl⟩
        rintro name' _ ⟨⟨⟩, hname', hne⟩
        rw [hname] at hname'
        cases hname'
        exact hne hempty
      · next hne => exact .inl ⟨name, members, rfl, hname, hne⟩
    · next hnot =>
      refine .inr ⟨?_, .inl rfl⟩
      rintro name _ ⟨⟨⟩, hname, -⟩
      exact hnot name hname
  · next hnot =>
    refine .inr ⟨?_, .inr rfl⟩
    rintro - members ⟨rfl, -, -⟩
    exact hnot members rfl

/-- Decoding a description that names its file comes to the file, or to an error with the name in
front: but a number that is too large is let through. -/
theorem ofJson_of_names {v : Json} {name : String} {members : List (String × Json)}
    (h : Names v name members) :
    ofJson v = match ofMembers name members (Json.obj members).depth with
      | .ok file => .ok file
      | .error (.reported p) => .error (.reported (.problem name p))
      | .error (.escaped .tooLarge) => .error (.escaped .tooLarge)
      | .error (.escaped fault) => .error (.reported (.malformed name fault)) := by
  obtain ⟨rfl, hname, hne⟩ := h
  simp only [ofJson, hname]
  exact if_neg hne

/-- A description whose decoding comes to an infinite number: it names its file, and in its first
declaration that cannot be decoded all is well up to such a number. Its enums come first, then its
messages and its extensions. -/
def Overflows (v : Json) : Prop :=
  ∃ name members, Names v name members ∧ OptionsDecode members ∧ DeclarationsOverflow members

/-! ## Values without infinite numbers -/

/-- A value that is somewhere inside another one, or is the other one. -/
inductive Inside (x : Json) : Json → Prop
  | here : Inside x x
  | item {v : Json} {items : List Json} (hv : v ∈ items) (h : Inside x v) : Inside x (.arr items)
  | member {key : String} {v : Json} {members : List (String × Json)} (hv : (key, v) ∈ members)
    (h : Inside x v) : Inside x (.obj members)

/-- A declaration with an infinite number somewhere inside. -/
def HoldsInfinite (v : Json) : Prop :=
  ∃ members negative, v = .obj members ∧ Inside (.double (.infinite negative)) v

theorem mem_of_lookup {key : String} {v : Json} {members : List (String × Json)}
    (h : members.lookup key = some v) : (key, v) ∈ members := by
  obtain ⟨before, after, rfl, -⟩ := List.lookup_eq_some_iff.1 h
  simp

/-- An infinite number is held by its declaration. -/
theorem HasInfiniteNumber.holds {v : Json} (h : HasInfiniteNumber v) : HoldsInfinite v := by
  obtain ⟨members, -, negative, rfl, -, hnumber⟩ := h
  exact ⟨members, negative, rfl, .member (mem_of_lookup hnumber) .here⟩

/-- Declarations are found in arrays: the elements of other values are texts. -/
theorem inside_of_elementsOf {key : String} {members inner : List (String × Json)}
    {items : List Json} {x : Json} (hitems : elementsOf key members = .ok items)
    (hinner : .obj inner ∈ items) (hx : Inside x (.obj inner)) : Inside x (.obj members) := by
  obtain ⟨v, hlookup, ⟨values, rfl, hmem⟩ | ⟨s, hs⟩⟩ := exists_of_mem_elementsOf hitems hinner
  · exact .member (mem_of_lookup hlookup) (.item hmem hx)
  · cases hs

/-- It is held by an object if it is by an element of a member. -/
theorem HoldsInfinite.of_stopsIn {α : Type} {key : String} {f : Json → Decode α}
    {p : Json → Prop} {members : List (String × Json)} (h : StopsIn key f p members)
    (hp : ∀ x, p x → HoldsInfinite x) : HoldsInfinite (.obj members) := by
  obtain ⟨items, hitems, before, x, after, rfl, -, hx⟩ := h
  obtain ⟨inner, negative, rfl, hinside⟩ := hp x hx
  exact ⟨members, negative, rfl, inside_of_elementsOf hitems (by simp) hinside⟩

/-- So an enum that overflows holds one. -/
theorem EnumOverflows.holds {v : Json} (h : EnumOverflows v) : HoldsInfinite v := by
  obtain ⟨members, name, rfl, -, hstops⟩ := h
  exact .of_stopsIn hstops fun _ => HasInfiniteNumber.holds

/-- So does a message that overflows. -/
theorem MessageOverflows.holds {scope v : Json} (h : MessageOverflows scope v) :
    HoldsInfinite v := by
  induction h with
  | field _ h | extension _ _ _ _ h => exact .of_stopsIn h fun _ => HasInfiniteNumber.holds
  | enum _ _ _ h => exact .of_stopsIn h fun _ => EnumOverflows.holds
  | message _ _ hmessages _ _ ih =>
    obtain ⟨inner, negative, rfl, hinside⟩ := ih
    exact ⟨_, negative, rfl, inside_of_elementsOf hmessages (by simp) hinside⟩

/-- So does a description that overflows. -/
theorem Overflows.holds {v : Json} (h : Overflows v) : HoldsInfinite v := by
  obtain ⟨name, members, ⟨rfl, -, -⟩, -, henums | ⟨-, hmessages | ⟨-, hextensions⟩⟩⟩ := h
  · exact .of_stopsIn henums fun _ => EnumOverflows.holds
  · exact .of_stopsIn hmessages fun _ => MessageOverflows.holds
  · exact .of_stopsIn hextensions fun _ => HasInfiniteNumber.holds

/-! ## What escapes -/

/-- Every description gives a schema file or an error of schema files, but for those whose decoding
comes to an infinite number: they let a number that is too large escape, and nothing else escapes.
There has to be such a number somewhere inside. An error with a cause is about the file of the
description, and the cause is of its values. -/
theorem ofJson_escapes (v : Json) :
    (∀ fault, ofJson v = .error (.escaped fault) ↔ fault = .tooLarge ∧ Overflows v) ∧
    (Overflows v → HoldsInfinite v) ∧
    (¬ Overflows v → (∃ file, ofJson v = .ok file) ∨ ∃ e, ofJson v = .error (.reported e)) ∧
    ∀ name fault, ofJson v = .error (.reported (.malformed name fault)) →
      fault.IsOfValue ∧ ∃ members, Names v name members := by
  have hescaped (fault : Fault) :
      ofJson v = .error (.escaped fault) ↔ fault = .tooLarge ∧ Overflows v := by
    constructor
    · intro h
      rcases ofJson_cases v with ⟨name, members, hnames⟩ | ⟨-, hv | hv⟩
      · rw [ofJson_of_names hnames] at h
        split at h
        all_goals cases h
        next hmembers =>
          have hoverflows := (faults_ofMembers name members).tooLarge_iff.1 hmembers
          exact ⟨rfl, name, members, hnames, hoverflows⟩
      all_goals
        rw [hv] at h
        cases h
    · rintro ⟨rfl, name, members, hnames, hoverflows⟩
      rw [ofJson_of_names hnames, (faults_ofMembers name members).tooLarge_iff.2 hoverflows]
  refine ⟨hescaped, Overflows.holds, fun hnot => ?_, fun name fault h => ?_⟩
  · cases hv : ofJson v with
    | ok file => exact .inl ⟨file, rfl⟩
    | error e =>
      cases e with
      | reported e => exact .inr ⟨e, rfl⟩
      | escaped fault => exact absurd ((hescaped fault).1 hv).2 hnot
  · rcases ofJson_cases v with ⟨name, members, hnames⟩ | ⟨-, hv | hv⟩
    · rw [ofJson_of_names hnames] at h
      split at h
      all_goals cases h
      next hne hmembers =>
        refine ⟨(faults_ofMembers _ members).isOfValue fault hmembers ?_, members, hnames⟩
        rintro rfl
        exact hne rfl
    all_goals
      rw [hv] at h
      cases h

/-- A file with an enum whose only value has an infinite number. -/
def infiniteValue : Json :=
  .obj [("name", .str "a.proto"), ("enums", .arr [.obj [("name", .str "E"),
    ("values", .arr [.obj [("name", .str "A"), ("number", .double (.infinite false))]])]])]

/-- The number of its value escapes. -/
theorem ofJson_escapes_infiniteValue :
    Overflows infiniteValue ∧ ofJson infiniteValue = .error (.escaped .tooLarge) := by
  have hvalue : HasInfiniteNumber
      (.obj [("name", .str "A"), ("number", .double (.infinite false))]) :=
    ⟨_, .str "A", false, rfl, rfl, rfl⟩
  have henum : EnumOverflows (.obj [("name", .str "E"),
      ("values", .arr [.obj [("name", .str "A"), ("number", .double (.infinite false))]])]) :=
    ⟨_, .str "E", rfl, rfl, _, rfl, [], _, [], rfl, by simp, hvalue⟩
  have hoverflows : Overflows infiniteValue :=
    ⟨"a.proto", _, ⟨rfl, rfl, by decide⟩, fun h => absurd h (by decide),
      .inl ⟨_, rfl, [], _, [], rfl, by simp, henum⟩⟩
  exact ⟨hoverflows, ((ofJson_escapes infiniteValue).1 .tooLarge).2 ⟨rfl, hoverflows⟩⟩

end SchemaToSwift.Schema
