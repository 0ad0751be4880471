import SchemaToSwift.Proofs.Swift.Word
import SchemaToSwift.Proofs.Text.Dotted

/-!
# Type names made of components

The Swift name of a type has one component for each name of its path: the names of the messages
around the declaration and its own name. The components are the names in their Swift form, with the
prefix of top-level types in front of the first one. Where the names are identifiers no component
has a dot, so components and type names are one and the same: `typeText_inj` gets the path back, and
`scopeOf_typeText` and `lastComponent_typeText` are what is left of it before and after the last
dot. What makes all components legal is said by `isTypeName_typeText_iff`.
-/

namespace SchemaToSwift.Swift

/-- A type name whose components are all legal. -/
def IsTypeName (s : String) : Prop := ∀ part ∈ Text.parts '.' s, IsComponent part

instance (s : String) : Decidable (IsTypeName s) :=
  inferInstanceAs (Decidable (∀ part ∈ Text.parts '.' s, IsComponent part))

/-- A prefix that makes a legal component with a name in its Swift form. Unless it is empty, the
prefix has to be an identifier, the name must not be between backticks, and the two together must
not be a reserved word. -/
def FitsBefore (typePrefix name : String) : Prop :=
  typePrefix = "" ∨
    isBare typePrefix = true ∧ name ∉ reservedWords ∧ typePrefix ++ name ∉ reservedWords
deriving Decidable

/-- The components of the type name at a path. -/
def components (typePrefix : String) : List String → List String
  | [] => []
  | top :: rest => (typePrefix ++ quoteReserved top) :: rest.map quoteReserved

/-- The component that a name adds to those of the names around it. -/
def componentIn (typePrefix : String) (scope : List String) (name : String) : String :=
  if scope = [] then typePrefix ++ quoteReserved name else quoteReserved name

/-- The type name at a path. -/
def typeText (typePrefix : String) (path : List String) : String :=
  ".".intercalate (components typePrefix path)

section
variable {typePrefix : String}

/-! ## Names inside a scope -/

theorem components_eq_nil {path : List String} : components typePrefix path = [] ↔ path = [] := by
  cases path <;> simp [components]

/-- A name at the end of a path adds one component. -/
theorem components_concat (typePrefix : String) (scope : List String) (name : String) :
    components typePrefix (scope ++ [name]) =
      components typePrefix scope ++ [componentIn typePrefix scope name] := by
  cases scope with
  | nil => rfl
  | cons top rest => simp [components, componentIn]

/-- At the top of a file the prefix comes before the name, which is quoted on its own. -/
theorem typeText_singleton (typePrefix name : String) :
    typeText typePrefix [name] = typePrefix ++ quoteReserved name := by
  rw [typeText, components, List.map_nil, String.intercalate_singleton]

/-- In a scope, the name follows that of the scope after a dot. -/
theorem typeText_concat (typePrefix : String) {scope : List String} (hne : scope ≠ [])
    (name : String) : typeText typePrefix (scope ++ [name]) =
      typeText typePrefix scope ++ "." ++ quoteReserved name := by
  have hcomponents : components typePrefix scope ≠ [] := fun h => hne (components_eq_nil.1 h)
  rw [typeText, components_concat, Text.intercalate_concat hcomponents, componentIn, if_neg hne,
    typeText]

/-- The prefix stands in front of the whole name. -/
theorem typeText_eq_append (typePrefix : String) {path : List String} (hne : path ≠ []) :
    typeText typePrefix path = typePrefix ++ ".".intercalate (path.map quoteReserved) := by
  cases path with
  | nil => exact absurd rfl hne
  | cons top rest =>
    rw [typeText, components, List.map_cons, String.intercalate_cons_append]

/-- A type of identifiers has a name. -/
theorem typeText_ne_empty (typePrefix : String) {path : List String} (hne : path ≠ [])
    (h : ∀ name ∈ path, isBare name = true) : typeText typePrefix path ≠ "" := by
  obtain ⟨top, rest, rfl⟩ := List.exists_cons_of_ne_nil hne
  obtain ⟨c, cs, hchars⟩ : ∃ c cs, (quoteReserved top).toList = c :: cs := by
    refine List.exists_cons_of_ne_nil fun hnil => ?_
    exact quoteReserved_ne_empty (h top (.head _)) (String.toList_eq_nil_iff.1 hnil)
  obtain ⟨tail, htail⟩ := Text.intercalate_eq_cons hchars (rest.map quoteReserved)
  intro hempty
  rw [typeText_eq_append typePrefix hne, String.append_eq_empty_iff] at hempty
  rw [List.map_cons] at hempty
  rw [hempty.2] at htail
  cases htail

/-! ## Paths of identifiers -/

/-- Names in their Swift form are the same only if the names are. -/
theorem map_quoteReserved_inj {xs ys : List String} (hx : ∀ name ∈ xs, isBare name = true)
    (hy : ∀ name ∈ ys, isBare name = true)
    (h : xs.map quoteReserved = ys.map quoteReserved) : xs = ys := by
  induction xs generalizing ys with
  | nil =>
    rw [List.map_nil, eq_comm, List.map_eq_nil_iff] at h
    exact h.symm
  | cons x xs ih =>
    cases ys with
    | nil => cases h
    | cons y ys =>
      obtain ⟨hhead, htail⟩ := List.cons.inj h
      have hnames : x = y := quoteReserved_inj (hx x (.head _)) (hy y (.head _)) hhead
      have hrest : xs = ys :=
        ih (fun a ha => hx a (.tail _ ha)) (fun b hb => hy b (.tail _ hb)) htail
      rw [hnames, hrest]

variable (hchars : ∀ c ∈ typePrefix.toList, isBareChar c = true)
include hchars

section
variable {c : Char} (hbare : isBareChar c = false) (hquote : c ≠ '\x60')
include hbare hquote

/-- A prefix and a quoted identifier have bare characters and backticks only. -/
theorem not_mem_prefixed {name : String} (h : isBare name = true) :
    c ∉ (typePrefix ++ quoteReserved name).toList := by
  rw [String.toList_append, List.mem_append, not_or]
  refine ⟨fun hmem => ?_, not_mem_quoteReserved h hbare hquote⟩
  rw [hchars c hmem] at hbare
  cases hbare

/-- A component has no other characters than its name, the prefix and backticks. -/
theorem not_mem_componentIn {name : String} (h : isBare name = true) (scope : List String) :
    c ∉ (componentIn typePrefix scope name).toList := by
  unfold componentIn
  split
  · exact not_mem_prefixed hchars hbare hquote h
  · exact not_mem_quoteReserved h hbare hquote

/-- So it is for all components of a path. -/
theorem not_mem_components {path : List String} (h : ∀ name ∈ path, isBare name = true) :
    ∀ part ∈ components typePrefix path, c ∉ part.toList := by
  intro part hpart
  cases path with
  | nil => cases hpart
  | cons top rest =>
    rcases List.mem_cons.1 hpart with rfl | hpart
    · exact not_mem_prefixed hchars hbare hquote (h top (.head _))
    · obtain ⟨name, hname, rfl⟩ := List.mem_map.1 hpart
      exact not_mem_quoteReserved (h name (.tail _ hname)) hbare hquote

/-- A type name has bare characters, dots and backticks only. -/
theorem not_mem_typeText (hdot : c ≠ '.') {path : List String}
    (h : ∀ name ∈ path, isBare name = true) : c ∉ (typeText typePrefix path).toList := by
  intro hmem
  rcases Text.mem_intercalate hmem with hc | ⟨part, hpart, hc⟩
  · exact hdot (List.mem_singleton.1 hc)
  · exact not_mem_components hchars hbare hquote h part hpart hc

end

/-- The parts of a type name between dots are its components. -/
theorem parts_typeText {path : List String} (hne : path ≠ [])
    (h : ∀ name ∈ path, isBare name = true) :
    Text.parts '.' (typeText typePrefix path) = components typePrefix path :=
  Text.parts_intercalate (fun hnil => hne (components_eq_nil.1 hnil))
    (not_mem_components hchars rfl (by decide) h)

/-- Different paths give different type names. -/
theorem typeText_inj {xs ys : List String} (hxs : xs ≠ []) (hys : ys ≠ [])
    (hx : ∀ name ∈ xs, isBare name = true) (hy : ∀ name ∈ ys, isBare name = true)
    (h : typeText typePrefix xs = typeText typePrefix ys) : xs = ys := by
  have hparts := congrArg (Text.parts '.') h
  rw [parts_typeText hchars hxs hx, parts_typeText hchars hys hy] at hparts
  cases xs with
  | nil => exact absurd rfl hxs
  | cons x xs =>
    cases ys with
    | nil => exact absurd rfl hys
    | cons y ys =>
      obtain ⟨htop, hrest⟩ := List.cons.inj hparts
      have hquoted : quoteReserved x = quoteReserved y := by simpa using htop
      exact map_quoteReserved_inj hx hy (by rw [List.map_cons, List.map_cons, hquoted, hrest])

/-- The type name at the scope of a path, empty at the top. -/
theorem scopeOf_typeText {name : String} (h : isBare name = true) (scope : List String) :
    Text.scopeOf (typeText typePrefix (scope ++ [name])) = typeText typePrefix scope := by
  rw [typeText, components_concat, Text.scopeOf_concat
    (not_mem_componentIn hchars rfl (by decide) h scope), typeText]

/-- The last one is that of the last name. -/
theorem lastComponent_typeText {name : String} (h : isBare name = true) (scope : List String) :
    Text.lastComponent (typeText typePrefix (scope ++ [name])) =
      componentIn typePrefix scope name := by
  rw [typeText, components_concat, Text.lastComponent_concat
    (not_mem_componentIn hchars rfl (by decide) h scope)]

/-- A type name is legal exactly if its prefix fits before the first name. -/
theorem isTypeName_typeText_iff {top : String} {rest : List String}
    (h : ∀ name ∈ top :: rest, isBare name = true) :
    IsTypeName (typeText typePrefix (top :: rest)) ↔ FitsBefore typePrefix top := by
  have hrest : ∀ part ∈ rest.map quoteReserved, IsComponent part := by
    intro part hpart
    obtain ⟨name, hname, rfl⟩ := List.mem_map.1 hpart
    exact isComponent_quoteReserved (h name (.tail _ hname))
  rw [IsTypeName, parts_typeText hchars (by simp) h, components, List.forall_mem_cons,
    and_iff_left hrest]
  by_cases hempty : typePrefix = ""
  · have htop := isComponent_quoteReserved (h top (.head _))
    simpa [FitsBefore, hempty] using htop
  · rw [isComponent_prefixed_iff hempty hchars (h top (.head _)), FitsBefore,
      or_iff_right hempty]

end

end SchemaToSwift.Swift
