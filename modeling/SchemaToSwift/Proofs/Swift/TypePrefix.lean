import SchemaToSwift.Proofs.Swift.Word
import SchemaToSwift.Proofs.Text.Dotted
import SchemaToSwift.Swift.TypePrefix

/-!
# Prefixes that packages give

The prefix of a package of bare identifiers is made of bare characters (`isBareChar_packagePrefix`).
It need not be an identifier, because underscores are dropped and a digit may come first; it is one
where the package begins with a lower-case letter (`isBare_packagePrefix`).
-/

namespace SchemaToSwift.Swift

/-- The prefix letters of bare characters and dots are bare. -/
theorem isBareChar_prefixChars {cs : List Char} (h : ∀ c ∈ cs, isBareChar c = true ∨ c = '.') :
    ∀ capital, ∀ c ∈ prefixChars capital cs, isBareChar c = true := by
  induction cs with
  | nil =>
    intro capital c hc
    cases hc
  | cons d rest ih =>
    have hrest := ih fun c hc => h c (.tail _ hc)
    intro capital c hc
    unfold prefixChars at hc
    split at hc
    · exact hrest true c hc
    · split at hc
      · rcases List.mem_cons.1 hc with rfl | hc
        · rfl
        · exact hrest true c hc
      · next hdot =>
        have hd : isBareChar d = true := (h d (.head _)).resolve_right hdot
        split at hc
        · rw [Text.upperChar, if_pos (isAscii_of_isBareChar hd), List.singleton_append] at hc
          rcases List.mem_cons.1 hc with rfl | hc
          · exact isBareChar_toUpper hd
          · exact hrest false c hc
        · rcases List.mem_cons.1 hc with rfl | hc
          · exact hd
          · exact hrest false c hc

section
variable {package : String}

theorem packagePrefix_eq_empty : packagePrefix package = "" ↔ package = "" := by
  by_cases h : package = "" <;> simp [packagePrefix, h]

/-- The prefix of a package has no dot and nothing else that an identifier may not have. -/
theorem isBareChar_packagePrefix (h : ∀ c ∈ package.toList, isBareChar c = true ∨ c = '.') :
    ∀ c ∈ (packagePrefix package).toList, isBareChar c = true := by
  intro c hc
  unfold packagePrefix at hc
  split at hc
  · cases hc
  · rw [String.toList_ofList] at hc
    rcases List.mem_append.1 hc with hc | hc
    · exact isBareChar_prefixChars h true c hc
    · rw [List.mem_singleton.1 hc]
      rfl

/-- A package of identifiers has bare characters and dots only. -/
theorem isBareChar_of_mem_package {scope : List String}
    (h : ∀ part ∈ scope, isBare part = true) :
    ∀ c ∈ (".".intercalate scope).toList, isBareChar c = true ∨ c = '.' := by
  intro c hc
  rcases Text.mem_intercalate hc with hdot | ⟨part, hpart, hc⟩
  · exact .inr (List.mem_singleton.1 hdot)
  · exact .inl (isBareChar_of_mem (h part hpart) hc)

/-- The prefix of a package ends with an underscore, which no reserved word has. -/
theorem packagePrefix_append_not_mem (h : package ≠ "") (name : String) :
    packagePrefix package ++ name ∉ reservedWords := by
  intro hmem
  refine underscore_not_mem_reservedWords _ hmem ?_
  rw [packagePrefix, if_neg h]
  simp

/-- A bare character in upper case starts an identifier unless it is a digit. -/
theorem startsBare_toUpper {c : Char} (h : isBareChar c = true) :
    startsBare c.toUpper = !c.isDigit :=
  Text.forall_ascii (P := fun c => isBareChar c = true → startsBare c.toUpper = !c.isDigit)
    (by decide) (isAscii_of_isBareChar h) h

/-- The prefix letters begin with a digit exactly if the package does but for its underscores. -/
theorem startsBare_head?_prefixChars {cs : List Char}
    (h : ∀ c ∈ cs, isBareChar c = true ∨ c = '.') :
    (prefixChars true cs ++ ['_']).head?.any startsBare =
      !(cs.find? (· ≠ '_')).any Char.isDigit := by
  induction cs with
  | nil => rfl
  | cons c rest ih =>
    rw [prefixChars]
    split
    · next hunderscore =>
      rw [ih fun d hd => h d (.tail _ hd), List.find?_cons_of_neg (by simpa using hunderscore)]
    · next hunderscore =>
      rw [List.find?_cons_of_pos (by simpa using hunderscore)]
      split
      · next hdot =>
        subst hdot
        rfl
      · next hdot =>
        have hc : isBareChar c = true := (h c (.head _)).resolve_right hdot
        rw [if_pos rfl, Text.upperChar, if_pos (isAscii_of_isBareChar hc)]
        simpa using startsBare_toUpper hc

/-- The prefix of a package is an identifier unless the package begins with a digit but for its
underscores. -/
theorem isBare_packagePrefix_iff (h : ∀ c ∈ package.toList, isBareChar c = true ∨ c = '.')
    (hne : package ≠ "") : isBare (packagePrefix package) = true ↔
      (package.toList.find? (· ≠ '_')).any Char.isDigit = false := by
  have hletters : (packagePrefix package).toList = prefixChars true package.toList ++ ['_'] := by
    rw [packagePrefix, if_neg hne, String.toList_ofList]
  rw [isBare, isBareChars_eq (isBareChar_packagePrefix h), hletters,
    startsBare_head?_prefixChars h, Bool.not_eq_true']

/-- The prefix of a package that begins with a lower-case letter is an identifier. -/
theorem isBare_packagePrefix {c : Char} {rest : List Char}
    (h : ∀ d ∈ package.toList, isBareChar d = true ∨ d = '.') (hchars : package.toList = c :: rest)
    (hc : c.isLower = true) : isBare (packagePrefix package) = true := by
  have hne : package ≠ "" := by
    rintro rfl
    cases hchars
  have hunderscore : c ≠ '_' := by
    rintro rfl
    cases hc
  have hdigit : c.isDigit = false := by
    rw [Bool.eq_false_iff, ne_eq, isDigit_iff]
    have hrange := isLower_iff.1 hc
    omega
  rw [isBare_packagePrefix_iff h hne, hchars, List.find?_cons_of_pos (by simpa using hunderscore)]
  exact hdigit

end

end SchemaToSwift.Swift
