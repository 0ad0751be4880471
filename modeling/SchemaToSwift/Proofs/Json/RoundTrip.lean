import SchemaToSwift.Proofs.Json.Members
import SchemaToSwift.Proofs.Json.Strings
import SchemaToSwift.Proofs.Result

/-!
# Reading what was written

A document of texts (`OfTexts`) is written and read back as it was, in any layout. The reader is
given a value at the start of its input and leaves what follows it; this carries over from the items
of an array and the members of an object to the whole, by induction on the document. Fuel of twice
the length is enough, as a value is longer than its parts by its brackets.
-/

namespace SchemaToSwift.Json

/-- A document of texts: strings that a document can hold, in arrays and in objects that have each
name once. -/
inductive OfTexts : Json → Prop
  | str {s : String} (h : Text.WellFormed s) : OfTexts (.str s)
  | arr {vs : List Json} (h : ∀ v ∈ vs, OfTexts v) : OfTexts (.arr vs)
  | obj {ms : List (String × Json)} (hdistinct : (ms.map (·.1)).Nodup)
    (hnames : ∀ m ∈ ms, Text.WellFormed m.1) (h : ∀ m ∈ ms, OfTexts m.2) : OfTexts (.obj ms)

namespace Parser

/-! ## Blanks -/

/-- Nothing but blanks. -/
def Blanks (cs : List Char) : Prop := ∀ c ∈ cs, c = ' ' ∨ c = '\n'

/-- The start of a value. -/
def Opens (cs : List Char) : Prop := ∃ c rest, cs = c :: rest ∧ (c = '"' ∨ c = '[' ∨ c = '\x7b')

theorem blanks_nil : Blanks [] := fun _ hc => nomatch hc

/-- Blanks before a text are skipped. -/
theorem skipBlanks_append {pad : List Char} (h : Blanks pad) (rest : List Char) :
    skipBlanks (pad ++ rest) = skipBlanks rest := by
  refine List.dropWhile_append_of_pos fun c hc => ?_
  rcases h c hc with rfl | rfl <;> rfl

/-- What follows the start of a value does not matter. -/
theorem Opens.append {cs : List Char} (h : Opens cs) (rest : List Char) : Opens (cs ++ rest) := by
  obtain ⟨c, tail, rfl, hc⟩ := h
  exact ⟨c, tail ++ rest, rfl, hc⟩

/-- A closing bracket does not begin a value. -/
theorem Opens.ne_cons {cs : List Char} (h : Opens cs) {c : Char}
    (hc : ¬ (c = '"' ∨ c = '[' ∨ c = '\x7b')) (rest : List Char) : cs ≠ c :: rest := by
  obtain ⟨d, tail, rfl, hd⟩ := h
  intro heq
  exact hc ((List.cons.inj heq).1 ▸ hd)

/-- Blanks before a value are skipped. -/
theorem skipBlanks_opens {pad cs : List Char} (hpad : Blanks pad) (h : Opens cs) :
    skipBlanks (pad ++ cs) = cs := by
  rw [skipBlanks_append hpad]
  obtain ⟨c, tail, rfl, rfl | rfl | rfl⟩ := h <;> rfl

/-- Parts with a comma and blanks between them. -/
def joined (gap : List Char) (parts : List String) : List Char :=
  ((String.ofList (',' :: gap)).intercalate parts).toList

theorem joined_singleton (gap : List Char) (part : String) : joined gap [part] = part.toList := by
  rw [joined, String.intercalate_singleton]

/-- Between two parts stand a comma and the gap. -/
theorem joined_cons_cons (gap : List Char) (part next : String) (parts : List String) :
    joined gap (part :: next :: parts) =
      part.toList ++ ',' :: (gap ++ joined gap (next :: parts)) := by
  rw [joined, String.intercalate_cons_cons]
  simp [joined]

/-- An empty container is its two brackets, in any layout. -/
theorem enclosed_nil (layout : Layout) (indent : Nat) {left right : String} {l r : Char}
    (hl : left.toList = [l]) (hr : right.toList = [r]) :
    (Writer.enclosed layout indent left right []).toList = [l, r] := by
  simp [Writer.enclosed, hl, hr]

/-- Parts between brackets stand between blanks, with commas and blanks between them. -/
theorem enclosed_parts (layout : Layout) (indent : Nat) {left right : String} {l r : Char}
    (hl : left.toList = [l]) (hr : right.toList = [r]) {parts : List String} (h : parts ≠ []) :
    ∃ pad gap pad' : List Char, Blanks pad ∧ Blanks gap ∧ Blanks pad' ∧
      (Writer.enclosed layout indent left right parts).toList =
        l :: (pad ++ (joined gap parts ++ (pad' ++ [r]))) := by
  have hspaces (n : Nat) : Blanks (List.replicate n ' ') :=
    fun c hc => .inl (List.eq_of_mem_replicate hc)
  have hline (n : Nat) : Blanks ('\n' :: List.replicate n ' ') := by
    intro c hc
    rcases List.mem_cons.1 hc with rfl | hc
    · exact .inr rfl
    · exact hspaces n c hc
  have hempty : parts.isEmpty = false := by simpa using h
  unfold Writer.enclosed
  rw [if_neg (by simp [hempty])]
  cases layout.indent with
  | none =>
    refine ⟨[], [' '], [], blanks_nil, by simp [Blanks], blanks_nil, ?_⟩
    simp [joined, hl, hr]
  | some n =>
    refine ⟨_, _, _, hline (n * (indent + 1)), hline (n * (indent + 1)), hline (n * indent), ?_⟩
    simp [joined, hl, hr]

/-! ## Values -/

/-- Items are written each on its own. -/
theorem items_eq_map (layout : Layout) (indent : Nat) (vs : List Json) :
    Writer.items layout indent vs = vs.map (Writer.value layout indent) := by
  induction vs with
  | nil => rfl
  | cons v vs ih => rw [Writer.items, ih, List.map_cons]

/-- A member as it is written. -/
def memberText (layout : Layout) (indent : Nat) (m : String × Json) : String :=
  Writer.string m.1 ++ ": " ++ Writer.value layout indent m.2

/-- So are members. -/
theorem members_eq_map (layout : Layout) (indent : Nat) (ms : List (String × Json)) :
    Writer.members layout indent ms = ms.map (memberText layout indent) := by
  induction ms with
  | nil => rfl
  | cons m ms ih => rw [Writer.members, ih, List.map_cons, memberText]

/-- A string starts a value. -/
theorem opens_string (s : String) : Opens (Writer.string s).toList := by
  rw [Writer.string, String.toList_ofList]
  exact ⟨'"', _, rfl, .inl rfl⟩

/-- So does a container. -/
theorem opens_enclosed {layout : Layout} {indent : Nat} {left right : String} {l r : Char}
    (hl : left.toList = [l]) (hr : right.toList = [r]) (h : l = '"' ∨ l = '[' ∨ l = '\x7b')
    (parts : List String) : Opens (Writer.enclosed layout indent left right parts).toList := by
  by_cases hparts : parts = []
  · rw [hparts, enclosed_nil layout indent hl hr]
    exact ⟨l, [r], rfl, h⟩
  · obtain ⟨pad, gap, pad', -, -, -, heq⟩ := enclosed_parts layout indent hl hr hparts
    exact ⟨l, _, heq, h⟩

/-- A document of texts begins with a quote or a bracket. -/
theorem opens_value {v : Json} (h : OfTexts v) (layout : Layout) (indent : Nat) :
    Opens (Writer.value layout indent v).toList := by
  cases h with
  | str _ => exact opens_string _
  | arr _ => exact opens_enclosed rfl rfl (.inr (.inl rfl)) _
  | obj _ _ _ => exact opens_enclosed rfl rfl (.inr (.inr rfl)) _

/-- Wherever a value is written, it is read as it was, up to what follows it. -/
def ReadsBack (layout : Layout) (v : Json) : Prop :=
  ∀ (indent fuel depth : Nat) (rest : List Char), v.depth ≤ depth →
    2 * (Writer.value layout indent v).toList.length ≤ fuel →
      value fuel depth ((Writer.value layout indent v).toList ++ rest) = .ok (v, rest)

/-- Strings are read back. -/
theorem readsBack_str {s : String} (hs : Text.WellFormed s) (layout : Layout) :
    ReadsBack layout (.str s) := by
  intro indent fuel depth rest _ hfuel
  have hpos : 0 < (Writer.string s).toList.length := by
    rw [Writer.string, String.toList_ofList]
    exact Nat.succ_pos _
  rw [Writer.value] at hfuel ⊢
  obtain ⟨n, rfl⟩ := Nat.exists_eq_succ_of_ne_zero (show fuel ≠ 0 by omega)
  obtain ⟨tail, htail, hread⟩ := stringRest_string hs rest (show _ ≤ n by omega)
  rw [htail, value, hread]
  rfl

/-! ## Arrays and objects -/

/-- Parts begin with the first part. -/
theorem opens_joined {part : String} (h : Opens part.toList) (gap : List Char)
    (parts : List String) : Opens (joined gap (part :: parts)) := by
  cases parts with
  | nil => rwa [joined_singleton]
  | cons next parts =>
    rw [joined_cons_cons]
    exact h.append _

/-- An item that the end of the array follows is the last one. -/
theorem items_last {fuel depth : Nat} {cs tail rest : List Char} {v : Json}
    (hv : value fuel depth cs = .ok (v, tail)) (hend : skipBlanks tail = ']' :: rest) :
    items (fuel + 1) depth cs = .ok ([v], rest) := by
  rw [items, hv, Result.bind_ok]
  simp only [hend]
  rfl

/-- An item that a comma follows stands before the items after it. -/
theorem items_more {fuel depth : Nat} {cs tail after rest : List Char} {v : Json} {vs : List Json}
    (hv : value fuel depth cs = .ok (v, tail)) (hcomma : skipBlanks tail = ',' :: after)
    (hvs : items fuel depth (skipBlanks after) = .ok (vs, rest)) :
    items (fuel + 1) depth cs = .ok (v :: vs, rest) := by
  rw [items, hv, Result.bind_ok]
  simp only [hcomma, hvs]
  rfl

/-- A name and its value are read up to what follows them. -/
theorem member_read (layout : Layout) (indent : Nat) {fuel depth : Nat} {m : String × Json}
    (hname : Text.WellFormed m.1) (htexts : OfTexts m.2) (hreads : ReadsBack layout m.2)
    (hdepth : m.2.depth ≤ depth)
    (hfuel : 2 * (memberText layout indent m).toList.length ≤ fuel) (rest : List Char) :
    ∃ tail after, (memberText layout indent m).toList ++ rest = '"' :: tail ∧
      stringRest fuel [] tail = .ok (m.1, ':' :: ' ' :: after) ∧
        value fuel depth (skipBlanks after) = .ok (m.2, rest) := by
  have hlength := congrArg List.length (show (memberText layout indent m).toList =
    (Writer.string m.1).toList ++ ([':', ' '] ++ (Writer.value layout indent m.2).toList) by
      simp [memberText])
  rw [List.length_append, List.length_append] at hlength
  obtain ⟨tail, htail, hread⟩ := stringRest_string hname
    (':' :: ' ' :: ((Writer.value layout indent m.2).toList ++ rest)) (show _ ≤ fuel by omega)
  refine ⟨tail, _, ?_, hread, ?_⟩
  · rw [← htail]
    simp [memberText]
  · have hskip : skipBlanks ((Writer.value layout indent m.2).toList ++ rest) =
        (Writer.value layout indent m.2).toList ++ rest :=
      skipBlanks_opens blanks_nil ((opens_value htexts layout indent).append rest)
    rw [hskip]
    exact hreads _ _ _ _ hdepth (by omega)

/-- A member starts with the string that names it. -/
theorem opens_memberText (layout : Layout) (indent : Nat) (m : String × Json) :
    Opens (memberText layout indent m).toList := by
  rw [memberText, String.toList_append, String.toList_append, List.append_assoc]
  exact (opens_string _).append _

/-- A member that the end of the object follows is the last one. -/
theorem members_last {fuel depth : Nat} {tail after after' rest : List Char} {name : String}
    {v : Json} (hname : stringRest fuel [] tail = .ok (name, ':' :: ' ' :: after))
    (hv : value fuel depth (skipBlanks after) = .ok (v, after'))
    (hend : skipBlanks after' = '\x7d' :: rest) :
    members (fuel + 1) depth ('"' :: tail) = .ok ([(name, v)], rest) := by
  have hblank : skipBlanks (' ' :: after) = skipBlanks after := rfl
  have hcolon : skipBlanks (':' :: ' ' :: after) = ':' :: ' ' :: after := rfl
  rw [members, hname, Result.bind_ok]
  simp only [hcolon, hblank, hv, Result.bind_ok, hend]
  rfl

/-- A member that a comma follows stands before the members after it. -/
theorem members_more {fuel depth : Nat} {tail after after' more rest : List Char} {name : String}
    {v : Json} {ms : List (String × Json)}
    (hname : stringRest fuel [] tail = .ok (name, ':' :: ' ' :: after))
    (hv : value fuel depth (skipBlanks after) = .ok (v, after'))
    (hcomma : skipBlanks after' = ',' :: more)
    (hms : members fuel depth (skipBlanks more) = .ok (ms, rest)) :
    members (fuel + 1) depth ('"' :: tail) = .ok ((name, v) :: ms, rest) := by
  have hblank : skipBlanks (' ' :: after) = skipBlanks after := rfl
  have hcolon : skipBlanks (':' :: ' ' :: after) = ':' :: ' ' :: after := rfl
  rw [members, hname, Result.bind_ok]
  simp only [hcolon, hblank, hv, Result.bind_ok, hcomma, hms]
  rfl

section
variable {layout : Layout} {indent : Nat} {gap pad : List Char}

/-- The items of an array are read up to its end. -/
theorem items_joined (hgap : Blanks gap) (hpad : Blanks pad) (rest : List Char) {v : Json}
    {vs : List Json} (htexts : ∀ w ∈ v :: vs, OfTexts w)
    (hreads : ∀ w ∈ v :: vs, ReadsBack layout w) {fuel depth : Nat}
    (hdepth : depthItems (v :: vs) ≤ depth)
    (hfuel : 2 * (joined gap ((v :: vs).map (Writer.value layout indent))).length < fuel) :
    items fuel depth (joined gap ((v :: vs).map (Writer.value layout indent)) ++
      (pad ++ ']' :: rest)) = .ok (v :: vs, rest) := by
  induction vs generalizing v fuel with
  | nil =>
    obtain ⟨n, rfl⟩ := Nat.exists_eq_succ_of_ne_zero (show fuel ≠ 0 by omega)
    rw [depthItems, Nat.max_le] at hdepth
    rw [List.map_singleton, joined_singleton] at hfuel ⊢
    exact items_last (hreads v (.head _) _ _ _ _ hdepth.1 (by omega)) (skipBlanks_append hpad _)
  | cons w vs ih =>
    obtain ⟨n, rfl⟩ := Nat.exists_eq_succ_of_ne_zero (show fuel ≠ 0 by omega)
    rw [depthItems, Nat.max_le] at hdepth
    have hparts : joined gap ((v :: w :: vs).map (Writer.value layout indent)) =
        (Writer.value layout indent v).toList ++
          ',' :: (gap ++ joined gap ((w :: vs).map (Writer.value layout indent))) :=
      joined_cons_cons _ _ _ _
    have hlength := congrArg List.length hparts
    rw [List.length_append, List.length_cons, List.length_append] at hlength
    have hrest := ih (fun u hu => htexts u (.tail _ hu)) (fun u hu => hreads u (.tail _ hu))
      hdepth.2 (show _ < n by omega)
    rw [hparts, List.append_assoc, List.cons_append, List.append_assoc]
    refine items_more (hreads v (.head _) _ _ _ _ hdepth.1 (by omega)) rfl ?_
    have hnext : Opens (joined gap ((w :: vs).map (Writer.value layout indent))) :=
      opens_joined (opens_value (htexts w (.tail _ (.head _))) layout indent) gap _
    rw [skipBlanks_opens hgap (hnext.append _)]
    exact hrest

/-- The members of an object are read up to its end. -/
theorem members_joined (hgap : Blanks gap) (hpad : Blanks pad) (rest : List Char)
    {m : String × Json} {ms : List (String × Json)}
    (hnames : ∀ n ∈ m :: ms, Text.WellFormed n.1) (htexts : ∀ n ∈ m :: ms, OfTexts n.2)
    (hreads : ∀ n ∈ m :: ms, ReadsBack layout n.2) {fuel depth : Nat}
    (hdepth : depthMembers (m :: ms) ≤ depth)
    (hfuel : 2 * (joined gap ((m :: ms).map (memberText layout indent))).length < fuel) :
    members fuel depth (joined gap ((m :: ms).map (memberText layout indent)) ++
      (pad ++ '\x7d' :: rest)) = .ok (m :: ms, rest) := by
  induction ms generalizing m fuel with
  | nil =>
    obtain ⟨n, rfl⟩ := Nat.exists_eq_succ_of_ne_zero (show fuel ≠ 0 by omega)
    rw [depthMembers, Nat.max_le] at hdepth
    rw [List.map_singleton, joined_singleton] at hfuel ⊢
    obtain ⟨tail, after, htail, hname, hv⟩ := member_read layout indent (hnames m (.head _))
      (htexts m (.head _)) (hreads m (.head _)) hdepth.1 (show _ ≤ n by omega)
        (pad ++ '\x7d' :: rest)
    rw [htail]
    exact members_last hname hv (skipBlanks_append hpad _)
  | cons m' ms ih =>
    obtain ⟨n, rfl⟩ := Nat.exists_eq_succ_of_ne_zero (show fuel ≠ 0 by omega)
    rw [depthMembers, Nat.max_le] at hdepth
    have hparts : joined gap ((m :: m' :: ms).map (memberText layout indent)) =
        (memberText layout indent m).toList ++
          ',' :: (gap ++ joined gap ((m' :: ms).map (memberText layout indent))) :=
      joined_cons_cons _ _ _ _
    have hlength := congrArg List.length hparts
    rw [List.length_append, List.length_cons, List.length_append] at hlength
    have hrest := ih (fun u hu => hnames u (.tail _ hu)) (fun u hu => htexts u (.tail _ hu))
      (fun u hu => hreads u (.tail _ hu)) hdepth.2 (show _ < n by omega)
    obtain ⟨tail, after, htail, hname, hv⟩ := member_read layout indent (hnames m (.head _))
      (htexts m (.head _)) (hreads m (.head _)) hdepth.1 (show _ ≤ n by omega)
        (',' :: (gap ++ (joined gap ((m' :: ms).map (memberText layout indent)) ++
          (pad ++ '\x7d' :: rest))))
    rw [hparts, List.append_assoc, List.cons_append, List.append_assoc, htail]
    refine members_more hname hv rfl ?_
    have hnext : Opens (joined gap ((m' :: ms).map (memberText layout indent))) :=
      opens_joined (opens_memberText layout indent m') gap _
    rw [skipBlanks_opens hgap (hnext.append _)]
    exact hrest

end

/-- An array is read if its items are, with one less fuel and depth. -/
theorem value_arr {fuel depth : Nat} {pad cs rest : List Char} {vs : List Json}
    (hdepth : 0 < depth) (hpad : Blanks pad) (hopens : Opens cs)
    (hvs : items fuel (depth - 1) cs = .ok (vs, rest)) :
    value (fuel + 1) depth ('[' :: (pad ++ cs)) = .ok (.arr vs, rest) := by
  rw [value, if_neg (by omega), skipBlanks_opens hpad hopens]
  split
  · exact absurd rfl (hopens.ne_cons (by decide) _)
  · rw [hvs]
    rfl

/-- So is an object. -/
theorem value_obj {fuel depth : Nat} {pad cs rest : List Char} {ms : List (String × Json)}
    (hdepth : 0 < depth) (hpad : Blanks pad) (hopens : Opens cs)
    (hms : members fuel (depth - 1) cs = .ok (ms, rest)) :
    value (fuel + 1) depth ('\x7b' :: (pad ++ cs)) = .ok (.obj (ofMembers ms), rest) := by
  rw [value, if_neg (by omega), skipBlanks_opens hpad hopens]
  split
  · exact absurd rfl (hopens.ne_cons (by decide) _)
  · rw [hms]
    rfl

/-- Fuel for what is between brackets is left. -/
theorem exists_fuel {l r : Char} {pad inside pad' : List Char} {fuel : Nat}
    (hfuel : 2 * (l :: (pad ++ (inside ++ (pad' ++ [r])))).length ≤ fuel) :
    ∃ n, fuel = n + 1 ∧ 2 * inside.length < n := by
  simp only [List.length_cons, List.length_append, List.length_nil] at hfuel
  exact ⟨fuel - 1, by omega, by omega⟩

/-- So an array is read back if its items are. -/
theorem readsBack_arr {layout : Layout} {vs : List Json} (htexts : ∀ v ∈ vs, OfTexts v)
    (hreads : ∀ v ∈ vs, ReadsBack layout v) : ReadsBack layout (.arr vs) := by
  intro indent fuel depth rest hdepth hfuel
  have hl : "[".toList = ['['] := rfl
  have hr : "]".toList = [']'] := rfl
  rw [Json.depth] at hdepth
  rw [Writer.value, items_eq_map] at hfuel ⊢
  cases vs with
  | nil =>
    rw [List.map_nil, enclosed_nil layout indent hl hr] at hfuel ⊢
    obtain ⟨n, rfl⟩ := Nat.exists_eq_succ_of_ne_zero (show fuel ≠ 0 by rintro rfl; cases hfuel)
    obtain ⟨d, rfl⟩ := Nat.exists_eq_succ_of_ne_zero (show depth ≠ 0 by omega)
    rfl
  | cons v vs =>
    have hne : (v :: vs).map (Writer.value layout (indent + 1)) ≠ [] := List.cons_ne_nil _ _
    obtain ⟨pad, gap, pad', hpad, hgap, hpad', hwritten⟩ := enclosed_parts layout indent hl hr hne
    rw [hwritten] at hfuel ⊢
    obtain ⟨n, rfl, hn⟩ := exists_fuel hfuel
    have hopens : Opens (joined gap ((v :: vs).map (Writer.value layout (indent + 1)))) :=
      opens_joined (opens_value (htexts v (.head _)) _ _) gap _
    have hitems := items_joined hgap hpad' rest htexts hreads
      (show depthItems (v :: vs) ≤ depth - 1 by omega) hn
    simp only [List.cons_append, List.append_assoc, List.nil_append]
    exact value_arr (by omega) hpad (hopens.append _) hitems

/-- An object is read back if the values of its members are; no name takes the place of another one.
-/
theorem readsBack_obj {layout : Layout} {ms : List (String × Json)}
    (hdistinct : (ms.map (·.1)).Nodup) (hnames : ∀ m ∈ ms, Text.WellFormed m.1)
    (htexts : ∀ m ∈ ms, OfTexts m.2) (hreads : ∀ m ∈ ms, ReadsBack layout m.2) :
    ReadsBack layout (.obj ms) := by
  intro indent fuel depth rest hdepth hfuel
  have hl : "\x7b".toList = ['\x7b'] := rfl
  have hr : "\x7d".toList = ['\x7d'] := rfl
  rw [Json.depth] at hdepth
  rw [Writer.value, members_eq_map] at hfuel ⊢
  cases ms with
  | nil =>
    rw [List.map_nil, enclosed_nil layout indent hl hr] at hfuel ⊢
    obtain ⟨n, rfl⟩ := Nat.exists_eq_succ_of_ne_zero (show fuel ≠ 0 by rintro rfl; cases hfuel)
    obtain ⟨d, rfl⟩ := Nat.exists_eq_succ_of_ne_zero (show depth ≠ 0 by omega)
    rfl
  | cons m ms =>
    have hne : (m :: ms).map (memberText layout (indent + 1)) ≠ [] := List.cons_ne_nil _ _
    obtain ⟨pad, gap, pad', hpad, hgap, hpad', hwritten⟩ := enclosed_parts layout indent hl hr hne
    rw [hwritten] at hfuel ⊢
    obtain ⟨n, rfl, hn⟩ := exists_fuel hfuel
    have hopens : Opens (joined gap ((m :: ms).map (memberText layout (indent + 1)))) :=
      opens_joined (opens_memberText _ _ m) gap _
    have hmembers := members_joined hgap hpad' rest hnames htexts hreads
      (show depthMembers (m :: ms) ≤ depth - 1 by omega) hn
    simp only [List.cons_append, List.append_assoc, List.nil_append]
    rw [value_obj (by omega) hpad (hopens.append _) hmembers, ofMembers_of_nodup hdistinct]

/-- Every document of texts is read back. -/
theorem readsBack_ofTexts {v : Json} (h : OfTexts v) (layout : Layout) : ReadsBack layout v := by
  induction h with
  | str hs => exact readsBack_str hs layout
  | arr htexts ih => exact readsBack_arr htexts ih
  | obj hdistinct hnames htexts ih => exact readsBack_obj hdistinct hnames htexts ih

/-! ## ASCII -/

/-- Blanks are ASCII. -/
theorem Blanks.ascii {cs : List Char} (h : Blanks cs) : Ascii cs := by
  intro c hc
  rcases h c hc with rfl | rfl <;> decide

/-- So is what is put together from ASCII. -/
theorem ascii_joined {gap : List Char} (hgap : Blanks gap) {parts : List String}
    (h : ∀ part ∈ parts, Ascii part.toList) : Ascii (joined gap parts) := by
  induction parts with
  | nil => exact ascii_nil
  | cons part parts ih =>
    cases parts with
    | nil =>
      rw [joined_singleton]
      exact h part (.head _)
    | cons next parts =>
      rw [joined_cons_cons]
      refine (h part (.head _)).append (.cons (by decide) (hgap.ascii.append (ih ?_)))
      exact fun p hp => h p (.tail _ hp)

/-- So is a container of such parts. -/
theorem ascii_enclosed {layout : Layout} {indent : Nat} {left right : String} {l r : Char}
    (hl : left.toList = [l]) (hr : right.toList = [r]) (hascii : Ascii [l, r]) {parts : List String}
    (h : ∀ part ∈ parts, Ascii part.toList) :
    Ascii (Writer.enclosed layout indent left right parts).toList := by
  by_cases hparts : parts = []
  · rwa [hparts, enclosed_nil layout indent hl hr]
  · obtain ⟨pad, gap, pad', hpad, hgap, hpad', heq⟩ := enclosed_parts layout indent hl hr hparts
    rw [heq]
    have hright : Ascii [r] := fun c hc => hascii c (.tail _ hc)
    exact .cons (hascii l (.head _))
      (hpad.ascii.append ((ascii_joined hgap h).append (hpad'.ascii.append hright)))

/-- A document of texts is written in ASCII. -/
theorem ascii_value {v : Json} (h : OfTexts v) (layout : Layout) (indent : Nat) :
    Ascii (Writer.value layout indent v).toList := by
  induction h generalizing indent with
  | str _ => exact ascii_string _
  | arr _ ih =>
    rw [Writer.value, items_eq_map]
    have hbrackets : Ascii ['[', ']'] := .cons (by decide) (.cons (by decide) ascii_nil)
    refine ascii_enclosed rfl rfl hbrackets fun part hpart => ?_
    obtain ⟨w, hw, rfl⟩ := List.mem_map.1 hpart
    exact ih w hw _
  | obj _ _ _ ih =>
    rw [Writer.value, members_eq_map]
    have hbrackets : Ascii ['\x7b', '\x7d'] := .cons (by decide) (.cons (by decide) ascii_nil)
    refine ascii_enclosed rfl rfl hbrackets fun part hpart => ?_
    obtain ⟨m, hm, rfl⟩ := List.mem_map.1 hpart
    have hcolon : Ascii [':', ' '] := .cons (by decide) (.cons (by decide) ascii_nil)
    rw [memberText, String.toList_append, String.toList_append]
    exact ((ascii_string m.1).append hcolon).append (ih m hm _)

end Parser

/-! ## Documents -/

/-- A document of texts that is not nested too deep is read as it was written. -/
theorem parse_write {v : Json} (h : OfTexts v) (hdepth : v.depth ≤ Parser.maxDepth)
    (layout : Layout) : parse (write layout v) = .ok v := by
  have hopens := Parser.opens_value h layout 0
  have hskip : Parser.skipBlanks (Writer.value layout 0 v).toList =
      (Writer.value layout 0 v).toList := Parser.skipBlanks_opens Parser.blanks_nil hopens
  have hread := Parser.readsBack_ofTexts h layout 0
    (2 * (Writer.value layout 0 v).toList.length + 2) Parser.maxDepth [] hdepth (by omega)
  rw [List.append_nil] at hread
  rw [parse, write]
  simp only [hskip, hread]
  rfl

/-- The text of a document of texts has bytes. -/
theorem hasHalf_write {v : Json} (h : OfTexts v) (layout : Layout) :
    Text.hasHalf (write layout v) = false := by
  refine Text.hasHalf_of_noMark fun hmark => ?_
  exact absurd (Parser.ascii_value h layout 0 _ hmark) (by decide)

end SchemaToSwift.Json
