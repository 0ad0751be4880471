import Mathlib.Data.List.TakeDrop
import SchemaToSwift.Proofs.Json.Members
import SchemaToSwift.Proofs.Json.Strings
import SchemaToSwift.Proofs.Result

/-!
# Texts that are read

The text of a file has bytes, so it is made of characters (`Plain`). Every string and every name in
a document that such a text is can be held by a document (`parse_wellFormed`): a half of a surrogate
pair comes from an escape, and the reader joins the escape of a first half with that of a second one
behind it. Each reader of the parser leaves such a text behind, which is what the induction on the
fuel carries on.
-/

namespace SchemaToSwift.Json

/-- A document in which a document can hold all strings and names, and each object has a name
once. -/
inductive WellFormed : Json → Prop
  | null : WellFormed .null
  | bool (b : Bool) : WellFormed (.bool b)
  | int (n : Int) : WellFormed (.int n)
  | double (d : Double) : WellFormed (.double d)
  | str {s : String} (h : Text.WellFormed s) : WellFormed (.str s)
  | arr {vs : List Json} (h : ∀ v ∈ vs, WellFormed v) : WellFormed (.arr vs)
  | obj {ms : List (String × Json)} (hdistinct : (ms.map (·.1)).Nodup)
    (hnames : ∀ m ∈ ms, Text.WellFormed m.1) (h : ∀ m ∈ ms, WellFormed m.2) : WellFormed (.obj ms)

namespace Parser

open Text (Point)

/-! ## Texts of characters -/

/-- Characters as a text writes them. -/
def Plain (cs : List Char) : Prop :=
  ∃ raw : List Char, cs = raw.flatMap fun c => (Point.char c).chars

/-- A text without halves is made of characters. -/
theorem plain_of_hasHalf {s : String} (hs : Text.WellFormed s) (h : Text.hasHalf s = false) :
    Plain s.toList := by
  obtain ⟨ps, rfl, -⟩ := hs
  rw [Text.hasHalf, Text.points_ofPoints, List.any_eq_false] at h
  rw [Text.ofPoints, String.toList_ofList]
  induction ps with
  | nil => exact ⟨[], rfl⟩
  | cons p ps ih =>
    obtain ⟨raw, hraw⟩ := ih fun q hq => h q (.tail _ hq)
    cases p with
    | char c => exact ⟨c :: raw, by rw [List.flatMap_cons, hraw, List.flatMap_cons]⟩
    | half offset => exact absurd rfl (h _ (.head _))

/-- A text of characters begins with a character of its own or with two marks. -/
theorem Plain.of_cons {c : Char} {cs : List Char} (h : Plain (c :: cs)) :
    c ≠ Text.mark ∧ Plain cs ∨ c = Text.mark ∧ ∃ rest, cs = Text.mark :: rest ∧ Plain rest := by
  obtain ⟨raw, hraw⟩ := h
  cases raw with
  | nil => cases hraw
  | cons d raw =>
    rw [List.flatMap_cons] at hraw
    by_cases hd : d = Text.mark
    · rw [Point.chars, if_pos hd] at hraw
      obtain ⟨rfl, rfl⟩ := List.cons.inj hraw
      exact .inr ⟨rfl, _, rfl, raw, rfl⟩
    · rw [Point.chars, if_neg hd] at hraw
      obtain ⟨rfl, rfl⟩ := List.cons.inj hraw
      exact .inl ⟨hd, raw, rfl⟩

/-- A character other than the mark can be taken from a text of characters. -/
theorem Plain.tail {c : Char} {cs : List Char} (h : Plain (c :: cs))
    (hc : c ≠ Text.mark := by decide) : Plain cs := by
  rcases h.of_cons with ⟨-, hcs⟩ | ⟨hmark, -⟩
  · exact hcs
  · exact absurd hmark hc

/-- What is left of a text of characters when characters other than the mark are taken from it. -/
theorem Plain.of_append {xs ys : List Char} (h : Plain (xs ++ ys)) (hxs : Text.mark ∉ xs) :
    Plain ys := by
  induction xs with
  | nil => exact h
  | cons x xs ih =>
    rw [List.mem_cons, not_or] at hxs
    exact ih (h.tail (Ne.symm hxs.1)) hxs.2

/-- So can characters of a kind that the mark is not of. -/
theorem Plain.dropWhile {p : Char → Bool} (hp : p Text.mark = false) {cs : List Char}
    (h : Plain cs) : Plain (cs.dropWhile p) := by
  rw [← List.takeWhile_append_dropWhile (p := p) (l := cs)] at h
  refine h.of_append fun hmark => ?_
  have htrue := List.all_eq_true.1 List.all_takeWhile _ hmark
  rw [hp] at htrue
  cases htrue

/-- So can blanks. -/
theorem Plain.skipBlanks {cs : List Char} (h : Plain cs) : Plain (skipBlanks cs) :=
  h.dropWhile (by decide)

/-! ## Strings -/

/-- What the reader has of a string: joined code points, which no second half follows if they end
with a first one. -/
structure Ahead (ps : List Point) (cs : List Char) : Prop where
  joined : Text.Joined ps
  noLow : ∀ p, ps.getLast? = some p → p.isHigh = true → NoLowAhead cs
  plain : Plain cs

/-- One more code point, which is no second half unless it stands alone. -/
theorem Ahead.concat {ps : List Point} {cs rest : List Char} (h : Ahead ps cs) {p : Point}
    (hlow : p.isLow = true → ¬ NoLowAhead cs) (hnoLow : p.isHigh = true → NoLowAhead rest)
    (hplain : Plain rest) : Ahead (ps ++ [p]) rest where
  joined := by
    rw [Text.Joined, List.isChain_append]
    refine ⟨h.joined, .singleton p, fun q hq p' hp' hboth => ?_⟩
    obtain rfl : p = p' := by simpa using hp'
    exact hlow hboth.2 (h.noLow q hq hboth.1)
  noLow q hq hhigh := by
    obtain rfl : p = q := by simpa using hq
    exact hnoLow hhigh
  plain := hplain

/-- A character is no half. -/
theorem Ahead.concat_char {ps : List Point} {cs rest : List Char} (h : Ahead ps cs) (c : Char)
    (hrest : Plain rest) : Ahead (ps ++ [.char c]) rest :=
  h.concat (fun hlow => nomatch hlow) (fun hhigh => nomatch hhigh) hrest

theorem isHigh_half (offset : Fin 2048) : (Point.half offset).isHigh = true ↔ offset.val < 1024 :=
  decide_eq_true_iff

theorem isLow_half (offset : Fin 2048) : (Point.half offset).isLow = true ↔ 1024 ≤ offset.val :=
  decide_eq_true_iff

/-- Only the units of first halves are read as such. -/
theorem isHigh_ofUnit {unit : Nat} (h : (Point.ofUnit unit).isHigh = true) :
    0xd800 ≤ unit ∧ unit < 0xdc00 := by
  unfold Point.ofUnit at h
  split at h
  · next hunit =>
    rw [isHigh_half] at h
    simp only [Text.firstHalf] at hunit h
    omega
  · cases h

/-- Only those of second halves are. -/
theorem isLow_ofUnit {unit : Nat} (h : (Point.ofUnit unit).isLow = true) :
    0xdc00 ≤ unit ∧ unit < 0xe000 := by
  unfold Point.ofUnit at h
  split at h
  · next hunit =>
    rw [isLow_half] at h
    simp only [Text.firstHalf] at hunit h
    omega
  · cases h

/-- A digit is no mark. -/
theorem ne_mark_of_hexValue? {c : Char} {n : Nat} (h : hexValue? c = some n) : c ≠ Text.mark := by
  rintro rfl
  have hmark : hexValue? Text.mark = none := by decide
  rw [hmark] at h
  cases h

/-- Four digits are taken from a text of characters. -/
theorem Plain.hex4? {cs rest : List Char} {n : Nat} (h : Plain cs)
    (hhex : hex4? cs = some (n, rest)) : Plain rest := by
  unfold Parser.hex4? at hhex
  split at hhex
  · next a b c d tail =>
    simp only [Option.bind_eq_bind, Option.bind_eq_some_iff, Option.pure_def, Option.some.injEq,
      Prod.mk.injEq] at hhex
    obtain ⟨x, hx, y, hy, z, hz, w, hw, -, rfl⟩ := hhex
    exact (((h.tail (ne_mark_of_hexValue? hx)).tail (ne_mark_of_hexValue? hy)).tail
      (ne_mark_of_hexValue? hz)).tail (ne_mark_of_hexValue? hw)
  · cases hhex

/-- A first half is read where no second one is behind it, and a second half by its unit. -/
theorem unitPoint_spec (unit : Nat) {rest : List Char} (hrest : Plain rest) :
    ((unitPoint unit rest).1.isHigh = true → NoLowAhead (unitPoint unit rest).2) ∧
      ((unitPoint unit rest).1.isLow = true → 0xdc00 ≤ unit ∧ unit < 0xe000) ∧
      Plain (unitPoint unit rest).2 := by
  by_cases hhigh : 0xd800 ≤ unit ∧ unit < 0xdc00
  · by_cases hahead : NoLowAhead rest
    · rw [unitPoint_alone fun _ => hahead]
      exact ⟨fun _ => hahead, isLow_ofUnit, hrest⟩
    · simp only [NoLowAhead, not_forall, not_not] at hahead
      obtain ⟨after, rfl, low, rest', hhex, hlow⟩ := hahead
      have hpair : unitPoint unit ('\\' :: 'u' :: after) =
          (.char (Char.ofNat (0x10000 + (unit - 0xd800) * 1024 + (low - 0xdc00))), rest') := by
        simp only [unitPoint, if_pos hhigh, hhex, if_pos hlow]
      rw [hpair]
      have hafter : Plain after := hrest.tail.tail
      exact ⟨(fun h => absurd h Bool.false_ne_true), (fun h => absurd h Bool.false_ne_true),
        hafter.hex4? hhex⟩
  · rw [unitPoint_alone fun h => absurd h hhigh]
    exact ⟨fun h => absurd (isHigh_ofUnit h) hhigh, isLow_ofUnit, hrest⟩

theorem reverse_chars_concat (ps : List Point) (p : Point) :
    ((ps ++ [p]).flatMap Point.chars).reverse =
      p.chars.reverse ++ (ps.flatMap Point.chars).reverse := by
  simp

/-- The reader has what it has read in reverse, so that a character is put in front. -/
theorem reverse_chars_char (ps : List Point) {c : Char} (hc : c ≠ Text.mark) :
    ((ps ++ [Point.char c]).flatMap Point.chars).reverse =
      c :: (ps.flatMap Point.chars).reverse := by
  simp [Point.chars, hc]

/-- The mark is written twice. -/
theorem reverse_chars_mark (ps : List Point) :
    ((ps ++ [Point.char Text.mark]).flatMap Point.chars).reverse =
      Text.mark :: Text.mark :: (ps.flatMap Point.chars).reverse := by
  simp [Point.chars]

/-- The mark is read as it is. -/
theorem stringRest_mark (fuel : Nat) (done rest : List Char) :
    stringRest (fuel + 1) done (Text.mark :: rest) = stringRest fuel (Text.mark :: done) rest :=
  rfl

/-- The letter of an escape and what it stands for are no marks. -/
theorem ne_mark_of_escaped? {e d : Char} (h : escaped? e = some d) :
    e ≠ Text.mark ∧ d ≠ Text.mark := by
  unfold escaped? at h
  split at h <;> first | (cases h; decide) | cases h

/-- A string is read as a text that a document can hold. -/
theorem stringRest_wellFormed {fuel : Nat} {ps : List Point} {cs rest : List Char} {s : String}
    (h : Ahead ps cs)
    (hread : stringRest fuel (ps.flatMap Point.chars).reverse cs = .ok (s, rest)) :
    Text.WellFormed s ∧ Plain rest := by
  induction fuel using Nat.strongRecOn generalizing ps cs with
  | ind fuel ih =>
    cases fuel with
    | zero => cases hread
    | succ n =>
      cases cs with
      | nil => cases hread
      | cons c cs =>
        have hplain := h.plain
        rw [stringRest.eq_def] at hread
        dsimp only at hread
        split at hread
        · next hquote =>
          obtain ⟨rfl, rfl⟩ := Prod.mk.inj (Except.ok.inj hread)
          rw [beq_iff_eq] at hquote
          subst hquote
          rw [List.reverse_reverse]
          exact ⟨⟨ps, rfl, h.joined⟩, hplain.tail⟩
        split at hread
        · next hslash =>
          rw [beq_iff_eq] at hslash
          subst hslash
          have hcs := hplain.tail
          split at hread
          · next after =>
            split at hread
            · next unit after' hhex =>
              have hafter := hcs.tail.hex4? hhex
              obtain ⟨hhigh, hlow, hrest⟩ := unitPoint_spec unit hafter
              rw [← reverse_chars_concat] at hread
              refine ih n (Nat.lt_succ_self n) (h.concat (fun hp hno => ?_) hhigh hrest) hread
              exact hno after rfl unit after' hhex (hlow hp)
            · cases hread
          · next e after _ =>
            split at hread
            · next d hd =>
              obtain ⟨he, hne⟩ := ne_mark_of_escaped? hd
              rw [← reverse_chars_char ps hne] at hread
              exact ih n (Nat.lt_succ_self n) (h.concat_char d (hcs.tail he)) hread
            · cases hread
          · cases hread
        split at hread
        · cases hread
        next hspecial =>
        rcases hplain.of_cons with ⟨hne, hcs⟩ | ⟨rfl, cs', rfl, hcs'⟩
        · rw [← reverse_chars_char ps hne] at hread
          exact ih n (Nat.lt_succ_self n) (h.concat_char c hcs) hread
        · -- the two marks that stand for one are read in two steps
          cases n with
          | zero => cases hread
          | succ m =>
            rw [stringRest_mark, ← reverse_chars_mark] at hread
            exact ih m (by omega) (h.concat_char _ hcs') hread

/-! ## Scalars -/

/-- A run of characters of a kind that the mark is not of leaves a text of characters. -/
theorem Plain.span {p : Char → Bool} (hp : p Text.mark = false) {cs xs ys : List Char}
    (h : Plain cs) (hspan : cs.span p = (xs, ys)) : Plain ys := by
  rw [List.span_eq_takeWhile_dropWhile] at hspan
  obtain rfl := (Prod.mk.inj hspan).2
  exact h.dropWhile hp

/-- So do the places after a point. -/
theorem Plain.fraction {cs : List Char} (h : Plain cs) : Plain (fraction cs).2 := by
  unfold Parser.fraction
  split
  · next rest =>
    split
    · exact h
    · next ds after _ hspan => exact h.tail.span (by decide) hspan
  · exact h

/-- So does an exponent. -/
theorem Plain.exponent? {cs rest : List Char} {e : Int} (h : Plain cs)
    (hread : exponent? cs = some (e, rest)) : Plain rest := by
  unfold Parser.exponent? at hread
  split at hread
  · next c tail =>
    split at hread
    · next hc =>
      have hmark : c ≠ Text.mark := by
        rintro rfl
        exact absurd hc (by decide)
      have htail := h.tail hmark
      split at hread
      next negative digits hsign =>
      have hdigits : Plain digits := by
        split at hsign <;> obtain ⟨-, rfl⟩ := Prod.mk.inj hsign
        · exact htail.tail
        · exact htail.tail
        · exact htail
      split at hread
      · cases hread
      · next ds after _ hspan =>
        obtain ⟨-, rfl⟩ := Prod.mk.inj (Option.some.inj hread)
        exact hdigits.span (by decide) hspan
    · cases hread
  · cases hread

/-- A number holds no text. -/
theorem number_spec {negative : Bool} {cs rest : List Char} {v : Json} (h : Plain cs)
    (hread : number negative cs = .ok (v, rest)) :
    ((∃ d, v = .double d) ∨ ∃ n, v = .int n) ∧ Plain rest := by
  unfold number at hread
  split at hread
  next whole tail hwhole =>
  have htail : Plain tail := by
    split at hwhole
    · obtain ⟨-, rfl⟩ := Prod.mk.inj hwhole
      exact h.tail
    · exact h.span (by decide) hwhole
  split at hread
  · cases hread
  split at hread
  next places after hplaces =>
  have hafter : Plain after := by
    have hfraction := htail.fraction
    rwa [hplaces] at hfraction
  split at hread
  · next e after' hexponent =>
    obtain ⟨rfl, rfl⟩ := Prod.mk.inj (Except.ok.inj hread)
    exact ⟨.inl ⟨_, rfl⟩, hafter.exponent? hexponent⟩
  split at hread
  · obtain ⟨rfl, rfl⟩ := Prod.mk.inj (Except.ok.inj hread)
    exact ⟨.inl ⟨_, rfl⟩, hafter⟩
  split at hread
  · cases hread
  · obtain ⟨rfl, rfl⟩ := Prod.mk.inj (Except.ok.inj hread)
    exact ⟨.inr ⟨_, rfl⟩, hafter⟩

/-- So does a word that the mark is not in. -/
theorem Plain.word? {w cs rest : List Char} (h : Plain cs) (hw : Text.mark ∉ w)
    (hread : word? w cs = some rest) : Plain rest := by
  unfold Parser.word? at hread
  split at hread
  · next hprefix =>
    obtain ⟨tail, rfl⟩ := List.isPrefixOf_iff_prefix.1 hprefix
    rw [List.drop_left] at hread
    obtain rfl := Option.some.inj hread
    exact h.of_append hw
  · cases hread

/-- A value that is neither a string nor a container holds no text. -/
theorem scalar_spec {cs rest : List Char} {v : Json} (h : Plain cs)
    (hread : scalar cs = .ok (v, rest)) : v.WellFormed ∧ Plain rest := by
  have hnumber {negative : Bool} {cs' : List Char} (hcs' : Plain cs')
      (hread' : number negative cs' = .ok (v, rest)) : v.WellFormed ∧ Plain rest := by
    obtain ⟨⟨d, rfl⟩ | ⟨n, rfl⟩, hrest⟩ := number_spec hcs' hread'
    · exact ⟨.double d, hrest⟩
    · exact ⟨.int n, hrest⟩
  unfold scalar at hread
  dsimp only at hread
  split at hread
  · next reading hfind =>
    obtain rfl := Except.ok.inj hread
    obtain ⟨⟨w, u⟩, hmem, hword⟩ := List.exists_of_findSome?_eq_some hfind
    dsimp only at hword
    rw [Option.map_eq_some_iff] at hword
    obtain ⟨tail, htail, heq⟩ := hword
    obtain ⟨rfl, rfl⟩ := Prod.mk.inj heq
    have hspec : Text.mark ∉ w ∧ u.WellFormed := by
      simp only [List.mem_cons, Prod.mk.injEq, List.not_mem_nil, or_false] at hmem
      rcases hmem with ⟨rfl, rfl⟩ | ⟨rfl, rfl⟩ | ⟨rfl, rfl⟩ | ⟨rfl, rfl⟩ | ⟨rfl, rfl⟩ | ⟨rfl, rfl⟩
      · exact ⟨by decide, .null⟩
      · exact ⟨by decide, .bool true⟩
      · exact ⟨by decide, .bool false⟩
      · exact ⟨by decide, .double _⟩
      · exact ⟨by decide, .double _⟩
      · exact ⟨by decide, .double _⟩
    exact ⟨hspec.2, h.word? hspec.1 htail⟩
  · split at hread
    · exact hnumber h.tail hread
    · exact hnumber h hread

/-! ## Values -/

/-- A string after its opening quote. -/
theorem string_spec {fuel : Nat} {cs rest : List Char} {s : String} (h : Plain cs)
    (hread : stringRest fuel [] cs = .ok (s, rest)) : Text.WellFormed s ∧ Plain rest :=
  stringRest_wellFormed ⟨.nil, (fun _ hp => nomatch hp), h⟩ hread

/-- What is read with some fuel is well formed, and what follows it is made of characters. -/
structure Sound (fuel : Nat) : Prop where
  value : ∀ {depth : Nat} {cs rest : List Char} {v : Json}, Plain cs →
    value fuel depth cs = .ok (v, rest) → v.WellFormed ∧ Plain rest
  items : ∀ {depth : Nat} {cs rest : List Char} {vs : List Json}, Plain cs →
    items fuel depth cs = .ok (vs, rest) → (∀ v ∈ vs, v.WellFormed) ∧ Plain rest
  members : ∀ {depth : Nat} {cs rest : List Char} {ms : List (String × Json)}, Plain cs →
    members fuel depth cs = .ok (ms, rest) →
      (∀ m ∈ ms, Text.WellFormed m.1 ∧ m.2.WellFormed) ∧ Plain rest

/-- A value is sound with one more fuel if all that is in it is with less. -/
theorem sound_value {fuel depth : Nat} (ih : Sound fuel) {cs rest : List Char} {v : Json}
    (h : Plain cs) (hread : Parser.value (fuel + 1) depth cs = .ok (v, rest)) :
    v.WellFormed ∧ Plain rest := by
  rw [Parser.value.eq_def] at hread
  dsimp only at hread
  split at hread
  · next tail =>
    obtain ⟨⟨s, after⟩, hs, hdone⟩ := Result.bind_eq_ok_iff.1 hread
    obtain ⟨rfl, rfl⟩ := Prod.mk.inj (Except.ok.inj hdone)
    obtain ⟨hwf, hrest⟩ := string_spec h.tail hs
    exact ⟨.str hwf, hrest⟩
  · next tail =>
    have htail : Plain (skipBlanks tail) := h.tail.skipBlanks
    split at hread
    · cases hread
    split at hread
    · next after hafter =>
      obtain ⟨rfl, rfl⟩ := Prod.mk.inj (Except.ok.inj hread)
      rw [hafter] at htail
      exact ⟨.arr (fun _ hv => nomatch hv), htail.tail⟩
    · obtain ⟨⟨vs, after⟩, hvs, hdone⟩ := Result.bind_eq_ok_iff.1 hread
      obtain ⟨rfl, rfl⟩ := Prod.mk.inj (Except.ok.inj hdone)
      obtain ⟨hwf, hrest⟩ := ih.items htail hvs
      exact ⟨.arr hwf, hrest⟩
  · next tail =>
    have htail : Plain (skipBlanks tail) := h.tail.skipBlanks
    split at hread
    · cases hread
    split at hread
    · next after hafter =>
      obtain ⟨rfl, rfl⟩ := Prod.mk.inj (Except.ok.inj hread)
      rw [hafter] at htail
      exact ⟨.obj .nil (fun _ hm => nomatch hm) (fun _ hm => nomatch hm), htail.tail⟩
    · obtain ⟨⟨ms, after⟩, hms, hdone⟩ := Result.bind_eq_ok_iff.1 hread
      obtain ⟨rfl, rfl⟩ := Prod.mk.inj (Except.ok.inj hdone)
      obtain ⟨hwf, hrest⟩ := ih.members htail hms
      obtain ⟨hdistinct, hmem⟩ := ofMembers_spec ms
      exact ⟨.obj hdistinct (fun m hm => (hwf m (hmem m hm)).1)
        (fun m hm => (hwf m (hmem m hm)).2), hrest⟩
  · exact scalar_spec h hread

/-- So are the elements of an array, each of which leaves a text of characters to the next. -/
theorem sound_items {fuel depth : Nat} (ih : Sound fuel) {cs rest : List Char} {vs : List Json}
    (h : Plain cs) (hread : Parser.items (fuel + 1) depth cs = .ok (vs, rest)) :
    (∀ v ∈ vs, v.WellFormed) ∧ Plain rest := by
  rw [Parser.items] at hread
  obtain ⟨⟨v, after⟩, hv, hnext⟩ := Result.bind_eq_ok_iff.1 hread
  obtain ⟨hwf, hafter⟩ := ih.value h hv
  have hblanks := hafter.skipBlanks
  dsimp only at hnext
  split at hnext
  · next tail htail =>
    obtain ⟨rfl, rfl⟩ := Prod.mk.inj (Except.ok.inj hnext)
    rw [htail] at hblanks
    exact ⟨List.forall_mem_singleton.2 hwf, hblanks.tail⟩
  · next tail htail =>
    rw [htail] at hblanks
    obtain ⟨⟨us, after'⟩, hus, hdone⟩ := Result.bind_eq_ok_iff.1 hnext
    obtain ⟨rfl, rfl⟩ := Prod.mk.inj (Except.ok.inj hdone)
    obtain ⟨hwfs, hrest⟩ := ih.items hblanks.tail.skipBlanks hus
    exact ⟨List.forall_mem_cons.2 ⟨hwf, hwfs⟩, hrest⟩
  · cases hnext

/-- So are the members of an object with their names. -/
theorem sound_members {fuel depth : Nat} (ih : Sound fuel) {cs rest : List Char}
    {ms : List (String × Json)} (h : Plain cs)
    (hread : Parser.members (fuel + 1) depth cs = .ok (ms, rest)) :
    (∀ m ∈ ms, Text.WellFormed m.1 ∧ m.2.WellFormed) ∧ Plain rest := by
  rw [Parser.members.eq_def] at hread
  dsimp only at hread
  split at hread
  · next tail =>
    obtain ⟨⟨name, after⟩, hname, hcolon⟩ := Result.bind_eq_ok_iff.1 hread
    obtain ⟨hwfName, hafter⟩ := string_spec h.tail hname
    have hblanks := hafter.skipBlanks
    dsimp only at hcolon
    split at hcolon
    · next afterColon hafterColon =>
      rw [hafterColon] at hblanks
      obtain ⟨⟨v, afterValue⟩, hv, hnext⟩ := Result.bind_eq_ok_iff.1 hcolon
      obtain ⟨hwf, hafterValue⟩ := ih.value hblanks.tail.skipBlanks hv
      have hblanks' := hafterValue.skipBlanks
      dsimp only at hnext
      split at hnext
      · next afterEnd hend =>
        obtain ⟨rfl, rfl⟩ := Prod.mk.inj (Except.ok.inj hnext)
        rw [hend] at hblanks'
        exact ⟨List.forall_mem_singleton.2 ⟨hwfName, hwf⟩, hblanks'.tail⟩
      · next more hmore =>
        rw [hmore] at hblanks'
        obtain ⟨⟨ns, after'⟩, hns, hdone⟩ := Result.bind_eq_ok_iff.1 hnext
        obtain ⟨rfl, rfl⟩ := Prod.mk.inj (Except.ok.inj hdone)
        obtain ⟨hwfs, hrest⟩ := ih.members hblanks'.tail.skipBlanks hns
        exact ⟨List.forall_mem_cons.2 ⟨⟨hwfName, hwf⟩, hwfs⟩, hrest⟩
      · cases hnext
    · cases hcolon
  · cases hread

/-- The reader is sound with any fuel. -/
theorem sound (fuel : Nat) : Sound fuel := by
  induction fuel with
  | zero => exact ⟨(fun _ h => nomatch h), (fun _ h => nomatch h), (fun _ h => nomatch h)⟩
  | succ fuel ih => exact ⟨sound_value ih, sound_items ih, sound_members ih⟩

end Parser

/-- Whatever is read from a text with bytes can be held by a document. -/
theorem parse_wellFormed {s : String} {v : Json} (hs : Text.WellFormed s)
    (hbytes : Text.hasHalf s = false) (h : parse s = .ok v) : v.WellFormed := by
  unfold parse at h
  obtain ⟨⟨u, rest⟩, hu, hdone⟩ := Result.bind_eq_ok_iff.1 h
  have hplain := (Parser.plain_of_hasHalf hs hbytes).skipBlanks
  obtain ⟨hwf, -⟩ := (Parser.sound _).value hplain hu
  dsimp only at hdone
  split at hdone
  · obtain rfl := Except.ok.inj hdone
    exact hwf
  · cases hdone

end SchemaToSwift.Json
