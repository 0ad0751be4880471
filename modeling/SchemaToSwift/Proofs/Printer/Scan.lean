import Mathlib.Data.List.Basic
import SchemaToSwift.Printer

/-!
# The printer as a line scanner

A printer cuts a text into lines at many separators, while `scan` knows the line feed only: it goes
through a text character by character and puts the margin where a line opens. Both give the same
(`toList_content_add`). What is scanned in two parts is what is scanned in one, unless the cut comes
between the carriage return and the line feed of a blank line (`scan_append`, `scan_cut`). Scanning
with one margin and then with another puts both (`scan_scan`).
-/

namespace SchemaToSwift.Printer

/-! ## Scanning -/

/-- Whether a text that begins where a line starts opens a line that is indented: there is some of
it, and it does not begin with the end of the line. -/
def opensLine (cs : List Char) : Bool :=
  !(cs.isEmpty || ['\n'].isPrefixOf cs || ['\r', '\n'].isPrefixOf cs)

/-- A text with a margin where a line opens, at its beginning if a line starts there, and after each
line feed. -/
def scan (margin : List Char) (atLineStart : Bool) : List Char → List Char
  | [] => []
  | c :: rest =>
    (if atLineStart && opensLine (c :: rest) then margin else []) ++
      c :: scan margin (c == '\n') rest

/-- Whether a line starts after a text, given whether one started before it. -/
def startsAfter (atLineStart : Bool) (cs : List Char) : Bool :=
  cs.foldl (fun _ c => c == '\n') atLineStart

/-- A text ends with a carriage return that is all of its line so far, and the text after it begins
with a line feed. -/
def CutsBlankLine (atLineStart : Bool) (xs ys : List Char) : Prop :=
  ∃ line, xs = line ++ ['\r'] ∧ startsAfter atLineStart line = true ∧ ys.head? = some '\n'

section
variable {margin : List Char} {b : Bool}

/-- Whether a line starts after a text is found out part by part. -/
theorem startsAfter_append (b : Bool) (xs ys : List Char) :
    startsAfter b (xs ++ ys) = startsAfter (startsAfter b xs) ys := by
  simp [startsAfter]

/-- A line starts after a line feed and after nothing else. -/
theorem startsAfter_concat (b : Bool) (cs : List Char) (c : Char) :
    startsAfter b (cs ++ [c]) = (c == '\n') := by
  simp [startsAfter]

/-- After a text with a character the last one decides. -/
theorem startsAfter_eq (b : Bool) (cs : List Char) :
    startsAfter b cs = cs.getLast?.elim b (· == '\n') := by
  rcases List.eq_nil_or_concat' cs with rfl | ⟨init, c, rfl⟩
  · rfl
  · rw [startsAfter_concat, List.getLast?_concat, Option.elim_some]

/-- Without a margin a text is scanned as it is. -/
theorem scan_nil_margin (b : Bool) (cs : List Char) : scan [] b cs = cs := by
  induction cs generalizing b with
  | nil => rfl
  | cons c rest ih => simp [scan, ih]

/-- A margin ends no line. -/
theorem startsAfter_scan (b b' : Bool) (cs : List Char) :
    startsAfter b (scan margin b' cs) = startsAfter b cs := by
  have hcons (b : Bool) (c : Char) (rest : List Char) :
      startsAfter b (c :: rest) = startsAfter (c == '\n') rest := rfl
  induction cs generalizing b b' with
  | nil => rfl
  | cons c rest ih => rw [scan, startsAfter_append, hcons, hcons, ih]

/-- A margin alone is never scanned: it stands before some text. -/
theorem scan_eq_nil {cs : List Char} : scan margin b cs = [] ↔ cs = [] := by
  cases cs <;> simp [scan]

/-- What follows decides whether a line opens only after a carriage return. -/
theorem opensLine_append {c : Char} {xs ys : List Char}
    (h : ¬ (c = '\r' ∧ xs = [] ∧ ys.head? = some '\n')) :
    opensLine (c :: (xs ++ ys)) = opensLine (c :: xs) := by
  cases xs with
  | cons x xs => simp [opensLine, List.isPrefixOf]
  | nil =>
    cases ys with
    | nil => rfl
    | cons y ys =>
      have hpair : '\n' ≠ c → '\r' ≠ c ∨ '\n' ≠ y :=
        fun _ => not_and_or.1 fun ⟨hc, hy⟩ => h ⟨hc.symm, rfl, congrArg some hy.symm⟩
      simpa [opensLine, List.isPrefixOf] using hpair

/-- A text is scanned part by part, unless the cut is inside the end of a blank line. -/
theorem scan_append {xs : List Char} : ∀ {b : Bool} {ys : List Char}, ¬ CutsBlankLine b xs ys →
    scan margin b (xs ++ ys) = scan margin b xs ++ scan margin (startsAfter b xs) ys := by
  induction xs with
  | nil => exact fun _ => rfl
  | cons c rest ih =>
    intro b ys h
    have hrest : ¬ CutsBlankLine (c == '\n') rest ys := by
      rintro ⟨line, rfl, hstart, hys⟩
      exact h ⟨c :: line, rfl, hstart, hys⟩
    have hopens : (b && opensLine (c :: (rest ++ ys))) = (b && opensLine (c :: rest)) := by
      cases b with
      | false => rfl
      | true =>
        rw [opensLine_append]
        rintro ⟨rfl, rfl, hys⟩
        exact h ⟨[], rfl, rfl, hys⟩
    rw [List.cons_append, scan, scan, hopens, ih hrest, List.append_assoc, List.cons_append]
    rfl

variable (margin) in
/-- What is scanned in one part lacks the margin that a carriage return gets if the line feed after
it comes in another part. -/
theorem scan_cut {xs ys : List Char} (h : CutsBlankLine b xs ys) :
    ∃ before after, scan margin b (xs ++ ys) = before ++ after ∧
      scan margin b xs ++ scan margin (startsAfter b xs) ys = before ++ (margin ++ after) := by
  obtain ⟨line, rfl, hstart, hys⟩ := h
  obtain ⟨rest, rfl⟩ : ∃ rest, ys = '\n' :: rest := by
    cases ys with
    | nil => cases hys
    | cons y rest =>
      obtain rfl := Option.some.inj hys
      exact ⟨rest, rfl⟩
  have hline (zs : List Char) : scan margin b (line ++ '\r' :: zs) =
      scan margin b line ++ scan margin true ('\r' :: zs) := by
    rw [scan_append, hstart]
    rintro ⟨-, -, -, hzs⟩
    cases hzs
  refine ⟨scan margin b line, '\r' :: scan margin false ('\n' :: rest), ?_, ?_⟩
  · rw [List.append_assoc, List.singleton_append, hline]
    rfl
  · have hreturn : scan margin true ['\r'] = margin ++ ['\r'] := rfl
    rw [hline, startsAfter_concat, hreturn, List.append_assoc, List.append_assoc]
    rfl

/-- A text without a line feed before its end is a line, or the end of one. -/
theorem scan_line {line : List Char} (h : '\n' ∉ line.dropLast) :
    scan margin b line = (if b && opensLine line then margin else []) ++ line := by
  induction line generalizing b with
  | nil => simp [scan, opensLine]
  | cons c rest ih =>
    cases rest with
    | nil => rfl
    | cons d rest =>
      rw [List.dropLast_cons_of_ne_nil (List.cons_ne_nil _ _), List.mem_cons, not_or] at h
      rw [scan, ih h.2, beq_eq_false_iff_ne.2 (Ne.symm h.1)]
      rfl

/-- A margin without a line feed is passed over. -/
theorem scan_margin {inner : List Char} (h : '\n' ∉ inner) {cs : List Char}
    (hcs : cs.head? ≠ some '\n') :
    scan margin false (inner ++ cs) = inner ++ scan margin false cs := by
  have hcut : ¬ CutsBlankLine false inner cs := fun ⟨_, _, _, hhead⟩ => hcs hhead
  have hstart : startsAfter false inner = false := by
    rw [startsAfter_eq]
    cases hlast : inner.getLast? with
    | none => rfl
    | some c =>
      rw [Option.elim_some, beq_eq_false_iff_ne]
      rintro rfl
      exact h (List.mem_of_getLast? hlast)
  rw [scan_append hcut, hstart, scan_line fun hmem => h (List.dropLast_subset _ hmem)]
  rfl

/-- A margin in front of a line that is indented makes a line that is indented. -/
theorem opensLine_margin {inner : List Char} (h : '\n' ∉ inner) {cs : List Char}
    (hcs : opensLine cs = true) : opensLine (inner ++ cs) = true := by
  cases inner with
  | nil => exact hcs
  | cons c rest =>
    have hc : '\n' ≠ c := fun heq => h (heq ▸ .head _)
    have hsecond : (rest ++ cs).head? ≠ some '\n' := by
      cases rest with
      | nil =>
        intro hhead
        cases cs with
        | nil => cases hhead
        | cons d cs =>
          obtain rfl := Option.some.inj hhead
          cases hcs
      | cons d rest => exact fun hhead => h (Option.some.inj hhead ▸ .tail _ (.head _))
    rcases hall : rest ++ cs with _ | ⟨d, tail⟩
    · simp [hall, opensLine, List.isPrefixOf, hc]
    · rw [hall, List.head?_cons, ne_eq, Option.some.injEq] at hsecond
      simp [hall, opensLine, List.isPrefixOf, hc, Ne.symm hsecond]

/-- A text that has been scanned opens a line if it did before. -/
theorem opensLine_scan_cons (c : Char) (rest : List Char) :
    opensLine (c :: scan margin (c == '\n') rest) = opensLine (c :: rest) := by
  cases rest with
  | nil => rfl
  | cons d rest =>
    by_cases hc : c = '\n'
    · subst hc
      rfl
    · rw [scan, beq_eq_false_iff_ne.2 hc]
      simp [opensLine, List.isPrefixOf]

/-- A margin stands in front of a text that opens a line. -/
theorem scan_open {cs : List Char} (h : opensLine cs = true) :
    scan margin true cs = margin ++ scan margin false cs := by
  cases cs with
  | nil => cases h
  | cons c rest =>
    rw [scan, h]
    rfl

/-- Scanning a text that has its margins puts more in front of them. -/
theorem scan_scan {outer inner : List Char} (h : '\n' ∉ inner) (b : Bool) (cs : List Char) :
    scan outer b (scan inner b cs) = scan (outer ++ inner) b cs := by
  induction cs generalizing b with
  | nil => rfl
  | cons c rest ih =>
    rw [scan, scan]
    cases hopens : b && opensLine (c :: rest) with
    | false =>
      rw [if_neg nofun, if_neg nofun, List.nil_append, scan, opensLine_scan_cons, hopens, ih]
      rfl
    | true =>
      obtain ⟨rfl, hopens⟩ := Bool.and_eq_true_iff.1 hopens
      have hc : (c :: scan inner (c == '\n') rest).head? ≠ some '\n' := by
        intro hhead
        obtain rfl := Option.some.inj hhead
        cases hopens
      rw [if_pos rfl, if_pos rfl, scan_open (opensLine_margin h (by rwa [opensLine_scan_cons])),
        scan_margin h hc, scan, ih, List.append_assoc]
      rfl

end

/-! ## Lines -/

/-- Of lines those are blank that open none. -/
theorem isBlankLine_eq {line : List Char} (hne : line ≠ []) (h : '\n' ∉ line.dropLast) :
    isBlankLine line = !opensLine line := by
  match line with
  | [c] => simp [isBlankLine, opensLine, List.isPrefixOf, Bool.beq_comm]
  | c :: d :: rest =>
    rw [List.dropLast_cons_of_ne_nil (List.cons_ne_nil _ _), List.mem_cons, not_or] at h
    cases rest with
    | nil =>
      have hc : ('\n' == c) = false := beq_eq_false_iff_ne.2 h.1
      simp [isBlankLine, opensLine, List.isPrefixOf, hc, Bool.beq_comm]
    | cons e rest =>
      have hd : '\n' ≠ d := fun heq => h.2 (heq ▸ .head _)
      simp [isBlankLine, opensLine, List.isPrefixOf, h.1, hd]

/-! ## Printing -/

/-- The margin of the lines that come next. -/
def margin (p : Printer) : List Char := (indentation p.unit p.level).toList

/-- The second printer is the first one with a text scanned into it. -/
structure Scans (p : Printer) (cs : List Char) (q : Printer) : Prop where
  content : q.content.toList = p.content.toList ++ scan p.margin p.atLineStart cs
  atLineStart : q.atLineStart = startsAfter p.atLineStart cs
  isEmpty : q.isEmpty = (p.isEmpty && cs.isEmpty)
  unit : q.unit = p.unit
  level : q.level = p.level

/-- The content is what the pieces are made of, in order. -/
theorem toList_content (p : Printer) :
    p.content.toList = p.pieces.toList.flatMap String.toList := by
  rw [content, ← Array.foldl_toList, ← String.join_eq_foldl, String.toList_join]

namespace Scans

variable {p q r : Printer} {xs ys : List Char}

/-- A scan leaves the margin as it is. -/
theorem margin_eq (h : Scans p xs q) : q.margin = p.margin := by
  rw [margin, h.unit, h.level, margin]

theorem nil (p : Printer) : Scans p [] p := ⟨by simp [scan], rfl, by simp, rfl, rfl⟩

/-- A text in two parts, unless the cut is inside the end of a blank line. -/
theorem append (hx : Scans p xs q) (hy : Scans q ys r)
    (hcut : ¬ CutsBlankLine p.atLineStart xs ys) : Scans p (xs ++ ys) r where
  content := by
    rw [hy.content, hx.content, hx.margin_eq, hx.atLineStart, scan_append hcut, List.append_assoc]
  atLineStart := by rw [hy.atLineStart, hx.atLineStart, startsAfter_append]
  isEmpty := by cases xs <;> simp [hy.isEmpty, hx.isEmpty]
  unit := hy.unit.trans hx.unit
  level := hy.level.trans hx.level

/-- A line. -/
theorem addLine (p : Printer) {line : List Char} (hne : line ≠ []) (h : '\n' ∉ line.dropLast) :
    Scans p line (p.addLine line) where
  content := by
    rw [toList_content, toList_content, scan_line h, Printer.addLine, isBlankLine_eq hne h,
      Bool.not_not, margin]
    by_cases hmargin : indentation p.unit p.level = ""
    · simp [hmargin]
    · simp only [bne_iff_ne.2 hmargin, Bool.and_true, Array.toList_push, List.flatMap_append,
        List.flatMap_singleton, String.toList_ofList]
      split <;> simp
  atLineStart := by
    rw [startsAfter_eq, List.getLast?_eq_some_getLast hne, Option.elim_some, Printer.addLine,
      List.getLast?_eq_some_getLast hne, Option.some_beq_some]
  isEmpty := by
    have hline : line.isEmpty = false := by simpa using hne
    simp [Printer.addLine, Printer.isEmpty, hline]
  unit := rfl
  level := rfl

/-- The lines of a text, the first of which has already begun. -/
theorem addLines (current cs : List Char) (h : '\n' ∉ current) (p : Printer) :
    Scans p (current.reverse ++ cs) ((Text.linesFrom current cs).foldl Printer.addLine p) := by
  fun_induction Text.linesFrom current cs generalizing p with
  | case1 current hempty =>
    obtain rfl := List.isEmpty_iff.1 hempty
    exact nil p
  | case2 current hempty =>
    have hne : current.reverse ≠ [] := by simpa using hempty
    rw [List.append_nil]
    exact addLine p hne fun hmem => h (List.mem_reverse.1 (List.dropLast_subset _ hmem))
  | case3 current rest ih =>
    have hline : Scans p (current.reverse ++ ['\r', '\n']) _ :=
      addLine p (by simp) (by simpa [List.dropLast_append_cons] using h)
    have hcut : ¬ CutsBlankLine p.atLineStart (current.reverse ++ ['\r', '\n']) rest := by
      rintro ⟨line, hline, -, -⟩
      simpa using congrArg List.getLast? hline
    simpa using hline.append (ih List.not_mem_nil _) hcut
  | case4 current c rest hpair hc ih =>
    have hline : Scans p (current.reverse ++ [c]) _ := addLine p (by simp) (by simpa using h)
    have hcut : ¬ CutsBlankLine p.atLineStart (current.reverse ++ [c]) rest := by
      rintro ⟨line, hline, -, hrest⟩
      obtain ⟨tail, rfl⟩ := List.head?_eq_some_iff.1 hrest
      exact hpair tail (by simpa using congrArg List.getLast? hline) rfl
    simpa using hline.append (ih List.not_mem_nil _) hcut
  | case5 current c rest _ hc ih =>
    have hne : '\n' ≠ c := by
      rintro rfl
      exact hc rfl
    simpa using ih (by simp [hne, h]) p

end Scans

/-- A text is scanned into a printer that it is added to. -/
theorem scans_add (p : Printer) (text : String) : Scans p text.toList (p.add text) :=
  .addLines [] text.toList List.not_mem_nil p

/-- Two texts are added like one, unless the cut is inside the end of a blank line that would have a
margin otherwise. -/
theorem content_add_add_eq_iff (p : Printer) (a b : String) :
    ((p.add a).add b).content = (p.add (a ++ b)).content ↔
      ¬ (p.margin ≠ [] ∧ CutsBlankLine p.atLineStart a.toList b.toList) := by
  have ha := scans_add p a
  have hb := scans_add (p.add a) b
  have hab := scans_add p (a ++ b)
  rw [← String.toList_inj, hb.content, ha.content, ha.margin_eq, ha.atLineStart, hab.content,
    String.toList_append, List.append_assoc, List.append_cancel_left_eq]
  by_cases hcut : CutsBlankLine p.atLineStart a.toList b.toList
  · obtain ⟨before, after, htogether, hapart⟩ := scan_cut p.margin hcut
    rw [htogether, hapart, List.append_cancel_left_eq, List.append_left_eq_self]
    simp [hcut]
  · rw [scan_append hcut]
    simp [hcut]

end SchemaToSwift.Printer
