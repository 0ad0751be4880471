import Mathlib.Data.List.Forall2
import SchemaToSwift.Fault

/-!
# Results of a list

The operations of the library give an error or a value, and work through lists with `mapM`. The
simp lemmas here open the steps of such an operation. `mapM_ok_iff` reads a list of values back as
values of the elements, `mapM_of_ok_and` builds one from them, `mapM_of_sublist` leaves elements
out, and an error is that of the first element without a value (`mapM_eq_error_iff`; for a `foldlM`,
`foldlM_eq_error_iff`). The faults of an operation may escape as they are (`Failure.escape`).
-/

namespace SchemaToSwift.Result

variable {α β ε : Type}

@[simp] theorem bind_ok (a : α) (f : α → Except ε β) : (Except.ok a >>= f) = f a := rfl

@[simp] theorem bind_error (e : ε) (f : α → Except ε β) :
    (Except.error e >>= f) = Except.error e := rfl

@[simp] theorem map_ok (f : α → β) (a : α) :
    (f <$> (Except.ok a : Except ε α)) = Except.ok (f a) := rfl

@[simp] theorem map_error (f : α → β) (e : ε) :
    (f <$> (Except.error e : Except ε α)) = Except.error e := rfl

@[simp] theorem pure_eq (a : α) : (pure a : Except ε α) = Except.ok a := rfl

@[simp] theorem throw_eq (e : ε) : (throw e : Except ε α) = Except.error e := rfl

/-- What goes on with a value has one to go on with. -/
theorem bind_eq_ok_iff {x : Except ε α} {f : α → Except ε β} {b : β} :
    x >>= f = .ok b ↔ ∃ a, x = .ok a ∧ f a = .ok b := by
  cases x <;> simp

/-- An error is that of the value, or of what goes on with it. -/
theorem bind_eq_error_iff {x : Except ε α} {f : α → Except ε β} {e : ε} :
    x >>= f = .error e ↔ x = .error e ∨ ∃ a, x = .ok a ∧ f a = .error e := by
  cases x <;> simp

/-- What goes on with a value matters for that value only. -/
theorem bind_congr {x : Except ε α} {f g : α → Except ε β} (h : ∀ a, x = .ok a → f a = g a) :
    x >>= f = x >>= g := by
  cases x with
  | error e => rfl
  | ok a => exact h a rfl

/-- A value in another form is a value. -/
theorem map_eq_ok_iff {f : α → β} {x : Except ε α} {b : β} :
    f <$> x = .ok b ↔ ∃ a, x = .ok a ∧ f a = b := by
  cases x <;> simp

theorem map_eq_error_iff {f : α → β} {x : Except ε α} {e : ε} :
    f <$> x = .error e ↔ x = .error e := by
  cases x <;> simp

/-- Working through a list gives the values of its elements, in order. -/
theorem mapM_ok_iff {f : α → Except ε β} : ∀ {xs : List α} {ys : List β},
    xs.mapM f = .ok ys ↔ List.Forall₂ (fun x y => f x = .ok y) xs ys
  | [], ys => by simp [eq_comm]
  | x :: xs, ys => by
    rw [List.mapM_cons]
    cases hx : f x with
    | error e => simp [hx, List.forall₂_cons_left_iff]
    | ok y =>
      cases hxs : xs.mapM f with
      | error e =>
        have none (zs : List β) : ¬ List.Forall₂ (fun x y => f x = .ok y) xs zs := by
          rw [← mapM_ok_iff, hxs]
          simp
        simp [List.forall₂_cons_left_iff, none]
      | ok zs =>
        have only (ws : List β) : List.Forall₂ (fun x y => f x = .ok y) xs ws ↔ zs = ws := by
          rw [← mapM_ok_iff, hxs]
          simp
        simp [List.forall₂_cons_left_iff, hx, only, eq_comm]

/-- What working through a list gives is the value of an element. -/
theorem exists_of_mem_mapM {f : α → Except ε β} {xs : List α} {ys : List β}
    (h : xs.mapM f = .ok ys) {y : β} (hy : y ∈ ys) : ∃ x ∈ xs, f x = .ok y := by
  rw [mapM_ok_iff] at h
  induction h with
  | nil => cases hy
  | cons hx _ ih =>
    rcases List.mem_cons.1 hy with rfl | hy
    · exact ⟨_, .head _, hx⟩
    · obtain ⟨x, hmem, hfx⟩ := ih hy
      exact ⟨x, .tail _ hmem, hfx⟩

/-- If working through a list gives values, each element has one. -/
theorem ok_of_mem_mapM {f : α → Except ε β} {xs : List α} {ys : List β} (h : xs.mapM f = .ok ys)
    {x : α} (hx : x ∈ xs) : ∃ y, f x = .ok y := by
  rw [mapM_ok_iff] at h
  induction h with
  | nil => cases hx
  | cons hfx _ ih =>
    rcases List.mem_cons.1 hx with rfl | hx
    · exact ⟨_, hfx⟩
    · exact ih hx

/-- A list whose elements all have values with a property has the list of them. -/
theorem mapM_of_ok_and {f : α → Except ε β} {P : β → Prop} : ∀ {xs : List α},
    (∀ x ∈ xs, ∃ y, f x = .ok y ∧ P y) → ∃ ys, xs.mapM f = .ok ys ∧ ∀ y ∈ ys, P y
  | [], _ => ⟨[], rfl, by simp⟩
  | x :: xs, h => by
    obtain ⟨y, hy, hpy⟩ := h x (.head _)
    obtain ⟨ys, hys, hpys⟩ := mapM_of_ok_and fun z hz => h z (.tail _ hz)
    exact ⟨y :: ys, by simp [List.mapM_cons, hy, hys], List.forall_mem_cons.2 ⟨hpy, hpys⟩⟩

/-- A list whose elements all have values has the list of them. -/
theorem mapM_of_ok {f : α → Except ε β} {xs : List α} (h : ∀ x ∈ xs, ∃ y, f x = .ok y) :
    ∃ ys, xs.mapM f = .ok ys := by
  obtain ⟨ys, hys, -⟩ := mapM_of_ok_and fun x hx => (h x hx).imp fun _ hy => ⟨hy, trivial⟩
  exact ⟨ys, hys⟩

/-- Some of the elements have some of the values. -/
theorem mapM_of_sublist {f : α → Except ε β} {xs' xs : List α} (h : xs'.Sublist xs) {ys : List β}
    (hys : xs.mapM f = .ok ys) : ∃ ys', xs'.mapM f = .ok ys' ∧ ys'.Sublist ys := by
  rw [mapM_ok_iff] at hys
  simp only [mapM_ok_iff]
  induction h generalizing ys with
  | slnil =>
    cases hys
    exact ⟨[], .nil, .slnil⟩
  | cons x _ ih =>
    cases hys with
    | cons _ hrest =>
      obtain ⟨ys', hys', hsub⟩ := ih hrest
      exact ⟨ys', hys', hsub.cons _⟩
  | cons_cons x _ ih =>
    cases hys with
    | cons hx hrest =>
      obtain ⟨ys', hys', hsub⟩ := ih hrest
      exact ⟨_, .cons hx hys', hsub.cons_cons _⟩

/-- Working through a list takes its elements only. -/
theorem mapM_congr {f g : α → Except ε β} {xs : List α} (h : ∀ x ∈ xs, f x = g x) :
    xs.mapM f = xs.mapM g := by
  induction xs with
  | nil => rfl
  | cons x xs ih =>
    obtain ⟨hx, hxs⟩ := List.forall_mem_cons.1 h
    rw [List.mapM_cons, List.mapM_cons, hx, ih hxs]

/-- Working through a list comes to an element with a property: all elements before it have
values. -/
def StopsAt (f : α → Except ε β) (p : α → Prop) (xs : List α) : Prop :=
  ∃ before x after, xs = before ++ x :: after ∧ (∀ y ∈ before, ∃ b, f y = .ok b) ∧ p x

/-- Working through a list stops at the first error. -/
theorem mapM_eq_error_iff {f : α → Except ε β} {e : ε} {xs : List α} :
    xs.mapM f = .error e ↔ StopsAt f (fun x => f x = .error e) xs := by
  induction xs with
  | nil => simp [StopsAt]
  | cons x xs ih =>
    rw [List.mapM_cons]
    cases hx : f x with
    | error d =>
      rw [bind_error, Except.error.injEq]
      constructor
      · rintro rfl
        exact ⟨[], x, xs, rfl, by simp, hx⟩
      · rintro ⟨before, y, after, heq, hbefore, hy⟩
        cases before with
        | nil =>
          obtain ⟨rfl, -⟩ := List.cons.inj heq
          rwa [hx, Except.error.injEq] at hy
        | cons z before =>
          obtain ⟨rfl, -⟩ := List.cons.inj heq
          obtain ⟨b, hb⟩ := hbefore _ (.head _)
          rw [hx] at hb
          cases hb
    | ok b =>
      have hrest : (do let ys ← xs.mapM f; pure (b :: ys)) = .error e ↔ xs.mapM f = .error e := by
        cases xs.mapM f <;> simp
      rw [bind_ok, hrest, ih]
      constructor
      · rintro ⟨before, y, after, rfl, hbefore, hy⟩
        exact ⟨x :: before, y, after, rfl, List.forall_mem_cons.2 ⟨⟨b, hx⟩, hbefore⟩, hy⟩
      · rintro ⟨before, y, after, heq, hbefore, hy⟩
        cases before with
        | nil =>
          obtain ⟨rfl, -⟩ := List.cons.inj heq
          rw [hx] at hy
          cases hy
        | cons z before =>
          obtain ⟨rfl, rfl⟩ := List.cons.inj heq
          exact ⟨before, y, after, rfl, (List.forall_mem_cons.1 hbefore).2, hy⟩

/-- Two lists give the error of the first one, or that of the second one after it. -/
theorem mapM_append_eq_error_iff {f : α → Except ε β} {e : ε} {xs ys : List α} :
    (xs ++ ys).mapM f = .error e ↔
      xs.mapM f = .error e ∨ (∃ zs, xs.mapM f = .ok zs) ∧ ys.mapM f = .error e := by
  rw [List.mapM_append]
  cases xs.mapM f <;> cases ys.mapM f <;> simp

/-- Working through lists that agree on the elements stops at the same ones. -/
theorem StopsAt.congr {γ : Type} {f : α → Except ε β} {g : α → Except ε γ} {p q : α → Prop}
    {xs : List α} (hfg : ∀ x ∈ xs, (∃ b, f x = .ok b) → ∃ c, g x = .ok c)
    (hpq : ∀ x ∈ xs, p x → q x) (h : StopsAt f p xs) : StopsAt g q xs := by
  obtain ⟨before, x, after, rfl, hbefore, hx⟩ := h
  exact ⟨before, x, after, rfl, fun y hy => hfg y (by simp [hy]) (hbefore y hy),
    hpq x (by simp) hx⟩

/-- Going through a list from a start comes to an element with a property: the elements before it
lead from the start to where it is met. -/
def FoldStopsAt (f : β → α → Except ε β) (p : β → α → Prop) (b : β) (xs : List α) : Prop :=
  ∃ before x after c, xs = before ++ x :: after ∧ before.foldlM f b = .ok c ∧ p c x

/-- Going through a list stops at the first error. -/
theorem foldlM_eq_error_iff {f : β → α → Except ε β} {e : ε} {b : β} {xs : List α} :
    xs.foldlM f b = .error e ↔ FoldStopsAt f (fun c x => f c x = .error e) b xs := by
  induction xs generalizing b with
  | nil => simp [FoldStopsAt]
  | cons x xs ih =>
    rw [List.foldlM_cons, bind_eq_error_iff]
    constructor
    · rintro (hx | ⟨c, hc, hrest⟩)
      · exact ⟨[], x, xs, b, rfl, rfl, hx⟩
      · obtain ⟨before, y, after, d, rfl, hbefore, hy⟩ := ih.1 hrest
        refine ⟨x :: before, y, after, d, rfl, ?_, hy⟩
        rw [List.foldlM_cons, hc, bind_ok, hbefore]
    · rintro ⟨before, y, after, d, heq, hbefore, hy⟩
      cases before with
      | nil =>
        obtain ⟨rfl, rfl⟩ := List.cons.inj heq
        cases hbefore
        exact .inl hy
      | cons z before =>
        obtain ⟨rfl, rfl⟩ := List.cons.inj heq
        rw [List.foldlM_cons] at hbefore
        obtain ⟨c, hc, hbefore⟩ := bind_eq_ok_iff.1 hbefore
        exact .inr ⟨c, hc, ih.2 ⟨before, y, after, d, rfl, hbefore, hy⟩⟩

/-- What is true of the start and kept by each element is true of the end. -/
theorem of_foldlM_eq_ok {f : β → α → Except ε β} {P : β → Prop} {xs : List α}
    (hstep : ∀ x ∈ xs, ∀ b c, P b → f b x = .ok c → P c) {b c : β} (hb : P b)
    (h : xs.foldlM f b = .ok c) : P c := by
  induction xs generalizing b with
  | nil =>
    cases h
    exact hb
  | cons x xs ih =>
    obtain ⟨hx, hxs⟩ := List.forall_mem_cons.1 hstep
    rw [List.foldlM_cons] at h
    obtain ⟨d, hd, h⟩ := bind_eq_ok_iff.1 h
    exact ih hxs (hx b d hb hd) h

/-- If some element gives an error and no element gives another one, the list gives it. -/
theorem mapM_error {f : α → Except ε β} {e : ε} : ∀ {xs : List α},
    (∀ x ∈ xs, f x = .error e ∨ ∃ y, f x = .ok y) → (∃ x ∈ xs, f x = .error e) →
      xs.mapM f = .error e
  | [], _, ⟨_, hx, _⟩ => by cases hx
  | x :: xs, h, ⟨z, hz, hze⟩ => by
    rw [List.mapM_cons]
    rcases h x (.head _) with hx | ⟨y, hy⟩
    · rw [hx]; rfl
    · have hzs : z ∈ xs := by
        rcases List.mem_cons.1 hz with rfl | hz
        · rw [hy] at hze; cases hze
        · exact hz
      rw [hy, bind_ok, mapM_error (fun w hw => h w (.tail _ hw)) ⟨z, hzs, hze⟩]
      rfl

end SchemaToSwift.Result

namespace SchemaToSwift.Failure

variable {ε α : Type}

theorem escape_ok (a : α) : (escape (.ok a) : Except (Failure ε) α) = .ok a := rfl

/-- A value that is let through was there. -/
theorem escape_eq_ok {x : Except Fault α} {a : α}
    (h : (escape x : Except (Failure ε) α) = .ok a) : x = .ok a := by
  cases x <;> cases h
  rfl

/-- A fault that escapes is not reported. -/
theorem escape_ne_reported (x : Except Fault α) (e : ε) :
    (escape x : Except (Failure ε) α) ≠ .error (.reported e) := by
  cases x <;> simp [escape, Except.mapError]

/-- What escapes is the fault that there was. -/
theorem escape_eq_escaped_iff {x : Except Fault α} {f : Fault} :
    (escape x : Except (Failure ε) α) = .error (.escaped f) ↔ x = .error f := by
  cases x <;> simp [escape, Except.mapError]

end SchemaToSwift.Failure
