import Mathlib.Data.List.Forall2

/-! # Steps that can fail

The library's checks and readers run in `Except`, where a `do` block stops at its first
failure. These are the facts about such runs that the other proofs share: when a bind
succeeds, and when a pass over a list succeeds or which failure it stops at; and how a list
numbered by position maps back to the list.
-/
namespace KeyedComposite

variable {ε α β : Type}

@[simp] theorem except_bind_eq_ok {x : Except ε α} {f : α → Except ε β} {b : β} :
    x >>= f = .ok b ↔ ∃ a, x = .ok a ∧ f a = .ok b := by
  cases x <;> simp [bind, Except.bind]

theorem except_bind_eq_error {x : Except ε α} {f : α → Except ε β} {e : ε} :
    x >>= f = .error e ↔ x = .error e ∨ ∃ a, x = .ok a ∧ f a = .error e := by
  cases x <;> simp [bind, Except.bind]

@[simp] theorem except_pure_eq_ok {a b : α} : (pure a : Except ε α) = .ok b ↔ a = b := by
  simp [pure, Except.pure]

@[simp] theorem except_ok_bind {a : α} {f : α → Except ε β} : (Except.ok a >>= f) = f a := rfl

@[simp] theorem except_error_bind {e : ε} {f : α → Except ε β} :
    (Except.error e >>= f) = Except.error e := rfl

theorem except_eq_ok_getD {x : Except ε α} (d : α) (h : x.isOk = true) :
    x = .ok (x.toOption.getD d) := by
  cases x with
  | error e => simp [Except.isOk, Except.toBool] at h
  | ok a => rfl

theorem forM_eq_ok_iff {l : List α} {f : α → Except ε Unit} :
    l.forM f = .ok () ↔ ∀ x ∈ l, f x = .ok () := by
  induction l with
  | nil => simp [List.forM, pure, Except.pure]
  | cons x xs ih =>
    simp only [List.forM_eq_forM, List.forM_cons, List.forall_mem_cons] at ih ⊢
    rw [← ih]
    cases f x with
    | error e => simp
    | ok u => simp

theorem exists_mem_of_forM_eq_error {l : List α} {f : α → Except ε Unit} {e : ε}
    (h : l.forM f = .error e) : ∃ x ∈ l, f x = .error e := by
  induction l with
  | nil => simp [List.forM, pure, Except.pure] at h
  | cons x xs ih =>
    simp only [List.forM_eq_forM, List.forM_cons] at h ih
    cases hx : f x with
    | error e' =>
      rw [hx, except_error_bind] at h
      cases h
      exact ⟨x, by simp, hx⟩
    | ok u =>
      rw [hx, except_ok_bind] at h
      obtain ⟨y, hy, hfy⟩ := ih h
      exact ⟨y, by simp [hy], hfy⟩

/-- A map over a list succeeds exactly when the step succeeds at every element, and then its
results are the step's results in order. -/
theorem mapM_eq_ok_iff {l : List α} {f : α → Except ε β} {r : List β} :
    l.mapM f = .ok r ↔ List.Forall₂ (fun x y => f x = .ok y) l r := by
  induction l generalizing r with
  | nil =>
    cases r <;> simp [pure, Except.pure]
  | cons x xs ih =>
    rw [List.mapM_cons]
    cases r with
    | nil =>
      simp only [except_bind_eq_ok, except_pure_eq_ok, List.forall₂_nil_right_iff]
      simp
    | cons y ys =>
      simp only [except_bind_eq_ok, except_pure_eq_ok, List.forall₂_cons, ← ih]
      constructor
      · rintro ⟨a, ha, as, has, hrest⟩
        injection hrest with hy hys
        subst hy hys
        exact ⟨ha, has⟩
      · rintro ⟨hx, hxs⟩
        exact ⟨y, hx, ys, hxs, rfl⟩

theorem exists_getElem?_of_mapM_eq_ok {l : List α} {f : α → Except ε β} {r : List β}
    (h : l.mapM f = .ok r) {j : Nat} {b : β} (hb : r[j]? = some b) :
    ∃ a, l[j]? = some a ∧ f a = .ok b := by
  have hall := mapM_eq_ok_iff.mp h
  clear h
  induction hall generalizing j with
  | nil => simp at hb
  | @cons a b' l r hab _ ih =>
    cases j with
    | zero =>
      simp only [List.getElem?_cons_zero, Option.some.injEq] at hb ⊢
      subst hb
      exact ⟨a, rfl, hab⟩
    | succ j => simpa using ih hb

theorem length_eq_of_mapM_eq_ok {l : List α} {f : α → Except ε β} {r : List β}
    (h : l.mapM f = .ok r) : r.length = l.length :=
  (mapM_eq_ok_iff.mp h).length_eq.symm

theorem mapM_append_cons_eq_error {pre post : List α} {x : α} {f : α → Except ε β} {e : ε}
    (hpre : ∀ y ∈ pre, ∃ b, f y = .ok b) (hx : f x = .error e) :
    (pre ++ x :: post).mapM f = .error e := by
  induction pre with
  | nil => simp [List.mapM_cons, hx]
  | cons y ys ih =>
    obtain ⟨b, hb⟩ := hpre y (by simp)
    rw [List.cons_append, List.mapM_cons, hb, except_ok_bind,
      ih (fun z hz => hpre z (by simp [hz])), except_error_bind]

theorem exists_mapM_eq_ok {l : List α} {f : α → Except ε β} (h : ∀ x ∈ l, ∃ b, f x = .ok b) :
    ∃ r, l.mapM f = .ok r := by
  induction l with
  | nil => exact ⟨[], rfl⟩
  | cons x xs ih =>
    obtain ⟨b, hb⟩ := h x (by simp)
    obtain ⟨r, hr⟩ := ih (fun y hy => h y (by simp [hy]))
    exact ⟨b :: r, by simp [List.mapM_cons, hb, hr, pure, Except.pure]⟩

/-- A map over a list numbered by position that reads only the elements is a map over the
list. -/
theorem map_fst_zipIdx (g : α → β) (l : List α) :
    l.zipIdx.map (fun x => g x.1) = l.map g := by
  calc l.zipIdx.map (fun x => g x.1) = (l.zipIdx.map Prod.fst).map g := by rw [List.map_map]; rfl
    _ = l.map g := by rw [List.zipIdx_map_fst]

end KeyedComposite
