/-!
Computations that may fail: how the outcomes of their parts make up the whole.
-/

namespace Conform.Outcome
variable {α β σ τ ε : Type}

@[simp]
theorem ok_bind (a : α) (f : α → Except ε β) : (Except.ok a >>= f) = f a := rfl

@[simp]
theorem error_bind (e : ε) (f : α → Except ε β) : (Except.error e >>= f) = .error e := rfl

@[simp]
theorem pure_eq_ok (a : α) : (pure a : Except ε α) = .ok a := rfl

@[simp]
theorem ok_map (a : α) (f : α → β) : (Except.ok a : Except ε α).map f = .ok (f a) := rfl

@[simp]
theorem error_map (e : ε) (f : α → β) : (Except.error e : Except ε α).map f = .error e := rfl

@[simp]
theorem ok_mapError (a : α) (g : ε → σ) : (Except.ok a : Except ε α).mapError g = .ok a := rfl

@[simp]
theorem error_mapError (e : ε) (g : ε → σ) :
    (Except.error e : Except ε α).mapError g = .error (g e) := rfl

theorem bind_eq_ok_iff {x : Except ε α} {f : α → Except ε β} {b : β} :
    (x >>= f) = .ok b ↔ ∃ a, x = .ok a ∧ f a = .ok b := by
  cases x <;> simp

theorem map_eq_ok_iff {x : Except ε α} {f : α → β} {b : β} :
    x.map f = .ok b ↔ ∃ a, x = .ok a ∧ f a = b := by
  cases x <;> simp

theorem bind_eq_error_iff {x : Except ε α} {f : α → Except ε β} {e : ε} :
    (x >>= f) = .error e ↔ x = .error e ∨ ∃ a, x = .ok a ∧ f a = .error e := by
  cases x <;> simp

theorem map_eq_error_iff {x : Except ε α} {f : α → β} {e : ε} :
    x.map f = .error e ↔ x = .error e := by
  cases x <;> simp

theorem exists_error_iff {x : Except ε α} : (∃ e, x = .error e) ↔ ¬ ∃ a, x = .ok a := by
  cases x <;> simp

theorem map_map (x : Except ε α) (f : α → β) (g : β → σ) :
    (x.map f).map g = x.map fun a => g (f a) := by
  cases x <;> rfl

theorem mapError_map (x : Except ε α) (f : α → β) (g : ε → σ) :
    (x.map f).mapError g = (x.mapError g).map f := by
  cases x <;> rfl

theorem mapError_eq_ok_iff {x : Except ε α} {g : ε → σ} {a : α} :
    x.mapError g = .ok a ↔ x = .ok a := by
  cases x <;> simp

@[simp]
theorem toOption_ok (a : α) : (Except.ok a : Except ε α).toOption = some a := rfl

@[simp]
theorem toOption_error (e : ε) : (Except.error e : Except ε α).toOption = none := rfl

@[simp]
theorem toOption_bind (x : Except ε α) (f : α → Except ε β) :
    (x >>= f).toOption = x.toOption.bind fun a => (f a).toOption := by
  cases x <;> rfl

@[simp]
theorem toOption_map (x : Except ε α) (f : α → β) : (x.map f).toOption = x.toOption.map f := by
  cases x <;> rfl

@[simp]
theorem toOption_mapError (x : Except ε α) (f : ε → σ) : (x.mapError f).toOption = x.toOption := by
  cases x <;> rfl

theorem toOption_bind_map (x : Except ε α) (f : α → Except ε β) (g : β → σ) :
    (do (f (← x)).map g).toOption = (x >>= f).toOption.map g := by
  cases x with
  | error e => rfl
  | ok a => exact toOption_map (f a) g

theorem toOption_bind_pure (x : Except ε α) (g : α → β) :
    (do return g (← x)).toOption = x.toOption.map g := by
  cases x <;> rfl

theorem toOption_eq_some_iff {x : Except ε α} {a : α} : x.toOption = some a ↔ x = .ok a := by
  cases x <;> simp

/-- Computations that fail alike or succeed with related results. -/
inductive Alike (R : α → β → Prop) : Except ε α → Except ε β → Prop where
  | ok {a : α} {b : β} (h : R a b) : Alike R (.ok a) (.ok b)
  | error {e : ε} : Alike R (.error e) (.error e)

namespace Alike
variable {R : α → β → Prop} {S : σ → τ → Prop} {x : Except ε α} {y : Except ε β}

theorem mono {Q : α → β → Prop} (h : Alike R x y) (weaker : ∀ a b, R a b → Q a b) :
    Alike Q x y := by
  cases h with
  | ok h => exact .ok (weaker _ _ h)
  | error => exact .error

theorem bind {f : α → Except ε σ} {g : β → Except ε τ} (h : Alike R x y)
    (step : ∀ a b, R a b → Alike S (f a) (g b)) : Alike S (x >>= f) (y >>= g) := by
  cases h with
  | ok h => exact step _ _ h
  | error => exact .error

theorem map_left {Q : σ → β → Prop} {f : α → σ} (h : Alike R x y)
    (step : ∀ a b, R a b → Q (f a) b) : Alike Q (x.map f) y := by
  cases h with
  | ok h => exact .ok (step _ _ h)
  | error => exact .error

theorem map_right {Q : α → τ → Prop} {g : β → τ} (h : Alike R x y)
    (step : ∀ a b, R a b → Q a (g b)) : Alike Q x (y.map g) := by
  cases h with
  | ok h => exact .ok (step _ _ h)
  | error => exact .error

theorem exists_of_ok {a : α} (h : Alike R x y) (hx : x = .ok a) : ∃ b, y = .ok b ∧ R a b := by
  cases h with
  | ok h =>
    cases hx
    exact ⟨_, rfl, h⟩
  | error => cases hx

end Alike

/-- Some element is hit, and all elements before it are passed over. -/
def FirstAt (passed hit : α → Prop) (xs : List α) : Prop :=
  ∃ pre x post, xs = pre ++ x :: post ∧ (∀ y ∈ pre, passed y) ∧ hit x

variable {passed hit : α → Prop} {x : α} {xs : List α}

@[simp]
theorem not_firstAt_nil : ¬ FirstAt passed hit [] := by
  rintro ⟨pre, x, post, h, -⟩
  simp at h

theorem firstAt_cons : FirstAt passed hit (x :: xs) ↔ hit x ∨ passed x ∧ FirstAt passed hit xs := by
  constructor
  · rintro ⟨pre, y, post, heq, hpre, hy⟩
    cases pre with
    | nil =>
      obtain ⟨rfl, rfl⟩ := List.cons.inj heq
      exact .inl hy
    | cons z pre =>
      obtain ⟨rfl, rfl⟩ := List.cons.inj heq
      exact .inr ⟨hpre x (by simp), pre, y, post, rfl, fun z hz => hpre z (by simp [hz]), hy⟩
  · rintro (hx | ⟨hx, pre, y, post, rfl, hpre, hy⟩)
    · exact ⟨[], x, xs, rfl, by simp, hx⟩
    · exact ⟨x :: pre, y, post, rfl, by simpa [hx] using hpre, hy⟩

theorem FirstAt.exists_mem (h : FirstAt passed hit xs) : ∃ x ∈ xs, hit x := by
  obtain ⟨pre, x, post, rfl, -, hx⟩ := h
  exact ⟨x, by simp, hx⟩

theorem FirstAt.mem (h : FirstAt passed (· = x) xs) : x ∈ xs := by
  obtain ⟨_, hx, rfl⟩ := h.exists_mem
  exact hx

theorem firstAt_of_forall (h : ∀ x ∈ xs, passed x ∨ hit x) (hex : ∃ x ∈ xs, hit x) :
    FirstAt passed hit xs := by
  induction xs with
  | nil =>
    obtain ⟨x, hx, -⟩ := hex
    cases hx
  | cons x xs ih =>
    rw [firstAt_cons]
    rcases h x (by simp) with hx | hx
    · obtain ⟨y, hy, hhit⟩ := hex
      rcases List.mem_cons.mp hy with rfl | hy
      · exact .inl hhit
      · exact .inr ⟨hx, ih (fun z hz => h z (by simp [hz])) ⟨y, hy, hhit⟩⟩
    · exact .inl hx

theorem firstAt_iff_exists : FirstAt passed hit xs ↔ ∃ x, FirstAt passed (· = x) xs ∧ hit x := by
  constructor
  · rintro ⟨pre, x, post, heq, hpre, hx⟩
    exact ⟨x, ⟨pre, x, post, heq, hpre, rfl⟩, hx⟩
  · rintro ⟨x, ⟨pre, _, post, heq, hpre, rfl⟩, hx⟩
    exact ⟨pre, _, post, heq, hpre, hx⟩

theorem firstAt_map {f : α → β} {passed hit : β → Prop} :
    FirstAt passed hit (xs.map f) ↔ FirstAt (fun x => passed (f x)) (fun x => hit (f x)) xs := by
  induction xs with
  | nil => simp
  | cons x xs ih => rw [List.map_cons, firstAt_cons, firstAt_cons, ih]

section Fold
variable {g : α → Except ε β}

theorem foldlM_congr {step other : σ → α → Except ε σ} {s : σ}
    (h : ∀ x ∈ xs, ∀ s, step s x = other s x) : xs.foldlM step s = xs.foldlM other s := by
  induction xs generalizing s with
  | nil => rfl
  | cons x xs ih =>
    rw [List.foldlM_cons, List.foldlM_cons, h x List.mem_cons_self]
    congr 1
    funext t
    exact ih fun y hy => h y (List.mem_cons_of_mem _ hy)

/-- A fold ends in the first fault that its steps come to. -/
theorem foldlM_eq_error_iff {update : σ → α → β → σ} {s : σ} {e : ε} :
    xs.foldlM (fun s x => (g x).map (update s x)) s = .error e ↔
      FirstAt (fun x => ∃ b, g x = .ok b) (fun x => g x = .error e) xs := by
  induction xs generalizing s with
  | nil => simp
  | cons x xs ih =>
    rw [List.foldlM_cons, firstAt_cons]
    cases hx : g x with
    | error f => simp
    | ok b => simp [ih]

/-- A fold that never takes anything away ends with nothing if and only if it starts with nothing
and every step is quiet. -/
theorem foldlM_eq_ok_nil_iff {update : List τ → α → β → List τ} (quiet : β → Prop)
    (hu : ∀ s x b, update s x b = [] ↔ s = [] ∧ quiet b) {s : List τ} :
    xs.foldlM (fun s x => (g x).map (update s x)) s = .ok [] ↔
      s = [] ∧ ∀ x ∈ xs, ∃ b, g x = .ok b ∧ quiet b := by
  induction xs generalizing s with
  | nil => simp
  | cons x xs ih =>
    rw [List.foldlM_cons]
    cases hx : g x with
    | error f => simp [hx]
    | ok b => simp [hx, ih, hu, and_assoc]

/-- A fold succeeds if every step does, whatever the steps are folded into. -/
theorem foldlM_ok_iff {update : σ → α → β → σ} {s : σ} :
    (∃ t, xs.foldlM (fun s x => (g x).map (update s x)) s = .ok t) ↔
      ∀ x ∈ xs, ∃ b, g x = .ok b := by
  induction xs generalizing s with
  | nil => simp
  | cons x xs ih =>
    rw [List.foldlM_cons, List.forall_mem_cons]
    cases hx : g x with
    | error f => simp
    | ok b => simpa using ih

end Fold

section Traversal
variable {g : α → Except ε β} {e : ε}

theorem mapM_eq_error_iff :
    xs.mapM g = .error e ↔ FirstAt (fun x => ∃ b, g x = .ok b) (fun x => g x = .error e) xs := by
  induction xs with
  | nil => simp
  | cons x xs ih =>
    rw [List.mapM_cons, firstAt_cons, ← ih]
    cases hx : g x with
    | error f => simp
    | ok b => cases xs.mapM g <;> simp

theorem mapM_eq_ok_iff {ys : List β} : xs.mapM g = .ok ys ↔ xs.map g = ys.map .ok := by
  induction xs generalizing ys with
  | nil => cases ys <;> simp
  | cons x xs ih =>
    rw [List.mapM_cons, List.map_cons]
    cases hx : g x with
    | error f => cases ys <;> simp
    | ok b =>
      cases hrest : xs.mapM g with
      | error f =>
        have hnone : ∀ zs : List β, xs.map g ≠ zs.map .ok := by
          intro zs hzs
          rw [ih.mpr hzs] at hrest
          cases hrest
        cases ys <;> simp [hnone]
      | ok zs =>
        have hzs : xs.map g = zs.map .ok := ih.mp hrest
        cases ys with
        | nil => simp
        | cons y ys => simp [hzs, List.map_inj_right]

theorem mapM_ok_iff : (∃ ys, xs.mapM g = .ok ys) ↔ ∀ x ∈ xs, ∃ b, g x = .ok b := by
  induction xs with
  | nil => simp
  | cons x xs ih =>
    rw [List.mapM_cons, List.forall_mem_cons, ← ih]
    cases g x with
    | error f => simp
    | ok b => cases xs.mapM g <;> simp

/-- Each element has its result at the same index. -/
theorem getElem?_of_mapM {ys : List β} {i : Nat} (hok : xs.mapM g = .ok ys)
    (hx : xs[i]? = some x) : ∃ y, ys[i]? = some y ∧ g x = .ok y := by
  have h : (xs.map g)[i]? = (ys.map (Except.ok (ε := ε)))[i]? := by rw [mapM_eq_ok_iff.mp hok]
  rw [List.getElem?_map, List.getElem?_map, hx] at h
  obtain ⟨y, hy, heq⟩ := Option.map_eq_some_iff.mp h.symm
  exact ⟨y, hy, heq.symm⟩

theorem exists_of_mem_mapM {ys : List β} {y : β} (hok : xs.mapM g = .ok ys) (hy : y ∈ ys) :
    ∃ x ∈ xs, g x = .ok y := by
  have hmem : Except.ok y ∈ ys.map (Except.ok (ε := ε)) := List.mem_map_of_mem hy
  rw [← mapM_eq_ok_iff.mp hok] at hmem
  exact List.mem_map.mp hmem

/-- What the results keep of the elements they come from. -/
theorem map_eq_of_mapM {f : α → σ} {h : β → σ} {ys : List β} (hok : xs.mapM g = .ok ys)
    (kept : ∀ x y, g x = .ok y → h y = f x) : ys.map h = xs.map f := by
  rw [mapM_eq_ok_iff] at hok
  induction xs generalizing ys with
  | nil =>
    cases ys with
    | nil => rfl
    | cons y ys => cases hok
  | cons x xs ih =>
    cases ys with
    | nil => cases hok
    | cons y ys =>
      obtain ⟨hx, hxs⟩ := List.cons.inj hok
      rw [List.map_cons, List.map_cons, kept x y hx, ih hxs]

end Traversal

section Related
variable {R : α → β → Prop} {S : σ → τ → Prop} {x : Option α} {y : Option β}

theorem rel_iff : Option.Rel R x y ↔
    (∀ a, x = some a → ∃ b, y = some b ∧ R a b) ∧ ∀ b, y = some b → ∃ a, x = some a := by
  constructor
  · rintro (h | _)
    · simp [h]
    · simp
  · rintro ⟨hleft, hright⟩
    cases x with
    | some a =>
      obtain ⟨b, rfl, h⟩ := hleft a rfl
      exact .some h
    | none =>
      cases y with
      | none => exact .none
      | some b =>
        obtain ⟨a, ha⟩ := hright b rfl
        cases ha

theorem rel_cases (h : Option.Rel R x y) :
    x = none ∧ y = none ∨ ∃ a b, x = some a ∧ y = some b ∧ R a b := by
  cases h with
  | some h => exact .inr ⟨_, _, rfl, rfl, h⟩
  | none => exact .inl ⟨rfl, rfl⟩

theorem rel_getElem? {xs : List α} {ys : List β} (length : xs.length = ys.length)
    (h : ∀ (i : Nat) a b, xs[i]? = some a → ys[i]? = some b → R a b) (i : Nat) :
    Option.Rel R xs[i]? ys[i]? := by
  by_cases hi : i < xs.length
  · have ha : xs[i]? = some xs[i] := List.getElem?_eq_getElem hi
    have hb : ys[i]? = some (ys[i]) := List.getElem?_eq_getElem (length ▸ hi)
    rw [ha, hb]
    exact .some (h i _ _ ha hb)
  · rw [List.getElem?_eq_none (by omega), List.getElem?_eq_none (by omega)]
    exact .none

theorem rel_self {R : α → α → Prop} {x : Option α} (h : ∀ a, x = some a → R a a) :
    Option.Rel R x x := by
  cases x with
  | none => exact .none
  | some a => exact .some (h a rfl)

theorem rel_swap {Q : β → α → Prop} (h : Option.Rel R x y) (swap : ∀ a b, R a b → Q b a) :
    Option.Rel Q y x := by
  cases h with
  | some h => exact .some (swap _ _ h)
  | none => exact .none

theorem rel_bind {f : α → Option σ} {g : β → Option τ} (h : Option.Rel R x y)
    (step : ∀ a b, R a b → Option.Rel S (f a) (g b)) : Option.Rel S (x.bind f) (y.bind g) := by
  cases h with
  | some h => exact step _ _ h
  | none => exact .none

theorem rel_map {f : α → σ} {g : β → τ} (h : Option.Rel R x y)
    (step : ∀ a b, R a b → S (f a) (g b)) : Option.Rel S (x.map f) (y.map g) := by
  cases h with
  | some h => exact .some (step _ _ h)
  | none => exact .none

section Results
variable {x : Except ε α} {y : Except ε β}

/-- Computations whose results are related both succeed or both fail. -/
theorem rel_ok_iff (h : Option.Rel R x.toOption y.toOption) :
    (∃ a, x = .ok a) ↔ ∃ b, y = .ok b := by
  cases x with
  | ok a =>
    cases y with
    | ok b => simp
    | error f => cases h
  | error e =>
    cases y with
    | ok b => cases h
    | error f => simp

theorem rel_of_ok {a : α} {b : β} (h : Option.Rel R x.toOption y.toOption) (hx : x = .ok a)
    (hy : y = .ok b) : R a b := by
  subst hx hy
  cases h with
  | some h => exact h

end Results

end Related

end Conform.Outcome
