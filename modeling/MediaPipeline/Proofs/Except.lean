import Mathlib.Data.List.Forall2

/-!
Steps that may fail, and chains of them. A chain succeeds if every step does. Two steps are alike if
both fail, or both succeed with results that are related; the errors do not count.
-/

namespace MediaPipeline

/-! ### Success -/

theorem bind_eq_ok_iff {ε α β : Type} {x : Except ε α} {f : α → Except ε β} {b : β} :
    (x >>= f) = .ok b ↔ ∃ a, x = .ok a ∧ f a = .ok b := by
  cases x <;> simp [bind, Except.bind]

theorem map_eq_ok_iff {ε α β : Type} {x : Except ε α} {f : α → β} {b : β} :
    f <$> x = .ok b ↔ ∃ a, x = .ok a ∧ f a = b := by
  cases x <;> simp [Functor.map, Except.map]

theorem check_bind_eq_ok_iff {ε β : Type} {x : Except ε Unit} {y : Except ε β} {b : β} :
    (x >>= fun _ => y) = .ok b ↔ x = .ok () ∧ y = .ok b := by
  rw [bind_eq_ok_iff]
  exact ⟨fun ⟨(), hx, hy⟩ => ⟨hx, hy⟩, fun ⟨hx, hy⟩ => ⟨(), hx, hy⟩⟩

theorem mapM_eq_ok_iff {ε α β : Type} {f : α → Except ε β} {xs : List α} {ys : List β} :
    xs.mapM f = .ok ys ↔ List.Forall₂ (fun x y => f x = .ok y) xs ys := by
  induction xs generalizing ys with
  | nil => cases ys <;> simp [pure, Except.pure]
  | cons x xs ih =>
      rw [List.mapM_cons, bind_eq_ok_iff, List.forall₂_cons_left_iff]
      refine exists_congr fun y => ?_
      simp only [bind_eq_ok_iff, ih, pure, Except.pure, Except.ok.injEq]
      constructor
      · rintro ⟨hy, zs, hzs, rfl⟩
        exact ⟨zs, hy, hzs, rfl⟩
      · rintro ⟨zs, hy, hzs, rfl⟩
        exact ⟨hy, zs, hzs, rfl⟩

/-! ### Likeness -/

section

variable {ε ε' α β γ δ : Type}

/-- Both succeed with related results, or both fail. -/
inductive Alike (R : α → β → Prop) : Except ε α → Except ε' β → Prop
  | ok {a : α} {b : β} : R a b → Alike R (.ok a) (.ok b)
  | error (e : ε) (e' : ε') : Alike R (.error e) (.error e')

variable {R : α → β → Prop} {S : γ → δ → Prop} {x : Except ε α} {y : Except ε' β}

theorem Alike.of_eq {x y : Except ε α} {R : α → α → Prop} (hR : ∀ a, R a a) (h : x = y) :
    Alike R x y := by
  subst h
  cases x with
  | ok a => exact .ok (hR a)
  | error e => exact .error e e

theorem Alike.of_ok (hxy : ∀ a, x = .ok a → ∃ b, y = .ok b ∧ R a b)
    (hyx : ∀ b, y = .ok b → ∃ a, x = .ok a) : Alike R x y := by
  cases x with
  | ok a =>
      obtain ⟨b, rfl, hab⟩ := hxy a rfl
      exact .ok hab
  | error e => cases y with
    | ok b =>
        obtain ⟨a, ha⟩ := hyx b rfl
        cases ha
    | error e' => exact .error e e'

/-- What is alike succeeds where the other one does. -/
theorem Alike.exists_ok (h : Alike R x y) {a : α} (hx : x = .ok a) : ∃ b, y = .ok b ∧ R a b := by
  subst hx
  cases h with
  | ok hab => exact ⟨_, rfl, hab⟩

theorem Alike.bind {f : α → Except ε γ} {g : β → Except ε' δ} (h : Alike R x y)
    (hfg : ∀ a b, R a b → Alike S (f a) (g b)) : Alike S (x >>= f) (y >>= g) := by
  cases h with
  | ok hab => exact hfg _ _ hab
  | error e e' => exact .error e e'

theorem Alike.bind_self {x : Except ε α} {f : α → Except ε γ} {g : α → Except ε δ}
    (hfg : ∀ a, Alike S (f a) (g a)) : Alike S (x >>= f) (x >>= g) := by
  cases x with
  | ok a => exact hfg a
  | error e => exact .error e e

theorem Alike.map {f : α → γ} {g : β → δ} (h : Alike R x y) (hfg : ∀ a b, R a b → S (f a) (g b)) :
    Alike S (f <$> x) (g <$> y) := by
  cases h with
  | ok hab => exact .ok (hfg _ _ hab)
  | error e e' => exact .error e e'

theorem Alike.symm {R : α → α → Prop} {x : Except ε α} {y : Except ε' α}
    (hR : ∀ a b, R a b → R b a) (h : Alike R x y) : Alike R y x := by
  cases h with
  | ok hab => exact .ok (hR _ _ hab)
  | error e e' => exact .error e' e

theorem Alike.trans {R : α → α → Prop} {x y z : Except ε α}
    (hR : ∀ a b c, R a b → R b c → R a c) (h : Alike R x y) (h' : Alike R y z) : Alike R x z := by
  cases h with
  | ok hab => cases h' with
    | ok hbc => exact .ok (hR _ _ _ hab hbc)
  | error e e' => cases h' with
    | error _ e'' => exact .error e e''

end

end MediaPipeline
