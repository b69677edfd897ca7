import Mathlib.Data.List.Forall2
import Mathlib.Tactic.Common

/-!
# Computations that succeed or fail

* `bind_eq_ok_iff`: two steps in turn succeed exactly when both do.
* `mapM_eq_ok_iff`: a step for each element of a list succeeds exactly when all of them do.
* `mapM_eq_error_iff_of_pairwise`: else it fails with the error of the least element whose step
  fails, if the list is in increasing order.
-/

namespace DocSite

variable {ε α β γ : Type}

theorem bind_eq_ok_iff {x : Except ε α} {f : α → Except ε β} {b : β} :
    x >>= f = .ok b ↔ ∃ a, x = .ok a ∧ f a = .ok b := by
  cases x with
  | error e =>
    constructor
    · intro h
      cases h
    · rintro ⟨a, ha, -⟩
      cases ha
  | ok a =>
    constructor
    · exact fun h => ⟨a, rfl, h⟩
    · rintro ⟨a', ha, h⟩
      cases ha
      exact h

theorem exists_eq_ok_iff {x : Except ε α} : (∃ a, x = .ok a) ↔ ∀ e, x ≠ .error e := by
  cases x with
  | error e =>
    constructor
    · rintro ⟨a, ha⟩
      cases ha
    · exact fun h => absurd rfl (h e)
  | ok a =>
    constructor
    · intro _ e he
      cases he
    · exact fun _ => ⟨a, rfl⟩

theorem mapError_eq_ok_iff {ε' : Type} {x : Except ε α} {f : ε → ε'} {a : α} :
    x.mapError f = .ok a ↔ x = .ok a := by
  cases x <;> simp [Except.mapError]

theorem mapM_eq_ok_iff {f : α → Except ε β} {as : List α} {bs : List β} :
    as.mapM f = .ok bs ↔ List.Forall₂ (fun a b => f a = .ok b) as bs := by
  induction as generalizing bs with
  | nil =>
    rw [List.mapM_nil, List.forall₂_nil_left_iff]
    constructor
    · intro h
      cases h
      rfl
    · rintro rfl
      rfl
  | cons a as ih =>
    rw [List.mapM_cons, bind_eq_ok_iff, List.forall₂_cons_left_iff]
    constructor
    · rintro ⟨b, hb, h⟩
      obtain ⟨bs, hbs, h⟩ := bind_eq_ok_iff.mp h
      cases h
      exact ⟨b, bs, hb, ih.mp hbs, rfl⟩
    · rintro ⟨b, bs, hb, hbs, rfl⟩
      exact ⟨b, hb, bind_eq_ok_iff.mpr ⟨bs, ih.mpr hbs, rfl⟩⟩

theorem exists_mapM_eq_ok {f : α → Except ε β} {as : List α} (h : ∀ a ∈ as, ∃ b, f a = .ok b) :
    ∃ bs, as.mapM f = .ok bs := by
  induction as with
  | nil => exact ⟨[], rfl⟩
  | cons a as ih =>
    obtain ⟨⟨b, hb⟩, has⟩ := List.forall_mem_cons.mp h
    obtain ⟨bs, hbs⟩ := ih has
    refine ⟨b :: bs, ?_⟩
    rw [List.mapM_cons, hb, hbs]
    rfl

theorem mem_of_mapM_eq_ok {f : α → Except ε β} {as : List α} {bs : List β}
    (h : as.mapM f = .ok bs) {b : β} : b ∈ bs ↔ ∃ a ∈ as, f a = .ok b := by
  have hall := mapM_eq_ok_iff.mp h
  clear h
  induction hall with
  | nil => simp
  | @cons a b' as bs hab _ ih =>
    have heq : b = b' ↔ f a = .ok b := by
      rw [hab, Except.ok.injEq, eq_comm]
    rw [List.mem_cons, List.exists_mem_cons_iff]
    exact or_congr heq ih

theorem exists_eq_ok_of_mem {f : α → Except ε β} {as : List α} {bs : List β}
    (h : as.mapM f = .ok bs) {a : α} (ha : a ∈ as) : ∃ b ∈ bs, f a = .ok b := by
  have hall := mapM_eq_ok_iff.mp h
  clear h
  induction hall with
  | nil => exact absurd ha List.not_mem_nil
  | @cons a' b as bs hab _ ih =>
    rcases List.mem_cons.mp ha with rfl | ha
    · exact ⟨b, List.mem_cons_self, hab⟩
    · obtain ⟨c, hc, hac⟩ := ih ha
      exact ⟨c, List.mem_cons_of_mem _ hc, hac⟩

theorem mapM_cons_eq_error_iff {f : α → Except ε β} {a : α} {as : List α} {e : ε} :
    (a :: as).mapM f = .error e ↔
      f a = .error e ∨ (∃ b, f a = .ok b) ∧ as.mapM f = .error e := by
  rw [List.mapM_cons]
  cases hb : f a with
  | error e' =>
    constructor
    · intro h
      cases h
      exact .inl rfl
    · rintro (h | ⟨⟨b, h⟩, -⟩)
      · cases h
        rfl
      · cases h
  | ok b =>
    cases hbs : as.mapM f with
    | error e' =>
      constructor
      · intro h
        cases h
        exact .inr ⟨⟨b, rfl⟩, rfl⟩
      · rintro (h | ⟨-, h⟩)
        · cases h
        · cases h
          rfl
    | ok bs =>
      constructor
      · intro h
        cases h
      · rintro (h | ⟨-, h⟩)
        · cases h
        · cases h

/-- Steps for the elements of an increasing list fail with the error of the least element whose step
fails. -/
theorem mapM_eq_error_iff_of_pairwise {lt : α → α → Prop} (hasymm : ∀ a b, lt a b → ¬ lt b a)
    {f : α → Except ε β} {as : List α} (has : as.Pairwise lt) {e : ε} :
    as.mapM f = .error e ↔
      ∃ a ∈ as, f a = .error e ∧ ∀ b ∈ as, lt b a → ∃ r, f b = .ok r := by
  induction has with
  | nil =>
    constructor
    · intro h
      cases h
    · rintro ⟨a, ha, -⟩
      exact absurd ha List.not_mem_nil
  | @cons a as ha _ ih =>
    rw [mapM_cons_eq_error_iff, ih]
    -- Nothing in the list is less than its head.
    constructor
    · rintro (herror | ⟨hok, b, hb, herror, hfirst⟩)
      · refine ⟨a, List.mem_cons_self, herror, List.forall_mem_cons.mpr ⟨?_, ?_⟩⟩
        · exact fun hlt => absurd hlt (hasymm _ _ hlt)
        · exact fun b hb hlt => absurd hlt (hasymm _ _ (ha b hb))
      · exact ⟨b, List.mem_cons_of_mem _ hb, herror,
          List.forall_mem_cons.mpr ⟨fun _ => hok, hfirst⟩⟩
    · rintro ⟨b, hb, herror, hfirst⟩
      obtain ⟨hhead, hfirst⟩ := List.forall_mem_cons.mp hfirst
      rcases List.mem_cons.mp hb with rfl | hb
      · exact .inl herror
      · exact .inr ⟨hhead (ha b hb), b, hb, herror, hfirst⟩

/-- Two passes over a list of which the first succeeds are one pass that takes both steps. -/
theorem mapM_eq_mapM_bind {f : α → Except ε β} {g : β → Except ε γ} {as : List α} {bs : List β}
    (h : as.mapM f = .ok bs) : bs.mapM g = as.mapM fun a => f a >>= g := by
  have hall := mapM_eq_ok_iff.mp h
  clear h
  induction hall with
  | nil => rfl
  | @cons a b as bs hab _ ih =>
    rw [List.mapM_cons, List.mapM_cons, ih, hab]
    rfl

/-- What is read off each result, if it can be read off the element already. -/
theorem map_eq_map_of_mapM_eq_ok {f : α → Except ε β} {as : List α} {bs : List β}
    (h : as.mapM f = .ok bs) {g : β → γ} {g' : α → γ}
    (hg : ∀ a b, f a = .ok b → g b = g' a) : bs.map g = as.map g' := by
  have hall := mapM_eq_ok_iff.mp h
  clear h
  induction hall with
  | nil => rfl
  | cons hab _ ih => rw [List.map_cons, List.map_cons, hg _ _ hab, ih]

end DocSite
