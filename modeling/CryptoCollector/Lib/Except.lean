import Mathlib.Data.List.Forall2
import Mathlib.Logic.Basic

/-!
# Computations that may raise

What the success of a computation in `Except` says about its parts.
-/

namespace Lib

variable {α β ε : Type}

/-- Checks in sequence pass when each of them passes. -/
theorem orElse_eq_none {x y : Option α} : (x <|> y) = none ↔ x = none ∧ y = none := by
  cases x <;> simp

@[simp] theorem ok_bind (a : α) (f : α → Except ε β) : (Except.ok a >>= f) = f a := rfl

@[simp] theorem error_bind (e : ε) (f : α → Except ε β) :
    (Except.error e >>= f) = .error e := rfl

/-- A computation that succeeds has succeeded in its first part. -/
theorem bind_eq_ok {x : Except ε α} {f : α → Except ε β} {b : β} :
    (x >>= f) = .ok b ↔ ∃ a, x = .ok a ∧ f a = .ok b := by
  cases x <;> simp

/-- What follows a check runs when the check passes. -/
theorem check_bind_eq_ok {x : Except ε Unit} {f : Unit → Except ε β} {b : β} :
    (x >>= f) = .ok b ↔ x = .ok () ∧ f () = .ok b := by
  cases x <;> simp

theorem map_eq_ok {f : α → β} {x : Except ε α} {b : β} :
    f <$> x = .ok b ↔ ∃ a, x = .ok a ∧ f a = b := by
  cases x <;> simp [Functor.map, Except.map]

theorem bind_eq_error {x : Except ε α} {f : α → Except ε β} {e : ε} :
    (x >>= f) = .error e ↔ x = .error e ∨ ∃ a, x = .ok a ∧ f a = .error e := by
  cases x <;> simp

theorem map_eq_error {f : α → β} {x : Except ε α} {e : ε} :
    f <$> x = .error e ↔ x = .error e := by
  cases x <;> simp [Functor.map, Except.map]

/-- A check that raises lets what follows it run when its condition fails. -/
theorem throw_bind_eq_ok {c : Prop} [Decidable c] {e : ε} {f : Unit → Except ε β} {b : β} :
    (if c then throw e >>= f else f ()) = .ok b ↔ ¬ c ∧ f () = .ok b := by
  split_ifs with hc <;> simp [hc, throw, throwThe, MonadExceptOf.throw, bind, Except.bind]

theorem throw_eq_ok {c : Prop} [Decidable c] {e : ε} :
    (if c then throw e else pure () : Except ε Unit) = .ok () ↔ ¬ c := by
  split_ifs with hc <;> simp [hc, pure, Except.pure]

theorem ok_of_map {x : Except ε α} {f : α → β} {b : β} (h : x.toOption.map f = some b) :
    ∃ a, x = .ok a ∧ f a = b := by
  cases x with
  | error e => simp [Except.toOption] at h
  | ok a => exact ⟨a, rfl, by simpa [Except.toOption] using h⟩

/-- The first exception of some checks, or what follows them. -/
def checked (checks : Option ε) (x : Except ε α) : Except ε α :=
  match checks with
  | some e => .error e
  | none => x

theorem checked_eq_ok {checks : Option ε} {x : Except ε α} {y : α} :
    checked checks x = .ok y ↔ checks = none ∧ x = .ok y := by
  cases checks <;> simp [checked]

/-- Construct a value that passes its checks, or raise what they raise. -/
def construct (check : α → Option ε) (a : α) : Except ε {a : α // check a = none} :=
  match h : check a with
  | none => .ok ⟨a, h⟩
  | some e => .error e

theorem construct_of_valid {check : α → Option ε} {a : α} (h : check a = none) :
    construct check a = .ok ⟨a, h⟩ := by
  unfold construct
  split
  · rfl
  · rename_i e he
    rw [h] at he
    cases he

theorem construct_eq_ok {check : α → Option ε} {a : α} {x : {a : α // check a = none}} :
    construct check a = .ok x ↔ x.1 = a := by
  constructor
  · intro h
    unfold construct at h
    split at h
    · cases h
      rfl
    · cases h
  · rintro rfl
    exact construct_of_valid x.2

theorem mapM_eq_ok {f : α → Except ε β} {g : α → β} {xs : List α}
    (h : ∀ x ∈ xs, f x = .ok (g x)) : xs.mapM f = .ok (xs.map g) := by
  induction xs with
  | nil => rfl
  | cons x xs ih =>
    rw [List.mapM_cons, h x List.mem_cons_self, ok_bind,
      ih fun y hy => h y (List.mem_cons_of_mem _ hy)]
    rfl

theorem mapM_map_eq_ok {γ : Type} {f : β → Except ε γ} {h : α → β} {g : α → γ} {xs : List α}
    (hf : ∀ x ∈ xs, f (h x) = .ok (g x)) : (xs.map h).mapM f = .ok (xs.map g) := by
  induction xs with
  | nil => rfl
  | cons x xs ih =>
    rw [List.map_cons, List.mapM_cons, hf x List.mem_cons_self, ok_bind,
      ih fun y hy => hf y (List.mem_cons_of_mem _ hy)]
    rfl

/-- A traversal that succeeds has succeeded at every element. -/
theorem forall₂_of_mapM {f : α → Except ε β} {xs : List α} {ys : List β}
    (h : xs.mapM f = .ok ys) : List.Forall₂ (fun x y => f x = .ok y) xs ys := by
  induction xs generalizing ys with
  | nil =>
    cases h
    exact .nil
  | cons x xs ih =>
    rw [List.mapM_cons, bind_eq_ok] at h
    obtain ⟨y, hy, h⟩ := h
    obtain ⟨ys', hys, h⟩ := bind_eq_ok.mp h
    cases h
    exact .cons hy (ih hys)

theorem exists_right_of_forall₂ {R : α → β → Prop} {xs : List α} {ys : List β}
    (h : List.Forall₂ R xs ys) {x : α} (hx : x ∈ xs) : ∃ y ∈ ys, R x y := by
  induction h with
  | nil => simp at hx
  | @cons a b _ _ hab _ ih =>
    rcases List.mem_cons.1 hx with rfl | hx
    · exact ⟨b, List.mem_cons_self, hab⟩
    · obtain ⟨y, hy, hxy⟩ := ih hx
      exact ⟨y, List.mem_cons_of_mem _ hy, hxy⟩

theorem exists_left_of_forall₂ {R : α → β → Prop} {xs : List α} {ys : List β}
    (h : List.Forall₂ R xs ys) {y : β} (hy : y ∈ ys) : ∃ x ∈ xs, R x y :=
  exists_right_of_forall₂ (R := flip R) h.flip hy

theorem map_eq_of_forall₂ {γ : Type} {R : α → β → Prop} {xs : List α} {ys : List β}
    (h : List.Forall₂ R xs ys) {f : α → γ} {g : β → γ} (hR : ∀ x y, R x y → g y = f x) :
    ys.map g = xs.map f := by
  induction h with
  | nil => rfl
  | cons hab _ ih => rw [List.map_cons, List.map_cons, hR _ _ hab, ih]

theorem forall₂_trans {R : α → α → Prop} (htrans : ∀ a b c, R a b → R b c → R a c)
    {xs ys zs : List α} (h : List.Forall₂ R xs ys) (h' : List.Forall₂ R ys zs) :
    List.Forall₂ R xs zs := by
  induction h generalizing zs with
  | nil => exact h'
  | @cons a b xs ys hab _ ih =>
    cases h' with
    | cons hbc hrest => exact .cons (htrans a b _ hab hbc) (ih hrest)

/-- A loop of checks passes when every check does. -/
theorem forM_eq_ok {f : α → Except ε Unit} {xs : List α} :
    xs.forM f = .ok () ↔ ∀ x ∈ xs, f x = .ok () := by
  induction xs with
  | nil => simp [pure, Except.pure]
  | cons x xs ih =>
    change (f x >>= fun _ => xs.forM f) = .ok () ↔ _
    rw [check_bind_eq_ok, List.forall_mem_cons, ← ih]

/-- A traversal that fails has failed at some element. -/
theorem exists_of_mapM_error {f : α → Except ε β} {xs : List α} {e : ε}
    (h : xs.mapM f = .error e) : ∃ x ∈ xs, f x = .error e := by
  induction xs with
  | nil => cases h
  | cons x xs ih =>
    rw [List.mapM_cons] at h
    cases hx : f x with
    | error e' =>
      rw [hx] at h
      cases h
      exact ⟨x, List.mem_cons_self, hx⟩
    | ok y =>
      rw [hx, ok_bind] at h
      cases hxs : xs.mapM f with
      | error e' =>
        rw [hxs] at h
        cases h
        obtain ⟨z, hz, hfz⟩ := ih hxs
        exact ⟨z, List.mem_cons_of_mem _ hz, hfz⟩
      | ok ys =>
        rw [hxs] at h
        cases h

/-- A traversal whose elements succeed succeeds. -/
theorem mapM_total {f : α → Except ε β} {xs : List α} (h : ∀ x ∈ xs, ∃ y, f x = .ok y) :
    ∃ ys, xs.mapM f = .ok ys := by
  cases hxs : xs.mapM f with
  | ok ys => exact ⟨ys, rfl⟩
  | error e =>
    obtain ⟨x, hx, he⟩ := exists_of_mapM_error hxs
    obtain ⟨y, hy⟩ := h x hx
    rw [hy] at he
    cases he

/-- A fold whose steps succeed and keep an invariant succeeds and keeps it. -/
theorem foldlM_total {P : β → Prop} {f : β → α → Except ε β} {xs : List α} {b : β} (hb : P b)
    (h : ∀ b, ∀ x ∈ xs, P b → ∃ b', f b x = .ok b' ∧ P b') :
    ∃ b', xs.foldlM f b = .ok b' ∧ P b' := by
  induction xs generalizing b with
  | nil => exact ⟨b, rfl, hb⟩
  | cons x xs ih =>
    obtain ⟨b', hb', hP⟩ := h b x List.mem_cons_self hb
    rw [List.foldlM_cons, hb', ok_bind]
    exact ih hP fun b x hx => h b x (List.mem_cons_of_mem _ hx)

end Lib
