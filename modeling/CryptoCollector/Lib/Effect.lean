import Mathlib.Data.List.Basic

/-!
# Procedures that keep their changes when they fail

A procedure maps a state to an optional error and a state. Unlike a function into `Except`, the
state survives the error: what was changed before the failing statement stays changed.
-/

namespace Lib

/-- A procedure on `σ` that may stop with an error. -/
def Proc (ε σ : Type) : Type := σ → Option ε × σ

namespace Proc

variable {ε σ α : Type}

/-- Do nothing. -/
def skip : Proc ε σ := fun s => (none, s)

/-- Stop with an error. -/
def fail (e : ε) : Proc ε σ := fun s => (some e, s)

/-- Change the state. -/
def modify (f : σ → σ) : Proc ε σ := fun s => (none, f s)

/-- One procedure after another; the second is not run when the first fails. -/
def seq (f g : Proc ε σ) : Proc ε σ := fun s =>
  match f s with
  | (none, s') => g s'
  | (some e, s') => (some e, s')

/-- Choose the procedure by looking at the state. -/
def read (f : σ → Proc ε σ) : Proc ε σ := fun s => f s s

/-- Stop with `e` unless the state satisfies `p`. -/
def require (p : σ → Prop) [DecidablePred p] (e : ε) : Proc ε σ :=
  fun s => if p s then (none, s) else (some e, s)

/-- Run a procedure for each element, up to the first failure. -/
def forEach : List α → (α → Proc ε σ) → Proc ε σ
  | [], _ => skip
  | x :: xs, f => seq (f x) (forEach xs f)

/-- A procedure keeps a property, also when it fails. -/
def Keeps (J : σ → Prop) (f : Proc ε σ) : Prop := ∀ s, J s → J (f s).2

section Keeps

variable {J : σ → Prop} {f g : Proc ε σ}

theorem Keeps.apply (h : Keeps J f) {s : σ} (hs : J s) : J (f s).2 := h s hs

theorem keeps_skip : Keeps J (skip : Proc ε σ) := fun _ h => h

theorem keeps_fail (e : ε) : Keeps J (fail e : Proc ε σ) := fun _ h => h

theorem keeps_modify {f : σ → σ} (h : ∀ s, J s → J (f s)) : Keeps J (modify f : Proc ε σ) := h

theorem keeps_require {p : σ → Prop} [DecidablePred p] (e : ε) :
    Keeps J (require p e : Proc ε σ) := by
  intro s h
  unfold require
  split <;> exact h

theorem keeps_seq (hf : Keeps J f) (hg : Keeps J g) : Keeps J (seq f g) := by
  intro s h
  have h1 := hf s h
  unfold seq
  split
  · rename_i s' he
    rw [he] at h1
    exact hg s' h1
  · rename_i e s' he
    rw [he] at h1
    exact h1

theorem keeps_read {f : σ → Proc ε σ} (h : ∀ t, Keeps J (f t)) : Keeps J (read f) :=
  fun s hs => h s s hs

theorem keeps_forEach {xs : List α} {f : α → Proc ε σ} (h : ∀ x ∈ xs, Keeps J (f x)) :
    Keeps J (forEach xs f) := by
  induction xs with
  | nil => exact keeps_skip
  | cons x xs ih =>
    exact keeps_seq (h x List.mem_cons_self) (ih fun y hy => h y (List.mem_cons_of_mem _ hy))

theorem keeps_ite {c : Prop} [Decidable c] (hf : c → Keeps J f) (hg : ¬ c → Keeps J g) :
    Keeps J (if c then f else g) := by
  split
  · exact hf ‹_›
  · exact hg ‹_›

end Keeps

/-! ## Frames -/

/-- A procedure does not change what `π` reads, also when it fails. -/
structure Frame {β : Type} (π : σ → β) (f : Proc ε σ) : Prop where
  eq : ∀ s, π (f s).2 = π s

section Frame

variable {β : Type} {π : σ → β} {f g : Proc ε σ}

theorem frame_iff_keeps : Frame π f ↔ ∀ c, Keeps (fun s => π s = c) f :=
  ⟨fun h _ s hs => (h.eq s).trans hs, fun h => ⟨fun s => h (π s) s rfl⟩⟩

theorem Frame.comp {γ : Type} (g : β → γ) (h : Frame π f) : Frame (g ∘ π) f :=
  ⟨fun s => congrArg g (h.eq s)⟩

theorem frame_modify {f : σ → σ} (h : ∀ s, π (f s) = π s) : Frame π (modify f : Proc ε σ) := ⟨h⟩

theorem frame_skip : Frame π (skip : Proc ε σ) := ⟨fun _ => rfl⟩

theorem frame_fail (e : ε) : Frame π (fail e : Proc ε σ) := ⟨fun _ => rfl⟩

theorem frame_require {p : σ → Prop} [DecidablePred p] (e : ε) :
    Frame π (require p e : Proc ε σ) :=
  frame_iff_keeps.mpr fun _ => keeps_require e

theorem frame_seq (hf : Frame π f) (hg : Frame π g) : Frame π (seq f g) :=
  frame_iff_keeps.mpr fun c =>
    keeps_seq (frame_iff_keeps.mp hf c) (frame_iff_keeps.mp hg c)

theorem frame_read {f : σ → Proc ε σ} (h : ∀ t, Frame π (f t)) : Frame π (read f) :=
  ⟨fun s => (h s).eq s⟩

theorem frame_forEach {xs : List α} {f : α → Proc ε σ} (h : ∀ x ∈ xs, Frame π (f x)) :
    Frame π (forEach xs f) :=
  frame_iff_keeps.mpr fun c => keeps_forEach fun x hx => frame_iff_keeps.mp (h x hx) c

end Frame

/-! ## Runs with and without an error -/

theorem seq_cases (f g : Proc ε σ) (s : σ) :
    (f s).1 ≠ none ∧ seq f g s = f s ∨ (f s).1 = none ∧ seq f g s = g (f s).2 := by
  unfold seq
  cases h : f s with
  | mk e s' =>
    cases e with
    | none => exact .inr ⟨rfl, rfl⟩
    | some e => exact .inl ⟨by simp, rfl⟩

theorem seq_eq_none {f g : Proc ε σ} {s : σ} (h : (seq f g s).1 = none) :
    (f s).1 = none ∧ (g (f s).2).1 = none ∧ (seq f g s).2 = (g (f s).2).2 := by
  unfold seq at h ⊢
  split at h
  · rename_i s' he
    simp [he, h]
  · simp at h

theorem require_eq_none {p : σ → Prop} [DecidablePred p] {e : ε} {s : σ}
    (h : ((require p e : Proc ε σ) s).1 = none) : p s ∧ (require p e s : Option ε × σ).2 = s := by
  unfold require at h ⊢
  split at h
  · rename_i hp
    simp [hp]
  · simp at h

/-- A loop that runs to its end has established what each of its rounds establishes. -/
theorem forEach_eq_none {xs : List α} {f : α → Proc ε σ} {Q : α → σ → Prop}
    (hround : ∀ x ∈ xs, ∀ s, (f x s).1 = none → Q x (f x s).2)
    (hkeep : ∀ x ∈ xs, ∀ y ∈ xs, Keeps (Q x) (f y)) {s : σ} (h : (forEach xs f s).1 = none) :
    ∀ x ∈ xs, Q x (forEach xs f s).2 := by
  induction xs generalizing s with
  | nil => simp
  | cons a xs ih =>
    obtain ⟨hfirst, hrest, heq⟩ := seq_eq_none h
    intro x hx
    change Q x (seq (f a) (forEach xs f) s).2
    rw [heq]
    rcases List.mem_cons.1 hx with rfl | hx
    · have hstart := hround x List.mem_cons_self s hfirst
      exact keeps_forEach (fun y hy => hkeep x List.mem_cons_self y (List.mem_cons_of_mem _ hy))
        _ hstart
    · exact ih (fun y hy => hround y (List.mem_cons_of_mem _ hy))
        (fun y hy z hz => hkeep y (List.mem_cons_of_mem _ hy) z (List.mem_cons_of_mem _ hz)) hrest
        x hx

end Proc

end Lib
