import Mathlib.Logic.Relation

/-!
# Coroutines over atomic actions

A program of one event loop is a coroutine: it performs atomic actions on a shared state and,
at its suspension points, lets the rest of the world act. Both the coroutine and the world act
through one type of actions with one meaning, so that an execution is a path of actions, and an
invariant of the actions is an invariant of every execution.

* `Machine`: states, actions, errors and what an action does. An action that fails keeps the
  changes it made before failing.
* `Co`: coroutines. Suspension consumes a `Slot`: the actions of the world while the coroutine
  sleeps, and what the coroutine is told when it resumes. A coroutine carries the proof that its
  log is a path (`Path`), so no coroutine can change the state other than by its actions.
* `Path.invariant`: the invariant rule over a log.
* `Co.Wp`: preconditions of whole coroutines, for facts that hold because of the control flow;
  `Co.guarded_invariant` combines them with invariants that rest on such facts.
-/

namespace Lib

/-- States, atomic actions, and their meaning: the error an action raises, if any, and the
state it leaves behind. -/
structure Machine where
  State : Type
  Act : Type
  Err : Type
  exec : Act → State → Option Err × State
  /-- The actions that the world performs; the others belong to the coroutine. -/
  outside : Act → Bool

namespace Machine

variable (M : Machine)

/-- One line of a log: an action together with the state it acts on, or a moment at which the
coroutine is suspended. -/
inductive Entry where
  | step (a : M.Act) (s : M.State)
  | wait (s : M.State)

/-- The state a log line was written in. -/
def Entry.state {M : Machine} : Entry M → M.State
  | .step _ s => s
  | .wait s => s

/-- The action of a log line, if it has one, satisfies a predicate. -/
def Entry.Sat {M : Machine} (P : M.Act → M.State → Prop) : Entry M → Prop
  | .step a s => P a s
  | .wait _ => True

/-- A log that leads from one state to another. -/
inductive Path : M.State → List (Entry M) → M.State → Prop where
  | nil (s : M.State) : Path s [] s
  | step {s s' : M.State} {l : List (Entry M)} (a : M.Act) (h : Path (M.exec a s).2 l s') :
      Path s (.step a s :: l) s'
  | wait {s s' : M.State} {l : List (Entry M)} (h : Path s l s') : Path s (.wait s :: l) s'

variable {M}

theorem Path.append {s s' s'' : M.State} {l l' : List (Entry M)} (h : M.Path s l s')
    (h' : M.Path s' l' s'') : M.Path s (l ++ l') s'' := by
  induction h with
  | nil => exact h'
  | step a _ ih => exact .step a (ih h')
  | wait _ ih => exact .wait (ih h')

/-- The invariant rule: a property kept by every action of the log holds at every line of the
log and at its end. -/
theorem Path.invariant {J : M.State → Prop} {s s' : M.State} {l : List (Entry M)}
    (h : M.Path s l s') (h0 : J s)
    (hstep : ∀ a t, .step a t ∈ l → J t → J (M.exec a t).2) :
    (∀ e ∈ l, J e.state) ∧ J s' := by
  induction h with
  | nil => exact ⟨by simp, h0⟩
  | @step s s' l a _ ih =>
    have h1 := hstep a s List.mem_cons_self h0
    obtain ⟨hl, he⟩ := ih h1 fun b t hb => hstep b t (List.mem_cons_of_mem _ hb)
    refine ⟨?_, he⟩
    intro e hm
    rcases List.mem_cons.mp hm with rfl | hm
    · exact h0
    · exact hl e hm
  | @wait s s' l _ ih =>
    obtain ⟨hl, he⟩ := ih h0 fun b t hb => hstep b t (List.mem_cons_of_mem _ hb)
    refine ⟨?_, he⟩
    intro e hm
    rcases List.mem_cons.mp hm with rfl | hm
    · exact h0
    · exact hl e hm

/-- The rule for facts that are never lost: a preorder that every action of the log respects
relates the states of any two lines of the log. -/
theorem Path.pairwise {R : M.State → M.State → Prop} (hrefl : ∀ s, R s s)
    (htrans : ∀ s t u, R s t → R t u → R s u) {s s' : M.State} {l : List (Entry M)}
    (h : M.Path s l s') (hstep : ∀ a t, .step a t ∈ l → R t (M.exec a t).2) :
    (∀ e ∈ l, R s e.state) ∧ l.Pairwise fun e e' => R e.state e'.state := by
  induction h with
  | nil => exact ⟨by simp, .nil⟩
  | @step s s' l a _ ih =>
    obtain ⟨hs, hl⟩ := ih fun b t hb => hstep b t (List.mem_cons_of_mem _ hb)
    have h1 := hstep a s List.mem_cons_self
    have hrest : ∀ e ∈ l, R s e.state := fun e he => htrans _ _ _ h1 (hs e he)
    exact ⟨List.forall_mem_cons.mpr ⟨hrefl s, hrest⟩, .cons hrest hl⟩
  | @wait s s' l _ ih =>
    obtain ⟨hs, hl⟩ := ih fun b t hb => hstep b t (List.mem_cons_of_mem _ hb)
    exact ⟨List.forall_mem_cons.mpr ⟨hrefl s, hs⟩, .cons hs hl⟩

end Machine

open Machine

/-- What the world does while a coroutine is suspended, and what the coroutine is told when it
resumes. -/
structure Slot (M : Machine) (κ : Type) where
  acts : List M.Act
  told : κ

/-- How a coroutine stopped: with a value, with an error, or still suspended because the
schedule ended. -/
inductive Stop (ε α : Type) where
  | ret (a : α)
  | raise (e : ε)
  | parked

/-- The result of running a coroutine against a schedule. -/
structure Outcome (M : Machine) (κ α : Type) where
  stop : Stop M.Err α
  state : M.State
  rest : List (Slot M κ)
  log : List (Entry M)

/-- A coroutine: given a bound on the number of rounds of each of its loops and a schedule, it
runs from a state; its log is a path. -/
structure Co (M : Machine) (κ α : Type) where
  run : Nat → List (Slot M κ) → M.State → Outcome M κ α
  path : ∀ n sl s, M.Path s (run n sl s).log (run n sl s).state

namespace Co

variable {M : Machine} {κ α β γ : Type}

/-- Return a value. -/
def ret (a : α) : Co M κ α := ⟨fun _ sl s => ⟨.ret a, s, sl, []⟩, fun _ _ s => .nil s⟩

/-- Raise an error. -/
def raise (e : M.Err) : Co M κ α := ⟨fun _ sl s => ⟨.raise e, s, sl, []⟩, fun _ _ s => .nil s⟩

/-- Continue with `o` after the log `l`. -/
def after (l : List (Entry M)) (o : Outcome M κ β) : Outcome M κ β := { o with log := l ++ o.log }

/-- Run the second coroutine on the first one's value. -/
def andThen (m : Co M κ α) (f : α → Co M κ β) : Co M κ β where
  run n sl s :=
    let o := m.run n sl s
    match o.stop with
    | .ret a => after o.log ((f a).run n o.rest o.state)
    | .raise e => ⟨.raise e, o.state, o.rest, o.log⟩
    | .parked => ⟨.parked, o.state, o.rest, o.log⟩
  path n sl s := by
    have h := m.path n sl s
    dsimp only
    split
    · exact h.append ((f _).path n _ _)
    · exact h
    · exact h

instance : Monad (Co M κ) where
  pure := ret
  bind := andThen

/-- Perform an atomic action. -/
def act (a : M.Act) : Co M κ Unit where
  run _ sl s :=
    ⟨match (M.exec a s).1 with
      | none => .ret ()
      | some e => .raise e, (M.exec a s).2, sl, [.step a s]⟩
  path _ _ _ := .step a (.nil _)

/-- Read the state. -/
def get : Co M κ M.State := ⟨fun _ sl s => ⟨.ret s, s, sl, []⟩, fun _ _ s => .nil s⟩

/-- The world's actions during one suspension; their errors go to whoever acted. -/
def world : List M.Act → M.State → M.State × List (Entry M)
  | [], s => (s, [.wait s])
  | a :: as, s =>
    if M.outside a then
      let r := world as (M.exec a s).2
      (r.1, .wait s :: .step a s :: r.2)
    else world as s

theorem world_path (as : List M.Act) (s : M.State) :
    M.Path s (world as s).2 (world as s).1 := by
  induction as generalizing s with
  | nil => exact .wait (.nil s)
  | cons a as ih =>
    unfold world
    split
    · exact .wait (.step a (ih _))
    · exact ih s

/-- Suspend until the schedule says to go on. -/
def await : Co M κ κ where
  run _ sl s :=
    match sl with
    | [] => ⟨.parked, s, [], [.wait s]⟩
    | slot :: rest => ⟨.ret slot.told, (world slot.acts s).1, rest, (world slot.acts s).2⟩
  path _ sl s := by
    cases sl with
    | nil => exact .wait (.nil s)
    | cons slot rest => exact world_path _ s

/-- Run `m`, and the handler on its error if it raises one. -/
def handle (m : Co M κ α) (f : M.Err → Co M κ α) : Co M κ α where
  run n sl s :=
    let o := m.run n sl s
    match o.stop with
    | .ret a => ⟨.ret a, o.state, o.rest, o.log⟩
    | .raise e => after o.log ((f e).run n o.rest o.state)
    | .parked => ⟨.parked, o.state, o.rest, o.log⟩
  path n sl s := by
    have h := m.path n sl s
    dsimp only
    split
    · exact h
    · exact h.append ((f _).path n _ _)
    · exact h

/-- Run `m`, then `last` whether it returned or raised. -/
def ensure (m : Co M κ α) (last : Co M κ Unit) : Co M κ α := do
  let a ← handle m fun e => do
    last
    raise e
  last
  return a

/-- At most `k` rounds of a loop with a local variable; a round ends with the next value of the
variable or with the loop's result. -/
def rounds (body : β → Co M κ (β ⊕ γ)) : Nat → β → Co M κ γ
  | 0, _ => ⟨fun _ sl s => ⟨.parked, s, sl, []⟩, fun _ _ s => .nil s⟩
  | k + 1, b => do
    match ← body b with
    | .inl b' => rounds body k b'
    | .inr c => ret c

/-- A loop with a local variable. -/
def loop (body : β → Co M κ (β ⊕ γ)) (b : β) : Co M κ γ where
  run n sl s := (rounds body n b).run n sl s
  path n sl s := (rounds body n b).path n sl s

/-- Run a coroutine only under a condition. -/
def when (c : Prop) [Decidable c] (m : Co M κ Unit) : Co M κ Unit := if c then m else ret ()

/-- Run a coroutine for each element in turn. -/
def forEach (xs : List β) (f : β → Co M κ Unit) : Co M κ Unit :=
  match xs with
  | [] => ret ()
  | x :: xs => do
    f x
    forEach xs f

/-! ## Preconditions -/

/-- As long as the actions of a log satisfy `A`, they satisfy `P`. -/
def Guarded (A P : M.Act → M.State → Prop) : List (Entry M) → Prop
  | [] => True
  | e :: l => e.Sat A → e.Sat P ∧ Guarded A P l

/-- What is known after a coroutine stopped. -/
def After (Q : α → M.State → Prop) (E : M.Err → M.State → Prop) (stop : Stop M.Err α)
    (s : M.State) : Prop :=
  match stop with
  | .ret a => Q a s
  | .raise e => E e s
  | .parked => True

/-- `Wp A P m Q E s`: in every run of `m` from `s`, the actions satisfy `P` as long as they
satisfy `A`; and if all of them satisfy `A`, a returned value satisfies `Q` and an error `E`.
What is assumed of the log (`A`) is usually an invariant together with the hypotheses of a
theorem; what is shown of it (`P`) holds because of where in the program the action stands. -/
def Wp (A P : M.Act → M.State → Prop) (m : Co M κ α) (Q : α → M.State → Prop)
    (E : M.Err → M.State → Prop) (s : M.State) : Prop :=
  ∀ n sl, Guarded A P (m.run n sl s).log ∧
    ((∀ e ∈ (m.run n sl s).log, e.Sat A) → After Q E (m.run n sl s).stop (m.run n sl s).state)

theorem guarded_append {A P : M.Act → M.State → Prop} {l l' : List (Entry M)}
    (h : Guarded A P l) (h' : (∀ e ∈ l, e.Sat A) → Guarded A P l') : Guarded A P (l ++ l') := by
  induction l with
  | nil => exact h' (by simp)
  | cons e l ih =>
    intro he
    obtain ⟨h1, h2⟩ := h he
    refine ⟨h1, ih h2 ?_⟩
    intro hl
    apply h'
    intro x hx
    rcases List.mem_cons.mp hx with rfl | hx
    · exact he
    · exact hl x hx

/-- An invariant and a precondition that depend on each other: the invariant is kept by actions
that satisfy the precondition, and the precondition holds as long as the invariant does. -/
theorem guarded_invariant {A P : M.Act → M.State → Prop} {J : M.State → Prop}
    {s s' : M.State} {l : List (Entry M)} (h : M.Path s l s') (h0 : J s) (hg : Guarded A P l)
    (hA : ∀ a t, .step a t ∈ l → J t → A a t)
    (hstep : ∀ a t, .step a t ∈ l → J t → P a t → J (M.exec a t).2) :
    (∀ e ∈ l, J e.state ∧ e.Sat P) ∧ J s' := by
  induction h with
  | nil => exact ⟨by simp, h0⟩
  | @step s s' l a _ ih =>
    obtain ⟨hP, hg'⟩ := hg (hA a s List.mem_cons_self h0)
    have h1 := hstep a s List.mem_cons_self h0 hP
    obtain ⟨hl, he⟩ := ih h1 hg' (fun b t hb => hA b t (List.mem_cons_of_mem _ hb))
      (fun b t hb => hstep b t (List.mem_cons_of_mem _ hb))
    refine ⟨?_, he⟩
    intro e hm
    rcases List.mem_cons.mp hm with rfl | hm
    · exact ⟨h0, hP⟩
    · exact hl e hm
  | @wait s s' l _ ih =>
    obtain ⟨-, hg'⟩ := hg trivial
    obtain ⟨hl, he⟩ := ih h0 hg' (fun b t hb => hA b t (List.mem_cons_of_mem _ hb))
      (fun b t hb => hstep b t (List.mem_cons_of_mem _ hb))
    refine ⟨?_, he⟩
    intro e hm
    rcases List.mem_cons.mp hm with rfl | hm
    · exact ⟨h0, trivial⟩
    · exact hl e hm

section Wp

variable {A P : M.Act → M.State → Prop} {Q : α → M.State → Prop} {E : M.Err → M.State → Prop}
  {s : M.State}

theorem wp_mono {m : Co M κ α} {Q' : α → M.State → Prop} {E' : M.Err → M.State → Prop}
    (h : Wp A P m Q E s) (hQ : ∀ a t, Q a t → Q' a t) (hE : ∀ e t, E e t → E' e t) :
    Wp A P m Q' E' s := by
  intro n sl
  obtain ⟨h1, h2⟩ := h n sl
  refine ⟨h1, ?_⟩
  intro hA
  have h3 := h2 hA
  unfold After at h3 ⊢
  split at h3
  · exact hQ _ _ h3
  · exact hE _ _ h3
  · trivial

theorem wp_post {m : Co M κ α} {Q' : α → M.State → Prop} (h : Wp A P m Q E s)
    (hQ : ∀ a t, Q a t → Q' a t) : Wp A P m Q' E s := wp_mono h hQ fun _ _ he => he

theorem wp_pure {a : α} (h : Q a s) : Wp A P (pure a : Co M κ α) Q E s :=
  fun _ _ => ⟨trivial, fun _ => h⟩

theorem wp_raise {e : M.Err} (h : E e s) : Wp A P (raise e : Co M κ α) Q E s :=
  fun _ _ => ⟨trivial, fun _ => h⟩

theorem wp_get {Q : M.State → M.State → Prop} (h : Q s s) :
    Wp A P (get : Co M κ M.State) Q E s :=
  fun _ _ => ⟨trivial, fun _ => h⟩

theorem wp_bind {m : Co M κ α} {f : α → Co M κ β} {R : β → M.State → Prop}
    (h : Wp A P m (fun a t => Wp A P (f a) R E t) E s) : Wp A P (m >>= f) R E s := by
  intro n sl
  have hrun : (m >>= f).run n sl s = (andThen m f).run n sl s := rfl
  rw [hrun]
  unfold andThen
  dsimp only
  obtain ⟨h1, h2⟩ := h n sl
  cases hs : (m.run n sl s).stop with
  | ret a =>
    simp only [after]
    rw [hs] at h2
    refine ⟨guarded_append h1 fun hA => (h2 hA n _).1, ?_⟩
    intro hA
    have hl : ∀ e ∈ (m.run n sl s).log, e.Sat A := fun e he => hA e (List.mem_append_left _ he)
    exact (h2 hl n _).2 fun e he => hA e (List.mem_append_right _ he)
  | raise e =>
    rw [hs] at h2
    exact ⟨h1, h2⟩
  | parked => exact ⟨h1, fun _ => trivial⟩

theorem wp_act {a : M.Act} {Q : Unit → M.State → Prop}
    (h : A a s → P a s ∧ match (M.exec a s).1 with
      | none => Q () (M.exec a s).2
      | some e => E e (M.exec a s).2) : Wp A P (act a : Co M κ Unit) Q E s := by
  intro n sl
  refine ⟨fun hA => ⟨(h hA).1, trivial⟩, ?_⟩
  intro hA
  have h1 := (h (hA (.step a s) (by simp [act]))).2
  simp only [act]
  cases he : (M.exec a s).1 with
  | none =>
    rw [he] at h1
    exact h1
  | some e =>
    rw [he] at h1
    exact h1

/-- A property that the world keeps is still there after a suspension. -/
theorem wp_await {I : M.State → Prop} {Q : κ → M.State → Prop} (h0 : I s)
    (hI : ∀ a t, M.outside a = true → I t → A a t → P a t ∧ I (M.exec a t).2)
    (hQ : ∀ k t, I t → Q k t) : Wp A P (await : Co M κ κ) Q E s := by
  have hw : ∀ (as : List M.Act) (t : M.State), I t →
      Guarded A P (world as t).2 ∧ ((∀ e ∈ (world as t).2, e.Sat A) → I (world as t).1) := by
    intro as
    induction as with
    | nil =>
      intro t ht
      exact ⟨fun _ => ⟨trivial, trivial⟩, fun _ => ht⟩
    | cons a as ih =>
      intro t ht
      unfold world
      split
      · rename_i ho
        refine ⟨fun _ => ⟨trivial, ?_⟩, ?_⟩
        · intro hA
          obtain ⟨h1, h2⟩ := hI a t ho ht hA
          exact ⟨h1, (ih _ h2).1⟩
        · intro hA
          have ha : A a t := hA (.step a t) (by simp)
          apply (ih _ (hI a t ho ht ha).2).2
          intro e he
          exact hA e (List.mem_cons_of_mem _ (List.mem_cons_of_mem _ he))
      · exact ih t ht
  intro n sl
  cases sl with
  | nil => exact ⟨fun _ => ⟨trivial, trivial⟩, fun _ => trivial⟩
  | cons slot rest =>
    obtain ⟨h1, h2⟩ := hw slot.acts s h0
    exact ⟨h1, fun hA => hQ slot.told _ (h2 hA)⟩

theorem wp_rounds {body : β → Co M κ (β ⊕ γ)} {I : β → M.State → Prop} {R : γ → M.State → Prop}
    (hbody : ∀ b t, I b t → Wp A P (body b) (fun r t' => Sum.elim (I · t') (R · t') r) E t)
    (k : Nat) {b : β} (h : I b s) : Wp A P (rounds body k b) R E s := by
  induction k generalizing b s with
  | zero => exact fun _ _ => ⟨trivial, fun _ => trivial⟩
  | succ k ih =>
    unfold rounds
    apply wp_bind
    refine wp_post (hbody b s h) ?_
    intro r t hr
    cases r with
    | inl b' => exact ih hr
    | inr c => exact wp_pure hr

/-- The rule for loops, with an invariant of the loop's variable and the state. -/
theorem wp_loop {body : β → Co M κ (β ⊕ γ)} (I : β → M.State → Prop) {R : γ → M.State → Prop}
    (hbody : ∀ b t, I b t → Wp A P (body b) (fun r t' => Sum.elim (I · t') (R · t') r) E t)
    {b : β} (h : I b s) : Wp A P (loop body b) R E s := by
  intro n sl
  exact wp_rounds hbody n h n sl

theorem wp_forEach {xs : List β} {f : β → Co M κ Unit} (I : M.State → Prop)
    (hf : ∀ x ∈ xs, ∀ t, I t → Wp A P (f x) (fun _ => I) E t) (h : I s) :
    Wp A P (forEach xs f) (fun _ => I) E s := by
  induction xs generalizing s with
  | nil => exact wp_pure h
  | cons x xs ih =>
    apply wp_bind
    refine wp_post (hf x List.mem_cons_self s h) ?_
    intro _ t ht
    exact ih (fun y hy => hf y (List.mem_cons_of_mem _ hy)) ht

theorem wp_ite {c : Prop} [Decidable c] {m m' : Co M κ α} (h1 : c → Wp A P m Q E s)
    (h2 : ¬ c → Wp A P m' Q E s) : Wp A P (if c then m else m') Q E s := by
  split
  · exact h1 ‹_›
  · exact h2 ‹_›

theorem wp_when {c : Prop} [Decidable c] {m : Co M κ Unit} {Q : Unit → M.State → Prop}
    (h1 : c → Wp A P m Q E s) (h2 : ¬ c → Q () s) : Wp A P (when c m) Q E s := by
  unfold when
  split
  · exact h1 ‹_›
  · exact wp_pure (h2 ‹_›)

theorem wp_handle {m : Co M κ α} {f : M.Err → Co M κ α}
    (h : Wp A P m Q (fun e t => Wp A P (f e) Q E t) s) : Wp A P (handle m f) Q E s := by
  intro n sl
  unfold handle
  dsimp only
  obtain ⟨h1, h2⟩ := h n sl
  cases hs : (m.run n sl s).stop with
  | ret a =>
    rw [hs] at h2
    exact ⟨h1, h2⟩
  | parked => exact ⟨h1, fun _ => trivial⟩
  | raise e =>
    simp only [after]
    rw [hs] at h2
    refine ⟨guarded_append h1 fun hA => (h2 hA n _).1, ?_⟩
    intro hA
    have hl : ∀ e ∈ (m.run n sl s).log, e.Sat A := fun e he => hA e (List.mem_append_left _ he)
    exact (h2 hl n _).2 fun e he => hA e (List.mem_append_right _ he)

theorem wp_ensure {m : Co M κ α} {last : Co M κ Unit}
    (h : Wp A P m (fun a t => Wp A P last (fun _ => Q a) E t)
      (fun e t => Wp A P last (fun _ => E e) E t) s) : Wp A P (ensure m last) Q E s := by
  apply wp_bind
  apply wp_handle
  refine wp_mono h ?_ ?_
  · intro a t ht
    apply wp_bind
    exact wp_post ht fun _ t' hq => wp_pure hq
  · intro e t ht
    apply wp_bind
    exact wp_post ht fun _ t' he => wp_raise he

end Wp

/-! ## The actions a coroutine uses -/

/-- A coroutine performs no actions of its own but those of `C`. -/
structure Within (C : M.Act → Prop) (m : Co M κ α) : Prop where
  log : ∀ n sl s, ∀ e ∈ (m.run n sl s).log, e.Sat fun a _ => M.outside a = true ∨ C a

section Within

variable {C D : M.Act → Prop}

theorem Within.mono {m : Co M κ α} (h : Within C m) (hCD : ∀ a, C a → D a) : Within D m := by
  constructor
  intro n sl s e he
  have h1 := h.log n sl s e he
  cases e with
  | step a t => exact h1.imp_right (hCD a)
  | wait t => trivial

theorem within_pure (a : α) : Within C (pure a : Co M κ α) :=
  ⟨fun _ _ _ e he => absurd he (List.not_mem_nil (a := e))⟩

theorem within_raise (e : M.Err) : Within C (raise e : Co M κ α) :=
  ⟨fun _ _ _ e he => absurd he (List.not_mem_nil (a := e))⟩

theorem within_get : Within C (get : Co M κ M.State) :=
  ⟨fun _ _ _ e he => absurd he (List.not_mem_nil (a := e))⟩

theorem within_act {a : M.Act} (h : C a) : Within C (act a : Co M κ Unit) := by
  constructor
  intro n sl s e he
  have : e = .step a s := by simpa [act] using he
  subst this
  exact .inr h

theorem within_bind {m : Co M κ α} {f : α → Co M κ β} (hm : Within C m)
    (hf : ∀ a, Within C (f a)) : Within C (m >>= f) := by
  constructor
  intro n sl s e he
  have hrun : (m >>= f).run n sl s = (andThen m f).run n sl s := rfl
  rw [hrun] at he
  unfold andThen at he
  dsimp only at he
  split at he
  · rcases List.mem_append.mp he with he | he
    · exact hm.log n sl s e he
    · exact (hf _).log n _ _ e he
  · exact hm.log n sl s e he
  · exact hm.log n sl s e he

theorem within_await : Within C (await : Co M κ κ) := by
  have hw (as : List M.Act) (t : M.State) : ∀ e ∈ (world as t).2,
      e.Sat fun a _ => M.outside a = true ∨ C a := by
    induction as generalizing t with
    | nil =>
      intro e he
      have : e = .wait t := by simpa [world] using he
      subst this
      trivial
    | cons a as ih =>
      unfold world
      split
      · rename_i ho
        intro e he
        rcases List.mem_cons.mp he with rfl | he
        · trivial
        rcases List.mem_cons.mp he with rfl | he
        · exact .inl ho
        · exact ih _ e he
      · exact ih t
  constructor
  intro n sl s e he
  cases sl with
  | nil =>
    have : e = .wait s := by simpa [await] using he
    subst this
    trivial
  | cons slot rest => exact hw slot.acts s e he

theorem within_when {c : Prop} [Decidable c] {m : Co M κ Unit} (hm : Within C m) :
    Within C (when c m) := by
  unfold when
  split
  · exact hm
  · exact within_pure ()

theorem within_ite {c : Prop} [Decidable c] {m m' : Co M κ α} (h : Within C m)
    (h' : Within C m') : Within C (if c then m else m') := by
  split
  · exact h
  · exact h'

theorem within_handle {m : Co M κ α} {f : M.Err → Co M κ α} (hm : Within C m)
    (hf : ∀ e, Within C (f e)) : Within C (handle m f) := by
  constructor
  intro n sl s e he
  unfold handle at he
  dsimp only at he
  split at he
  · exact hm.log n sl s e he
  · rcases List.mem_append.mp he with he | he
    · exact hm.log n sl s e he
    · exact (hf _).log n _ _ e he
  · exact hm.log n sl s e he

theorem within_ensure {m : Co M κ α} {last : Co M κ Unit} (hm : Within C m)
    (hl : Within C last) : Within C (ensure m last) := by
  refine within_bind (within_handle hm fun e => ?_) fun a => ?_
  · exact within_bind hl fun _ => within_raise e
  · exact within_bind hl fun _ => within_pure a

theorem within_loop {body : β → Co M κ (β ⊕ γ)} (h : ∀ b, Within C (body b)) (b : β) :
    Within C (loop body b) := by
  have hr (k : Nat) (b : β) : Within C (rounds body k b) := by
    induction k generalizing b with
    | zero => exact ⟨fun _ _ _ e he => absurd he (List.not_mem_nil (a := e))⟩
    | succ k ih =>
      refine within_bind (h b) fun r => ?_
      cases r with
      | inl b' => exact ih b'
      | inr c => exact within_pure c
  exact ⟨fun n sl s => (hr n b).log n sl s⟩

theorem within_forEach {xs : List β} {f : β → Co M κ Unit} (h : ∀ x, Within C (f x)) :
    Within C (forEach xs f) := by
  induction xs with
  | nil => exact within_pure ()
  | cons x xs ih => exact within_bind (h x) fun _ => ih

/-- What the world and the actions of `C` keep is there all along, also after an error. -/
theorem wp_of_within {A P : M.Act → M.State → Prop} {I : M.State → Prop} {m : Co M κ α}
    {s : M.State} (hm : Within C m)
    (hI : ∀ a t, M.outside a = true ∨ C a → I t → A a t → P a t ∧ I (M.exec a t).2) (h0 : I s) :
    Wp A P m (fun _ => I) (fun _ => I) s := by
  have hpath (l : List (Entry M)) (t t' : M.State) (h : M.Path t l t')
      (hl : ∀ e ∈ l, e.Sat fun a _ => M.outside a = true ∨ C a) (ht : I t) :
      Guarded A P l ∧ ((∀ e ∈ l, e.Sat A) → I t') := by
    induction h with
    | nil => exact ⟨trivial, fun _ => ht⟩
    | @step t t' l a _ ih =>
      have ha : M.outside a = true ∨ C a := hl (.step a t) List.mem_cons_self
      have hrest : ∀ e ∈ l, e.Sat fun a _ => M.outside a = true ∨ C a :=
        fun e he => hl e (List.mem_cons_of_mem _ he)
      refine ⟨?_, ?_⟩
      · intro hA
        obtain ⟨h1, h2⟩ := hI a t ha ht hA
        exact ⟨h1, (ih hrest h2).1⟩
      · intro hA
        have h2 := (hI a t ha ht (hA (.step a t) List.mem_cons_self)).2
        exact (ih hrest h2).2 fun e he => hA e (List.mem_cons_of_mem _ he)
    | @wait t t' l _ ih =>
      have hrest : ∀ e ∈ l, e.Sat fun a _ => M.outside a = true ∨ C a :=
        fun e he => hl e (List.mem_cons_of_mem _ he)
      exact ⟨fun _ => ⟨trivial, (ih hrest ht).1⟩,
        fun hA => (ih hrest ht).2 fun e he => hA e (List.mem_cons_of_mem _ he)⟩
  intro n sl
  obtain ⟨h1, h2⟩ := hpath _ _ _ (m.path n sl s) (hm.log n sl s) h0
  refine ⟨h1, ?_⟩
  intro hA
  have h3 := h2 hA
  unfold After
  split
  · exact h3
  · exact h3
  · trivial

end Within

end Co

end Lib
