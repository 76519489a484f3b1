import Mathlib.Logic.Relation
import Mathlib.Data.List.Basic

/-!
# Incremental decoders and the frames of a stream

A decoder is fed a stream in pieces. It fails, asks for more, or finishes a frame and hands back
the input it did not use. How the input was cut does not matter (`feed_append`).

* `Decoder.Open` : what a decoder holds in the middle of a frame.
* `Decoder.takeFrames` : take the frames off a stream, one after the other, while they are
  accepted.
* `takeFrames_of_steps`, `steps_of_takeFrames` : the frames taken are the longest run of accepted
  frames at the start of the stream.
* `takeFrames_induction` : what each accepted frame keeps holds in the end.
-/

namespace Lib

/-- The answer of a decoder that was fed some input. -/
inductive Fed (σ α β : Type) where
  | failed
  | more (out : List β) (state : σ)
  | finished (out : List β) (unused : List α)

namespace Fed

variable {σ α β : Type}

/-- The answer when `out` had been decoded before. -/
def after (out : List β) : Fed σ α β → Fed σ α β
  | failed => failed
  | more out' s => more (out ++ out') s
  | finished out' unused => finished (out ++ out') unused

@[simp] theorem after_nil (f : Fed σ α β) : f.after [] = f := by
  cases f <;> rfl

theorem after_after (f : Fed σ α β) (x y : List β) : (f.after y).after x = f.after (x ++ y) := by
  cases f <;> simp [after]

end Fed

/-- A decoder of frames. -/
structure Decoder (α β : Type) where
  State : Type
  start : State
  feed : State → List α → Fed State α β
  /-- Input fed in two pieces is decoded as input fed whole. -/
  feed_append : ∀ s x y, x ≠ [] → y ≠ [] → feed s (x ++ y) =
    match feed s x with
    | .failed => .failed
    | .more out s' => (feed s' y).after out
    | .finished out unused => .finished out (unused ++ y)
  /-- A frame ends within the input that finishes it, and the rest of that input is unused. -/
  feed_finished : ∀ s x out unused, feed s x = .finished out unused →
    ∃ used, used ≠ [] ∧ x = used ++ unused

namespace Decoder

/-- Frames of one item that is its own content. -/
instance {α : Type} : Inhabited (Decoder α α) where
  default :=
    { State := Unit
      start := ()
      feed := fun s x =>
        match x with
        | [] => .more [] s
        | a :: rest => .finished [a] rest
      feed_append := by
        intro s x y hx _
        obtain ⟨a, rest, rfl⟩ := List.exists_cons_of_ne_nil hx
        rfl
      feed_finished := by
        intro s x out unused h
        cases x with
        | nil => cases h
        | cons a rest =>
          cases h
          exact ⟨[a], by simp, rfl⟩ }

/-- Compare the input with the item that is expected next and the items after it. -/
def expect {α β : Type} [DecidableEq α] (content : List β) :
    α → List α → List α → Fed (α × List α) α β
  | a, rest, [] => .more [] (a, rest)
  | a, rest, b :: x =>
    if a = b then
      match rest with
      | [] => .finished content x
      | a' :: rest' => expect content a' rest' x
    else .failed

/-- The decoder of one known frame. Its state is the part of the frame that is still to come. -/
def ofFrame {α β : Type} [DecidableEq α] (first : α) (rest : List α) (content : List β) :
    Decoder α β where
  State := α × List α
  start := (first, rest)
  feed s x := expect content s.1 s.2 x
  feed_append := by
    rintro ⟨a, rest⟩ x y - -
    dsimp only
    induction x generalizing a rest with
    | nil => simp [expect]
    | cons b x ih =>
      by_cases hab : a = b
      · cases rest with
        | nil => simp [expect, hab]
        | cons a' rest' => simpa [expect, hab] using ih a' rest'
      · cases rest <;> simp [expect, hab]
  feed_finished := by
    rintro ⟨a, rest⟩ x out unused h
    dsimp only at h
    induction x generalizing a rest with
    | nil => simp [expect] at h
    | cons b x ih =>
      by_cases hab : a = b
      · cases rest with
        | nil =>
          simp only [expect, hab, if_true, Fed.finished.injEq] at h
          exact ⟨[b], by simp, by simp [h.2]⟩
        | cons a' rest' =>
          simp only [expect, hab, if_true] at h
          obtain ⟨used, -, hx⟩ := ih a' rest' h
          exact ⟨b :: used, by simp, by simp [hx]⟩
      · cases rest <;> simp [expect, hab] at h

variable {α β γ ε : Type} (d : Decoder α β)

theorem unused_length_lt {s : d.State} {x unused : List α} {out : List β}
    (h : d.feed s x = .finished out unused) : unused.length < x.length := by
  obtain ⟨used, hused, rfl⟩ := d.feed_finished s x out unused h
  have := List.length_pos_of_ne_nil hused
  simp only [List.length_append]
  omega

theorem take_append_unused {s : d.State} {x unused : List α} {out : List β}
    (h : d.feed s x = .finished out unused) :
    x.take (x.length - unused.length) ++ unused = x := by
  obtain ⟨used, -, rfl⟩ := d.feed_finished s x out unused h
  simp

/-- `held` is the start of a frame: the decoder has answered with `out` and is in state `s`. -/
inductive Open : List α → List β → d.State → Prop
  | fresh : Open [] [] d.start
  | inside {held out s} (hne : held ≠ []) (h : d.feed d.start held = .more out s) : Open held out s

namespace Open

variable {d} {held x : List α} {out : List β} {s : d.State}

/-- Feeding on continues the frame. -/
theorem feed (h : d.Open held out s) (hx : x ≠ []) :
    d.feed d.start (held ++ x) = (d.feed s x).after out := by
  cases h with
  | fresh => simp
  | inside hne h => rw [d.feed_append _ _ _ hne hx, h]

theorem more {out' : List β} {s' : d.State} (h : d.Open held out s) (hx : x ≠ [])
    (hmore : d.feed s x = .more out' s') : d.Open (held ++ x) (out ++ out') s' := by
  refine .inside (by simp [hx]) ?_
  rw [h.feed hx, hmore, Fed.after]

/-- A piece that fails makes every stream that starts with it fail. -/
theorem failed (h : d.Open held out s) (hx : x ≠ []) (hfail : d.feed s x = .failed)
    (rest : List α) : d.feed d.start (held ++ x ++ rest) = .failed := by
  have hpiece : d.feed d.start (held ++ x) = .failed := by rw [h.feed hx, hfail, Fed.after]
  by_cases hrest : rest = []
  · simpa [hrest] using hpiece
  · rw [d.feed_append _ _ _ (by simp [hx]) hrest, hpiece]

/-- A piece that finishes the frame finishes it whatever comes after. -/
theorem finished {out' : List β} {unused : List α} (h : d.Open held out s) (hx : x ≠ [])
    (hfin : d.feed s x = .finished out' unused) (rest : List α) :
    d.feed d.start (held ++ x ++ rest) = .finished (out ++ out') (unused ++ rest) := by
  have hpiece : d.feed d.start (held ++ x) = .finished (out ++ out') unused := by
    rw [h.feed hx, hfin, Fed.after]
  by_cases hrest : rest = []
  · simpa [hrest] using hpiece
  · rw [d.feed_append _ _ _ (by simp [hx]) hrest, hpiece]

end Open

/-! ## Taking frames off a stream -/

section TakeFrames

variable (accept : γ → List α → List β → Except ε (Option γ))

/-- Take the frames of `source` while `accept` takes them; an error of `accept` ends the run. -/
def takeFrames (c : γ) (source : List α) : Except ε (γ × List α) :=
  match _h : d.feed d.start source with
  | .failed => .ok (c, source)
  | .more _ _ => .ok (c, source)
  | .finished plain unused =>
    match accept c (source.take (source.length - unused.length)) plain with
    | .error e => .error e
    | .ok none => .ok (c, source)
    | .ok (some c') => takeFrames c' unused
termination_by source.length
decreasing_by exact d.unused_length_lt _h

variable {d accept}

theorem takeFrames_failed {c : γ} {source : List α} (h : d.feed d.start source = .failed) :
    d.takeFrames accept c source = .ok (c, source) := by
  rw [takeFrames]
  split <;> simp_all

theorem takeFrames_more {c : γ} {source : List α} {out : List β} {s : d.State}
    (h : d.feed d.start source = .more out s) :
    d.takeFrames accept c source = .ok (c, source) := by
  rw [takeFrames]
  split <;> simp_all

theorem takeFrames_finished {c : γ} {source unused : List α} {plain : List β}
    (h : d.feed d.start source = .finished plain unused) :
    d.takeFrames accept c source =
      match accept c (source.take (source.length - unused.length)) plain with
      | .error e => .error e
      | .ok none => .ok (c, source)
      | .ok (some c') => d.takeFrames accept c' unused := by
  rw [takeFrames]
  split
  · simp_all
  · simp_all
  · rename_i plain' unused' h'
    rw [h] at h'
    obtain ⟨rfl, rfl⟩ : plain = plain' ∧ unused = unused' := by simpa using h'
    rfl

@[simp] theorem takeFrames_nil (c : γ) : d.takeFrames accept c [] = .ok (c, []) := by
  cases h : d.feed d.start [] with
  | failed => exact takeFrames_failed h
  | more out s => exact takeFrames_more h
  | finished out unused => simpa using d.unused_length_lt h

/-- An open frame that the stream ends in is not taken. -/
theorem takeFrames_open {c : γ} {held : List α} {out : List β} {s : d.State}
    (h : d.Open held out s) : d.takeFrames accept c held = .ok (c, held) := by
  cases h with
  | fresh => simp
  | inside _ h => exact takeFrames_more h

/-- `next` is where one more accepted frame leads to. -/
def Step (d : Decoder α β) (accept : γ → List α → List β → Except ε (Option γ))
    (now next : γ × List α) : Prop :=
  ∃ plain, d.feed d.start now.2 = .finished plain next.2 ∧
    accept now.1 (now.2.take (now.2.length - next.2.length)) plain = .ok (some next.1)

/-- Frames that are accepted one after the other are all taken. -/
theorem takeFrames_of_steps {now next : γ × List α}
    (h : Relation.ReflTransGen (Step d accept) now next) :
    d.takeFrames accept now.1 now.2 = d.takeFrames accept next.1 next.2 := by
  induction h with
  | refl => rfl
  | tail _ hstep ih =>
    obtain ⟨plain, hfeed, haccept⟩ := hstep
    rw [ih, takeFrames_finished hfeed, haccept]

/-- What is taken is a run of accepted frames, and no accepted frame follows it. -/
theorem steps_of_takeFrames {c c' : γ} {source rest : List α}
    (h : d.takeFrames accept c source = .ok (c', rest)) :
    Relation.ReflTransGen (Step d accept) (c, source) (c', rest) ∧
      ∀ next, ¬ Step d accept (c', rest) next := by
  induction hn : source.length using Nat.strongRecOn generalizing c source with
  | _ n ih =>
    subst hn
    cases hfeed : d.feed d.start source with
    | failed =>
      rw [takeFrames_failed hfeed] at h
      obtain ⟨rfl, rfl⟩ : c = c' ∧ source = rest := by simpa using h
      exact ⟨.refl, fun next ⟨plain, hnext, _⟩ => by simp [hfeed] at hnext⟩
    | more out s =>
      rw [takeFrames_more hfeed] at h
      obtain ⟨rfl, rfl⟩ : c = c' ∧ source = rest := by simpa using h
      exact ⟨.refl, fun next ⟨plain, hnext, _⟩ => by simp [hfeed] at hnext⟩
    | finished plain unused =>
      rw [takeFrames_finished hfeed] at h
      cases haccept : accept c (source.take (source.length - unused.length)) plain with
      | error e => simp [haccept] at h
      | ok answer =>
        cases answer with
        | none =>
          simp only [haccept] at h
          obtain ⟨rfl, rfl⟩ : c = c' ∧ source = rest := by simpa using h
          refine ⟨.refl, fun next ⟨plain', hnext, hok⟩ => ?_⟩
          rw [hfeed] at hnext
          obtain ⟨rfl, hunused⟩ : plain = plain' ∧ unused = next.2 := by simpa using hnext
          simp [← hunused, haccept] at hok
        | some c₁ =>
          simp only [haccept] at h
          obtain ⟨hsteps, hlast⟩ := ih _ (d.unused_length_lt hfeed) h rfl
          exact ⟨.head ⟨plain, hfeed, haccept⟩ hsteps, hlast⟩

/-- What holds at the start and is kept by each accepted frame holds in the end. -/
theorem takeFrames_induction {P : γ → List α → Prop} {c c' : γ} {source rest : List α}
    (hstart : P c source)
    (hkeep : ∀ now next, Step d accept now next → P now.1 now.2 → P next.1 next.2)
    (h : d.takeFrames accept c source = .ok (c', rest)) : P c' rest := by
  have hsteps := (steps_of_takeFrames h).1
  generalize hnext : (c', rest) = next at hsteps
  suffices hP : P next.1 next.2 by simpa [← hnext] using hP
  clear hnext
  induction hsteps with
  | refl => exact hstart
  | tail _ hstep ih => exact hkeep _ _ hstep ih

end TakeFrames

end Decoder

end Lib
