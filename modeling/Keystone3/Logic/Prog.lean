import Mathlib.Control.Monad.Basic

/-!
# Fallible programs over a state

A C routine that talks to hardware ends in one of three ways: it returns a value, it
returns an error code, or it never returns at all, because an assertion fired or the
power went. `Prog ε σ α` is that: a function from a state to an `Outcome` and the state
it left.

Two ways to reason about one are set up here, both generic in the error type, the state
and the result:

* `Frame R x`: every run of `x`, however it ends, relates the state before to the state
  after by `R`. For a reflexive and transitive `R` frames compose along the program text
  (`frame_bind`, `frame_attempt`, `frame_each`), which is how "nothing here touches that
  cell" is proved.
* `Triple P x Q E H`: from a state in `P`, a run that returns ends in `Q`, one that
  fails ends in `E` and one that stops ends in `H`. The stopping postcondition is what a
  power loss leaves for the recovery code.
-/

namespace Keystone3.Logic

/-- How a run ends: with a value, with an error code, or not at all. -/
inductive Outcome (ε α : Type) where
  | ok (a : α)
  | error (e : ε)
  | halted
deriving DecidableEq

/-- A program over the state `σ`. -/
def Prog (ε σ α : Type) : Type := σ → Outcome ε α × σ

namespace Prog

variable {ε σ α β : Type}

/-- Run `f` on the value of a finished step; pass the other endings on. -/
def bindOutcome (f : α → Prog ε σ β) : Outcome ε α × σ → Outcome ε β × σ
  | (.ok a, s) => f a s
  | (.error e, s) => (.error e, s)
  | (.halted, s) => (.halted, s)

instance : Monad (Prog ε σ) where
  pure a := fun s => (.ok a, s)
  bind x f := fun s => bindOutcome f (x s)

def get : Prog ε σ σ := fun s => (.ok s, s)

/-- Replace the state by its image under `f`. -/
def modify (f : σ → σ) : Prog ε σ Unit := fun s => (.ok (), f s)

/-- Return the error code `e`. -/
def throw (e : ε) : Prog ε σ α := fun s => (.error e, s)

def halt : Prog ε σ α := fun s => (.halted, s)

/-- Go on if `c` holds, return the error code `e` otherwise. -/
def require (c : Bool) (e : ε) : Prog ε σ Unit := if c then pure () else throw e

/-- Go on if `c` holds, never return otherwise. -/
def assert (c : Bool) : Prog ε σ Unit := if c then pure () else halt

def ofExcept : Except ε α → Prog ε σ α
  | .ok a => pure a
  | .error e => throw e

def ofOutcome (o : Outcome ε α) : Prog ε σ α := fun s => (o, s)

/-- Run `x` and hand its return code to the caller as a value. -/
def attempt (x : Prog ε σ α) : Prog ε σ (Except ε α) := fun s =>
  match x s with
  | (.ok a, s') => (.ok (.ok a), s')
  | (.error e, s') => (.ok (.error e), s')
  | (.halted, s') => (.halted, s')

/-- Run `x` and ignore its return code. -/
def ignore (x : Prog ε σ α) : Prog ε σ Unit := do
  let _ ← attempt x

def each (f : β → Prog ε σ Unit) : List β → Prog ε σ Unit
  | [] => pure ()
  | b :: bs => do
    f b
    each f bs

/-- Run `x` on a part of the state. -/
def onPart {τ : Type} (part : τ → σ) (put : σ → τ → τ) (x : Prog ε σ α) : Prog ε τ α := fun t =>
  ((x (part t)).1, put (x (part t)).2 t)

@[simp] theorem pure_apply (a : α) (s : σ) : (pure a : Prog ε σ α) s = (.ok a, s) := rfl

@[simp] theorem get_apply (s : σ) : (get : Prog ε σ σ) s = (.ok s, s) := rfl

@[simp] theorem modify_apply (f : σ → σ) (s : σ) :
    (modify f : Prog ε σ Unit) s = (.ok (), f s) := rfl

@[simp] theorem throw_apply (e : ε) (s : σ) : (throw e : Prog ε σ α) s = (.error e, s) := rfl

@[simp] theorem halt_apply (s : σ) : (halt : Prog ε σ α) s = (.halted, s) := rfl

theorem bind_apply (x : Prog ε σ α) (f : α → Prog ε σ β) (s : σ) :
    (x >>= f) s = bindOutcome f (x s) := rfl

variable {x : Prog ε σ α} {s s' : σ} {f : α → Prog ε σ β}

theorem bind_ok {a : α}
    (h : x s = (.ok a, s')) : (x >>= f) s = f a s' := by
  rw [bind_apply, h]
  rfl

theorem bind_error {e : ε}
    (h : x s = (.error e, s')) : (x >>= f) s = (.error e, s') := by
  rw [bind_apply, h]
  rfl

theorem bind_halted
    (h : x s = (.halted, s')) : (x >>= f) s = (.halted, s') := by
  rw [bind_apply, h]
  rfl

@[simp] theorem get_bind (f : σ → Prog ε σ β) (s : σ) : ((get >>= f : Prog ε σ β)) s = f s s := rfl

@[simp] theorem modify_bind (g : σ → σ) (f : Unit → Prog ε σ β) (s : σ) :
    (modify g >>= f : Prog ε σ β) s = f () (g s) := rfl

theorem bind_bind {γ : Type} (x : Prog ε σ α) (f : α → Prog ε σ β) (g : β → Prog ε σ γ) :
    (x >>= f) >>= g = x >>= fun a => f a >>= g := by
  funext s
  rw [bind_apply, bind_apply, bind_apply]
  match x s with
  | (.ok _, _) => rfl
  | (.error _, _) => rfl
  | (.halted, _) => rfl

theorem pure_bind_value (a : α) (f : α → Prog ε σ β) : (pure a >>= f : Prog ε σ β) = f a := rfl

theorem bind_pure_unit (x : Prog ε σ Unit) (s : σ) : (x >>= fun _ => pure ()) s = x s := by
  rw [bind_apply]
  match x s with
  | (.ok (), _) => rfl
  | (.error _, _) => rfl
  | (.halted, _) => rfl

theorem run_eq {s : σ} {o : Outcome ε α} (h : (x s).1 = o) :
    x s = (o, (x s).2) := by
  rw [← h]

theorem assert_true {c : Bool} (h : c = true) (s : σ) :
    (assert c : Prog ε σ Unit) s = (.ok (), s) := by
  rw [h]
  rfl

theorem assert_false {c : Bool} (h : c = false) (s : σ) :
    (assert c : Prog ε σ Unit) s = (.halted, s) := by
  rw [h]
  rfl

theorem bind_eq_ok {b : β}
    (h : (x >>= f) s = (.ok b, s')) : ∃ a t, x s = (.ok a, t) ∧ f a t = (.ok b, s') := by
  rw [bind_apply] at h
  match hx : x s, h with
  | (.ok a, t), h => exact ⟨a, t, rfl, h⟩

theorem ofExcept_eq_ok {r : Except ε α} {a : α}
    (h : (ofExcept r : Prog ε σ α) s = (.ok a, s')) : r = .ok a ∧ s' = s := by
  cases r with
  | error e => cases h
  | ok b =>
    cases h
    exact ⟨rfl, rfl⟩

theorem attempt_ok {a : α} (h : x s = (.ok a, s')) :
    attempt x s = (.ok (.ok a), s') := by
  unfold attempt
  rw [h]

theorem attempt_error {e : ε} (h : x s = (.error e, s')) :
    attempt x s = (.ok (.error e), s') := by
  unfold attempt
  rw [h]

theorem attempt_halted (h : x s = (.halted, s')) :
    attempt x s = (.halted, s') := by
  unfold attempt
  rw [h]

theorem ofOutcome_eq {o r : Outcome ε α} (h : (ofOutcome o : Prog ε σ α) s = (r, s')) :
    o = r ∧ s = s' := Prod.mk.inj h

theorem attempt_eq_ok {r : Except ε α}
    (h : attempt x s = (.ok r, s')) :
    (∃ a, r = .ok a ∧ x s = (.ok a, s')) ∨ ∃ e, r = .error e ∧ x s = (.error e, s') := by
  unfold attempt at h
  match hx : x s, h with
  | (.ok a, t), h =>
    cases h
    exact .inl ⟨a, rfl, rfl⟩
  | (.error e, t), h =>
    cases h
    exact .inr ⟨e, rfl, rfl⟩

@[simp] theorem attempt_snd (x : Prog ε σ α) (s : σ) : (attempt x s).2 = (x s).2 := by
  unfold attempt
  split <;> (next h => rw [h])

@[simp] theorem ignore_snd (x : Prog ε σ α) (s : σ) : (ignore x s).2 = (x s).2 := by
  show (bindOutcome _ (attempt x s)).2 = _
  rw [← attempt_snd x s]
  match attempt x s with
  | (.ok _, _) => rfl
  | (.error _, _) => rfl
  | (.halted, _) => rfl

theorem ignore_ok {a : α} (h : x s = (.ok a, s')) :
    ignore x s = (.ok (), s') :=
  bind_ok (attempt_ok h)

theorem ignore_ne_error (x : Prog ε σ α) (s : σ) (e : ε) : (ignore x s).1 ≠ .error e := by
  show (bindOutcome _ (attempt x s)).1 ≠ _
  unfold attempt
  split <;> exact nofun

theorem onPart_eq {τ : Type} {part : τ → σ} {put : σ → τ → τ} {t : τ}
    {o : Outcome ε α} {s : σ} (h : x (part t) = (o, s)) : onPart part put x t = (o, put s t) := by
  unfold onPart
  rw [h]

/-- Every run of `x` relates the state before to the state after by `R`. -/
def Frame (R : σ → σ → Prop) (x : Prog ε σ α) : Prop := ∀ s, R s (x s).2

/-- The relations a frame is stated for: a run may do nothing, and runs
compose. -/
structure Preorder (R : σ → σ → Prop) : Prop where
  refl : ∀ s, R s s
  trans : ∀ {a b c}, R a b → R b c → R a c

section

variable {R : σ → σ → Prop}

theorem frame_pure (hR : Preorder R) (a : α) : Frame R (pure a : Prog ε σ α) := fun s => hR.refl s

theorem frame_get (hR : Preorder R) : Frame R (get : Prog ε σ σ) := fun s => hR.refl s

theorem frame_throw (hR : Preorder R) (e : ε) : Frame R (throw e : Prog ε σ α) := fun s => hR.refl s

theorem frame_halt (hR : Preorder R) : Frame R (halt : Prog ε σ α) := fun s => hR.refl s

theorem frame_modify {f : σ → σ} (h : ∀ s, R s (f s)) : Frame R (modify f : Prog ε σ Unit) := h

theorem frame_bind (hR : Preorder R) {x : Prog ε σ α} {f : α → Prog ε σ β}
    (hx : Frame R x) (hf : ∀ a, Frame R (f a)) : Frame R (x >>= f) := by
  intro s
  have h := hx s
  rw [bind_apply]
  match hxs : x s with
  | (.ok a, t) =>
    rw [hxs] at h
    exact hR.trans h (hf a t)
  | (.error e, t) =>
    rw [hxs] at h
    exact h
  | (.halted, t) =>
    rw [hxs] at h
    exact h

theorem frame_attempt {x : Prog ε σ α} (hx : Frame R x) : Frame R (attempt x) := by
  intro s
  rw [attempt_snd]
  exact hx s

theorem frame_ignore {x : Prog ε σ α} (hx : Frame R x) : Frame R (ignore x) := by
  intro s
  rw [ignore_snd]
  exact hx s

theorem frame_require (hR : Preorder R) (c : Bool) (e : ε) :
    Frame R (require c e : Prog ε σ Unit) := by
  unfold require
  split
  · exact frame_pure hR ()
  · exact frame_throw hR e

theorem frame_assert (hR : Preorder R) (c : Bool) : Frame R (assert c : Prog ε σ Unit) := by
  unfold assert
  split
  · exact frame_pure hR ()
  · exact frame_halt hR

theorem frame_ofExcept (hR : Preorder R) (r : Except ε α) :
    Frame R (ofExcept r : Prog ε σ α) := by
  cases r with
  | ok a => exact frame_pure hR a
  | error e => exact frame_throw hR e

theorem frame_each (hR : Preorder R) {f : β → Prog ε σ Unit} :
    ∀ bs : List β, (∀ b ∈ bs, Frame R (f b)) → Frame R (each f bs)
  | [], _ => frame_pure hR ()
  | b :: bs, h =>
    frame_bind hR (h b (.head _)) fun _ =>
      frame_each hR bs fun b' hb' => h b' (.tail _ hb')

theorem frame_mono {S : σ → σ → Prop} (h : ∀ s t, R s t → S s t) {x : Prog ε σ α}
    (hx : Frame R x) : Frame S x :=
  fun s => h _ _ (hx s)

end

/-- The frame of one observable: its value is left alone. -/
def Keeps (f : σ → β) : σ → σ → Prop := fun s t => f t = f s

theorem keeps_preorder (f : σ → β) : Preorder (Keeps f) where
  refl _ := rfl
  trans h₁ h₂ := Eq.trans h₂ h₁

/-- The frame of an invariant: it holds afterwards if it held before. -/
def Holding (I : σ → Prop) : σ → σ → Prop := fun s t => I s → I t

theorem holding_preorder (I : σ → Prop) : Preorder (Holding I) where
  refl _ h := h
  trans h₁ h₂ h := h₂ (h₁ h)

/-- What an ending satisfies: `Q` at a value, `E` at an error, `H` at a stop. -/
def Sat (Q : α → σ → Prop) (E : ε → σ → Prop) (H : σ → Prop) : Outcome ε α × σ → Prop
  | (.ok a, s) => Q a s
  | (.error e, s) => E e s
  | (.halted, s) => H s

/-- From any state in `P`, the run of `x` ends as `Q`, `E` and `H` say. -/
def Triple (P : σ → Prop) (x : Prog ε σ α) (Q : α → σ → Prop) (E : ε → σ → Prop)
    (H : σ → Prop) : Prop :=
  ∀ s, P s → Sat Q E H (x s)

section

variable {P : σ → Prop} {Q : α → σ → Prop} {E : ε → σ → Prop} {H : σ → Prop}

theorem triple_pure {a : α} (h : ∀ s, P s → Q a s) : Triple P (pure a) Q E H := h

theorem triple_throw {e : ε} (h : ∀ s, P s → E e s) : Triple P (throw e : Prog ε σ α) Q E H := h

theorem triple_halt (h : ∀ s, P s → H s) : Triple P (halt : Prog ε σ α) Q E H := h

theorem triple_get {Q : σ → σ → Prop} (h : ∀ s, P s → Q s s) :
    Triple P (get : Prog ε σ σ) Q E H := h

theorem triple_modify {f : σ → σ} {Q : Unit → σ → Prop} (h : ∀ s, P s → Q () (f s)) :
    Triple P (modify f : Prog ε σ Unit) Q E H := h

variable {x : Prog ε σ α}

theorem triple_bind {f : α → Prog ε σ β} {R : β → σ → Prop}
    (hx : Triple P x Q E H) (hf : ∀ a, Triple (Q a) (f a) R E H) :
    Triple P (x >>= f) R E H := by
  intro s hs
  have h := hx s hs
  rw [bind_apply]
  match hxs : x s with
  | (.ok a, t) =>
    rw [hxs] at h
    exact hf a t h
  | (.error e, t) =>
    rw [hxs] at h
    exact h
  | (.halted, t) =>
    rw [hxs] at h
    exact h

theorem triple_bind_never {f : α → Prog ε σ β} {R : β → σ → Prop}
    (hx : Triple P x (fun _ _ => False) E H) : Triple P (x >>= f) R E H :=
  triple_bind hx fun _ _ h => h.elim

theorem triple_bind_value {f : α → Prog ε σ β} {R : β → σ → Prop} {v : α}
    (hx : Triple P x (fun a s => P s ∧ a = v) E H) (hf : Triple P (f v) R E H) :
    Triple P (x >>= f) R E H := by
  refine triple_bind hx fun a s hs => ?_
  obtain ⟨hs, rfl⟩ := hs
  exact hf s hs

theorem triple_conseq {P' : σ → Prop} {Q' : α → σ → Prop} {E' : ε → σ → Prop}
    {H' : σ → Prop} (h : Triple P' x Q' E' H') (hP : ∀ s, P s → P' s)
    (hQ : ∀ a s, Q' a s → Q a s) (hE : ∀ e s, E' e s → E e s) (hH : ∀ s, H' s → H s) :
    Triple P x Q E H := by
  intro s hs
  have h' := h s (hP s hs)
  match hxs : x s with
  | (.ok a, t) =>
    rw [hxs] at h'
    exact hQ a t h'
  | (.error e, t) =>
    rw [hxs] at h'
    exact hE e t h'
  | (.halted, t) =>
    rw [hxs] at h'
    exact hH t h'

theorem triple_attempt {Q' : Except ε α → σ → Prop}
    (h : Triple P x (fun a => Q' (.ok a)) (fun e => Q' (.error e)) H) :
    Triple P (attempt x) Q' E H := by
  intro s hs
  have h' := h s hs
  unfold attempt
  match hxs : x s with
  | (.ok a, t) =>
    rw [hxs] at h'
    exact h'
  | (.error e, t) =>
    rw [hxs] at h'
    exact h'
  | (.halted, t) =>
    rw [hxs] at h'
    exact h'

theorem triple_ignore {Q' : Unit → σ → Prop}
    (h : Triple P x (fun _ => Q' ()) (fun _ => Q' ()) H) :
    Triple P (ignore x) Q' E H :=
  triple_bind (Q := fun _ => Q' ()) (triple_attempt h) fun _ => triple_pure fun _ hs => hs

theorem triple_require {c : Bool} {e : ε} {Q : Unit → σ → Prop}
    (ht : c = true → ∀ s, P s → Q () s) (hf : c = false → ∀ s, P s → E e s) :
    Triple P (require c e : Prog ε σ Unit) Q E H := by
  unfold require
  cases c with
  | true => exact triple_pure (ht rfl)
  | false => exact triple_throw (hf rfl)

theorem triple_each {I : σ → Prop} {f : β → Prog ε σ Unit} :
    ∀ bs : List β, (∀ b ∈ bs, Triple I (f b) (fun _ => I) E H) →
      Triple I (each f bs) (fun _ => I) E H
  | [], _ => triple_pure fun _ hs => hs
  | b :: bs, h =>
    triple_bind (h b (.head _)) fun _ =>
      triple_each bs fun b' hb' => h b' (.tail _ hb')

theorem triple_each_indexed {I : Nat → σ → Prop} {f : β → Prog ε σ Unit} :
    ∀ (bs : List β) (k : Nat),
      (∀ j b, bs[j]? = some b → Triple (I (k + j)) (f b) (fun _ => I (k + j + 1)) E H) →
      Triple (I k) (each f bs) (fun _ => I (k + bs.length)) E H
  | [], _, _ => triple_pure fun _ hs => hs
  | b :: bs, k, h => by
    refine triple_bind (h 0 b rfl) fun _ => ?_
    have hrest := triple_each_indexed bs (k + 1) fun j b' hb' => by
      rw [Nat.add_right_comm k 1 j]
      exact h (j + 1) b' hb'
    rw [List.length_cons, Nat.add_comm bs.length 1, ← Nat.add_assoc]
    exact hrest

theorem triple_of_frame {R : σ → σ → Prop} {I : σ → Prop} (hx : Frame R x)
    (hI : ∀ s t, R s t → I s → I t) : Triple I x (fun _ => I) (fun _ => I) I := by
  intro s hs
  have h := hI _ _ (hx s) hs
  match hxs : x s with
  | (.ok a, t) =>
    rw [hxs] at h
    exact h
  | (.error e, t) =>
    rw [hxs] at h
    exact h
  | (.halted, t) =>
    rw [hxs] at h
    exact h

theorem triple_frame {R : σ → σ → Prop} (hx : Frame R x) (s : σ) :
    Triple (fun t => t = s) x (fun _ => R s) (fun _ => R s) (R s) := by
  intro s' hs
  rw [hs]
  have h := hx s
  match hxs : x s with
  | (.ok a, t) =>
    rw [hxs] at h
    exact h
  | (.error e, t) =>
    rw [hxs] at h
    exact h
  | (.halted, t) =>
    rw [hxs] at h
    exact h

theorem triple_of_ok {R : σ → σ → Prop} {s : σ} {V : α → σ → Prop}
    (hx : Frame R x) (hok : ∀ a t, x s = (.ok a, t) → V a t) :
    Triple (fun t => t = s) x (fun a t => R s t ∧ V a t) (fun _ => R s) (R s) := by
  intro s' hs
  have h := triple_frame hx s s' hs
  rw [hs] at h ⊢
  match hxs : x s with
  | (.ok a, t) =>
    rw [hxs] at h
    exact ⟨h, hok a t hxs⟩
  | (.error e, t) =>
    rw [hxs] at h
    exact h
  | (.halted, t) =>
    rw [hxs] at h
    exact h

theorem triple_snd {I : σ → Prop}
    (h : Triple P x (fun _ => I) (fun _ => I) I) {s : σ} (hs : P s) : I (x s).2 := by
  have h' := h s hs
  match hxs : x s with
  | (.ok _, _) =>
    rw [hxs] at h'
    exact h'
  | (.error _, _) =>
    rw [hxs] at h'
    exact h'
  | (.halted, _) =>
    rw [hxs] at h'
    exact h'

theorem triple_and {P' : σ → Prop} {Q' : α → σ → Prop} {E' : ε → σ → Prop}
    {H' : σ → Prop} (h₁ : Triple P x Q E H) (h₂ : Triple P' x Q' E' H') :
    Triple (fun s => P s ∧ P' s) x (fun a s => Q a s ∧ Q' a s) (fun e s => E e s ∧ E' e s)
      (fun s => H s ∧ H' s) := by
  intro s hs
  have a := h₁ s hs.1
  have b := h₂ s hs.2
  match hxs : x s with
  | (.ok _, _) =>
    rw [hxs] at a b
    exact ⟨a, b⟩
  | (.error _, _) =>
    rw [hxs] at a b
    exact ⟨a, b⟩
  | (.halted, _) =>
    rw [hxs] at a b
    exact ⟨a, b⟩

end

end Prog

def runSteps {σ ι : Type} (step : ι → σ → σ) : List ι → σ → σ
  | [], s => s
  | i :: is, s => runSteps step is (step i s)

theorem runSteps_append {σ ι : Type} (step : ι → σ → σ) :
    ∀ (is js : List ι) (s : σ), runSteps step (is ++ js) s = runSteps step js (runSteps step is s)
  | [], _, _ => rfl
  | i :: is, js, s => runSteps_append step is js (step i s)

theorem runSteps_inv {σ ι : Type} {step : ι → σ → σ} {I : σ → Prop}
    (h : ∀ i s, I s → I (step i s)) : ∀ (is : List ι) (s : σ), I s → I (runSteps step is s)
  | [], _, hs => hs
  | i :: is, s, hs => runSteps_inv h is (step i s) (h i s hs)

/-- Each step of a run meets the condition `C` in the state it starts from. -/
def AllSteps {σ ι : Type} (step : ι → σ → σ) (C : ι → σ → Prop) : List ι → σ → Prop
  | [], _ => True
  | i :: is, s => C i s ∧ AllSteps step C is (step i s)

instance decidableAllSteps {σ ι : Type} (step : ι → σ → σ) (C : ι → σ → Prop)
    [h : ∀ i s, Decidable (C i s)] : ∀ (is : List ι) (s : σ), Decidable (AllSteps step C is s)
  | [], _ => isTrue trivial
  | i :: is, s =>
    have := decidableAllSteps step C is (step i s)
    inferInstanceAs (Decidable (C i s ∧ AllSteps step C is (step i s)))

theorem runSteps_inv_of {σ ι : Type} {step : ι → σ → σ} {C : ι → σ → Prop} {I : σ → Prop}
    (h : ∀ i s, C i s → I s → I (step i s)) :
    ∀ (is : List ι) (s : σ), AllSteps step C is s → I s → I (runSteps step is s)
  | [], _, _, hs => hs
  | i :: is, s, hc, hs => runSteps_inv_of h is (step i s) hc.2 (h i s hc.1 hs)

theorem allSteps_iff_along_of {σ ι : Type} {step : ι → σ → σ} {C : ι → σ → Prop}
    {I J : σ → Prop} (hJ : ∀ s, I s → J s) (hkeep : ∀ i s, I s → C i s → I (step i s))
    (hneed : ∀ i s, I s → J (step i s) → C i s) :
    ∀ (is : List ι) (s : σ), I s → (AllSteps step C is s ↔ ∀ js, js <+: is → J (runSteps step js s))
  | [], s, hs => by
    refine ⟨fun _ js hjs => ?_, fun _ => trivial⟩
    rw [List.prefix_nil.mp hjs]
    exact hJ s hs
  | i :: is, s, hs => by
    constructor
    · rintro ⟨hi, his⟩ js hjs
      have hnext := hkeep i s hs hi
      rcases List.prefix_cons_iff.mp hjs with rfl | ⟨ks, rfl, hks⟩
      · exact hJ s hs
      · exact (allSteps_iff_along_of hJ hkeep hneed is (step i s) hnext).mp his ks hks
    · intro hall
      have hi : C i s := hneed i s hs (hall [i] (List.cons_prefix_cons.mpr ⟨rfl, List.nil_prefix⟩))
      have hnext := hkeep i s hs hi
      refine ⟨hi, (allSteps_iff_along_of hJ hkeep hneed is (step i s) hnext).mpr ?_⟩
      intro js hjs
      exact hall (i :: js) (List.cons_prefix_cons.mpr ⟨rfl, hjs⟩)

theorem allSteps_iff_along {σ ι : Type} {step : ι → σ → σ} {C : ι → σ → Prop} {I : σ → Prop}
    (h : ∀ i s, I s → (C i s ↔ I (step i s))) (is : List ι) (s : σ) (hs : I s) :
    AllSteps step C is s ↔ ∀ js, js <+: is → I (runSteps step js s) :=
  allSteps_iff_along_of (fun _ hI => hI) (fun i s hI => (h i s hI).mp)
    (fun i s hI => (h i s hI).mpr) is s hs

end Keystone3.Logic
