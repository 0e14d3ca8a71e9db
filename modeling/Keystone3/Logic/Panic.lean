import Keystone3.Logic.Outcome

/-!
# Code that has a value or panics

Much code returns no error: it has a value, or it panics. `ValueIff` says when it has
one, by a condition on what it is given. The condition for a sequence is made of those
of its parts: the conjunction, where the second part does not ask for the value of the
first one (`ValueIff.bind`), and else a condition on that value (`ValueIff.bind_on`).
Where code has errors too, `Ends` is the condition under which it does not panic: that
of a sequence is the one of its first part, for what follows on it.
-/

namespace Keystone3.Logic.Outcome

variable {ε δ α β : Type}

/-- There is a value if the condition holds, and a panic if it does not. -/
structure ValueIff (x : Outcome ε α) (P : Prop) : Prop where
  exists_ok : P → ∃ a, x = .ok a
  halted : ¬P → x = .halted

variable {x : Outcome ε α} {P Q : Prop}

theorem ValueIff.holds (h : ValueIff x P) {a : α} (ha : x = .ok a) : P := by
  by_contra hnot
  rw [h.halted hnot] at ha
  cases ha

theorem ValueIff.returns_iff (h : ValueIff x P) : Returns x ↔ P := by
  constructor
  · intro hreturns
    by_contra hnot
    exact hreturns (h.halted hnot)
  · intro hP
    obtain ⟨a, ha⟩ := h.exists_ok hP
    rw [ha]
    exact returns_ok a

theorem ValueIff.congr (h : ValueIff x P) (hPQ : P ↔ Q) : ValueIff x Q :=
  ⟨fun hQ => h.exists_ok (hPQ.mpr hQ), fun hQ => h.halted fun hP => hQ (hPQ.mp hP)⟩

theorem valueIff_ok (a : α) : ValueIff (.ok a : Outcome ε α) True :=
  ⟨fun _ => ⟨a, rfl⟩, fun h => absurd trivial h⟩

theorem valueIff_halted : ValueIff (.halted : Outcome ε α) False := ⟨False.elim, fun _ => rfl⟩

theorem valueIff_of_cases (hvalue : ∀ a, x = .ok a → P) (hfails : ¬Fails x)
    (hreturns : P → Returns x) : ValueIff x P := by
  cases x with
  | ok a => exact (valueIff_ok a).congr (iff_of_true trivial (hvalue a rfl))
  | error e => exact absurd (fails_error e) hfails
  | halted => exact valueIff_halted.congr (iff_of_false id fun hP => hreturns hP rfl)

theorem valueIff_of_returns (hfails : ¬Fails x) (h : Returns x ↔ P) : ValueIff x P :=
  valueIff_of_cases (fun a ha => h.mp (ha ▸ returns_ok a)) hfails h.mpr

theorem valueIff_of_not_fails (h : ¬Fails x) : ValueIff x (∃ a, x = .ok a) :=
  valueIff_of_cases (fun a ha => ⟨a, ha⟩) h fun ⟨a, ha⟩ => ha ▸ returns_ok a

variable {f : α → Outcome ε β}

theorem ValueIff.bind_on {Q : α → Prop} (hx : ValueIff x P)
    (hf : ∀ a, x = .ok a → ValueIff (f a) (Q a)) :
    ValueIff (x >>= f) (∃ a, x = .ok a ∧ Q a) := by
  constructor
  · rintro ⟨a, rfl, hQ⟩
    exact (hf a rfl).exists_ok hQ
  · intro hnot
    by_cases hP : P
    · obtain ⟨a, rfl⟩ := hx.exists_ok hP
      exact (hf a rfl).halted fun hQ => hnot ⟨a, rfl, hQ⟩
    · rw [hx.halted hP]
      rfl

theorem ValueIff.bind (hx : ValueIff x P)
    (hf : ∀ a, x = .ok a → ValueIff (f a) Q) : ValueIff (x >>= f) (P ∧ Q) := by
  refine (hx.bind_on hf).congr ?_
  constructor
  · rintro ⟨a, ha, hQ⟩
    exact ⟨hx.holds ha, hQ⟩
  · rintro ⟨hP, hQ⟩
    obtain ⟨a, ha⟩ := hx.exists_ok hP
    exact ⟨a, ha, hQ⟩

theorem ValueIff.map {g : α → β} (hx : ValueIff x P) :
    ValueIff (x >>= fun a => .ok (g a)) P :=
  (hx.bind fun a _ => valueIff_ok (g a)).congr (and_iff_left trivial)

theorem ValueIff.ite {y : Outcome ε α} {R : Prop} [Decidable R] (hx : R → ValueIff x P)
    (hy : ¬R → ValueIff y Q) : ValueIff (if R then x else y) ((R → P) ∧ (¬R → Q)) := by
  by_cases hR : R
  · rw [if_pos hR]
    exact (hx hR).congr ⟨fun hP => ⟨fun _ => hP, fun hnot => absurd hR hnot⟩, fun h => h.1 hR⟩
  · rw [if_neg hR]
    exact (hy hR).congr ⟨fun hQ => ⟨fun h => absurd h hR, fun _ => hQ⟩, fun h => h.2 hR⟩

theorem valueIff_unwrap (o : Option α) : ValueIff (unwrap o : Outcome ε α) (o.isSome = true) := by
  cases o with
  | none => exact valueIff_halted.congr (iff_of_false id Bool.false_ne_true)
  | some a => exact (valueIff_ok a).congr (iff_of_true trivial rfl)

theorem not_fails_unwrap (o : Option α) : ¬Fails (unwrap o : Outcome ε α) := by
  cases o with
  | none => exact not_fails_halted
  | some a => exact not_fails_ok a

theorem valueIff_index (l : List α) (i : Nat) :
    ValueIff (index l i : Outcome ε α) (i < l.length) := by
  unfold index
  by_cases h : i < l.length
  · rw [List.getElem?_eq_getElem h]
    exact (valueIff_ok l[i]).congr (iff_of_true trivial h)
  · rw [List.getElem?_eq_none (Nat.not_lt.mp h)]
    exact valueIff_halted.congr (iff_of_false id h)

theorem ValueIff.collect {P : α → Prop} {as : List α}
    (h : ∀ a ∈ as, ValueIff (f a) (P a)) : ValueIff (collect f as) (∀ a ∈ as, P a) := by
  induction as with
  | nil => exact (valueIff_ok []).congr (iff_of_true trivial nofun)
  | cons a as ih =>
    obtain ⟨hfirst, hrest⟩ := List.forall_mem_cons.mp h
    refine (hfirst.bind fun b _ => (ih hrest).map).congr ?_
    exact List.forall_mem_cons.symm

theorem returns_mapError_bind {g : ε → ε} :
    Returns (mapError g x >>= f) ↔ Returns (x >>= f) := by
  cases x with
  | ok a => exact Iff.rfl
  | error e => exact iff_of_true (returns_error (g e)) (returns_error e)
  | halted => exact Iff.rfl

/-- No panic: an error where there may be one, or a value of which the condition holds. -/
def Ends (E : Prop) (Q : α → Prop) : Outcome ε α → Prop
  | .ok a => Q a
  | .error _ => E
  | .halted => False

section

variable {E : Prop}

theorem ends_true : Ends True (fun _ => True) x ↔ Returns x := by
  cases x with
  | ok a => exact iff_of_true trivial (returns_ok a)
  | error e => exact iff_of_true trivial (returns_error e)
  | halted => exact iff_of_false id fun h => h rfl

theorem ends_bind {f : α → Outcome ε β} {Q : β → Prop} :
    Ends E Q (x >>= f) ↔ Ends E (fun a => Ends E Q (f a)) x := by
  cases x with
  | ok a => exact Iff.rfl
  | error e => exact Iff.rfl
  | halted => exact Iff.rfl

theorem ends_map {f : α → β} {Q : β → Prop} :
    Ends E Q (f <$> x) ↔ Ends E (fun a => Q (f a)) x := by
  cases x with
  | ok a => exact Iff.rfl
  | error e => exact Iff.rfl
  | halted => exact Iff.rfl

theorem ends_mapError {f : ε → δ} {Q : α → Prop} : Ends E Q (mapError f x) ↔ Ends E Q x := by
  cases x with
  | ok a => exact Iff.rfl
  | error e => exact Iff.rfl
  | halted => exact Iff.rfl

theorem ends_expect {Q : α → Prop} : Ends E Q (expect x : Outcome δ α) ↔ Ends False Q x := by
  cases x with
  | ok a => exact Iff.rfl
  | error e => exact Iff.rfl
  | halted => exact Iff.rfl

theorem ends_false {Q : α → Prop} : Ends False Q x ↔ ∃ a, x = .ok a ∧ Q a := by
  cases x with
  | ok a =>
    constructor
    · intro h
      exact ⟨a, rfl, h⟩
    · rintro ⟨b, hb, h⟩
      cases hb
      exact h
  | error e => exact iff_of_false id fun ⟨_, h, _⟩ => nomatch h
  | halted => exact iff_of_false id fun ⟨_, h, _⟩ => nomatch h

theorem ends_congr {Q R : α → Prop} (h : ∀ a, x = .ok a → (Q a ↔ R a)) :
    Ends E Q x ↔ Ends E R x := by
  cases x with
  | ok a => exact h a rfl
  | error e => exact Iff.rfl
  | halted => exact Iff.rfl

theorem ends_again {Q : α → Prop} : Ends False (fun _ => Ends E Q x) x ↔ Ends False Q x := by
  cases x with
  | ok a => exact Iff.rfl
  | error e => exact Iff.rfl
  | halted => exact Iff.rfl

end

section

variable {σ : Type}

def Stays (p : StateT σ (Outcome ε) α) : Prop := ∀ s, Returns (p s)

theorem stays_pure (a : α) : Stays (pure a : StateT σ (Outcome ε) α) := fun s => returns_ok (a, s)

theorem Stays.bind {p : StateT σ (Outcome ε) α} {f : α → StateT σ (Outcome ε) β} (hp : Stays p)
    (hf : ∀ a, Stays (f a)) : Stays (p >>= f) :=
  fun s => (hp s).bind fun r _ => hf r.1 r.2

theorem Stays.ite {R : Prop} [Decidable R] {p q : StateT σ (Outcome ε) α} (hp : R → Stays p)
    (hq : ¬R → Stays q) : Stays (if R then p else q) := by
  by_cases hR : R
  · rw [if_pos hR]
    exact hp hR
  · rw [if_neg hR]
    exact hq hR

end

end Keystone3.Logic.Outcome
