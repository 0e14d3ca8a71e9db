import Mathlib.Data.List.Forall2
import Keystone3.Logic.Prog

/-!
# Fallible code without a state

`Outcome` as a monad: code that returns a value, returns an error or panics. Two loops
over results are set up with their rules:

* `collect`: in order, left at the first error (`collect_eq_ok`);
* `foldAll`: all of them are computed, and the first error is the result
  (`foldAll_eq_ok`).

Code that does not panic (`Returns`) is made of parts that do not, as far as they are
reached (`Returns.bind`).
-/

namespace Keystone3.Logic

namespace Outcome

variable {ε δ α β γ : Type}

instance : Monad (Outcome ε) where
  pure := .ok
  bind x f := match x with
    | .ok a => f a
    | .error e => .error e
    | .halted => .halted

def okOr (e : ε) : Option α → Outcome ε α
  | some a => .ok a
  | none => .error e

def isOk : Outcome ε α → Bool
  | .ok _ => true
  | _ => false

def unwrap : Option α → Outcome ε α
  | some a => .ok a
  | none => .halted

def index (l : List α) (i : Nat) : Outcome ε α :=
  match l[i]? with
  | some a => .ok a
  | none => .halted

/-- An error is taken for `none`. -/
def toOption : Outcome ε α → Outcome ε (Option α)
  | .ok a => .ok (some a)
  | .error _ => .ok none
  | .halted => .halted

def mapError (f : ε → δ) : Outcome ε α → Outcome δ α
  | .ok a => .ok a
  | .error e => .error (f e)
  | .halted => .halted

def expect : Outcome ε α → Outcome δ α
  | .ok a => .ok a
  | _ => .halted

/-- The values of `f` along a list, left at the first error. -/
def collect (f : α → Outcome ε β) : List α → Outcome ε (List β)
  | [] => pure []
  | a :: as => do
    let b ← f a
    let bs ← collect f as
    pure (b :: bs)

def foldAll (f : β → α → β) : Outcome ε β → List (Outcome ε α) → Outcome ε β
  | acc, [] => acc
  | acc, x :: xs =>
    match acc, x with
    | _, .halted => .halted
    | .halted, _ => .halted
    | .ok b, .ok a => foldAll f (.ok (f b a)) xs
    | .ok _, .error e => foldAll f (.error e) xs
    | .error e, _ => foldAll f (.error e) xs

@[simp] theorem pure_eq (a : α) : (pure a : Outcome ε α) = .ok a := rfl

@[simp] theorem ok_bind (a : α) (f : α → Outcome ε β) : (Outcome.ok a >>= f) = f a := rfl

@[simp] theorem error_bind (e : ε) (f : α → Outcome ε β) :
    ((Outcome.error e : Outcome ε α) >>= f) = .error e := rfl

@[simp] theorem halted_bind (f : α → Outcome ε β) :
    ((Outcome.halted : Outcome ε α) >>= f) = .halted := rfl

variable {f : α → Outcome ε β} {x : Outcome ε α}

theorem bind_eq_ok {b : β} :
    (x >>= f) = .ok b ↔ ∃ a, x = .ok a ∧ f a = .ok b := by
  constructor
  · intro h
    cases x with
    | ok a => exact ⟨a, rfl, h⟩
    | error e => cases h
    | halted => cases h
  · intro h
    obtain ⟨a, ha, hb⟩ := h
    rw [ha]
    exact hb

theorem okOr_eq_ok {e : ε} {o : Option α} {a : α} : okOr e o = .ok a ↔ o = some a := by
  cases o with
  | none =>
    constructor
    · nofun
    · nofun
  | some b =>
    constructor
    · intro h
      cases h
      rfl
    · intro h
      cases h
      rfl

theorem exists_of_isOk (h : x.isOk = true) : ∃ a, x = .ok a := by
  cases x with
  | ok a => exact ⟨a, rfl⟩
  | error e => cases h
  | halted => cases h

theorem unwrap_eq_ok {o : Option α} {a : α} :
    (unwrap o : Outcome ε α) = .ok a ↔ o = some a := by
  cases o with
  | none =>
    constructor
    · nofun
    · nofun
  | some b =>
    constructor
    · intro h
      cases h
      rfl
    · intro h
      cases h
      rfl

theorem mapError_eq_ok {f : ε → δ} {a : α} :
    mapError f x = .ok a ↔ x = .ok a := by
  cases x with
  | ok b =>
    constructor
    · intro h
      cases h
      rfl
    · intro h
      cases h
      rfl
  | error e =>
    constructor
    · nofun
    · nofun
  | halted =>
    constructor
    · nofun
    · nofun

theorem expect_eq_ok {a : α} :
    (expect x : Outcome δ α) = .ok a ↔ x = .ok a := by
  cases x with
  | ok b =>
    constructor
    · intro h
      cases h
      rfl
    · intro h
      cases h
      rfl
  | error e =>
    constructor
    · nofun
    · nofun
  | halted =>
    constructor
    · nofun
    · nofun

theorem index_eq_ok {l : List α} {i : Nat} {a : α} :
    (index l i : Outcome ε α) = .ok a ↔ l[i]? = some a := by
  rw [← unwrap_eq_ok (ε := ε)]
  unfold index
  cases l[i]? with
  | none => exact Iff.rfl
  | some b => exact Iff.rfl

theorem collect_eq_ok : ∀ {as : List α} {bs : List β},
    collect f as = .ok bs ↔ List.Forall₂ (fun a b => f a = .ok b) as bs := by
  intro as
  induction as with
  | nil =>
    intro bs
    constructor
    · intro h
      cases h
      exact .nil
    · intro h
      cases h
      rfl
  | cons a as ih =>
    intro bs
    constructor
    · intro h
      obtain ⟨b, hb, h⟩ := bind_eq_ok.mp h
      obtain ⟨bs', hbs, h⟩ := bind_eq_ok.mp h
      cases h
      exact .cons hb (ih.mp hbs)
    · intro h
      cases h with
      | cons hb hbs =>
        unfold collect
        rw [hb, ih.mpr hbs]
        rfl

theorem collect_map (f : β → Outcome ε γ) (g : α → β) (as : List α) :
    collect f (as.map g) = collect (fun a => f (g a)) as := by
  induction as with
  | nil => rfl
  | cons a as ih => rw [List.map_cons, collect, collect, ih]

variable {as : List α}

theorem collect_getElem? {bs : List β}
    (h : collect f as = .ok bs) {i : Nat} {a : α} (ha : as[i]? = some a) :
    ∃ b, bs[i]? = some b ∧ f a = .ok b := by
  have hall := collect_eq_ok.mp h
  obtain ⟨hi, rfl⟩ := List.getElem?_eq_some_iff.mp ha
  have hlen : i < bs.length := by
    rw [← hall.length_eq]
    exact hi
  exact ⟨bs[i], List.getElem?_eq_getElem hlen, hall.get hi hlen⟩

theorem exists_of_mem_collect {bs : List β}
    (h : collect f as = .ok bs) {b : β} (hb : b ∈ bs) : ∃ a ∈ as, f a = .ok b := by
  obtain ⟨i, hi, rfl⟩ := List.mem_iff_getElem.mp hb
  have hall := collect_eq_ok.mp h
  have hlen : i < as.length := by
    rw [hall.length_eq]
    exact hi
  exact ⟨as[i], List.getElem_mem hlen, hall.get hlen hi⟩

theorem forall_of_collect {f : α → Outcome ε Unit} {bs : List Unit}
    (h : collect f as = .ok bs) : ∀ a ∈ as, f a = .ok () := by
  intro a ha
  obtain ⟨i, hi⟩ := List.mem_iff_getElem?.mp ha
  obtain ⟨b, -, hb⟩ := collect_getElem? h hi
  exact hb

theorem foldAll_error (f : β → α → β) (e : ε) :
    ∀ (xs : List (Outcome ε α)) (b : β), foldAll f (.error e) xs ≠ .ok b := by
  intro xs
  induction xs with
  | nil =>
    intro b h
    cases h
  | cons x xs ih =>
    intro b
    cases x with
    | ok a => exact ih b
    | error e' => exact ih b
    | halted =>
      nofun

theorem foldAll_eq_ok {f : β → α → β} : ∀ {xs : List (Outcome ε α)} {b c : β},
    foldAll f (.ok b) xs = .ok c ↔ ∃ as : List α, xs = as.map .ok ∧ c = as.foldl f b := by
  intro xs
  induction xs with
  | nil =>
    intro b c
    constructor
    · intro h
      cases h
      exact ⟨[], rfl, rfl⟩
    · intro h
      obtain ⟨as, has, rfl⟩ := h
      rw [List.map_eq_nil_iff.mp has.symm]
      rfl
  | cons x xs ih =>
    intro b c
    cases x with
    | ok a =>
      constructor
      · intro h
        obtain ⟨as, has, hc⟩ := ih.mp h
        exact ⟨a :: as, by rw [has]; rfl, hc⟩
      · intro h
        obtain ⟨as, has, hc⟩ := h
        cases as with
        | nil => cases has
        | cons a' as =>
          obtain ⟨ha, htail⟩ := List.cons.inj has
          cases ha
          exact ih.mpr ⟨as, htail, hc⟩
    | error e =>
      constructor
      · intro h
        exact absurd h (foldAll_error f e xs c)
      · intro h
        obtain ⟨as, has, -⟩ := h
        cases as with
        | nil => cases has
        | cons a' as => cases (List.cons.inj has).1
    | halted =>
      constructor
      · nofun
      · intro h
        obtain ⟨as, has, -⟩ := h
        cases as with
        | nil => cases has
        | cons a' as => cases (List.cons.inj has).1

def Returns (x : Outcome ε α) : Prop := x ≠ .halted

@[simp] theorem returns_ok (a : α) : Returns (.ok a : Outcome ε α) := nofun

@[simp] theorem returns_error (e : ε) : Returns (.error e : Outcome ε α) := nofun

theorem returns_bind :
    Returns (x >>= f) ↔ Returns x ∧ ∀ a, x = .ok a → Returns (f a) := by
  cases x with
  | ok a =>
    constructor
    · intro h
      refine ⟨returns_ok a, fun a' ha' => ?_⟩
      cases ha'
      exact h
    · intro h
      exact h.2 a rfl
  | error e => exact iff_of_true (returns_error e) ⟨returns_error e, nofun⟩
  | halted => exact iff_of_false (fun h => h rfl) fun h => h.1 rfl

theorem Returns.bind (hx : Returns x)
    (hf : ∀ a, x = .ok a → Returns (f a)) : Returns (x >>= f) :=
  returns_bind.mpr ⟨hx, hf⟩

theorem returns_map {f : α → β} : Returns (f <$> x) ↔ Returns x :=
  returns_bind.trans (and_iff_left fun a _ => returns_ok (f a))

theorem returns_okOr (e : ε) (o : Option α) : Returns (okOr e o) := by
  cases o with
  | none => exact returns_error e
  | some a => exact returns_ok a

theorem Returns.mapError (hx : Returns x) (f : ε → δ) :
    Returns (mapError f x) := by
  cases x with
  | ok a => exact returns_ok a
  | error e => exact returns_error (f e)
  | halted => exact absurd rfl hx

theorem returns_index {l : List α} {i : Nat} :
    Returns (index l i : Outcome ε α) ↔ i < l.length := by
  unfold index
  by_cases h : i < l.length
  · rw [List.getElem?_eq_getElem h]
    exact iff_of_true (returns_ok l[i]) h
  · rw [List.getElem?_eq_none (Nat.not_lt.mp h)]
    exact iff_of_false (fun hreturns => hreturns rfl) h

theorem returns_collect :
    Returns (collect f as) ↔ ∀ (i : Nat) (a : α), as[i]? = some a →
      (∀ j < i, ∀ b, as[j]? = some b → (f b).isOk = true) → Returns (f a) := by
  induction as with
  | nil => exact iff_of_true (returns_ok []) nofun
  | cons a as ih =>
    unfold collect
    rw [returns_bind]
    constructor
    · rintro ⟨hfirst, hrest⟩ i c hc hbefore
      cases i with
      | zero =>
        cases hc
        exact hfirst
      | succ i =>
        obtain ⟨b, hb⟩ := exists_of_isOk (hbefore 0 (Nat.succ_pos i) a rfl)
        refine ih.mp (returns_bind.mp (hrest b hb)).1 i c hc fun j hj d hd => ?_
        exact hbefore (j + 1) (Nat.succ_lt_succ hj) d hd
    · intro h
      refine ⟨h 0 a rfl fun j hj => absurd hj (Nat.not_lt_zero j), fun b hb => ?_⟩
      refine returns_bind.mpr ⟨ih.mpr fun i c hc hbefore => ?_, fun bs _ => returns_ok (b :: bs)⟩
      refine h (i + 1) c hc fun j hj d hd => ?_
      cases j with
      | zero =>
        cases hd
        rw [hb]
        rfl
      | succ j => exact hbefore j (Nat.lt_of_succ_lt_succ hj) d hd

theorem Returns.collect (h : ∀ a ∈ as, Returns (f a)) :
    Returns (collect f as) := by
  induction as with
  | nil => exact returns_ok []
  | cons a as ih =>
    refine (h a (.head _)).bind fun b _ => ?_
    exact (ih fun a' ha' => h a' (List.mem_cons_of_mem a ha')).bind fun bs _ => returns_ok (b :: bs)

def Fails (x : Outcome ε α) : Prop := ∃ e, x = .error e

@[simp] theorem not_fails_ok (a : α) : ¬Fails (.ok a : Outcome ε α) := nofun

@[simp] theorem fails_error (e : ε) : Fails (.error e : Outcome ε α) := ⟨e, rfl⟩

@[simp] theorem not_fails_halted : ¬Fails (.halted : Outcome ε α) := nofun

theorem fails_bind :
    Fails (x >>= f) ↔ Fails x ∨ ∃ a, x = .ok a ∧ Fails (f a) := by
  cases x with
  | ok a =>
    constructor
    · intro h
      exact .inr ⟨a, rfl, h⟩
    · rintro (h | ⟨a', ha, h⟩)
      · exact absurd h (not_fails_ok a)
      · cases ha
        exact h
  | error e => exact iff_of_true (fails_error e) (.inl (fails_error e))
  | halted =>
    refine iff_of_false not_fails_halted ?_
    rintro (h | ⟨a, ha, -⟩)
    · exact not_fails_halted h
    · cases ha

theorem fails_bind_of_returns {P : Prop} (hx : Returns x)
    (hf : ∀ a, x = .ok a → (Fails (f a) ↔ P)) : Fails (x >>= f) ↔ Fails x ∨ P := by
  cases x with
  | ok a => rw [ok_bind, hf a rfl, or_iff_right (not_fails_ok a)]
  | error e => exact iff_of_true (fails_error e) (.inl (fails_error e))
  | halted => exact absurd rfl hx

theorem fails_map {f : α → β} : Fails (f <$> x) ↔ Fails x :=
  fails_bind.trans (or_iff_left fun ⟨a, _, h⟩ => not_fails_ok (f a) h)

theorem fails_okOr {e : ε} {o : Option α} : Fails (okOr e o) ↔ o = none := by
  cases o with
  | none => exact iff_of_true (fails_error e) rfl
  | some a => exact iff_of_false (not_fails_ok a) nofun

theorem not_fails_index {l : List α} {i : Nat} : ¬Fails (index l i : Outcome ε α) := by
  unfold index
  cases l[i]? with
  | none => exact not_fails_halted
  | some a => exact not_fails_ok a

theorem not_fails_collect (h : ∀ a ∈ as, ¬Fails (f a)) :
    ¬Fails (collect f as) := by
  induction as with
  | nil => exact not_fails_ok []
  | cons a as ih =>
    obtain ⟨hfirst, hrest⟩ := List.forall_mem_cons.mp h
    unfold collect
    rw [fails_bind]
    rintro (hfails | ⟨b, -, hfails⟩)
    · exact hfirst hfails
    · exact ih hrest ((fails_map (f := fun bs => b :: bs)).mp hfails)

theorem returns_collect_iff (h : ∀ a ∈ as, ¬Fails (f a)) :
    Returns (collect f as) ↔ ∀ a ∈ as, Returns (f a) := by
  refine ⟨fun hall => ?_, Returns.collect⟩
  induction as with
  | nil => exact nofun
  | cons a as ih =>
    obtain ⟨hfirst, hrest⟩ := List.forall_mem_cons.mp h
    obtain ⟨ha, hall⟩ := returns_bind.mp hall
    refine List.forall_mem_cons.mpr ⟨ha, ih hrest ?_⟩
    cases hfa : f a with
    | ok b => exact (returns_bind.mp (hall b hfa)).1
    | error e => exact absurd ⟨e, hfa⟩ hfirst
    | halted => exact absurd hfa ha

theorem fails_collect (h : ∀ a ∈ as, Returns (f a)) :
    Fails (collect f as) ↔ ∃ a ∈ as, Fails (f a) := by
  induction as with
  | nil => exact iff_of_false (not_fails_ok []) fun ⟨_, ha, _⟩ => List.not_mem_nil ha
  | cons a as ih =>
    obtain ⟨hfirst, hrest⟩ := List.forall_mem_cons.mp h
    have htail : ∀ b, Fails (collect f as >>= fun bs => pure (b :: bs)) ↔ Fails (collect f as) :=
      fun b => fails_map (f := fun bs => b :: bs)
    rw [collect, fails_bind, List.exists_mem_cons_iff]
    cases ha : f a with
    | ok b =>
      rw [or_iff_right (not_fails_ok b), or_iff_right (not_fails_ok b), ← ih hrest, ← htail b]
      exact ⟨fun ⟨b', hb, h⟩ => by cases hb; exact h, fun h => ⟨b, rfl, h⟩⟩
    | error e => exact iff_of_true (.inl (fails_error e)) (.inl (fails_error e))
    | halted => exact absurd ha hfirst

theorem collect_alike {g : α → Outcome ε γ}
    (hfails : ∀ a, Fails (f a) ↔ Fails (g a)) (hreturns : ∀ a, Returns (f a) ↔ Returns (g a))
    (as : List α) :
    (Fails (collect f as) ↔ Fails (collect g as))
      ∧ (Returns (collect f as) ↔ Returns (collect g as)) := by
  induction as with
  | nil =>
    exact ⟨iff_of_false (not_fails_ok []) (not_fails_ok []),
      iff_of_true (returns_ok []) (returns_ok [])⟩
  | cons a as ih =>
    unfold collect
    have hmatch := hfails a
    have hmatch' := hreturns a
    cases hf : f a with
    | ok b =>
      cases hg : g a with
      | ok c =>
        exact ⟨(fails_map (f := fun bs => b :: bs)).trans
            (ih.1.trans (fails_map (f := fun cs => c :: cs)).symm),
          (returns_map (f := fun bs => b :: bs)).trans
            (ih.2.trans (returns_map (f := fun cs => c :: cs)).symm)⟩
      | error e =>
        rw [hf, hg] at hmatch
        exact absurd (hmatch.mpr (fails_error e)) (not_fails_ok b)
      | halted =>
        rw [hf, hg] at hmatch'
        exact absurd rfl (hmatch'.mp (returns_ok b))
    | error e =>
      rw [hf] at hmatch
      obtain ⟨e', hg⟩ := hmatch.mp (fails_error e)
      rw [hg]
      exact ⟨iff_of_true (fails_error e) (fails_error e'),
        iff_of_true (returns_error e) (returns_error e')⟩
    | halted =>
      have hg : g a = .halted := by
        by_contra hne
        rw [hf] at hmatch'
        exact hmatch'.mpr hne rfl
      rw [hg]
      exact ⟨iff_of_false not_fails_halted not_fails_halted,
        iff_of_false (fun h => h rfl) fun h => h rfl⟩

theorem collect_eq_map {g : α → β} (h : ∀ a b, f a = .ok b → b = g a) {bs : List β} (hok : collect f as = .ok bs) : bs = as.map g := by
  have hall := collect_eq_ok.mp hok
  clear hok
  induction hall with
  | nil => rfl
  | cons hb _ ih => rw [List.map_cons, ih, h _ _ hb]

end Outcome

end Keystone3.Logic
