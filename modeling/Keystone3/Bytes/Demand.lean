import Keystone3.Bytes.Reader
import Keystone3.Logic.Panic

/-!
# What readers ask of the bytes

`Reader.Ends` is the condition on bytes under which a reader does not panic on them, and
what it reads and leaves meets a condition in turn. It is made along the reader, from
what each read asks for. A parser of a copy of the bytes, of which the size of its value
is skipped, is the reader itself if the size is what it takes (`Measures`).
-/

namespace Keystone3.Bytes.Reader

open Logic (Outcome)

variable {ε α β : Type}

/-- No panic, and of what is read and left the condition holds. -/
def Ends (E : Prop) (Q : α → List UInt8 → Prop) (p : Reader ε α) (s : List UInt8) : Prop :=
  Outcome.Ends E (fun r => Q r.1 r.2) (p s)

section

variable {E : Prop} {s : List UInt8}

theorem ends_bind {p : Reader ε α} {f : α → Reader ε β} {Q : β → List UInt8 → Prop} :
    Ends E Q (p >>= f) s ↔ Ends E (fun a rest => Ends E Q (f a) rest) p s := Outcome.ends_bind

variable {Q : α → List UInt8 → Prop}

theorem ends_pure {a : α} : Ends E Q (pure a : Reader ε α) s ↔ Q a s := Iff.rfl

theorem ends_congr {p : Reader ε α} {Q R : α → List UInt8 → Prop}
    (h : ∀ a rest, Q a rest ↔ R a rest) : Ends E Q p s ↔ Ends E R p s :=
  Outcome.ends_congr fun r _ => h r.1 r.2

theorem ends_run {p : Reader ε α} {Q : α → Prop} :
    Outcome.Ends E Q (run p s) ↔ Ends E (fun a _ => Q a) p s := Outcome.ends_bind

theorem ends_peek {q : List UInt8 → Outcome ε α} :
    Ends E Q (peek q) s ↔ Outcome.Ends E (fun a => Q a s) (q s) := Outcome.ends_bind

theorem ends_lift {x : Outcome ε α} :
    Ends E Q (lift x) s ↔ Outcome.Ends E (fun a => Q a s) x := Outcome.ends_bind

theorem ends_take {n : Nat} {Q : List UInt8 → List UInt8 → Prop} :
    Ends E Q (take none n : Reader ε (List UInt8)) s ↔ n ≤ s.length ∧ Q (s.take n) (s.drop n) := by
  unfold Ends take
  by_cases h : s.length < n
  · rw [if_pos h]
    exact iff_of_false id fun hle => absurd h (Nat.not_lt.mpr hle.1)
  · rw [if_neg h]
    exact (and_iff_right (Nat.not_lt.mp h)).symm

theorem ends_block {n : Nat} {Q : Block n → List UInt8 → Prop} :
    Ends E Q (block none n : Reader ε (Block n)) s ↔
      n ≤ s.length ∧ Q (Block.ofBytes n (s.take n)) (s.drop n) := by
  rw [block, ends_bind, ends_take]
  exact Iff.rfl

theorem ends_big {n : Nat} {Q : Nat → List UInt8 → Prop} :
    Ends E Q (big none n : Reader ε Nat) s ↔
      n ≤ s.length ∧ Q (ofBe (s.take n)) (s.drop n) := by
  rw [big, ends_bind, ends_take]
  exact Iff.rfl

theorem ends_skip {n : Nat} {Q : Unit → List UInt8 → Prop} :
    Ends E Q (skip n : Reader ε Unit) s ↔ n ≤ s.length ∧ Q () (s.drop n) := by
  unfold Ends skip
  by_cases h : s.length < n
  · rw [if_pos h]
    exact iff_of_false id fun hle => absurd h (Nat.not_lt.mpr hle.1)
  · rw [if_neg h]
    exact (and_iff_right (Nat.not_lt.mp h)).symm

theorem ends_demand {e : ε} {n : Nat} {Q : Unit → List UInt8 → Prop} :
    Ends E Q (demand e n) s ↔ if n ≤ s.length then Q () s else E := by
  unfold Ends demand
  by_cases h : s.length < n
  · rw [if_pos h, if_neg (Nat.not_le.mpr h)]
    exact Iff.rfl
  · rw [if_neg h, if_pos (Nat.not_lt.mp h)]
    exact Iff.rfl

theorem ends_sized {size : α → Nat} {q : List UInt8 → Outcome ε α} :
    Ends E Q (sized size q) s ↔
      Outcome.Ends E (fun a => size a ≤ s.length ∧ Q a (s.drop (size a))) (q s) := by
  rw [sized, ends_bind, ends_peek]
  simp only [ends_bind, ends_skip, ends_pure]

theorem ends_measured {p : Reader ε α} {Q : α × Nat → List UInt8 → Prop} :
    Ends E Q (measured p) s ↔ Ends E (fun a rest => Q (a, s.length - rest.length) rest) p s :=
  Outcome.ends_bind

end

section

open Logic.Outcome (Stays Returns)

variable {e : ε}

theorem stays_take (n : Nat) : Stays (take (some e) n) := by
  intro s
  unfold take
  by_cases h : s.length < n
  · rw [if_pos h]
    exact Outcome.returns_error e
  · rw [if_neg h]
    exact Outcome.returns_ok _

theorem stays_byte : Stays (byte (some e)) := by
  intro s
  cases s with
  | nil => exact Outcome.returns_error e
  | cons b s => exact Outcome.returns_ok _

theorem stays_big (n : Nat) : Stays (big (some e) n) :=
  (stays_take n).bind fun _ => Outcome.stays_pure _

theorem stays_lift {x : Outcome ε α} (hx : Returns x) : Stays (lift x) :=
  fun _ => hx.bind fun _ _ => Outcome.returns_ok _

theorem stays_many {p : Reader ε α} (hp : Stays p) (n : Nat) : Stays (many p n) := by
  induction n with
  | zero => exact Outcome.stays_pure []
  | succ n ih => exact hp.bind fun _ => ih.bind fun _ => Outcome.stays_pure _

end

def has (n : Nat) (K : List UInt8 → Prop) (s : List UInt8) : Prop := n ≤ s.length ∧ K (s.drop n)

theorem has_has {m n : Nat} {K : List UInt8 → Prop} {s : List UInt8} :
    has m (has n K) s ↔ has (m + n) K s := by
  unfold has
  rw [← and_assoc, List.length_drop, List.drop_drop]
  refine and_congr_left fun _ => ?_
  omega

theorem has_of_le {n : Nat} {K : List UInt8 → Prop} {s : List UInt8} (h : n ≤ s.length) :
    has n K s ↔ K (s.drop n) := and_iff_right h

/-- The reader takes `n` bytes if they are there, and else it panics. -/
def Fixed (n : Nat) (p : Reader ε α) : Prop :=
  ∀ s, if n ≤ s.length then ∃ a, p s = .ok (a, s.drop n) else p s = .halted

namespace Fixed

variable {p : Reader ε α} {m n : Nat}

theorem ok (hp : Fixed n p) {s : List UInt8} (h : n ≤ s.length) :
    ∃ a, p s = .ok (a, s.drop n) := by
  have hs := hp s
  rwa [if_pos h] at hs

theorem halted (hp : Fixed n p) {s : List UInt8} (h : s.length < n) : p s = .halted := by
  have hs := hp s
  rwa [if_neg (Nat.not_le.mpr h)] at hs

theorem pure (a : α) : Fixed 0 (pure a : Reader ε α) := by
  intro s
  rw [if_pos (Nat.zero_le _)]
  exact ⟨a, rfl⟩

theorem bind {f : α → Reader ε β} (hp : Fixed m p) (hf : ∀ a, Fixed n (f a)) :
    Fixed (m + n) (p >>= f) := by
  intro s
  rw [bind_apply]
  by_cases hm : m ≤ s.length
  · obtain ⟨a, ha⟩ := hp.ok hm
    rw [ha, Outcome.ok_bind]
    by_cases hn : m + n ≤ s.length
    · have hrest : n ≤ (s.drop m).length := by
        rw [List.length_drop]
        omega
      rw [if_pos hn, ← List.drop_drop]
      exact (hf a).ok hrest
    · rw [if_neg hn]
      refine (hf a).halted ?_
      rw [List.length_drop]
      omega
  · rw [if_neg (by omega), hp.halted (Nat.not_le.mp hm)]
    rfl

theorem map {f : α → β} (hp : Fixed n p) : Fixed n (do let a ← p; Pure.pure (f a)) :=
  hp.bind fun a => Fixed.pure (f a)

theorem sized {size : α → Nat} (hp : Fixed n p) (hsize : ∀ a, size a = n) :
    Fixed n (sized size (run p)) := by
  intro s
  by_cases h : n ≤ s.length
  · obtain ⟨a, ha⟩ := hp.ok h
    rw [if_pos h, Reader.sized, bind_apply, peek, run, ha]
    show ∃ b, (skip (size a) >>= fun _ => Pure.pure a) s = _
    rw [hsize, bind_apply, skip, if_neg (Nat.not_lt.mpr h)]
    exact ⟨a, rfl⟩
  · rw [if_neg h, Reader.sized, bind_apply, peek, run, hp.halted (Nat.not_le.mp h)]
    rfl

theorem ends {E : Prop} {K : List UInt8 → Prop} (hp : Fixed n p) {s : List UInt8} :
    Ends E (fun _ rest => K rest) p s ↔ has n K s := by
  unfold Ends has
  by_cases h : n ≤ s.length
  · obtain ⟨a, ha⟩ := hp.ok h
    rw [ha]
    exact (and_iff_right h).symm
  · rw [hp.halted (Nat.not_le.mp h)]
    exact iff_of_false id fun hle => h hle.1

theorem ends_bind {E : Prop} {Q : β → List UInt8 → Prop} {K : List UInt8 → Prop}
    {f : α → Reader ε β} (hp : Fixed n p) (hf : ∀ a rest, Ends E Q (f a) rest ↔ K rest)
    (s : List UInt8) : Ends E Q (p >>= f) s ↔ has n K s := by
  rw [Reader.ends_bind, ← hp.ends (E := E)]
  exact ends_congr hf

end Fixed

variable {p : Reader ε α}

theorem Fixed.many {m : Nat} (hp : Fixed m p) (n : Nat) :
    Fixed (m * n) (many p n) := by
  induction n with
  | zero => exact Fixed.pure []
  | succ n ih =>
    rw [Nat.mul_succ, Nat.add_comm]
    exact hp.bind fun a => ih.map

theorem fixed_take (n : Nat) : Fixed n (take none n : Reader ε (List UInt8)) := by
  intro s
  by_cases h : n ≤ s.length
  · rw [if_pos h, take, if_neg (Nat.not_lt.mpr h)]
    exact ⟨s.take n, rfl⟩
  · rw [if_neg h, take, if_pos (Nat.not_le.mp h)]
    rfl

theorem fixed_skip (n : Nat) : Fixed n (skip n : Reader ε Unit) := by
  intro s
  by_cases h : n ≤ s.length
  · rw [if_pos h, skip, if_neg (Nat.not_lt.mpr h)]
    exact ⟨(), rfl⟩
  · rw [if_neg h, skip, if_pos (Nat.not_le.mp h)]

theorem fixed_block (n : Nat) : Fixed n (block none n : Reader ε (Block n)) := (fixed_take n).map

theorem fixed_big (n : Nat) : Fixed n (big none n : Reader ε Nat) := (fixed_take n).map

/-- The reader takes as many bytes as the size of its value. -/
def Measures (size : α → Nat) (p : Reader ε α) : Prop :=
  ∀ s a rest, p s = .ok (a, rest) → size a ≤ s.length ∧ rest = s.drop (size a)

namespace Measures

variable {p : Reader ε α} {size : α → Nat}

theorem sized_run (hp : Measures size p) : sized size (run p) = p := by
  funext s
  rw [sized, bind_apply, peek, run]
  cases h : p s with
  | ok r =>
    obtain ⟨hle, hrest⟩ := hp s r.1 r.2 h
    show (skip (size r.1) >>= fun _ => Pure.pure r.1) s = _
    rw [bind_apply, skip, if_neg (Nat.not_lt.mpr hle), ← hrest]
    rfl
  | error e => rfl
  | halted => rfl

end Measures

theorem measures_sized {size : α → Nat} {q : List UInt8 → Outcome ε α} :
    Measures size (sized size q) := by
  intro s a rest h
  obtain ⟨a', mid, ha, h⟩ := bind_eq_ok.mp h
  obtain ⟨u, mid', hskip, h⟩ := bind_eq_ok.mp h
  cases h
  obtain ⟨b, -, hb⟩ := Outcome.bind_eq_ok.mp ha
  cases hb
  unfold skip at hskip
  by_cases hshort : s.length < size a
  · rw [if_pos hshort] at hskip
    cases hskip
  · rw [if_neg hshort] at hskip
    cases hskip
    exact ⟨Nat.not_lt.mp hshort, rfl⟩

theorem measures_many {size : α → Nat} (hp : Measures size p) (n : Nat) :
    Measures (fun as => (as.map size).sum) (many p n) := by
  induction n with
  | zero =>
    intro s as rest h
    cases h
    exact ⟨Nat.zero_le _, rfl⟩
  | succ n ih =>
    intro s as rest h
    obtain ⟨a, mid, ha, h⟩ := bind_eq_ok.mp h
    obtain ⟨as', mid', has, h⟩ := bind_eq_ok.mp h
    cases h
    obtain ⟨hle, rfl⟩ := hp s a mid ha
    obtain ⟨hle', rfl⟩ := ih _ as' _ has
    dsimp only at hle' ⊢
    rw [List.length_drop] at hle'
    rw [List.map_cons, List.sum_cons, List.drop_drop]
    exact ⟨by omega, rfl⟩

theorem length_many {n : Nat} {s rest : List UInt8} {as : List α}
    (h : many p n s = .ok (as, rest)) : as.length = n := by
  induction n generalizing s as rest with
  | zero =>
    cases h
    rfl
  | succ n ih =>
    obtain ⟨a, mid, -, h⟩ := bind_eq_ok.mp h
    obtain ⟨as', mid', has, h⟩ := bind_eq_ok.mp h
    cases h
    exact congrArg Nat.succ (ih has)

def Consumes (p : Reader ε α) : Prop := ∀ s a rest, p s = .ok (a, rest) → rest <:+ s

theorem Consumes.bind {f : α → Reader ε β} (hp : Consumes p)
    (hf : ∀ a, Consumes (f a)) : Consumes (p >>= f) := by
  intro s b rest h
  obtain ⟨a, mid, ha, hb⟩ := bind_eq_ok.mp h
  exact (hf a mid b rest hb).trans (hp s a mid ha)

theorem consumes_pure (a : α) : Consumes (pure a : Reader ε α) := by
  intro s b rest h
  cases h
  exact List.suffix_refl s

theorem Measures.consumes {size : α → Nat} (hp : Measures size p) :
    Consumes p := by
  intro s a rest h
  obtain ⟨-, rfl⟩ := hp s a rest h
  exact List.drop_suffix _ s

theorem Fixed.measures {n : Nat} (hp : Fixed n p) : Measures (fun _ => n) p := by
  intro s a rest h
  by_cases hn : n ≤ s.length
  · obtain ⟨b, hb⟩ := hp.ok hn
    rw [hb] at h
    cases h
    exact ⟨hn, rfl⟩
  · rw [hp.halted (Nat.not_le.mp hn)] at h
    cases h

theorem Consumes.measures {p : Reader ε (Nat → α)} (hp : Consumes p) {size : α → Nat}
    (hsize : ∀ s mk rest, p s = .ok (mk, rest) → ∀ n, size (mk n) = n) :
    Measures size (do let r ← measured p; pure (r.1 r.2)) := by
  intro s a rest h
  obtain ⟨r, mid, hr, h⟩ := bind_eq_ok.mp h
  cases h
  obtain ⟨⟨mk, mid⟩, hmk, hr⟩ := Outcome.bind_eq_ok.mp hr
  cases hr
  obtain ⟨w, rfl⟩ := hp s mk _ hmk
  dsimp only
  rw [hsize _ _ _ hmk, List.length_append, Nat.add_sub_cancel, List.drop_left]
  exact ⟨Nat.le_add_right _ _, rfl⟩

/-- The condition for `n` elements, from that for one: what is asked of the bytes behind an
element is what is asked of the others. -/
def each {γ : Type} (one : (γ → List UInt8 → Prop) → List UInt8 → Prop) :
    Nat → (List γ → List UInt8 → Prop) → List UInt8 → Prop
  | 0, K => K []
  | n + 1, K => one fun c => each one n fun cs => K (c :: cs)

theorem ends_many {γ : Type} {E : Prop} {g : α → γ}
    {one : (γ → List UInt8 → Prop) → List UInt8 → Prop}
    (hp : ∀ K s, Ends E (fun a => K (g a)) p s ↔ one K s) (n : Nat)
    (K : List γ → List UInt8 → Prop) (s : List UInt8) :
    Ends E (fun as => K (as.map g)) (many p n) s ↔ each one n K s := by
  induction n generalizing K s with
  | zero => exact Iff.rfl
  | succ n ih =>
    rw [many, each, ends_bind, ← hp]
    refine ends_congr fun a rest => ?_
    rw [← ih (fun cs => K (g a :: cs)) rest, ends_bind]
    exact Iff.rfl

end Keystone3.Bytes.Reader
