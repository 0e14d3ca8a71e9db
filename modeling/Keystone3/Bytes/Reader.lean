import Keystone3.Bytes.Block
import Keystone3.Logic.Outcome

/-!
# Readers

A reader takes a value from the front of a list of bytes and leaves the rest. Two things
are asked of one: that it reads a value from the bytes that spell it, whatever comes
behind (`Reads`) or as soon as enough does (`ReadsBefore`), and which bytes spell a
value (`Spells`). All are closed under sequences and repetitions.

A parser of a copy of the bytes leaves nothing, and its caller skips as many bytes as
the value says (`sized`): that is a reader of the value just when the number is the
right one.
-/

namespace Keystone3.Bytes

open Logic (Outcome)
open List (append_assoc append_nil drop_left length_append)

/-- A number in `n` bytes, with the most significant one first. -/
def be (n value : Nat) : List UInt8 := (toLe n value).reverse

@[simp] theorem length_be (n value : Nat) : (be n value).length = n := by
  rw [be, List.length_reverse, length_toLe]

def ofBe (bytes : List UInt8) : Nat := ofLe bytes.reverse

theorem ofBe_be {n value : Nat} (h : value < 256 ^ n) : ofBe (be n value) = value := by
  rw [ofBe, be, List.reverse_reverse, ofLe_toLe n value h]

theorem be_ofBe (bytes : List UInt8) : be bytes.length (ofBe bytes) = bytes := by
  have hle := toLe_ofLe bytes.reverse
  rw [List.length_reverse] at hle
  rw [be, ofBe, hle, List.reverse_reverse]

theorem ofBe_zeros_append (k : Nat) (bytes : List UInt8) :
    ofBe (List.replicate k 0 ++ bytes) = ofBe bytes := by
  have hzeros : ofLe (List.replicate k 0) = 0 := by
    induction k with
    | zero => rfl
    | succ k ih =>
      rw [List.replicate_succ, ofLe, ih]
      rfl
  have hle : ∀ l : List UInt8, ofLe (l ++ List.replicate k 0) = ofLe l := by
    intro l
    induction l with
    | nil => exact hzeros
    | cons b l ih => rw [List.cons_append, ofLe, ofLe, ih]
  rw [ofBe, ofBe, List.reverse_append, List.reverse_replicate, hle]

theorem be_ofBe_of_le {n : Nat} {bytes : List UInt8} (h : bytes.length ≤ n) :
    be n (ofBe bytes) = List.replicate (n - bytes.length) 0 ++ bytes := by
  have hall := be_ofBe (List.replicate (n - bytes.length) 0 ++ bytes)
  rw [ofBe_zeros_append, length_append, List.length_replicate, Nat.sub_add_cancel h] at hall
  exact hall

theorem ofBe_lt (bytes : List UInt8) : ofBe bytes < 256 ^ bytes.length := by
  have hlt := ofLe_lt bytes.reverse
  rwa [List.length_reverse] at hlt

abbrev Reader (ε : Type) := StateT (List UInt8) (Outcome ε)

namespace Reader

variable {ε α β : Type}

def stop : Option ε → Outcome ε α
  | some e => .error e
  | none => .halted

/-- The next `n` bytes. -/
def take (short : Option ε) (n : Nat) : Reader ε (List UInt8) := fun s =>
  if s.length < n then stop short else .ok (s.take n, s.drop n)

/-- The next `n` bytes, as a block. -/
def block (short : Option ε) (n : Nat) : Reader ε (Block n) := do
  let bytes ← take short n
  pure (Block.ofBytes n bytes)

def byte (short : Option ε) : Reader ε UInt8
  | [] => stop short
  | b :: s => .ok (b, s)

def little (short : Option ε) (n : Nat) : Reader ε Nat := do
  let bytes ← take short n
  pure (ofLe bytes)

def big (short : Option ε) (n : Nat) : Reader ε Nat := do
  let bytes ← take short n
  pure (ofBe bytes)

def lift (x : Outcome ε α) : Reader ε α := fun s => do
  let a ← x
  pure (a, s)

/-- The same `n` times. -/
def many (p : Reader ε α) : Nat → Reader ε (List α)
  | 0 => pure []
  | n + 1 => do
    let a ← p
    let rest ← many p n
    pure (a :: rest)

/-- An error, if there are fewer than `n` bytes. -/
def demand (e : ε) (n : Nat) : Reader ε Unit := fun s =>
  if s.length < n then .error e else .ok ((), s)

def measured (p : Reader ε α) : Reader ε (α × Nat) := fun s => do
  let r ← p s
  pure ((r.1, s.length - r.2.length), r.2)

def run (p : Reader ε α) : List UInt8 → Outcome ε α := fun s => do
  let r ← p s
  pure r.1

def peek (q : List UInt8 → Outcome ε α) : Reader ε α := fun s => do
  let a ← q s
  pure (a, s)

def skip (n : Nat) : Reader ε Unit := fun s =>
  if s.length < n then .halted else .ok ((), s.drop n)

def sized (size : α → Nat) (q : List UInt8 → Outcome ε α) : Reader ε α := do
  let a ← peek q
  skip (size a)
  pure a

/-- The bytes are read as the value, whatever comes behind. -/
def Reads (p : Reader ε α) (w : List UInt8) (a : α) : Prop := ∀ rest, p (w ++ rest) = .ok (a, rest)

theorem bind_apply (p : Reader ε α) (f : α → Reader ε β) (s : List UInt8) :
    (p >>= f) s = (p s >>= fun r => f r.1 r.2) := rfl

theorem pure_apply (a : α) (s : List UInt8) : (pure a : Reader ε α) s = .ok (a, s) := rfl

theorem Reads.pure (a : α) : Reads (pure a : Reader ε α) [] a := fun _ => rfl

variable {p : Reader ε α} {a : α} {f : α → Reader ε β}

theorem Reads.bind {w w' : List UInt8} {b : β}
    (hp : Reads p w a) (hf : Reads (f a) w' b) : Reads (p >>= f) (w ++ w') b := by
  intro rest
  rw [bind_apply, append_assoc, hp, Outcome.ok_bind]
  exact hf rest

variable {w : List UInt8}

theorem Reads.map (hp : Reads p w a) (f : α → β) :
    Reads (do let a ← p; Pure.pure (f a)) w (f a) := by
  rw [← append_nil w]
  exact hp.bind (Reads.pure (f a))

theorem Reads.lift_bind {x : Outcome ε α} {b : β}
    (h : x = .ok a) (hf : Reads (f a) w b) : Reads (lift x >>= f) w b := by
  intro rest
  rw [bind_apply, h]
  exact hf rest

variable (short : Option ε)

theorem reads_take (w : List UInt8) : Reads (take short w.length) w w := by
  intro rest
  have hlength : ¬(w ++ rest).length < w.length := by
    rw [length_append]
    omega
  rw [take, if_neg hlength, List.take_left, drop_left]

variable {n : Nat}

theorem reads_block (a : Block n) :
    Reads (block short n) a.bytes a := by
  have htake := reads_take short a.bytes
  rw [a.size_eq] at htake
  have hblock := htake.map (Block.ofBytes n)
  rwa [Block.ofBytes_bytes] at hblock

theorem reads_byte (b : UInt8) : Reads (byte short) [b] b := fun _ => rfl

theorem reads_little {n value : Nat} (h : value < 256 ^ n) :
    Reads (little short n) (toLe n value) value := by
  have htake := reads_take short (toLe n value)
  rw [length_toLe] at htake
  have hlittle := htake.map ofLe
  rwa [ofLe_toLe n value h] at hlittle

theorem reads_big {n value : Nat} (h : value < 256 ^ n) :
    Reads (big short n) (be n value) value := by
  have htake := reads_take short (be n value)
  rw [length_be] at htake
  have hbig := htake.map ofBe
  rwa [ofBe_be h] at hbig

theorem Reads.many {write : α → List UInt8} {as : List α}
    (h : ∀ a ∈ as, Reads p (write a) a) : Reads (many p as.length) (as.flatMap write) as := by
  induction as with
  | nil => exact Reads.pure []
  | cons a as ih =>
    have hrest := ih fun a' ha' => h a' (List.mem_cons_of_mem a ha')
    exact (h a (.head _)).bind (hrest.map (a :: ·))

/-- The bytes are read as the value, if at least `n` bytes come behind. -/
def ReadsBefore (n : Nat) (p : Reader ε α) (w : List UInt8) (a : α) : Prop :=
  ∀ rest, n ≤ rest.length → p (w ++ rest) = .ok (a, rest)

theorem Reads.before (hp : Reads p w a) (n : Nat) :
    ReadsBefore n p w a :=
  fun rest _ => hp rest

theorem ReadsBefore.reads (hp : ReadsBefore 0 p w a) :
    Reads p w a :=
  fun rest => hp rest (Nat.zero_le _)

theorem ReadsBefore.bind {m n : Nat} {w w' : List UInt8} {b : β} (hp : ReadsBefore n p w a) (hf : ReadsBefore m (f a) w' b)
    (hn : n ≤ w'.length + m) : ReadsBefore m (p >>= f) (w ++ w') b := by
  intro rest hrest
  have hlength : n ≤ (w' ++ rest).length := by
    rw [length_append]
    omega
  rw [bind_apply, append_assoc, hp _ hlength, Outcome.ok_bind]
  exact hf rest hrest

theorem ReadsBefore.map
    (hp : ReadsBefore n p w a) (f : α → β) :
    ReadsBefore n (do let a ← p; Pure.pure (f a)) w (f a) := by
  rw [← append_nil w]
  exact hp.bind ((Reads.pure (f a)).before n) (Nat.le_add_left n _)

theorem ReadsBefore.many {γ : Type} {write : γ → List UInt8}
    {value : γ → α} {cs : List γ} (h : ∀ c ∈ cs, ReadsBefore n p (write c) (value c)) :
    ReadsBefore n (many p cs.length) (cs.flatMap write) (cs.map value) := by
  induction cs with
  | nil => exact (Reads.pure []).before n
  | cons c cs ih =>
    have hrest := ih fun c' hmem => h c' (List.mem_cons_of_mem c hmem)
    exact (h c (.head _)).bind (hrest.map (value c :: ·)) (Nat.le_add_left n _)

theorem ReadsBefore.demand {m n : Nat} (e : ε)
    (hp : ReadsBefore n p w a) (hm : m ≤ w.length + n) :
    ReadsBefore n (do demand e m; p) w a := by
  intro rest hrest
  have henough : ¬(w ++ rest).length < m := by
    rw [length_append]
    omega
  rw [bind_apply, Reader.demand, if_neg henough, Outcome.ok_bind]
  exact hp rest hrest

theorem ReadsBefore.measured
    (hp : ReadsBefore n p w a) : ReadsBefore n (measured p) w (a, w.length) := by
  intro rest hrest
  rw [Reader.measured, hp rest hrest, Outcome.ok_bind]
  show Outcome.ok ((a, (w ++ rest).length - rest.length), rest) = _
  rw [length_append, Nat.add_sub_cancel]

theorem reads_skip (w : List UInt8) : Reads (skip w.length : Reader ε Unit) w () := by
  intro rest
  have hlength : ¬(w ++ rest).length < w.length := by
    rw [length_append]
    omega
  rw [skip, if_neg hlength, drop_left]

/-- A parser makes the value of the bytes, if at least `n` bytes come behind. -/
def ParsesBefore (n : Nat) (q : List UInt8 → Outcome ε α) (w : List UInt8) (a : α) : Prop :=
  ∀ rest, n ≤ rest.length → q (w ++ rest) = .ok a

theorem ReadsBefore.run
    (hp : ReadsBefore n p w a) : ParsesBefore n (run p) w a := by
  intro rest hrest
  rw [Reader.run, hp rest hrest]
  rfl

theorem ReadsBefore.run_bind {m n : Nat}
    {w w' : List UInt8} {b : β} (hp : ReadsBefore n p w a)
    (hf : ParsesBefore m (Reader.run (f a)) w' b) (hn : n ≤ w'.length + m) :
    ParsesBefore m (Reader.run (p >>= f)) (w ++ w') b := by
  intro rest hrest
  have hlength : n ≤ (w' ++ rest).length := by
    rw [length_append]
    omega
  have hsecond := hf rest hrest
  rw [Reader.run] at hsecond ⊢
  rw [bind_apply, append_assoc, hp _ hlength, Outcome.ok_bind]
  exact hsecond

theorem ParsesBefore.run_peek {q : List UInt8 → Outcome ε α}
    (hq : ParsesBefore n q w a) (f : α → β) :
    ParsesBefore n (Reader.run do let a ← peek q; Pure.pure (f a)) w (f a) := by
  intro rest hrest
  rw [Reader.run, bind_apply, peek, hq rest hrest]
  rfl

variable {size : α → Nat}

theorem ParsesBefore.sized {q : List UInt8 → Outcome ε α} (hq : ParsesBefore n q w a) (hsize : size a = w.length) :
    ReadsBefore n (sized size q) w a := by
  intro rest hrest
  rw [Reader.sized, bind_apply, peek, hq rest hrest, Outcome.ok_bind]
  show (skip (size a) >>= fun _ => Pure.pure a) (w ++ rest) = _
  rw [hsize, bind_apply, reads_skip w rest]
  rfl

/-- The relation holds of the bytes that are read as a value. -/
def Spells (p : Reader ε α) (R : List UInt8 → α → Prop) : Prop :=
  ∀ s a rest, p s = .ok (a, rest) ↔ ∃ w, R w a ∧ s = w ++ rest

variable {R : List UInt8 → α → Prop}

theorem Spells.reads (hp : Spells p R) (h : R w a) : Reads p w a :=
  fun rest => (hp (w ++ rest) a rest).mpr ⟨w, h, rfl⟩

theorem Spells.pure (a : α) : Spells (pure a : Reader ε α) fun w b => w = [] ∧ b = a := by
  intro s b rest
  rw [pure_apply]
  constructor
  · intro h
    cases h
    exact ⟨[], ⟨rfl, rfl⟩, rfl⟩
  · intro h
    obtain ⟨w, ⟨rfl, rfl⟩, rfl⟩ := h
    rfl

theorem Spells.bind
    {S : α → List UInt8 → β → Prop} (hp : Spells p R) (hf : ∀ a, Spells (f a) (S a)) :
    Spells (p >>= f) fun w b => ∃ a w₁ w₂, R w₁ a ∧ S a w₂ b ∧ w = w₁ ++ w₂ := by
  intro s b rest
  rw [bind_apply, Outcome.bind_eq_ok]
  constructor
  · intro h
    obtain ⟨⟨a, mid⟩, hfirst, hsecond⟩ := h
    obtain ⟨w₁, hw₁, rfl⟩ := (hp s a mid).mp hfirst
    obtain ⟨w₂, hw₂, rfl⟩ := (hf a mid b rest).mp hsecond
    exact ⟨w₁ ++ w₂, ⟨a, w₁, w₂, hw₁, hw₂, rfl⟩, (append_assoc _ _ _).symm⟩
  · intro h
    obtain ⟨w, ⟨a, w₁, w₂, hw₁, hw₂, rfl⟩, rfl⟩ := h
    refine ⟨(a, w₂ ++ rest), ?_, ?_⟩
    · rw [append_assoc]
      exact hp.reads hw₁ _
    · exact (hf a).reads hw₂ rest

theorem Spells.map (hp : Spells p R) (f : α → β) :
    Spells (do let a ← p; Pure.pure (f a)) fun w b => ∃ a, R w a ∧ b = f a := by
  intro s b rest
  rw [hp.bind (fun a => Spells.pure (f a)) s b rest]
  constructor
  · intro h
    obtain ⟨w, ⟨a, w₁, w₂, hw₁, ⟨rfl, hb⟩, rfl⟩, hs⟩ := h
    rw [append_nil] at hs
    exact ⟨w₁, ⟨a, hw₁, hb⟩, hs⟩
  · intro h
    obtain ⟨w, ⟨a, hw, hb⟩, hs⟩ := h
    exact ⟨w, ⟨a, w, [], hw, ⟨rfl, hb⟩, (append_nil w).symm⟩, hs⟩

theorem stop_ne_ok {short : Option ε} {r : α} : (stop short : Outcome ε α) ≠ .ok r := by
  cases short with
  | none => exact nofun
  | some e => exact nofun

theorem spells_take (n : Nat) :
    Spells (take short n) fun w bytes => w = bytes ∧ bytes.length = n := by
  intro s bytes rest
  unfold take
  by_cases hlength : s.length < n
  · rw [if_pos hlength]
    constructor
    · intro h
      exact absurd h stop_ne_ok
    · intro h
      obtain ⟨w, ⟨rfl, rfl⟩, rfl⟩ := h
      rw [length_append] at hlength
      omega
  · rw [if_neg hlength]
    constructor
    · intro h
      cases h
      refine ⟨s.take n, ⟨rfl, ?_⟩, (List.take_append_drop n s).symm⟩
      rw [List.length_take]
      omega
    · intro h
      obtain ⟨w, ⟨rfl, rfl⟩, rfl⟩ := h
      rw [List.take_left, drop_left]

theorem spells_block (n : Nat) :
    Spells (block short n) fun w a => w = a.bytes := by
  intro s a rest
  rw [block, (spells_take short n).map (Block.ofBytes n) s a rest]
  constructor
  · intro h
    obtain ⟨w, ⟨bytes, ⟨rfl, hlength⟩, rfl⟩, rfl⟩ := h
    refine ⟨w, ?_, rfl⟩
    subst hlength
    exact (congrArg Block.bytes (Block.ofBytes_bytes (⟨w, rfl⟩ : Block w.length))).symm
  · intro h
    obtain ⟨w, rfl, rfl⟩ := h
    exact ⟨a.bytes, ⟨a.bytes, ⟨rfl, a.size_eq⟩, (Block.ofBytes_bytes a).symm⟩, rfl⟩

theorem spells_byte : Spells (byte short) fun w b => w = [b] := by
  intro s b rest
  cases s with
  | nil =>
    constructor
    · intro h
      exact absurd h stop_ne_ok
    · intro h
      obtain ⟨w, rfl, h⟩ := h
      cases h
  | cons c s =>
    constructor
    · intro h
      cases h
      exact ⟨[b], rfl, rfl⟩
    · intro h
      obtain ⟨w, rfl, h⟩ := h
      cases h
      rfl

inductive Each (R : List UInt8 → α → Prop) : List UInt8 → List α → Prop where
  | nil : Each R [] []
  | cons {w ws : List UInt8} {a : α} {as : List α} (head : R w a) (tail : Each R ws as) :
    Each R (w ++ ws) (a :: as)

theorem Spells.many (hp : Spells p R) (n : Nat) :
    Spells (many p n) fun w as => as.length = n ∧ Each R w as := by
  induction n with
  | zero =>
    intro s as rest
    rw [Reader.many, Spells.pure [] s as rest]
    constructor
    · intro h
      obtain ⟨w, ⟨rfl, rfl⟩, hs⟩ := h
      exact ⟨[], ⟨rfl, .nil⟩, hs⟩
    · intro h
      obtain ⟨w, ⟨hlength, heach⟩, hs⟩ := h
      cases heach with
      | nil => exact ⟨[], ⟨rfl, rfl⟩, hs⟩
      | cons _ _ => cases hlength
  | succ n ih =>
    intro s as rest
    rw [Reader.many, hp.bind (fun a => ih.map (a :: ·)) s as rest]
    constructor
    · intro h
      obtain ⟨w, ⟨a, w₁, w₂, hw₁, ⟨as', ⟨hlength, heach⟩, rfl⟩, rfl⟩, hs⟩ := h
      exact ⟨w₁ ++ w₂, ⟨congrArg Nat.succ hlength, .cons hw₁ heach⟩, hs⟩
    · intro h
      obtain ⟨w, ⟨hlength, heach⟩, hs⟩ := h
      cases heach with
      | nil => cases hlength
      | cons head tail =>
        rename_i w₁ w₂ a as'
        exact ⟨w₁ ++ w₂, ⟨a, w₁, w₂, head, ⟨as', ⟨Nat.succ.inj hlength, tail⟩, rfl⟩, rfl⟩, hs⟩

/-- For a value at least as many bytes are taken as its size. -/
def Takes (p : Reader ε α) (size : α → Nat) : Prop :=
  ∀ s a rest, p s = .ok (a, rest) → rest.length + size a ≤ s.length

theorem Takes.le (hp : Takes p size) {s rest : List UInt8} (h : p s = .ok (a, rest)) : rest.length + size a ≤ s.length := hp s a rest h

theorem bind_eq_ok {s rest : List UInt8} {b : β} :
    (p >>= f) s = .ok (b, rest) ↔ ∃ a mid, p s = .ok (a, mid) ∧ f a mid = .ok (b, rest) := by
  rw [bind_apply, Outcome.bind_eq_ok]
  exact Prod.exists

theorem lift_eq_ok {x : Outcome ε α} {s rest : List UInt8} :
    lift x s = .ok (a, rest) ↔ x = .ok a ∧ rest = s := by
  unfold lift
  rw [Outcome.bind_eq_ok]
  constructor
  · rintro ⟨a', ha, h⟩
    cases h
    exact ⟨ha, rfl⟩
  · rintro ⟨ha, rfl⟩
    exact ⟨a, ha, rfl⟩

theorem Spells.takes (hp : Spells p R) (hsize : ∀ w a, R w a → size a ≤ w.length) : Takes p size := by
  intro s a rest h
  obtain ⟨w, hw, rfl⟩ := (hp s a rest).mp h
  have hle := hsize w a hw
  rw [length_append]
  omega

theorem takes_block (n : Nat) : Takes (block short n) fun _ => n :=
  (spells_block short n).takes fun _ a h => Nat.le_of_eq (h ▸ a.size_eq.symm)

theorem takes_byte : Takes (byte short) fun _ => 1 :=
  (spells_byte short).takes fun _ _ h => h ▸ Nat.le_refl 1

theorem takes_little (n : Nat) : Takes (little short n) fun _ => n := by
  refine ((spells_take short n).map ofLe).takes ?_
  rintro w value ⟨bytes, ⟨rfl, hlength⟩, -⟩
  exact Nat.le_of_eq hlength.symm

theorem Takes.map {size' : β → Nat} (hp : Takes p size)
    {f : α → β} (hsize : ∀ a, size' (f a) ≤ size a) :
    Takes (do let a ← p; Pure.pure (f a)) size' := by
  intro s b rest h
  obtain ⟨a, mid, ha, h⟩ := bind_eq_ok.mp h
  cases h
  have htaken := hp.le ha
  have hle := hsize a
  omega

/-- What the first value takes counts for the whole. -/
theorem Takes.bind {size' : β → Nat} (hp : Takes p size)
    (hf : ∀ a, Takes (f a) fun b => size' b - size a) : Takes (p >>= f) size' := by
  intro s b rest h
  obtain ⟨a, mid, ha, h⟩ := bind_eq_ok.mp h
  have htaken := hp.le ha
  have hrest : rest.length + (size' b - size a) ≤ mid.length := (hf a).le h
  omega

theorem takes_pure (h : size a = 0) : Takes (Pure.pure a : Reader ε α) size := by
  intro s a rest ha
  cases ha
  rw [h]
  exact Nat.le_refl _

theorem takes_lift {x : Outcome ε α} {size' : β → Nat} (hf : ∀ a, x = .ok a → Takes (f a) size') :
    Takes (lift x >>= f) size' := by
  intro s b rest h
  obtain ⟨a, mid, ha, hb⟩ := bind_eq_ok.mp h
  obtain ⟨hx, rfl⟩ := lift_eq_ok.mp ha
  exact (hf a hx).le hb

theorem Takes.many (hp : Takes p size) (n : Nat) :
    Takes (many p n) fun as => (as.map size).sum := by
  induction n with
  | zero =>
    intro s as rest h
    cases h
    exact Nat.le_refl _
  | succ n ih =>
    intro s as rest h
    obtain ⟨a, mid, ha, h⟩ := bind_eq_ok.mp h
    obtain ⟨as', mid', has, h⟩ := bind_eq_ok.mp h
    cases h
    have hfirst := hp.le ha
    have hrest := ih.le has
    show rest.length + ((a :: as').map size).sum ≤ s.length
    rw [List.map_cons, List.sum_cons]
    omega

theorem length_of_many {s rest : List UInt8} {as : List α}
    (h : many p n s = .ok (as, rest)) : as.length = n := by
  induction n generalizing s as rest with
  | zero =>
    cases h
    rfl
  | succ n ih =>
    obtain ⟨a, mid, -, h⟩ := bind_eq_ok.mp h
    obtain ⟨as', mid', has, h⟩ := bind_eq_ok.mp h
    cases h
    exact congrArg Nat.succ (ih has)

end Reader

end Keystone3.Bytes
