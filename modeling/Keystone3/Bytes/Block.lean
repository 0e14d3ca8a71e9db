import Mathlib.Algebra.GroupWithZero.Nat

/-!
# Byte blocks of a fixed size

`Block n` is an array of `n` bytes whose size is part of its type, so that a page, a key
or a cipher block of the wrong size cannot be written down. Blocks are joined with
`append` and taken apart with `front` and `back`, which is the pointer arithmetic of a
buffer laid out in parts (`buf`, `buf + m`); `xor` combines two of one size.
-/

namespace Keystone3.Bytes

/-- An array of exactly `n` bytes. -/
structure Block (n : Nat) where
  bytes : List UInt8
  size_eq : bytes.length = n
deriving DecidableEq

namespace Block

variable {m n : Nat}

@[ext] theorem ext {a b : Block n} (h : a.bytes = b.bytes) : a = b := by
  cases a
  cases b
  subst h
  rfl

/-- Every byte is `x`. -/
def fill (n : Nat) (x : UInt8) : Block n := ⟨List.replicate n x, List.length_replicate⟩

def zero (n : Nat) : Block n := fill n 0

/-- A copy of `bs` into a zeroed buffer of `n` bytes. -/
def ofBytes (n : Nat) (bs : List UInt8) : Block n :=
  ⟨bs.take n ++ List.replicate (n - bs.length) 0, by
    rw [List.length_append, List.length_take, List.length_replicate]
    omega⟩

def xor (a b : Block n) : Block n :=
  ⟨List.zipWith (· ^^^ ·) a.bytes b.bytes, by
    rw [List.length_zipWith, a.size_eq, b.size_eq, Nat.min_self]⟩

def append (a : Block m) (b : Block n) : Block (m + n) :=
  ⟨a.bytes ++ b.bytes, by rw [List.length_append, a.size_eq, b.size_eq]⟩

/-- The first `m` bytes. -/
def front (a : Block (m + n)) : Block m :=
  ⟨a.bytes.take m, by
    rw [List.length_take, a.size_eq]
    omega⟩

/-- What follows the first `m` bytes. -/
def back (a : Block (m + n)) : Block n :=
  ⟨a.bytes.drop m, by
    rw [List.length_drop, a.size_eq]
    omega⟩

@[simp] theorem front_append (a : Block m) (b : Block n) : (a.append b).front = a := by
  apply ext
  show (a.bytes ++ b.bytes).take m = a.bytes
  exact List.take_left' a.size_eq

@[simp] theorem back_append (a : Block m) (b : Block n) : (a.append b).back = b := by
  apply ext
  show (a.bytes ++ b.bytes).drop m = b.bytes
  exact List.drop_left' a.size_eq

@[simp] theorem append_front_back (a : Block (m + n)) : append a.front a.back = a := by
  apply ext
  exact List.take_append_drop m a.bytes

private theorem zipWith_xor_cancel :
    ∀ xs ys : List UInt8, xs.length = ys.length →
      List.zipWith (· ^^^ ·) xs (List.zipWith (· ^^^ ·) xs ys) = ys
  | [], [], _ => rfl
  | x :: xs, y :: ys, h => by
    rw [List.zipWith_cons_cons, List.zipWith_cons_cons,
      zipWith_xor_cancel xs ys (Nat.succ.inj h), ← UInt8.xor_assoc, UInt8.xor_self,
      UInt8.zero_xor]

@[simp] theorem xor_xor_cancel (a b : Block n) : xor a (xor a b) = b := by
  apply ext
  exact zipWith_xor_cancel a.bytes b.bytes (by rw [a.size_eq, b.size_eq])

theorem xor_comm (a b : Block n) : xor a b = xor b a := by
  apply ext
  exact List.zipWith_comm_of_comm UInt8.xor_comm

@[simp] theorem xor_xor_cancel_right (a b : Block n) : xor (xor a b) b = a := by
  rw [xor_comm (xor a b) b, xor_comm a b, xor_xor_cancel]

/-- A copy of exactly `n` bytes is those bytes. -/
@[simp] theorem ofBytes_bytes (a : Block n) : ofBytes n a.bytes = a := by
  apply ext
  show a.bytes.take n ++ List.replicate (n - a.bytes.length) 0 = a.bytes
  rw [a.size_eq, Nat.sub_self, List.replicate_zero, List.append_nil]
  exact List.take_of_length_le (Nat.le_of_eq a.size_eq)

theorem ofBytes_take {bs : List UInt8} (h : bs.length ≤ n) :
    (ofBytes n bs).bytes.take bs.length = bs := by
  show (bs.take n ++ List.replicate (n - bs.length) 0).take bs.length = bs
  rw [List.take_of_length_le h]
  exact List.take_left' rfl

def get (a : Block n) (i : Nat) : UInt8 := a.bytes.getD i 0

def set (a : Block n) (i : Nat) (x : UInt8) : Block n :=
  ⟨a.bytes.set i x, by rw [List.length_set, a.size_eq]⟩

/-- A copy of `bs` to the front of the buffer, which keeps what is behind it. -/
def overwrite (a : Block n) (bs : List UInt8) : Block n :=
  ⟨bs.take n ++ a.bytes.drop bs.length, by
    rw [List.length_append, List.length_take, List.length_drop, a.size_eq]
    omega⟩

@[simp] theorem get_set_self {a : Block n} {i : Nat} {x : UInt8} (h : i < n) :
    (a.set i x).get i = x := by
  have hi : i < (a.bytes.set i x).length := by rw [List.length_set, a.size_eq]; exact h
  show (a.bytes.set i x).getD i 0 = x
  rw [List.getD_eq_getElem?_getD, List.getElem?_eq_getElem hi, List.getElem_set_self]
  rfl

@[simp] theorem get_set_ne {a : Block n} {i j : Nat} {x : UInt8} (h : i ≠ j) :
    (a.set i x).get j = a.get j := by
  show (a.bytes.set i x).getD j 0 = a.bytes.getD j 0
  rw [List.getD_eq_getElem?_getD, List.getD_eq_getElem?_getD, List.getElem?_set_ne h]

@[simp] theorem get_zero (i : Nat) : (zero n).get i = 0 := by
  show (List.replicate n (0 : UInt8)).getD i 0 = 0
  rw [List.getD_eq_getElem?_getD, List.getElem?_replicate]
  split
  · rfl
  · rfl

theorem take_set {a : Block n} {i : Nat} {x : UInt8} (h : i < n) :
    (a.set i x).bytes.take (i + 1) = a.bytes.take i ++ [x] := by
  have hi : i < (a.bytes.set i x).length := by rw [List.length_set, a.size_eq]; exact h
  show (a.bytes.set i x).take (i + 1) = a.bytes.take i ++ [x]
  rw [List.take_add_one, List.getElem?_eq_getElem hi, List.getElem_set_self,
    List.take_set_of_le (Nat.le_refl i)]
  rfl

theorem get_eq_take (a : Block n) {i k : Nat} (h : i < k) :
    a.get i = (a.bytes.take k).getD i 0 := by
  show a.bytes.getD i 0 = (a.bytes.take k).getD i 0
  rw [List.getD_eq_getElem?_getD, List.getD_eq_getElem?_getD, List.getElem?_take_of_lt h]

def single (x : UInt8) : Block 1 := ⟨[x], rfl⟩

def byte (a : Block 1) : UInt8 := a.bytes.headD 0

@[simp] theorem byte_single (x : UInt8) : (single x).byte = x := rfl

end Block

/-- The `w` low bytes of `n`, least significant first. -/
def toLe : Nat → Nat → List UInt8
  | 0, _ => []
  | w + 1, n => UInt8.ofNat (n % 256) :: toLe w (n / 256)

def ofLe : List UInt8 → Nat
  | [] => 0
  | b :: bs => b.toNat + 256 * ofLe bs

@[simp] theorem length_toLe : ∀ w n, (toLe w n).length = w
  | 0, _ => rfl
  | w + 1, n => congrArg Nat.succ (length_toLe w (n / 256))

theorem ofLe_toLe : ∀ w n, n < 256 ^ w → ofLe (toLe w n) = n
  | 0, n, h => by
    have hn : n < 1 := h
    show 0 = n
    omega
  | w + 1, n, h => by
    have hq : n / 256 < 256 ^ w := by
      rw [Nat.pow_succ] at h
      exact Nat.div_lt_of_lt_mul (by rw [Nat.mul_comm]; exact h)
    have hb : (UInt8.ofNat (n % 256)).toNat = n % 256 := by
      rw [UInt8.toNat_ofNat']
      exact Nat.mod_eq_of_lt (by omega)
    show (UInt8.ofNat (n % 256)).toNat + 256 * ofLe (toLe w (n / 256)) = n
    rw [ofLe_toLe w (n / 256) hq, hb]
    omega

theorem ofLe_lt : ∀ bs : List UInt8, ofLe bs < 256 ^ bs.length
  | [] => Nat.one_pos
  | b :: bs => by
    have hb : b.toNat < 256 := b.toNat_lt
    have hbs := ofLe_lt bs
    show b.toNat + 256 * ofLe bs < 256 ^ (bs.length + 1)
    rw [Nat.pow_succ]
    omega

theorem toLe_ofLe : ∀ bs : List UInt8, toLe bs.length (ofLe bs) = bs
  | [] => rfl
  | b :: bs => by
    have hb : b.toNat < 256 := b.toNat_lt
    have hlow : (b.toNat + 256 * ofLe bs) % 256 = b.toNat := by omega
    have hhigh : (b.toNat + 256 * ofLe bs) / 256 = ofLe bs := by omega
    show UInt8.ofNat ((b.toNat + 256 * ofLe bs) % 256)
      :: toLe bs.length ((b.toNat + 256 * ofLe bs) / 256) = b :: bs
    rw [hlow, hhigh, toLe_ofLe bs, UInt8.ofNat_toNat]

end Keystone3.Bytes
