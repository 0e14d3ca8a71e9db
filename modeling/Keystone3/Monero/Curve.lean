import Mathlib.Algebra.Group.Basic
import Keystone3.Bytes.Block
import Keystone3.Logic.Outcome

/-!
# Keys on the curve

Points are a commutative group with a base point of known order, and scalars are the
numbers below it. Of the curve nothing else is used than that: `mul_comm` for two
secrets and one point, `add_base` for two secrets and the base point.
-/

namespace Keystone3.Monero

open Bytes (Block toLe ofLe)
open Logic (Outcome)

/-- `MoneroError`, less what is only raised elsewhere. -/
inductive MoneroError where
  | publicKeyFromBytesError
  | generateKeyImageError
  | unsupportedInputType
  | decryptInvalidSignature
  | mismatchedMfp
  | base58DecodeError
  | invalidPrefix (text : List Char)
  | formatError
deriving DecidableEq

abbrev Result (α : Type) : Type := Outcome MoneroError α

abbrev Scalar : Type := Nat

structure Curve (Point : Type) [AddCommGroup Point] where
  base : Point
  order : Nat
  order_pos : 0 < order
  order_base : order • base = 0
  base_inj : ∀ a < order, ∀ b < order, a • base = b • base → a = b
  compress : Point → Block 32
  decompress : Block 32 → Option Point
  decompress_compress : ∀ p, decompress (compress p) = some p
  /-- `hash_to_point`. -/
  hashToPoint : Block 32 → Point
  keccak256 : List UInt8 → Block 32

namespace Curve

variable {Point : Type} [AddCommGroup Point] (c : Curve Point)

def fromBytesModOrder (bytes : Block 32) : Scalar := ofLe bytes.bytes % c.order

def add (a b : Scalar) : Scalar := (a + b) % c.order

def sub (a b : Scalar) : Scalar := (a + (c.order - b % c.order)) % c.order

def hashToScalar (data : List UInt8) : Scalar := c.fromBytesModOrder (c.keccak256 data)

def mulBase (a : Scalar) : Point := a • c.base

def mulByCofactor (p : Point) : Point := 8 • p

def point (key : Block 32) : Result Point :=
  match c.decompress key with
  | some p => .ok p
  | none => .halted

theorem point_eq_ok {key : Block 32} {p : Point} : c.point key = .ok p ↔ c.decompress key = some p := by
  unfold point
  cases c.decompress key with
  | none =>
    constructor
    · nofun
    · nofun
  | some q =>
    constructor
    · intro h
      cases h
      rfl
    · intro h
      cases h
      rfl

@[simp] theorem point_compress (p : Point) : c.point (c.compress p) = .ok p :=
  c.point_eq_ok.mpr (c.decompress_compress p)

theorem mul_comm (a b : Scalar) (p : Point) : a • b • p = b • a • p := by
  rw [← mul_nsmul, ← mul_nsmul', Nat.mul_comm]

theorem mod_base (a : Nat) : (a % c.order) • c.base = a • c.base := by
  conv_rhs => rw [← Nat.mod_add_div a c.order]
  rw [add_nsmul, mul_nsmul, c.order_base, nsmul_zero, add_zero]

theorem add_lt (a b : Scalar) : c.add a b < c.order := Nat.mod_lt _ c.order_pos

end Curve

def unwrap {α : Type} : Result α → Result α
  | .ok a => .ok a
  | _ => .halted

theorem unwrap_eq_ok {α : Type} {x : Result α} {a : α} : unwrap x = .ok a ↔ x = .ok a := by
  cases x with
  | ok b => exact Iff.rfl
  | error e =>
    constructor
    · nofun
    · nofun
  | halted =>
    constructor
    · nofun
    · nofun

def asUsize (n : UInt64) : Nat := n.toNat % 2 ^ 32

structure KeyPair where
  view : Scalar
  spend : Scalar

section

variable {Point : Type} [AddCommGroup Point] (c : Curve Point)

def calcSubaddressM (secretViewKey : Scalar) (major minor : UInt32) : Scalar :=
  c.hashToScalar ([0x53, 0x75, 0x62, 0x41, 0x64, 0x64, 0x72] ++ [0] ++ toLe 32 secretViewKey
    ++ toLe 4 major.toNat ++ toLe 4 minor.toNat)

/-- `generate_key_image_from_priavte_key`. -/
def generateKeyImageFromPrivateKey (x : Scalar) : Point :=
  x • c.hashToPoint (c.compress (c.mulBase x))

namespace KeyPair

variable (k : KeyPair)

def getPublicSpend : Block 32 := c.compress (c.mulBase k.spend)

def getPublicView : Block 32 := c.compress (c.mulBase k.view)

def getM (major minor : UInt32) : Scalar := calcSubaddressM c k.view major minor

def subSpendPoint (major minor : UInt32) : Point :=
  c.mulBase k.spend + c.mulBase (k.getM c major minor)

def getPublicSubSpend (major minor : UInt32) : Block 32 := c.compress (k.subSpendPoint c major minor)

def getPublicSubView (major minor : UInt32) : Block 32 :=
  c.compress (k.view • k.subSpendPoint c major minor)

end KeyPair

end

end Keystone3.Monero
