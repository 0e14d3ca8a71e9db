import Keystone3.Ton.Messages

/-!
# How values are put into a cell

The encodings that the operations of a body are made of: numbers with the
highest bit first (`uintBits`), amounts of coins with their length in front
(`CoinsBits`) and addresses (`AddressBits`). Each is loaded as its value from
the front of the bits, with the bits behind it left where they are (`Loads`).
-/

namespace Keystone3.Ton

open Logic (Outcome)

/-- A number in `n` bits, the highest first. -/
def uintBits : Nat → Nat → List Bool
  | 0, _ => []
  | n + 1, value => uintBits n (value / 2) ++ [decide (value % 2 = 1)]

@[simp] theorem length_uintBits (n value : Nat) : (uintBits n value).length = n := by
  induction n generalizing value with
  | zero => rfl
  | succ n ih => rw [uintBits, List.length_append, ih, List.length_singleton]

theorem ofBits_concat (bits : List Bool) (b : Bool) :
    ofBits (bits ++ [b]) = 2 * ofBits bits + b.toNat := by
  simp [ofBits, List.foldl_append]

theorem ofBits_uintBits {n value : Nat} (h : value < 2 ^ n) : ofBits (uintBits n value) = value := by
  induction n generalizing value with
  | zero =>
    have hzero : value = 0 := by omega
    rw [hzero]
    rfl
  | succ n ih =>
    have hhalf : value / 2 < 2 ^ n := by
      rw [Nat.pow_succ] at h
      omega
    rw [uintBits, ofBits_concat, ih hhalf]
    by_cases hodd : value % 2 = 1
    · simp only [hodd, decide_true, Bool.toNat_true]
      omega
    · simp only [hodd, decide_false, Bool.toNat_false]
      omega

theorem bitsOf_eq (b : UInt8) : bitsOf b = uintBits 8 b.toNat := by
  simp [bitsOf, uintBits, List.range, List.range.loop, Nat.testBit_eq_decide_div_mod_eq,
    Nat.div_div_eq_div_mul]

theorem length_bitsOf (b : UInt8) : (bitsOf b).length = 8 := by
  rw [bitsOf_eq, length_uintBits]

theorem length_flatMap_bitsOf (bytes : List UInt8) :
    (bytes.flatMap bitsOf).length = 8 * bytes.length := by
  induction bytes with
  | nil => rfl
  | cons b bytes ih =>
    rw [List.flatMap_cons, List.length_append, ih, length_bitsOf, List.length_cons]
    omega

theorem bytesOf_flatMap (bytes : List UInt8) :
    bytesOf bytes.length (bytes.flatMap bitsOf) = bytes := by
  induction bytes with
  | nil => rfl
  | cons b bytes ih =>
    have hlt : b.toNat < 2 ^ 8 := b.toNat_lt
    rw [List.length_cons, bytesOf, List.flatMap_cons, List.take_left' (length_bitsOf b),
      List.drop_left' (length_bitsOf b), ih, bitsOf_eq, ofBits_uintBits hlt, UInt8.ofNat_toNat]

/-- The bits are loaded as the value, whatever comes behind. -/
def Loads {α : Type} (load : Load α) (w : List Bool) (a : α) : Prop :=
  ∀ rest n, load ⟨w ++ rest, w.length + n⟩ = .ok (a, ⟨rest, n⟩)

section

variable {α β : Type}

theorem load_bind_apply (load : Load α) (f : α → Load β) (parser : CellParser) :
    (load >>= f) parser = (load parser >>= fun r => f r.1 r.2) := rfl

theorem Loads.pure (a : α) : Loads (pure a) [] a := by
  intro rest n
  rw [List.length_nil, Nat.zero_add]
  rfl

theorem Loads.bind {load : Load α} {f : α → Load β} {w w' : List Bool} {a : α} {b : β}
    (h : Loads load w a) (hf : Loads (f a) w' b) : Loads (load >>= f) (w ++ w') b := by
  intro rest n
  rw [load_bind_apply, List.append_assoc, List.length_append, Nat.add_assoc, h, Outcome.ok_bind]
  exact hf rest n

theorem Loads.map {load : Load α} {w : List Bool} {a : α} (h : Loads load w a) (f : α → β) :
    Loads (do let a ← load; Pure.pure (f a)) w (f a) := by
  rw [← List.append_nil w]
  exact h.bind (Loads.pure (f a))

theorem loads_loadBits (w : List Bool) : Loads (loadBits w.length) w w := by
  intro rest n
  have hlength : ¬(w ++ rest).length < w.length := by
    rw [List.length_append]
    omega
  rw [loadBits, if_neg hlength, List.take_left, List.drop_left, Nat.add_sub_cancel_left]

theorem loads_loadBit (b : Bool) : Loads loadBit [b] b := by
  have hbit : decide (ofBits [b] = 1) = b := by
    cases b with
    | false => rfl
    | true => rfl
  have hload := (loads_loadBits [b]).map fun bits => decide (ofBits bits = 1)
  rw [hbit] at hload
  exact hload

theorem loads_loadUint {n value : Nat} (h : value < 2 ^ n) :
    Loads (loadUint n) (uintBits n value) value := by
  have hload := (loads_loadBits (uintBits n value)).map ofBits
  rw [length_uintBits, ofBits_uintBits h] at hload
  exact hload

theorem loads_loadBytes (bytes : List UInt8) :
    Loads (loadBytes bytes.length) (bytes.flatMap bitsOf) bytes := by
  have hload := (loads_loadBits (bytes.flatMap bitsOf)).map (bytesOf bytes.length)
  rw [length_flatMap_bitsOf, bytesOf_flatMap] at hload
  exact hload

theorem loads_liftResult {x : Result α} {a : α} (h : x = .ok a) : Loads (liftResult x) [] a := by
  intro rest n
  rw [h, List.length_nil, Nat.zero_add]
  rfl

end

def CoinsBits (w : List Bool) (amount : Nat) : Prop :=
  ∃ len, len < 16 ∧ amount < 2 ^ (len * 8) ∧ w = uintBits 4 len ++ uintBits (len * 8) amount

theorem loads_loadCoins {w : List Bool} {amount : Nat} (h : CoinsBits w amount) :
    Loads loadCoins w amount := by
  obtain ⟨len, hlen, hamount, rfl⟩ := h
  refine (loads_loadUint hlen).bind ?_
  by_cases hzero : len = 0
  · subst hzero
    obtain rfl : amount = 0 := by omega
    rw [if_pos rfl]
    exact Loads.pure 0
  · rw [if_neg hzero]
    exact loads_loadUint hamount

/-- No address, or one of a workchain without a prefix of its own. -/
inductive AddressBits : List Bool → Option TonAddress → Prop where
  | none : AddressBits [false, false] none
  | std {address : TonAddress} (hworkchain : address.workchain < 256)
    (hhash : address.hashPart.length = 32) :
    AddressBits ([true, false] ++ ([false] ++ (uintBits 8 address.workchain ++
      address.hashPart.flatMap bitsOf))) (some address)

theorem loads_loadAddress {w : List Bool} {address : Option TonAddress} (h : AddressBits w address) :
    Loads loadAddress w (address.getD TonAddress.null) := by
  cases h with
  | none => exact (loads_loadUint (by omega : 0 < 2 ^ 2)).bind (Loads.pure _)
  | @std address hworkchain hhash =>
    refine (loads_loadUint (by omega : 2 < 2 ^ 2)).bind ?_
    refine (loads_loadUint (by omega : 0 < 2 ^ 1)).bind ((loads_loadUint hworkchain).bind ?_)
    have hload := (loads_loadBytes address.hashPart).map fun hashPart =>
      TonAddress.mk address.workchain hashPart
    rw [hhash] at hload
    exact hload

/-- The bits of a cell, with what fills its last byte behind them. -/
def Cell.HasBits (cell : Cell) (w : List Bool) : Prop :=
  cell.bitLen = w.length ∧ ∃ padding, padding.length ≤ 8 ∧ cell.data.flatMap bitsOf = w ++ padding

theorem load_of_hasBits {α : Type} {cell : Cell} {w rest : List Bool} {load : Load α} {a : α}
    (hcell : cell.HasBits (w ++ rest)) (h : Loads load w a) :
    ∃ padding, load cell.parser = .ok (a, ⟨rest ++ padding, rest.length⟩) := by
  obtain ⟨hlength, padding, -, hdata⟩ := hcell
  refine ⟨padding, ?_⟩
  rw [Cell.parser, hdata, hlength, List.length_append, List.append_assoc]
  exact h _ _

end Keystone3.Ton
