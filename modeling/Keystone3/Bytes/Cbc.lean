import Keystone3.Bytes.Block

/-!
# Cipher block chaining, over several calls

A CBC context carries the last cipher block from one call to the next, so that a message
handed over in parts is enciphered as if it were one. Here the block cipher is any pair
of maps with `decrypt (encrypt b) = b`; the context is the chaining block, and a call
takes it in and hands it on.
-/

namespace Keystone3.Bytes.Cbc

open Block

abbrev blockSize : Nat := 16

abbrev Cell : Type := Block blockSize

structure Cipher where
  encrypt : Cell → Cell
  decrypt : Cell → Cell
  decrypt_encrypt : ∀ b, decrypt (encrypt b) = b

def Cipher.plain : Cipher where
  encrypt := id
  decrypt := id
  decrypt_encrypt := fun _ => rfl

variable (c : Cipher)

/-- Encipher `n` blocks: the cipher text and the chaining block left. -/
def encryptBlocks : (n : Nat) → Cell → Block (blockSize * n) → Block (blockSize * n) × Cell
  | 0, iv, x => (x, iv)
  | n + 1, iv, x =>
    let r := encryptBlocks n iv (front (m := blockSize * n) (n := blockSize) x)
    let b := c.encrypt (xor (back (m := blockSize * n) (n := blockSize) x) r.2)
    (append r.1 b, b)

/-- Decipher `n` blocks: the text and the chaining block left. -/
def decryptBlocks : (n : Nat) → Cell → Block (blockSize * n) → Block (blockSize * n) × Cell
  | 0, iv, x => (x, iv)
  | n + 1, iv, x =>
    let r := decryptBlocks n iv (front (m := blockSize * n) (n := blockSize) x)
    let b := back (m := blockSize * n) (n := blockSize) x
    (append r.1 (xor (c.decrypt b) r.2), b)

theorem decryptBlocks_encryptBlocks :
    ∀ (n : Nat) (iv : Cell) (x : Block (blockSize * n)),
      decryptBlocks c n iv (encryptBlocks c n iv x).1 = (x, (encryptBlocks c n iv x).2)
  | 0, _, _ => rfl
  | n + 1, iv, x => by
    have ih := decryptBlocks_encryptBlocks n iv (front (m := blockSize * n) (n := blockSize) x)
    unfold encryptBlocks decryptBlocks
    simp only [front_append, back_append, ih, c.decrypt_encrypt, xor_xor_cancel_right]
    exact Prod.ext (append_front_back (m := blockSize * n) (n := blockSize) x) rfl

/-- **Round trip.** Deciphering undoes enciphering under the same context. -/
theorem decrypt_encrypt (n : Nat) (iv : Cell) (x : Block (blockSize * n)) :
    (decryptBlocks c n iv (encryptBlocks c n iv x).1).1 = x := by
  rw [decryptBlocks_encryptBlocks]

/-- Encipher `n` blocks, each by itself. -/
def encryptEach : (n : Nat) → Block (blockSize * n) → Block (blockSize * n)
  | 0, x => x
  | n + 1, x =>
    append (encryptEach n (front (m := blockSize * n) (n := blockSize) x))
      (c.encrypt (back (m := blockSize * n) (n := blockSize) x))

/-- Decipher `n` blocks, each by itself. -/
def decryptEach : (n : Nat) → Block (blockSize * n) → Block (blockSize * n)
  | 0, x => x
  | n + 1, x =>
    append (decryptEach n (front (m := blockSize * n) (n := blockSize) x))
      (c.decrypt (back (m := blockSize * n) (n := blockSize) x))

theorem decryptEach_encryptEach :
    ∀ (n : Nat) (x : Block (blockSize * n)), decryptEach c n (encryptEach c n x) = x
  | 0, _ => rfl
  | n + 1, x => by
    have ih := decryptEach_encryptEach n (front (m := blockSize * n) (n := blockSize) x)
    unfold encryptEach decryptEach
    simp only [front_append, back_append, ih, c.decrypt_encrypt]
    exact append_front_back (m := blockSize * n) (n := blockSize) x

def padding : Cell := fill blockSize 16

/-- A text without its padding; `none` if there is none. -/
def unpad (bs : List UInt8) : Option (List UInt8) :=
  match bs.getLast? with
  | none => none
  | some p =>
    if 0 < p.toNat ∧ p.toNat ≤ blockSize ∧ (bs.drop (bs.length - p.toNat)).all (· == p) then
      some (bs.take (bs.length - p.toNat))
    else none

/-- Encipher `n` blocks and their padding. -/
def encryptPadded (n : Nat) (iv : Cell) (x : Block (blockSize * n)) : Block (blockSize * (n + 1)) :=
  (encryptBlocks c (n + 1) iv (append x padding)).1

/-- Decipher `n` blocks, the last of them padded. -/
def decryptPadded (n : Nat) (iv : Cell) (x : Block (blockSize * n)) : Option (List UInt8) :=
  unpad (decryptBlocks c n iv x).1.bytes

theorem unpad_padding (bs : List UInt8) : unpad (bs ++ padding.bytes) = some bs := by
  have hlast : (bs ++ padding.bytes).getLast? = some 16 := by
    rw [List.getLast?_append]
    rfl
  have hlen : (bs ++ padding.bytes).length - (16 : UInt8).toNat = bs.length := by
    rw [List.length_append, padding.size_eq]
    exact Nat.add_sub_cancel bs.length 16
  unfold unpad
  rw [hlast]
  dsimp only
  rw [hlen, List.drop_left, List.take_left]
  exact if_pos (by decide)

theorem decryptPadded_encryptPadded (n : Nat) (iv : Cell) (x : Block (blockSize * n)) :
    decryptPadded c (n + 1) iv (encryptPadded c n iv x) = some x.bytes := by
  unfold decryptPadded encryptPadded
  rw [decrypt_encrypt]
  exact unpad_padding x.bytes

end Keystone3.Bytes.Cbc
