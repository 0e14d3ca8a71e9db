import Mathlib.Data.List.Basic

/-!
# Data in pieces

A buffer is filled from its beginning, one field after another (`Filled.write`). The
data is cut into pieces of one size, the last of which may be shorter (`piece`); one
behind the other they are the data (`flatten_pieces`).
-/

namespace Keystone3.Bytes

variable {α : Type}

def writeAt (buffer : List α) (offset : Nat) (xs : List α) : List α :=
  buffer.take offset ++ xs ++ buffer.drop (offset + xs.length)

theorem length_writeAt {buffer xs : List α} {offset : Nat}
    (h : offset + xs.length ≤ buffer.length) :
    (writeAt buffer offset xs).length = buffer.length := by
  simp only [writeAt, List.length_append, List.length_take, List.length_drop]
  omega

theorem take_writeAt {buffer xs : List α} {offset : Nat} (h : offset ≤ buffer.length) :
    (writeAt buffer offset xs).take (offset + xs.length) = buffer.take offset ++ xs := by
  have hlength : (buffer.take offset ++ xs).length = offset + xs.length := by
    rw [List.length_append, List.length_take, Nat.min_eq_left h]
  rw [writeAt, ← hlength, List.take_left]

structure Filled (buffer : List α) (size : Nat) (xs : List α) : Prop where
  length : buffer.length = size
  front : buffer.take xs.length = xs

theorem filled_nil {buffer : List α} {size : Nat} (h : buffer.length = size) :
    Filled buffer size [] := ⟨h, rfl⟩

theorem Filled.write {buffer xs : List α} {size : Nat} (h : Filled buffer size xs) (offset : Nat)
    (ys : List α) (hoffset : offset = xs.length) (hfits : xs.length + ys.length ≤ size) :
    Filled (writeAt buffer offset ys) size (xs ++ ys) := by
  have hlength := h.length
  rw [hoffset]
  refine ⟨(length_writeAt (by omega)).trans hlength, ?_⟩
  rw [List.length_append, take_writeAt (by omega), h.front]

def piece (size : Nat) (xs : List α) (i : Nat) : List α := (xs.drop (size * i)).take size

def pieceCount (size : Nat) (xs : List α) : Nat := (xs.length + size - 1) / size

def pieces (size : Nat) (xs : List α) : List (List α) :=
  (List.range (pieceCount size xs)).map (piece size xs)

theorem length_piece (size : Nat) (xs : List α) (i : Nat) :
    (piece size xs i).length = min size (xs.length - size * i) := by
  rw [piece, List.length_take, List.length_drop]

theorem length_piece_le (size : Nat) (xs : List α) (i : Nat) : (piece size xs i).length ≤ size := by
  rw [length_piece]
  exact Nat.min_le_left _ _

theorem flatten_map_piece (size : Nat) (xs : List α) (count : Nat) :
    ((List.range count).map (piece size xs)).flatten = xs.take (size * count) := by
  induction count with
  | zero => simp
  | succ count ih =>
    rw [List.range_succ, List.map_append, List.flatten_append, ih, Nat.mul_succ, List.take_add]
    simp [piece]

theorem pieceCount_le_iff {size : Nat} (hsize : 0 < size) (xs : List α) (i : Nat) :
    pieceCount size xs ≤ i ↔ xs.length ≤ size * i := by
  rw [pieceCount, ← Nat.lt_succ_iff, Nat.div_lt_iff_lt_mul hsize, Nat.succ_mul, Nat.mul_comm i]
  omega

theorem flatten_pieces {size : Nat} (hsize : 0 < size) (xs : List α) :
    (pieces size xs).flatten = xs := by
  rw [pieces, flatten_map_piece]
  exact List.take_of_length_le ((pieceCount_le_iff hsize xs _).mp (Nat.le_refl _))

end Keystone3.Bytes
