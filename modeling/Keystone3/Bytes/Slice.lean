import Mathlib.Data.Char

/-!
# Texts cut at a byte

`str` is indexed by its bytes, and cutting it inside a character panics. In a
text of characters of one byte a byte is a character (`slice_eq`).
-/

namespace Keystone3.Bytes

def dropBytes : List Char → Nat → Option (List Char)
  | s, 0 => some s
  | [], _ + 1 => none
  | c :: s, n + 1 => if c.utf8Size ≤ n + 1 then dropBytes s (n + 1 - c.utf8Size) else none

def takeBytes : List Char → Nat → Option (List Char)
  | _, 0 => some []
  | [], _ + 1 => none
  | c :: s, n + 1 =>
    if c.utf8Size ≤ n + 1 then (takeBytes s (n + 1 - c.utf8Size)).map (c :: ·) else none

/-- `&s[start..stop]`, with nothing for a panic. -/
def slice (s : List Char) (start stop : Nat) : Option (List Char) :=
  if start ≤ stop then (dropBytes s start).bind (takeBytes · (stop - start)) else none

section

variable {s : List Char} (h : ∀ c ∈ s, c.utf8Size = 1)

include h

theorem dropBytes_eq {n : Nat} (hn : n ≤ s.length) : dropBytes s n = some (s.drop n) := by
  induction s generalizing n with
  | nil =>
    cases Nat.le_zero.mp hn
    rfl
  | cons c s ih =>
    obtain ⟨hc, hs⟩ := List.forall_mem_cons.mp h
    cases n with
    | zero => rfl
    | succ n =>
      rw [dropBytes, hc, if_pos (by omega), Nat.add_sub_cancel, List.drop_succ_cons]
      exact ih hs (Nat.le_of_succ_le_succ hn)

theorem takeBytes_eq {n : Nat} (hn : n ≤ s.length) : takeBytes s n = some (s.take n) := by
  induction s generalizing n with
  | nil =>
    cases Nat.le_zero.mp hn
    rfl
  | cons c s ih =>
    obtain ⟨hc, hs⟩ := List.forall_mem_cons.mp h
    cases n with
    | zero => rfl
    | succ n =>
      rw [takeBytes, hc, if_pos (by omega), Nat.add_sub_cancel, ih hs (Nat.le_of_succ_le_succ hn),
        Option.map_some, List.take_succ_cons]

theorem slice_eq {start stop : Nat} (hstart : start ≤ stop) (hstop : stop ≤ s.length) :
    slice s start stop = some ((s.drop start).take (stop - start)) := by
  rw [slice, if_pos hstart, dropBytes_eq h (by omega), Option.bind_some]
  refine takeBytes_eq (fun c hc => h c (List.mem_of_mem_drop hc)) ?_
  rw [List.length_drop]
  omega

end

end Keystone3.Bytes
