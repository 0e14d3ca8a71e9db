import Keystone3.Bytes.Demand

/-!
# Recursive length prefixes, one level deep

Strings of bytes and lists of them. A string of one small byte is that byte; every other
one, and the strings of a list, stand behind a header with their length, which is
written behind the header's byte if it is large.

`decodeList` reads a list of strings or lists. What is written is read again
(`decodeList_list`), so a list of strings can be written in one way only.
-/

namespace Keystone3.Bytes.Rlp

open Logic (Outcome)
open Reader (Reads byte take)
open Logic.Outcome (ok_bind returns_error returns_ok stays_pure)
open Reader (bind_apply reads_take stays_take)

/-- A number of at most `n` bytes, without the zeros in front. -/
def minimal (n value : Nat) : List UInt8 := (be n value).dropWhile (· == 0)

theorem head_minimal (n value : Nat) : (minimal n value).head? ≠ some 0 := by
  intro h
  have hnot := List.head?_dropWhile_not (fun b : UInt8 => b == 0) (be n value)
  rw [minimal] at h
  rw [h] at hnot
  cases hnot

theorem length_minimal_le (n value : Nat) : (minimal n value).length ≤ n := by
  have hle := (List.dropWhile_sublist (l := be n value) fun b => b == 0).length_le
  rwa [length_be] at hle

variable (s : List UInt8)

theorem ofLe_append_zero : ofLe (s ++ [0]) = ofLe s := by
  induction s with
  | nil => rfl
  | cons b s ih => rw [List.cons_append, ofLe, ofLe, ih]

theorem ofBe_zero_cons : ofBe (0 :: s) = ofBe s := by
  rw [ofBe, List.reverse_cons, ofLe_append_zero, ofBe]

theorem ofBe_dropWhile : ofBe (s.dropWhile (· == 0)) = ofBe s := by
  induction s with
  | nil => rfl
  | cons b s ih =>
    by_cases hzero : b = 0
    · subst hzero
      rw [List.dropWhile_cons_of_pos rfl, ih, ofBe_zero_cons]
    · rw [List.dropWhile_cons_of_neg (by simpa using hzero)]

theorem ofBe_minimal {n value : Nat} (h : value < 256 ^ n) : ofBe (minimal n value) = value := by
  rw [minimal, ofBe_dropWhile, ofBe_be h]

def header (kind n : Nat) : List UInt8 :=
  if n < 56 then [UInt8.ofNat (kind + n)]
  else UInt8.ofNat (kind + 55 + (minimal 8 n).length) :: minimal 8 n

def string : List UInt8 → List UInt8
  | [b] => if b < 0x80 then [b] else [0x81, b]
  | s => header 0x80 s.length ++ s

def list (strings : List (List UInt8)) : List UInt8 :=
  header 0xC0 (strings.flatMap string).length ++ strings.flatMap string

inductive Item where
  | data (bytes : List UInt8)
  | list (payload : List UInt8)

variable {ε : Type} (e : ε)

/-- The rest of a length, of which a header's byte says `k`. -/
def readLength (k : Nat) : Reader ε Nat :=
  if k < 56 then pure k
  else do
    let bytes ← take (some e) (k - 55)
    if bytes.head? = some 0 ∨ ofBe bytes < 56 then Reader.lift (.error e) else pure (ofBe bytes)

def readString (k : Nat) : Reader ε Item := do
  let n ← readLength e k
  let bytes ← take (some e) n
  if bytes.length = 1 ∧ bytes.all (· < 0x80) = true then Reader.lift (.error e) else pure (.data bytes)

def readList (k : Nat) : Reader ε Item := do
  let n ← readLength e k
  let payload ← take (some e) n
  pure (.list payload)

def item : Reader ε Item := do
  let first ← byte (some e)
  if first.toNat < 0x80 then pure (.data [first])
  else if first.toNat < 0xC0 then readString e (first.toNat - 0x80)
  else readList e (first.toNat - 0xC0)

def items : Nat → List UInt8 → Outcome ε (List Item)
  | _, [] => .ok []
  | 0, _ => .error e
  | fuel + 1, s => do
    let r ← item e s
    let rest ← items fuel r.2
    pure (r.1 :: rest)

def decodeList (s : List UInt8) : Outcome ε (List Item) := do
  let r ← item e s
  match r.1 with
  | .data _ => .error e
  | .list payload => items e payload.length payload

section

open Logic.Outcome (Returns Stays)

theorem stays_readLength (k : Nat) : Stays (readLength e k) := by
  refine Stays.ite (fun _ => stays_pure k) fun _ => ?_
  refine (stays_take _).bind fun bytes => Stays.ite (fun _ => ?_) fun _ => ?_
  · exact Reader.stays_lift (returns_error e)
  · exact stays_pure _

theorem stays_readString (k : Nat) : Stays (readString e k) := by
  refine (stays_readLength e k).bind fun n => (stays_take n).bind fun bytes => ?_
  refine Stays.ite (fun _ => ?_) fun _ => stays_pure _
  exact Reader.stays_lift (returns_error e)

theorem stays_item : Stays (item e) := by
  refine Reader.stays_byte.bind fun first => ?_
  refine Stays.ite (fun _ => stays_pure _) fun _ => ?_
  refine Stays.ite (fun _ => stays_readString e _) fun _ => ?_
  refine (stays_readLength e _).bind fun n => (stays_take n).bind fun payload => ?_
  exact stays_pure _

theorem returns_items (fuel : Nat) (s : List UInt8) : Returns (items e fuel s) := by
  induction fuel generalizing s with
  | zero =>
    cases s with
    | nil => exact returns_ok []
    | cons b s => exact returns_error e
  | succ fuel ih =>
    cases s with
    | nil => exact returns_ok []
    | cons b s =>
      exact (stays_item e _).bind fun r _ => (ih r.2).bind fun rest _ => returns_ok _

theorem returns_decodeList (s : List UInt8) : Returns (decodeList e s) := by
  refine (stays_item e s).bind fun r _ => ?_
  obtain ⟨item, rest⟩ := r
  cases item with
  | data bytes => exact returns_error e
  | list payload => exact returns_items e _ payload

end

theorem header_eq (kind : Nat) {n : Nat} (hkind : kind ≤ 0xC0) (hn : n < 2 ^ 64) : ∃ k w,
    k < 64 ∧ header kind n = UInt8.ofNat (kind + k) :: w ∧ (UInt8.ofNat (kind + k)).toNat = kind + k
      ∧ Reads (readLength e k) w n := by
  unfold header
  by_cases hsmall : n < 56
  · refine ⟨n, [], by omega, if_pos hsmall, ?_, ?_⟩
    · exact UInt8.toNat_ofNat_of_lt' (show _ < 256 by omega)
    · rw [readLength, if_pos hsmall]
      exact Reads.pure n
  · have hvalue : ofBe (minimal 8 n) = n := ofBe_minimal hn
    have hlength := length_minimal_le 8 n
    have hpos : 0 < (minimal 8 n).length := by
      rw [List.length_pos_iff]
      intro hnil
      rw [hnil] at hvalue
      exact hsmall (hvalue ▸ by decide)
    refine ⟨55 + (minimal 8 n).length, minimal 8 n, by omega, ?_, ?_, ?_⟩
    · rw [if_neg hsmall, Nat.add_assoc]
    · exact UInt8.toNat_ofNat_of_lt' (show _ < 256 by omega)
    · have hcanonical : ¬((minimal 8 n).head? = some 0 ∨ ofBe (minimal 8 n) < 56) := by
        rw [hvalue]
        intro h
        rcases h with hzero | h56
        · exact head_minimal 8 n hzero
        · exact hsmall h56
      rw [readLength, if_neg (by omega), Nat.add_sub_cancel_left]
      intro rest
      rw [bind_apply, reads_take, ok_bind, if_neg hcanonical, hvalue]
      rfl

theorem string_small {b : UInt8} (h : b < 0x80) : string [b] = [b] := if_pos h

theorem string_of_not_small {s : List UInt8} (h : ¬(s.length = 1 ∧ ∀ b ∈ s, b < 0x80)) :
    string s = header 0x80 s.length ++ s := by
  cases s with
  | nil => rfl
  | cons b s =>
    cases s with
    | nil =>
      have hlarge : ¬b < 0x80 := by
        intro hb
        exact h ⟨rfl, fun c hc => List.mem_singleton.mp hc ▸ hb⟩
      exact if_neg hlarge
    | cons c s => rfl

theorem reads_string {s : List UInt8} (hs : s.length < 2 ^ 64) :
    Reads (item e) (string s) (.data s) := by
  by_cases hsmall : s.length = 1 ∧ ∀ b ∈ s, b < 0x80
  · obtain ⟨b, rfl⟩ := List.length_eq_one_iff.mp hsmall.1
    have hb : b < 0x80 := hsmall.2 b (.head _)
    have hsmallNat : b.toNat < 0x80 := UInt8.lt_iff_toNat_lt.mp hb
    intro rest
    rw [string_small hb, item, bind_apply, Reader.reads_byte, ok_bind, if_pos hsmallNat]
    rfl
  · obtain ⟨k, w, hk, hheader, hfirst, hread⟩ := header_eq e 0x80 (by decide) hs
    have hlarge : ¬(s.length = 1 ∧ s.all (· < 0x80) = true) := by
      intro h
      refine hsmall ⟨h.1, ?_⟩
      intro b hb
      exact of_decide_eq_true (List.all_eq_true.mp h.2 b hb)
    intro rest
    rw [string_of_not_small hsmall, hheader, List.append_assoc, List.cons_append, item,
      bind_apply, byte, ok_bind, hfirst, if_neg (by omega), if_pos (by omega),
      Nat.add_sub_cancel_left, readString, bind_apply, hread, ok_bind,
      bind_apply, reads_take, ok_bind, if_neg hlarge]
    rfl

theorem reads_list {strings : List (List UInt8)} (h : (strings.flatMap string).length < 2 ^ 64) :
    Reads (item e) (list strings) (.list (strings.flatMap string)) := by
  obtain ⟨k, w, hk, hheader, hfirst, hread⟩ := header_eq e 0xC0 (by decide) h
  intro rest
  rw [list, hheader, List.append_assoc, List.cons_append, item, bind_apply, byte,
    ok_bind, hfirst, if_neg (by omega), if_neg (by omega), Nat.add_sub_cancel_left,
    readList, bind_apply, hread, ok_bind, bind_apply, reads_take,
    ok_bind]
  rfl

theorem string_ne_nil : string s ≠ [] := by
  by_cases hsmall : s.length = 1 ∧ ∀ b ∈ s, b < 0x80
  · obtain ⟨b, rfl⟩ := List.length_eq_one_iff.mp hsmall.1
    rw [string_small (hsmall.2 b (.head _))]
    exact List.cons_ne_nil b []
  · rw [string_of_not_small hsmall, header]
    split <;> exact nofun

theorem length_header_le (kind n : Nat) : (header kind n).length ≤ 9 := by
  have hle := length_minimal_le 8 n
  unfold header
  split
  · exact Nat.le_add_left 1 8
  · exact Nat.succ_le_succ hle

theorem length_string_le : (string s).length ≤ s.length + 9 := by
  by_cases hsmall : s.length = 1 ∧ ∀ b ∈ s, b < 0x80
  · obtain ⟨b, rfl⟩ := List.length_eq_one_iff.mp hsmall.1
    rw [string_small (hsmall.2 b (.head _))]
    exact Nat.le_add_right _ _
  · have hle := length_header_le 0x80 s.length
    rw [string_of_not_small hsmall, List.length_append]
    omega

theorem length_le_string : s.length ≤ (string s).length := by
  by_cases hsmall : s.length = 1 ∧ ∀ b ∈ s, b < 0x80
  · rw [hsmall.1]
    exact List.length_pos_iff.mpr (string_ne_nil s)
  · rw [string_of_not_small hsmall, List.length_append]
    exact Nat.le_add_left _ _

theorem items_flatMap {strings : List (List UInt8)}
    (h : (strings.flatMap string).length < 2 ^ 64) : ∀ fuel, strings.length ≤ fuel →
      items e fuel (strings.flatMap string) = .ok (strings.map .data) := by
  induction strings with
  | nil =>
    intro fuel _
    cases fuel <;> rfl
  | cons s strings ih =>
    intro fuel hfuel
    rw [List.flatMap_cons, List.length_append] at h
    have hle := length_le_string s
    cases fuel with
    | zero => cases hfuel
    | succ fuel =>
      have hread := reads_string e (s := s) (by omega) (strings.flatMap string)
      have hrest := ih (by omega) fuel (Nat.le_of_succ_le_succ hfuel)
      -- there are bytes to read
      obtain ⟨b, w, hcons⟩ : ∃ b w, (s :: strings).flatMap string = b :: w := by
        rw [List.flatMap_cons]
        exact List.ne_nil_iff_exists_cons.mp (List.append_ne_nil_of_left_ne_nil (string_ne_nil s) _)
      rw [List.flatMap_cons] at hcons ⊢
      rw [hcons] at hread ⊢
      show (item e (b :: w) >>= fun r => items e fuel r.2 >>= fun rest => pure (r.1 :: rest)) = _
      rw [hread, ok_bind]
      show (items e fuel (strings.flatMap string) >>= fun rest => pure (Item.data s :: rest)) = _
      rw [hrest]
      rfl

theorem length_le_flatMap (strings : List (List UInt8)) :
    strings.length ≤ (strings.flatMap string).length := by
  induction strings with
  | nil => exact Nat.le_refl 0
  | cons s strings ih =>
    have hpos := List.length_pos_iff.mpr (string_ne_nil s)
    rw [List.flatMap_cons, List.length_append, List.length_cons]
    omega

theorem decodeList_list {strings : List (List UInt8)}
    (h : (strings.flatMap string).length < 2 ^ 64) :
    decodeList e (list strings) = .ok (strings.map .data) := by
  have hread := reads_list e h []
  rw [List.append_nil] at hread
  rw [decodeList, hread, ok_bind]
  exact items_flatMap e h _ (length_le_flatMap strings)

end Keystone3.Bytes.Rlp
