import Mathlib.Data.Nat.Bitwise
import Mathlib.Tactic.Ring
import Keystone3.Bytes.Digits

/-!
# Bytes as 10-bit words

The value of a share is written in words of ten bits. The bottom bit of the last byte is
the bottom bit of the last word; what is left over stands in front, as zero bits of the
first word, and when there are eight of them the reader cannot tell them from a byte and
drops them (`discardTopZeros`).
-/

namespace Keystone3.Slip39

open Bytes
open List (length_cons length_map length_nil)
open Nat (pow_add pow_mul)

def radixBits : Nat := 10

def metadataLengthWords : Nat := 7

/-- The error codes of `slip39.h` that are returned. -/
def slip39InvalidMnemonicChecksum : Int := -2
def slip39InvalidGroupThreshold : Int := -4
def slip39InsufficientSpace : Int := -6
def slip39InvalidSecretLength : Int := -7
def slip39InvalidMemberThreshold : Int := -13
def slip39InvalidPadding : Int := -14

def slip39WordCountForBytes (bytes : Nat) : Nat := (bytes * 8 + radixBits - 1) / radixBits

def slip39ByteCountForWords (words : Nat) : Nat := words * radixBits / 8

/-- The inner loop: bytes are shifted into the register until it has a word.
Two rounds always do, as each adds eight bits. -/
def refill : Nat → List UInt8 → Nat → Nat → List UInt8 × Nat × Nat
  | 0, buffer, bits, i => (buffer, bits, i)
  | rounds + 1, buffer, bits, i =>
    if bits < 10 then
      match buffer with
      | [] => refill rounds [] (bits + 8) ((i <<< 8) % 65536)
      | b :: buffer => refill rounds buffer (bits + 8) ((i <<< 8) % 65536 ||| b.toNat)
    else (buffer, bits, i)

/-- The outer loop, with room for `max` words. -/
def wordsLoop : Nat → List UInt8 → Nat → Nat → List Nat
  | 0, _, _, _ => []
  | max + 1, buffer, bits, i =>
    if buffer = [] then []
    else
      let r := refill 2 buffer bits i
      (r.2.2 >>> (r.2.1 - 10))
        :: wordsLoop max r.1 (r.2.1 - 10) (r.2.2 &&& ((1 <<< (r.2.1 - 10)) - 1))

/-- `slip39_words_for_data`; `none` is the answer `-1`. -/
def slip39WordsForData (buffer : List UInt8) (max : Nat) : Option (List Nat) :=
  if max < slip39WordCountForBytes buffer.length then none
  else some (wordsLoop max buffer (buffer.length % 5 * 2) 0)

def pending (buffer : List UInt8) (i : Nat) : Nat :=
  i * 256 ^ buffer.length + value 256 (buffer.map UInt8.toNat)

theorem push_byte {bits i : Nat} (hi : i < 2 ^ bits) (hbits : bits ≤ 8) (b : UInt8) :
    (i <<< 8) % 65536 ||| b.toNat = i * 256 + b.toNat
      ∧ (i <<< 8) % 65536 ||| b.toNat < 2 ^ (bits + 8) := by
  have hb : b.toNat < 2 ^ 8 := b.toNat_lt
  have hi8 : i < 2 ^ 8 := lt_of_lt_of_le hi (Nat.pow_le_pow_right (by decide) hbits)
  have hsmall : (i <<< 8) % 65536 = i <<< 8 := by
    rw [Nat.shiftLeft_eq]
    omega
  have hor : (i <<< 8) % 65536 ||| b.toNat = i * 256 + b.toNat := by
    rw [hsmall, ← Nat.shiftLeft_add_eq_or_of_lt hb, Nat.shiftLeft_eq]
  refine ⟨hor, ?_⟩
  rw [hor, pow_add]
  omega

theorem pending_push (buffer : List UInt8) (i : Nat) (b : UInt8) :
    pending buffer (i * 256 + b.toNat) = pending (b :: buffer) i := by
  rw [pending, pending, List.map_cons, value_cons, length_map, length_cons]
  ring

theorem refill_spec (rounds : Nat) (buffer : List UInt8) (bits i : Nat) (hi : i < 2 ^ bits)
    (heven : bits % 2 = 0) (htop : bits ≤ 16) (hrounds : 10 ≤ bits + 8 * rounds)
    (henough : 10 ≤ bits + 8 * buffer.length) :
    let r := refill rounds buffer bits i
    r.2.2 < 2 ^ r.2.1 ∧ r.2.1 % 2 = 0 ∧ r.2.1 ≤ 16 ∧ 10 ≤ r.2.1
      ∧ r.2.1 + 8 * r.1.length = bits + 8 * buffer.length
      ∧ pending r.1 r.2.2 = pending buffer i := by
  induction rounds generalizing buffer bits i with
  | zero => exact ⟨hi, heven, htop, hrounds, rfl, rfl⟩
  | succ rounds ih =>
    cases buffer with
    | nil =>
      rw [length_nil] at henough
      rw [refill, if_neg (by omega)]
      exact ⟨hi, heven, htop, by omega, rfl, rfl⟩
    | cons b buffer =>
      rw [length_cons] at henough
      by_cases hbits : bits < 10
      · obtain ⟨hpush, hlt⟩ := push_byte hi (by omega) b
        obtain ⟨h1, h2, h3, h4, h5, h6⟩ :=
          ih buffer (bits + 8) _ hlt (by omega) (by omega) (by omega) (by omega)
        rw [refill, if_pos hbits]
        exact ⟨h1, h2, h3, h4, by rw [h5, length_cons]; omega,
          by rw [h6, hpush, pending_push]⟩
      · rw [refill, if_neg hbits]
        exact ⟨hi, heven, htop, Nat.not_lt.mp hbits, rfl, rfl⟩

theorem split_word {bits i : Nat} (hi : i < 2 ^ (10 + bits)) :
    i >>> bits < 1024 ∧ i &&& ((1 <<< bits) - 1) < 2 ^ bits
      ∧ i = (i >>> bits) * 2 ^ bits + (i &&& ((1 <<< bits) - 1)) := by
  rw [Nat.one_shiftLeft, Nat.and_two_pow_sub_one_eq_mod, Nat.shiftRight_eq_div_pow]
  refine ⟨Nat.div_lt_of_lt_mul ?_, Nat.mod_lt _ (Nat.two_pow_pos bits), ?_⟩
  · rw [Nat.add_comm, pow_add] at hi
    exact hi
  · rw [Nat.mul_comm]
    exact (Nat.div_add_mod i (2 ^ bits)).symm

theorem value_wordsLoop (max : Nat) (buffer : List UInt8) (bits i n : Nat) (hi : i < 2 ^ bits)
    (heven : bits % 2 = 0) (htop : bits ≤ 8) (hn : bits + 8 * buffer.length = 10 * n)
    (hmax : n ≤ max) :
    (wordsLoop max buffer bits i).length = n
      ∧ (∀ w ∈ wordsLoop max buffer bits i, w < 1024)
      ∧ value 1024 (wordsLoop max buffer bits i) = pending buffer i := by
  induction max generalizing buffer bits i n with
  | zero =>
    have hb : buffer = [] := List.length_eq_zero_iff.mp (by omega)
    have hbits : bits = 0 := by omega
    subst hb hbits
    have : i = 0 := by omega
    subst this
    exact ⟨by simp only [wordsLoop, length_nil]; omega, by simp [wordsLoop], rfl⟩
  | succ max ih =>
    rw [wordsLoop]
    by_cases hb : buffer = []
    · subst hb
      rw [length_nil] at hn
      have hbits : bits = 0 := by omega
      subst hbits
      have : i = 0 := by omega
      subst this
      exact ⟨by simp only [if_true, length_nil]; omega, by simp, rfl⟩
    · have hpos := List.length_pos_iff.mpr hb
      rw [if_neg hb]
      obtain ⟨h1, h2, h3, h4, h5, h6⟩ :=
        refill_spec 2 buffer bits i hi heven (by omega) (by omega) (by omega)
      generalize refill 2 buffer bits i = r at h1 h2 h3 h4 h5 h6
      obtain ⟨buffer', bits', i'⟩ := r
      simp only at h1 h2 h3 h4 h5 h6 ⊢
      have hsplit := @split_word (bits' - 10) i' (by
        rw [Nat.add_sub_cancel' h4]
        exact h1)
      obtain ⟨hlength, hlt, hvalue⟩ := ih buffer' (bits' - 10) _ (n - 1) hsplit.2.1 (by omega)
        (by omega) (by omega) (by omega)
      refine ⟨by rw [length_cons, hlength]; omega, ?_, ?_⟩
      · intro w hw
        rcases List.mem_cons.mp hw with rfl | hw
        · exact hsplit.1
        · exact hlt w hw
      · rw [value_cons, hvalue, hlength, ← h6]
        have hplace : 1024 ^ (n - 1) = 2 ^ (bits' - 10) * 256 ^ buffer'.length := by
          rw [show 1024 = 2 ^ 10 from rfl, show 256 = 2 ^ 8 from rfl, ← pow_mul, ← pow_mul,
            ← pow_add]
          congr 1
          omega
        rw [hplace, pending, pending]
        conv_rhs => rw [hsplit.2.2]
        ring

/-- The inner loop: whole bytes leave the register while there is room. What
comes back is the bytes, the room, and the register. -/
def drain : Nat → Int → Nat → List UInt8 × Nat × Int × Nat
  | 0, bits, i => ([], 0, bits, i)
  | room + 1, bits, i =>
    if 8 ≤ bits then
      let r := drain room (bits - 8) (i &&& ((1 <<< (bits - 8).toNat) - 1))
      (UInt8.ofNat (i >>> (bits - 8).toNat) :: r.1, r.2)
    else ([], room + 1, bits, i)

def dataLoop : List Nat → Nat → Int → Nat → Bool → List UInt8
  | [], _, _, _, _ => []
  | word :: words, room, bits, i, discardTopZeros =>
    if room = 0 then []
    else
      let i := ((i <<< 10) ||| word) % 65536
      let drop := discardTopZeros && i &&& 1020 == 0
      let r := drain room (if drop then bits + 10 - 8 else bits + 10) i
      r.1 ++ dataLoop words r.2.1 r.2.2.1 r.2.2.2 (discardTopZeros && !drop)

theorem drain_spec (room bits i : Nat) (hi : i < 2 ^ bits) :
    let r := drain room bits i
    ∃ rest : Nat, r.2.2.1 = rest ∧ r.2.2.2 < 2 ^ rest ∧ bits = 8 * r.1.length + rest
      ∧ room = r.1.length + r.2.1 ∧ (rest < 8 ∨ r.2.1 = 0)
      ∧ i = value 256 (r.1.map UInt8.toNat) * 2 ^ rest + r.2.2.2 := by
  induction room generalizing bits i with
  | zero => exact ⟨bits, rfl, hi, by simp [drain], rfl, .inr rfl, by simp [drain]⟩
  | succ room ih =>
    by_cases hbits : 8 ≤ bits
    · have hnext : (bits : Int) - 8 = (bits - 8 : Nat) := by omega
      obtain ⟨hbyte, hlow, hsplit⟩ : i >>> (bits - 8) < 256
          ∧ i &&& ((1 <<< (bits - 8)) - 1) < 2 ^ (bits - 8)
          ∧ i = (i >>> (bits - 8)) * 2 ^ (bits - 8) + (i &&& ((1 <<< (bits - 8)) - 1)) := by
        rw [Nat.one_shiftLeft, Nat.and_two_pow_sub_one_eq_mod, Nat.shiftRight_eq_div_pow]
        refine ⟨Nat.div_lt_of_lt_mul ?_, Nat.mod_lt _ (Nat.two_pow_pos _), ?_⟩
        · rw [show 256 = 2 ^ 8 from rfl, ← pow_add, Nat.sub_add_cancel hbits]
          exact hi
        · rw [Nat.mul_comm]
          exact (Nat.div_add_mod i _).symm
      obtain ⟨rest, h1, h2, h3, h4, h5, h6⟩ := ih (bits - 8) _ hlow
      have hdrain : drain (room + 1) bits i =
          (UInt8.ofNat (i >>> (bits - 8))
            :: (drain room (bits - 8 : Nat) (i &&& ((1 <<< (bits - 8)) - 1))).1,
          (drain room (bits - 8 : Nat) (i &&& ((1 <<< (bits - 8)) - 1))).2) := by
        rw [drain, if_pos (by omega), hnext, Int.toNat_natCast]
      rw [hdrain]
      generalize drain room (bits - 8 : Nat) (i &&& ((1 <<< (bits - 8)) - 1)) = r
        at h1 h2 h3 h4 h5 h6
      obtain ⟨out, room', bits', i'⟩ := r
      simp only [length_cons] at h1 h2 h3 h4 h5 h6 ⊢
      refine ⟨rest, h1, h2, by omega, by omega, h5, ?_⟩
      rw [List.map_cons, value_cons, length_map, UInt8.toNat_ofNat_of_lt' hbyte]
      have hplace : 2 ^ (bits - 8) = 256 ^ out.length * 2 ^ rest := by
        rw [show 256 = 2 ^ 8 from rfl, ← pow_mul, ← pow_add, ← h3]
      conv_lhs => rw [hsplit, h6, hplace]
      ring
    · have hdrain : drain (room + 1) bits i = ([], room + 1, (bits : Int), i) := by
        rw [drain, if_neg (by omega)]
      rw [hdrain]
      exact ⟨bits, rfl, hi, by simp, by simp, .inl (by omega), by simp⟩

theorem push_word {bits i w : Nat} (hi : i < 2 ^ bits) (hbits : bits ≤ 6) (hw : w < 1024) :
    ((i <<< 10) ||| w) % 65536 = i * 1024 + w ∧ ((i <<< 10) ||| w) % 65536 < 2 ^ (bits + 10) := by
  have hi6 : i < 2 ^ 6 := lt_of_lt_of_le hi (Nat.pow_le_pow_right (by decide) hbits)
  have hor : (i <<< 10) ||| w = i * 1024 + w := by
    rw [← Nat.shiftLeft_add_eq_or_of_lt hw, Nat.shiftLeft_eq]
  have hsmall : i * 1024 + w < 65536 := by omega
  rw [hor, Nat.mod_eq_of_lt hsmall, pow_add]
  exact ⟨rfl, by omega⟩

/-- **The bytes are the number of the words**, from a register that holds what
was read so far. -/
theorem value_dataLoop (words : List Nat) (room bits i n : Nat) (hi : i < 2 ^ bits)
    (heven : bits % 2 = 0) (hwords : ∀ w ∈ words, w < 1024)
    (hn : bits + 10 * words.length = 8 * n) (hroom : n ≤ room) :
    let r := drain room bits i
    let out := r.1 ++ dataLoop words r.2.1 r.2.2.1 r.2.2.2 false
    out.length = n
      ∧ value 256 (out.map UInt8.toNat) = i * 1024 ^ words.length + value 1024 words := by
  induction words generalizing room bits i n with
  | nil =>
    obtain ⟨rest, h1, h2, h3, h4, h5, h6⟩ := drain_spec room bits i hi
    generalize drain room bits i = r at h1 h2 h3 h4 h5 h6
    rw [length_nil] at hn
    have hrest : rest = 0 := by omega
    subst hrest
    simp only [dataLoop, List.append_nil, length_nil, value_nil]
    refine ⟨by omega, ?_⟩
    have : r.2.2.2 = 0 := by omega
    rw [h6, this]
    ring
  | cons w words ih =>
    obtain ⟨rest, h1, h2, h3, h4, h5, h6⟩ := drain_spec room bits i hi
    generalize drain room bits i = r at h1 h2 h3 h4 h5 h6
    rw [length_cons] at hn
    obtain ⟨hpush, hlt⟩ := push_word h2 (by omega) (hwords w (.head _))
    obtain ⟨hlength, hvalue⟩ := ih r.2.1 (rest + 10) _ (n - r.1.length) hlt (by omega)
      (fun v hv => hwords v (List.mem_cons_of_mem w hv)) (by omega) (by omega)
    have hloop : dataLoop (w :: words) r.2.1 r.2.2.1 r.2.2.2 false
        = (drain r.2.1 (rest + 10 : Nat) (((r.2.2.2 <<< 10) ||| w) % 65536)).1
          ++ dataLoop words (drain r.2.1 (rest + 10 : Nat) (((r.2.2.2 <<< 10) ||| w) % 65536)).2.1
            (drain r.2.1 (rest + 10 : Nat) (((r.2.2.2 <<< 10) ||| w) % 65536)).2.2.1
            (drain r.2.1 (rest + 10 : Nat) (((r.2.2.2 <<< 10) ||| w) % 65536)).2.2.2 false := by
      rw [dataLoop, if_neg (by omega), h1]
      rfl
    show (r.1 ++ _).length = n ∧ value 256 ((r.1 ++ _).map UInt8.toNat) = _
    rw [hloop]
    have hle : r.1.length ≤ n := by omega
    refine ⟨by rw [List.length_append, hlength, Nat.add_sub_cancel' hle], ?_⟩
    rw [List.map_append, value_append, length_map, hlength, hvalue, hpush, value_cons, length_cons]
    have hplace : 256 ^ (n - r.1.length) = 2 ^ rest * 1024 ^ (words.length + 1) := by
      rw [show 256 = 2 ^ 8 from rfl, show 1024 = 2 ^ 10 from rfl, ← pow_mul, ← pow_mul, ← pow_add]
      congr 1
      omega
    rw [hplace]
    conv_rhs => rw [h6]
    ring

def paddingBits (wordsize : Nat) : Nat := 2 * (wordsize % 4)

def slip39DataForWords (words : List Nat) (size : Nat) : Except Int (List UInt8) :=
  let padding := paddingBits words.length
  if 0 < padding ∧ words.headD 0 &&& (1023 <<< (10 - padding)) ≠ 0 then
    .error slip39InvalidPadding
  else if size < slip39ByteCountForWords words.length then .error slip39InsufficientSpace
  else .ok (dataLoop words size (-padding) 0 (words.length % 4 == 0 && words.length &&& 4 != 0))

theorem and_shiftLeft_eq_zero {n w : Nat} (hw : w < 2 ^ n) (mask : Nat) : w &&& (mask <<< n) = 0 := by
  refine Nat.eq_of_testBit_eq fun k => ?_
  rw [Nat.testBit_and, Nat.testBit_shiftLeft, Nat.zero_testBit]
  by_cases hk : n ≤ k
  · rw [Nat.testBit_lt_two_pow (lt_of_lt_of_le hw (Nat.pow_le_pow_right (by decide) hk)),
      Bool.false_and]
  · rw [decide_eq_false hk, Bool.false_and, Bool.and_false]

theorem and_four (n : Nat) : (n &&& 4 != 0) = decide (n / 4 % 2 = 1) := by
  rw [show 4 = 2 ^ 2 from rfl, Nat.and_two_pow, Nat.testBit_eq_decide_div_mod_eq]
  by_cases h : n / 2 ^ 2 % 2 = 1
  · rw [decide_eq_true h]
    rfl
  · rw [decide_eq_false h]
    rfl

variable {words : List Nat}

/-- **Reading what stands for an even number of bytes.** -/
theorem slip39DataForWords_value {n size : Nat}
    (hwords : ∀ w ∈ words, w < 1024) (heven : n % 2 = 0)
    (hlength : words.length = slip39WordCountForBytes n)
    (hsize : slip39ByteCountForWords words.length ≤ size)
    (hvalue : value 1024 words < 256 ^ n) :
    ∃ out, slip39DataForWords words size = .ok out ∧ out.length = n
      ∧ value 256 (out.map UInt8.toNat) = value 1024 words := by
  rw [slip39WordCountForBytes, radixBits] at hlength
  rw [slip39ByteCountForWords, radixBits] at hsize
  cases words with
  | nil =>
    rw [length_nil] at hlength
    refine ⟨[], ?_, ?_, rfl⟩
    · rw [slip39DataForWords, if_neg (by simp [paddingBits]),
        if_neg (by simp [slip39ByteCountForWords])]
      rfl
    · rw [length_nil]
      omega
  | cons w words =>
    rw [length_cons] at hlength hsize
    have hw := hwords w (.head _)
    have hrest : ∀ v ∈ words, v < 1024 := fun v hv => hwords v (List.mem_cons_of_mem w hv)
    -- the bits of the first word that the bytes leave over, of which eight count as none
    obtain ⟨pad, hpad⟩ : ∃ pad, 10 * (words.length + 1) = 8 * n + pad :=
      ⟨10 * (words.length + 1) - 8 * n, by omega⟩
    have hfirst : w < 2 ^ (10 - pad) := by
      rw [value_cons] at hvalue
      have hplace : 256 ^ n = 2 ^ (10 - pad) * 1024 ^ words.length := by
        rw [show 256 = 2 ^ 8 from rfl, show 1024 = 2 ^ 10 from rfl, ← pow_mul, ← pow_mul, ← pow_add]
        congr 1
        omega
      rw [hplace] at hvalue
      exact Nat.lt_of_mul_lt_mul_right (lt_of_le_of_lt (Nat.le_add_right _ _) hvalue)
    have hpadding : paddingBits (words.length + 1) = if pad = 8 then 0 else pad := by
      rw [paddingBits]
      split <;> omega
    have hdiscard : ((words.length + 1) % 4 == 0 && (words.length + 1) &&& 4 != 0)
        = decide (pad = 8) := by
      rw [and_four]
      by_cases h : pad = 8
      · rw [decide_eq_true h, beq_iff_eq.mpr (by omega), Bool.true_and]
        exact decide_eq_true (by omega)
      · rw [decide_eq_false h]
        by_cases h4 : (words.length + 1) % 4 = 0
        · rw [decide_eq_false (by omega), Bool.and_false]
        · rw [beq_eq_false_iff_ne.mpr h4, Bool.false_and]
    have hpushed : ((0 <<< 10) ||| w) % 65536 = w := by
      rw [Nat.zero_shiftLeft, Nat.zero_or]
      omega
    obtain ⟨hout, hnumber⟩ := value_dataLoop words size (10 - pad) w n hfirst (by omega) hrest
      (by omega) (by omega)
    refine ⟨_, ?_, hout, by rw [hnumber, value_cons]⟩
    rw [slip39DataForWords, length_cons, hpadding, hdiscard, if_neg, if_neg, dataLoop,
      if_neg (by omega), hpushed]
    · by_cases h : pad = 8
      · subst h
        have hdrop : (w &&& 1020 == 0) = true := beq_iff_eq.mpr (and_shiftLeft_eq_zero hfirst 255)
        simp only [decide_true, hdrop, Bool.and_self, if_true, Bool.not_true, Bool.and_false]
        rfl
      · have hbits : -(pad : Int) + 10 = (10 - pad : Nat) := by omega
        simp only [h, decide_false, Bool.false_and, Bool.false_eq_true, if_false, hbits]
    · rw [slip39ByteCountForWords, radixBits]
      omega
    · intro h
      split at h
      · cases h.1
      · exact h.2 (and_shiftLeft_eq_zero hfirst 1023)

theorem slip39WordsForData_spec {buffer : List UInt8} {max : Nat}
    (hmax : slip39WordCountForBytes buffer.length ≤ max) :
    ∃ words, slip39WordsForData buffer max = some words
      ∧ words.length = slip39WordCountForBytes buffer.length
      ∧ (∀ w ∈ words, w < 1024)
      ∧ value 1024 words = value 256 (buffer.map UInt8.toNat) := by
  have hcount : buffer.length % 5 * 2 + 8 * buffer.length
      = 10 * slip39WordCountForBytes buffer.length := by
    rw [slip39WordCountForBytes, radixBits]
    omega
  obtain ⟨hlength, hlt, hvalue⟩ := value_wordsLoop max buffer (buffer.length % 5 * 2) 0 _
    (Nat.two_pow_pos _) (by omega) (by omega) hcount hmax
  refine ⟨_, by rw [slip39WordsForData, if_neg (by omega)], hlength, hlt, ?_⟩
  rw [hvalue, pending, Nat.zero_mul, Nat.zero_add]

theorem slip39DataForWords_of_value {buffer : List UInt8} {size : Nat}
    (heven : buffer.length % 2 = 0) (hwords : ∀ w ∈ words, w < 1024)
    (hlength : words.length = slip39WordCountForBytes buffer.length)
    (hsize : slip39ByteCountForWords words.length ≤ size)
    (hvalue : value 1024 words = value 256 (buffer.map UInt8.toNat)) :
    slip39DataForWords words size = .ok buffer := by
  have hbytes : ∀ (bs : List UInt8), ∀ d ∈ bs.map UInt8.toNat, d < 256 := by
    intro bs d hd
    obtain ⟨b, _, rfl⟩ := List.mem_map.mp hd
    exact b.toNat_lt
  have hlt : value 1024 words < 256 ^ buffer.length := by
    have := value_lt (by decide) (hbytes buffer)
    rwa [length_map, ← hvalue] at this
  obtain ⟨out, hout, houtLength, houtValue⟩ :=
    slip39DataForWords_value hwords heven hlength hsize hlt
  have hsame : out.map UInt8.toNat = buffer.map UInt8.toNat :=
    value_inj (by decide) (by rw [length_map, length_map, houtLength]) (hbytes out)
      (hbytes buffer) (houtValue.trans hvalue)
  rw [hout, List.map_injective_iff.mpr (fun a b h => UInt8.toNat_inj.mp h) hsame]

theorem slip39DataForWords_words {buffer : List UInt8} {max size : Nat}
    (heven : buffer.length % 2 = 0) (h : slip39WordsForData buffer max = some words)
    (hsize : slip39ByteCountForWords words.length ≤ size) :
    slip39DataForWords words size = .ok buffer := by
  have hmax : slip39WordCountForBytes buffer.length ≤ max := by
    by_contra hlt
    rw [slip39WordsForData, if_pos (by omega)] at h
    cases h
  obtain ⟨words', hwords', hlength, hlt, hvalue⟩ := slip39WordsForData_spec hmax
  rw [h] at hwords'
  cases hwords'
  exact slip39DataForWords_of_value heven hlt hlength hsize hvalue

def padding (words : List Nat) : Nat :=
  value 1024 words / 256 ^ slip39ByteCountForWords words.length

theorem and_mask_ne_zero {w : Nat} (hw : w < 1024) (k : Nat) :
    w &&& (1023 <<< k) ≠ 0 ↔ 2 ^ k ≤ w := by
  constructor
  · intro h
    by_contra hlt
    exact h (and_shiftLeft_eq_zero (Nat.not_le.mp hlt) 1023)
  · intro hle h
    have hshift : (w &&& (1023 <<< k)) >>> k = w / 2 ^ k := by
      rw [Nat.shiftRight_and_distrib, Nat.shiftLeft_shiftRight, show 1023 = 2 ^ 10 - 1 from rfl,
        Nat.and_two_pow_sub_one_eq_mod, Nat.shiftRight_eq_div_pow]
      exact Nat.mod_eq_of_lt (lt_of_le_of_lt (Nat.div_le_self w (2 ^ k)) hw)
    rw [h, Nat.zero_shiftRight] at hshift
    have hpos := Nat.div_pos hle (Nat.two_pow_pos k)
    omega

theorem padding_ne_zero (hwords : ∀ w ∈ words, w < 1024) :
    padding words ≠ 0 ↔ 0 < paddingBits words.length
      ∧ words.headD 0 &&& (1023 <<< (10 - paddingBits words.length)) ≠ 0 := by
  have hdiv : padding words ≠ 0
      ↔ 256 ^ slip39ByteCountForWords words.length ≤ value 1024 words := by
    rw [padding, Ne, Nat.div_eq_zero_iff]
    have := Nat.pow_pos (n := slip39ByteCountForWords words.length) (show 0 < 256 by decide)
    omega
  rw [hdiv]
  cases words with
  | nil => simp [slip39ByteCountForWords, paddingBits]
  | cons w words =>
    have hw := hwords w (.head _)
    have hrest : value 1024 words < 1024 ^ words.length :=
      value_lt (by decide) fun v hv => hwords v (List.mem_cons_of_mem w hv)
    have hplace : 256 ^ slip39ByteCountForWords (w :: words).length
        = 2 ^ (10 - paddingBits (w :: words).length) * 1024 ^ words.length := by
      rw [show 256 = 2 ^ 8 from rfl, show 1024 = 2 ^ 10 from rfl, ← pow_mul, ← pow_mul,
        ← pow_add, slip39ByteCountForWords, radixBits, paddingBits, length_cons]
      congr 1
      omega
    have hfirst : (w * 1024 ^ words.length + value 1024 words) / 1024 ^ words.length = w := by
      rw [Nat.mul_comm, Nat.mul_add_div (Nat.pow_pos (by decide)), Nat.div_eq_of_lt hrest,
        Nat.add_zero]
    rw [hplace, value_cons, List.headD_cons, and_mask_ne_zero hw,
      ← Nat.le_div_iff_mul_le (Nat.pow_pos (by decide)), hfirst]
    refine ⟨fun h => ⟨Nat.pos_of_ne_zero fun hzero => ?_, h⟩, And.right⟩
    -- without padding the first word would have more than its ten bits
    rw [hzero] at h
    omega

/-- **Padding is refused**, and nothing else is refused for it. -/
theorem slip39DataForWords_padding (hwords : ∀ w ∈ words, w < 1024)
    (size : Nat) :
    padding words ≠ 0 ↔ slip39DataForWords words size = .error slip39InvalidPadding := by
  rw [padding_ne_zero hwords, slip39DataForWords]
  constructor
  · intro h
    exact if_pos h
  · intro h
    by_contra hzero
    simp only [if_neg hzero] at h
    split at h
    · cases h
    · cases h

end Keystone3.Slip39
