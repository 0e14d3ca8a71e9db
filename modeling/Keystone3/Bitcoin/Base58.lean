import Keystone3.Bitcoin.CashAddr
import Keystone3.Bytes.Utf8

/-!
# Base 58

A text in base 58 is a number written in another base, with a `1` for every
zero byte in front of it. `fromBase58Str` computes the bytes digit by digit in a
scratch space of fixed length: `fromBase58Str_base58Text` says that the space is
always enough and that the bytes are the ones the text was made from.
-/

namespace Keystone3.Bitcoin

open Bytes (value digits rebase value_lt value_rebase rebase_lt takeWhile_rebase
  value_replicate_zero dropWhile_zero_eq reverse_dropWhile_zero utf8 first_of_utf8EncodeChar)
open Logic (Outcome)
open List (cons_append length_cons length_map map_cons mem_map takeWhile_cons_of_neg
  takeWhile_cons_of_pos)

def base58Chars : List Char :=
  ['1', '2', '3', '4', '5', '6', '7', '8', '9', 'A', 'B', 'C', 'D', 'E', 'F', 'G', 'H', 'J', 'K',
    'L', 'M', 'N', 'P', 'Q', 'R', 'S', 'T', 'U', 'V', 'W', 'X', 'Y', 'Z', 'a', 'b', 'c', 'd', 'e',
    'f', 'g', 'h', 'i', 'j', 'k', 'm', 'n', 'o', 'p', 'q', 'r', 's', 't', 'u', 'v', 'w', 'x', 'y',
    'z']

def base58Of (ds : List Nat) : Text := ds.map fun d => base58Chars.getD d '1'

def base58Text (bytes : List UInt8) : Text := base58Of (rebase 256 58 2 (bytes.map UInt8.toNat))

theorem base58Carry_spec (scratch : List UInt8) (carry : Nat) :
    (base58Carry scratch carry).1.length = scratch.length
      ∧ valueOf 8 (base58Carry scratch carry).1
          + (base58Carry scratch carry).2 * 256 ^ scratch.length
        = valueOf 8 scratch * 58 + carry := by
  induction scratch with
  | nil =>
    refine ⟨rfl, ?_⟩
    show 0 + carry * 1 = 0 * 58 + carry
    omega
  | cons d scratch ih =>
    obtain ⟨hlength, hvalue⟩ := ih
    have hcons : ∀ (b : UInt8) (l : List UInt8),
        valueOf 8 (b :: l) = b.toNat * 256 ^ l.length + valueOf 8 l := by
      intro b l
      rw [← List.singleton_append, valueOf_append, valueOf_single, Nat.pow_mul]
    refine ⟨congrArg (· + 1) hlength, ?_⟩
    show valueOf 8 (UInt8.ofNat _ :: _) + _ / 256 * 256 ^ (scratch.length + 1) = _
    rw [hcons, hcons, hlength, UInt8.toNat_ofNat', Nat.pow_succ]
    -- the byte and the carry of this place are one number
    have hplace := Nat.div_add_mod ((base58Carry scratch carry).2 + d.toNat * 58) 256
    generalize ((base58Carry scratch carry).2 + d.toNat * 58) / 256 = carry' at hplace ⊢
    generalize hbyte : ((base58Carry scratch carry).2 + d.toNat * 58) % 2 ^ 8 = byte
    rw [show 256 = 2 ^ 8 from rfl, hbyte] at hplace
    calc byte * 256 ^ scratch.length + valueOf 8 (base58Carry scratch carry).1
          + carry' * (256 ^ scratch.length * 256)
        = (2 ^ 8 * carry' + byte) * 256 ^ scratch.length
          + valueOf 8 (base58Carry scratch carry).1 := by ring
      _ = ((base58Carry scratch carry).2 + d.toNat * 58) * 256 ^ scratch.length
          + valueOf 8 (base58Carry scratch carry).1 := by rw [hplace]
      _ = d.toNat * 256 ^ scratch.length * 58 + (valueOf 8 (base58Carry scratch carry).1
          + (base58Carry scratch carry).2 * 256 ^ scratch.length) := by ring
      _ = (d.toNat * 256 ^ scratch.length + valueOf 8 scratch) * 58 + carry := by
        rw [hvalue]
        ring

theorem base58Digits_of {d : Nat} (hd : d < 58) :
    base58Digits[(base58Chars.getD d '1').toNat]? = some (some (UInt8.ofNat d)) := by
  have hall : ∀ n < 58,
      base58Digits[(base58Chars.getD n '1').toNat]? = some (some (UInt8.ofNat n)) := by
    decide
  exact hall d hd

theorem base58Scratch_of {ds : List Nat} (hds : ∀ d ∈ ds, d < 58) {scratch : List UInt8}
    (hfits : valueOf 8 scratch * 58 ^ ds.length + value 58 ds < 256 ^ scratch.length) :
    ∃ r, base58Scratch (base58Of ds) scratch = .ok r
      ∧ valueOf 8 r = valueOf 8 scratch * 58 ^ ds.length + value 58 ds := by
  induction ds generalizing scratch with
  | nil => exact ⟨scratch, rfl, by simp⟩
  | cons d ds ih =>
    have hd : d < 58 := hds d (.head _)
    have hnat : (UInt8.ofNat d).toNat = d := 
      UInt8.toNat_ofNat_of_lt' (lt_of_lt_of_le hd (by decide))
    obtain ⟨hlength, hvalue⟩ := base58Carry_spec scratch d
    have hcons : value 58 (d :: ds) = d * 58 ^ ds.length + value 58 ds := Bytes.value_cons 58 d ds
    have hone : 1 ≤ 58 ^ ds.length := Nat.one_le_pow _ _ (by decide)
    have hsum : valueOf 8 scratch * 58 ^ (ds.length + 1) + value 58 (d :: ds)
        = (valueOf 8 scratch * 58 + d) * 58 ^ ds.length + value 58 ds := by
      rw [hcons]
      ring
    rw [length_cons, hsum] at hfits
    -- nothing is carried out of the space
    have hcarry : (base58Carry scratch d).2 = 0 := by
      have hsmall : valueOf 8 scratch * 58 + d < 256 ^ scratch.length :=
        lt_of_le_of_lt (le_trans (Nat.le_mul_of_pos_right _ hone) (Nat.le_add_right _ _)) hfits
      by_contra hne
      have hle := Nat.le_mul_of_pos_left (256 ^ scratch.length) (Nat.pos_of_ne_zero hne)
      omega
    rw [hcarry, Nat.zero_mul, Nat.add_zero] at hvalue
    obtain ⟨r, hr, hrvalue⟩ := @ih
      (fun d' hd' => hds d' (List.mem_cons_of_mem d hd')) (base58Carry scratch d).1
      (by rw [hvalue, hlength]; exact hfits)
    refine ⟨r, ?_, ?_⟩
    · show base58Scratch (base58Chars.getD d '1' :: base58Of ds) scratch = _
      rw [base58Scratch, base58Digits_of hd]
      show (if (base58Carry scratch (UInt8.ofNat d).toNat).2 = 0 then _ else _) = _
      rw [hnat, if_pos hcarry]
      exact hr
    · rw [hrvalue, hvalue, length_cons, hsum]

theorem base58_fits (n : Nat) : 58 ^ n ≤ 256 ^ (1 + n * 11 / 15) := by
  have hsmall : ∀ r < 15, 58 ^ r ≤ 256 ^ (1 + r * 11 / 15) := by decide
  have hlt : n % 15 < 15 := Nat.mod_lt n (by decide)
  have hn := Nat.div_add_mod n 15
  have hexp : 1 + n * 11 / 15 = 11 * (n / 15) + (1 + n % 15 * 11 / 15) := by omega
  calc 58 ^ n = (58 ^ 15) ^ (n / 15) * 58 ^ (n % 15) := by
        rw [← Nat.pow_mul, ← Nat.pow_add, hn]
    _ ≤ (256 ^ 11) ^ (n / 15) * 256 ^ (1 + n % 15 * 11 / 15) :=
        Nat.mul_le_mul (Nat.pow_le_pow_left (by decide) _) (hsmall _ hlt)
    _ = 256 ^ (1 + n * 11 / 15) := by rw [← Nat.pow_mul, ← Nat.pow_add, ← hexp]

theorem toNat_lt_of_mem {bytes : List UInt8} : ∀ n ∈ bytes.map UInt8.toNat, n < 256 := by
  intro n hn
  obtain ⟨b, _, rfl⟩ := mem_map.mp hn
  exact b.toNat_lt

theorem takeWhile_base58Of {ds : List Nat} (hds : ∀ d ∈ ds, d < 58) :
    ((base58Of ds).takeWhile (· = '1')).length = (ds.takeWhile (· = 0)).length := by
  have hone : ∀ n < 58, (base58Chars.getD n '1' = '1' ↔ n = 0) := by decide
  induction ds with
  | nil => rfl
  | cons d ds ih =>
    have ih := ih fun d' hd' => hds d' (List.mem_cons_of_mem d hd')
    have hd := hone d (hds d (.head _))
    show ((base58Chars.getD d '1' :: base58Of ds).takeWhile _).length = _
    by_cases h0 : d = 0
    · rw [h0, takeWhile_cons_of_pos rfl, takeWhile_cons_of_pos rfl, length_cons,
        length_cons, ih]
    · generalize base58Chars.getD d '1' = c at hd ⊢
      have hc : ¬c = '1' := fun h => h0 (hd.mp h)
      rw [takeWhile_cons_of_neg (by simpa using hc), takeWhile_cons_of_neg (by simpa using h0)]
      rfl

theorem map_dropWhile_zero (bytes : List UInt8) :
    (bytes.dropWhile (· = 0)).map UInt8.toNat = (bytes.map UInt8.toNat).dropWhile (· = 0) := by
  induction bytes with
  | nil => rfl
  | cons b bytes ih =>
    by_cases hb : b = 0
    · rw [hb, map_cons, List.dropWhile_cons_of_pos rfl, List.dropWhile_cons_of_pos rfl, ih]
    · have hnat : b.toNat ≠ 0 := fun h => hb (UInt8.toNat_inj.mp h)
      rw [map_cons, List.dropWhile_cons_of_neg (by simpa using hb),
        List.dropWhile_cons_of_neg (by simpa using hnat), map_cons]

theorem takeWhile_zero_map (bytes : List UInt8) :
    ((bytes.map UInt8.toNat).takeWhile (· = 0)).length = (bytes.takeWhile (· = 0)).length := by
  induction bytes with
  | nil => rfl
  | cons b bytes ih =>
    by_cases hb : b = 0
    · rw [hb, map_cons, takeWhile_cons_of_pos rfl, takeWhile_cons_of_pos rfl,
        length_cons, length_cons, ih]
    · have hnat : b.toNat ≠ 0 := fun h => hb (UInt8.toNat_inj.mp h)
      rw [map_cons, takeWhile_cons_of_neg (by simpa using hnat),
        takeWhile_cons_of_neg (by simpa using hb)]
      rfl

theorem fromBase58Str_base58Text (bytes : List UInt8) :
    fromBase58Str (base58Text bytes) = .ok bytes := by
  have hbytes : ∀ n ∈ bytes.map UInt8.toNat, n < 256 := toNat_lt_of_mem
  generalize hdsdef : rebase 256 58 2 (bytes.map UInt8.toNat) = ds
  have hds : ∀ d ∈ ds, d < 58 := by
    rw [← hdsdef]
    exact rebase_lt (by decide)
  have hnumber : value 58 ds = valueOf 8 bytes := by
    rw [← hdsdef]
    exact value_rebase (by decide) (by decide) hbytes
  have htext : base58Text bytes = base58Of ds := by rw [base58Text, hdsdef]
  have hlength : (base58Of ds).length = ds.length := length_map _
  have hzero : valueOf 8 (List.replicate (1 + ds.length * 11 / 15) 0) = 0 := by
    have h := value_replicate_zero 256 (1 + ds.length * 11 / 15) []
    rw [List.append_nil] at h
    rw [valueOf, List.map_replicate]
    exact h
  obtain ⟨r, hr, hrvalue⟩ := @base58Scratch_of ds hds
    (List.replicate (1 + ds.length * 11 / 15) 0) (by
      rw [hzero, Nat.zero_mul, Nat.zero_add, List.length_replicate]
      exact lt_of_lt_of_le (value_lt (by decide) hds) (base58_fits ds.length))
  rw [hzero, Nat.zero_mul, Nat.zero_add, hnumber] at hrvalue
  -- what is left of the space without its zeros are the bytes without theirs
  have hrest : r.dropWhile (· = 0) = bytes.dropWhile (· = 0) := by
    refine List.map_injective_iff.mpr (fun _ _ => UInt8.toNat_inj.mp) ?_
    rw [map_dropWhile_zero, map_dropWhile_zero]
    exact dropWhile_zero_eq (by decide : 1 < 256) toNat_lt_of_mem hbytes hrvalue
  have hzeros : ((base58Of ds).takeWhile (· = '1')).map (fun _ => (0 : UInt8))
      = bytes.takeWhile (· = 0) := by
    have hcount : ((base58Of ds).takeWhile (· = '1')).length
        = (bytes.takeWhile (· = 0)).length := by
      rw [takeWhile_base58Of hds, ← hdsdef, takeWhile_rebase, takeWhile_zero_map]
    rw [List.map_const', hcount]
    refine (List.eq_replicate_of_mem fun b hb => ?_).symm
    have hb := List.mem_takeWhile_imp hb
    exact of_decide_eq_true hb
  rw [htext, fromBase58Str, hlength, hr, Outcome.ok_bind, hzeros, hrest,
    List.takeWhile_append_dropWhile]
  rfl

theorem base58Text_inj {a b : List UInt8} (h : base58Text a = base58Text b) : a = b := by
  have hread := fromBase58Str_base58Text a
  rw [h, fromBase58Str_base58Text] at hread
  exact (Outcome.ok.inj hread).symm

theorem mem_base58Text {bytes : List UInt8} : ∀ c ∈ base58Text bytes, c ∈ base58Chars := by
  have hall : ∀ n < 58, base58Chars.getD n '1' ∈ base58Chars := by decide
  intro c hc
  obtain ⟨d, hd, rfl⟩ := mem_map.mp hc
  exact hall d (rebase_lt (by decide) d hd)

theorem base58Text_first {b : UInt8} (hb : b ≠ 0) {rest bytes : List UInt8}
    (hbytes : bytes = b :: rest) {k p : Nat} (hp : 58 ^ 3 ≤ p) (hp' : p < 58 ^ 4)
    (hlow : p * 58 ^ k ≤ valueOf 8 bytes) (hhigh : valueOf 8 bytes < (p + 1) * 58 ^ k) :
    ∃ tail, base58Text bytes = base58Of (digits 58 4 p) ++ tail := by
  have hvalue : value 58 (rebase 256 58 2 (bytes.map UInt8.toNat)) = valueOf 8 bytes :=
    value_rebase (by decide) (by decide) toNat_lt_of_mem
  have hzeros : (rebase 256 58 2 (bytes.map UInt8.toNat)).takeWhile (· = 0) = [] := by
    have hnat : b.toNat ≠ 0 := fun h => hb (UInt8.toNat_inj.mp h)
    rw [takeWhile_rebase, hbytes, map_cons, takeWhile_cons_of_neg (by simpa using hnat)]
  have htake := Bytes.take_eq_digits (by decide) (rebase_lt (by decide)) hzeros hp hp'
    (by rw [hvalue]; exact hlow) (by rw [hvalue]; exact hhigh)
  refine ⟨base58Of ((rebase 256 58 2 (bytes.map UInt8.toNat)).drop 4), ?_⟩
  rw [base58Text, ← htake]
  conv_lhs => rw [← List.take_append_drop 4 (rebase 256 58 2 (bytes.map UInt8.toNat))]
  exact List.map_append

theorem base58Text_of_22 {rest : List UInt8} (hlength : rest.length = 24) :
    ∃ c tail, base58Text (22 :: rest) = c :: tail ∧ (c = '9' ∨ c = 'A') ∧ tail.length = 33 := by
  have hbytes : ∀ n ∈ ((22 : UInt8) :: rest).map UInt8.toNat, n < 256 := toNat_lt_of_mem
  have hrest : valueOf 8 rest < 256 ^ 24 := by
    have h := value_lt (by decide : 1 < 256) (@toNat_lt_of_mem rest)
    rwa [length_map, hlength] at h
  have hnumber : value 58 (rebase 256 58 2 (((22 : UInt8) :: rest).map UInt8.toNat))
      = 22 * 256 ^ 24 + valueOf 8 rest := by
    rw [value_rebase (by decide) (by decide) hbytes, map_cons, Bytes.value_cons,
      length_map, hlength]
    rfl
  have hnozeros : rebase 256 58 2 (((22 : UInt8) :: rest).map UInt8.toNat)
      = (digits 58 (2 * (rest.length + 1)) (value 256 (((22 : UInt8) :: rest).map UInt8.toNat))
        ).dropWhile (· = 0) := by
    rw [rebase, length_map]
    rfl
  have hlt : ∀ d ∈ rebase 256 58 2 (((22 : UInt8) :: rest).map UInt8.toNat), d < 58 :=
    rebase_lt (by decide)
  rw [base58Text]
  generalize rebase 256 58 2 (((22 : UInt8) :: rest).map UInt8.toNat) = ds at *
  cases ds with
  | nil =>
    rw [Bytes.value_nil] at hnumber
    omega
  | cons d tail =>
    have hd : d < 58 := hlt d (.head _)
    have hd0 : d ≠ 0 := by
      have h := @Bytes.head_dropWhile_ne_zero (digits 58 (2 * (rest.length + 1))
        (value 256 (((22 : UInt8) :: rest).map UInt8.toNat)))
        (by rw [← hnozeros]; exact List.cons_ne_nil d tail)
      simpa only [← hnozeros, List.head_cons] using h
    have htail : value 58 tail < 58 ^ tail.length :=
      value_lt (by decide) fun d' hd' => hlt d' (List.mem_cons_of_mem d hd')
    rw [Bytes.value_cons] at hnumber
    -- the number is between two powers of 58, and so is the number of its digits
    have h33 : tail.length = 33 := by
      by_contra hne
      rcases Nat.lt_or_gt_of_ne hne with hfew | hmany
      · have hpow : 58 ^ tail.length ≤ 58 ^ 32 := Nat.pow_le_pow_right (by decide) (by omega)
        have hmul : d * 58 ^ tail.length ≤ 57 * 58 ^ 32 := Nat.mul_le_mul (by omega) hpow
        omega
      · have hpow : 58 ^ 34 ≤ 58 ^ tail.length := Nat.pow_le_pow_right (by decide) (by omega)
        have hmul : 58 ^ 34 ≤ d * 58 ^ tail.length :=
          le_trans hpow (Nat.le_mul_of_pos_left _ (Nat.pos_of_ne_zero hd0))
        omega
    rw [h33] at hnumber htail
    have hfirst : d = 8 ∨ d = 9 := by omega
    refine ⟨base58Chars.getD d '1', base58Of tail, rfl, ?_, ?_⟩
    · rcases hfirst with rfl | rfl
      · exact .inl rfl
      · exact .inr rfl
    · rw [base58Of, length_map, h33]

/-- The loop of `from_base58_str` over the bytes of a text. The check before the
table lets `128` through, which is no place of it. -/
def base58Loop : List UInt8 → List UInt8 → Result (List UInt8)
  | [], scratch => .ok scratch
  | d58 :: data, scratch =>
    if d58.toNat > 128 then .error (.addressError "invalid char")
    else
      match base58Digits[d58.toNat]? with
      | none => .halted
      | some none => .error (.addressError "invalid char")
      | some (some d58) =>
        let r := base58Carry scratch d58.toNat
        if r.2 = 0 then base58Loop data r.1 else .halted

/-- `from_base58_str`, with `1` as the byte that it is. -/
def fromBase58Bytes (data : List UInt8) : Result (List UInt8) := do
  let scratch ← base58Loop data (List.replicate (1 + data.length * 11 / 15) 0)
  pure ((data.takeWhile (· = 49)).map (fun _ => 0) ++ scratch.dropWhile (· = 0))

def bigEndian (n : Nat) : List UInt8 := (Nat.digits 256 n).reverse.map UInt8.ofNat

-- Decided along the text, not along all characters.
instance decidableBase58 (s : Text) : Decidable (∀ c ∈ s, c ∈ base58Chars) :=
  List.decidableBAll (· ∈ base58Chars) s

/-- Base 58 by its definition: the number that the characters write, with a zero byte for
every `1` in front. -/
def base58Decode (s : Text) : Option (List UInt8) :=
  if ∀ c ∈ s, c ∈ base58Chars then
    some ((s.takeWhile (· = '1')).map (fun _ => 0)
      ++ bigEndian (value 58 (s.map (base58Chars.idxOf ·))))
  else none

set_option maxRecDepth 16384 in
theorem length_base58Digits : base58Digits.length = 128 := by decide

theorem base58Loop_utf8 (s : Text) : ∀ scratch : List UInt8,
    base58Loop (utf8 s) scratch = base58Scratch s scratch := by
  have hlength := length_base58Digits
  induction s with
  | nil => exact fun _ => rfl
  | cons c s ih =>
    intro scratch
    obtain ⟨b, bytes, hchar, hb⟩ := first_of_utf8EncodeChar c
    have hutf8 : utf8 (c :: s) = b :: (bytes ++ utf8 s) := by
      rw [utf8, List.flatMap_cons, hchar, cons_append]
      rfl
    rw [hutf8, base58Loop, base58Scratch]
    rcases hb with ⟨hc, hb, rfl⟩ | ⟨hc, hb⟩
    · rw [if_neg (by omega), hb, List.getElem?_eq_getElem (by omega)]
      cases base58Digits[c.toNat] with
      | none => rfl
      | some d58 =>
        dsimp only
        rw [List.nil_append, ih]
    · rw [if_pos (by omega), List.getElem?_eq_none (by omega)]

theorem length_le_utf8 (s : Text) : s.length ≤ (utf8 s).length := by
  induction s with
  | nil => exact Nat.le_refl _
  | cons c s ih =>
    obtain ⟨b, bytes, hchar, -⟩ := first_of_utf8EncodeChar c
    rw [utf8, List.flatMap_cons, hchar, cons_append, length_cons, length_cons, List.length_append]
    exact Nat.succ_le_succ (le_trans ih (Nat.le_add_left _ _))

theorem takeWhile_utf8 (s : Text) : ((utf8 s).takeWhile (· = 49)).map (fun _ => (0 : UInt8))
    = (s.takeWhile (· = '1')).map fun _ => 0 := by
  induction s with
  | nil => rfl
  | cons c s ih =>
    obtain ⟨b, bytes, hchar, hb⟩ := first_of_utf8EncodeChar c
    have hutf8 : utf8 (c :: s) = b :: (bytes ++ utf8 s) := by
      rw [utf8, List.flatMap_cons, hchar, cons_append]
      rfl
    have h49 : b = 49 ↔ b.toNat = 49 := UInt8.toNat_inj.symm
    rw [hutf8]
    by_cases hc : c = '1'
    · have hone : c.toNat = 49 := by rw [hc]; rfl
      rcases hb with ⟨-, hb, rfl⟩ | ⟨hlarge, -⟩
      · rw [takeWhile_cons_of_pos (by simp only [h49, hb, hone, decide_true]),
          takeWhile_cons_of_pos (by simp only [hc, decide_true]), map_cons, map_cons,
          List.nil_append, ih]
      · omega
    · have hother : b ≠ 49 := by
        intro h
        rcases hb with ⟨-, hb, -⟩ | ⟨-, hb⟩
        · have hone : c.toNat = ('1' : Char).toNat := hb.symm.trans (h49.mp h)
          exact hc (Char.toNat_inj.mp hone)
        · have := h49.mp h
          omega
      rw [takeWhile_cons_of_neg (by simpa using hother), takeWhile_cons_of_neg (by simpa using hc)]
      rfl

theorem bigEndian_valueOf (r : List UInt8) : bigEndian (valueOf 8 r) = r.dropWhile (· = 0) := by
  have hr : ∀ n ∈ r.map UInt8.toNat, n < 256 := toNat_lt_of_mem
  have hdigits : ((r.map UInt8.toNat).dropWhile (· = 0)).reverse = Nat.digits 256 (valueOf 8 r) :=
    reverse_dropWhile_zero (by decide) hr
  refine List.map_injective_iff.mpr (fun _ _ => UInt8.toNat_inj.mp) ?_
  rw [map_dropWhile_zero, bigEndian, ← hdigits, List.reverse_reverse, List.map_map]
  refine (List.map_congr_left fun n hn => ?_).trans (List.map_id _)
  exact UInt8.toNat_ofNat_of_lt' (hr n (List.dropWhile_subset _ hn))

theorem base58Scratch_append (s t : Text) (scratch : List UInt8) :
    base58Scratch (s ++ t) scratch = base58Scratch s scratch >>= base58Scratch t := by
  induction s generalizing scratch with
  | nil => rfl
  | cons c s ih =>
    rw [cons_append, base58Scratch, base58Scratch]
    split
    · dsimp only
      split_ifs
      · exact ih _
      · rfl
    · rfl

theorem base58Of_idxOf {s : Text} (h : ∀ c ∈ s, c ∈ base58Chars) :
    base58Of (s.map (base58Chars.idxOf ·)) = s ∧ ∀ d ∈ s.map (base58Chars.idxOf ·), d < 58 := by
  constructor
  · rw [base58Of, List.map_map]
    refine (List.map_congr_left fun c hc => ?_).trans (List.map_id s)
    have hlt := List.idxOf_lt_length_of_mem (h c hc)
    show base58Chars.getD (base58Chars.idxOf c) '1' = c
    rw [List.getD_eq_getElem?_getD, List.getElem?_eq_getElem hlt, Option.getD_some,
      List.getElem_idxOf hlt]
  · intro d hd
    obtain ⟨c, hc, rfl⟩ := mem_map.mp hd
    exact List.idxOf_lt_length_of_mem (h c hc)

theorem base58Digits_of_not_mem {c : Char} (h : c ∉ base58Chars) (d : UInt8) :
    base58Digits[c.toNat]? ≠ some (some d) := by
  have hall : ∀ n < 128, base58Digits[n]?.join.isSome = true → Char.ofNat n ∈ base58Chars := by
    decide
  intro hget
  have hlength := length_base58Digits
  have hlt := (List.getElem?_eq_some_iff.mp hget).1
  refine h ?_
  have hmem := hall c.toNat (by omega) (by rw [hget]; rfl)
  rwa [Char.ofNat_toNat] at hmem

/-- **Every text is read by the definition**, in whatever alphabet it is, and the
scratch space is never too small. -/
theorem fromBase58Bytes_utf8 (s : Text) :
    fromBase58Bytes (utf8 s) = match base58Decode s with
      | some bytes => .ok bytes
      | none => .error (.addressError "invalid char") := by
  have hzero : ∀ n, valueOf 8 (List.replicate n 0) = 0 := by
    intro n
    have h := value_replicate_zero 256 n []
    rw [List.append_nil] at h
    rw [valueOf, List.map_replicate]
    exact h
  have hlong := length_le_utf8 s
  -- the digits in front of a text fit the space for the text
  have hread : ∀ t : Text, (∀ c ∈ t, c ∈ base58Chars) → t.length ≤ s.length →
      ∃ r, base58Scratch t (List.replicate (1 + (utf8 s).length * 11 / 15) 0) = .ok r
        ∧ valueOf 8 r = value 58 (t.map (base58Chars.idxOf ·)) := by
    intro t ht hle
    obtain ⟨htext, hds⟩ := base58Of_idxOf ht
    have hpow : 256 ^ (1 + t.length * 11 / 15) ≤ 256 ^ (1 + (utf8 s).length * 11 / 15) :=
      Nat.pow_le_pow_right (by decide) (by omega)
    have hfits : valueOf 8 (List.replicate (1 + (utf8 s).length * 11 / 15) 0)
          * 58 ^ (t.map (base58Chars.idxOf ·)).length + value 58 (t.map (base58Chars.idxOf ·))
        < 256 ^ (List.replicate (1 + (utf8 s).length * 11 / 15) (0 : UInt8)).length := by
      have hlt := value_lt (by decide : 1 < 58) hds
      rw [List.length_map] at hlt
      rw [hzero, Nat.zero_mul, Nat.zero_add, List.length_replicate]
      exact lt_of_lt_of_le hlt (le_trans (base58_fits _) hpow)
    obtain ⟨r, hr, hvalue⟩ := base58Scratch_of hds hfits
    rw [hzero, Nat.zero_mul, Nat.zero_add] at hvalue
    exact ⟨r, htext ▸ hr, hvalue⟩
  rw [fromBase58Bytes, base58Loop_utf8, base58Decode]
  by_cases hs : ∀ c ∈ s, c ∈ base58Chars
  · obtain ⟨r, hr, hvalue⟩ := hread s hs le_rfl
    rw [if_pos hs, hr, Outcome.ok_bind, takeWhile_utf8, ← bigEndian_valueOf, hvalue]
    rfl
  · rw [if_neg hs]
    -- the loop gets as far as the first character that is no digit
    let good := s.takeWhile fun c => decide (c ∈ base58Chars)
    have hgood : ∀ c ∈ good, c ∈ base58Chars := by
      intro c hc
      have h := List.mem_takeWhile_imp hc
      exact of_decide_eq_true h
    have hne : s.dropWhile (fun c => decide (c ∈ base58Chars)) ≠ [] := by
      intro h
      refine hs fun c hc => of_decide_eq_true ?_
      exact List.dropWhile_eq_nil_iff.mp h c hc
    obtain ⟨c, rest, hrest⟩ := List.exists_cons_of_ne_nil hne
    have hc : c ∉ base58Chars := by
      have hhead := List.head_dropWhile_not (fun c => decide (c ∈ base58Chars)) hne
      simp only [hrest, List.head_cons] at hhead
      exact of_decide_eq_false hhead
    obtain ⟨r, hr, -⟩ := hread good hgood (List.takeWhile_prefix _).length_le
    have hstop : base58Scratch (c :: rest) r = .error (.addressError "invalid char") := by
      rw [base58Scratch]
      split
      · rename_i d hd
        exact absurd hd (base58Digits_of_not_mem hc d)
      · rfl
    have hsplit : s = good ++ c :: rest := by
      rw [← hrest]
      exact List.takeWhile_append_dropWhile.symm
    conv_lhs => rw [hsplit]
    rw [base58Scratch_append]
    conv_lhs => rw [← hsplit]
    rw [hr, Outcome.ok_bind, hstop]
    rfl

end Keystone3.Bitcoin
