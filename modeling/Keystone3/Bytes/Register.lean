import Mathlib.Data.Nat.Bitwise
import Keystone3.Bytes.Digits

/-!
# Checksums from a shift register

A register of `count` words of `bits` bits takes a word in at the low end and
mixes what leaves it at the high end back in. When the feedback is additive over
exclusive or, so is the register, in what it holds and in what it reads
(`step_xor`). Words in the place of zeros at the end of a message then change
where the register stops by the number they are the digits of (`run_last`). So
there is exactly one checksum that makes it stop at a given number
(`run_append_iff`).
-/

namespace Keystone3.Bytes

theorem shiftLeft_xor {k b : Nat} (hb : b < 2 ^ k) (a : Nat) : (a <<< k) ^^^ b = a * 2 ^ k + b := by
  refine Nat.eq_of_testBit_eq fun j => ?_
  rw [Nat.mul_comm, Nat.testBit_two_pow_mul_add a hb, Nat.testBit_xor, Nat.testBit_shiftLeft]
  by_cases hj : j < k
  · rw [if_pos hj, decide_eq_false (Nat.not_le_of_lt hj), Bool.false_and, Bool.false_xor]
  · have hle : k ≤ j := Nat.le_of_not_lt hj
    have hout : b.testBit j = false :=
      Nat.testBit_lt_two_pow (lt_of_lt_of_le hb (Nat.pow_le_pow_right (by decide) hle))
    rw [if_neg hj, decide_eq_true hle, Bool.true_and, hout, Bool.xor_false]

structure Register where
  bits : Nat
  count : Nat
  feedback : Nat → Nat
  bits_pos : 0 < bits
  count_pos : 0 < count
  feedback_xor : ∀ a b, feedback (a ^^^ b) = feedback a ^^^ feedback b
  feedback_lt : ∀ a, feedback a < 2 ^ (bits * count)

namespace Register

variable (r : Register)

def kept : Nat := r.bits * (r.count - 1)

def step (c v : Nat) : Nat := ((c % 2 ^ r.kept) <<< r.bits) ^^^ v ^^^ r.feedback (c >>> r.kept)

def run (c : Nat) (vs : List Nat) : Nat := vs.foldl r.step c

theorem run_append (c : Nat) (us vs : List Nat) : r.run c (us ++ vs) = r.run (r.run c us) vs :=
  List.foldl_append

theorem kept_add : r.kept + r.bits = r.bits * r.count := by
  have h := r.count_pos
  rw [kept, Nat.mul_sub, Nat.mul_one, Nat.sub_add_cancel]
  exact Nat.le_mul_of_pos_right r.bits h

theorem feedback_zero : r.feedback 0 = 0 := by
  have h := r.feedback_xor 0 0
  rwa [Nat.xor_self, Nat.xor_self] at h

theorem step_xor (c c' v v' : Nat) : r.step (c ^^^ c') (v ^^^ v') = r.step c v ^^^ r.step c' v' := by
  rw [step, step, step, Nat.xor_mod_two_pow, Nat.shiftLeft_xor_distrib, Nat.shiftRight_xor_distrib,
    r.feedback_xor]
  ac_rfl

theorem step_lt (c : Nat) {v : Nat} (hv : v < 2 ^ r.bits) : r.step c v < 2 ^ (r.bits * r.count) := by
  have hbits : 2 ^ r.bits ≤ 2 ^ (r.bits * r.count) :=
    Nat.pow_le_pow_right (by decide) (Nat.le_mul_of_pos_right r.bits r.count_pos)
  refine Nat.xor_lt_two_pow (Nat.xor_lt_two_pow ?_ (lt_of_lt_of_le hv hbits)) (r.feedback_lt _)
  rw [Nat.shiftLeft_eq, ← kept_add, Nat.pow_add]
  exact Nat.mul_lt_mul_of_pos_right (Nat.mod_lt _ (Nat.two_pow_pos _)) (Nat.two_pow_pos _)

theorem step_small {c v : Nat} (hc : c < 2 ^ r.kept) (hv : v < 2 ^ r.bits) :
    r.step c v = c * 2 ^ r.bits + v := by
  have htop : c >>> r.kept = 0 := by
    rw [Nat.shiftRight_eq_div_pow, Nat.div_eq_of_lt hc]
  rw [step, Nat.mod_eq_of_lt hc, htop, feedback_zero, Nat.xor_zero, shiftLeft_xor hv]

theorem run_lt {c : Nat} (hc : c < 2 ^ (r.bits * r.count)) {vs : List Nat}
    (hvs : ∀ v ∈ vs, v < 2 ^ r.bits) : r.run c vs < 2 ^ (r.bits * r.count) := by
  induction vs generalizing c with
  | nil => exact hc
  | cons v vs ih =>
    exact ih (r.step_lt c (hvs v (.head _))) fun w hw => hvs w (List.mem_cons_of_mem v hw)

theorem run_last (c : Nat) {ws : List Nat} (hws : ∀ w ∈ ws, w < 2 ^ r.bits)
    (hlength : ws.length ≤ r.count) :
    r.run c ws = r.run c (List.replicate ws.length 0) ^^^ value (2 ^ r.bits) ws := by
  induction ws using List.reverseRecOn with
  | nil => rw [value_nil, Nat.xor_zero]; rfl
  | append_singleton ws w ih =>
    have hw : w < 2 ^ r.bits := hws w (List.mem_append_right _ (.head _))
    have hws' : ∀ v ∈ ws, v < 2 ^ r.bits := fun v hv => hws v (List.mem_append_left _ hv)
    rw [List.length_append, List.length_singleton] at hlength
    have hsmall : value (2 ^ r.bits) ws < 2 ^ r.kept := by
      refine lt_of_lt_of_le (value_lt (Nat.one_lt_two_pow (Nat.pos_iff_ne_zero.mp r.bits_pos)) hws') ?_
      rw [← Nat.pow_mul]
      refine Nat.pow_le_pow_right (by decide) (Nat.mul_le_mul_left _ ?_)
      omega
    have hlast : value (2 ^ r.bits) [w] = w := Nat.ofDigits_singleton
    have hsplit := r.step_xor (r.run c (List.replicate ws.length 0)) (value (2 ^ r.bits) ws) 0 w
    rw [Nat.zero_xor, r.step_small hsmall hw] at hsplit
    rw [run_append, ih hws' (by omega), List.length_append, List.length_singleton,
      List.replicate_succ', run_append, value_append, List.length_singleton, Nat.pow_one, hlast]
    exact hsplit

/-- **One checksum.** A message stops the register at a number exactly when its
last words are the digits of what that takes. -/
theorem run_append_iff (c target : Nat) (us : List Nat) {ws : List Nat}
    (hws : ∀ w ∈ ws, w < 2 ^ r.bits) (hlength : ws.length = r.count) :
    r.run c (us ++ ws) = target ↔
      value (2 ^ r.bits) ws = r.run c (us ++ List.replicate r.count 0) ^^^ target := by
  rw [run_append, run_append, r.run_last _ hws (Nat.le_of_eq hlength), hlength]
  constructor
  · rintro rfl
    rw [← Nat.xor_assoc, Nat.xor_self, Nat.zero_xor]
  · intro h
    rw [h, ← Nat.xor_assoc, Nat.xor_self, Nat.zero_xor]

def checksum (c target : Nat) (us : List Nat) : List Nat :=
  digits (2 ^ r.bits) r.count (r.run c (us ++ List.replicate r.count 0) ^^^ target)

theorem checksum_lt (c target : Nat) (us : List Nat) :
    ∀ w ∈ r.checksum c target us, w < 2 ^ r.bits := digits_lt (Nat.two_pow_pos _) _ _

@[simp] theorem length_checksum (c target : Nat) (us : List Nat) :
    (r.checksum c target us).length = r.count := length_digits _ _ _

theorem run_eq_iff_checksum {c target : Nat} (hc : c < 2 ^ (r.bits * r.count))
    (htarget : target < 2 ^ (r.bits * r.count)) {us ws : List Nat} (hus : ∀ u ∈ us, u < 2 ^ r.bits)
    (hws : ∀ w ∈ ws, w < 2 ^ r.bits) (hlength : ws.length = r.count) :
    r.run c (us ++ ws) = target ↔ ws = r.checksum c target us := by
  have hone : 1 < 2 ^ r.bits := Nat.one_lt_two_pow (Nat.pos_iff_ne_zero.mp r.bits_pos)
  have hvalue : value (2 ^ r.bits) (r.checksum c target us)
      = r.run c (us ++ List.replicate r.count 0) ^^^ target := by
    refine value_digits ?_
    rw [← Nat.pow_mul]
    refine Nat.xor_lt_two_pow (r.run_lt hc fun v hv => ?_) htarget
    rcases List.mem_append.mp hv with hv | hv
    · exact hus v hv
    · rw [List.eq_of_mem_replicate hv]
      exact Nat.two_pow_pos _
  rw [r.run_append_iff c target us hws hlength, ← hvalue]
  constructor
  · intro h
    exact value_inj hone (hlength.trans (r.length_checksum c target us).symm) hws
      (r.checksum_lt c target us) h
  · intro h
    rw [h]

/-- What is fed back shows in the word that has just been read. -/
def FeedsBack : Prop := ∀ a < 2 ^ r.bits, r.feedback a % 2 ^ r.bits = 0 → a = 0

theorem eq_zero_of_step (hback : r.FeedsBack) {c : Nat} (hc : c < 2 ^ (r.bits * r.count))
    (h : r.step c 0 = 0) : c = 0 := by
  have htop : c >>> r.kept < 2 ^ r.bits := by
    rw [Nat.shiftRight_eq_div_pow]
    exact Nat.div_lt_of_lt_mul (by rwa [← Nat.pow_add, kept_add])
  have hfeedback : r.feedback (c >>> r.kept) = (c % 2 ^ r.kept) <<< r.bits := by
    rw [step, Nat.xor_zero, Nat.xor_eq_zero_iff] at h
    exact h.symm
  -- the lowest word of the register is what was fed back, so that is zero
  have hzero := hback _ htop (by rw [hfeedback, Nat.shiftLeft_eq, Nat.mul_mod_left])
  have hsmall : c < 2 ^ r.kept := by
    rw [Nat.shiftRight_eq_div_pow, Nat.div_eq_zero_iff] at hzero
    exact hzero.resolve_left (Nat.two_pow_pos _).ne'
  rw [r.step_small hsmall (Nat.two_pow_pos _), Nat.add_zero, Nat.mul_eq_zero] at h
  exact h.resolve_right (Nat.two_pow_pos _).ne'

theorem eq_of_run (hback : r.FeedsBack) {a b : Nat} (ha : a < 2 ^ (r.bits * r.count))
    (hb : b < 2 ^ (r.bits * r.count)) {vs : List Nat} (hvs : ∀ v ∈ vs, v < 2 ^ r.bits)
    (h : r.run a vs = r.run b vs) : a = b := by
  induction vs generalizing a b with
  | nil => exact h
  | cons v vs ih =>
    have hv := hvs v (.head _)
    have hstep := ih (r.step_lt a hv) (r.step_lt b hv) (fun w hw => hvs w (.tail _ hw)) h
    have hzero := r.step_xor a b v v
    rw [hstep, Nat.xor_self, Nat.xor_self] at hzero
    exact Nat.xor_eq_zero_iff.mp (r.eq_zero_of_step hback (Nat.xor_lt_two_pow ha hb) hzero)

/-- **Errors that are close together are detected.** Messages that differ in as many words in a
row as the register holds, or in fewer, do not stop it at the same number. -/
theorem eq_of_run_burst (hback : r.FeedsBack) {c : Nat} (hc : c < 2 ^ (r.bits * r.count))
    {us ws ws' vs : List Nat} (hus : ∀ u ∈ us, u < 2 ^ r.bits) (hws : ∀ w ∈ ws, w < 2 ^ r.bits)
    (hws' : ∀ w ∈ ws', w < 2 ^ r.bits) (hvs : ∀ v ∈ vs, v < 2 ^ r.bits)
    (hlength : ws.length = ws'.length) (hcount : ws.length ≤ r.count)
    (h : r.run c (us ++ ws ++ vs) = r.run c (us ++ ws' ++ vs)) : ws = ws' := by
  have hu := r.run_lt hc hus
  rw [run_append, run_append, run_append, run_append] at h
  have hsame := r.eq_of_run hback (r.run_lt hu hws) (r.run_lt hu hws') hvs h
  rw [r.run_last _ hws hcount, r.run_last _ hws' (hlength ▸ hcount), hlength,
    Nat.xor_right_inj] at hsame
  exact value_inj (Nat.one_lt_two_pow (Nat.pos_iff_ne_zero.mp r.bits_pos)) hlength hws hws' hsame

end Register

end Keystone3.Bytes
