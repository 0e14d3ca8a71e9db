import Mathlib.Algebra.Order.BigOperators.Group.List
import Mathlib.Data.Nat.ModEq
import Keystone3.Monero.Unsigned

/-!
# The amounts that are shown

Of a request three amounts are shown in total: what goes in, what comes out and the fee.
`reportsAmounts_iff`: the totals are right exactly for a request without a fee, whose
sums do not wrap.
-/

namespace Keystone3.Monero

open Logic (Outcome)

theorem sum_mod_eq {α : Type} (f : α → Nat) (n : Nat) (items : List α) :
    (items.map fun item => f item % n).sum % n = (items.map f).sum % n := by
  rw [List.sum_nat_mod (items.map f), List.map_map]
  rfl

theorem toNat_total {α : Type} (f : α → UInt64) (items : List α) :
    ((items.map f).foldl (· + ·) 0).toNat = (items.map fun item => (f item).toNat).sum % 2 ^ 64 := by
  rw [toNat_foldl_add, UInt64.toNat_zero, Nat.zero_add, List.map_map]
  rfl

theorem eq_of_sum_eq {α : Type} {f g : α → Nat} {items : List α}
    (hle : ∀ item ∈ items, f item ≤ g item) (h : (items.map f).sum = (items.map g).sum) :
    ∀ item ∈ items, f item = g item := by
  induction items with
  | nil =>
    intro item hitem
    cases hitem
  | cons first items ih =>
    obtain ⟨hfirst, hrest⟩ := List.forall_mem_cons.mp hle
    have hsums : (items.map f).sum ≤ (items.map g).sum := List.sum_le_sum hrest
    rw [List.map_cons, List.map_cons, List.sum_cons, List.sum_cons] at h
    intro item hitem
    rcases List.mem_cons.mp hitem with rfl | hitem
    · omega
    · exact ih hrest (by omega) item hitem

namespace UnsignedTx

def spent (unsigned : UnsignedTx) : Nat := (unsigned.txes.map (·.spent)).sum

def paid (unsigned : UnsignedTx) : Nat := (unsigned.txes.map (·.paid)).sum

/-- The request makes sense: its sums fit a number of 64 bits, and no transaction pays more
than it spends. -/
structure Consistent (unsigned : UnsignedTx) : Prop where
  spent_lt : unsigned.spent < 2 ^ 64
  paid_le : ∀ tx ∈ unsigned.txes, tx.paid ≤ tx.spent

/-- What is shown are the exact sums and their difference. -/
structure ReportsTotals (fmt : UInt64 → List Char) (unsigned : UnsignedTx)
    (info : DisplayTransactionInfo) : Prop where
  input : ∃ amount, info.inputAmount = fmt amount ∧ amount.toNat = unsigned.spent
  output : ∃ amount, info.outputAmount = fmt amount ∧ amount.toNat = unsigned.paid
  fee : ∃ amount, info.fee = fmt amount ∧ amount.toNat + unsigned.paid = unsigned.spent

/-- The totals of a request are shown, however an amount is written, and a request that makes
no sense is refused. -/
def ReportsAmounts (unsigned : UnsignedTx) : Prop :=
  ∀ fmt : UInt64 → List Char,
    (unsigned.Consistent → ∃ info, unsigned.displayInfo fmt = .ok info
      ∧ ReportsTotals fmt unsigned info)
    ∧ (¬unsigned.Consistent → Outcome.Fails (unsigned.displayInfo fmt))

/-- Every real output is among the outputs of its source. -/
def RealOutputs (unsigned : UnsignedTx) : Prop :=
  ∀ tx ∈ unsigned.txes, ∀ source ∈ tx.sources, asUsize source.realOutput < source.outputs.length

variable {unsigned : UnsignedTx}

theorem Consistent.paid_le_spent (h : unsigned.Consistent) : unsigned.paid ≤ unsigned.spent :=
  List.sum_le_sum h.paid_le

theorem displayInput_ne_error (fmt : UInt64 → List Char) (source : TxSourceEntry) :
    ¬Outcome.Fails (displayInput fmt source) := by
  unfold displayInput
  rw [Outcome.fails_bind]
  rintro (h | ⟨output, -, h⟩)
  · exact Outcome.not_fails_index h
  · exact Outcome.not_fails_ok _ h

theorem not_fails_displayInfo (fmt : UInt64 → List Char) :
    ¬Outcome.Fails (unsigned.displayInfo fmt) := by
  unfold displayInfo
  rw [Outcome.fails_bind]
  rintro (h | ⟨inputs, -, h⟩)
  · exact Outcome.not_fails_collect (fun source _ => displayInput_ne_error fmt source) h
  · exact Outcome.not_fails_ok _ h

theorem returns_displayInfo_iff (fmt : UInt64 → List Char) :
    Outcome.Returns (unsigned.displayInfo fmt) ↔ unsigned.RealOutputs := by
  have hinput : ∀ source, Outcome.Returns (displayInput fmt source)
      ↔ asUsize source.realOutput < source.outputs.length := fun source =>
    Outcome.returns_bind.trans ((and_iff_left fun _ _ => Outcome.returns_ok _).trans
      Outcome.returns_index)
  have hcollect : Outcome.Returns (Outcome.collect (displayInput fmt)
      (unsigned.txes.flatMap (·.sources))) ↔ _ :=
    Outcome.returns_collect_iff fun source _ => displayInput_ne_error fmt source
  refine (Outcome.returns_bind.trans (and_iff_left fun _ _ => Outcome.returns_ok _)).trans ?_
  rw [hcollect]
  simp only [hinput, List.mem_flatMap, RealOutputs]
  constructor
  · intro h tx htx source hsource
    exact h source ⟨tx, htx, hsource⟩
  · rintro h source ⟨tx, htx, hsource⟩
    exact h tx htx source hsource

theorem displayInfo_totals {fmt : UInt64 → List Char} {info : DisplayTransactionInfo}
    (h : unsigned.displayInfo fmt = .ok info) :
    ∃ input output fee, info.inputAmount = fmt input ∧ info.outputAmount = fmt output
      ∧ info.fee = fmt fee ∧ input.toNat = unsigned.paid % 2 ^ 64
      ∧ output.toNat = unsigned.spent % 2 ^ 64
      ∧ fee.toNat = (unsigned.txes.map fun tx => tx.fee.toNat).sum % 2 ^ 64 := by
  obtain ⟨inputs, -, h⟩ := Outcome.bind_eq_ok.mp h
  cases h
  refine ⟨_, _, _, rfl, rfl, rfl, ?_, ?_, toNat_total _ _⟩
  · simp only [toNat_total, TxConstructionData.toNat_inputsAmount]
    exact sum_mod_eq _ _ _
  · simp only [toNat_total, TxConstructionData.toNat_outputsAmount]
    exact sum_mod_eq _ _ _

def strokes (amount : UInt64) : List Char := List.replicate amount.toNat '|'

theorem strokes_inj {a b : UInt64} (h : strokes a = strokes b) : a.toNat = b.toNat := by
  have hlength := congrArg List.length h
  rwa [strokes, strokes, List.length_replicate, List.length_replicate] at hlength

theorem ReportsAmounts.spec (h : unsigned.ReportsAmounts) :
    unsigned.Consistent ∧ unsigned.paid = unsigned.spent ∧ unsigned.RealOutputs := by
  have hconsistent : unsigned.Consistent := by
    by_contra hnot
    exact not_fails_displayInfo _ ((h strokes).2 hnot)
  obtain ⟨info, hinfo, hreports⟩ := (h strokes).1 hconsistent
  obtain ⟨input, output, fee, hinput, -, -, hpaid, -, -⟩ := displayInfo_totals hinfo
  obtain ⟨amount, hamount, hspent⟩ := hreports.input
  have hsame := strokes_inj (hinput.symm.trans hamount)
  have hle := hconsistent.paid_le_spent
  have hlt := hconsistent.spent_lt
  refine ⟨hconsistent, by omega, (returns_displayInfo_iff strokes).mp ?_⟩
  rw [hinfo]
  exact Outcome.returns_ok info

/-- **When the totals are right**: exactly if no transaction leaves a fee, the sums fit a number
of 64 bits, and every real output is there. -/
theorem reportsAmounts_iff (unsigned : UnsignedTx) :
    unsigned.ReportsAmounts ↔ unsigned.spent < 2 ^ 64
      ∧ (∀ tx ∈ unsigned.txes, tx.paid = tx.spent) ∧ unsigned.RealOutputs := by
  constructor
  · intro h
    obtain ⟨hconsistent, hsame, hreal⟩ := h.spec
    exact ⟨hconsistent.spent_lt, eq_of_sum_eq hconsistent.paid_le hsame, hreal⟩
  · rintro ⟨hlt, hsame, hreal⟩ fmt
    have hconsistent : unsigned.Consistent := ⟨hlt, fun tx htx => (hsame tx htx).le⟩
    refine ⟨fun _ => ?_, fun hnot => absurd hconsistent hnot⟩
    have htotal : unsigned.paid = unsigned.spent := congrArg List.sum (List.map_congr_left hsame)
    have hfees : (unsigned.txes.map fun tx => tx.fee.toNat).sum = 0 := by
      refine List.sum_eq_zero fun fee hfee => ?_
      obtain ⟨tx, htx, rfl⟩ := List.mem_map.mp hfee
      have hfee := tx.fee_iff.mpr ⟨(hsame tx htx).le, by have := hsame tx htx; omega⟩
      have := hsame tx htx
      omega
    cases hinfo : unsigned.displayInfo fmt with
    | ok info =>
      obtain ⟨input, output, fee, hinput, houtput, hfee, hpaid, hspent, hrest⟩ :=
        displayInfo_totals hinfo
      exact ⟨info, rfl, ⟨input, hinput, by omega⟩, ⟨output, houtput, by omega⟩,
        ⟨fee, hfee, by omega⟩⟩
    | error e => exact absurd ⟨e, hinfo⟩ (not_fails_displayInfo fmt)
    | halted => exact absurd hinfo ((returns_displayInfo_iff fmt).mpr hreal)

/-- Ten are spent and two are paid: eight are the fee, and what is shown as spent is two. -/
theorem not_reportsAmounts_smallRequest : ¬ReportsAmounts ⟨[smallRequest 0 []]⟩ := by
  intro h
  have hsame : UnsignedTx.paid ⟨[smallRequest 0 []]⟩ = UnsignedTx.spent ⟨[smallRequest 0 []]⟩ :=
    h.spec.2.1
  cases hsame

end UnsignedTx

end Keystone3.Monero
