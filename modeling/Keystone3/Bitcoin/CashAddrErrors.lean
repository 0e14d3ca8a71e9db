import Keystone3.Bitcoin.CashAddr

/-!
# Mistyped addresses

The checksum of a CashAddr text has eight symbols. Of two texts that are read and
differ in at most eight characters in a row, the one is the other in another case
(`decode_burst`), so no mistake of that kind leads to an address.
-/

namespace Keystone3.Bitcoin.CashAddrCodec

open Logic (Outcome)

theorem feedsBack_cashAddrRegister : cashAddrRegister.FeedsBack := by
  unfold Bytes.Register.FeedsBack
  decide

theorem collect_append {s t : Text} {symbols : List UInt8}
    (h : Outcome.collect symbolOf (s ++ t) = .ok symbols) :
    ∃ us vs, symbols = us ++ vs ∧ Outcome.collect symbolOf s = .ok us
      ∧ Outcome.collect symbolOf t = .ok vs := by
  have hall := Outcome.collect_eq_ok.mp h
  have hsplit := List.take_append_drop s.length symbols
  refine ⟨symbols.take s.length, symbols.drop s.length, hsplit.symm, ?_, ?_⟩
  · have hfront := List.forall₂_take s.length hall
    rw [List.take_left] at hfront
    exact Outcome.collect_eq_ok.mpr hfront
  · have hback := List.forall₂_drop s.length hall
    rw [List.drop_left] at hback
    exact Outcome.collect_eq_ok.mpr hback

/-- **A burst of errors is detected.** Texts that are read and differ in eight characters in a
row at most are the same up to the case of these. -/
theorem decode_burst (chars : CharCase) (front burst burst' back : Text) (a a' : Address)
    (hlength : burst.length = burst'.length) (height : burst.length ≤ 8)
    (h : decode chars (front ++ burst ++ back) = .ok a)
    (h' : decode chars (front ++ burst' ++ back) = .ok a') :
    burst.map Char.toLower = burst'.map Char.toLower := by
  obtain ⟨us, ws, -, -, hread, -, hzero, -⟩ := decode_eq_ok h
  obtain ⟨us', ws', -, -, hread', -, hzero', -⟩ := decode_eq_ok h'
  obtain ⟨fb, vs, hsymbols, hfb, hback⟩ := collect_append hread
  obtain ⟨fs, bs, rfl, hfront, hburst⟩ := collect_append hfb
  obtain ⟨fb', vs', hsymbols', hfb', hback'⟩ := collect_append hread'
  obtain ⟨fs', bs', rfl, hfront', hburst'⟩ := collect_append hfb'
  -- what is the same around the errors is read as the same symbols
  cases hfront.symm.trans hfront'
  cases hback.symm.trans hback'
  rw [hsymbols, polymod_eq, Nat.xor_eq_zero_iff] at hzero
  rw [hsymbols', polymod_eq, Nat.xor_eq_zero_iff] at hzero'
  have hstop := hzero'.trans hzero.symm
  simp only [List.map_append, ← List.append_assoc] at hstop
  have hfsmall := map_toNat_lt (collect_symbolOf hfront).1
  have hexpand := map_toNat_lt isSymbol_expandPrefix
  have hburstlen : bs.length = burst.length := (Outcome.collect_eq_ok.mp hburst).length_eq.symm
  have hburstlen' : bs'.length = burst'.length := (Outcome.collect_eq_ok.mp hburst').length_eq.symm
  have hstart : 1 < 2 ^ (cashAddrRegister.bits * cashAddrRegister.count) := by decide
  have hsame := cashAddrRegister.eq_of_run_burst feedsBack_cashAddrRegister hstart
    (fun n hn => (List.mem_append.mp hn).elim (hexpand n) (hfsmall n))
    (map_toNat_lt (collect_symbolOf hburst').1) (map_toNat_lt (collect_symbolOf hburst).1)
    (map_toNat_lt (collect_symbolOf hback).1) (by simp [hburstlen, hburstlen', hlength])
    (by rw [List.length_map, hburstlen', ← hlength]; exact height) hstop
  rw [← (collect_symbolOf hburst).2.2, ← (collect_symbolOf hburst').2.2,
    List.map_injective_iff.mpr (fun _ _ => UInt8.toNat_inj.mp) hsame]

set_option maxRecDepth 16384 in
theorem decode_burst_zeroText :
    ("nhks6".toList).map Char.toLower = ("nhks6".toList).map Char.toLower :=
  decode_burst asciiCase (zeroText.take 35) "nhks6".toList "nhks6".toList (zeroText.drop 40)
    ⟨.p2pkh (List.replicate 20 0), .bitcoinCash⟩ ⟨.p2pkh (List.replicate 20 0), .bitcoinCash⟩ rfl
    (by decide) (by decide) (by decide)

end Keystone3.Bitcoin.CashAddrCodec
