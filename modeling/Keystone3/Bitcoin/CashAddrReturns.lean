import Keystone3.Bitcoin.AddressText

/-!
# When reading an address panics

The reader of CashAddr texts takes eight symbols of checksum off the end and then looks
at the first byte of what they leave. That there are eight symbols need not be checked:
no shorter text has a checksum that is right (`polymod_ne_zero`). That they leave a byte
is not checked at all, and one symbol is five bits.

So the reader panics on the checksum of the bare prefix and on those of one symbol more,
and on nothing else (`returns_decode`).
-/

namespace Keystone3.Bitcoin

open Bytes (value value_lt)
open Logic (Outcome)
open Logic.Outcome (Returns returns_ok returns_error returns_bind returns_index)

namespace CashAddrCodec

theorem run_dashPrefix : ∀ count < 8, (2 ^ 5) ^ count ≤
    cashAddrRegister.run (cashAddrRegister.run 1 ((expandPrefix dashPrefix).map UInt8.toNat))
      (List.replicate count 0) ^^^ 1 := by decide

variable {symbols : List UInt8}

theorem polymod_ne_zero (hsymbols : ∀ d ∈ symbols, IsSymbol d)
    (hshort : symbols.length < 8) : polymod (expandPrefix dashPrefix ++ symbols) ≠ 0 := by
  intro hzero
  have hbound := run_dashPrefix symbols.length hshort
  have hlt := value_lt (by decide : 1 < 2 ^ 5) (map_toNat_lt hsymbols)
  rw [polymod_eq, Nat.xor_eq_zero_iff, List.map_append, Bytes.Register.run_append] at hzero
  generalize cashAddrRegister.run 1 ((expandPrefix dashPrefix).map UInt8.toNat) = c at hbound hzero
  have hrun := cashAddrRegister.run_last c (map_toNat_lt hsymbols)
    (by rw [List.length_map]; exact Nat.le_of_lt hshort)
  rw [List.length_map] at hrun hlt
  rw [hrun] at hzero
  -- the symbols are the digits of all that has to change
  have hvalue : cashAddrRegister.run c (List.replicate symbols.length 0) ^^^ 1
      = value (2 ^ 5) (symbols.map UInt8.toNat) := by
    rw [← hzero, ← Nat.xor_assoc, Nat.xor_self, Nat.zero_xor]
    rfl
  omega

theorem convertBits_eq_nil_iff (hsymbols : ∀ d ∈ symbols, IsSymbol d) :
    convertBits symbols 5 8 false = [] ↔ symbols.length ≤ 1 := by
  obtain ⟨hlength, -, -⟩ := @convertBits_cut 8 5 (by decide) (by decide) (by decide)
    symbols hsymbols
  rw [← List.length_eq_zero_iff, hlength]
  omega

theorem returns_decodePayload {payload : List UInt8} :
    Returns (decodePayload payload) ↔ payload ≠ [] := by
  rw [decodePayload, returns_bind, returns_index, List.length_pos_iff]
  refine and_iff_left fun version _ => ?_
  -- from here on the code has only values and errors
  dsimp only
  split
  · exact returns_error _
  · split
    · exact returns_error _
    · split
      · exact returns_error _
      · exact returns_ok _

def BareChecksum (symbols : List UInt8) : Prop :=
  ∃ us, (∀ d ∈ us, IsSymbol d) ∧ us.length ≤ 1 ∧ symbols = us ++ checksumSymbols us

theorem returns_decodeSymbols (hsymbols : ∀ d ∈ symbols, IsSymbol d) :
    Returns (decodeSymbols symbols) ↔ ¬BareChecksum symbols := by
  have hhead : ∀ n, ∀ d ∈ symbols.take n, IsSymbol d := fun n d hd =>
    hsymbols d (List.mem_of_mem_take hd)
  have hlast : ∀ n, ∀ d ∈ symbols.drop n, IsSymbol d := fun n d hd =>
    hsymbols d (List.mem_of_mem_drop hd)
  unfold decodeSymbols
  by_cases hzero : polymod (expandPrefix dashPrefix ++ symbols) = 0
  · have hlong : 8 ≤ symbols.length :=
      Nat.le_of_not_lt fun hshort => polymod_ne_zero hsymbols hshort hzero
    rw [if_neg (not_not.mpr hzero), if_neg (Nat.not_lt.mpr hlong), returns_decodePayload, Ne,
      not_iff_not, convertBits_eq_nil_iff (hhead _), List.length_take]
    constructor
    · intro hnone
      refine ⟨symbols.take (symbols.length - 8), hhead _, by rw [List.length_take]; omega, ?_⟩
      -- the last eight symbols are the checksum of the others
      rw [← List.take_append_drop (symbols.length - 8) symbols, polymod_eq_zero_iff (hhead _)
        (hlast _) (by rw [List.length_drop]; omega)] at hzero
      rw [← hzero, List.take_append_drop]
    · intro hbare
      obtain ⟨us, -, hone, hsplit⟩ := hbare
      rw [hsplit, List.length_append, length_checksumSymbols]
      omega
  · rw [if_pos hzero]
    refine iff_of_true (returns_error _) fun hbare => hzero ?_
    obtain ⟨us, hus, -, rfl⟩ := hbare
    have hright := polymod_eq_zero_iff hus (isSymbol_checksumSymbols us) (length_checksumSymbols us)
    exact hright.mpr rfl

theorem symbolOf_toLower {c : Char} {d : UInt8} (hd : IsSymbol d)
    (h : c.toLower = charset.getD d.toNat 'q') : symbolOf c = .ok d := by
  have hall : ∀ n < 91, 65 ≤ n →
      symbolOf (Char.ofNat n) = symbolOf (Char.ofNat n).toLower := by decide
  have hsame : symbolOf c = symbolOf c.toLower := by
    rcases Address.toLower_cases c with hc | ⟨n, hn, hlow, rfl⟩
    · rw [hc]
    · exact hall n hn hlow
  rw [hsame, h, symbolOf_charset hd]

theorem collect_symbolOf_iff {s : Text} :
    Outcome.collect symbolOf s = .ok symbols
      ↔ (∀ d ∈ symbols, IsSymbol d) ∧ s.map Char.toLower = text symbols := by
  constructor
  · intro h
    obtain ⟨hsymbols, -, htext⟩ := collect_symbolOf h
    exact ⟨hsymbols, htext.symm⟩
  · rintro ⟨hsymbols, htext⟩
    rw [Outcome.collect_eq_ok]
    induction s generalizing symbols with
    | nil =>
      cases symbols with
      | nil => exact .nil
      | cons d symbols => cases htext
    | cons c s ih =>
      cases symbols with
      | nil => cases htext
      | cons d symbols =>
        obtain ⟨hd, hrest⟩ := List.forall_mem_cons.mp hsymbols
        obtain ⟨hc, hs⟩ := List.cons.inj htext
        exact .cons (symbolOf_toLower hd hc) (ih hrest hs)

/-- The letters of a text, as far as they are looked at, are of one case. -/
def OneCase (chars : CharCase) : Text → Prop
  | [] => True
  | first :: rest => mixedCase chars first rest = false

/-- A text that is a checksum and nothing more: of the prefix, or of one symbol behind it. -/
def IsBareChecksum (chars : CharCase) (s : Text) : Prop :=
  OneCase chars s ∧ ∃ us, (∀ d ∈ us, IsSymbol d) ∧ us.length ≤ 1
    ∧ s.map Char.toLower = text (us ++ checksumSymbols us)

theorem isBareChecksum_iff {chars : CharCase} {s : Text}
    (hread : Outcome.collect symbolOf s = .ok symbols) :
    IsBareChecksum chars s ↔ OneCase chars s ∧ BareChecksum symbols := by
  obtain ⟨hsymbols, htext⟩ := collect_symbolOf_iff.mp hread
  refine and_congr_right fun _ => exists_congr fun us => and_congr_right fun hus =>
    and_congr_right fun _ => ?_
  rw [htext]
  exact ⟨text_inj hsymbols (isSymbol_append_checksumSymbols hus), congrArg text⟩

/-- **What panics in `decode`**: a checksum and nothing more. -/
theorem returns_decode (chars : CharCase) (s : Text) :
    Returns (decode chars s) ↔ ¬IsBareChecksum chars s := by
  cases s with
  | nil =>
    refine iff_of_true (returns_error _) fun hbare => ?_
    obtain ⟨-, us, -, -, htext⟩ := hbare
    have hlength := congrArg List.length htext
    rw [text, List.map_nil, List.length_map, List.length_append, length_checksumSymbols] at hlength
    cases hlength
  | cons first rest =>
    rw [decode]
    by_cases hmixed : mixedCase chars first rest = true
    · rw [if_pos hmixed]
      refine iff_of_true (returns_error _) fun hbare => ?_
      cases hbare.1.symm.trans hmixed
    · have hcase : OneCase chars (first :: rest) := Bool.eq_false_of_not_eq_true hmixed
      rw [if_neg hmixed]
      cases hread : Outcome.collect symbolOf (first :: rest) with
      | ok symbols =>
        rw [isBareChecksum_iff hread, and_iff_right hcase]
        exact returns_decodeSymbols (collect_symbolOf hread).1
      | error e =>
        refine iff_of_true (returns_error e) fun hbare => ?_
        -- a text that is read has no error
        obtain ⟨-, us, hus, -, htext⟩ := hbare
        have hok := collect_symbolOf_iff.mpr ⟨isSymbol_append_checksumSymbols hus, htext⟩
        rw [hread] at hok
        cases hok
      | halted =>
        refine absurd hread (Outcome.Returns.collect fun c _ => ?_)
        rcases Address.symbolOf_ok_or_error c with ⟨d, hd⟩ | herror
        · rw [hd]
          exact returns_ok d
        · rw [herror]
          exact returns_error _

end CashAddrCodec

/-- `segwit::decode` gives a version from 0 to 16 and a program of at most 40 bytes. -/
structure TextLib.Bounded (texts : TextLib) : Prop where
  version_le : ∀ s hrp version program, texts.segwitDecode s = .ok (hrp, version, program) →
    version.toNat ≤ 16
  program_length_le : ∀ s hrp version program,
    texts.segwitDecode s = .ok (hrp, version, program) → program.length ≤ 40

namespace Address

theorem fromSegwit_returns {texts : TextLib} (htexts : texts.Bounded) (network : Network)
    (s : Text) : Returns (fromSegwit texts network s) := by
  unfold fromSegwit
  split
  · exact returns_error _
  · rename_i hrp version program hread
    have hversion := htexts.version_le s hrp version program hread
    have hprogram := htexts.program_length_le s hrp version program hread
    -- the two `expect`s are kept
    rw [if_neg (by omega)]
    split
    · exact returns_error _
    · exact returns_ok _

theorem fromBase58_returns (texts : TextLib) (s : Text) : Returns (fromBase58 texts s) := by
  unfold fromBase58
  split
  · exact returns_error _
  · split
    · exact returns_error _
    · split
      · exact returns_error _
      · split
        · exact returns_ok _
        · exact returns_error _

theorem fromStr_returns {texts : TextLib} (htexts : texts.Bounded) (chars : CharCase) (s : Text) :
    Returns (fromStr texts chars s) ↔ Returns (CashAddrCodec.decode chars s) := by
  unfold fromStr
  cases CashAddrCodec.decode chars s with
  | ok address => exact iff_of_true (returns_ok address) (returns_ok address)
  | halted => exact Iff.rfl
  | error e =>
    refine iff_of_true ?_ (returns_error e)
    dsimp only
    split
    · exact fromSegwit_returns htexts _ s
    · exact fromBase58_returns texts s

/-- **When a text is read without a panic**, as a CashAddr text and as any address: exactly
when it is more than a checksum. -/
theorem fromStr_returns_iff {texts : TextLib} (htexts : texts.Bounded) (chars : CharCase)
    (s : Text) :
    (Returns (CashAddrCodec.decode chars s) ↔ ¬CashAddrCodec.IsBareChecksum chars s)
      ∧ (Returns (fromStr texts chars s) ↔ ¬CashAddrCodec.IsBareChecksum chars s) := by
  have hdecode := CashAddrCodec.returns_decode chars s
  exact ⟨hdecode, (fromStr_returns htexts chars s).trans hdecode⟩

theorem zerosTexts_bounded : zerosTexts.Bounded where
  version_le _ _ _ _ h := by cases h
  program_length_le _ _ _ _ h := by cases h

theorem fromStr_returns_iff_zeros :
    (Returns (CashAddrCodec.decode CashAddrCodec.asciiCase zerosAddress)
        ↔ ¬CashAddrCodec.IsBareChecksum CashAddrCodec.asciiCase zerosAddress)
      ∧ (Returns (fromStr zerosTexts CashAddrCodec.asciiCase zerosAddress)
        ↔ ¬CashAddrCodec.IsBareChecksum CashAddrCodec.asciiCase zerosAddress) :=
  fromStr_returns_iff zerosTexts_bounded CashAddrCodec.asciiCase zerosAddress

def prefixChecksum : Text := ['a', '5', 'a', '8', 'y', 'r', 'h', 'z']

/-- **A panic**: eight letters with a checksum that is right. -/
theorem fromStr_prefixChecksum :
    ¬Returns (CashAddrCodec.decode CashAddrCodec.asciiCase prefixChecksum)
      ∧ ¬Returns (fromStr zerosTexts CashAddrCodec.asciiCase prefixChecksum) := by
  have hdecode : CashAddrCodec.decode CashAddrCodec.asciiCase prefixChecksum = .halted := by
    decide
  have hread : fromStr zerosTexts CashAddrCodec.asciiCase prefixChecksum = .halted := by
    rw [fromStr, hdecode]
  exact ⟨fun h => h hdecode, fun h => h hread⟩

end Address

end Keystone3.Bitcoin
