import Keystone3.Bitcoin.WalletRoundTrip

/-!
# The policy of a multisig wallet

`is_valid_multi_sig_policy` is meant to bound the total and the threshold, but its last
comparison stands behind an `or`: any policy with a threshold passes, and
`create_wallet` hands it the two numbers the other way round.

The numbers of a wallet that is accepted are those of its parameters, or of the file
that it was read from (`readLines_counts`), and they are a proper policy where those are
(`policy_proper_iff`).
-/

namespace Keystone3.Bitcoin

open Bytes (trim lines splitText parseUnsigned)
open Logic (Outcome)
open Logic.Outcome (bind_eq_ok)

structure ProperPolicy (wallet : MultiSigWalletFile) : Prop where
  total : 2 ≤ wallet.total ∧ wallet.total ≤ 15
  threshold : 1 ≤ wallet.threshold ∧ wallet.threshold ≤ wallet.total
  keys : wallet.xpubItems.length = wallet.total.toNat

/-- A threshold for a number of keys that a wallet can have. -/
structure PolicyInRange (threshold : UInt32) (count : Nat) : Prop where
  count_ge : 2 ≤ count
  count_le : count ≤ 15
  threshold_ge : 1 ≤ threshold
  threshold_le : threshold.toNat ≤ count

theorem properPolicy_iff {wallet : MultiSigWalletFile} {xfp : Text}
    (h : verifyWalletConfig wallet xfp = .ok ()) :
    ProperPolicy wallet ↔ PolicyInRange wallet.threshold wallet.xpubItems.length := by
  obtain ⟨-, htotal, -, -⟩ := verifyWalletConfig_eq_ok.mp h
  constructor
  · rintro ⟨⟨hge, hle⟩, ⟨hpos, hthreshold⟩, hkeys⟩
    rw [UInt32.le_iff_toNat_le] at hge hle hthreshold
    rw [hkeys]
    exact ⟨hge, hle, hpos, hthreshold⟩
  · rintro ⟨hge, hle, hpos, hthreshold⟩
    -- the total is the number of keys, cut to 32 bits
    have hcount : wallet.total.toNat = wallet.xpubItems.length := by
      rw [htotal, UInt32.toNat_ofNat', Nat.mod_eq_of_lt (by omega)]
    refine ⟨⟨?_, ?_⟩, ⟨hpos, ?_⟩, hcount.symm⟩
    · rw [UInt32.le_iff_toNat_le, hcount]
      exact hge
    · rw [UInt32.le_iff_toNat_le, hcount]
      exact hle
    · rw [UInt32.le_iff_toNat_le, hcount]
      exact hthreshold

def labelOf (line : Text) : Option (Text × Text) :=
  if Text.startsWith (trim line) ['#'] then none
  else match line.splitOn ':' with
    | [label, value] => some (trim label, trim value)
    | _ => none

def lineThreshold (line : Text) : Option UInt32 :=
  match labelOf line with
  | some (label, value) =>
    if label = policyLabel then
      match splitText policySeparator value with
      | [threshold, _] => (parseUnsigned (2 ^ 32) threshold).map UInt32.ofNat
      | _ => none
    else none
  | none => none

def isKeyLine (line : Text) : Bool :=
  match labelOf line with
  | some (label, _) => decide (label ∉ [nameLabel, policyLabel, formatLabel, derivationLabel])
  | none => false

def fileThreshold (content : Text) : UInt32 :=
  (lines content).foldl (fun threshold line => (lineThreshold line).getD threshold) 0

def fileKeys (content : Text) : Nat := (lines content).countP isKeyLine

section

variable {keys : KeyLib} {wallet wallet' : MultiSigWalletFile}

theorem readLine_counts {line : Text} (h : readLine keys wallet line = .ok wallet') :
    wallet'.threshold = (lineThreshold line).getD wallet.threshold ∧
      wallet'.xpubItems.length = wallet.xpubItems.length + (isKeyLine line).toNat := by
  unfold readLine at h
  unfold lineThreshold isKeyLine labelOf
  by_cases hcomment : Text.startsWith (trim line) ['#'] = true
  · rw [if_pos hcomment] at h ⊢
    cases h
    unfold readComment
    split
    · exact ⟨rfl, rfl⟩
    · split
      · exact ⟨rfl, rfl⟩
      · exact ⟨rfl, rfl⟩
  rw [if_neg hcomment] at h ⊢
  -- a line of other than two parts says nothing
  generalize List.splitOn ':' line = parts at h ⊢
  rcases parts with _ | ⟨label, _ | ⟨value, _ | ⟨_, _⟩⟩⟩
  · cases h
    exact ⟨rfl, rfl⟩
  · cases h
    exact ⟨rfl, rfl⟩
  · dsimp only at h ⊢
    generalize trim label = label at h ⊢
    unfold readLabelled at h
    -- only the policy line has a threshold, and only a label that is not known has a key
    split at h
    · next hname =>
      cases h
      subst hname
      exact ⟨rfl, rfl⟩
    split at h
    · next hname hpolicy =>
      subst hpolicy
      rw [if_pos rfl]
      unfold parseAndSetPolicy at h
      generalize splitText policySeparator (trim value) = parts at h ⊢
      rcases parts with _ | ⟨threshold, _ | ⟨total, _ | ⟨_, _⟩⟩⟩
      · cases h
        exact ⟨rfl, rfl⟩
      · cases h
        exact ⟨rfl, rfl⟩
      · dsimp only at h ⊢
        obtain ⟨t, ht, h⟩ := bind_eq_ok.mp h
        obtain ⟨n, hn, h⟩ := bind_eq_ok.mp h
        split at h
        · cases h
          rw [Outcome.okOr_eq_ok.mp ht]
          exact ⟨rfl, rfl⟩
        · cases h
      · cases h
        exact ⟨rfl, rfl⟩
    split at h
    · next hname hpolicy hformat =>
      cases h
      subst hformat
      exact ⟨rfl, rfl⟩
    split at h
    · next hname hpolicy hformat hderivation =>
      cases h
      subst hderivation
      exact ⟨rfl, rfl⟩
    · next hname hpolicy hformat hderivation =>
      have hother : label ∉ [nameLabel, policyLabel, formatLabel, derivationLabel] := by
        simp [hname, hpolicy, hformat, hderivation]
      rw [if_neg hpolicy, decide_eq_true hother]
      unfold processXpubAndXfp at h
      split at h
      · split at h
        · obtain ⟨⟨⟩, -, h⟩ := bind_eq_ok.mp h
          cases h
          exact ⟨rfl, List.length_append⟩
        · cases h
      · cases h
  · cases h
    exact ⟨rfl, rfl⟩

theorem readLines_counts {ls : List Text} (h : readLines keys wallet ls = .ok wallet') :
    wallet'.threshold
        = ls.foldl (fun threshold line => (lineThreshold line).getD threshold) wallet.threshold ∧
      wallet'.xpubItems.length = wallet.xpubItems.length + ls.countP isKeyLine := by
  induction ls generalizing wallet with
  | nil =>
    cases h
    exact ⟨rfl, rfl⟩
  | cons line ls ih =>
    obtain ⟨next, hnext, hrest⟩ := bind_eq_ok.mp h
    obtain ⟨hthreshold, hcount⟩ := readLine_counts hnext
    obtain ⟨hthreshold', hcount'⟩ := ih hrest
    refine ⟨?_, ?_⟩
    · rw [hthreshold', hthreshold, List.foldl_cons]
    · rw [hcount', hcount, List.countP_cons]
      cases isKeyLine line with
      | false => exact rfl
      | true => exact Nat.add_right_comm _ _ _

end

theorem createWallet_verified {keys : KeyLib} {creator name format xfp : Text}
    {threshold total : UInt32} {xpubInfos : List (Text × MultiSigXPubItem)}
    {network : MultiSigNetwork} {wallet : MultiSigWalletFile}
    (h : createWallet keys creator name threshold total format xpubInfos network xfp
      = .ok wallet) : verifyWalletConfig wallet xfp = .ok () := by
  unfold createWallet at h
  split at h
  · cases h
  obtain ⟨first, -, h⟩ := bind_eq_ok.mp h
  obtain ⟨⟨⟩, hverify, h⟩ := bind_eq_ok.mp h
  obtain ⟨text, -, h⟩ := bind_eq_ok.mp h
  obtain ⟨code, code', code'', -, -, -, rfl⟩ := calculateWalletVerifyCode_eq_ok.mp h
  exact hverify

/-- **When a wallet that is accepted has a proper policy**: exactly when the parameters, or the
lines of the file, have two to fifteen keys and a threshold for them. -/
theorem policy_proper_iff (keys : KeyLib) :
    (∀ (creator name : Text) (threshold total : UInt32) (format : Text)
      (xpubInfos : List (Text × MultiSigXPubItem)) (network : MultiSigNetwork) (xfp : Text)
      (wallet : MultiSigWalletFile),
      createWallet keys creator name threshold total format xpubInfos network xfp = .ok wallet →
        (ProperPolicy wallet ↔ PolicyInRange threshold xpubInfos.length)) ∧
    ∀ (content xfp : Text) (wallet : MultiSigWalletFile),
      parseWalletConfig keys content xfp = .ok wallet →
        (ProperPolicy wallet ↔ PolicyInRange (fileThreshold content) (fileKeys content)) := by
  constructor
  · intro creator name threshold total format xpubInfos network xfp wallet h
    obtain ⟨-, -, hthreshold, -, hitems, -⟩ := createWallet_fields h
    rw [properPolicy_iff (createWallet_verified h), hthreshold, hitems, List.length_map]
  · intro content xfp wallet h
    obtain ⟨read, network, code, code', hread, -, hverify, rfl⟩ := parseWalletConfig_eq_ok h
    have hchecked : verifyWalletConfig { read with
        network, configText := content, verifyWithoutMfp := code, verifyCode := code' } xfp
          = .ok () := hverify
    obtain ⟨hthreshold, hcount⟩ := readLines_counts hread
    rw [properPolicy_iff hchecked]
    show PolicyInRange read.threshold read.xpubItems.length ↔ _
    rw [hthreshold, hcount]
    exact Iff.of_eq (congrArg _ (Nat.zero_add _))

/-- A wallet that two of two can spend from, and its file. -/
theorem policy_proper_sample : ∃ wallet text read, walletNamed ['a', 'b'] = .ok wallet ∧
    parseWalletConfig zeroLib text ['7', '3', 'C', '5', 'D', 'A', '0', 'A'] = .ok read ∧
    ProperPolicy wallet ∧ PolicyInRange (fileThreshold text) (fileKeys text) := by
  obtain ⟨wallet, hwallet⟩ := Outcome.exists_of_isOk (walletNamed_isOk ['a', 'b'])
  have hproper : ProperPolicy wallet :=
    ((policy_proper_iff zeroLib).1 _ _ _ _ _ _ _ _ wallet hwallet).mpr
      ⟨by decide, by decide, by decide, by decide⟩
  obtain ⟨hl, ho, hx, hmain⟩ := walletNamed_legible ⟨by decide, by decide, by decide⟩ hwallet
  obtain ⟨text, read, -, hread, hsame⟩ :=
    comesBack_of_legible zeroLib_lawful (createWallet_created hwallet) hl ho hx hmain
  -- what is read back has as many keys, and the same policy
  have hcount : read.xpubItems.length = wallet.xpubItems.length := by
    have hxpubs := congrArg List.length hsame.xpubs
    rwa [xpubsOf, xpubsOf, List.length_map, List.length_map] at hxpubs
  have hproper' : ProperPolicy read := by
    refine ⟨?_, ?_, ?_⟩
    · rw [hsame.total]
      exact hproper.total
    · rw [hsame.total, hsame.threshold]
      exact hproper.threshold
    · rw [hsame.total, hcount]
      exact hproper.keys
  exact ⟨wallet, text, read, hwallet, hread, hproper,
    ((policy_proper_iff zeroLib).2 text _ read hread).mp hproper'⟩

/-- Three of two keys are a policy for the code. -/
theorem policy_out_of_range :
    ¬∀ (keys : KeyLib), keys.Lawful →
      (∀ (creator name : Text) (threshold total : UInt32) (format : Text)
        (xpubInfos : List (Text × MultiSigXPubItem)) (network : MultiSigNetwork) (xfp : Text)
        (wallet : MultiSigWalletFile),
        createWallet keys creator name threshold total format xpubInfos network xfp = .ok wallet →
          ProperPolicy wallet) ∧
      ∀ (content xfp : Text) (wallet : MultiSigWalletFile),
        parseWalletConfig keys content xfp = .ok wallet → ProperPolicy wallet := by
  intro claim
  obtain ⟨wallet, hwallet⟩ := Outcome.exists_of_isOk
    (createWallet_cosigners ['a'] (show isValidMultiSigPolicy 3 2 = true from rfl))
  have hproper := (claim zeroLib zeroLib_lawful).1 _ _ _ _ _ _ _ _ wallet hwallet
  obtain ⟨-, -, hthreshold, htotal, -, -⟩ := createWallet_fields hwallet
  have hle := hproper.threshold.2
  rw [hthreshold, htotal] at hle
  exact absurd hle (by decide)

end Keystone3.Bitcoin
