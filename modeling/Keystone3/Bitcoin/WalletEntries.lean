import Keystone3.Bitcoin.WalletFile

/-!
# What the lines of a wallet say

What has been read of a wallet is legible as far as it goes: a label takes only values
without a colon (`readLines_readSoFar`). If all of them are readable they are read one
by one (`readLines_render`).
-/

namespace Keystone3.Bitcoin

open Bytes (trim lines splitText isWhitespace)
open Logic (Outcome)
open Logic.Outcome (bind_eq_ok ok_bind)
open List (append_assoc cons_append cons_ne_nil foldl_cons length_append map_append map_cons
  mem_append mem_cons mem_map mem_singleton_self not_mem_nil)

structure Field (value : Text) : Prop where
  colon : ':' ∉ value
  line : '\n' ∉ value
  trimmed : trim value = value

variable {keys : KeyLib}

def xpubsOf (keys : KeyLib) (wallet : MultiSigWalletFile) : List (Result Text) :=
  wallet.xpubItems.map fun item => convertVersion keys item.xpub .xpub

def Distinct (r r' : Result Text) : Prop :=
  ∀ x y : Text, r = .ok x → r' = .ok y → Text.eqIgnoreAsciiCase x y = false

structure ReadableKeys (keys : KeyLib) (xpubs : List (Result Text)) : Prop where
  valid : ∀ r ∈ xpubs, ∃ x, r = .ok x ∧ keys.isXpub x = true
  distinct : xpubs.Pairwise Distinct

structure Legible (keys : KeyLib) (wallet : MultiSigWalletFile) : Prop where
  name : Field wallet.name
  policy : isValidMultiSigPolicy wallet.total wallet.threshold = true
  derivations : ∀ derivation ∈ wallet.derivations, Field derivation ∧ 'h' ∉ derivation
  xpubs : ReadableKeys keys (xpubsOf keys wallet)

/-- The same while the lines are read, with a policy or still without one. -/
structure ReadSoFar (keys : KeyLib) (wallet : MultiSigWalletFile) : Prop where
  name : Field wallet.name
  policy : isValidMultiSigPolicy wallet.total wallet.threshold = true
    ∨ wallet.total = 0 ∧ wallet.threshold = 0
  derivations : ∀ derivation ∈ wallet.derivations, Field derivation ∧ 'h' ∉ derivation
  xpubs : ReadableKeys keys (xpubsOf keys wallet)

variable {items : List MultiSigXPubItem}

theorem checkDuplicated_eq_ok {value : Text}
    (h : checkDuplicated keys value items = .ok ()) : ∀ item ∈ items,
      Distinct (convertVersion keys item.xpub .xpub) (convertVersion keys value .xpub) := by
  induction items with
  | nil =>
    intro item hitem
    cases hitem
  | cons item items ih =>
    obtain ⟨result1, h1, hrest⟩ := bind_eq_ok.mp h
    obtain ⟨result2, h2, hrest⟩ := bind_eq_ok.mp hrest
    by_cases hsame : Text.eqIgnoreAsciiCase result1 result2 = true
    · rw [if_pos hsame] at hrest
      cases hrest
    · rw [if_neg hsame] at hrest
      intro item' hitem
      rcases mem_cons.mp hitem with rfl | hitem
      · intro x y hx hy
        rw [h1] at hx
        rw [h2] at hy
        cases hx
        cases hy
        exact Bool.eq_false_iff.mpr hsame
      · exact ih hrest item' hitem

theorem field_hardened {value : Text} (h : Field value) :
    Field (hardened value) ∧ 'h' ∉ hardened value := by
  have hmem : ∀ c, c ∈ hardened value → c = '\'' ∨ c ≠ 'h' ∧ c ∈ value := by
    intro c hc
    obtain ⟨d, hd, rfl⟩ := mem_map.mp hc
    by_cases hh : d = 'h'
    · rw [if_pos hh]
      exact .inl rfl
    · rw [if_neg hh]
      exact .inr ⟨hh, hd⟩
  refine ⟨⟨?_, ?_, ?_⟩, ?_⟩
  · intro hc
    rcases hmem _ hc with heq | hin
    · cases heq
    · exact h.colon hin.2
  · intro hc
    rcases hmem _ hc with heq | hin
    · cases heq
    · exact h.line hin.2
  · rw [hardened, Bytes.trim_map, h.trimmed]
    intro c
    by_cases hh : c = 'h'
    · rw [if_pos hh, hh]
      rfl
    · rw [if_neg hh]
  · intro hc
    rcases hmem _ hc with heq | hin
    · cases heq
    · exact hin.1 rfl

theorem field_trim {line part : Text} (hline : '\n' ∉ line) (hpart : part ∈ line.splitOn ':') :
    Field (trim part) where
  colon h := Bytes.not_mem_of_mem_splitOn part hpart (Bytes.mem_of_mem_trim h)
  line h := hline (Bytes.mem_of_mem_splitOn part hpart (Bytes.mem_of_mem_trim h))
  trimmed := Bytes.trim_trim part

variable {wallet wallet' : MultiSigWalletFile}

theorem readLabelled_readSoFar (hw : ReadSoFar keys wallet)
    {label value : Text} (hvalue : Field value)
    (h : readLabelled keys wallet label value = .ok wallet') : ReadSoFar keys wallet' := by
  unfold readLabelled at h
  split at h
  · cases h
    exact ⟨hvalue, hw.policy, hw.derivations, hw.xpubs⟩
  split at h
  · unfold parseAndSetPolicy at h
    split at h
    · obtain ⟨threshold, -, h⟩ := bind_eq_ok.mp h
      obtain ⟨total, -, h⟩ := bind_eq_ok.mp h
      split at h
      · rename_i hpolicy
        cases h
        exact ⟨hw.name, .inl hpolicy, hw.derivations, hw.xpubs⟩
      · cases h
    · cases h
      exact hw
  split at h
  · cases h
    exact ⟨hw.name, hw.policy, hw.derivations, hw.xpubs⟩
  split at h
  · cases h
    refine ⟨hw.name, hw.policy, ?_, hw.xpubs⟩
    intro derivation hmem
    rcases mem_append.mp hmem with hmem | hmem
    · exact hw.derivations derivation hmem
    · rw [List.mem_singleton.mp hmem]
      exact field_hardened hvalue
  · unfold processXpubAndXfp at h
    split at h
    · split at h
      · rename_i hvalid
        obtain ⟨⟨⟩, hcheck, h⟩ := bind_eq_ok.mp h
        cases h
        refine ⟨hw.name, hw.policy, hw.derivations, ?_, ?_⟩
        · intro r hr
          rw [xpubsOf, map_append] at hr
          rcases mem_append.mp hr with hr | hr
          · exact hw.xpubs.valid r hr
          · rw [List.map_singleton, List.mem_singleton] at hr
            rw [hr]
            exact isValidXyzpub_iff.mp hvalid
        · rw [xpubsOf, map_append, List.pairwise_append]
          refine ⟨hw.xpubs.distinct, List.pairwise_singleton _ _, ?_⟩
          intro r hr r' hr'
          rw [List.map_singleton, List.mem_singleton] at hr'
          obtain ⟨item, hitem, rfl⟩ := mem_map.mp hr
          rw [hr']
          exact checkDuplicated_eq_ok hcheck item hitem
      · cases h
    · cases h

theorem readLine_readSoFar (hw : ReadSoFar keys wallet)
    {line : Text} (hline : '\n' ∉ line) (h : readLine keys wallet line = .ok wallet') :
    ReadSoFar keys wallet' := by
  unfold readLine at h
  split at h
  · cases h
    unfold readComment
    split
    · exact ⟨hw.name, hw.policy, hw.derivations, hw.xpubs⟩
    · split
      · exact ⟨hw.name, hw.policy, hw.derivations, hw.xpubs⟩
      · exact hw
  · split at h
    · rename_i label value hsplit
      refine readLabelled_readSoFar hw (field_trim hline ?_) h
      rw [hsplit]
      exact List.mem_cons_of_mem label (mem_singleton_self value)
    · cases h
      exact hw

theorem readLines_readSoFar (hw : ReadSoFar keys wallet)
    {ls : List Text} (hls : ∀ line ∈ ls, '\n' ∉ line) (h : readLines keys wallet ls = .ok wallet') :
    ReadSoFar keys wallet' := by
  induction ls generalizing wallet with
  | nil =>
    cases h
    exact hw
  | cons line ls ih =>
    obtain ⟨next, hnext, hrest⟩ := bind_eq_ok.mp h
    exact ih (readLine_readSoFar hw (hls line (.head _)) hnext)
      (fun l hl => hls l (List.mem_cons_of_mem line hl)) hrest

theorem readSoFar_empty : ReadSoFar keys MultiSigWalletFile.empty where
  name := ⟨not_mem_nil, not_mem_nil, rfl⟩
  policy := .inr ⟨rfl, rfl⟩
  derivations := fun _ h => absurd h not_mem_nil
  xpubs := ⟨fun _ h => absurd h not_mem_nil, List.Pairwise.nil⟩

inductive Entry where
  | title (creator xfp : Text)
  | comment
  | name (value : Text)
  | policy (threshold total : UInt32)
  | format (value : Text)
  | derivation (value : Text)
  | cosigner (item : MultiSigXPubItem)
  | blank

namespace Entry

def render : Entry → Text
  | title creator xfp => titleLine creator xfp
  | comment => ['#']
  | name value => labelled nameLabel value
  | policy threshold total => labelled policyLabel (policyText threshold total)
  | format value => labelled formatLabel value
  | derivation value => labelled derivationLabel value
  | cosigner item => labelled item.xfp item.xpub
  | blank => []

def apply (wallet : MultiSigWalletFile) : Entry → MultiSigWalletFile
  | title creator xfp => readComment wallet (titleLine creator xfp)
  | comment => wallet
  | name value => { wallet with name := value }
  | policy threshold total => { wallet with threshold, total }
  | format value => { wallet with format := value }
  | derivation value => { wallet with derivations := wallet.derivations ++ [value] }
  | cosigner item => { wallet with xpubItems := wallet.xpubItems ++ [⟨trim item.xfp, item.xpub⟩] }
  | blank => wallet

def Plain : Entry → Prop
  | title creator xfp => '\n' ∉ creator ∧ '\n' ∉ xfp
  | name value | format value | derivation value => Field value
  | cosigner item => '\n' ∉ item.xfp ∧ Field item.xpub
  | comment | policy _ _ | blank => True

/-- The line can be read, as far as it depends on nothing else. -/
def Readable (keys : KeyLib) : Entry → Prop
  | title creator xfp => '\n' ∉ creator ∧ '\n' ∉ xfp
  | comment => True
  | name value => Field value
  | policy threshold total => isValidMultiSigPolicy total threshold = true
  | format value => Field value
  | derivation value => Field value ∧ 'h' ∉ value
  | cosigner item => ('\n' ∉ item.xfp ∧ isValidXfp (trim item.xfp) = true) ∧ Field item.xpub
    ∧ isValidXyzpub keys item.xpub = true
  | blank => True

def item? : Entry → Option MultiSigXPubItem
  | cosigner item => some ⟨trim item.xfp, item.xpub⟩
  | _ => none

end Entry

theorem not_mem_labelled {c : Char} {label value : Text} (hlabel : c ∉ label) (hvalue : c ∉ value)
    (hcolon : c ≠ ':') (hblank : c ≠ ' ') : c ∉ labelled label value := by
  intro h
  rcases mem_append.mp h with h | h
  · exact hlabel h
  · rcases mem_cons.mp h with h | h
    · exact hcolon h
    · rcases mem_cons.mp h with h | h
      · exact hblank h
      · exact hvalue h

theorem getLast?_of_trimmed {value : Text} (h : trim value = value) {c : Char}
    (hc : value.getLast? = some c) : isWhitespace c = false := by
  have hne : value ≠ [] := by
    intro hnil
    rw [hnil] at hc
    cases hc
  have hlast := List.rdropWhile_last_not isWhitespace (value.dropWhile isWhitespace)
    (by change trim value ≠ []; rwa [h])
  have heq : (List.rdropWhile isWhitespace (value.dropWhile isWhitespace)).getLast
      (by change trim value ≠ []; rwa [h]) = c := by
    rw [List.getLast_eq_iff_getLast?_eq_some]
    change (trim value).getLast? = some c
    rw [h, hc]
  rw [heq] at hlast
  exact Bool.eq_false_iff.mpr hlast

theorem stripCr_labelled {value : Text} (h : trim value = value) (label : Text) :
    Bytes.stripCr (labelled label value) = labelled label value := by
  rw [Bytes.stripCr, if_neg]
  intro hlast
  rw [labelled, List.getLast?_append_of_ne_nil _ (cons_ne_nil _ _)] at hlast
  cases hvalue : value with
  | nil =>
    rw [hvalue] at hlast
    cases hlast
  | cons c rest =>
    have hne : value ≠ [] := by
      rw [hvalue]
      exact cons_ne_nil c rest
    rw [List.getLast?_cons_of_ne_nil (cons_ne_nil _ _), List.getLast?_cons_of_ne_nil hne] at hlast
    cases getLast?_of_trimmed h hlast

theorem readLine_labelled (wallet : MultiSigWalletFile) {label value : Text} {c : Char}
    (hfirst : (trim label).head? = some c) (hblank : isWhitespace c = false) (hhash : c ≠ '#')
    (hlabel : ':' ∉ label) (hvalue : Field value) :
    readLine keys wallet (labelled label value) = readLabelled keys wallet (trim label) value := by
  have hdrop : (labelled label value).dropWhile isWhitespace
      = label.dropWhile isWhitespace ++ ':' :: ' ' :: value := by
    have hne : label.dropWhile isWhitespace ≠ [] := by
      intro hnil
      rw [Bytes.head_trim hblank, hnil] at hfirst
      cases hfirst
    rw [labelled, List.dropWhile_append, if_neg (by simpa using hne)]
  have hstart : (trim (labelled label value)).head? = some c := by
    rw [Bytes.head_trim hblank, hdrop, List.head?_append, (Bytes.head_trim hblank).mp hfirst]
    rfl
  have hcomment : Text.startsWith (trim (labelled label value)) ['#'] = false := by
    cases hline : trim (labelled label value) with
    | nil => rfl
    | cons d rest =>
      rw [hline] at hstart
      cases hstart
      simp [Text.startsWith, List.isPrefixOf, Ne.symm hhash]
  have hsplit : (labelled label value).splitOn ':' = [label, ' ' :: value] := by
    rw [labelled, List.splitOn_append_cons_self_of_not_mem hlabel, List.splitOn_eq_singleton]
    intro h
    rcases mem_cons.mp h with h | h
    · cases h
    · exact hvalue.colon h
  rw [readLine, hcomment, if_neg Bool.false_ne_true, hsplit]
  dsimp only
  rw [Bytes.trim_cons (by decide), hvalue.trimmed]

theorem isWhitespace_of_range {c : Char} (hlow : 33 ≤ c.toNat) (hhigh : c.toNat ≤ 126) :
    isWhitespace c = false := by
  simp [isWhitespace]
  omega

theorem field_policyText (threshold total : UInt32) : Field (policyText threshold total) := by
  have hmem : ∀ c ∈ policyText threshold total,
      c.isDigit = true ∨ c ∈ policySeparator := by
    intro c hc
    rcases mem_append.mp hc with hc | hc
    · rcases mem_append.mp hc with hc | hc
      · exact .inl (Bytes.isDigit_toDigits c hc)
      · exact .inr hc
    · exact .inl (Bytes.isDigit_toDigits c hc)
  have hdigit : ∀ c : Char, c.isDigit = true → isWhitespace c = false := by
    intro c hc
    have hrange := Bytes.isDigit_toNat hc
    exact isWhitespace_of_range (by omega) (by omega)
  refine ⟨?_, ?_, ?_⟩
  · intro h
    rcases hmem _ h with h | h
    · exact absurd h (by decide)
    · exact absurd h (by decide)
  · intro h
    rcases hmem _ h with h | h
    · exact absurd h (by decide)
    · exact absurd h (by decide)
  · have hne : ∀ n, Nat.toDigits 10 n ≠ [] := fun _ => Nat.toDigits_ne_nil
    refine Bytes.trim_eq_self ?_ ?_
    · intro c hc
      rw [policyText, append_assoc, List.head?_append_of_ne_nil _ (hne _)] at hc
      exact hdigit c (Bytes.isDigit_toDigits c (List.mem_of_head? hc))
    · intro c hc
      rw [policyText, List.getLast?_append_of_ne_nil _ (hne _)] at hc
      exact hdigit c (Bytes.isDigit_toDigits c (List.mem_of_getLast? hc))

theorem parseAndSetPolicy_policyText (wallet : MultiSigWalletFile) {threshold total : UInt32}
    (h : isValidMultiSigPolicy total threshold = true) :
    parseAndSetPolicy wallet (policyText threshold total)
      = .ok { wallet with threshold, total } := by
  have hblank : ∀ n, ' ' ∉ Nat.toDigits 10 n := by
    intro n hmem
    cases Bytes.isDigit_toDigits ' ' hmem
  have hsplit : splitText policySeparator (policyText threshold total)
      = [Nat.toDigits 10 threshold.toNat, Nat.toDigits 10 total.toNat] := by
    rw [policyText, append_assoc]
    exact (Bytes.splitText_append (hblank _) _).trans
      (congrArg _ (Bytes.splitText_of_not_mem (hblank _)))
  rw [parseAndSetPolicy, hsplit]
  dsimp only
  rw [Bytes.parseUnsigned_toDigits threshold.toNat_lt, Bytes.parseUnsigned_toDigits total.toNat_lt]
  show (if isValidMultiSigPolicy (UInt32.ofNat total.toNat) (UInt32.ofNat threshold.toNat) = true
    then _ else _) = _
  rw [UInt32.ofNat_toNat, UInt32.ofNat_toNat, if_pos h]
  rfl

theorem hardened_eq {value : Text} (h : 'h' ∉ value) : hardened value = value := by
  rw [hardened]
  refine (List.map_congr_left fun c hc => ?_).trans (List.map_id value)
  rw [if_neg]
  · rfl
  · intro heq
    rw [heq] at hc
    exact h hc

theorem isHexDigit_toNat {c : Char} (h : isHexDigit c = true) :
    48 ≤ c.toNat ∧ c.toNat ≤ 57 ∨ 97 ≤ c.toNat ∧ c.toNat ≤ 102 ∨ 65 ≤ c.toNat ∧ c.toNat ≤ 70 := by
  unfold isHexDigit Bytes.hexValue at h
  simp only [Char.le_def, UInt32.le_iff_toNat_le] at h
  split at h
  · rename_i hrange
    exact .inl hrange
  split at h
  · rename_i hrange
    exact .inr (.inl hrange)
  split at h
  · rename_i hrange
    exact .inr (.inr hrange)
  · cases h

theorem head_xfp {xfp : Text} (h : isValidXfp (trim xfp) = true) :
    ∃ c, (trim xfp).head? = some c ∧ isWhitespace c = false ∧ c ≠ '#' := by
  obtain ⟨hlength, hall⟩ := Bool.and_eq_true_iff.mp h
  cases hxfp : trim xfp with
  | nil =>
    rw [hxfp] at hlength
    cases hlength
  | cons c rest =>
    rw [hxfp] at hall
    have hrange := isHexDigit_toNat (List.all_eq_true.mp hall c List.mem_cons_self)
    refine ⟨c, rfl, isWhitespace_of_range (by omega) (by omega), ?_⟩
    intro hhash
    rw [hhash] at hrange
    exact absurd hrange (by decide)

theorem not_mem_xfp {xfp : Text} (h : isValidXfp (trim xfp) = true) : ':' ∉ xfp := by
  intro hmem
  obtain ⟨-, hall⟩ := Bool.and_eq_true_iff.mp h
  have htrim := Bytes.mem_trim_of_mem hmem (by decide)
  cases List.all_eq_true.mp hall ':' htrim

theorem checkDuplicated_of_distinct {value converted : Text}
    (hvalue : convertVersion keys value .xpub = .ok converted)
    (hitems : ∀ item ∈ items, (∃ x, convertVersion keys item.xpub .xpub = .ok x)
      ∧ Distinct (convertVersion keys item.xpub .xpub) (convertVersion keys value .xpub)) :
    checkDuplicated keys value items = .ok () := by
  induction items with
  | nil => rfl
  | cons item items ih =>
    obtain ⟨⟨x, hx⟩, hdistinct⟩ := hitems item (.head _)
    rw [checkDuplicated, hx, ok_bind, hvalue, ok_bind, hdistinct x _ hx hvalue,
      if_neg Bool.false_ne_true]
    exact ih fun item' hitem => hitems item' (List.mem_cons_of_mem item hitem)

namespace Entry

theorem readLine_render {wallet : MultiSigWalletFile} {entry : Entry} (hentry : entry.Readable keys)
    (hkeys : ReadableKeys keys (xpubsOf keys (entry.apply wallet))) :
    readLine keys wallet entry.render = .ok (entry.apply wallet) := by
  cases entry with
  | title creator xfp =>
    have hstart : Text.startsWith (trim (titleLine creator xfp)) ['#'] = true := by
      have hhead : (trim (titleLine creator xfp)).head? = some '#' := by
        rw [Bytes.head_trim (by decide)]
        rfl
      cases hline : trim (titleLine creator xfp) with
      | nil =>
        rw [hline] at hhead
        cases hhead
      | cons c rest =>
        rw [hline] at hhead
        cases hhead
        rfl
    show readLine keys wallet (titleLine creator xfp) = _
    rw [readLine, hstart, if_pos rfl]
    rfl
  | comment => rfl
  | name value =>
    exact readLine_labelled wallet (c := 'N') (by decide) (by decide) (by decide) (by decide) hentry
  | policy threshold total =>
    refine (readLine_labelled wallet (c := 'P') (by decide) (by decide) (by decide) (by decide)
      (field_policyText threshold total)).trans ?_
    exact parseAndSetPolicy_policyText wallet hentry
  | format value =>
    exact readLine_labelled wallet (c := 'F') (by decide) (by decide) (by decide) (by decide) hentry
  | derivation value =>
    refine (readLine_labelled wallet (c := 'D') (by decide) (by decide) (by decide) (by decide)
      hentry.1).trans ?_
    show Outcome.ok { wallet with derivations := wallet.derivations ++ [hardened value] } = _
    rw [hardened_eq hentry.2]
    rfl
  | cosigner item =>
    obtain ⟨⟨-, hxfp⟩, hfield, hvalid⟩ := hentry
    obtain ⟨c, hfirst, hblank, hhash⟩ := head_xfp hxfp
    refine (readLine_labelled wallet hfirst hblank hhash (not_mem_xfp hxfp) hfield).trans ?_
    have hlabel : ∀ label, isValidXfp label = false → trim item.xfp ≠ label := by
      intro label hlabel heq
      rw [heq, hlabel] at hxfp
      cases hxfp
    obtain ⟨converted, hconverted, -⟩ := isValidXyzpub_iff.mp hvalid
    have hcheck : checkDuplicated keys item.xpub wallet.xpubItems = .ok () := by
      refine checkDuplicated_of_distinct hconverted ?_
      have hpairs := hkeys.distinct
      rw [xpubsOf, apply, map_append, List.pairwise_append] at hpairs
      intro item' hitem
      constructor
      · obtain ⟨x, hx, -⟩ := hkeys.valid (convertVersion keys item'.xpub .xpub) (by
          rw [xpubsOf, apply, map_append]
          exact List.mem_append_left _ (List.mem_map_of_mem hitem))
        exact ⟨x, hx⟩
      · exact hpairs.2.2 _ (List.mem_map_of_mem hitem) _ (mem_singleton_self _)
    rw [readLabelled, if_neg (hlabel nameLabel (by decide)), if_neg (hlabel policyLabel (by decide)),
      if_neg (hlabel formatLabel (by decide)), if_neg (hlabel derivationLabel (by decide)),
      processXpubAndXfp, if_pos hxfp, if_pos hvalid, hcheck]
    rfl
  | blank => rfl

theorem foldl_xpubItems (entries : List Entry) (wallet : MultiSigWalletFile) :
    (entries.foldl apply wallet).xpubItems = wallet.xpubItems ++ entries.filterMap item? := by
  induction entries generalizing wallet with
  | nil => exact (List.append_nil _).symm
  | cons entry entries ih =>
    rw [foldl_cons, ih]
    cases entry with
    | title creator xfp =>
      have hkept : (apply wallet (title creator xfp)).xpubItems = wallet.xpubItems := by
        simp only [apply, readComment]
        split
        · rfl
        · split
          · rfl
          · rfl
      rw [hkept]
      rfl
    | comment => rfl
    | name value => rfl
    | policy threshold total => rfl
    | format value => rfl
    | derivation value => rfl
    | cosigner item => exact append_assoc _ _ _
    | blank => rfl

theorem readLines_render {entries : List Entry} {wallet : MultiSigWalletFile}
    (hentries : ∀ entry ∈ entries, entry.Readable keys)
    (hkeys : ReadableKeys keys (xpubsOf keys (entries.foldl apply wallet))) :
    readLines keys wallet (entries.map render) = .ok (entries.foldl apply wallet) := by
  induction entries generalizing wallet with
  | nil => rfl
  | cons entry entries ih =>
    have hfirst : ReadableKeys keys (xpubsOf keys (entry.apply wallet)) := by
      rw [foldl_cons, xpubsOf, foldl_xpubItems, map_append] at hkeys
      exact ⟨fun r hr => hkeys.valid r (List.mem_append_left _ hr),
        (List.pairwise_append.mp hkeys.distinct).1⟩
    rw [map_cons, readLines, readLine_render (hentries entry (.head _)) hfirst, ok_bind, foldl_cons]
    exact ih (fun e he => hentries e (List.mem_cons_of_mem entry he)) hkeys

theorem render_line {entry : Entry} (h : entry.Plain) :
    '\n' ∉ entry.render ∧ Bytes.stripCr entry.render = entry.render := by
  have hvalue : ∀ {label value : Text}, '\n' ∉ label → Field value →
      '\n' ∉ labelled label value
        ∧ Bytes.stripCr (labelled label value) = labelled label value := by
    intro label value hlabel hvalue
    exact ⟨not_mem_labelled hlabel hvalue.line (by decide) (by decide),
      stripCr_labelled hvalue.trimmed label⟩
  cases entry with
  | title creator xfp =>
    constructor
    · intro hmem
      rcases mem_append.mp hmem with hmem | hmem
      · rcases mem_append.mp hmem with hmem | hmem
        · rcases mem_append.mp hmem with hmem | hmem
          · rcases mem_cons.mp hmem with hmem | hmem
            · exact absurd hmem (by decide)
            · rcases mem_cons.mp hmem with hmem | hmem
              · exact absurd hmem (by decide)
              · exact h.1 hmem
          · exact absurd hmem (by decide)
        · exact h.2 hmem
      · exact absurd hmem (by decide)
    · rw [Bytes.stripCr, if_neg]
      show ¬(titleLine creator xfp).getLast? = _
      rw [titleLine, List.getLast?_append_of_ne_nil _ (cons_ne_nil _ _)]
      decide
  | comment => exact ⟨by decide, by decide⟩
  | name value => exact hvalue (by decide) h
  | policy threshold total => exact hvalue (by decide) (field_policyText threshold total)
  | format value => exact hvalue (by decide) h
  | derivation value => exact hvalue (by decide) h
  | cosigner item => exact hvalue h.1 h.2
  | blank => exact ⟨by decide, by decide⟩

theorem foldl_cosigners (items : List MultiSigXPubItem) (wallet : MultiSigWalletFile) :
    (items.map cosigner).foldl apply wallet = { wallet with
      xpubItems := wallet.xpubItems ++ items.map fun item => ⟨trim item.xfp, item.xpub⟩ } := by
  induction items generalizing wallet with
  | nil => simp
  | cons item items ih => simp [ih, apply]

def derived (p : Text × MultiSigXPubItem) : List Entry := [derivation p.1, cosigner p.2]

theorem foldl_derived (pairs : List (Text × MultiSigXPubItem)) (wallet : MultiSigWalletFile) :
    (pairs.flatMap derived).foldl apply wallet = { wallet with
      derivations := wallet.derivations ++ pairs.map (·.1)
      xpubItems := wallet.xpubItems ++ pairs.map fun p => ⟨trim p.2.xfp, p.2.xpub⟩ } := by
  induction pairs generalizing wallet with
  | nil => simp
  | cons p pairs ih => simp [ih, apply, derived]

end Entry

theorem label_eq_of_splitOn {label label' value value' : Text}
    (h : (labelled label value).splitOn ':' = [label', value']) : label' = label := by
  have hlabel : ':' ∉ label' := Bytes.not_mem_of_mem_splitOn label' (by rw [h]; exact .head _)
  have hvalue : ':' ∉ value' := Bytes.not_mem_of_mem_splitOn value'
    (by rw [h]; exact .tail _ (mem_singleton_self _))
  have hjoin : label' ++ ':' :: value' = label ++ ':' :: ' ' :: value := by
    have hall := @List.intercalate_splitOn _ (labelled label value) _ _ ':'
    rw [h] at hall
    simpa [List.intercalate, labelled] using hall
  rcases List.append_eq_append_iff.mp hjoin with ⟨rest, hrest, htail⟩ | ⟨rest, hrest, htail⟩
  · cases rest with
    | nil => rw [hrest, List.append_nil]
    | cons c rest =>
      -- the first colon would be in the value
      rw [cons_append] at htail
      injection htail with hc hv
      exact absurd (by rw [hv]; exact List.mem_append_right rest (.head _)) hvalue
  · cases rest with
    | nil => rw [hrest, List.append_nil]
    | cons c rest =>
      rw [cons_append] at htail
      injection htail with hc hv
      rw [← hc] at hrest
      exact absurd (by rw [hrest]; exact List.mem_append_right label (.head _)) hlabel

theorem readLine_xpubItems {line : Text}
    (h : readLine keys wallet line = .ok wallet') : wallet'.xpubItems.length
        = wallet.xpubItems.length
      ∨ wallet'.xpubItems.length = wallet.xpubItems.length + 1
        ∧ ∃ label value, line.splitOn ':' = [label, value] ∧ isValidXfp (trim label) = true := by
  unfold readLine at h
  split at h
  · cases h
    left
    unfold readComment
    split
    · rfl
    · split
      · rfl
      · rfl
  · split at h
    · rename_i label value hsplit
      unfold readLabelled at h
      split at h
      · cases h
        exact .inl rfl
      split at h
      · unfold parseAndSetPolicy at h
        split at h
        · obtain ⟨threshold, -, h⟩ := bind_eq_ok.mp h
          obtain ⟨total, -, h⟩ := bind_eq_ok.mp h
          split at h
          · cases h
            exact .inl rfl
          · cases h
        · cases h
          exact .inl rfl
      split at h
      · cases h
        exact .inl rfl
      split at h
      · cases h
        exact .inl rfl
      · unfold processXpubAndXfp at h
        split at h
        · rename_i hxfp
          split at h
          · obtain ⟨⟨⟩, -, h⟩ := bind_eq_ok.mp h
            cases h
            exact .inr ⟨length_append, label, value, hsplit, hxfp⟩
          · cases h
        · cases h
    · cases h
      exact .inl rfl

namespace Entry

theorem readLine_cosigner {wallet wallet' : MultiSigWalletFile} {entry : Entry}
    (h : readLine keys wallet entry.render = .ok wallet') : wallet'.xpubItems.length
        = wallet.xpubItems.length
      ∨ wallet'.xpubItems.length = wallet.xpubItems.length + 1
        ∧ ∃ item, entry = .cosigner item ∧ isValidXfp (trim item.xfp) = true := by
  rcases readLine_xpubItems h with hsame | ⟨hone, label, value, hsplit, hxfp⟩
  · exact .inl hsame
  have hlabel : ∀ {label' value' : Text}, entry.render = labelled label' value' →
      isValidXfp (trim label') = true := by
    intro label' value' hrender
    rw [hrender] at hsplit
    rwa [← label_eq_of_splitOn hsplit]
  refine .inr ⟨hone, ?_⟩
  cases entry with
  | title creator xfp =>
    -- the sign of a comment is no digit
    have hmem : '#' ∈ label := by
      have hall := @List.intercalate_splitOn _ (titleLine creator xfp) _ _ ':'
      rw [show (titleLine creator xfp).splitOn ':' = [label, value] from hsplit] at hall
      cases label with
      | nil =>
        have hfirst := congrArg List.head? hall
        cases hfirst
      | cons c rest =>
        have hfirst := congrArg List.head? hall
        cases hfirst
        exact .head _
    obtain ⟨-, hdigits⟩ := Bool.and_eq_true_iff.mp hxfp
    have htrim := Bytes.mem_trim_of_mem hmem (by decide)
    cases List.all_eq_true.mp hdigits '#' htrim
  | comment => cases hsplit
  | name value => cases hlabel rfl
  | policy threshold total => cases hlabel rfl
  | format value => cases hlabel rfl
  | derivation value => cases hlabel rfl
  | cosigner item => exact ⟨item, rfl, hlabel rfl⟩
  | blank => cases hsplit

theorem readLines_cosigners {entries : List Entry} {wallet wallet' : MultiSigWalletFile}
    (h : readLines keys wallet (entries.map render) = .ok wallet') :
    wallet'.xpubItems.length ≤ wallet.xpubItems.length + (entries.filterMap item?).length
      ∧ (wallet'.xpubItems.length = wallet.xpubItems.length + (entries.filterMap item?).length →
        ∀ item, .cosigner item ∈ entries → isValidXfp (trim item.xfp) = true) := by
  induction entries generalizing wallet with
  | nil =>
    cases h
    exact ⟨le_rfl, fun _ _ hmem => absurd hmem not_mem_nil⟩
  | cons entry entries ih =>
    obtain ⟨next, hnext, hrest⟩ := bind_eq_ok.mp h
    obtain ⟨hle, hall⟩ := ih hrest
    have hcount : ((entry :: entries).filterMap item?).length
        = (item? entry).toList.length + (entries.filterMap item?).length := by
      cases hitem : item? entry with
      | none => rw [List.filterMap_cons_none hitem]; simp
      | some item => rw [List.filterMap_cons_some hitem]; simp [Nat.add_comm]
    rw [hcount]
    rcases readLine_cosigner hnext with hsame | ⟨hone, item, rfl, hxfp⟩
    · refine ⟨by omega, ?_⟩
      intro heq item hmem
      rcases mem_cons.mp hmem with rfl | hmem
      · -- a cosigner is missing
        have hitem : (item? (.cosigner item)).toList.length = 1 := rfl
        omega
      · exact hall (by omega) item hmem
    · have hitem : (item? (.cosigner item)).toList.length = 1 := rfl
      refine ⟨by omega, ?_⟩
      intro heq item' hmem
      rcases mem_cons.mp hmem with hfirst | hmem
      · cases hfirst
        exact hxfp
      · exact hall (by omega) item' hmem

end Entry

def pathsOf (config : MultiSigWalletFile) : List Text :=
  match config.derivations with
  | [derivation] => config.xpubItems.map fun _ => derivation
  | derivations => derivations

def entriesOf (config : MultiSigWalletFile) (xfp : Text) (items : List MultiSigXPubItem) :
    List Entry :=
  [.title config.creator xfp, .comment, .name config.name, .policy config.threshold config.total]
    ++ match config.derivations with
    | [derivation] =>
      .derivation derivation :: .format config.format :: .blank :: items.map .cosigner
    | derivations => .format config.format :: .blank :: (derivations.zip items).flatMap Entry.derived

variable {config : MultiSigWalletFile}

theorem pathsOf_one {path : Text} (h : config.derivations = [path]) :
    pathsOf config = config.xpubItems.map fun _ => path := by
  rw [pathsOf, h]

theorem pathsOf_many (h : ∀ path, config.derivations ≠ [path]) :
    pathsOf config = config.derivations := by
  unfold pathsOf
  split
  · rename_i path hone
    exact absurd hone (h path)
  · rfl

theorem entriesOf_one {path : Text} (h : config.derivations = [path])
    (xfp : Text) (items : List MultiSigXPubItem) : entriesOf config xfp items
      = [.title config.creator xfp, .comment, .name config.name,
        .policy config.threshold config.total]
      ++ .derivation path :: .format config.format :: .blank :: items.map .cosigner := by
  rw [entriesOf, h]

theorem entriesOf_many (h : ∀ path, config.derivations ≠ [path])
    (xfp : Text) (items : List MultiSigXPubItem) : entriesOf config xfp items
      = [.title config.creator xfp, .comment, .name config.name,
        .policy config.threshold config.total]
      ++ .format config.format :: .blank
        :: (config.derivations.zip items).flatMap Entry.derived := by
  unfold entriesOf
  split
  · rename_i path hone
    exact absurd hone (h path)
  · rfl

theorem forall_entriesOf {xfp : Text}
    {P : Entry → Prop} (hpath : ∀ path ∈ config.derivations, P (.derivation path))
    (hcosigner : ∀ item ∈ items, P (.cosigner item)) (htitle : P (.title config.creator xfp))
    (hcomment : P .comment) (hname : P (.name config.name))
    (hpolicy : P (.policy config.threshold config.total)) (hformat : P (.format config.format))
    (hblank : P .blank) : ∀ entry ∈ entriesOf config xfp items, P entry := by
  intro entry hentry
  rcases mem_append.mp hentry with hhead | htail
  · simp only [mem_cons, not_mem_nil, or_false] at hhead
    rcases hhead with rfl | rfl | rfl | rfl
    · exact htitle
    · exact hcomment
    · exact hname
    · exact hpolicy
  · split at htail
    · rename_i path hone
      simp only [mem_cons] at htail
      rcases htail with rfl | rfl | rfl | htail
      · exact hpath path (by rw [hone]; exact mem_singleton_self path)
      · exact hformat
      · exact hblank
      · obtain ⟨item, hitem, rfl⟩ := mem_map.mp htail
        exact hcosigner item hitem
    · simp only [mem_cons] at htail
      rcases htail with rfl | rfl | htail
      · exact hformat
      · exact hblank
      · obtain ⟨p, hp, hentry⟩ := List.mem_flatMap.mp htail
        have hmem := List.of_mem_zip hp
        simp only [Entry.derived, mem_cons, not_mem_nil, or_false] at hentry
        rcases hentry with rfl | rfl
        · exact hpath p.1 hmem.1
        · exact hcosigner p.2 hmem.2

theorem mem_entriesOf {xfp : Text}
    (hlength : (pathsOf config).length = items.length) {item : MultiSigXPubItem}
    (hitem : item ∈ items) : .cosigner item ∈ entriesOf config xfp items := by
  by_cases hone : ∃ path, config.derivations = [path]
  · obtain ⟨path, hone⟩ := hone
    rw [entriesOf_one hone]
    simp [hitem]
  · have hmany : ∀ path, config.derivations ≠ [path] := fun path h => hone ⟨path, h⟩
    rw [pathsOf_many hmany] at hlength
    rw [← List.map_snd_zip (le_of_eq hlength.symm)] at hitem
    obtain ⟨p, hp, rfl⟩ := mem_map.mp hitem
    rw [entriesOf_many hmany]
    refine List.mem_append_right _ (.tail _ (.tail _ ?_))
    exact List.mem_flatMap.mpr ⟨p, hp, .tail _ (mem_singleton_self _)⟩

def Written (keys : KeyLib) (config : MultiSigWalletFile) (items : List MultiSigXPubItem) : Prop :=
  List.Forall₂ (fun (p : Text × MultiSigXPubItem) (item : MultiSigXPubItem) => item.xfp = p.2.xfp
    ∧ convertXpub keys p.1 p.2.xpub config.network = .ok item.xpub)
    ((pathsOf config).zip config.xpubItems) items

theorem xpubLine_eq_ok {network : MultiSigNetwork} {derivation line : Text}
    {item : MultiSigXPubItem} (h : xpubLine keys network derivation item = .ok line) :
    ∃ xpub, convertXpub keys derivation item.xpub network = .ok xpub
      ∧ line = labelled item.xfp xpub := by
  obtain ⟨xpub, hxpub, hline⟩ := bind_eq_ok.mp h
  cases hline
  exact ⟨xpub, hxpub, rfl⟩

theorem xpubLines_eq {network : MultiSigNetwork} {derivation : Text} {ls : List Text}
    (h : List.Forall₂ (fun item line => xpubLine keys network derivation item = .ok line) items ls) :
    ∃ written : List MultiSigXPubItem,
      List.Forall₂ (fun (p : Text × MultiSigXPubItem) (item : MultiSigXPubItem) =>
        item.xfp = p.2.xfp ∧ convertXpub keys p.1 p.2.xpub network = .ok item.xpub)
        ((items.map fun _ => derivation).zip items) written
      ∧ ls = (written.map .cosigner).map Entry.render := by
  induction h with
  | nil => exact ⟨[], .nil, rfl⟩
  | cons hline _ ih =>
    obtain ⟨written, hwritten, rfl⟩ := ih
    obtain ⟨xpub, hxpub, rfl⟩ := xpubLine_eq_ok hline
    exact ⟨⟨_, xpub⟩ :: written, .cons ⟨rfl, hxpub⟩ hwritten, rfl⟩

theorem derivedLines_eq {network : MultiSigNetwork} {derivations : List Text} {n : Nat} {text : Text}
    (h : derivedLines keys network derivations (items.zipIdx n) = .ok text) :
    ∃ written : List MultiSigXPubItem,
      List.Forall₂ (fun (p : Text × MultiSigXPubItem) (item : MultiSigXPubItem) =>
        item.xfp = p.2.xfp ∧ convertXpub keys p.1 p.2.xpub network = .ok item.xpub)
        ((derivations.drop n).zip items) written
      ∧ text = ((((derivations.drop n).zip written).flatMap Entry.derived).map
        Entry.render).flatMap ('\n' :: ·) := by
  induction items generalizing n text with
  | nil =>
    cases h
    refine ⟨[], ?_, ?_⟩
    · rw [List.zip_nil_right]
      exact .nil
    · rw [List.zip_nil_right]
      rfl
  | cons item items ih =>
    rw [List.zipIdx_cons] at h
    obtain ⟨derivation, hderivation, hrest⟩ := bind_eq_ok.mp h
    obtain ⟨line, hline, hrest⟩ := bind_eq_ok.mp hrest
    obtain ⟨rest, hlines, htext⟩ := bind_eq_ok.mp hrest
    cases htext
    obtain ⟨written, hwritten, rfl⟩ := ih hlines
    obtain ⟨xpub, hxpub, rfl⟩ := xpubLine_eq_ok hline
    obtain ⟨hn, rfl⟩ := List.getElem?_eq_some_iff.mp (Outcome.index_eq_ok.mp hderivation)
    refine ⟨⟨item.xfp, xpub⟩ :: written, ?_, ?_⟩
    · rw [List.drop_eq_getElem_cons hn]
      exact .cons ⟨rfl, hxpub⟩ hwritten
    · rw [List.drop_eq_getElem_cons hn, List.zip_cons_cons, List.flatMap_cons, map_append,
        List.flatMap_append]
      congr 1
      simp [Entry.derived, Entry.render]

theorem intercalate_cons (line : Text) (ls : List Text) :
    List.intercalate ['\n'] (line :: ls) = line ++ ls.flatMap ('\n' :: ·) := by
  induction ls generalizing line with
  | nil => simp
  | cons line' ls ih =>
    rw [List.intercalate_cons_cons, ih]
    simp

theorem generateConfigData_eq {xfp text : Text}
    (hne : config.xpubItems ≠ []) (h : generateConfigData keys config xfp = .ok text) :
    ∃ items, Written keys config items
      ∧ text = List.intercalate ['\n'] ((entriesOf config xfp items).map Entry.render) := by
  unfold generateConfigData at h
  dsimp only at h
  split at h
  · rename_i derivation hone
    obtain ⟨ls, hls, htext⟩ := bind_eq_ok.mp h
    cases htext
    obtain ⟨written, hwritten, rfl⟩ := xpubLines_eq (Outcome.collect_eq_ok.mp hls)
    refine ⟨written, ?_, ?_⟩
    · rw [Written, pathsOf_one hone]
      exact hwritten
    · cases written with
      | nil =>
        have hlen := hwritten.length_eq
        rw [List.length_zip, List.length_map, Nat.min_self] at hlen
        exact absurd (List.length_eq_zero_iff.mp hlen) hne
      | cons item items =>
        rw [entriesOf_one hone, map_cons, map_cons, intercalate_cons]
        simp [intercalate_cons, Entry.render]
  · rename_i hmany
    obtain ⟨ls, hls, htext⟩ := bind_eq_ok.mp h
    cases htext
    obtain ⟨written, hwritten, rfl⟩ := derivedLines_eq hls
    rw [List.drop_zero] at hwritten ⊢
    refine ⟨written, ?_, ?_⟩
    · rw [Written, pathsOf_many hmany]
      exact hwritten
    · rw [entriesOf_many hmany]
      simp [intercalate_cons, Entry.render]

theorem getLast?_entriesOf (xfp : Text) (hne : items ≠ [])
    (hlength : (pathsOf config).length = items.length) :
    ∃ item ∈ items, (entriesOf config xfp items).getLast? = some (.cosigner item) := by
  rcases List.eq_nil_or_concat items with hnil | ⟨front, last, rfl⟩
  · exact absurd hnil hne
  rw [List.concat_eq_append] at hlength ⊢
  refine ⟨last, List.mem_append_right front (mem_singleton_self last), ?_⟩
  by_cases hone : ∃ path, config.derivations = [path]
  · obtain ⟨path, hone⟩ := hone
    rw [entriesOf_one hone, map_append, List.map_singleton, ← cons_append,
      ← cons_append, ← cons_append, ← append_assoc]
    exact List.getLast?_append_of_ne_nil _ (cons_ne_nil _ _)
  · have hmany : ∀ path, config.derivations ≠ [path] := fun path h => hone ⟨path, h⟩
    rw [pathsOf_many hmany] at hlength
    rcases List.eq_nil_or_concat config.derivations with hnil | ⟨paths, path, hpaths⟩
    · rw [hnil, length_append] at hlength
      cases hlength
    rw [List.concat_eq_append] at hpaths
    rw [hpaths, length_append, length_append] at hlength
    rw [entriesOf_many hmany, hpaths, List.zip_append (Nat.add_right_cancel hlength),
      List.flatMap_append, ← cons_append, ← cons_append, ← append_assoc]
    exact List.getLast?_append_of_ne_nil _ (cons_ne_nil _ _)

theorem foldl_entriesOf (config : MultiSigWalletFile) (xfp : Text)
    (hlength : (pathsOf config).length = items.length) :
    ∃ creator, (entriesOf config xfp items).foldl Entry.apply .empty
      = { MultiSigWalletFile.empty with
          creator
          name := config.name
          threshold := config.threshold
          total := config.total
          format := config.format
          derivations := config.derivations
          xpubItems := items.map fun item => ⟨trim item.xfp, item.xpub⟩ } := by
  have htitle : ∃ creator, readComment .empty (titleLine config.creator xfp)
      = { MultiSigWalletFile.empty with creator } := by
    unfold readComment
    split
    · exact ⟨_, rfl⟩
    · split
      · exact ⟨_, rfl⟩
      · exact ⟨_, rfl⟩
  obtain ⟨creator, htitle⟩ := htitle
  refine ⟨creator, ?_⟩
  by_cases hone : ∃ path, config.derivations = [path]
  · obtain ⟨path, hone⟩ := hone
    rw [entriesOf_one hone, List.foldl_append]
    simp only [foldl_cons, List.foldl_nil, Entry.apply, htitle, Entry.foldl_cosigners, hone]
    rfl
  · have hmany : ∀ path, config.derivations ≠ [path] := fun path h => hone ⟨path, h⟩
    rw [pathsOf_many hmany] at hlength
    rw [entriesOf_many hmany, List.foldl_append]
    simp only [foldl_cons, List.foldl_nil, Entry.apply, htitle, Entry.foldl_derived]
    have hpaths : (config.derivations.zip items).map (·.1) = config.derivations :=
      List.map_fst_zip (le_of_eq hlength)
    have hitems : (config.derivations.zip items).map (·.2) = items :=
      List.map_snd_zip (le_of_eq hlength.symm)
    have hread : ((config.derivations.zip items).map fun p =>
        (⟨trim p.2.xfp, p.2.xpub⟩ : MultiSigXPubItem))
        = items.map fun item => ⟨trim item.xfp, item.xpub⟩ := by
      conv_rhs => rw [← hitems]
      rw [List.map_map]
      rfl
    rw [hpaths, hread]
    rfl

end Keystone3.Bitcoin
