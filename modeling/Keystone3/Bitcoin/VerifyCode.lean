import Mathlib.Data.List.Perm.Basic
import Keystone3.Bitcoin.WalletRoundTrip

/-!
# The verify code of a multisig wallet

What is hashed is one text: the fingerprint, the keys in order and all with one prefix,
the policy and the path of the format, with nothing between a key and the threshold
behind it. The keys keep the parts apart all the same: none of them has a character of
the path, and none is another one with a digit or two behind it
(`keyText_not_extended`), so the text says what it was made from (`verifyText_inj`).

Two wallets that differ in their policies only, and these by multiples of 256, have the
same code; otherwise the code tells apart what it should (`verifyCode_law_iff`).
-/

namespace Keystone3.Bitcoin

open Bytes (Block value value_append value_lt utf8)
open Logic (Outcome)

/-- A text in base 58 of bytes that begin with the prefix of `xpub`. -/
def KeyText (x : Text) : Prop := ∃ q, x = base58Text (Version.xpub.bytes ++ q)

section

variable {x y : Text}

theorem KeyText.mem (h : KeyText x) : ∀ c ∈ x, c ∈ base58Chars := by
  obtain ⟨q, rfl⟩ := h
  exact mem_base58Text

theorem KeyText.digits (h : KeyText x) : ∃ ds : List Nat, (∀ d ∈ ds, d < 58) ∧ x = base58Of ds ∧
    ∃ m, 76067358 * 256 ^ m ≤ value 58 ds ∧ value 58 ds < 76067359 * 256 ^ m := by
  obtain ⟨q, rfl⟩ := h
  have hvalue : value 58 (Bytes.rebase 256 58 2 ((Version.xpub.bytes ++ q).map UInt8.toNat))
      = 76067358 * 256 ^ q.length + valueOf 8 q := by
    rw [Bytes.value_rebase (by decide) (by decide) toNat_lt_of_mem, List.map_append, value_append,
      List.length_map]
    rfl
  have hlow : valueOf 8 q < 256 ^ q.length := by
    have hlt := value_lt (by decide : 1 < 256) (@toNat_lt_of_mem q)
    rwa [List.length_map] at hlt
  refine ⟨_, Bytes.rebase_lt (by decide), rfl, q.length, ?_, ?_⟩
  · rw [hvalue]
    exact Nat.le_add_right _ _
  · rw [hvalue]
    omega

theorem base58Of_inj {ds es : List Nat} (hds : ∀ d ∈ ds, d < 58) (hes : ∀ e ∈ es, e < 58)
    (h : base58Of ds = base58Of es) : ds = es := by
  have hnodup : base58Chars.Nodup := by decide
  have hchar : ∀ m < 58, ∀ n < 58, base58Chars.getD m '1' = base58Chars.getD n '1' → m = n := by
    intro m hm n hn heq
    rw [List.getD_eq_getElem _ _ hm, List.getD_eq_getElem _ _ hn] at heq
    exact hnodup.getElem_inj_iff.mp heq
  induction ds generalizing es with
  | nil => exact (List.map_eq_nil_iff.mp h.symm).symm
  | cons d ds ih =>
    cases es with
    | nil => cases h
    | cons e es =>
      obtain ⟨hfirst, hrest⟩ := List.cons.inj h
      rw [hchar d (hds d (.head _)) e (hes e (.head _)) hfirst,
        ih (fun d' hd' => hds d' (List.mem_cons_of_mem d hd'))
          (fun e' he' => hes e' (List.mem_cons_of_mem e he')) hrest]

theorem prefix_shift {m n k a b e : Nat} (hk : k ≤ 2) (ha : 76067358 * 256 ^ m ≤ a)
    (ha' : a < 76067359 * 256 ^ m) (hb : 76067358 * 256 ^ n ≤ b) (hb' : b < 76067359 * 256 ^ n)
    (he : e < 58 ^ k) (h : b = a * 58 ^ k + e) : k = 0 := by
  have hm : 0 < 256 ^ m := Nat.pow_pos (by decide)
  have hn : 0 < 256 ^ n := Nat.pow_pos (by decide)
  rcases Nat.lt_or_ge m n with hlt | hle
  · obtain ⟨j, rfl⟩ := Nat.exists_eq_add_of_lt hlt
    have hsplit : 256 ^ (m + j + 1) = 256 * 256 ^ j * 256 ^ m := by
      rw [Nat.add_assoc, Nat.pow_add, Nat.pow_succ]
      ring
    rw [hsplit] at hb hb'
    generalize 256 ^ m = p at *
    rcases Nat.eq_zero_or_pos j with rfl | hj
    · interval_cases k
      · rfl
      · omega
      · omega
    · obtain ⟨i, rfl⟩ := Nat.exists_eq_add_of_lt hj
      have hbig : 256 * p ≤ 256 ^ (0 + i + 1) * p :=
        Nat.mul_le_mul_right p (Nat.le_self_pow (Nat.succ_ne_zero _) 256)
      have hassoc : 256 * 256 ^ (0 + i + 1) * p = 256 * (256 ^ (0 + i + 1) * p) :=
        Nat.mul_assoc _ _ _
      rw [hassoc] at hb hb'
      generalize 256 ^ (0 + i + 1) * p = s at *
      interval_cases k
      · rfl
      · omega
      · omega
  · obtain ⟨j, rfl⟩ := Nat.exists_eq_add_of_le hle
    have hbig : 256 ^ n ≤ 256 ^ (n + j) := Nat.pow_le_pow_right (by decide) (Nat.le_add_right n j)
    generalize 256 ^ (n + j) = p at *
    generalize 256 ^ n = s at *
    interval_cases k
    · rfl
    · omega
    · omega

theorem keyText_not_extended (hx : KeyText x) {tail : Text} (hy : KeyText (x ++ tail))
    (htail : tail.length ≤ 2) : tail = [] := by
  obtain ⟨ds, hds, rfl, m, hlow, hhigh⟩ := hx.digits
  obtain ⟨es, hes, heq, n, hlow', hhigh'⟩ := hy.digits
  obtain ⟨es₁, es₂, rfl, hfirst, hsecond⟩ := List.map_eq_append_iff.mp heq.symm
  have hlt : ∀ e ∈ es₂, e < 58 := fun e he => hes e (List.mem_append_right _ he)
  obtain rfl := base58Of_inj (fun e he => hes e (List.mem_append_left _ he)) hds hfirst
  have hlength : es₂.length = tail.length := by rw [← hsecond, List.length_map]
  have hzero := prefix_shift (k := es₂.length) (by omega) hlow hhigh hlow' hhigh'
    (value_lt (by decide) hlt) (value_append 58 es₁ es₂)
  rw [hlength] at hzero
  exact List.length_eq_zero_iff.mp hzero

theorem KeyText.length (h : KeyText x) : 2 < x.length := by
  obtain ⟨ds, hds, rfl, m, hlow, -⟩ := h.digits
  have hlt := value_lt (by decide : 1 < 58) hds
  have hpow : 0 < 256 ^ m := Nat.pow_pos (by decide)
  show 2 < (ds.map _).length
  rw [List.length_map]
  by_contra hle
  have hbound : 58 ^ ds.length ≤ 58 ^ 2 := Nat.pow_le_pow_right (by decide) (by omega)
  omega

end

def verifyText (xfp : Option Text) (converted : List Text) (threshold total : UInt8)
    (path : Text) : Text :=
  xfp.getD [] ++ List.intercalate [' '] (converted.insertionSort (· ≤ ·))
    ++ Nat.toDigits 10 threshold.toNat ++ ['o', 'f'] ++ Nat.toDigits 10 total.toNat ++ path

theorem toDigits_byte_inj {m n : UInt8} (h : Nat.toDigits 10 m.toNat = Nat.toDigits 10 n.toNat) :
    m = n := by
  have hm := Bytes.parseUnsigned_toDigits m.toNat_lt
  rw [h, Bytes.parseUnsigned_toDigits n.toNat_lt] at hm
  exact UInt8.toNat_inj.mp (Option.some.inj hm).symm

set_option maxRecDepth 16384 in
theorem length_toDigits_byte (n : UInt8) :
    1 ≤ (Nat.toDigits 10 n.toNat).length ∧ (Nat.toDigits 10 n.toNat).length ≤ 3 := by
  have hall : ∀ k < 256, 1 ≤ (Nat.toDigits 10 k).length ∧ (Nat.toDigits 10 k).length ≤ 3 := by
    decide
  exact hall n.toNat n.toNat_lt

theorem not_mem_toDigits {c : Char} (hc : c.isDigit = false) (n : Nat) :
    c ∉ Nat.toDigits 10 n := by
  intro h
  rw [Bytes.isDigit_toDigits c h] at hc
  cases hc

theorem intercalate_cons_cons (k l : Text) (ks : List Text) :
    List.intercalate [' '] (k :: l :: ks) = k ++ ' ' :: List.intercalate [' '] (l :: ks) := by
  simp [List.intercalate]

section

variable {ks ks' : List Text} {t t' n n' : UInt8}

theorem key_threshold_inj {k k' : Text} (hk : KeyText k) (hk' : KeyText k')
    (h : k ++ Nat.toDigits 10 t.toNat = k' ++ Nat.toDigits 10 t'.toNat) : k = k' ∧ t = t' := by
  obtain ⟨hone, hthree⟩ := length_toDigits_byte t
  obtain ⟨hone', hthree'⟩ := length_toDigits_byte t'
  rcases List.append_eq_append_iff.mp h with ⟨tail, rfl, hdigits⟩ | ⟨tail, rfl, hdigits⟩
  · have hlength := congrArg List.length hdigits
    rw [List.length_append] at hlength
    obtain rfl := keyText_not_extended hk hk' (by omega)
    exact ⟨(List.append_nil k).symm, toDigits_byte_inj hdigits⟩
  · have hlength := congrArg List.length hdigits
    rw [List.length_append] at hlength
    obtain rfl := keyText_not_extended hk' hk (by omega)
    exact ⟨List.append_nil k', (toDigits_byte_inj hdigits).symm⟩

theorem keys_threshold_inj (hks : ∀ k ∈ ks, KeyText k) (hks' : ∀ k ∈ ks', KeyText k)
    (h : List.intercalate [' '] ks ++ Nat.toDigits 10 t.toNat
      = List.intercalate [' '] ks' ++ Nat.toDigits 10 t'.toNat) : ks = ks' ∧ t = t' := by
  have hblank : ∀ {k : Text}, KeyText k → ' ' ∉ k := fun hk hc => absurd (hk.mem ' ' hc) (by decide)
  have hdigits : ∀ t : UInt8, ' ' ∉ Nat.toDigits 10 t.toNat := fun t =>
    not_mem_toDigits (by decide) t.toNat
  -- there is no key where there are three characters, and no second one where there is no blank
  have hsome : ∀ {t t' : UInt8} {k : Text} {ks : List Text}, KeyText k →
      Nat.toDigits 10 t.toNat ≠ List.intercalate [' '] (k :: ks) ++ Nat.toDigits 10 t'.toNat := by
    intro t t' k ks hk heq
    cases ks with
    | nil =>
      have hlength := congrArg List.length heq
      have hlong := hk.length
      rw [show List.intercalate [' '] [k] = k by simp [List.intercalate], List.length_append]
        at hlength
      have hbound := (length_toDigits_byte t).2
      have hbound' := (length_toDigits_byte t').1
      omega
    | cons l ks =>
      rw [intercalate_cons_cons] at heq
      exact hdigits t (heq ▸ List.mem_append_left _ (List.mem_append_right _ (.head _)))
  have hsingle : ∀ {t t' : UInt8} {k k' l : Text} {ks : List Text}, KeyText k →
      k ++ Nat.toDigits 10 t.toNat
        ≠ List.intercalate [' '] (k' :: l :: ks) ++ Nat.toDigits 10 t'.toNat := by
    intro t t' k k' l ks hk heq
    have hmem : ' ' ∈ k ++ Nat.toDigits 10 t.toNat := by
      rw [heq, intercalate_cons_cons]
      exact List.mem_append_left _ (List.mem_append_right _ (.head _))
    rcases List.mem_append.mp hmem with hmem | hmem
    · exact hblank hk hmem
    · exact hdigits t hmem
  induction ks generalizing ks' with
  | nil =>
    cases ks' with
    | nil => exact ⟨rfl, toDigits_byte_inj h⟩
    | cons k' ks' => exact absurd h (hsome (hks' k' (.head _)))
  | cons k ks ih =>
    have hk := hks k (.head _)
    cases ks' with
    | nil => exact absurd h.symm (hsome hk)
    | cons k' ks' =>
      have hk' := hks' k' (.head _)
      have hone : ∀ k : Text, List.intercalate [' '] [k] = k := fun k => by simp [List.intercalate]
      cases ks with
      | nil =>
        rw [hone] at h
        cases ks' with
        | nil =>
          rw [hone] at h
          obtain ⟨rfl, rfl⟩ := key_threshold_inj hk hk' h
          exact ⟨rfl, rfl⟩
        | cons l' ks' => exact absurd h (hsingle hk)
      | cons l ks =>
        cases ks' with
        | nil =>
          rw [hone] at h
          exact absurd h.symm (hsingle hk')
        | cons l' ks' =>
          rw [intercalate_cons_cons, intercalate_cons_cons, List.append_assoc, List.append_assoc,
            List.cons_append, List.cons_append] at h
          obtain ⟨rfl, hrest⟩ := Bytes.append_cons_inj (hblank hk) (hblank hk') h
          obtain ⟨htail, rfl⟩ := ih (fun x hx => hks x (List.mem_cons_of_mem k hx))
            (fun x hx => hks' x (List.mem_cons_of_mem k hx)) hrest
          exact ⟨congrArg (k :: ·) htail, rfl⟩

theorem multiPath_slash (format : MultiSigFormat) (network : MultiSigNetwork) :
    ∃ rest, multiPath format network = 'm' :: '/' :: rest := by
  cases format <;> cases network <;> exact ⟨_, rfl⟩

theorem verifyText_inj {xfp : Option Text} {format format' : MultiSigFormat}
    {network network' : MultiSigNetwork} (hks : ∀ k ∈ ks, KeyText k) (hks' : ∀ k ∈ ks', KeyText k)
    (h : verifyText xfp ks t n (multiPath format network)
      = verifyText xfp ks' t' n' (multiPath format' network')) :
    ks.insertionSort (· ≤ ·) = ks'.insertionSort (· ≤ ·) ∧ t = t' ∧ n = n' ∧
      multiPath format network = multiPath format' network' := by
  have hsorted : ∀ {ks : List Text}, (∀ k ∈ ks, KeyText k) →
      ∀ k ∈ ks.insertionSort (· ≤ ·), KeyText k := fun hks k hk =>
    hks k ((List.mem_insertionSort _).mp hk)
  -- a slash is in the path only, and an `f` stands last in front of the total
  have hslash : ∀ {ks : List Text}, (∀ k ∈ ks, KeyText k) →
      '/' ∉ List.intercalate [' '] (ks.insertionSort (· ≤ ·)) := fun hks =>
    Bytes.not_mem_intercalate (by decide) fun k hk hc =>
      absurd ((hsorted hks k hk).mem '/' hc) (by decide)
  -- what is in front of the slash in the path
  let body (ks : List Text) (t n : UInt8) : Text :=
    List.intercalate [' '] (ks.insertionSort (· ≤ ·)) ++ Nat.toDigits 10 t.toNat ++ ['o', 'f']
      ++ Nat.toDigits 10 n.toNat
  have hbody : ∀ {ks : List Text} {t n : UInt8}, (∀ k ∈ ks, KeyText k) →
      '/' ∉ body ks t n ++ ['m'] := by
    intro ks t n hks hc
    simp only [body, List.mem_append] at hc
    rcases hc with (((hc | hc) | hc) | hc) | hc
    · exact hslash hks hc
    · exact not_mem_toDigits (by decide) t.toNat hc
    · exact absurd hc (by decide)
    · exact not_mem_toDigits (by decide) n.toNat hc
    · exact absurd hc (by decide)
  have htext : ∀ (ks : List Text) (t n : UInt8) (rest : Text),
      verifyText xfp ks t n ('m' :: '/' :: rest)
        = xfp.getD [] ++ ((body ks t n ++ ['m']) ++ '/' :: rest) := by
    intro ks t n rest
    simp only [verifyText, body, List.append_assoc, List.cons_append, List.nil_append]
  have hreverse : ∀ (ks : List Text) (t n : UInt8), (body ks t n).reverse
      = (Nat.toDigits 10 n.toNat).reverse ++ 'f' :: 'o' ::
        (List.intercalate [' '] (ks.insertionSort (· ≤ ·)) ++ Nat.toDigits 10 t.toNat).reverse := by
    intro ks t n
    simp only [body, List.reverse_append]
    rfl
  have hlast : ∀ n : UInt8, 'f' ∉ (Nat.toDigits 10 n.toNat).reverse := fun n hc =>
    not_mem_toDigits (by decide) n.toNat (List.mem_reverse.mp hc)
  obtain ⟨rest, hrest⟩ := multiPath_slash format network
  obtain ⟨rest', hrest'⟩ := multiPath_slash format' network'
  rw [hrest, hrest', htext, htext] at h
  rw [hrest, hrest']
  obtain ⟨hfront, rfl⟩ :=
    Bytes.append_cons_inj (hbody hks) (hbody hks') (List.append_cancel_left h)
  have hsame := congrArg List.reverse (List.append_cancel_right hfront)
  rw [hreverse, hreverse] at hsame
  obtain ⟨htotal, hkeys⟩ := Bytes.append_cons_inj (hlast n) (hlast n') hsame
  obtain ⟨hks, rfl⟩ := keys_threshold_inj (hsorted hks) (hsorted hks')
    (List.reverse_inj.mp (List.cons.inj hkeys).2)
  exact ⟨hks, rfl, toDigits_byte_inj (List.reverse_inj.mp htotal), rfl⟩

end

def materialOf (keys : KeyLib) (item : MultiSigXPubItem) : Option (List UInt8) :=
  match keys.decodeCheck item.xpub with
  | .ok bytes => if bytes.length < 4 then none else some (bytes.drop 4)
  | .error _ => none

def materials (keys : KeyLib) (wallet : MultiSigWalletFile) : List (List UInt8) :=
  wallet.xpubItems.filterMap (materialOf keys)

def convertedKey (keys : KeyLib) (material : List UInt8) : Text :=
  keys.encodeCheck (Version.xpub.bytes ++ material)

def hashedBytes (keys : KeyLib) (wallet : MultiSigWalletFile) (xfp : Option Text) : List UInt8 :=
  match MultiSigFormat.ofText wallet.format with
  | .ok format => utf8 (verifyText xfp ((materials keys wallet).map (convertedKey keys))
      wallet.threshold.toUInt8 wallet.total.toUInt8 (multiPath format wallet.network))
  | _ => []

def verifyHash (keys : KeyLib) (data : List UInt8) : Text :=
  ((keys.sha256 data).bytes.flatMap hexByte).take 8

def HashApart (keys : KeyLib) (wallet wallet' : MultiSigWalletFile) (xfp : Option Text) : Prop :=
  verifyHash keys (hashedBytes keys wallet xfp) = verifyHash keys (hashedBytes keys wallet' xfp) →
    hashedBytes keys wallet xfp = hashedBytes keys wallet' xfp

/-- What the codes of two wallets should say: they are the same if only the order and the prefixes
of the keys are not. -/
structure VerifyCodeLaw (keys : KeyLib) (wallet wallet' : MultiSigWalletFile) (code code' : Text) :
    Prop where
  same : (materials keys wallet).Perm (materials keys wallet') →
    wallet.threshold = wallet'.threshold → wallet.total = wallet'.total →
    MultiSigFormat.ofText wallet.format = MultiSigFormat.ofText wallet'.format →
    wallet.network = wallet'.network → code = code'
  policy : wallet.threshold ≠ wallet'.threshold ∨ wallet.total ≠ wallet'.total → code ≠ code'
  format : MultiSigFormat.ofText wallet.format ≠ MultiSigFormat.ofText wallet'.format → code ≠ code'
  materials : ¬(∀ m, m ∈ materials keys wallet ↔ m ∈ materials keys wallet') → code ≠ code'

/-- Two wallets that differ in their policies, but not in what of these is hashed, nor in
anything else that is. -/
structure PolicyAliased (keys : KeyLib) (wallet wallet' : MultiSigWalletFile) : Prop where
  policy : wallet.threshold ≠ wallet'.threshold ∨ wallet.total ≠ wallet'.total
  threshold : wallet.threshold.toUInt8 = wallet'.threshold.toUInt8
  total : wallet.total.toUInt8 = wallet'.total.toUInt8
  format : MultiSigFormat.ofText wallet.format = MultiSigFormat.ofText wallet'.format
  path : ∀ format, MultiSigFormat.ofText wallet.format = .ok format →
    multiPath format wallet.network = multiPath format wallet'.network
  materials : (materials keys wallet).Perm (materials keys wallet')

section

variable {keys : KeyLib} {wallet wallet' : MultiSigWalletFile} {xfp : Option Text}

theorem collect_converted {items : List MultiSigXPubItem} {converted : List Text}
    (h : Outcome.collect (fun x => convertVersion keys x .xpub) (items.map (·.xpub))
      = .ok converted) : converted = (items.filterMap (materialOf keys)).map (convertedKey keys) := by
  induction items generalizing converted with
  | nil =>
    cases h
    rfl
  | cons item items ih =>
    obtain ⟨key, hkey, h⟩ := Outcome.bind_eq_ok.mp h
    obtain ⟨rest, hrest, h⟩ := Outcome.bind_eq_ok.mp h
    cases h
    obtain ⟨bytes, hbytes, hlen, rfl⟩ := convertVersion_eq_ok.mp hkey
    -- the version in front is replaced, and what is behind it is kept
    have hmaterial : materialOf keys item = some (bytes.drop 4) := by
      unfold materialOf
      rw [hbytes]
      exact if_neg (Nat.not_lt.mpr hlen)
    rw [List.filterMap_cons_some hmaterial, List.map_cons, ih hrest]
    rfl

theorem code_of_converted {xpubs converted : List Text} {threshold total : UInt8}
    {format : MultiSigFormat} {network : MultiSigNetwork}
    (h : Outcome.collect (fun x => convertVersion keys x .xpub) xpubs = .ok converted) :
    ∃ code, multiSigVerifyCode keys xpubs threshold total format network xfp = .ok code := by
  unfold multiSigVerifyCode
  rw [h]
  exact ⟨_, rfl⟩

theorem code_eq_hash {format : MultiSigFormat} {code : Text}
    (hformat : MultiSigFormat.ofText wallet.format = .ok format)
    (h : multiSigVerifyCode keys (wallet.xpubItems.map (·.xpub)) wallet.threshold.toUInt8
      wallet.total.toUInt8 format wallet.network xfp = .ok code) :
    code = verifyHash keys (hashedBytes keys wallet xfp) := by
  obtain ⟨converted, hconverted, h⟩ := Outcome.bind_eq_ok.mp h
  cases h
  unfold hashedBytes
  rw [hformat, collect_converted hconverted]
  rfl

theorem convertedKey_injective (hkeys : keys.Lawful) : Function.Injective (convertedKey keys) := by
  intro m m' h
  have hdecode := hkeys.decodeCheck_encodeCheck (Version.xpub.bytes ++ m)
  have hsame : keys.encodeCheck (Version.xpub.bytes ++ m)
      = keys.encodeCheck (Version.xpub.bytes ++ m') := h
  rw [hsame, hkeys.decodeCheck_encodeCheck] at hdecode
  exact (List.append_cancel_left (Except.ok.inj hdecode)).symm

theorem keyText_converted (hkeys : keys.Lawful) (ms : List (List UInt8)) :
    ∀ k ∈ ms.map (convertedKey keys), KeyText k := by
  intro k hk
  obtain ⟨m, -, rfl⟩ := List.mem_map.mp hk
  exact ⟨_, by rw [convertedKey, hkeys.encodeCheck_eq, List.append_assoc]⟩

theorem insertionSort_eq_iff {ks ks' : List Text} :
    ks.insertionSort (· ≤ ·) = ks'.insertionSort (· ≤ ·) ↔ ks.Perm ks' := by
  constructor
  · intro h
    exact (List.perm_insertionSort (· ≤ ·) ks).symm.trans (h ▸ List.perm_insertionSort (· ≤ ·) ks')
  · intro h
    exact List.Perm.eq_of_pairwise' (List.pairwise_insertionSort (· ≤ ·) ks)
      (List.pairwise_insertionSort (· ≤ ·) ks')
      ((List.perm_insertionSort _ ks).trans (h.trans (List.perm_insertionSort _ ks').symm))

theorem hashedBytes_eq_iff (hkeys : keys.Lawful) (xfp : Option Text) {format format' : MultiSigFormat}
    (hformat : MultiSigFormat.ofText wallet.format = .ok format)
    (hformat' : MultiSigFormat.ofText wallet'.format = .ok format') :
    hashedBytes keys wallet xfp = hashedBytes keys wallet' xfp ↔
      (materials keys wallet).Perm (materials keys wallet') ∧
        wallet.threshold.toUInt8 = wallet'.threshold.toUInt8 ∧
        wallet.total.toUInt8 = wallet'.total.toUInt8 ∧
        multiPath format wallet.network = multiPath format' wallet'.network := by
  unfold hashedBytes
  rw [hformat, hformat']
  constructor
  · intro h
    obtain ⟨hsorted, hthreshold, htotal, hpath⟩ := verifyText_inj (keyText_converted hkeys _)
      (keyText_converted hkeys _) (Bytes.utf8_inj h)
    exact ⟨(List.map_perm_map_iff (convertedKey_injective hkeys)).mp
      (insertionSort_eq_iff.mp hsorted), hthreshold, htotal, hpath⟩
  · rintro ⟨hperm, hthreshold, htotal, hpath⟩
    have hsorted := insertionSort_eq_iff.mpr (hperm.map (convertedKey keys))
    dsimp only
    unfold verifyText
    rw [hsorted, hthreshold, htotal, hpath]

theorem multiPath_inj {format format' : MultiSigFormat} {network network' : MultiSigNetwork}
    (h : multiPath format network = multiPath format' network') : format = format' := by
  revert h
  cases format <;> cases format' <;> cases network <;> cases network' <;> decide

theorem law_iff_of_hash (hkeys : keys.Lawful) {format format' : MultiSigFormat}
    (hformat : MultiSigFormat.ofText wallet.format = .ok format)
    (hformat' : MultiSigFormat.ofText wallet'.format = .ok format')
    (hapart : HashApart keys wallet wallet' xfp) :
    VerifyCodeLaw keys wallet wallet' (verifyHash keys (hashedBytes keys wallet xfp))
        (verifyHash keys (hashedBytes keys wallet' xfp)) ↔ ¬PolicyAliased keys wallet wallet' := by
  have hiff := hashedBytes_eq_iff hkeys xfp hformat hformat'
  -- the same code, from wallets that are the same in what is hashed
  have hcode : verifyHash keys (hashedBytes keys wallet xfp)
      = verifyHash keys (hashedBytes keys wallet' xfp) →
      (materials keys wallet).Perm (materials keys wallet') ∧
        wallet.threshold.toUInt8 = wallet'.threshold.toUInt8 ∧
        wallet.total.toUInt8 = wallet'.total.toUInt8 ∧ format = format' ∧
        multiPath format wallet.network = multiPath format' wallet'.network := by
    intro h
    obtain ⟨hperm, hthreshold, htotal, hpath⟩ := hiff.mp (hapart h)
    exact ⟨hperm, hthreshold, htotal, multiPath_inj hpath, hpath⟩
  constructor
  · intro hlaw haliased
    have hsame : format = format' :=
      Outcome.ok.inj (hformat.symm.trans (haliased.format.trans hformat'))
    refine hlaw.policy haliased.policy (congrArg (verifyHash keys) (hiff.mpr ?_))
    exact ⟨haliased.materials, haliased.threshold, haliased.total,
      hsame ▸ haliased.path format hformat⟩
  · intro hnot
    refine ⟨fun hperm hthreshold htotal hsame hnetwork => ?_, fun hpolicy h => ?_,
      fun hother h => ?_, fun hother h => ?_⟩
    · have hsame' : format = format' := Outcome.ok.inj (hformat.symm.trans (hsame.trans hformat'))
      refine congrArg (verifyHash keys) (hiff.mpr ⟨hperm, ?_, ?_, ?_⟩)
      · rw [hthreshold]
      · rw [htotal]
      · rw [hsame', hnetwork]
    · obtain ⟨hperm, hthreshold, htotal, hsame, hpath⟩ := hcode h
      refine hnot ⟨hpolicy, hthreshold, htotal, ?_, fun f hf => ?_, hperm⟩
      · rw [hformat, hformat', hsame]
      · obtain rfl := Outcome.ok.inj (hformat.symm.trans hf)
        rw [hpath, hsame]
    · obtain ⟨-, -, -, hsame, -⟩ := hcode h
      exact hother (by rw [hformat, hformat', hsame])
    · exact hother fun m => (hcode h).1.mem_iff

end

/-- **When the codes say what they should**: unless two wallets differ in their policies alone, and
these by multiples of 256. -/
theorem verifyCode_law_iff {keys : KeyLib} (hkeys : keys.Lawful)
    {wallet wallet' read read' : MultiSigWalletFile} {xfp : Text}
    (h : calculateWalletVerifyCode keys wallet xfp = .ok read)
    (h' : calculateWalletVerifyCode keys wallet' xfp = .ok read')
    (hapart : ∀ shown, HashApart keys wallet wallet' shown) :
    (VerifyCodeLaw keys wallet wallet' read.verifyCode read'.verifyCode ↔
        ¬PolicyAliased keys wallet wallet') ∧
      (VerifyCodeLaw keys wallet wallet' read.verifyWithoutMfp read'.verifyWithoutMfp ↔
        ¬PolicyAliased keys wallet wallet') := by
  obtain ⟨format, code, code', hformat, hcode, hcode', rfl⟩ :=
    calculateWalletVerifyCode_eq_ok.mp h
  obtain ⟨format', other, other', hformat', hother, hother', rfl⟩ :=
    calculateWalletVerifyCode_eq_ok.mp h'
  dsimp only
  rw [code_eq_hash hformat hcode, code_eq_hash hformat hcode', code_eq_hash hformat' hother,
    code_eq_hash hformat' hother']
  exact ⟨law_iff_of_hash hkeys hformat hformat' (hapart (some xfp)),
    law_iff_of_hash hkeys hformat hformat' (hapart none)⟩

def policyHash (data : List UInt8) : Block 32 := Block.ofBytes 32 ((data.reverse.drop 14).take 4)

def policyLib : KeyLib where
  encodeCheck data := base58Text (data ++ (policyHash (policyHash data).bytes).bytes.take 4)
  decodeCheck s :=
    match fromBase58Str s with
    | .ok bytes => .ok (bytes.take (bytes.length - 4))
    | _ => .error "not in base 58"
  isXpub s :=
    match fromBase58Str s with
    | .ok bytes => bytes.length = 82
    | _ => false
  sha256 := policyHash

theorem policyLib_lawful : policyLib.Lawful where
  encodeCheck_eq _ := rfl
  decodeCheck_encodeCheck data := by
    simp [policyLib, fromBase58Str_base58Text, Block.size_eq]
  length_of_isXpub data h := by
    simpa [policyLib, fromBase58Str_base58Text, Block.size_eq] using h

/-- A key with bytes that are all the same. -/
@[irreducible] def policyKey (n : UInt8) : Text :=
  policyLib.encodeCheck (Version.xpub.bytes ++ List.replicate 74 n)

theorem policyKey_converted (n : UInt8) :
    convertVersion policyLib (policyKey n) .xpub = .ok (policyKey n) := by
  unfold policyKey
  exact convertVersion_encodeCheck policyLib_lawful .xpub .xpub (List.replicate 74 n)

def thresholdWallet (threshold : UInt32) : MultiSigWalletFile :=
  { MultiSigWalletFile.empty with
    threshold
    total := 2
    derivations := [multiP2wshPath]
    format := ['P', '2', 'W', 'S', 'H']
    xpubItems := [⟨['7', '3', 'C', '5', 'D', 'A', '0', 'A'], policyKey 1⟩,
      ⟨['7', '4', '8', 'C', 'C', '6', 'A', 'A'], policyKey 2⟩] }

theorem calculate_thresholdWallet (threshold : UInt32) (xfp : Text) :
    ∃ read, calculateWalletVerifyCode policyLib (thresholdWallet threshold) xfp = .ok read := by
  have hcode : ∀ shown, ∃ code, multiSigVerifyCode policyLib
      ((thresholdWallet threshold).xpubItems.map (·.xpub)) threshold.toUInt8 (2 : UInt32).toUInt8
        .p2wsh .mainNet shown = .ok code := by
    intro shown
    have hcollect : Outcome.collect (fun x => convertVersion policyLib x .xpub)
        ((thresholdWallet threshold).xpubItems.map (·.xpub)) = .ok [policyKey 1, policyKey 2] :=
      Outcome.collect_eq_ok.mpr (.cons (policyKey_converted 1) (.cons (policyKey_converted 2) .nil))
    exact code_of_converted hcollect
  obtain ⟨code, hnone⟩ := hcode none
  obtain ⟨code', hsome⟩ := hcode (some xfp)
  exact ⟨_, calculateWalletVerifyCode_eq_ok.mpr ⟨.p2wsh, code, code', rfl, hnone, hsome, rfl⟩⟩

theorem verifyHash_policyLib (front : List UInt8) {back : List UInt8} (h : back.length = 18) :
    verifyHash policyLib (front ++ back) = verifyHash policyLib back := by
  have hhash : policyHash (front ++ back) = policyHash back := by
    unfold policyHash
    rw [List.reverse_append, List.drop_append_of_le_length (by rw [List.length_reverse, h]; decide),
      List.take_append_of_le_length (by rw [List.length_drop, List.length_reverse, h])]
  show ((policyHash (front ++ back)).bytes.flatMap hexByte).take 8 = _
  rw [hhash]
  rfl

def policyBytes (threshold : UInt32) : List UInt8 :=
  utf8 (Nat.toDigits 10 threshold.toUInt8.toNat ++ ['o', 'f']
    ++ Nat.toDigits 10 (2 : UInt32).toUInt8.toNat ++ multiPath .p2wsh .mainNet)

theorem verifyHash_thresholdWallet {threshold : UInt32} (shown : Option Text)
    (h : (policyBytes threshold).length = 18) :
    verifyHash policyLib (hashedBytes policyLib (thresholdWallet threshold) shown)
      = verifyHash policyLib (policyBytes threshold) := by
  have hbytes : ∃ front, hashedBytes policyLib (thresholdWallet threshold) shown
      = utf8 front ++ policyBytes threshold := by
    refine ⟨shown.getD [] ++ List.intercalate [' '] (((materials policyLib
      (thresholdWallet threshold)).map (convertedKey policyLib)).insertionSort (· ≤ ·)), ?_⟩
    unfold policyBytes utf8
    rw [← List.flatMap_append]
    simp only [hashedBytes, verifyText, ← List.append_assoc]
    rfl
  obtain ⟨front, hfront⟩ := hbytes
  rw [hfront]
  exact verifyHash_policyLib (utf8 front) h

/-- Two of two and one of two. -/
theorem verifyCode_law_sample : ∃ read read',
    calculateWalletVerifyCode policyLib (thresholdWallet 2) [] = .ok read ∧
    calculateWalletVerifyCode policyLib (thresholdWallet 1) [] = .ok read' ∧
    VerifyCodeLaw policyLib (thresholdWallet 2) (thresholdWallet 1) read.verifyCode
      read'.verifyCode := by
  obtain ⟨read, hread⟩ := calculate_thresholdWallet 2 []
  obtain ⟨read', hread'⟩ := calculate_thresholdWallet 1 []
  have hapart : ∀ shown, HashApart policyLib (thresholdWallet 2) (thresholdWallet 1) shown := by
    intro shown heq
    rw [verifyHash_thresholdWallet shown (by decide), verifyHash_thresholdWallet shown (by decide)]
      at heq
    cases heq
  have hnot : ¬PolicyAliased policyLib (thresholdWallet 2) (thresholdWallet 1) := fun haliased =>
    absurd haliased.threshold (by decide)
  exact ⟨read, read', hread, hread',
    (verifyCode_law_iff policyLib_lawful hread hread' hapart).1.mpr hnot⟩

/-- Two of two and 258 of two. -/
theorem verifyCode_of_258 :
    ¬∀ (keys : KeyLib) (wallet wallet' read read' : MultiSigWalletFile) (xfp : Text), keys.Lawful →
      calculateWalletVerifyCode keys wallet xfp = .ok read →
      calculateWalletVerifyCode keys wallet' xfp = .ok read' →
      (∀ shown, HashApart keys wallet wallet' shown) →
      VerifyCodeLaw keys wallet wallet' read.verifyCode read'.verifyCode := by
  intro claim
  obtain ⟨read, hread⟩ := calculate_thresholdWallet 2 []
  obtain ⟨read', hread'⟩ := calculate_thresholdWallet 258 []
  -- 258 of two are two of two in one byte
  have hcut : (258 : UInt32).toUInt8 = (2 : UInt32).toUInt8 := by decide
  have hsame : ∀ shown, hashedBytes policyLib (thresholdWallet 2) shown
      = hashedBytes policyLib (thresholdWallet 258) shown := by
    intro shown
    have hformat : MultiSigFormat.ofText (thresholdWallet 2).format = .ok .p2wsh := rfl
    exact (hashedBytes_eq_iff policyLib_lawful shown hformat hformat).mpr
      ⟨.refl _, hcut.symm, rfl, rfl⟩
  have hlaw := claim policyLib (thresholdWallet 2) (thresholdWallet 258) read read' [] policyLib_lawful
    hread hread' fun shown _ => hsame shown
  refine hlaw.policy (.inl (by decide)) ?_
  obtain ⟨format, code, code', hformat, -, hcode, rfl⟩ := calculateWalletVerifyCode_eq_ok.mp hread
  obtain ⟨format', other, other', hformat', -, hother, rfl⟩ :=
    calculateWalletVerifyCode_eq_ok.mp hread'
  show code' = other'
  rw [code_eq_hash hformat hcode, code_eq_hash hformat' hother, hsame]

end Keystone3.Bitcoin
