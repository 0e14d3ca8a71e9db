import Keystone3.Ethereum.Eip712
import Keystone3.Ethereum.TypedDataRequest

/-!
# Typed data against its standard

The code writes the text of every type as the standard has it (`encodeType_eq_ok`),
and encodes values, structs and domains into the words of the standard, as long as
no value is of a kind that it takes in another way (`encodeEip712_standard`).
-/

namespace Keystone3.Ethereum

open Bytes (Block ofBe hexDecode)
open Logic (Outcome BTreeMap Reaches search)
open Logic.Outcome (collect okOr ok_bind)
open Option (bind_eq_some_iff map_eq_some_iff)

theorem findTypeDependencies_eq (types : Types) (depth : Nat) : ∀ name found,
    findTypeDependencies types depth name found = search (usedTypes types) depth name found := by
  induction depth with
  | zero =>
    intro name found
    rfl
  | succ depth ih =>
    intro name found
    rw [findTypeDependencies, search, usedTypes]
    by_cases hfound : name ∈ found
    · rw [if_pos hfound, if_pos (List.contains_iff_mem.mpr hfound)]
    · have hcontains : ¬ found.contains name = true := fun h => hfound (List.contains_iff_mem.mp h)
      rw [if_neg hfound, if_neg hcontains]
      cases types.get name with
      | none => rfl
      | some fields =>
        rw [Option.map_some]
        dsimp only
        rw [List.foldl_map]
        simp only [ih]

theorem mem_findTypeDependencies_iff {types : Types} {primaryType name : Text} :
    name ∈ findTypeDependencies types (types.len + 1) primaryType []
      ↔ Reaches (usedTypes types) primaryType name := by
  rw [findTypeDependencies_eq]
  refine Logic.mem_search_iff types.keys ?_ ?_
  · intro name used hused
    rw [usedTypes, map_eq_some_iff] at hused
    obtain ⟨fields, hfields, _⟩ := hused
    exact types.key_mem_of_get hfields
  · rw [BTreeMap.keys, List.length_map, BTreeMap.len]
    omega

theorem nodup_findTypeDependencies (types : Types) (primaryType : Text) :
    (findTypeDependencies types (types.len + 1) primaryType []).Nodup := by
  rw [findTypeDependencies_eq]
  refine Logic.nodup_search types.keys ?_ ?_ primaryType
  · intro name used hused
    rw [usedTypes, map_eq_some_iff] at hused
    obtain ⟨fields, hfields, _⟩ := hused
    exact types.key_mem_of_get hfields
  · rw [BTreeMap.keys, List.length_map, BTreeMap.len]
    omega

theorem typeOrder_eq {types : Types} {primaryType : Text} {used : List Text}
    (hsorted : used.Pairwise (· < ·))
    (hmem : ∀ name, name ∈ used ↔ Reaches (usedTypes types) primaryType name ∧ name ≠ primaryType) :
    typeOrder types primaryType = primaryType :: used := by
  have hnodup := nodup_findTypeDependencies types primaryType
  have hfound : ∀ name, name ∈ findTypeDependencies types (types.len + 1) primaryType []
      ↔ Reaches (usedTypes types) primaryType name :=
    fun name => mem_findTypeDependencies_iff
  rw [typeOrder]
  generalize findTypeDependencies types (types.len + 1) primaryType [] = found at hnodup hfound ⊢
  have hperm : ((found.filter fun name => name ≠ primaryType).insertionSort (· ≤ ·)).Perm used := by
    refine (List.perm_insertionSort _ _).trans ?_
    refine (List.perm_ext_iff_of_nodup (hnodup.filter _) (hsorted.imp ?_)).mpr ?_
    · intro a b hab
      exact ne_of_lt hab
    · intro name
      rw [List.mem_filter, hmem, hfound, decide_eq_true_eq]
  have hle : used.Pairwise (· ≤ ·) := by
    refine hsorted.imp ?_
    intro a b hab
    exact le_of_lt hab
  have hsort := List.pairwise_insertionSort (· ≤ ·) (found.filter fun name => name ≠ primaryType)
  have heq : (found.filter fun name => name ≠ primaryType).insertionSort (· ≤ ·) = used :=
    List.Perm.eq_of_pairwise (fun a b _ _ hab hba => le_antisymm hab hba) hsort hle hperm
  rw [heq]

theorem definition_eq_ok {types : Types} {name definition : Text} :
    ((okOr (.noDefinition name) (types.get name) : Hashing (List Eip712DomainType))
        >>= fun fields => pure (definitionText name fields)) = .ok definition
      ↔ ∃ fields, types.get name = some fields ∧ definition = definitionText name fields := by
  rw [Outcome.bind_eq_ok]
  constructor
  · intro h
    obtain ⟨fields, hfields, h⟩ := h
    rw [Outcome.okOr_eq_ok] at hfields
    cases h
    exact ⟨fields, hfields, rfl⟩
  · intro h
    obtain ⟨fields, hfields, rfl⟩ := h
    exact ⟨fields, Outcome.okOr_eq_ok.mpr hfields, rfl⟩

theorem encodeType_eq_ok {types : Types} {primaryType text : Text} :
    encodeType primaryType types = .ok text ↔ IsEncodeType types primaryType text := by
  have hcollect : ∀ names definitions : List Text,
      collect (fun dep => (okOr (.noDefinition dep) (types.get dep) : Hashing _)
          >>= fun fields => pure (definitionText dep fields)) names = .ok definitions
        ↔ List.Forall₂ (fun name definition => ∃ fields, types.get name = some fields
          ∧ definition = definitionText name fields) names definitions := by
    intro names definitions
    rw [Outcome.collect_eq_ok]
    constructor
    · intro h
      exact h.imp fun _ _ => definition_eq_ok.mp
    · intro h
      exact h.imp fun _ _ => definition_eq_ok.mpr
  rw [encodeType, Outcome.bind_eq_ok]
  constructor
  · intro h
    obtain ⟨definitions, hdefinitions, h⟩ := h
    cases h
    rw [hcollect] at hdefinitions
    have hnodup := nodup_findTypeDependencies types primaryType
    refine ⟨((findTypeDependencies types (types.len + 1) primaryType []).filter
      fun name => name ≠ primaryType).insertionSort (· ≤ ·), definitions, ?_, ?_,
      hdefinitions, rfl⟩
    · have hsort := List.pairwise_insertionSort (· ≤ ·)
        ((findTypeDependencies types (types.len + 1) primaryType []).filter
          fun name => name ≠ primaryType)
      have hne := (List.perm_insertionSort (· ≤ ·) _).nodup_iff.mpr
        (hnodup.filter fun name => name ≠ primaryType)
      refine (hsort.and hne).imp ?_
      intro a b hab
      exact lt_of_le_of_ne hab.1 hab.2
    · intro name
      rw [List.mem_insertionSort, List.mem_filter, mem_findTypeDependencies_iff, decide_eq_true_eq]
  · intro h
    obtain ⟨used, definitions, hsorted, hmem, hdefinitions, rfl⟩ := h
    rw [typeOrder_eq hsorted hmem]
    exact ⟨definitions, (hcollect _ _).mpr hdefinitions, rfl⟩

structure TypedDataLib.Lawful (lib : TypedDataLib) : Prop where
  unicode : lib.toUnicodeLib.Lawful
  /-- Twenty bytes in hexadecimal digits are an address, in a message and in a domain. -/
  addressOfValue_digits : ∀ (s : Text) (a : Block 20),
    hexDecode (withoutHexPrefix s) = some a.bytes → lib.addressOfValue (.string s) = some a
  parseAddress_digits : ∀ (s : Text) (a : Block 20),
    hexDecode (withoutHexPrefix s) = some a.bytes → lib.parseAddress s = some a
  parseHex_digits : ∀ digits : Text, digits ≠ [] → digits.all isHexDigit = true →
    digits.length ≤ 64 → hexNumber digits < 2 ^ 256 →
    lib.parseHex ('0' :: 'x' :: digits) = some (hexNumber digits)

/-- The values that the code takes as the standard does. -/
def Supported : AtomType → Value → Prop
  | .int i, v => ∀ n, wholeNumber v = some n →
    if i.val = 15 then n ≠ -2 ^ 127 ∧ ∀ u : UInt64, v = .number (.unsigned u) → u.toNat < 2 ^ 63
    else 0 ≤ n
  | .fixedBytes i, v => i.val = 31 ∨ ∀ data, v.toBytes = some data → ∀ b ∈ data, b = 0
  | _, _ => True

def AtomType.paramType : AtomType → ParamType
  | address => .address
  | bool => .bool
  | string => .string
  | bytes => .bytes
  | uint i => .uint (8 * (i.val + 1))
  | int i => .int (8 * (i.val + 1))
  | fixedBytes i => .fixedBytes (i.val + 1)

theorem AtomType.name_word (a : AtomType) : ∃ c rest, a.name = c :: rest ∧ c.isAlpha = true
    ∧ rest.all Char.isAlphanum = true ∧ keyword a.name = some a.paramType := by
  have huint : ∀ i : Fin 32, (AtomType.uint i).name.tail.all Char.isAlphanum = true
      ∧ keyword (AtomType.uint i).name = some (AtomType.uint i).paramType := by
    decide
  have hint : ∀ i : Fin 32, (AtomType.int i).name.tail.all Char.isAlphanum = true
      ∧ keyword (AtomType.int i).name = some (AtomType.int i).paramType := by
    decide
  have hfixed : ∀ i : Fin 32, (AtomType.fixedBytes i).name.tail.all Char.isAlphanum = true
      ∧ keyword (AtomType.fixedBytes i).name = some (AtomType.fixedBytes i).paramType := by
    decide
  cases a with
  | address => exact ⟨_, _, rfl, by decide, by decide, by decide⟩
  | bool => exact ⟨_, _, rfl, by decide, by decide, by decide⟩
  | string => exact ⟨_, _, rfl, by decide, by decide, by decide⟩
  | bytes => exact ⟨_, _, rfl, by decide, by decide, by decide⟩
  | uint i => exact ⟨'u', _, rfl, by decide, huint i⟩
  | int i => exact ⟨'i', _, rfl, by decide, hint i⟩
  | fixedBytes i => exact ⟨'b', _, rfl, by decide, hfixed i⟩

theorem parseType_atom {lib : TypedDataLib} (law : lib.Lawful) (a : AtomType) :
    parseType lib.toUnicodeLib a.name = some a.paramType := by
  obtain ⟨c, rest, hname, hc, hrest, hkeyword⟩ := a.name_word
  rw [hname] at hkeyword ⊢
  rw [parseType_of_word law.unicode hc hrest, hkeyword]

section

variable {lib : TypedDataLib}

theorem fromDecStr_of_digits {s : Text} (hdigits : s.all Char.isDigit = true)
    (hlt : Nat.ofDigitChars 10 s 0 < 2 ^ 256) :
    fromDecStr s = some (Nat.ofDigitChars 10 s 0) := by
  rw [fromDecStr, if_pos ⟨hdigits, hlt⟩]

theorem parseUnsigned_digits {bound : Nat} {s : Text} (hne : s ≠ [])
    (hdigits : s.all Char.isDigit = true) (hlt : Nat.ofDigitChars 10 s 0 < bound) :
    Bytes.parseUnsigned bound s = some (Nat.ofDigitChars 10 s 0) := by
  rw [Bytes.parseUnsigned_of_digits (List.all_eq_true.mp hdigits), Bytes.parseDigits,
    if_pos ⟨hne, hdigits, hlt⟩]

theorem parseUnsigned_hex (bound : Nat) (digits : Text) :
    Bytes.parseUnsigned bound ('0' :: 'x' :: digits) = none := by
  show Bytes.parseDigits bound ('0' :: 'x' :: digits) = none
  rw [Bytes.parseDigits, if_neg]
  intro h
  have hx := List.all_eq_true.mp h.2.1 'x' (.tail _ (.head _))
  cases hx

theorem not_prefix_of_digits {s : Text} (hdigits : s.all Char.isDigit = true) :
    startsWithHexPrefix s = false := by
  unfold startsWithHexPrefix
  split
  · rename_i rest
    have hx := List.all_eq_true.mp hdigits 'x' (.tail _ (.head _))
    cases hx
  · rfl

theorem textNumber_cases {s : Text} {n : Int} (h : textNumber s = some n) :
    (∃ digits, s = '-' :: digits ∧ digits.all Char.isDigit = true
        ∧ 0 < Nat.ofDigitChars 10 digits 0 ∧ n = -(Nat.ofDigitChars 10 digits 0 : Int))
      ∨ (∃ digits, s = '0' :: 'x' :: digits ∧ digits ≠ [] ∧ digits.all isHexDigit = true
        ∧ digits.length ≤ 64 ∧ n = (hexNumber digits : Int))
      ∨ (s ≠ [] ∧ s.all Char.isDigit = true ∧ n = (Nat.ofDigitChars 10 s 0 : Int)) := by
  unfold textNumber at h
  split at h
  · rename_i digits
    split at h
    · rename_i hdigits
      cases h
      exact .inl ⟨digits, rfl, hdigits.1, hdigits.2, rfl⟩
    · cases h
  · rename_i digits
    split at h
    · rename_i hdigits
      cases h
      exact .inr (.inl ⟨digits, rfl, hdigits.1, hdigits.2.1, hdigits.2.2, rfl⟩)
    · cases h
  · split at h
    · rename_i hdigits
      cases h
      exact .inr (.inr ⟨hdigits.1, hdigits.2, rfl⟩)
    · cases h

theorem toU256_of_wholeNumber (law : lib.Lawful) {v : Value} {n : Int}
    (h : wholeNumber v = some n) (hnonneg : 0 ≤ n) (hlt : n < 2 ^ 256) :
    ∃ val, StringifiedNumeric.fromValue v = some val
      ∧ val.toU256 lib.parseHex = some n.toNat := by
  cases v with
  | number num =>
    refine ⟨.num num, rfl, ?_⟩
    cases num with
    | unsigned u =>
      cases h
      show fromDecStr (Nat.toDigits 10 u.toNat) = some u.toNat
      have hu := u.toNat_lt
      rw [fromDecStr_of_digits (List.all_eq_true.mpr Bytes.isDigit_toDigits),
        Nat.ofDigitChars_ten_toDigits]
      rw [Nat.ofDigitChars_ten_toDigits]
      omega
    | negative u =>
      cases h
      omega
    | float f => cases h
  | string s =>
    refine ⟨.string s, rfl, ?_⟩
    unfold StringifiedNumeric.toU256
    dsimp only
    rcases textNumber_cases h with ⟨digits, rfl, _, hpos, rfl⟩ | ⟨digits, rfl, hne, hhex, hlen, rfl⟩
      | ⟨hne, hdigits, rfl⟩
    · omega
    · rw [parseUnsigned_hex]
      exact law.parseHex_digits digits hne hhex hlen (by omega)
    · by_cases hsmall : Nat.ofDigitChars 10 s 0 < 2 ^ 128
      · rw [parseUnsigned_digits hne hdigits hsmall]
        rfl
      · have hnone : Bytes.parseUnsigned (2 ^ 128) s = none := by
          rw [Bytes.parseUnsigned_of_digits (List.all_eq_true.mp hdigits), Bytes.parseDigits,
            if_neg]
          intro hall
          exact hsmall hall.2.2
        rw [hnone, not_prefix_of_digits hdigits]
        exact fromDecStr_of_digits hdigits (by omega)
  | null => cases h
  | bool b => cases h
  | array vs => cases h
  | object ms => cases h

theorem toI128_of_wholeNumber (law : lib.Lawful) {v : Value} {n : Int}
    (h : wholeNumber v = some n) (hge : -2 ^ 127 ≤ n) (hlt : n < 2 ^ 127)
    (hjson : ∀ u : UInt64, v = .number (.unsigned u) → u.toNat < 2 ^ 63) :
    ∃ val, StringifiedNumeric.fromValue v = some val ∧ val.toI128 lib.parseHex = .ok n := by
  cases v with
  | number num =>
    refine ⟨.num num, rfl, ?_⟩
    cases num with
    | unsigned u =>
      cases h
      show Outcome.unwrap (if u.toNat < 2 ^ 63 then some (u.toNat : Int) else none) = _
      rw [if_pos (hjson u rfl)]
      rfl
    | negative u =>
      cases h
      rfl
    | float f => cases h
  | string s =>
    refine ⟨.string s, rfl, ?_⟩
    unfold StringifiedNumeric.toI128
    dsimp only
    rcases textNumber_cases h with ⟨digits, rfl, hdigits, hpos, rfl⟩
      | ⟨digits, rfl, hne, hhex, hlen, rfl⟩ | ⟨hne, hdigits, rfl⟩
    · have hne : digits ≠ [] := by
        intro hnil
        rw [hnil] at hpos
        cases hpos
      rw [parseSigned, Bytes.parseDigits, if_pos ⟨hne, hdigits, by omega⟩]
      rfl
    · have hnone : parseSigned 127 ('0' :: 'x' :: digits) = none := by
        show (Bytes.parseUnsigned (2 ^ 127) ('0' :: 'x' :: digits)).map (fun n => (n : Int)) = none
        rw [parseUnsigned_hex]
        rfl
      rw [hnone]
      show (okOr .failedToParseInt (lib.parseHex ('0' :: 'x' :: digits)) >>= wrapI128) = _
      rw [law.parseHex_digits digits hne hhex hlen (by omega)]
      show wrapI128 (hexNumber digits) = _
      rw [wrapI128, if_pos (by omega)]
    · have hparse : parseSigned 127 s = some (Nat.ofDigitChars 10 s 0 : Int) := by
        unfold parseSigned
        split
        · rename_i rest
          have hminus := List.all_eq_true.mp hdigits '-' (.head _)
          cases hminus
        · rw [parseUnsigned_digits hne hdigits (by omega)]
          rfl
      rw [hparse]
  | null => cases h
  | bool b => cases h
  | array vs => cases h
  | object ms => cases h

theorem word_uint_nonneg {n : Int} (hnonneg : 0 ≤ n) (hlt : n < 2 ^ 256) :
    (Token.uint n.toNat).word = signedWord n := by
  have hmod : (n % 2 ^ 256).toNat = n.toNat := by
    rw [Int.emod_eq_of_lt hnonneg hlt]
  rw [signedWord, hmod]
  rfl

theorem int128Token_eq {n : Int} (hgt : -2 ^ 127 < n) (hlt : n < 2 ^ 127) :
    ∃ token, int128Token n = .ok token ∧ token.word = signedWord n := by
  unfold int128Token
  by_cases hneg : n < 0
  · rw [if_pos hneg, if_neg (by omega)]
    refine ⟨_, rfl, ?_⟩
    have hmod : (n % 2 ^ 256).toNat = 2 ^ 256 - n.natAbs := by
      omega
    rw [signedWord, hmod]
    rfl
  · rw [if_neg hneg]
    exact ⟨_, rfl, word_uint_nonneg (by omega) (by omega)⟩

end

section

variable {lib : TypedDataLib}

theorem uint_bound (i : Fin 32) {n : Int} (h : n < 2 ^ (8 * (i.val + 1))) : n < 2 ^ 256 := by
  have hle : (2 : Int) ^ (8 * (i.val + 1)) ≤ 2 ^ 256 := by
    exact_mod_cast Nat.pow_le_pow_right (n := 2) (by decide) (by omega)
  omega

theorem int_bound (i : Fin 32) {n : Int} (h : n < 2 ^ (8 * i.val + 7)) : n < 2 ^ 256 := by
  have hle : (2 : Int) ^ (8 * i.val + 7) ≤ 2 ^ 256 := by
    exact_mod_cast Nat.pow_le_pow_right (n := 2) (by decide) (by omega)
  omega

theorem word_fixedBytes {i : Fin 32} {data : List UInt8} (hlength : data.length = i.val + 1)
    (h : i.val = 31 ∨ ∀ b ∈ data, b = 0) :
    (Token.uint (ofBe data)).word = data ++ List.replicate (31 - i.val) 0 := by
  have hword : (Token.uint (ofBe data)).word = List.replicate (32 - data.length) 0 ++ data :=
    Bytes.be_ofBe_of_le (by omega)
  rw [hword]
  rcases h with hfull | hzero
  · have hleft : 32 - data.length = 0 := by
      omega
    have hright : 31 - i.val = 0 := by
      omega
    rw [hleft, hright, List.replicate_zero, List.nil_append, List.append_nil]
  · have hdata : data = List.replicate data.length 0 := List.eq_replicate_iff.mpr ⟨rfl, hzero⟩
    have hcount : 32 - data.length = 31 - i.val := by
      omega
    rw [hdata, List.length_replicate, hcount, List.replicate_append_replicate,
      List.replicate_append_replicate, Nat.add_comm]

theorem encodeAtom_standard (law : lib.Lawful) {a : AtomType} {v : Value} {w : List UInt8}
    (hsupported : Supported a v) (h : a.encode lib.keccak256 v = some w) :
    ∃ token, encodeAtom lib a.name v = .ok token ∧ token.word = w := by
  rw [encodeAtom, parseType_atom law a]
  cases a with
  | address =>
    change v.toBytes.bind _ = some w at h
    rw [bind_eq_some_iff] at h
    obtain ⟨data, hdata, h⟩ := h
    split at h
    · rename_i hlength
      cases h
      cases v with
      | string s =>
        have haddress := law.addressOfValue_digits s ⟨data, hlength⟩ hdata
        refine ⟨.address ⟨data, hlength⟩, ?_, rfl⟩
        dsimp only [AtomType.paramType]
        rw [haddress]
        rfl
      | null => cases hdata
      | bool b => cases hdata
      | number n => cases hdata
      | array vs => cases hdata
      | object ms => cases hdata
    · cases h
  | bool =>
    change v.asBool.map _ = some w at h
    rw [map_eq_some_iff] at h
    obtain ⟨b, hb, rfl⟩ := h
    refine ⟨.uint b.toNat, ?_, rfl⟩
    dsimp only [AtomType.paramType]
    rw [hb]
    rfl
  | string =>
    change v.asStr.map _ = some w at h
    rw [map_eq_some_iff] at h
    obtain ⟨s, hs, rfl⟩ := h
    refine ⟨hashed lib (asBytes s), ?_, Token.word_ofBe _⟩
    dsimp only [AtomType.paramType]
    rw [hs]
    rfl
  | bytes =>
    change v.toBytes.map _ = some w at h
    rw [map_eq_some_iff] at h
    obtain ⟨data, hdata, rfl⟩ := h
    refine ⟨hashed lib data, ?_, Token.word_ofBe _⟩
    dsimp only [AtomType.paramType]
    rw [hdata]
    rfl
  | uint i =>
    change (wholeNumber v).bind _ = some w at h
    rw [bind_eq_some_iff] at h
    obtain ⟨n, hn, h⟩ := h
    split at h
    · rename_i hrange
      cases h
      have hlt := uint_bound i hrange.2
      obtain ⟨val, hval, hu256⟩ := toU256_of_wholeNumber law hn hrange.1 hlt
      refine ⟨.uint n.toNat, ?_, word_uint_nonneg hrange.1 hlt⟩
      dsimp only [AtomType.paramType]
      rw [hval, okOr, ok_bind, hu256]
      rfl
    · cases h
  | int i =>
    change (wholeNumber v).bind _ = some w at h
    rw [bind_eq_some_iff] at h
    obtain ⟨n, hn, h⟩ := h
    have hn' := hsupported n hn
    split at h
    · rename_i hrange
      cases h
      by_cases hi : i.val = 15
      · -- 128 bits are read with their sign
        rw [if_pos hi] at hn'
        rw [hi] at hrange
        obtain ⟨val, hval, hi128⟩ := toI128_of_wholeNumber law hn hrange.1 hrange.2 hn'.2
        obtain ⟨token, htoken, hword⟩ := int128Token_eq
          (lt_of_le_of_ne hrange.1 (Ne.symm hn'.1)) hrange.2
        refine ⟨token, ?_, hword⟩
        dsimp only [AtomType.paramType]
        rw [hval, okOr, ok_bind, if_pos (by omega), hi128, ok_bind]
        exact htoken
      · rw [if_neg hi] at hn'
        have hlt := int_bound i hrange.2
        obtain ⟨val, hval, hu256⟩ := toU256_of_wholeNumber law hn hn' hlt
        refine ⟨.uint n.toNat, ?_, word_uint_nonneg hn' hlt⟩
        dsimp only [AtomType.paramType]
        rw [hval, okOr, ok_bind, if_neg (by omega), hu256]
        rfl
    · cases h
  | fixedBytes i =>
    change v.toBytes.bind _ = some w at h
    rw [bind_eq_some_iff] at h
    obtain ⟨data, hdata, h⟩ := h
    split at h
    · rename_i hlength
      cases h
      refine ⟨.uint (ofBe data), ?_, ?_⟩
      · dsimp only [AtomType.paramType]
        rw [hdata, okOr, ok_bind, fixedBytesToken, if_pos (by omega)]
        rfl
      · refine word_fixedBytes hlength ?_
        rcases hsupported with hfull | hzero
        · exact .inl hfull
        · exact .inr (hzero data hdata)
    · cases h

end

section

variable {lib : TypedDataLib} {types : Types}

theorem beforeLastBracket_append (type inner : Text) (h : ∀ c ∈ inner, c ≠ '[') :
    beforeLastBracket (type ++ '[' :: (inner ++ [']'])) = type := by
  have hreverse : (type ++ '[' :: (inner ++ [']'])).reverse
      = (']' :: inner.reverse) ++ '[' :: type.reverse := by
    simp
  have hdrop : ∀ c ∈ ']' :: inner.reverse, (c != '[') = true := by
    intro c hc
    rcases List.mem_cons.mp hc with rfl | hc
    · rfl
    · exact bne_iff_ne.mpr (h c (List.mem_reverse.mp hc))
  rw [beforeLastBracket, hreverse, List.dropWhile_append_of_pos hdrop]
  simp

theorem digit_ne_bracket (n : Nat) : ∀ c ∈ Nat.toDigits 10 n, c ≠ '[' := by
  intro c hc heq
  have hdigit := Bytes.isDigit_toDigits c hc
  rw [heq] at hdigit
  cases hdigit

theorem get_of_bracket (hwf : WellFormed types) {type : Text} (h : type.contains '[' = true) :
    types.get type = none := by
  cases hget : types.get type with
  | none => rfl
  | some fields =>
    have hall := List.all_eq_true.mp (hwf.identifier type fields hget) '['
      (List.contains_iff_mem.mp h)
    cases hall

theorem atom_bracket (a : AtomType) : a.name.contains '[' = false := by
  have hsized : ∀ i : Fin 32, (AtomType.uint i).name.contains '[' = false
      ∧ (AtomType.int i).name.contains '[' = false
      ∧ (AtomType.fixedBytes i).name.contains '[' = false := by
    decide
  cases a with
  | address => rfl
  | bool => rfl
  | string => rfl
  | bytes => rfl
  | uint i => exact (hsized i).1
  | int i => exact (hsized i).2.1
  | fixedBytes i => exact (hsized i).2.2

theorem encodeField_brackets (hwf : WellFormed types) {t : FieldType} {inner : Text}
    (hinner : ∀ c ∈ inner, c ≠ '[') {vs : List Value} {tokens : List Token}
    (htokens : collect (fun v => encodeField lib types v t.text) vs = .ok tokens) :
    encodeField lib types (.array vs) (t.text ++ '[' :: (inner ++ [']']))
      = .ok (hashed lib (encode tokens)) := by
  have hb : (t.text ++ '[' :: (inner ++ [']'])).contains '[' = true := by
    rw [List.contains_iff_mem]
    exact List.mem_append_right _ (.head _)
  rw [encodeField_array lib types vs (get_of_bracket hwf hb) hb,
    beforeLastBracket_append t.text inner hinner, htokens]
  rfl

theorem encode_struct (text : Text) (tokens : List Token) :
    encode (.uint (ofBe (hashText lib text).bytes) :: tokens)
      = (lib.keccak256 (asBytes text)).bytes ++ encode tokens := by
  show (Token.uint (ofBe (hashText lib text).bytes)).word ++ encode tokens = _
  rw [Token.word_ofBe]
  rfl

theorem encodeData_standard {name text : Text} {fields : List Eip712DomainType} {data : Value}
    {tokens : List Token} (hfields : types.get name = some fields)
    (htext : IsEncodeType types name text)
    (htokens : collect (encodeMember lib types data) fields = .ok tokens) :
    encodeData lib name data types
      = .ok (.uint (ofBe (hashText lib text).bytes) :: tokens) := by
  rw [encodeData, hashType, encodeType_eq_ok.mpr htext, hfields]
  dsimp only [ok_bind, Outcome.pure_eq]
  rw [htokens]
  rfl

mutual

theorem encodeField_standard (law : lib.Lawful) (hwf : WellFormed types) {t : FieldType}
    {v : Value} {w : List UInt8} : Encodes lib.keccak256 Supported types t v w →
      ∃ token, encodeField lib types v t.text = .ok token ∧ token.word = w
  | .atom hsupported hw => by
    rename_i a
    obtain ⟨token, htoken, hword⟩ := encodeAtom_standard law hsupported hw
    refine ⟨token, ?_, hword⟩
    rw [FieldType.text, encodeField_atom lib types v (hwf.atoms a) (atom_bracket a)]
    exact htoken
  | .struct hfields htext hmembers => by
    rename_i name text fields ms ws
    obtain ⟨tokens, htokens, hwords⟩ := encodeMembers_standard law hwf hmembers
    refine ⟨hashed lib (encode (.uint (ofBe (hashText lib text).bytes) :: tokens)), ?_, ?_⟩
    · rw [FieldType.text, encodeField_struct lib types (.object ms) hfields,
        encodeData_standard hfields htext htokens]
      rfl
    · rw [hashed, Token.word_ofBe, encode_struct, hwords]
  | .array hitems => by
    obtain ⟨tokens, htokens, hwords⟩ := encodeItems_standard law hwf hitems
    refine ⟨hashed lib (encode tokens), ?_, ?_⟩
    · exact encodeField_brackets hwf (fun c hc => absurd hc List.not_mem_nil) htokens
    · rw [hashed, Token.word_ofBe, hwords]
  | .fixedArray hitems => by
    obtain ⟨tokens, htokens, hwords⟩ := encodeItems_standard law hwf hitems
    refine ⟨hashed lib (encode tokens), ?_, ?_⟩
    · exact encodeField_brackets hwf (digit_ne_bracket _) htokens
    · rw [hashed, Token.word_ofBe, hwords]

theorem encodeItems_standard (law : lib.Lawful) (hwf : WellFormed types) {t : FieldType}
    {vs : List Value} {ws : List UInt8} : EncodesItems lib.keccak256 Supported types t vs ws →
      ∃ tokens, collect (fun v => encodeField lib types v t.text) vs = .ok tokens
        ∧ encode tokens = ws
  | .nil => ⟨[], rfl, rfl⟩
  | .cons hv hvs => by
    obtain ⟨token, htoken, hword⟩ := encodeField_standard law hwf hv
    obtain ⟨tokens, htokens, hwords⟩ := encodeItems_standard law hwf hvs
    refine ⟨token :: tokens, ?_, ?_⟩
    · rw [collect, htoken, htokens]
      rfl
    · show token.word ++ encode tokens = _
      rw [hword, hwords]

theorem encodeMembers_standard (law : lib.Lawful) (hwf : WellFormed types)
    {fields : List Eip712DomainType} {ms : List (Text × Value)} {ws : List UInt8} :
    EncodesMembers lib.keccak256 Supported types fields ms ws →
      ∃ tokens, collect (encodeMember lib types (.object ms)) fields = .ok tokens
        ∧ encode tokens = ws
  | .nil => ⟨[], rfl, rfl⟩
  | .cons hv hw hws => by
    obtain ⟨token, htoken, hword⟩ := encodeField_standard law hwf hw
    obtain ⟨tokens, htokens, hwords⟩ := encodeMembers_standard law hwf hws
    refine ⟨token :: tokens, ?_, ?_⟩
    · rw [collect, encodeMember, Value.get, hv]
      dsimp only
      rw [htoken, htokens]
      rfl
    · show token.word ++ encode tokens = _
      rw [hword, hwords]

end

end

section

variable {lib : TypedDataLib}

/-- A salt is not in front of other fields: the code writes no comma behind it there. -/
def SaltLast (fields : List Eip712DomainType) : Prop :=
  ∀ field rest, fields = field :: rest → field.name = ['s', 'a', 'l', 't'] → rest = []

theorem separatorField_standard (law : lib.Lawful) {domain : EIP712Domain}
    {field : Eip712DomainType} {w : List UInt8} (draft : SeparatorDraft)
    (h : domainWord lib.keccak256 domain field = some w) :
    ∃ token comma, separatorField lib domain draft field = .ok (draft.push field token comma)
      ∧ token.word = w
      ∧ (comma = true ∨ field.name = ['s', 'a', 'l', 't'] ∧ comma = draft.needsComma) := by
  unfold domainWord at h
  split at h
  · rename_i hfield
    rw [map_eq_some_iff] at h
    obtain ⟨name, hname, rfl⟩ := h
    refine ⟨hashed lib (asBytes name), true, ?_, Token.word_ofBe _, .inl rfl⟩
    rw [separatorField, hfield, if_pos rfl, hname]
    rfl
  split at h
  · rename_i hfield
    rw [map_eq_some_iff] at h
    obtain ⟨version, hversion, rfl⟩ := h
    refine ⟨hashed lib (asBytes version), true, ?_, Token.word_ofBe _, .inl rfl⟩
    rw [separatorField, hfield, if_neg (by decide), if_pos rfl, hversion]
    rfl
  split at h
  · rename_i hfield
    rw [map_eq_some_iff] at h
    obtain ⟨chainId, hchainId, rfl⟩ := h
    refine ⟨.uint chainId, true, ?_, rfl, .inl rfl⟩
    rw [separatorField, hfield, if_neg (by decide), if_neg (by decide), if_pos rfl, hchainId]
    rfl
  split at h
  · rename_i hfield
    rw [bind_eq_some_iff] at h
    obtain ⟨contract, hcontract, h⟩ := h
    change (hexDecode (withoutHexPrefix contract)).bind _ = some w at h
    rw [bind_eq_some_iff] at h
    obtain ⟨data, hdata, h⟩ := h
    split at h
    · rename_i hlength
      cases h
      refine ⟨.address ⟨data, hlength⟩, true, ?_, rfl, .inl rfl⟩
      rw [separatorField, hfield, if_neg (by decide), if_neg (by decide), if_neg (by decide),
        if_pos rfl, hcontract]
      have hname : AtomType.address.name = ['a', 'd', 'd', 'r', 'e', 's', 's'] := rfl
      show Outcome.ok (draft.push _ (contractToken lib AtomType.address.name contract) true) = _
      rw [contractToken, if_pos hname, law.parseAddress_digits contract ⟨data, hlength⟩ hdata]
      rfl
    · cases h
  split at h
  · rename_i hfield
    rw [map_eq_some_iff] at h
    obtain ⟨salt, hsalt, rfl⟩ := h
    refine ⟨.uint (ofBe salt.bytes), draft.needsComma, ?_, Token.word_ofBe salt, .inr ⟨?_, rfl⟩⟩
    · rw [separatorField, hfield, if_neg (by decide), if_neg (by decide), if_neg (by decide),
        if_neg (by decide), if_pos rfl, hsalt]
      rfl
    · rw [hfield]
  · cases h

theorem separatorFields_standard (law : lib.Lawful) {domain : EIP712Domain}
    {fields : List Eip712DomainType} {words : List (List UInt8)}
    (h : List.Forall₂ (fun field w => domainWord lib.keccak256 domain field = some w)
      fields words) : ∀ draft : SeparatorDraft, draft.needsComma = true →
      ∃ after, separatorFields lib domain draft fields = .ok after
        ∧ after.ty = draft.ty ++ fields.flatMap (fun field => ',' :: fieldText field)
        ∧ encode after.tokens = encode draft.tokens ++ words.flatten := by
  induction h with
  | nil =>
    intro draft _
    refine ⟨draft, rfl, ?_, ?_⟩
    · simp
    · simp
  | cons hfield _ ih =>
    rename_i field w fields words _
    intro draft hcomma
    obtain ⟨token, comma, hstep, hword, hnext⟩ := separatorField_standard law draft hfield
    have hpushed : (draft.push field token comma).needsComma = true := by
      rcases hnext with htrue | hsalt
      · exact htrue
      · exact hsalt.2.trans hcomma
    obtain ⟨after, hafter, htext, hwords⟩ := ih _ hpushed
    refine ⟨after, ?_, ?_, ?_⟩
    · rw [separatorFields, hstep, ok_bind, hafter]
    · rw [htext, SeparatorDraft.push, hcomma]
      simp
    · rw [hwords, SeparatorDraft.push, List.flatten_cons, ← hword]
      simp [encode]

theorem intercalate_fields (field : Eip712DomainType) (fields : List Eip712DomainType) :
    [','].intercalate ((field :: fields).map fieldText)
      = fieldText field ++ fields.flatMap fun field => ',' :: fieldText field := by
  induction fields generalizing field with
  | nil => simp [List.intercalate]
  | cons next fields ih =>
    rw [List.map_cons, List.map_cons, List.intercalate_cons_cons, ← List.map_cons, ih next]
    simp

theorem separator_standard (law : lib.Lawful) {domain : EIP712Domain} {types : Types}
    {w : List UInt8} (h : IsSeparator lib.keccak256 domain types w)
    (hsalt : ∀ fields, types.get domainType = some fields → SaltLast fields) :
    ∃ hash, separator lib domain types = .ok hash ∧ hash.bytes = w := by
  obtain ⟨fields, words, hfields, _, _, hwords, rfl⟩ := h
  have hdraft : ∃ after, separatorFields lib domain ⟨domainType ++ ['('], [], false⟩ fields
      = .ok after ∧ after.ty ++ [')'] = definitionText domainType fields
        ∧ encode after.tokens = words.flatten := by
    cases hwords with
    | nil => exact ⟨_, rfl, rfl, rfl⟩
    | @cons field w fields words hfield hrest =>
      obtain ⟨token, comma, hstep, hword, hnext⟩ :=
        separatorField_standard law ⟨domainType ++ ['('], [], false⟩ hfield
      rw [separatorFields, hstep, ok_bind]
      have hfirst : encode [token] = w := by
        rw [← hword]
        simp [encode]
      rcases hnext with htrue | ⟨hname, _⟩
      · obtain ⟨after, hafter, htext, hencode⟩ := separatorFields_standard law hrest
          (SeparatorDraft.push ⟨domainType ++ ['('], [], false⟩ field token comma) htrue
        refine ⟨after, hafter, ?_, ?_⟩
        · rw [htext, definitionText, intercalate_fields, SeparatorDraft.push]
          simp
        · rw [hencode, SeparatorDraft.push, List.nil_append, hfirst, List.flatten_cons]
      · -- a salt in front is the only field
        have hempty := hsalt _ hfields field fields rfl hname
        subst hempty
        cases hrest
        refine ⟨_, rfl, ?_, ?_⟩
        · rw [definitionText, intercalate_fields, SeparatorDraft.push]
          simp
        · rw [SeparatorDraft.push, List.nil_append, hfirst]
          simp
  obtain ⟨after, hafter, htext, hencode⟩ := hdraft
  refine ⟨lib.keccak256 (encode (hashed lib (asBytes (after.ty ++ [')'])) :: after.tokens)),
    ?_, ?_⟩
  · rw [separator, hfields, Option.getD_some, hafter]
    rfl
  · have hwhole : encode (hashed lib (asBytes (after.ty ++ [')'])) :: after.tokens)
        = (lib.keccak256 (asBytes (definitionText domainType fields))).bytes
          ++ words.flatten := by
      show (hashed lib (asBytes (after.ty ++ [')']))).word ++ encode after.tokens = _
      rw [htext, hencode, hashed, Token.word_ofBe]
    rw [hwhole]

end

/-- The code hashes typed data as the standard does, if each of its values is supported and
no salt comes before other fields of the domain. Of a domain as the primary type it hashes
the separator alone. -/
theorem encodeEip712_standard {lib : TypedDataLib} (law : lib.Lawful) {data : Eip712TypedData}
    {domainSeparator messageHash : List UInt8}
    (h : data.Hashes lib.keccak256 Supported domainSeparator messageHash)
    (hsalt : ∀ fields, data.types.get domainType = some fields → SaltLast fields) :
    data.encodeEip712 lib = .ok (lib.keccak256 (0x19 :: 0x01 ::
      (if data.primaryType = domainType then domainSeparator
        else domainSeparator ++ messageHash))) := by
  obtain ⟨hash, hseparator, rfl⟩ := separator_standard law h.separator hsalt
  rw [Eip712TypedData.encodeEip712, hseparator, ok_bind]
  by_cases hprimary : data.primaryType = domainType
  · rw [if_pos hprimary, if_pos hprimary, Eip712TypedData.digestInput, List.append_nil]
    rfl
  · rw [if_neg hprimary, if_neg hprimary]
    have hmessage := h.message
    cases hmessage with
    | @struct _ text fields _ ws hfields htext hmembers =>
      obtain ⟨tokens, htokens, hwords⟩ := encodeMembers_standard law h.wellFormed hmembers
      rw [Eip712TypedData.structHash, Eip712TypedData.messageTokens,
        encodeData_standard hfields htext htokens, ok_bind, encode_struct, hwords]
      rfl

def sampleTypes (domain fields : List Eip712DomainType) : Types :=
  BTreeMap.ofList [(domainType, domain), (['A'], fields)]

def nestedTypedData : Eip712TypedData where
  domain := ⟨some ['A'], none, none, none, none⟩
  types := BTreeMap.ofList
    [(domainType, [⟨['n', 'a', 'm', 'e'], AtomType.string.name⟩]),
     (['A'], [⟨['b'], (FieldType.fixedArray (.struct ['B']) 1).text⟩,
       ⟨['n'], (FieldType.atom .int128).text⟩]),
     (['B'], [⟨['y'], (FieldType.atom .bool).text⟩])]
  primaryType := ['A']
  message := BTreeMap.ofList
    [(['b'], .array [.object [(['y'], .bool true)]]), (['n'], .number (.negative 0))]

def nestedHashes : List (List UInt8 × Block 32) :=
  [(asBytes (domainType
      ++ ['(', 's', 't', 'r', 'i', 'n', 'g', ' ', 'n', 'a', 'm', 'e', ')']),
      word 0xb2178a58fb1eefb359ecfdd57bb19c0bdd0f4e6eed8547f46600e500ed111af3),
   ([65], word 0x03783fac2efed8fbc9ad443e592ee30e61d65f471140c10ca155e937b435b760),
   ((word 0xb2178a58fb1eefb359ecfdd57bb19c0bdd0f4e6eed8547f46600e500ed111af3).bytes
      ++ (word 0x03783fac2efed8fbc9ad443e592ee30e61d65f471140c10ca155e937b435b760).bytes,
      word 0x04fff232e3fc96f3abe9919d13df0364989b90b146be2a9a1ad7c67a62ca8328),
   (asBytes (['A', '(', 'B', '[', '1', ']', ' ', 'b', ',']
      ++ ['i', 'n', 't', '1', '2', '8', ' ', 'n', ')']
      ++ ['B', '(', 'b', 'o', 'o', 'l', ' ', 'y', ')']),
      word 0x0c00be7a3d00a265c13d5bb96b57cf92240d51f0dcd572617fc32c49a46fffa6),
   (asBytes ['B', '(', 'b', 'o', 'o', 'l', ' ', 'y', ')'],
      word 0x26e1a288f0a409e9c60105cd29a657c607e017963741065426b24376860e91e1),
   ((word 0x26e1a288f0a409e9c60105cd29a657c607e017963741065426b24376860e91e1).bytes
      ++ (word 1).bytes,
      word 0xe7efd301dce6750bbdeb913cdf080d9731d57d4bb97158bf246bb6aa3b2e17c8),
   ((word 0xe7efd301dce6750bbdeb913cdf080d9731d57d4bb97158bf246bb6aa3b2e17c8).bytes,
      word 0x92c5e30f6b28e3c7a4c01dbe2fd0d7ef46d3bf84cc7cf99aebb0cb7280feb380),
   ((word 0x0c00be7a3d00a265c13d5bb96b57cf92240d51f0dcd572617fc32c49a46fffa6).bytes
      ++ (word 0x92c5e30f6b28e3c7a4c01dbe2fd0d7ef46d3bf84cc7cf99aebb0cb7280feb380).bytes
      ++ List.replicate 32 255,
      word 0xbcc324fcba932ef1bc67a23cf174f6eec8e673c24e17d470905ad377306fac47)]

theorem lawful_table (table : List (List UInt8 × Block 32)) : (tableLib table).Lawful := by
  have haddress : ∀ (s : Text) (a : Block 20),
      hexDecode (withoutHexPrefix s) = some a.bytes → readAddress s = some a := by
    intro s a h
    rw [readAddress, h]
    dsimp only
    rw [dif_pos a.size_eq]
  refine ⟨lawful_tableLib table, haddress, haddress, ?_⟩
  intro digits _ hhex hlength hlt
  show readHexNumber ('0' :: 'x' :: digits) = some (hexNumber digits)
  rw [readHexNumber, withoutHexPrefix]
  exact if_pos ⟨hhex, hlength, hlt⟩

theorem wellFormed_of_keys {types : Types}
    (hkeys : ∀ name ∈ types.keys, name.all (fun c => c.isAlphanum || c == '_' || c == '$') = true
      ∧ keyword name = none) : WellFormed types where
  identifier := fun name fields h => (hkeys name (types.key_mem_of_get h)).1
  atoms := by
    intro a
    cases hget : types.get a.name with
    | none => rfl
    | some fields =>
      have hnone := (hkeys a.name (types.key_mem_of_get hget)).2
      obtain ⟨c, rest, _, _, _, hkeyword⟩ := a.name_word
      rw [hkeyword] at hnone
      cases hnone

section

variable {keccak256 : List UInt8 → Block 32} {allowed : AtomType → Value → Prop} {types : Types}

theorem Encodes.of_eq {t : FieldType} {v : Value} {w w' : List UInt8}
    (h : Encodes keccak256 allowed types t v w) (hw : w = w') :
    Encodes keccak256 allowed types t v w' := hw ▸ h

end

theorem hashes_nested :
    nestedTypedData.Hashes (tableHash nestedHashes) Supported
      (word 0x04fff232e3fc96f3abe9919d13df0364989b90b146be2a9a1ad7c67a62ca8328).bytes
      (word 0xbcc324fcba932ef1bc67a23cf174f6eec8e673c24e17d470905ad377306fac47).bytes := by
  have hsupported : Supported .int128 (.number (.negative 0)) := by
    intro n hn
    cases hn
    refine ⟨by decide, ?_⟩
    intro u hu
    cases hu
  have htextB : IsEncodeType nestedTypedData.types ['B']
      ['B', '(', 'b', 'o', 'o', 'l', ' ', 'y', ')'] :=
    encodeType_eq_ok.mp (by decide)
  have htextA : IsEncodeType nestedTypedData.types ['A']
      (['A', '(', 'B', '[', '1', ']', ' ', 'b', ',']
        ++ ['i', 'n', 't', '1', '2', '8', ' ', 'n', ')']
        ++ ['B', '(', 'b', 'o', 'o', 'l', ' ', 'y', ')']) :=
    encodeType_eq_ok.mp (by decide)
  have hstruct : Encodes (tableHash nestedHashes) Supported nestedTypedData.types (.struct ['B'])
      (.object [(['y'], .bool true)])
      (word 0xe7efd301dce6750bbdeb913cdf080d9731d57d4bb97158bf246bb6aa3b2e17c8).bytes := by
    refine (Encodes.struct rfl htextB (.cons rfl (.atom trivial rfl) .nil)).of_eq ?_
    decide
  have harray : Encodes (tableHash nestedHashes) Supported nestedTypedData.types
      (.fixedArray (.struct ['B']) 1) (.array [.object [(['y'], .bool true)]])
      (word 0x92c5e30f6b28e3c7a4c01dbe2fd0d7ef46d3bf84cc7cf99aebb0cb7280feb380).bytes := by
    refine (Encodes.fixedArray (.cons hstruct .nil)).of_eq ?_
    decide
  refine ⟨wellFormed_of_keys (by decide), ?_, ?_⟩
  · refine ⟨_, _, rfl, by decide, rfl, .cons rfl .nil, ?_⟩
    decide
  · refine (Encodes.struct rfl htextA
      (.cons rfl harray (.cons rfl (.atom hsupported rfl) .nil))).of_eq ?_
    decide

/-- The nested request is hashed as the standard has it. -/
theorem encodeEip712_nested : nestedTypedData.encodeEip712 (tableLib nestedHashes)
    = .ok (tableHash nestedHashes (0x19 :: 0x01 ::
      ((word 0x04fff232e3fc96f3abe9919d13df0364989b90b146be2a9a1ad7c67a62ca8328).bytes
        ++ (word 0xbcc324fcba932ef1bc67a23cf174f6eec8e673c24e17d470905ad377306fac47).bytes))) := by
  have hsalt : ∀ fields, nestedTypedData.types.get domainType = some fields → SaltLast fields := by
    intro fields hfields
    cases hfields
    intro field rest heq hname
    cases heq
    rfl
  exact encodeEip712_standard (lawful_table nestedHashes) hashes_nested hsalt

def oneMember (domain : EIP712Domain) (fields : List Eip712DomainType) (a : AtomType) (v : Value) :
    Eip712TypedData where
  domain := domain
  types := sampleTypes fields [⟨['x'], (FieldType.atom a).text⟩]
  primaryType := ['A']
  message := BTreeMap.single ['x'] v

def emptyDomain : EIP712Domain := ⟨none, none, none, none, none⟩

def domainSample : Eip712TypedData :=
  { oneMember emptyDomain [] .bool (.bool true) with
    primaryType := domainType
    message := BTreeMap.empty }

def bytes1Sample : Eip712TypedData :=
  oneMember emptyDomain [] .bytes1 (.string ['0', 'x', '0', '1'])

def int8Sample : Eip712TypedData := oneMember emptyDomain [] .int8 (.number (.negative 0))

def int128Sample : Eip712TypedData :=
  oneMember emptyDomain [] .int128 (.string ('-' :: Nat.toDigits 10 (2 ^ 127)))

def jsonSample : Eip712TypedData :=
  oneMember emptyDomain [] .int128 (.number (.unsigned 0x8000000000000000))

def saltSample : Eip712TypedData :=
  oneMember ⟨some ['A'], none, none, none, some (Block.zero 32)⟩
    [⟨['s', 'a', 'l', 't'], AtomType.bytes32.name⟩,
      ⟨['n', 'a', 'm', 'e'], AtomType.string.name⟩] .bool (.bool true)

def departingHashes : List (List UInt8 × Block 32) :=
  [(asBytes (domainType ++ ['(', ')']),
      word 0x20bcc3f8105eea47d067386e42e60246e89393cd61c512edd1e87688890fb914),
   ((word 0x20bcc3f8105eea47d067386e42e60246e89393cd61c512edd1e87688890fb914).bytes,
      word 0x6192106f129ce05c9075d319c1fa6ea9b3ae37cbd0c1ef92e2be7137bb07baa1),
   (0x19 :: 0x01 :: (word 0x6192106f129ce05c9075d319c1fa6ea9b3ae37cbd0c1ef92e2be7137bb07baa1).bytes,
      word 0x8d4a3f4082945b7879e2b55f181c31a77c8c0a464b70669458abbaaf99de4c38),
   (0x19 :: 0x01 :: ((word 0x6192106f129ce05c9075d319c1fa6ea9b3ae37cbd0c1ef92e2be7137bb07baa1).bytes
      ++ (word 0x6192106f129ce05c9075d319c1fa6ea9b3ae37cbd0c1ef92e2be7137bb07baa1).bytes),
      word 0x85935f898ffc4239bfbe27fd9f097ef4cc1f8441ef1d141541cdd20ea0ab933a),
   (asBytes ['A', '(', 'b', 'y', 't', 'e', 's', '1', ' ', 'x', ')'],
      word 0x26fb8bf200d63e214564859f9c581e261f27b17e7dbf933481263ef20f136941),
   ((word 0x26fb8bf200d63e214564859f9c581e261f27b17e7dbf933481263ef20f136941).bytes
      ++ 1 :: List.replicate 31 0,
      word 0x30e4fb12f05d6cc9e1c2e56e59ba40f915eb850da5bf11f7646dd6437e435b23),
   ((word 0x26fb8bf200d63e214564859f9c581e261f27b17e7dbf933481263ef20f136941).bytes
      ++ (word 1).bytes,
      word 0x9d0c8847ab4004c7b8d84c3d27fff2d77978d671a0a39c6a0c4a07cae8970b2e),
   (0x19 :: 0x01 :: ((word 0x6192106f129ce05c9075d319c1fa6ea9b3ae37cbd0c1ef92e2be7137bb07baa1).bytes
      ++ (word 0x30e4fb12f05d6cc9e1c2e56e59ba40f915eb850da5bf11f7646dd6437e435b23).bytes),
      word 0x81c92add8888f57cd4cdbc7d6966daed491f0b5c7912f0f7b1e97c9c5e714745),
   (0x19 :: 0x01 :: ((word 0x6192106f129ce05c9075d319c1fa6ea9b3ae37cbd0c1ef92e2be7137bb07baa1).bytes
      ++ (word 0x9d0c8847ab4004c7b8d84c3d27fff2d77978d671a0a39c6a0c4a07cae8970b2e).bytes),
      word 0x9578c1b55ec88f7fe102085c2bf6113105dc8547de5dd5b54bd3461a0b47e53e),
   (asBytes (domainType
      ++ ['(', 'b', 'y', 't', 'e', 's', '3', '2', ' ', 's', 'a', 'l', 't', ',']
      ++ ['s', 't', 'r', 'i', 'n', 'g', ' ', 'n', 'a', 'm', 'e', ')']),
      word 0x14d2fc6a87e6758ea23556d4d0620985175b00316fe1dc79c2176350023e756a),
   (asBytes (domainType
      ++ ['(', 'b', 'y', 't', 'e', 's', '3', '2', ' ', 's', 'a', 'l', 't']
      ++ ['s', 't', 'r', 'i', 'n', 'g', ' ', 'n', 'a', 'm', 'e', ')']),
      word 0xc079d739f76471815b913e61ebc25248bcfbcef46de6cec284556ded75f74c93),
   ([65], word 0x03783fac2efed8fbc9ad443e592ee30e61d65f471140c10ca155e937b435b760),
   ((word 0x14d2fc6a87e6758ea23556d4d0620985175b00316fe1dc79c2176350023e756a).bytes
      ++ List.replicate 32 0
      ++ (word 0x03783fac2efed8fbc9ad443e592ee30e61d65f471140c10ca155e937b435b760).bytes,
      word 0xd1772c1011637ad91b36af56a9b768804bc3edf43a013cf4f87cfb8c92aac79d),
   ((word 0xc079d739f76471815b913e61ebc25248bcfbcef46de6cec284556ded75f74c93).bytes
      ++ List.replicate 32 0
      ++ (word 0x03783fac2efed8fbc9ad443e592ee30e61d65f471140c10ca155e937b435b760).bytes,
      word 0xe0a4fc1aea86277964ed11238dec595698638f676931c549dbd14fb9f2054b24),
   (asBytes ['A', '(', 'b', 'o', 'o', 'l', ' ', 'x', ')'],
      word 0xfbf5e6049696b9399cae4107ae8e679035a05dee408235d58e4adacdfb0d3d57),
   ((word 0xfbf5e6049696b9399cae4107ae8e679035a05dee408235d58e4adacdfb0d3d57).bytes
      ++ (word 1).bytes,
      word 0x8c924d55bddb8dfdb58fece613993aba19311cc0440fa8efac81ed4b897ede0f),
   (0x19 :: 0x01 :: ((word 0xd1772c1011637ad91b36af56a9b768804bc3edf43a013cf4f87cfb8c92aac79d).bytes
      ++ (word 0x8c924d55bddb8dfdb58fece613993aba19311cc0440fa8efac81ed4b897ede0f).bytes),
      word 0xbfbd0fd5dec1cee0e9fe7562c03bc6625186e8782cb7e2bcda2f6f2ddccf8df4),
   (0x19 :: 0x01 :: ((word 0xe0a4fc1aea86277964ed11238dec595698638f676931c549dbd14fb9f2054b24).bytes
      ++ (word 0x8c924d55bddb8dfdb58fece613993aba19311cc0440fa8efac81ed4b897ede0f).bytes),
      word 0x631beb1152a3a93d5073b8da828da1bdcad4f6e66c236746518d05e94c4960c8)]

/-- A request has a hash by the standard, and the code does not compute it. -/
def Departs (data : Eip712TypedData) : Prop :=
  ∃ domainSeparator messageHash,
    data.Hashes (tableHash departingHashes) (fun _ _ => True) domainSeparator messageHash
      ∧ data.encodeEip712 (tableLib departingHashes)
        ≠ .ok (tableHash departingHashes (0x19 :: 0x01 :: (domainSeparator ++ messageHash)))

theorem isSeparator_empty (fields : List Eip712DomainType) :
    IsSeparator (tableHash departingHashes) emptyDomain (sampleTypes [] fields)
      (tableHash departingHashes ((tableHash departingHashes
        (asBytes (definitionText domainType []))).bytes ++ [])).bytes :=
  ⟨[], [], rfl, List.nodup_nil, rfl, .nil, rfl⟩

theorem hashes_oneMember {domain : EIP712Domain} {fields : List Eip712DomainType} {a : AtomType}
    {v : Value} {text : Text} {ds w : List UInt8}
    (hds : IsSeparator (tableHash departingHashes) domain (oneMember domain fields a v).types ds)
    (htext : encodeType ['A'] (oneMember domain fields a v).types = .ok text)
    (hw : a.encode (tableHash departingHashes) v = some w) :
    (oneMember domain fields a v).Hashes (tableHash departingHashes) (fun _ _ => True) ds
      (tableHash departingHashes ((tableHash departingHashes (asBytes text)).bytes
        ++ (w ++ []))).bytes := by
  have hkeys : (oneMember domain fields a v).types.keys = [domainType, ['A']] := rfl
  refine ⟨wellFormed_of_keys ?_, hds,
    .struct rfl (encodeType_eq_ok.mp htext) (.cons rfl (.atom trivial hw) .nil)⟩
  rw [hkeys]
  decide

theorem departs_oneMember {a : AtomType} {v : Value} {w : List UInt8}
    (htext : encodeType ['A'] (sampleTypes [] [⟨['x'], (FieldType.atom a).text⟩])
      = .ok (definitionText ['A'] [⟨['x'], (FieldType.atom a).text⟩]))
    (hw : a.encode (tableHash departingHashes) v = some w)
    (hne : (oneMember emptyDomain [] a v).encodeEip712 (tableLib departingHashes)
      ≠ .ok (tableHash departingHashes (0x19 :: 0x01 ::
        ((tableHash departingHashes ((tableHash departingHashes
            (asBytes (definitionText domainType []))).bytes ++ [])).bytes
          ++ (tableHash departingHashes ((tableHash departingHashes
            (asBytes (definitionText ['A'] [⟨['x'], (FieldType.atom a).text⟩]))).bytes
            ++ (w ++ []))).bytes)))) :
    Departs (oneMember emptyDomain [] a v) :=
  ⟨_, _, hashes_oneMember (isSeparator_empty _) htext hw, hne⟩

theorem departs_domain : Departs domainSample := by
  have hkeys : domainSample.types.keys = [domainType, ['A']] := rfl
  have htext : IsEncodeType domainSample.types domainType (definitionText domainType []) :=
    encodeType_eq_ok.mp (by decide)
  refine ⟨_, _, ⟨wellFormed_of_keys ?_, isSeparator_empty _, .struct rfl htext .nil⟩, ?_⟩
  · rw [hkeys]
    decide
  · decide

set_option maxRecDepth 16384 in
theorem departs_salt : Departs saltSample := by
  have hseparator : IsSeparator (tableHash departingHashes) saltSample.domain saltSample.types
      (tableHash departingHashes ((tableHash departingHashes (asBytes (definitionText domainType
          [⟨['s', 'a', 'l', 't'], AtomType.bytes32.name⟩,
            ⟨['n', 'a', 'm', 'e'], AtomType.string.name⟩]))).bytes
        ++ [(Block.zero 32).bytes, (tableHash departingHashes [65]).bytes].flatten)).bytes := by
    refine ⟨_, _, rfl, ?_, rfl, .cons rfl (.cons rfl .nil), rfl⟩
    decide
  have htext : encodeType ['A'] saltSample.types
      = .ok (definitionText ['A'] [⟨['x'], (FieldType.atom .bool).text⟩]) := by
    decide
  refine ⟨_, _, hashes_oneMember hseparator htext rfl, ?_⟩
  decide

/-- Requests whose hash is not that of the standard: a domain as the primary type, which is
left out on purpose, and the slips. -/
theorem departs_samples : Departs domainSample ∧ Departs bytes1Sample ∧ Departs int8Sample
    ∧ Departs int128Sample ∧ Departs jsonSample ∧ Departs saltSample := by
  refine ⟨departs_domain, ?_, ?_, ?_, ?_, departs_salt⟩
  · refine departs_oneMember (by decide) rfl ?_
    decide
  · refine departs_oneMember (by decide) rfl ?_
    decide
  · refine departs_oneMember (by decide) rfl ?_
    decide
  · refine departs_oneMember (by decide) rfl ?_
    decide

end Keystone3.Ethereum
