import Keystone3.Bytes.Numeral
import Keystone3.Monero.Display
import Keystone3.Monero.Sealed

/-!
# Addresses as texts

An address is written as the byte of its network and kind, its two keys and four bytes of their
hash, in base 58. Of a text that is read, the byte and the keys are looked at: neither is the hash
compared, nor is anything expected to end behind it. `acceptsExactly_iff` says which texts are taken
only if they were written.
-/

namespace Keystone3.Monero

open Bytes (Block hexDecode hexText)
open Logic (Outcome)
open Logic.Outcome (bind_eq_ok okOr ok_bind)

abbrev Text : Type := List Char

/-- What the code takes from its libraries: base 58, block by block, and a hash. -/
structure AddressLib where
  keccak256 : List UInt8 → Block 32
  encode : List UInt8 → Option Text
  decode : Text → Option (List UInt8)

/-- Bytes are written, and read as they are written; nothing else is read. -/
structure AddressLib.Lawful (lib : AddressLib) : Prop where
  decode_encode : ∀ bytes, bytes ≠ [] → ∃ text, lib.encode bytes = some text
    ∧ lib.decode text = some bytes
  encode_decode : ∀ text bytes, lib.decode text = some bytes → lib.encode bytes = some text

def publicKeyFromBytes (bytes : List UInt8) : Result (Block 32) :=
  if h : bytes.length = 32 then .ok ⟨bytes, h⟩ else .error .publicKeyFromBytesError

def prefixText (bytes : List UInt8) : Text := (hexText bytes).map Char.toUpper

def networkOf (text : Text) : Option Network :=
  if text = ['1', '2'] then some .mainnet
  else if text = ['3', '5'] then some .testnet
  else if text = ['1', '8'] then some .stagenet
  else if text = ['2', 'A'] then some .mainnet
  else if text = ['3', 'F'] then some .testnet
  else if text = ['2', '4'] then some .stagenet
  else none

def isSubaddressPrefix (text : Text) : Bool :=
  text = ['2', 'A'] || text = ['3', 'F'] || text = ['2', '4']

section

variable (lib : AddressLib)

def keyAt (bytes : List UInt8) (start : Nat) : Result (Block 32) := do
  let key ← slice bytes start (start + 32)
  Outcome.mapError (fun _ => .formatError) (publicKeyFromBytes key)

def Address.fromStr (address : Text) : Result Address := do
  let decoded ← okOr .base58DecodeError (lib.decode address)
  let first ← slice decoded 0 1
  let text := prefixText first
  let network ← okOr (.invalidPrefix text) (networkOf text)
  let publicSpend ← keyAt decoded 1
  let publicView ← keyAt decoded 33
  pure
    { network
      addrType := if isSubaddressPrefix text then .subaddress else .standard
      publicSpend
      publicView }

def networkPrefix : Network → Bool → Text
  | .mainnet, true => ['2', 'A']
  | .mainnet, false => ['1', '2']
  | .testnet, true => ['3', 'F']
  | .testnet, false => ['3', '5']
  | .stagenet, true => ['2', '4']
  | .stagenet, false => ['1', '8']

def pubKeysToAddress (net : Network) (isSubaddress : Bool) (pubSpendKey pubViewKey : Block 32) :
    Result Text := do
  let resHex := networkPrefix net isSubaddress ++ hexText pubSpendKey.bytes
    ++ hexText pubViewKey.bytes
  let hashed ← Outcome.unwrap (hexDecode resHex)
  let checksum := lib.keccak256 hashed
  let bytes ← Outcome.unwrap (hexDecode (resHex ++ hexText (checksum.bytes.take 4)))
  okOr .base58DecodeError (lib.encode bytes)

/-- `to_string`, with nothing for an error. -/
def Address.toString (address : Address) : Result Text :=
  match pubKeysToAddress lib address.network (address.addrType = .subaddress) address.publicSpend
    address.publicView with
  | .error _ => .ok []
  | text => text

def networkByte : Network → AddressType → UInt8
  | .mainnet, .standard => 0x12
  | .mainnet, .subaddress => 0x2A
  | .testnet, .standard => 0x35
  | .testnet, .subaddress => 0x3F
  | .stagenet, .standard => 0x18
  | .stagenet, .subaddress => 0x24

def Address.hashed (address : Address) : List UInt8 :=
  networkByte address.network address.addrType
    :: (address.publicSpend.bytes ++ address.publicView.bytes)

def checksumOf (bytes : List UInt8) : List UInt8 := (lib.keccak256 bytes).bytes.take 4

def Address.bytes (address : Address) : List UInt8 :=
  address.hashed ++ checksumOf lib address.hashed

def Checked (text : Text) : Prop :=
  ∃ bytes, lib.decode text = some bytes ∧ bytes.length = 69
    ∧ bytes.drop 65 = checksumOf lib (bytes.take 65)

/-- A text is an address exactly if it is the text of the address. -/
structure AcceptsExactly (text : Text) : Prop where
  reads : ∀ address, Address.toString lib address = .ok text →
    Address.fromStr lib text = .ok address
  writes : ∀ address, Address.fromStr lib text = .ok address →
    Checked lib text ∧ Address.toString lib address = .ok text

/-- Bytes that begin like an address go on as one, to the end. -/
def Intact (text : Text) : Prop :=
  ∀ bytes, lib.decode text = some bytes → 65 ≤ bytes.length →
    (networkOf (prefixText (bytes.take 1))).isSome = true →
    bytes.length = 69 ∧ bytes.drop 65 = checksumOf lib (bytes.take 65)

variable {lib}

theorem hexText_append (a b : List UInt8) : hexText (a ++ b) = hexText a ++ hexText b :=
  List.flatMap_append

theorem hexDecode_networkPrefix (network : Network) (addrType : AddressType) (bytes : List UInt8) :
    hexDecode (networkPrefix network (addrType = .subaddress) ++ hexText bytes)
      = some (networkByte network addrType :: bytes) := by
  have hrest := Bytes.hexDecode_hexText bytes
  cases network with
  | mainnet => cases addrType <;> exact congrArg (Option.map _) hrest
  | testnet => cases addrType <;> exact congrArg (Option.map _) hrest
  | stagenet => cases addrType <;> exact congrArg (Option.map _) hrest

variable (address : Address)

theorem length_hashed : address.hashed.length = 65 := by
  simp [Address.hashed, Block.size_eq]

theorem length_checksumOf (bytes : List UInt8) : (checksumOf lib bytes).length = 4 := by
  simp [checksumOf, Block.size_eq]

theorem length_bytes : (address.bytes lib).length = 69 := by
  rw [Address.bytes, List.length_append, length_hashed, length_checksumOf]

theorem bytes_ne_nil : address.bytes lib ≠ [] := by
  intro hnil
  have hlength : (address.bytes lib).length = 69 := length_bytes address
  rw [hnil] at hlength
  cases hlength

theorem take_bytes : (address.bytes lib).take 65 = address.hashed := by
  rw [Address.bytes, ← length_hashed address, List.take_left]

theorem pubKeysToAddress_eq :
    pubKeysToAddress lib address.network (address.addrType = .subaddress) address.publicSpend
        address.publicView
      = okOr .base58DecodeError (lib.encode (address.bytes lib)) := by
  have hhashed : hexDecode (networkPrefix address.network (address.addrType = .subaddress)
      ++ hexText address.publicSpend.bytes ++ hexText address.publicView.bytes)
      = some address.hashed := by
    rw [List.append_assoc, ← hexText_append, hexDecode_networkPrefix, Address.hashed]
  have hall : hexDecode (networkPrefix address.network (address.addrType = .subaddress)
      ++ hexText address.publicSpend.bytes ++ hexText address.publicView.bytes
      ++ hexText (checksumOf lib address.hashed)) = some (address.bytes lib) := by
    rw [List.append_assoc, List.append_assoc, ← hexText_append, ← hexText_append,
      hexDecode_networkPrefix, Address.bytes, Address.hashed, List.cons_append, List.append_assoc]
  rw [pubKeysToAddress, hhashed]
  change (Outcome.unwrap (hexDecode (_ ++ hexText (checksumOf lib address.hashed))) >>= _) = _
  rw [hall]
  rfl

theorem exists_toString (hlib : lib.Lawful) (address : Address) :
    ∃ text, Address.toString lib address = .ok text ∧ lib.encode (address.bytes lib) = some text
      ∧ lib.decode text = some (address.bytes lib) := by
  obtain ⟨text, hencode, hdecode⟩ := hlib.decode_encode (address.bytes lib) (bytes_ne_nil address)
  refine ⟨text, ?_, hencode, hdecode⟩
  rw [Address.toString, pubKeysToAddress_eq, hencode]
  rfl

theorem networkOf_prefixText (network : Network) (addrType : AddressType) :
    networkOf (prefixText [networkByte network addrType]) = some network
      ∧ (if isSubaddressPrefix (prefixText [networkByte network addrType]) = true
          then AddressType.subaddress else .standard) = addrType := by
  cases network <;> cases addrType <;> decide

theorem networkOf_cases {text : Text} {network : Network} (h : networkOf text = some network) :
    ∃ addrType, text = prefixText [networkByte network addrType] := by
  unfold networkOf at h
  split_ifs at h with h12 h35 h18 h2A h3F h24
  · cases h
    exact ⟨.standard, h12⟩
  · cases h
    exact ⟨.standard, h35⟩
  · cases h
    exact ⟨.standard, h18⟩
  · cases h
    exact ⟨.subaddress, h2A⟩
  · cases h
    exact ⟨.subaddress, h3F⟩
  · cases h
    exact ⟨.subaddress, h24⟩

theorem prefixText_injective {a b : List UInt8} (h : prefixText a = prefixText b) : a = b := by
  have hdecode := congrArg hexDecode h
  rw [prefixText, prefixText, Bytes.hexDecode_map_toUpper, Bytes.hexDecode_map_toUpper] at hdecode
  exact Option.some.inj hdecode

variable {bytes : List UInt8}

theorem publicKeyFromBytes_eq_ok {key : Block 32} :
    publicKeyFromBytes bytes = .ok key ↔ bytes = key.bytes := by
  unfold publicKeyFromBytes
  split
  · rename_i hlength
    constructor
    · intro h
      cases h
      rfl
    · rintro rfl
      rfl
  · rename_i hlength
    constructor
    · nofun
    · rintro rfl
      exact absurd key.size_eq hlength

theorem slice_eq_ok {bytes part : List UInt8} {start stop : Nat} :
    slice bytes start stop = .ok part
      ↔ start ≤ stop ∧ stop ≤ bytes.length ∧ (bytes.take stop).drop start = part := by
  unfold slice
  split
  · rename_i hbounds
    constructor
    · intro h
      cases h
      exact ⟨hbounds.1, hbounds.2, rfl⟩
    · rintro ⟨-, -, rfl⟩
      rfl
  · rename_i hbounds
    constructor
    · nofun
    · rintro ⟨hstart, hstop, -⟩
      exact absurd ⟨hstart, hstop⟩ hbounds

theorem keyAt_eq_ok {start : Nat} {key : Block 32} :
    keyAt bytes start = .ok key
      ↔ start + 32 ≤ bytes.length ∧ (bytes.take (start + 32)).drop start = key.bytes := by
  rw [keyAt, bind_eq_ok]
  constructor
  · rintro ⟨part, hpart, hkey⟩
    obtain ⟨-, hlength, rfl⟩ := slice_eq_ok.mp hpart
    exact ⟨hlength, publicKeyFromBytes_eq_ok.mp (Outcome.mapError_eq_ok.mp hkey)⟩
  · rintro ⟨hlength, hkey⟩
    exact ⟨_, slice_eq_ok.mpr ⟨by omega, hlength, rfl⟩,
      Outcome.mapError_eq_ok.mpr (publicKeyFromBytes_eq_ok.mpr hkey)⟩

theorem networkByte_of_prefix {b : UInt8} {network : Network}
    (h : networkOf (prefixText [b]) = some network) :
    networkByte network
      (if isSubaddressPrefix (prefixText [b]) = true then .subaddress else .standard) = b := by
  obtain ⟨addrType, htext⟩ := networkOf_cases h
  cases prefixText_injective htext
  rw [(networkOf_prefixText network addrType).2]

theorem take_eq_append {m n : Nat} (h : m ≤ n) :
    bytes.take n = bytes.take m ++ (bytes.take n).drop m := by
  have htake : bytes.take m = (bytes.take n).take m := by rw [List.take_take, Nat.min_eq_left h]
  rw [htake, List.take_append_drop]

theorem take_eq_cons (h : 65 ≤ bytes.length) :
    ∃ b, ∃ spend view : Block 32, bytes.take 1 = [b] ∧ (bytes.take 33).drop 1 = spend.bytes
      ∧ (bytes.take 65).drop 33 = view.bytes ∧ bytes.take 65 = b :: (spend.bytes ++ view.bytes) := by
  obtain ⟨b, rest, rfl⟩ := List.exists_cons_of_length_pos (show 0 < bytes.length by omega)
  have hspend : (((b :: rest).take 33).drop 1).length = 32 := by simp at h ⊢; omega
  have hview : (((b :: rest).take 65).drop 33).length = 32 := by simp at h ⊢; omega
  refine ⟨b, ⟨_, hspend⟩, ⟨_, hview⟩, rfl, rfl, rfl, ?_⟩
  have hpieces := @take_eq_append (b :: rest) 33 65 (by omega)
  have hfirst := @take_eq_append (b :: rest) 1 33 (by omega)
  exact hpieces.trans ((congrArg (· ++ _) hfirst).trans (List.append_assoc _ _ _))

theorem fromStr_eq_ok {text : Text} {address : Address} :
    Address.fromStr lib text = .ok address
      ↔ ∃ bytes, lib.decode text = some bytes ∧ bytes.take 65 = address.hashed := by
  constructor
  · intro h
    obtain ⟨bytes, hdecode, h⟩ := bind_eq_ok.mp h
    obtain ⟨first, hfirst, h⟩ := bind_eq_ok.mp h
    obtain ⟨network, hnetwork, h⟩ := bind_eq_ok.mp h
    obtain ⟨spend, hspend, h⟩ := bind_eq_ok.mp h
    obtain ⟨view, hview, h⟩ := bind_eq_ok.mp h
    cases h
    obtain ⟨hlength, hview⟩ := keyAt_eq_ok.mp hview
    obtain ⟨-, hspend⟩ := keyAt_eq_ok.mp hspend
    obtain ⟨-, -, rfl⟩ := slice_eq_ok.mp hfirst
    obtain ⟨b, spend', view', hb, hspend', hview', htake⟩ := take_eq_cons hlength
    refine ⟨bytes, Outcome.okOr_eq_ok.mp hdecode, ?_⟩
    have hnetwork := Outcome.okOr_eq_ok.mp hnetwork
    rw [List.drop_zero, hb] at hnetwork
    rw [htake, Address.hashed, List.drop_zero, hb, networkByte_of_prefix hnetwork,
      ← hspend, ← hview, hspend', hview']
  · rintro ⟨bytes, hdecode, hhashed⟩
    have hlength : 65 ≤ bytes.length := by
      have hle := List.length_take_le' 65 bytes
      rwa [hhashed, length_hashed] at hle
    obtain ⟨b, spend, view, hb, hspend, hview, htake⟩ := take_eq_cons hlength
    rw [htake, Address.hashed, List.cons.injEq] at hhashed
    obtain ⟨rfl, hkeys⟩ := hhashed
    obtain ⟨hspend', hview'⟩ := List.append_inj hkeys
      (by rw [Block.size_eq, Block.size_eq])
    obtain ⟨hnetwork, htype⟩ := networkOf_prefixText address.network address.addrType
    have hfirst : slice bytes 0 1 = .ok [networkByte address.network address.addrType] :=
      slice_eq_ok.mpr ⟨by omega, by omega, hb⟩
    have hspendAt : keyAt bytes 1 = .ok address.publicSpend :=
      keyAt_eq_ok.mpr ⟨by omega, hspend.trans hspend'⟩
    have hviewAt : keyAt bytes 33 = .ok address.publicView :=
      keyAt_eq_ok.mpr ⟨by omega, hview.trans hview'⟩
    rw [Address.fromStr, hdecode, okOr, ok_bind, hfirst, ok_bind]
    dsimp only
    rw [hnetwork, okOr, ok_bind, hspendAt, ok_bind, hviewAt, ok_bind, htype]
    rfl

theorem exists_hashed (hlength : 65 ≤ bytes.length)
    (hnetwork : (networkOf (prefixText (bytes.take 1))).isSome = true) :
    ∃ address : Address, bytes.take 65 = address.hashed := by
  obtain ⟨b, spend, view, hb, -, -, htake⟩ := take_eq_cons hlength
  obtain ⟨network, hnetwork⟩ := Option.isSome_iff_exists.mp hnetwork
  rw [hb] at hnetwork
  refine ⟨⟨network, if isSubaddressPrefix (prefixText [b]) = true then .subaddress else .standard,
    spend, view⟩, ?_⟩
  rw [htake, Address.hashed, networkByte_of_prefix hnetwork]

theorem acceptsExactly_iff (hlib : lib.Lawful) (text : Text) :
    AcceptsExactly lib text ↔ Intact lib text := by
  constructor
  · intro h bytes hdecode hlength hnetwork
    obtain ⟨address, hhashed⟩ := exists_hashed hlength hnetwork
    obtain ⟨⟨bytes', hdecode', hchecked⟩, -⟩ :=
      h.writes address (fromStr_eq_ok.mpr ⟨bytes, hdecode, hhashed⟩)
    cases hdecode.symm.trans hdecode'
    exact hchecked
  · intro h
    constructor
    · intro address hwritten
      obtain ⟨text', htext', -, hdecode⟩ := exists_toString hlib address
      cases hwritten.symm.trans htext'
      exact fromStr_eq_ok.mpr ⟨_, hdecode, take_bytes address⟩
    · intro address hread
      obtain ⟨bytes, hdecode, hhashed⟩ := fromStr_eq_ok.mp hread
      have hlength : 65 ≤ bytes.length := by
        have hle := List.length_take_le' 65 bytes
        rwa [hhashed, length_hashed] at hle
      have hfirst : bytes.take 1 = [networkByte address.network address.addrType] := by
        rw [← Nat.min_eq_left (show 1 ≤ 65 by omega), ← List.take_take, hhashed]
        rfl
      have hnetwork : (networkOf (prefixText (bytes.take 1))).isSome = true := by
        rw [hfirst, (networkOf_prefixText _ _).1]
        rfl
      obtain ⟨hsize, hsum⟩ := h bytes hdecode hlength hnetwork
      refine ⟨⟨bytes, hdecode, hsize, hsum⟩, ?_⟩
      -- the bytes are those of the address, and a text is the one that its bytes have
      have hbytes : bytes = address.bytes lib := by
        rw [← List.take_append_drop 65 bytes, hsum, hhashed, Address.bytes]
      obtain ⟨text', htext', hencode, -⟩ := exists_toString hlib address
      rw [hbytes] at hdecode
      rw [hlib.encode_decode _ _ hdecode, Option.some.injEq] at hencode
      rw [htext', hencode]

end

def strictDecode (text : Text) : Option (List UInt8) :=
  (hexDecode text).bind fun bytes => if hexText bytes = text then some bytes else none

theorem strictDecode_hexText (bytes : List UInt8) : strictDecode (hexText bytes) = some bytes := by
  simp [strictDecode, Bytes.hexDecode_hexText]

theorem hexText_of_strictDecode {text : Text} {bytes : List UInt8}
    (h : strictDecode text = some bytes) : hexText bytes = text := by
  obtain ⟨bytes', -, h⟩ := Option.bind_eq_some_iff.mp h
  split at h
  · cases h
    assumption
  · cases h

def AddressLib.swapped (bytes : List UInt8) (text : Text) (keccak256 : List UInt8 → Block 32) :
    AddressLib where
  keccak256
  encode bs := some (Equiv.swap text (hexText bytes) (hexText bs))
  decode s := strictDecode (Equiv.swap text (hexText bytes) s)

theorem swapped_lawful (bytes : List UInt8) (text : Text) (keccak256 : List UInt8 → Block 32) :
    (AddressLib.swapped bytes text keccak256).Lawful where
  decode_encode bs _ := by
    refine ⟨_, rfl, ?_⟩
    show strictDecode (Equiv.swap text _ (Equiv.swap text _ (hexText bs))) = some bs
    rw [Equiv.swap_apply_self, strictDecode_hexText]
  encode_decode s bs h := by
    have htext : hexText bs = Equiv.swap text (hexText bytes) s := hexText_of_strictDecode h
    show some (Equiv.swap text (hexText bytes) (hexText bs)) = some s
    rw [htext, Equiv.swap_apply_self]

theorem decode_swapped (bytes : List UInt8) (text : Text) (keccak256 : List UInt8 → Block 32) :
    (AddressLib.swapped bytes text keccak256).decode text = some bytes := by
  show strictDecode (Equiv.swap text (hexText bytes) text) = some bytes
  rw [Equiv.swap_apply_left, strictDecode_hexText]

def zerosBytes : List UInt8 := 0x12 :: List.replicate 68 0

def zerosText : Text := "41d7FXjswpK".toList ++ List.replicate 84 '1'

def zerosHash (bytes : List UInt8) : Block 32 :=
  if bytes = 0x12 :: List.replicate 64 0 then
    ⟨[0x33, 0xbb, 0x94, 0x41, 0x2f, 0x93, 0x27, 0xe6, 0x5d, 0x8a, 0xea, 0xe7, 0x9d, 0xda, 0x48, 0x18,
      0xe3, 0x24, 0x1f, 0xfb, 0xc9, 0x4c, 0x5c, 0xeb, 0xdd, 0xb1, 0x4b, 0xf9, 0x06, 0x7e, 0x17,
      0x8f], rfl⟩
  else Block.zero 32

def zerosLib : AddressLib := .swapped zerosBytes zerosText zerosHash

theorem acceptsExactly_iff_zeros : AcceptsExactly zerosLib zerosText ↔ Intact zerosLib zerosText :=
  acceptsExactly_iff (swapped_lawful zerosBytes zerosText zerosHash) zerosText

/-- The checksum is not looked at. -/
theorem not_acceptsExactly :
    ¬∀ lib : AddressLib, lib.Lawful → ∀ text, AcceptsExactly lib text := by
  intro hall
  have hlawful : zerosLib.Lawful := swapped_lawful zerosBytes zerosText zerosHash
  have hdecode : zerosLib.decode zerosText = some zerosBytes :=
    decode_swapped zerosBytes zerosText zerosHash
  obtain ⟨address, haddress⟩ := @exists_hashed zerosBytes (by decide) (by decide)
  obtain ⟨⟨bytes, hdecode', -, hsum⟩, -⟩ := (hall zerosLib hlawful zerosText).writes address
    (fromStr_eq_ok.mpr ⟨zerosBytes, hdecode, haddress⟩)
  cases hdecode.symm.trans hdecode'
  have hhash : checksumOf zerosLib (zerosBytes.take 65) = [0x33, 0xbb, 0x94, 0x41] := rfl
  rw [hhash] at hsum
  cases hsum

end Keystone3.Monero
