import Keystone3.Bitcoin.Base58

/-!
# The texts of addresses

`display` and `fromStr` are two tables of cases, by network and kind on one side and by
prefix and version byte on the other. `display_fromStr_iff` says for which texts the two
tables agree: for all that are read but one kind.
-/

namespace Keystone3.Bitcoin

open Bytes (Block)
open Logic (Outcome)
open Logic.Outcome (collect error_bind ok_bind)
open CashAddrCodec (IsSymbol decode decode_eq_ok encode symbolOf text)

def pubkeyAddressPrefixBtc : UInt8 := 0
def pubkeyAddressPrefixDash : UInt8 := 76
def pubkeyAddressPrefixDashP2sh : UInt8 := 16
def pubkeyAddressPrefixBch : UInt8 := 0
def pubkeyAddressPrefixDoge : UInt8 := 30
def scriptAddressPrefixBtc : UInt8 := 5
def scriptAddressPrefixLtc : UInt8 := 50
def scriptAddressPrefixLtcP2pkh : UInt8 := 48
def scriptAddressPrefixDoge : UInt8 := 22
def pubkeyAddressPrefixTest : UInt8 := 111
def scriptAddressPrefixTest : UInt8 := 196

/-- What is taken from the libraries for base 58 and bech32. -/
structure TextLib where
  /-- `base58::encode_check`. -/
  encodeCheck : List UInt8 → Text
  /-- `base58::decode_check`. -/
  decodeCheck : Text → Except String (List UInt8)
  /-- `bech32::segwit::decode`: the part before the separator, the version and the program. -/
  segwitDecode : Text → Except String (Text × UInt8 × List UInt8)
  /-- `bech32::segwit::encode_lower_to_fmt_unchecked`. -/
  segwitEncodeLower : Text → UInt8 → List UInt8 → Text
  /-- `WitnessProgram::new`, which keeps its arguments. -/
  checkWitnessProgram : UInt8 → List UInt8 → Except String Unit

structure TextLib.Lawful (lib : BitcoinLib) (texts : TextLib) : Prop where
  /-- The data and four bytes of a double hash, in base 58. -/
  encodeCheck_eq : ∀ data, texts.encodeCheck data
    = base58Text (data ++ (lib.sha256 (lib.sha256 data).bytes).bytes.take 4)
  /-- Data that is read is written as it was. -/
  encodeCheck_decodeCheck : ∀ s data, texts.decodeCheck s = .ok data → texts.encodeCheck data = s
  /-- The last separator ends the prefix. -/
  segwitEncodeLower_eq : ∀ hrp version program, ∃ data,
    texts.segwitEncodeLower hrp version program = hrp.map Char.toLower ++ '1' :: data ∧ '1' ∉ data
  /-- A program that is read is written in small letters as it was. -/
  segwitEncodeLower_segwitDecode : ∀ s hrp version program,
    texts.segwitDecode s = .ok (hrp, version, program) →
      texts.segwitEncodeLower (hrp.map Char.toLower) version program = s.map Char.toLower
  /-- Small letters and capital letters are read alike. -/
  segwitDecode_toLower : ∀ s hrp version program,
    texts.segwitDecode s = .ok (hrp, version, program) →
      texts.segwitDecode (s.map Char.toLower) = .ok (hrp.map Char.toLower, version, program)

/-- `invalid payload`, for a kind that has no text. -/
def invalidPayload : Text :=
  ['i', 'n', 'v', 'a', 'l', 'i', 'd', ' ', 'p', 'a', 'y', 'l', 'o', 'a', 'd']

def invalidAddresses : Text :=
  ['i', 'n', 'v', 'a', 'l', 'i', 'd', ' ', 'a', 'd', 'd', 'r', 'e', 's', 's', 'e', 's']

def encodePayload (texts : TextLib) (p2pkhPrefix p2shPrefix : Option UInt8)
    (bech32Hrp : Option Text) : Payload → Text
  | .p2pkh pubkeyHash =>
    match p2pkhPrefix with
    | some version => texts.encodeCheck (version :: pubkeyHash)
    | none => invalidPayload
  | .p2sh scriptHash =>
    match p2shPrefix with
    | some version => texts.encodeCheck (version :: scriptHash)
    | none => invalidPayload
  | .segwit version program =>
    match bech32Hrp with
    | some hrp => texts.segwitEncodeLower hrp version program
    | none => invalidPayload

def btcAddressEncoding (texts : TextLib) (p2pkhPrefix p2shPrefix : UInt8) (bech32Hrp : Text) :
    Payload → Text :=
  encodePayload texts (some p2pkhPrefix) (some p2shPrefix) (some bech32Hrp)

def ltcAddressEncoding (texts : TextLib) (p2pkhPrefix p2shPrefix : UInt8) (bech32Hrp : Text) :
    Payload → Text :=
  encodePayload texts (some p2pkhPrefix) (some p2shPrefix) (some bech32Hrp)

def dashAddressEncoding (texts : TextLib) (p2pkhPrefix p2shPrefix : UInt8) : Payload → Text :=
  encodePayload texts (some p2pkhPrefix) (some p2shPrefix) none

def dogeAddressEncoding (texts : TextLib) (p2pkhPrefix : UInt8) : Payload → Text :=
  encodePayload texts (some p2pkhPrefix) none none

/-- The text in base 58 is made into the other. A formatter that fails is
a panic of `to_string`. -/
def bchAddressEncoding (lib : BitcoinLib) (texts : TextLib) (p2pkhPrefix : UInt8) :
    Payload → Result Text
  | .p2pkh pubkeyHash =>
    match Base58Codec.decode lib (texts.encodeCheck (p2pkhPrefix :: pubkeyHash)) with
    | .ok address =>
      match encode address with
      | .ok encoded => .ok encoded
      | _ => .halted
    | .error _ => .ok invalidAddresses
    | .halted => .halted
  | _ => .ok invalidPayload

namespace Address

def display (lib : BitcoinLib) (texts : TextLib) (address : Address) : Result Text :=
  match address.network with
  | .bitcoin => .ok (btcAddressEncoding texts pubkeyAddressPrefixBtc scriptAddressPrefixBtc
      ['b', 'c'] address.payload)
  | .bitcoinTestnet => .ok (btcAddressEncoding texts pubkeyAddressPrefixTest
      scriptAddressPrefixTest ['t', 'b'] address.payload)
  | .dash => .ok (dashAddressEncoding texts pubkeyAddressPrefixDash pubkeyAddressPrefixDashP2sh
      address.payload)
  | .litecoin => .ok (ltcAddressEncoding texts scriptAddressPrefixLtcP2pkh scriptAddressPrefixLtc
      ['l', 't', 'c'] address.payload)
  | .bitcoinCash => bchAddressEncoding lib texts pubkeyAddressPrefixBch address.payload
  | .avaxBtcBridge => .ok (btcAddressEncoding texts pubkeyAddressPrefixBtc scriptAddressPrefixBtc
      ['b', 'c'] address.payload)
  | .dogecoin => .ok (dogeAddressEncoding texts pubkeyAddressPrefixDoge address.payload)

def findBech32Prefix (bech32 : Text) : Text :=
  if '1' ∈ bech32 then ((bech32.reverse.dropWhile (· ≠ '1')).drop 1).reverse else bech32

def bech32Network (hrp : Text) : Option Network :=
  if hrp = ['b', 'c'] ∨ hrp = ['B', 'C'] then some .bitcoin
  else if hrp = ['t', 'b'] ∨ hrp = ['T', 'B'] then some .bitcoinTestnet
  else if hrp = ['l', 't', 'c'] ∨ hrp = ['L', 'T', 'C'] then some .litecoin
  else none

/-- `from_str`, with a prefix of a network. -/
def fromSegwit (texts : TextLib) (network : Network) (s : Text) : Result Address :=
  match texts.segwitDecode s with
  | .error reason => .error (.bech32DecodeError reason)
  | .ok (_, version, program) =>
    if version.toNat > 16 ∨ program.length ≥ 2 ^ 32 then .halted
    else
      match texts.checkWitnessProgram version program with
      | .error reason => .error (.witnessProgramError reason)
      | .ok _ => .ok ⟨.segwit version program, network⟩

def ofVersion (version : UInt8) (hash : List UInt8) : Option Address :=
  if version = pubkeyAddressPrefixBtc then some ⟨.p2pkh hash, .bitcoin⟩
  else if version = pubkeyAddressPrefixTest then some ⟨.p2pkh hash, .bitcoinTestnet⟩
  else if version = pubkeyAddressPrefixDash then some ⟨.p2pkh hash, .dash⟩
  else if version = pubkeyAddressPrefixDashP2sh then some ⟨.p2sh hash, .dash⟩
  else if version = scriptAddressPrefixLtcP2pkh then some ⟨.p2pkh hash, .litecoin⟩
  else if version = scriptAddressPrefixLtc then some ⟨.p2sh hash, .litecoin⟩
  else if version = scriptAddressPrefixBtc then some ⟨.p2sh hash, .bitcoin⟩
  else if version = scriptAddressPrefixTest then some ⟨.p2sh hash, .bitcoinTestnet⟩
  else if version = pubkeyAddressPrefixDoge then some ⟨.p2pkh hash, .dogecoin⟩
  else if version = scriptAddressPrefixDoge then some ⟨.p2sh hash, .dogecoin⟩
  else none

def utf8Length (s : Text) : Nat := (s.map Char.utf8Size).sum

/-- `from_str`, in base 58. -/
def fromBase58 (texts : TextLib) (s : Text) : Result Address :=
  if utf8Length s > 50 then
    .error (.addressError ("invalid base58 length " ++ toString (utf8Length s % 256)))
  else
    match texts.decodeCheck s with
    | .error _ => .error (.addressError "invalid base58 check")
    | .ok data =>
      if data.length ≠ 21 then
        .error (.addressError ("invalid base58 length " ++ toString (data.length % 256)))
      else
        match ofVersion (data.headD 0) (data.drop 1) with
        | some address => .ok address
        | none => .error (.addressError "invalid address version")

def fromStr (texts : TextLib) (chars : CharCase) (s : Text) : Result Address :=
  match decode chars s with
  | .ok address => .ok address
  | .halted => .halted
  | .error _ =>
    match bech32Network (findBech32Prefix s) with
    | some network => fromSegwit texts network s
    | none => fromBase58 texts s

theorem toLower_cases (c : Char) : c.toLower = c ∨ ∃ n < 91, 65 ≤ n ∧ c = Char.ofNat n := by
  by_cases hc : c.val ≥ 65 ∧ c.val ≤ 90
  · have hlow : 65 ≤ c.toNat := hc.1
    have hhigh : c.toNat ≤ 90 := hc.2
    exact .inr ⟨c.toNat, by omega, hlow, (Char.ofNat_toNat c).symm⟩
  · exact .inl (dif_neg hc)

theorem toLower_toLower (c : Char) : c.toLower.toLower = c.toLower := by
  have hall : ∀ n < 91, 65 ≤ n →
      (Char.ofNat n).toLower.toLower = (Char.ofNat n).toLower := by decide
  rcases toLower_cases c with h | ⟨n, hn, hlow, rfl⟩
  · rw [h, h]
  · exact hall n hn hlow

theorem toLower_eq_one {c : Char} (h : c.toLower = '1') : c = '1' := by
  have hall : ∀ n < 91, 65 ≤ n → (Char.ofNat n).toLower ≠ '1' := by decide
  rcases toLower_cases c with hc | ⟨n, hn, hlow, rfl⟩
  · rw [← hc, h]
  · exact absurd h (hall n hn hlow)

theorem not_mem_toLower {data : Text} (h : '1' ∉ data) : '1' ∉ data.map Char.toLower := by
  intro hmem
  obtain ⟨c, hc, hlower⟩ := List.mem_map.mp hmem
  rw [toLower_eq_one hlower] at hc
  exact h hc

theorem findBech32Prefix_append {hrp data : Text} (h : '1' ∉ data) :
    findBech32Prefix (hrp ++ '1' :: data) = hrp := by
  have hall : ∀ c ∈ data.reverse, decide (c ≠ '1') = true := by
    intro c hc
    exact decide_eq_true fun heq => h (heq ▸ List.mem_reverse.mp hc)
  have hmem : '1' ∈ hrp ++ '1' :: data := List.mem_append_right _ (.head _)
  rw [findBech32Prefix, if_pos hmem, List.reverse_append, List.reverse_cons, List.append_assoc,
    List.dropWhile_append_of_pos hall]
  exact List.reverse_reverse hrp

theorem findBech32Prefix_cases (s : Text) : ('1' ∉ s ∧ findBech32Prefix s = s)
    ∨ ∃ data, s = findBech32Prefix s ++ '1' :: data ∧ '1' ∉ data := by
  by_cases hmem : '1' ∈ s
  · obtain ⟨hrp, data, hs, hdata⟩ : ∃ hrp data, s = hrp ++ '1' :: data ∧ '1' ∉ data := by
      obtain ⟨as, bs, hsplit, hnot⟩ := List.eq_append_cons_of_mem (List.mem_reverse.mpr hmem)
      refine ⟨bs.reverse, as.reverse, ?_, fun h => hnot (List.mem_reverse.mp h)⟩
      rw [← List.reverse_reverse s, hsplit]
      simp
    refine .inr ⟨data, ?_, hdata⟩
    rw [hs, findBech32Prefix_append hdata]
  · exact .inl ⟨hmem, if_neg hmem⟩

theorem findBech32Prefix_toLower (s : Text) :
    findBech32Prefix (s.map Char.toLower) = (findBech32Prefix s).map Char.toLower := by
  rcases findBech32Prefix_cases s with ⟨hmem, heq⟩ | ⟨data, hs, hdata⟩
  · rw [heq, findBech32Prefix, if_neg (not_mem_toLower hmem)]
  · have hmap : s.map Char.toLower
        = (findBech32Prefix s).map Char.toLower ++ '1' :: data.map Char.toLower := by
      conv_lhs => rw [hs]
      rw [List.map_append, List.map_cons]
      rfl
    rw [hmap, findBech32Prefix_append (not_mem_toLower hdata)]

/-- The prefix that `display` writes for a network of bech32. -/
def bech32Hrp : Network → Text
  | .bitcoinTestnet => ['t', 'b']
  | .litecoin => ['l', 't', 'c']
  | _ => ['b', 'c']

theorem bech32Network_eq {hrp : Text} {network : Network} (h : bech32Network hrp = some network) :
    hrp.map Char.toLower = bech32Hrp network ∧ bech32Network (bech32Hrp network) = some network
      ∧ ∀ lib texts version program, display lib texts ⟨.segwit version program, network⟩
        = .ok (texts.segwitEncodeLower (bech32Hrp network) version program) := by
  unfold bech32Network at h
  split at h
  · rename_i hbc
    cases h
    refine ⟨?_, rfl, fun _ _ _ _ => rfl⟩
    rcases hbc with rfl | rfl
    · decide
    · decide
  · split at h
    · rename_i htb
      cases h
      refine ⟨?_, rfl, fun _ _ _ _ => rfl⟩
      rcases htb with rfl | rfl
      · decide
      · decide
    · split at h
      · rename_i hltc
        cases h
        refine ⟨?_, rfl, fun _ _ _ _ => rfl⟩
        rcases hltc with rfl | rfl
        · decide
        · decide
      · cases h

theorem symbolOf_ok_or_error (c : Char) :
    (∃ d, symbolOf c = .ok d)
      ∨ symbolOf c = .error (.addressError "invalid char") := by
  unfold symbolOf
  split
  · exact .inl ⟨_, rfl⟩
  · exact .inr rfl

theorem decode_error_of_mem (chars : CharCase) {s : Text} {c : Char} (hc : c ∈ s)
    (hsymbol : symbolOf c = .error (.addressError "invalid char")) :
    ∃ e, decode chars s = .error e := by
  have hcollect : collect symbolOf s
      = .error (.addressError "invalid char") := by
    induction s with
    | nil => exact absurd hc List.not_mem_nil
    | cons c' s ih =>
      rcases List.mem_cons.mp hc with rfl | hc
      · rw [collect, hsymbol, error_bind]
      · rw [collect, ih hc]
        rcases symbolOf_ok_or_error c' with ⟨d, hd⟩ | herror
        · rw [hd, ok_bind, error_bind]
        · rw [herror, error_bind]
  cases s with
  | nil => exact absurd hc List.not_mem_nil
  | cons first rest =>
    by_cases hmixed : CashAddrCodec.mixedCase chars first rest = true
    · exact ⟨_, if_pos hmixed⟩
    · refine ⟨.addressError "invalid char", ?_⟩
      rw [decode, if_neg hmixed, hcollect, error_bind]

theorem length_of_decode {chars : CharCase} {s : Text} {address : Address}
    (h : decode chars s = .ok address) : 42 ≤ s.length := by
  obtain ⟨us, ws, version, hash, hread, hws, -, hcut, hlength, -⟩ := decode_eq_ok h
  have hsame := (Outcome.collect_eq_ok.mp hread).length_eq
  have hus : ∀ d ∈ us, IsSymbol d := fun d hd =>
    (CashAddrCodec.collect_symbolOf hread).1 d (List.mem_append_left _ hd)
  obtain ⟨hbytes, -, -⟩ := @convertBits_cut 8 5 (by decide) (by decide) (by decide)
    us hus
  rw [hcut, List.length_cons, hlength] at hbytes
  rw [hsame, List.length_append, hws]
  omega

section

variable {lib : BitcoinLib} {texts : TextLib} {chars : CharCase}

variable {address : Address}

theorem fromStr_eq_ok {s : Text} (h : fromStr texts chars s = .ok address) :
    decode chars s = .ok address
      ∨ (∃ e, decode chars s = .error e)
        ∧ ((∃ network, bech32Network (findBech32Prefix s) = some network
            ∧ fromSegwit texts network s = .ok address)
          ∨ bech32Network (findBech32Prefix s) = none ∧ fromBase58 texts s = .ok address) := by
  unfold fromStr at h
  split at h
  · rename_i hdecode
    cases h
    exact .inl hdecode
  · cases h
  · rename_i e hdecode
    refine .inr ⟨⟨e, hdecode⟩, ?_⟩
    split at h
    · rename_i network hnetwork
      exact .inl ⟨network, hnetwork, h⟩
    · rename_i hnone
      exact .inr ⟨hnone, h⟩

theorem fromStr_of_network {s : Text} {e : BitcoinError} {network : Network}
    (hdecode : decode chars s = .error e)
    (hnetwork : bech32Network (findBech32Prefix s) = some network) :
    fromStr texts chars s = fromSegwit texts network s := by
  rw [fromStr, hdecode]
  show (match bech32Network (findBech32Prefix s) with | some _ => _ | none => _) = _
  rw [hnetwork]

theorem fromStr_of_none {s : Text} {e : BitcoinError}
    (hdecode : decode chars s = .error e)
    (hnone : bech32Network (findBech32Prefix s) = none) :
    fromStr texts chars s = fromBase58 texts s := by
  rw [fromStr, hdecode]
  show (match bech32Network (findBech32Prefix s) with | some _ => _ | none => _) = _
  rw [hnone]

theorem base58Codec_decode_encodeCheck (hlib : texts.Lawful lib) {hash : List UInt8}
    (hlength : hash.length = 20) :
    Base58Codec.decode lib (texts.encodeCheck (pubkeyAddressPrefixBch :: hash)) = .ok hash := by
  rw [Base58Codec.decode, hlib.encodeCheck_eq, fromBase58Str_base58Text, ok_bind]
  generalize hsum : (lib.sha256 (lib.sha256 (pubkeyAddressPrefixBch :: hash)).bytes).bytes.take 4
    = checksum
  have hchecksum : checksum.length = 4 := by
    rw [← hsum, List.length_take, Block.size_eq]
    rfl
  have hdata : (pubkeyAddressPrefixBch :: hash).length = 21 := by rw [List.length_cons, hlength]
  rw [List.length_append, hdata, hchecksum, if_neg (not_not.mpr rfl),
    if_neg (not_not.mpr (show (pubkeyAddressPrefixBch :: hash ++ checksum).headD 0 = 0 from rfl)),
    ← hdata, List.take_left, List.drop_left]
  show (if (lib.sha256 (lib.sha256 (pubkeyAddressPrefixBch :: hash)).bytes).bytes.take 4 ≠ checksum
    then _ else _) = _
  rw [hsum, if_neg (not_not.mpr rfl)]
  rfl

theorem fromStr_of_decode (hlib : texts.Lawful lib) {s : Text}
    (h : decode chars s = .ok address) :
    ∃ t, display lib texts address = .ok t ∧ fromStr texts chars t = .ok address := by
  obtain ⟨-, -, -, hash, -, -, -, -, hlength, -, rfl⟩ := decode_eq_ok h
  refine ⟨text (CashAddrCodec.symbolsOf hash), ?_, ?_⟩
  · show bchAddressEncoding lib texts _ (.p2pkh hash) = _
    rw [bchAddressEncoding, base58Codec_decode_encodeCheck hlib hlength]
    show (match encode hash with | .ok encoded => _ | _ => _) = _
    rw [CashAddrCodec.encode_eq hlength]
  · rw [fromStr, CashAddrCodec.decode_encode chars hlength]

theorem fromStr_of_segwit (hlib : texts.Lawful lib) {s : Text} {network : Network} (hnetwork : bech32Network (findBech32Prefix s) = some network)
    (h : fromSegwit texts network s = .ok address) :
    ∃ t, display lib texts address = .ok t ∧ fromStr texts chars t = .ok address := by
  obtain ⟨hlower, hagain, hdisplay⟩ := bech32Network_eq hnetwork
  rcases hread : texts.segwitDecode s with reason | ⟨hrp, version, program⟩
  · rw [fromSegwit, hread] at h
    cases h
  · have hwritten := hlib.segwitEncodeLower_segwitDecode s hrp version program hread
    have hsmall := hlib.segwitDecode_toLower s hrp version program hread
    obtain ⟨data, hdata, hnone⟩ := hlib.segwitEncodeLower_eq (hrp.map Char.toLower) version program
    rw [hwritten] at hdata
    -- what was read has the prefix that the network was taken from
    have hprefix : (hrp.map Char.toLower).map Char.toLower = bech32Hrp network := by
      rw [← hlower, ← findBech32Prefix_toLower, hdata, findBech32Prefix_append hnone]
    have hidem : (hrp.map Char.toLower).map Char.toLower = hrp.map Char.toLower := by
      rw [List.map_map]
      exact List.map_congr_left fun c _ => toLower_toLower c
    rw [hidem] at hprefix
    have hagain' : fromSegwit texts network (s.map Char.toLower) = .ok address := by
      rw [fromSegwit, hread] at h
      rw [fromSegwit, hsmall]
      exact h
    refine ⟨s.map Char.toLower, ?_, ?_⟩
    · rw [fromSegwit, hread] at h
      have haddress : address = ⟨.segwit version program, network⟩ := by
        simp only at h
        split at h
        · cases h
        · split at h
          · cases h
          · exact (Outcome.ok.inj h).symm
      rw [haddress, hdisplay, ← hprefix, hwritten]
    · obtain ⟨e, he⟩ := decode_error_of_mem chars
        (show '1' ∈ s.map Char.toLower by
          rw [hdata]
          exact List.mem_append_right _ (.head _)) (by decide)
      rw [fromStr_of_network he, hagain']
      rw [findBech32Prefix_toLower, hlower, hagain]

theorem fromBase58_eq_ok {s : Text} (h : fromBase58 texts s = .ok address) :
    ∃ version hash, texts.decodeCheck s = .ok (version :: hash) ∧ hash.length = 20
      ∧ ofVersion version hash = some address := by
  unfold fromBase58 at h
  split at h
  · cases h
  · split at h
    · cases h
    · rename_i data hdata
      split at h
      · cases h
      · rename_i hlength
        rw [not_not] at hlength
        split at h
        · rename_i hversion
          cases h
          obtain ⟨version, hash, rfl⟩ := List.exists_cons_of_length_pos (by rw [hlength]; decide :
            0 < data.length)
          rw [List.length_cons] at hlength
          exact ⟨version, hash, hdata, by omega, hversion⟩
        · cases h

theorem display_ofVersion {version : UInt8} {hash : List UInt8}
    (h : ofVersion version hash = some address) (hversion : version ≠ scriptAddressPrefixDoge) :
    display lib texts address = .ok (texts.encodeCheck (version :: hash)) := by
  unfold ofVersion at h
  split_ifs at h with h1 h2 h3 h4 h5 h6 h7 h8 h9
  · cases h
    rw [h1]
    rfl
  · cases h
    rw [h2]
    rfl
  · cases h
    rw [h3]
    rfl
  · cases h
    rw [h4]
    rfl
  · cases h
    rw [h5]
    rfl
  · cases h
    rw [h6]
    rfl
  · cases h
    rw [h7]
    rfl
  · cases h
    rw [h8]
    rfl
  · cases h
    rw [h9]
    rfl

theorem length_checksum (lib : BitcoinLib) (data : List UInt8) :
    ((lib.sha256 (lib.sha256 data).bytes).bytes.take 4).length = 4 := by
  rw [List.length_take, Block.size_eq]
  rfl

theorem encodeCheck_doge (hlib : texts.Lawful lib) {hash : List UInt8} (hlength : hash.length = 20) :
    ∃ c tail, texts.encodeCheck (scriptAddressPrefixDoge :: hash) = c :: tail
      ∧ (c = '9' ∨ c = 'A') ∧ tail.length = 33 := by
  rw [hlib.encodeCheck_eq, List.cons_append]
  refine base58Text_of_22 ?_
  rw [List.length_append, hlength, length_checksum]

theorem encodeCheck_inj (hlib : texts.Lawful lib) {a b : List UInt8} (hlength : a.length = b.length)
    (h : texts.encodeCheck a = texts.encodeCheck b) : a = b := by
  rw [hlib.encodeCheck_eq, hlib.encodeCheck_eq] at h
  exact (List.append_inj (base58Text_inj h) hlength).1

theorem fromStr_invalidPayload (hlib : texts.Lawful lib) (address : Address) :
    fromStr texts chars invalidPayload ≠ .ok address := by
  intro h
  obtain ⟨e, he⟩ := decode_error_of_mem chars (show 'i' ∈ invalidPayload from List.mem_cons_self)
    (by decide)
  rw [fromStr_of_none he (by decide)] at h
  obtain ⟨version, hash, hread, -⟩ := fromBase58_eq_ok h
  have hwritten := hlib.encodeCheck_decodeCheck _ _ hread
  rw [hlib.encodeCheck_eq] at hwritten
  have hmem : 'i' ∈ invalidPayload ∧ 'l' ∈ invalidPayload := by decide
  rw [← hwritten] at hmem
  exact absurd (mem_base58Text 'l' hmem.2) (by decide)

theorem doge_first (hlib : texts.Lawful lib) {s : Text}
    (h : fromStr texts chars s = .ok address) {hash : List UInt8} (hlength : hash.length = 20)
    (hs : s = texts.encodeCheck (scriptAddressPrefixDoge :: hash)) :
    fromBase58 texts s = .ok address := by
  obtain ⟨c, tail, htext, hc, htail⟩ := encodeCheck_doge hlib hlength
  rw [← hs] at htext
  rcases fromStr_eq_ok h with hdecode | ⟨-, hsegwit | hbase58⟩
  · have hlong := length_of_decode hdecode
    rw [htext, List.length_cons, htail] at hlong
    omega
  · obtain ⟨network, hnetwork, -⟩ := hsegwit
    obtain ⟨hlower, -, -⟩ := bech32Network_eq hnetwork
    -- the prefix begins with the first character
    obtain ⟨rest, hrest⟩ : ∃ rest, findBech32Prefix s ++ rest = c :: tail := by
      rcases findBech32Prefix_cases s with ⟨-, heq⟩ | ⟨data, hdata, -⟩
      · exact ⟨[], by rw [heq, List.append_nil, htext]⟩
      · exact ⟨'1' :: data, by rw [← hdata, htext]⟩
    generalize findBech32Prefix s = hrp at hlower hrest
    cases hrp with
    | nil => cases network with
      | bitcoinTestnet => cases hlower
      | litecoin => cases hlower
      | _ => cases hlower
    | cons c' hrp =>
      rw [List.cons_append] at hrest
      obtain ⟨rfl, -⟩ := List.cons.inj hrest
      have hfirst : c'.toLower = 'b' ∨ c'.toLower = 't' ∨ c'.toLower = 'l' := by
        cases network with
        | bitcoinTestnet => exact .inr (.inl (List.cons.inj hlower).1)
        | litecoin => exact .inr (.inr (List.cons.inj hlower).1)
        | _ => exact .inl (List.cons.inj hlower).1
      rcases hc with rfl | rfl
      · exact absurd hfirst (by decide)
      · exact absurd hfirst (by decide)
  · exact hbase58.2

/-- **Which texts are written as they can be read again.** All that are read, on every network
and of every kind, but the script addresses of Dogecoin: these have a version byte in the one
table and no text in the other. -/
theorem display_fromStr_iff (hlib : texts.Lawful lib) (chars : CharCase) {s : Text}
    {address : Address} (h : fromStr texts chars s = .ok address) :
    (∃ t address', display lib texts address = .ok t ∧ fromStr texts chars t = .ok address'
      ∧ address'.network = address.network
      ∧ address'.scriptPubkey lib = address.scriptPubkey lib)
    ↔ ¬∃ hash, hash.length = 20
        ∧ s = texts.encodeCheck (scriptAddressPrefixDoge :: hash) := by
  constructor
  · intro hround hdoge
    obtain ⟨hash, hlength, hs⟩ := hdoge
    obtain ⟨version, hash', hread, hlength', hversion⟩ :=
      fromBase58_eq_ok (doge_first hlib h hlength hs)
    have hwritten := hlib.encodeCheck_decodeCheck _ _ hread
    rw [hs] at hwritten
    have hsame := encodeCheck_inj hlib (by rw [List.length_cons, List.length_cons, hlength,
      hlength']) hwritten
    obtain ⟨rfl, rfl⟩ := List.cons.inj hsame
    obtain rfl : (⟨.p2sh hash', .dogecoin⟩ : Address) = address := Option.some.inj hversion
    obtain ⟨t, address', ht, hagain, -⟩ := hround
    obtain rfl : invalidPayload = t := Outcome.ok.inj ht
    exact fromStr_invalidPayload hlib address' hagain
  · intro hdoge
    have hsame : ∀ {t : Text}, display lib texts address = .ok t →
        fromStr texts chars t = .ok address → ∃ t address', display lib texts address = .ok t
          ∧ fromStr texts chars t = .ok address' ∧ address'.network = address.network
          ∧ address'.scriptPubkey lib = address.scriptPubkey lib :=
      fun ht hagain => ⟨_, address, ht, hagain, rfl, rfl⟩
    rcases fromStr_eq_ok h with hdecode | ⟨-, hsegwit | hbase58⟩
    · obtain ⟨t, ht, hagain⟩ := fromStr_of_decode hlib hdecode
      exact hsame ht hagain
    · obtain ⟨network, hnetwork, hread⟩ := hsegwit
      obtain ⟨t, ht, hagain⟩ := fromStr_of_segwit hlib hnetwork hread
      exact hsame ht hagain
    · obtain ⟨version, hash, hread, hlength, hversion⟩ := fromBase58_eq_ok hbase58.2
      have hwritten := hlib.encodeCheck_decodeCheck _ _ hread
      have hne : version ≠ scriptAddressPrefixDoge := by
        intro heq
        rw [heq] at hwritten
        exact hdoge ⟨hash, hlength, hwritten.symm⟩
      have hdisplay : display lib texts address = .ok (texts.encodeCheck (version :: hash)) :=
        display_ofVersion hversion hne
      rw [hwritten] at hdisplay
      exact hsame hdisplay h

end

def zeroHash : List UInt8 :=
  [201, 2, 50, 88, 107, 128, 31, 149, 88, 167, 111, 47, 150, 62, 204, 216, 49, 217, 254, 103, 117,
   228, 200, 241, 68, 107, 35, 49, 170, 33, 50, 242]

def dogeHash : List UInt8 :=
  [55, 46, 174, 52, 135, 41, 170, 51, 118, 149, 38, 49, 72, 140, 104, 214, 245, 51, 140, 200, 215,
   148, 128, 92, 177, 18, 85, 226, 183, 179, 211, 171]

def zerosSha256 (data : List UInt8) : Block 32 :=
  Block.ofBytes 32 (
    if data = pubkeyAddressPrefixBtc :: List.replicate 20 0 then zeroHash
    else if data = zeroHash then
      [148, 160, 9, 17, 196, 218, 39, 249, 39, 23, 39, 255, 167, 161, 77, 141, 85, 136, 252, 15,
       255, 153, 100, 52, 14, 196, 6, 95, 56, 126, 98, 43]
    else if data = scriptAddressPrefixDoge :: List.replicate 20 0 then dogeHash
    else if data = dogeHash then
      [174, 109, 188, 232, 40, 90, 155, 146, 158, 30, 184, 47, 50, 191, 164, 183, 114, 3, 178,
       113, 216, 23, 171, 208, 120, 146, 116, 43, 33, 137, 137, 113]
    else [])

def zerosLib : BitcoinLib := { BitcoinLib.sample with sha256 := zerosSha256 }

def zerosText (data : List UInt8) : Text :=
  base58Text (data ++ (zerosSha256 (zerosSha256 data).bytes).bytes.take 4)

def zerosTexts : TextLib where
  encodeCheck := zerosText
  decodeCheck s :=
    if s = zerosText (pubkeyAddressPrefixBtc :: List.replicate 20 0) then
      .ok (pubkeyAddressPrefixBtc :: List.replicate 20 0)
    else if s = zerosText (scriptAddressPrefixDoge :: List.replicate 20 0) then
      .ok (scriptAddressPrefixDoge :: List.replicate 20 0)
    else .error "invalid"
  segwitDecode _ := .error "invalid"
  segwitEncodeLower hrp _ _ := hrp.map Char.toLower ++ ['1']
  checkWitnessProgram _ _ := .ok ()

theorem zerosTexts_lawful : zerosTexts.Lawful zerosLib where
  encodeCheck_eq _ := rfl
  encodeCheck_decodeCheck := by
    intro s data h
    change (if _ then _ else if _ then _ else _) = _ at h
    split at h
    · rename_i hs
      cases h
      exact hs.symm
    · split at h
      · rename_i hs
        cases h
        exact hs.symm
      · cases h
  segwitEncodeLower_eq _ _ _ := ⟨[], rfl, List.not_mem_nil⟩
  segwitEncodeLower_segwitDecode _ _ _ _ h := by cases h
  segwitDecode_toLower _ _ _ _ h := by cases h

def zerosAddress : Text :=
  ['1', '1', '1', '1', '1', '1', '1', '1', '1', '1', '1', '1', '1', '1', '1', '1', '1', '1', '1',
   '1', '1', '4', 'o', 'L', 'v', 'T', '2']

def zerosDoge : Text :=
  ['9', 'r', 'S', 'G', 'f', 'P', 'Z', 'L', 'c', 'y', 'C', 'G', 'z', 'Y', '4', 'u', 'Y', 'E', 'L',
   '1', 'f', 'k', 'z', 'J', 'r', '6', 'f', 'k', 'i', 'c', 'S', '2', 'r', 's']

theorem display_fromStr_zeros :
    (∃ t address', display zerosLib zerosTexts ⟨.p2pkh (List.replicate 20 0), .bitcoin⟩ = .ok t
      ∧ fromStr zerosTexts CashAddrCodec.asciiCase t = .ok address' ∧ address'.network = .bitcoin
      ∧ address'.scriptPubkey zerosLib
        = Address.scriptPubkey zerosLib ⟨.p2pkh (List.replicate 20 0), .bitcoin⟩)
    ↔ ¬∃ hash, hash.length = 20
        ∧ zerosAddress = zerosTexts.encodeCheck (scriptAddressPrefixDoge :: hash) :=
  display_fromStr_iff zerosTexts_lawful CashAddrCodec.asciiCase (by decide)

/-- **Read and not written**: a script address of Dogecoin. -/
theorem display_zerosDoge :
    fromStr zerosTexts CashAddrCodec.asciiCase zerosDoge
        = .ok ⟨.p2sh (List.replicate 20 0), .dogecoin⟩
      ∧ display zerosLib zerosTexts ⟨.p2sh (List.replicate 20 0), .dogecoin⟩ = .ok invalidPayload
      ∧ ∃ e, fromStr zerosTexts CashAddrCodec.asciiCase invalidPayload = .error e :=
  ⟨by decide, rfl, .addressError "invalid base58 check", by decide⟩

end Address

end Keystone3.Bitcoin
