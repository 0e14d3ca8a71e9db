import Keystone3.Bytes.Numeral
import Keystone3.Bytes.Utf8
import Keystone3.Ton.Cell

/-!
# Messages of a wallet

The body that a wallet signs is a cell with a message in each reference. A body that
cannot be parsed is dropped (`TransferMessage.parse`).
-/

namespace Keystone3.Ton

open Bytes (ofUtf8)
open Logic (Outcome)

abbrev Text : Type := List Char

structure TonLib where
  exotic : ExoticCheck
  /-- A number divided by another one as a float, as it is printed. -/
  quotientText : Nat → Nat → Text

def natText (n : Nat) : Text := Nat.toDigits 10 n

def hexNumberText (n : Nat) : Text := Nat.toDigits 16 n

def hexEncode (bytes : List UInt8) : Text := Bytes.hexText bytes

/-- `CRC_16_XMODEM`, one byte further. -/
def crc16Byte (crc : BitVec 16) (b : UInt8) : BitVec 16 :=
  (List.range 8).foldl (fun crc _ =>
    if crc.msb = true then (crc <<< 1) ^^^ 0x1021#16 else crc <<< 1)
    (crc ^^^ (BitVec.ofNat 16 b.toNat <<< 8))

def crc16 (bytes : List UInt8) : Nat := (bytes.foldl crc16Byte 0#16).toNat

def base64 (last : Char × Char) : List UInt8 → Text
  | a :: b :: c :: bytes =>
    let n := a.toNat * 65536 + b.toNat * 256 + c.toNat
    [digit (n / 262144), digit (n / 4096), digit (n / 64), digit n] ++ base64 last bytes
  | [a, b] =>
    let n := a.toNat * 1024 + b.toNat * 4
    [digit (n / 4096), digit (n / 64), digit n]
  | [a] => [digit (a.toNat / 4), digit (a.toNat * 16)]
  | [] => []
where
  /-- The digit of six bits. -/
  digit (n : Nat) : Char :=
    let d := n % 64
    if d < 26 then Char.ofNat (65 + d)
    else if d < 52 then Char.ofNat (97 + (d - 26))
    else if d < 62 then Char.ofNat (48 + (d - 52))
    else if d = 62 then last.1 else last.2

/-- `to_base64_src`, with the tag of the flags. -/
def TonAddress.source (tag : UInt8) (address : TonAddress) : List UInt8 :=
  let body := tag :: UInt8.ofNat address.workchain :: address.hashPart
  let crc := crc16 body
  body ++ [UInt8.ofNat (crc / 256), UInt8.ofNat crc]

/-- `to_base64_url_flags(true, false)`. -/
def TonAddress.toBase64Url (address : TonAddress) : Text := base64 ('-', '_') (address.source 0x51)

def TonAddress.toBase64Std (address : TonAddress) : Text := base64 ('+', '/') (address.source 0x11)

def loadUtf8 (n : Nat) : Load Text := do
  let bytes ← loadBytes n
  liftResult (Outcome.okOr (.cellParserError "Cell parser error: ") (ofUtf8 bytes))

def notAComment : TonCellError := .cellParserError "payload is not a comment"

def parseComment (cell : Cell) : Result Text :=
  cell.parseFully do
    let bits ← remainingBits
    if bits < 32 then fail notAComment
    else
      let op ← loadUint 32
      if op ≠ 0 then fail notAComment
      else
        let n ← remainingBytes
        let bytes ← loadBytes n
        liftResult (Outcome.okOr notAComment (ofUtf8 bytes))

structure JettonTransferMessage where
  queryId : Text
  destination : Text
  responseDestination : Option Text
  amount : Text
  customPayload : Option Text
  forwardTonAmount : Text
  forwardPayload : Option Text
  comment : Option Text

structure NFTTransferMessage where
  queryId : Text
  newOwnerAddress : Text
  responseAddress : Text
  customPayload : Option Text
  forwardTonAmount : Text
  forwardPayload : Option Text
  comment : Option Text

inductive Operation where
  | comment (text : Text)
  | jettonMessage (transfer : JettonTransferMessage)
  | nftMessage (transfer : NFTTransferMessage)
  | otherMessage (payload : Text)

structure InternalMessage where
  opCode : Text
  action : Option String
  operation : Operation

def JETTON_TRANSFER : Nat := 0xf8a7ea5

def NFT_TRANSFER : Nat := 0x5fcc3d14

def inferAction (opCode : Nat) : Option String :=
  if opCode = JETTON_TRANSFER then some "Jetton Transfer"
  else if opCode = NFT_TRANSFER then some "NFT Transfer"
  else none

def loadPayload (cell : Cell) (refIndex : Nat) : Load (Option Cell × Nat) := do
  let present ← loadBit
  if present = true then
    let child ← liftResult (cell.reference refIndex)
    pure (some child, refIndex + 1)
  else pure (none, refIndex)

def commentOf (payload : Option Cell) : Result (Option Text) :=
  match payload with
  | some child => Outcome.toOption (parseComment child)
  | none => pure none

/-- The response destination is kept if it is null. -/
def JettonTransferMessage.parse (cell : Cell) : Result JettonTransferMessage :=
  cell.parseFully do
    let _opCode ← loadUint 32
    let queryId ← loadUint 64
    let amount ← loadCoins
    let destination ← loadAddress
    let response ← loadAddress
    let (customPayload, refIndex) ← loadPayload cell 0
    let forwardTonAmount ← loadCoins
    let (forwardPayload, _) ← loadPayload cell refIndex
    let comment ← liftResult (commentOf forwardPayload)
    pure
      { queryId := natText queryId
        destination := destination.toBase64Url
        responseDestination :=
          if response = TonAddress.null then some (response.toBase64Url) else none
        amount := natText amount
        customPayload := customPayload.map fun child => hexEncode child.data
        forwardTonAmount := natText forwardTonAmount
        forwardPayload := forwardPayload.map fun child => hexEncode child.data
        comment }

def NFTTransferMessage.parse (cell : Cell) : Result NFTTransferMessage :=
  cell.parseFully do
    let _opCode ← loadUint 32
    let queryId ← loadUint 64
    let newOwner ← loadAddress
    let response ← loadAddress
    let (customPayload, refIndex) ← loadPayload cell 0
    let forwardTonAmount ← loadCoins
    let (forwardPayload, _) ← loadPayload cell refIndex
    let comment ← liftResult (commentOf forwardPayload)
    pure
      { queryId := natText queryId
        newOwnerAddress := newOwner.toBase64Url
        responseAddress := response.toBase64Url
        customPayload := customPayload.map fun child => hexEncode child.data
        forwardTonAmount := natText forwardTonAmount
        forwardPayload := forwardPayload.map fun child => hexEncode child.data
        comment }

def invalidOpCode (opCode : Nat) : TonCellError :=
  .internalError ("Invalid Op Code: " ++ String.ofList ((hexNumberText opCode).map Char.toUpper))

/-- `JettonMessage::parse`. -/
def parseJettonMessage (cell : Cell) : Result JettonTransferMessage :=
  cell.parse do
    let opCode ← loadUint 32
    if opCode = JETTON_TRANSFER then liftResult (JettonTransferMessage.parse cell)
    else fail (invalidOpCode opCode)

def parseNFTMessage (cell : Cell) : Result NFTTransferMessage :=
  cell.parse do
    let opCode ← loadUint 32
    if opCode = NFT_TRANSFER then liftResult (NFTTransferMessage.parse cell)
    else fail (invalidOpCode opCode)

def loadRest : Load Text := do
  let n ← remainingBytes
  loadUtf8 n

def commentTail : Cell → Result Text
  | .mk _ _ [] => .ok []
  | .mk _ _ (child :: _) => do
    let text ← child.parseFully loadRest
    let rest ← commentTail child
    pure (text ++ rest)

def InternalMessage.parse (cell : Cell) : Result InternalMessage :=
  cell.parse do
    let opCode ← loadUint 32
    if opCode = JETTON_TRANSFER then
      let transfer ← liftResult (parseJettonMessage cell)
      pure ⟨hexNumberText opCode, inferAction opCode, .jettonMessage transfer⟩
    else if opCode = NFT_TRANSFER then
      let transfer ← liftResult (parseNFTMessage cell)
      pure ⟨hexNumberText opCode, inferAction opCode, .nftMessage transfer⟩
    else if opCode = 0 then
      let comment ← loadRest
      let rest ← liftResult (commentTail cell)
      pure ⟨hexNumberText opCode, none, .comment (comment ++ rest)⟩
    else
      let n ← remainingBytes
      let payload ← loadBytes n
      pure ⟨hexNumberText opCode, inferAction opCode, .otherMessage (hexEncode payload)⟩

structure TransferMessage where
  ihrDisabled : Bool
  bounce : Bool
  bounced : Bool
  destAddr : Text
  destAddrLegacy : Text
  value : Text
  currencyColl : Bool
  ihrFees : Text
  fwdFees : Text
  stateInit : Option Text
  data : Option InternalMessage

/-- `CellBuilder::build`, of bits. -/
def buildCell (bits : List Bool) : Result Cell :=
  if 1023 < bits.length then
    .error (.cellBuilderError ("Cell builder error: Cell must contain at most 1023 bits, got "
      ++ toString bits.length))
  else
    let padding := (8 - bits.length % 8) % 8
    .ok (.mk (bytesOf ((bits.length + 7) / 8) (bits ++ List.replicate padding false))
      bits.length [])

def loadBody (cell : Cell) (refIndex : Nat) : Load (Option Cell) := do
  let referenced ← loadBit
  if referenced = true then
    let body ← liftResult (cell.reference refIndex)
    pure (some body)
  else
    let n ← remainingBits
    if 0 < n then
      let bits ← loadBits n
      let body ← liftResult (buildCell bits)
      pure (some body)
    else pure none

def dataOf (body : Option Cell) : Result (Option InternalMessage) :=
  match body with
  | none => pure none
  | some body => Outcome.toOption (InternalMessage.parse body)

section

variable (lib : TonLib)

def readTransfer (cell : Cell) : Result (TransferMessage × Option Cell) :=
  cell.parse do
    let _flag ← loadBit
    let ihrDisabled ← loadBit
    let bounce ← loadBit
    let bounced ← loadBit
    let _srcAddr ← loadAddress
    let addr ← loadAddress
    let coins ← loadCoins
    if 2 ^ 64 ≤ coins then fail (.internalError "Invalid value")
    else
      let currencyColl ← loadBit
      let ihrFees ← loadCoins
      let fwdFees ← loadCoins
      let _createdLt ← loadUint 64
      let _createdAt ← loadUint 32
      let (stateInit, refIndex) ← loadPayload cell 0
      let body ← loadBody cell refIndex
      let data ← liftResult (dataOf body)
      pure
        ({ ihrDisabled
           bounce
           bounced
           destAddr := addr.toBase64Url
           destAddrLegacy := addr.toBase64Std
           value := lib.quotientText coins (10 ^ 9) ++ " Ton".toList
           currencyColl
           ihrFees := natText ihrFees
           fwdFees := natText fwdFees
           stateInit := stateInit.map fun child => hexEncode child.data
           data }, body)

def TransferMessage.parse (cell : Cell) : Result TransferMessage := do
  let transfer ← readTransfer lib cell
  pure transfer.1

structure SigningMessage where
  walletId : Option Nat
  timeout : Nat
  seqNo : Nat
  messages : List TransferMessage

def tryLoad {α : Type} (load : Load α) : Load (Option α) := fun parser =>
  match load parser with
  | .ok (a, parser) => .ok (some a, parser)
  | .error _ => .ok (none, parser)
  | .halted => .halted

def unwrapLoad {α : Type} (load : Load α) : Load α := fun parser => Outcome.expect (load parser)

def SigningMessage.parse (cell : Cell) : Result SigningMessage :=
  cell.parse do
    let walletId ← tryLoad (loadUint 32)
    let timeout ← loadUint 32
    let seqNo ← loadUint 32
    let _order ← unwrapLoad (loadUint 8)
    let _sendMode ← unwrapLoad (loadUint 8)
    let messages ← liftResult (Outcome.collect (TransferMessage.parse lib) cell.references)
    pure { walletId, timeout, seqNo, messages }

variable {lib}

theorem spec_of_readTransfer {cell : Cell} {message : TransferMessage} {body : Option Cell}
    (h : readTransfer lib cell = .ok (message, body)) : dataOf body = .ok message.data ∧
      ∃ coins, message.value = lib.quotientText coins (10 ^ 9) ++ " Ton".toList := by
  obtain ⟨⟨result, s⟩, h, hresult⟩ := Outcome.bind_eq_ok.mp h
  cases hresult
  obtain ⟨_, _, -, h⟩ := bind_load_eq_ok.mp h
  obtain ⟨_, _, -, h⟩ := bind_load_eq_ok.mp h
  obtain ⟨_, _, -, h⟩ := bind_load_eq_ok.mp h
  obtain ⟨_, _, -, h⟩ := bind_load_eq_ok.mp h
  obtain ⟨_, _, -, h⟩ := bind_load_eq_ok.mp h
  obtain ⟨_, _, -, h⟩ := bind_load_eq_ok.mp h
  obtain ⟨coins, _, -, h⟩ := bind_load_eq_ok.mp h
  split_ifs at h with hcoins
  · cases h
  obtain ⟨_, _, -, h⟩ := bind_load_eq_ok.mp h
  obtain ⟨_, _, -, h⟩ := bind_load_eq_ok.mp h
  obtain ⟨_, _, -, h⟩ := bind_load_eq_ok.mp h
  obtain ⟨_, _, -, h⟩ := bind_load_eq_ok.mp h
  obtain ⟨_, _, -, h⟩ := bind_load_eq_ok.mp h
  obtain ⟨_, _, -, h⟩ := bind_load_eq_ok.mp h
  obtain ⟨body', _, -, h⟩ := bind_load_eq_ok.mp h
  obtain ⟨data, _, hdata, h⟩ := bind_load_eq_ok.mp h
  cases h
  exact ⟨(liftResult_eq_ok.mp hdata).1, coins, rfl⟩

theorem exists_readTransfer {cell : Cell} {message : TransferMessage}
    (h : TransferMessage.parse lib cell = .ok message) :
    ∃ body, readTransfer lib cell = .ok (message, body) := by
  obtain ⟨⟨_, body⟩, hread, hresult⟩ := Outcome.bind_eq_ok.mp h
  cases hresult
  exact ⟨body, hread⟩

theorem messages_of_parse {cell : Cell} {signingMessage : SigningMessage}
    (h : SigningMessage.parse lib cell = .ok signingMessage) :
    List.Forall₂ (fun reference message => TransferMessage.parse lib reference = .ok message)
      cell.references signingMessage.messages := by
  obtain ⟨⟨result, s⟩, hload, hresult⟩ := Outcome.bind_eq_ok.mp h
  cases hresult
  obtain ⟨_, _, -, hload⟩ := bind_load_eq_ok.mp hload
  obtain ⟨_, _, -, hload⟩ := bind_load_eq_ok.mp hload
  obtain ⟨_, _, -, hload⟩ := bind_load_eq_ok.mp hload
  obtain ⟨_, _, -, hload⟩ := bind_load_eq_ok.mp hload
  obtain ⟨_, _, -, hload⟩ := bind_load_eq_ok.mp hload
  obtain ⟨messages, _, hmessages, hload⟩ := bind_load_eq_ok.mp hload
  cases hload
  exact Outcome.collect_eq_ok.mp (liftResult_eq_ok.mp hmessages).1

end

end Keystone3.Ton
