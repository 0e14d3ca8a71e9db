import Keystone3.Bytes.Cbc
import Keystone3.Usb.Codec

/-!
# Receiving a file

The firmware and the NFT picture come over the internal protocol in three kinds of
messages: Info opens a transfer, Content brings the next piece of the file, Complete
ends it. The two services share their globals; what differs is that the pieces of a
firmware are enciphered, and what is done with the complete file.

`FileTrans` is these globals and the files.
-/

namespace Keystone3

open Bytes (Block ofLe)

def MAX_FILE_SIZE : Nat := 8 * 1024 * 1024

def MAX_FILE_NAME_LENGTH : Nat := 32

def LOW_BATTERY_PERCENT : Nat := 40

def TYPE_GENERAL_RESULT_ACK : UInt8 := 0xFF

abbrev FileName : Type := List UInt8

def firmwareName : FileName := [107, 101, 121, 115, 116, 111, 110, 101, 51, 46, 98, 105, 110]

def nftName : FileName := [110, 102, 116, 46, 98, 105, 110]

/-- `"1:"`, the drive the files are put on. -/
def drive : FileName := [49, 58]

structure FileTransInfo where
  fileName : FileName
  fileSize : Nat
  md5 : Block 16
  iv : Block 16
  signature : Block 64

/-- `CLEAR_OBJECT(g_fileTransInfo)`. -/
def FileTransInfo.cleared : FileTransInfo := ⟨[], 0, Block.zero 16, Block.zero 16, Block.zero 64⟩

/-- The globals of the file services and the files. `md5Ctx` is what `g_md5Ctx` was fed
with since it was initialised, `offset` is `g_fileTransCtrl.offset`, and `timer` says
that `g_fileTransTimeOutTimer` was made; `parserIv` and `sharedKey` are what
`DataDecrypt` uses. -/
structure FileTrans where
  isNftFile : Bool
  isReceivingFile : Bool
  info : FileTransInfo
  offset : Nat
  timer : Bool
  md5Ctx : List UInt8
  parserIv : Block 16
  sharedKey : Block 32
  nftBinValid : Bool
  files : FileName → Option (List UInt8)

/-- The functions the handlers call that are not of this firmware's own logic. -/
structure FileEnv where
  md5 : List UInt8 → Block 16
  sha256 : List UInt8 → Block 32
  k1VerifySignature : Block 64 → Block 32 → Bool
  aes : Block 32 → Bytes.Cbc.Cipher

/-- What `FatfsFileCreate` makes of the file: an empty one, or it fails and leaves
something. -/
inductive CreateReply where
  | created
  | failed (left : Option (List UInt8))
deriving DecidableEq

/-- What `FatfsFileAppend` does: the file cannot be opened, or the first `written` bytes
are appended, and success is reported or not. A full volume takes fewer bytes than it
was given without an error. -/
inductive AppendReply where
  | openFailed
  | wrote (written : Nat) (ok : Bool)

/-- What the device answers while an Info message is handled. -/
structure InfoAnswers where
  walletAmount : Nat
  loggedOut : Bool
  displayPercent : Nat
  create : CreateReply
  timerNew : Bool

/-- The head and the TLVs of a reply; `none` is no reply. -/
abbrev FileReply : Type := Option (FrameHead × List Tlv)

def replyHead (head : FrameHead) : FrameHead :=
  ⟨0, 0, head.packetIndex, head.serviceId, head.commandId, 0, 0⟩

def setFile (files : FileName → Option (List UInt8)) (path : FileName)
    (content : Option (List UInt8)) : FileName → Option (List UInt8) :=
  fun p => if p = path then content else files p

def fatfsFileCreate (files : FileName → Option (List UInt8)) (path : FileName) :
    CreateReply → FileName → Option (List UInt8)
  | .created => setFile files path (some [])
  | .failed left => setFile files path left

/-- The files, and whether it reports success. -/
def fatfsFileAppend (files : FileName → Option (List UInt8)) (path : FileName)
    (data : List UInt8) : AppendReply → (FileName → Option (List UInt8)) × Bool
  | .openFailed => (files, false)
  | .wrote written ok =>
    (setFile files path (some ((files path).getD [] ++ data.take written)), ok)

def fatfsFileDelete (files : FileName → Option (List UInt8)) (path : FileName)
    (deleted : Bool) : FileName → Option (List UInt8) :=
  if deleted then setFile files path none else files

/-- The whole blocks are deciphered, from the same IV every time, and what
is behind them stays. -/
def dataDecrypt (env : FileEnv) (key : Block 32) (iv : Block 16) (data : List UInt8) :
    List UInt8 :=
  let n := data.length / 16
  let blocks : Block (16 * n) := ⟨data.take (16 * n), by
    rw [List.length_take]
    exact Nat.min_eq_left (Nat.mul_div_le data.length 16)⟩
  (Bytes.Cbc.decryptBlocks (env.aes key) n iv blocks).1.bytes ++ data.drop (16 * n)

inductive InfoParse where
  | ok
  | null
  | assertFailed
deriving DecidableEq

/-- The name has to be all of the TLV but its terminator. -/
def validateAndSetFileName (info : FileTransInfo) (t : Tlv) : FileTransInfo × InfoParse :=
  let name := t.contents.takeWhile (· ≠ 0)
  let pValueLength := min name.length MAX_FILE_NAME_LENGTH
  if pValueLength + 1 ≠ t.length.toNat then (info, .assertFailed)
  else if pValueLength ≥ MAX_FILE_NAME_LENGTH ∨ t.length.toNat > MAX_FILE_NAME_LENGTH then
    (info, .null)
  else if name ≠ firmwareName ∧ name ≠ nftName then (info, .null)
  else ({ info with fileName := drive ++ name }, .ok)

def setInfoTlv (info : FileTransInfo) (t : Tlv) : FileTransInfo × InfoParse :=
  if t.type = 1 then validateAndSetFileName info t
  else if t.type = 2 then
    if t.length ≠ 4 then (info, .null)
    else ({ info with fileSize := ofLe t.contents }, .ok)
  else if t.type = 3 then
    if t.length ≠ 16 then (info, .null)
    else ({ info with md5 := Block.ofBytes 16 t.contents }, .ok)
  else if t.type = 4 then
    if t.length ≠ 64 then (info, .null)
    else ({ info with signature := Block.ofBytes 64 t.contents }, .ok)
  else if t.type = 5 then
    if t.length ≠ 16 then (info, .null)
    else ({ info with iv := Block.ofBytes 16 t.contents }, .ok)
  else (info, .ok)

def readInfoTlvs : FileTransInfo → List Tlv → FileTransInfo × InfoParse
  | info, [] => (info, .ok)
  | info, t :: tlvArray =>
    match setInfoTlv info t with
    | (info, .ok) => readInfoTlvs info tlvArray
    | (info, result) => (info, result)

def readInfo (tlvData : List UInt8) : FileTransInfo × InfoParse :=
  readInfoTlvs .cleared (getTlvFromData 5 tlvData)

/-- `k1_verify_signature` over the hash of the digest. -/
def signatureValid (env : FileEnv) (info : FileTransInfo) : Bool :=
  env.k1VerifySignature info.signature (env.sha256 info.md5.bytes)

def infoStatus (env : FileEnv) (info : FileTransInfo) (ans : InfoAnswers) : Nat :=
  if info.fileName = [] ∨ info.fileSize = 0 ∨ info.fileSize ≥ MAX_FILE_SIZE then 4
  else if !signatureValid env info then 3
  else if ans.loggedOut ∧ ans.walletAmount ≠ 0 then 2
  else if ans.displayPercent < LOW_BATTERY_PERCENT then 1
  else if ans.create ≠ .created then 5
  else 0

def infoAccepted (env : FileEnv) (tlvData : List UInt8) (ans : InfoAnswers) : Bool :=
  (readInfo tlvData).2 = .ok && infoStatus env (readInfo tlvData).1 ans = 0

def infoRefused (env : FileEnv) (tlvData : List UInt8) (ans : InfoAnswers) : Bool :=
  (readInfo tlvData).2 ≠ .assertFailed && !infoAccepted env tlvData ans

/-- The globals are cleared before anything is checked. -/
def serviceFileTransInfo (env : FileEnv) (s : FileTrans) (head : FrameHead)
    (tlvData : List UInt8) (ans : InfoAnswers) : Option (FileTrans × FileReply) :=
  let (info, result) := readInfo tlvData
  let s := { s with info := info, offset := 0 }
  match result with
  | .assertFailed => none
  | .null => some (s, none)
  | .ok =>
    let s := { s with parserIv := info.iv }
    let value := infoStatus env info ans
    let s :=
      -- the digest is started before the file is made
      if value = 5 ∨ value = 0 then
        { s with md5Ctx := [], files := fatfsFileCreate s.files info.fileName ans.create }
      else s
    let s :=
      if value = 0 then { s with timer := s.timer || ans.timerNew, isReceivingFile := true }
      else s
    some (s, some (replyHead head, [⟨TYPE_GENERAL_RESULT_ACK, 4, none, UInt32.ofNat value⟩]))

def serviceNftFileTransInfo (env : FileEnv) (s : FileTrans) (head : FrameHead)
    (tlvData : List UInt8) (ans : InfoAnswers) : Option (FileTrans × FileReply) :=
  serviceFileTransInfo env { s with isNftFile := true, nftBinValid := false } head tlvData ans

/-- The TLVs of a Content message: offset and data, the last of each. `none` is an offset
of the wrong length. -/
def readContentTlvs : Option Nat × Option (List UInt8) → List Tlv →
    Option (Option Nat × Option (List UInt8))
  | found, [] => some found
  | (offset, fileData), t :: tlvArray =>
    if t.type = 1 then
      if t.length ≠ 4 then none
      else readContentTlvs (some (ofLe t.contents), fileData) tlvArray
    else if t.type = 2 then readContentTlvs (offset, some t.contents) tlvArray
    else readContentTlvs (offset, fileData) tlvArray

/-- A Content message's offset and data, when both are there. `UINT32_MAX` stands for an
absent offset. -/
def readContent (tlvData : List UInt8) : Option (Nat × List UInt8) :=
  match readContentTlvs (none, none) (getTlvFromData 2 tlvData) with
  | some (some offset, some fileData) =>
    if offset = 2 ^ 32 - 1 ∨ fileData = [] then none else some (offset, fileData)
  | _ => none

def endOf (offset fileDataSize : Nat) : Nat := (offset + fileDataSize) % 2 ^ 32

/-- What a Content message stores, when it passes the checks: the piece itself for an NFT,
else deciphered, and without the cipher's padding behind the end of the file. -/
def fileContent (env : FileEnv) (s : FileTrans) (tlvData : List UInt8) : Option (List UInt8) :=
  if !s.isReceivingFile then none
  else if !s.timer then none
  else
    match readContent tlvData with
    | none => none
    | some (offset, fileData) =>
      let fileDataSize := fileData.length
      let isTail := endOf offset fileDataSize > s.info.fileSize
      if offset > s.info.fileSize ∨ fileDataSize > s.info.fileSize then none
      else if isTail ∧ endOf offset fileDataSize - s.info.fileSize > 16 then none
      else if s.offset ≠ offset then none
      else if s.isNftFile then some fileData
      else
        let plain := dataDecrypt env s.sharedKey s.parserIv fileData
        some (if isTail then plain.take (s.info.fileSize - offset) else plain)

/-- `GetFileContent`, the answer to a Content message: the new offset. -/
def getFileContent (s : FileTrans) (head : FrameHead) : FrameHead × List Tlv :=
  (⟨0, 0, head.packetIndex, if s.isNftFile then 3 else 2, 2, 0, 0⟩,
    [⟨3, 4, none, UInt32.ofNat s.offset⟩])

/-- `ServiceFileTransContent`, of both services. The offset moves before the piece is
written, and the digest after. -/
def serviceFileTransContent (env : FileEnv) (s : FileTrans) (head : FrameHead)
    (tlvData : List UInt8) (append : AppendReply) : FileTrans × FileReply :=
  match fileContent env s tlvData with
  | none => (s, none)
  | some data =>
    let s := { s with offset := endOf s.offset data.length }
    let (files, ok) := fatfsFileAppend s.files s.info.fileName data append
    let s := { s with files := files }
    if !ok then (s, none)
    else
      let s := { s with md5Ctx := s.md5Ctx ++ data }
      (s, some (getFileContent s head))

/-- The checks of a Complete message: the digest of what was received is the announced
one, and that is signed. -/
def completePasses (env : FileEnv) (s : FileTrans) : Bool :=
  env.md5 s.md5Ctx == s.info.md5 && signatureValid env s.info

def rebooted (s : FileTrans) : FileTrans where
  isNftFile := false
  isReceivingFile := false
  info := .cleared
  offset := 0
  timer := false
  md5Ctx := []
  parserIv := Block.zero 16
  sharedKey := Block.zero 32
  nftBinValid := s.nftBinValid
  files := s.files

/-- A file that passes is installed by the reboot; for one
that does not, the device deletes it and stops. -/
def serviceFileTransComplete (env : FileEnv) (s : FileTrans) : Option (FileTrans × FileReply) :=
  if !s.isReceivingFile then some (s, none)
  else if !s.timer then none
  else if !completePasses env s then none
  else some (rebooted s, none)

/-- A file that passes is written to its place in the
flash, and `1:nft.bin` is removed unless it could not be read. -/
def serviceNftFileTransComplete (env : FileEnv) (s : FileTrans) (head : FrameHead)
    (unlinked : Bool) : Option (FileTrans × FileReply) :=
  if !s.isReceivingFile then some (s, none)
  else if !s.timer then none
  else if !completePasses env s then none
  else
    some
      ({ s with
          isReceivingFile := false
          isNftFile := false
          nftBinValid := true
          files := fatfsFileDelete s.files (drive ++ nftName) unlinked },
        some (replyHead head, []))

def fileTransTimeOutTimerFunc (s : FileTrans) (deleted : Bool) : FileTrans :=
  { s with
    isReceivingFile := false
    isNftFile := false
    files := fatfsFileDelete s.files s.info.fileName deleted }

end Keystone3
