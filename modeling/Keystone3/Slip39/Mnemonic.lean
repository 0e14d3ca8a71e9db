import Keystone3.Slip39.Checksum
import Keystone3.Slip39.Secret
import Keystone3.Slip39.Wordlist

/-!
# Mnemonics from a master secret, and back

`generateMnemonics` enciphers a master secret, shares it, and writes every share as
words: four that say what the share is, the value, and three of checksum.
`slip39GetMasterSecret` goes the other way with a list of mnemonics. It takes the words
apart, sorts the shares into groups, recovers what each group shares, and from these the
cipher text.

What the locals of `Slip39GetMasterSecret` hold before they are written is `Stack`.
-/

namespace Keystone3.Slip39

variable (sha : Sha256)

/-- `Slip39Shared_t`, with `value` cut to `valueLength`. -/
structure Slip39Shared where
  identifier : Nat
  extendableBackupFlag : Bool
  iteration : Nat
  groupIndex : Nat
  groupThreshold : Nat
  groupCount : Nat
  memberIndex : Nat
  memberThreshold : Nat
  value : List UInt8

/-- The four words `FormatShareMnemonic` writes before the value. -/
def formatMetadata (shared : Slip39Shared) : List Nat :=
  -- `- 1` in sixteen bits
  let gt := (shared.groupThreshold + 0xFFFF) &&& 0xF
  let gc := (shared.groupCount + 0xFFFF) &&& 0xF
  let mi := shared.memberIndex &&& 0xF
  let mt := (shared.memberThreshold + 0xFFFF) &&& 0xF
  [ (shared.identifier >>> 5) &&& 0x3FF,
    ((shared.identifier &&& 0x1F) <<< 5) ||| (shared.extendableBackupFlag.toNat <<< 4)
      ||| (shared.iteration &&& 0x0F),
    ((shared.groupIndex &&& 0xF) <<< 6) ||| ((gt &&& 0xF) <<< 2) ||| ((gc &&& 0xF) >>> 2),
    ((gc &&& 0xF) <<< 8) ||| ((mi &&& 0xF) <<< 4) ||| (mt &&& 0xF)]

/-- `destination_length - METADATA_LENGTH_WORDS`, in 32 bits. -/
def payloadRoom (destinationLength : Nat) : Nat :=
  if destinationLength < metadataLengthWords then destinationLength + 2 ^ 32 - metadataLengthWords
  else destinationLength - metadataLengthWords

/-- The words written. Without room for the value the
answer `-1` of `slip39_words_for_data` is taken for a number of words, and the
checksum goes over the last word before the value and what follows. -/
def formatShareMnemonic (shared : Slip39Shared) (destinationLength : Nat) : List Nat :=
  match slip39WordsForData shared.value (payloadRoom destinationLength) with
  | some words =>
    rs1024CreateChecksum (formatMetadata shared ++ words ++ [0, 0, 0]) shared.extendableBackupFlag
  | none =>
    rs1024CreateChecksum ((formatMetadata shared).take 3 ++ [0, 0, 0]) shared.extendableBackupFlag

structure GroupDesc where
  count : Nat
  threshold : Nat

/-- The loop over the groups in `GenerateMnemonics`. Every group shares the whole
secret, and its shares go over those of the group before. -/
def splitGroups (random : Nat → UInt8) (enMasterSecret : List UInt8) (groups : List GroupDesc)
    (shard : (groupIndex memberIndex memberThreshold : Nat) → List UInt8 → Slip39Shared) :
    List Nat → Nat → List Slip39Shared → Except Failure (List Slip39Shared)
  | [], _, shards => .ok shards
  | i :: is, position, shards =>
    let group := groups.getD i ⟨0, 0⟩
    match splitSecret sha random position group.count group.threshold enMasterSecret with
    | .error e => .error e
    | .ok r =>
      let written := r.1.mapIdx fun j value => shard i j group.threshold value
      splitGroups random enMasterSecret groups shard is r.2 (written ++ shards.drop written.length)

def formatShards : List Slip39Shared → Nat → List Nat
  | [], _ => []
  | shard :: shards, sharesBufferLen =>
    let words := formatShareMnemonic shard sharesBufferLen
    words ++ formatShards shards ((sharesBufferLen + 2 ^ 16 - words.length) % 2 ^ 16)

/-- What it writes to `ems` and to `sharesBuffer`. -/
def generateMnemonics (random : Nat → UInt8) (masterSecret : List UInt8) (iterationExponent : Nat)
    (extendableBackupFlag : Bool) (identifier : Nat) (passPhrase : List UInt8)
    (groupCount groupThreshold : Nat) (groups : List GroupDesc) (sharesBufferLen : Nat) :
    Except Failure (List UInt8 × List Nat) :=
  if masterSecret.length % 2 = 1 then .error (.code slip39InvalidMemberThreshold)
  else if groupThreshold = 0 ∨ groupCount < groupThreshold ∨ 16 < groupCount then
    .error (.code slip39InvalidGroupThreshold)
  else if masterSecret.length * 8 < 128 ∨ 256 < masterSecret.length * 8 then
    .error (.code slip39InvalidSecretLength)
  else
    let enMasterSecret := masterSecretEncrypt sha masterSecret iterationExponent
      extendableBackupFlag identifier passPhrase
    let shard groupIndex memberIndex memberThreshold value : Slip39Shared :=
      { identifier, extendableBackupFlag, iteration := iterationExponent, groupIndex,
        groupThreshold, groupCount, memberIndex, memberThreshold, value }
    match splitGroups sha random enMasterSecret groups shard (List.range groupCount) 0 [] with
    | .error e => .error e
    | .ok shards =>
      .ok (enMasterSecret, formatShards (shards.take (groups.getD 0 ⟨0, 0⟩).count) sharesBufferLen)

/-- The loop of `GetSlip39MnemonicsWords` that takes the mnemonics out of the
buffer: the text of mnemonic `i`. -/
def mnemonicOfBuffer (sharesBuffer : List Nat) (wordCnt i : Nat) : List UInt8 :=
  slip39StringsForWords ((sharesBuffer.drop (i * wordCnt)).take wordCnt)

def decodeMnemonics (wordsIndex : List Nat) : Except Int Slip39Shared :=
  let w (i : Nat) := wordsIndex.getD i 0
  let extendableBackupFlag := (w 1 >>> 4) &&& 0x01 == 1
  if !rs1024VerifyChecksum wordsIndex extendableBackupFlag then
    .error slip39InvalidMnemonicChecksum
  else
    let groupThreshold := ((w 2 >>> 2) &&& 0xF) + 1
    -- the field is a byte
    let groupCount := ((((w 2 &&& 0x3) <<< 8) ||| ((w 3 >>> 8) &&& 0x3)) + 1) % 256
    if groupCount < groupThreshold then .error slip39InvalidGroupThreshold
    else
      match slip39DataForWords ((wordsIndex.drop 4).take (wordsIndex.length - 7)) 32 with
      | .error e => .error e
      | .ok value =>
        .ok {
          identifier := ((w 0 <<< 5) ||| (w 1 >>> 5)) % 65536
          extendableBackupFlag
          iteration := w 1 &&& 0x0F
          groupIndex := (w 2 >>> 6) % 256
          groupThreshold
          groupCount
          memberIndex := (w 3 >>> 4) &&& 0xF
          memberThreshold := (w 3 &&& 0xF) + 1
          value }

def decodeAll : List (List Nat) → Except Int (List Slip39Shared)
  | [] => .ok []
  | row :: rows =>
    match decodeMnemonics row with
    | .error e => .error e
    | .ok shard =>
      match decodeAll rows with
      | .error e => .error e
      | .ok shards => .ok (shard :: shards)

/-- What the locals of `Slip39GetMasterSecret` hold before they are written. -/
structure Stack where
  /-- Word `k` of row `i` of `wordsIndexBuf`. -/
  wordsIndexBuf : Nat → Nat → Nat
  /-- `m_share_index` and what `m_share` points to. -/
  mShare : List (UInt8 × List UInt8)

def wordsRow (stack : Stack) (wordsCount i : Nat) (text : List UInt8) : List Nat :=
  let words := (slip39WordsForStrings text wordsCount).2
  (List.range wordsCount).map fun k => words.getD k (stack.wordsIndexBuf i k)

def groupShards (shards : List Slip39Shared) (i : Nat) : List Slip39Shared :=
  shards.filter fun s => s.groupIndex == i

/-- `groupIndexMember[i] != 0`. -/
def isPresent (shards : List Slip39Shared) (i : Nat) : Bool := shards.any fun s => s.groupIndex == i

def groupsPresent (shards : List Slip39Shared) : List Nat :=
  (List.range 16).filter (isPresent shards)

def memberThresholdsAgree (shards : List Slip39Shared) : Bool :=
  shards.all fun s => shards.all fun s' =>
    s.groupIndex != s'.groupIndex || s.memberThreshold == s'.memberThreshold

def memberPoint (s : Slip39Shared) : UInt8 × List UInt8 := (UInt8.ofNat s.memberIndex, s.value)

/-- `groupMemberThreshold`, as the loop over the members leaves it. -/
def groupMemberThreshold (members : List Slip39Shared) : Nat :=
  (members.getLast?.map (·.memberThreshold)).getD 0

/-- The body of the loop over the groups: what a group shares. `slots` is `m_share`
with `m_share_index`, the members first. -/
def recoverGroup (valueLength : Nat) (members : List Slip39Shared)
    (slots : List (UInt8 × List UInt8)) : Except Int (List UInt8) :=
  if ¬ (members.map (·.memberIndex)).Nodup then .error (-8)
  else
    match recoverSecret sha (groupMemberThreshold members) valueLength slots with
    | .error _ => .error (-9)
    | .ok gsv => if members.length < groupMemberThreshold members then .error (-10) else .ok gsv

/-- The loop over the groups: what each of those present shares. The slots are
not cleared from one group to the next. -/
def recoverGroups (valueLength : Nat) (shards : List Slip39Shared) :
    List Nat → List (UInt8 × List UInt8) → Except Int (List (UInt8 × List UInt8))
  | [], _ => .ok []
  | i :: is, slots =>
    if isPresent shards i then
      let members := groupShards shards i
      let slots := members.map memberPoint ++ slots.drop members.length
      match recoverGroup sha valueLength members slots with
      | .error e => .error e
      | .ok gsv =>
        match recoverGroups valueLength shards is slots with
        | .error e => .error e
        | .ok shares => .ok ((UInt8.ofNat i, gsv) :: shares)
    else recoverGroups valueLength shards is slots

/-- What `Slip39GetMasterSecret` gives back when it succeeds. -/
structure Recovered where
  ems : List UInt8
  masterSecret : List UInt8
  id : Nat
  eb : Bool
  ie : Nat
deriving DecidableEq

/-- The part of `Slip39GetMasterSecret` after the mnemonics are decoded. -/
def combineShards (stack : Stack) (shards : List Slip39Shared) : Except Int Recovered :=
  match shards with
  -- `shards[0]` is not written, which no caller lets happen
  | [] => .error slip39InsufficientSpace
  | first :: _ =>
    let valueLength := first.value.length
    if (groupsPresent shards).length < first.groupThreshold then .error slip39InsufficientSpace
    else if !memberThresholdsAgree shards then .error (-7)
    else
      match recoverGroups sha valueLength shards (List.range 16) stack.mShare with
      | .error e => .error e
      | .ok shares =>
        match recoverSecret sha shares.length valueLength shares with
        | .error _ => .error (-12)
        | .ok gsv =>
          .ok {
            ems := gsv
            masterSecret :=
              -- the answer of `_decrypt` is not looked at
              match decrypt sha gsv [] first.iteration first.extendableBackupFlag
                first.identifier with
              | .ok ms => ms
              | .error _ => gsv
            id := first.identifier
            eb := first.extendableBackupFlag
            ie := first.iteration }

/-- `Slip39GetMasterSecret`; `threshold` is the number of texts. -/
def slip39GetMasterSecret (stack : Stack) (wordsCount : Nat) (wordsList : List (List UInt8)) :
    Except Int Recovered :=
  match decodeAll (wordsList.mapIdx (wordsRow stack wordsCount)) with
  | .error e => .error e
  | .ok shards => combineShards sha stack shards

end Keystone3.Slip39
