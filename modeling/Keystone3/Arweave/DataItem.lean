import Keystone3.Bytes.Reader
import Keystone3.Bytes.Utf8

/-!
# Data items

The tags of a data item are an array of Avro: blocks of tags, each behind its
count, up to a count of zero. The bytes are signed and `Tags::deserialize` shows
what is in the first block. `deserialize_written` reads a block that has been
written, and `isArray_iff` says for which bytes there is nothing else.
-/

namespace Keystone3.Arweave

open Bytes (Block Reader toLe utf8 ofUtf8)
open Bytes.Reader (Reads Each)
open Logic (Outcome)
open Logic.Outcome (bind_eq_ok ok_bind)

abbrev Text : Type := List Char

/-- `ArweaveError`, less what is only raised elsewhere. -/
inductive ArweaveError where
  | parseTxError (reason : String)
  | notSupportedError
  | avroError (reason : String)
  | notAOTransaction
deriving DecidableEq

abbrev Result (α : Type) : Type := Outcome ArweaveError α

structure ArweaveLib where
  sha256 : List UInt8 → Block 32
  sha384 : List UInt8 → Block 48
  base64Url : List UInt8 → Text
  /-- The reason for bytes that are no text. -/
  utf8Error : List UInt8 → String
  /-- A number over a power of ten, in floating point. -/
  quotientText : Nat → Nat → Text

structure Tag where
  name : Text
  value : Text

structure Tags where
  len : Int
  data : List Tag

/-- `as usize`, which has 32 bits. -/
def asUsize (n : Int) : Nat := (n % 2 ^ 32).toNat

/-- The groups of seven bits of `avro_decode_long`, from the `j`th. -/
def avroDecodeGroups (i j : UInt64) : Reader ArweaveError UInt64
  | [] => if 9 < j then .error (.avroError "Integer overflow") else .halted
  | head :: reader =>
    if 9 < j then .error (.avroError "Integer overflow")
    else
      let i := i ||| (head &&& 0x7f).toUInt64 <<< (j * 7)
      if head >>> 7 = 0 then .ok (i, reader) else avroDecodeGroups i (j + 1) reader

def zigzag (i : UInt64) : Int :=
  if i &&& 1 = 0 then (i >>> 1).toNat else -((i >>> 1).toNat : Int) - 1

def avroDecodeLong : Reader ArweaveError Int := do
  let i ← avroDecodeGroups 0 0
  pure (zigzag i)

section

variable (lib : ArweaveLib)

def avroDecodeString : Reader ArweaveError Text := do
  let len ← avroDecodeLong
  let buf ← Reader.take none (asUsize len)
  Reader.lift (Outcome.okOr (.avroError (lib.utf8Error buf)) (ofUtf8 buf))

def decodeTag : Reader ArweaveError Tag := do
  let name ← avroDecodeString lib
  let value ← avroDecodeString lib
  pure ⟨name, value⟩

/-- `Tags::deserialize`, with the bytes that it leaves. -/
def decodeTags : Reader ArweaveError Tags := do
  let len ← avroDecodeLong
  let data ← Reader.many (decodeTag lib) len.toNat
  pure ⟨len, data⟩

def Tags.deserialize (serial : List UInt8) : Result Tags := Reader.run (decodeTags lib) serial

structure DataItem where
  signatureType : Nat
  signature : List UInt8
  owner : Text
  rawOwner : List UInt8
  target : Option Text
  rawTarget : List UInt8
  anchor : Option Text
  rawAnchor : List UInt8
  tagsNumber : Nat
  tagsBytesNumber : Nat
  tags : Tags
  rawTags : List UInt8
  data : Text
  rawData : List UInt8

def generateAddress (owner : List UInt8) : Text := lib.base64Url (lib.sha256 owner).bytes

def decodePresent : Reader ArweaveError (List UInt8 × Option Text) := do
  let has ← Reader.byte none
  if 0 < has then do
    let raw ← Reader.take none 32
    pure (raw, some (lib.base64Url raw))
  else pure ([], none)

/-- What is in front of the tags, less the first two bytes. -/
structure Header where
  signature : List UInt8
  rawOwner : List UInt8
  target : List UInt8 × Option Text
  anchor : List UInt8 × Option Text
  tagsNumber : Nat
  tagsBytesNumber : Nat

def decodeHeader : Reader ArweaveError Header := do
  let signature ← Reader.take none 512
  let rawOwner ← Reader.take none 512
  let target ← decodePresent lib
  let anchor ← decodePresent lib
  let tagsNumber ← Reader.little none 8
  let tagsBytesNumber ← Reader.little none 8
  pure { signature, rawOwner, target, anchor, tagsNumber, tagsBytesNumber }

def DataItem.deserialize (binary : List UInt8) : Result DataItem := do
  let (signatureType, reader) ← Reader.little none 2 binary
  if signatureType ≠ 1 then .error .notSupportedError
  else do
    let (header, reader) ← decodeHeader lib reader
    let (rawTags, rawData) ← Reader.take none (asUsize header.tagsBytesNumber) reader
    let tags ← Tags.deserialize lib rawTags
    pure {
      signatureType
      signature := header.signature
      owner := generateAddress lib header.rawOwner
      rawOwner := header.rawOwner
      target := header.target.2
      rawTarget := header.target.1
      anchor := header.anchor.2
      rawAnchor := header.anchor.1
      tagsNumber := header.tagsNumber
      tagsBytesNumber := header.tagsBytesNumber
      tags
      rawTags
      data := lib.base64Url rawData
      rawData }

end

section

variable (lib : ArweaveLib)

def hashAllSha384 (messages : List (List UInt8)) : Block 48 :=
  lib.sha384 (messages.flatMap fun m => (lib.sha384 m).bytes)

/-- `deep_hash` of a blob. -/
def hashBlob (blob : List UInt8) : Block 48 :=
  hashAllSha384 lib [utf8 ("blob".toList ++ Nat.toDigits 10 blob.length), blob]

/-- `deep_hash` of a list of blobs. -/
def deepHash (blobs : List (List UInt8)) : Block 48 :=
  blobs.foldl (fun hash blob => lib.sha384 (hash.bytes ++ (hashBlob lib blob).bytes))
    (lib.sha384 (utf8 ("list".toList ++ Nat.toDigits 10 blobs.length)))

def DataItem.blobs (item : DataItem) : List (List UInt8) :=
  [utf8 "dataitem".toList, utf8 ['1'], utf8 (Nat.toDigits 10 item.signatureType), item.rawOwner,
    item.rawTarget, item.rawAnchor, item.rawTags, item.rawData]

def DataItem.deepHash (item : DataItem) : Block 48 := Arweave.deepHash lib item.blobs

end

def IsLong (w : List UInt8) (n : Int) : Prop := avroDecodeLong w = .ok (n, [])

theorem reads_avroDecodeGroups {i j v : UInt64} {w : List UInt8}
    (h : avroDecodeGroups i j w = .ok (v, [])) : Reads (avroDecodeGroups i j) w v := by
  intro rest
  induction w generalizing i j with
  | nil =>
    unfold avroDecodeGroups at h
    split at h
    · cases h
    · cases h
  | cons head w ih =>
    rw [avroDecodeGroups] at h
    rw [List.cons_append, avroDecodeGroups]
    by_cases hj : 9 < j
    · rw [if_pos hj] at h
      cases h
    · rw [if_neg hj] at h ⊢
      dsimp only at h ⊢
      by_cases hlast : head >>> 7 = 0
      · rw [if_pos hlast] at h ⊢
        cases h
        rfl
      · rw [if_neg hlast] at h ⊢
        exact ih h

theorem IsLong.reads {w : List UInt8} {n : Int} (h : IsLong w n) : Reads avroDecodeLong w n := by
  unfold IsLong avroDecodeLong at h
  rw [Reader.bind_apply] at h
  obtain ⟨⟨v, rest⟩, hv, h⟩ := bind_eq_ok.mp h
  cases h
  exact (reads_avroDecodeGroups hv).map zigzag

theorem IsLong.unique {w : List UInt8} {n m : Int} {s rest : List UInt8} (h : IsLong w n)
    (hread : avroDecodeLong (w ++ s) = .ok (m, rest)) : m = n ∧ rest = s := by
  rw [h.reads s] at hread
  cases hread
  exact ⟨rfl, rfl⟩

def IsString (w : List UInt8) (s : Text) : Prop :=
  ∃ l, IsLong l (utf8 s).length ∧ (utf8 s).length < 2 ^ 32 ∧ w = l ++ utf8 s

def IsTag (w : List UInt8) (tag : Tag) : Prop :=
  ∃ name value, IsString name tag.name ∧ IsString value tag.value ∧ w = name ++ value

/-- An array of tags: blocks, each behind its count, and a count of zero. With a negative count
the size of the block comes next. -/
inductive IsArray : List UInt8 → List Tag → Prop where
  | done {l : List UInt8} (count : IsLong l 0) : IsArray l []
  | block {l b w : List UInt8} {tags rest : List Tag} (count : IsLong l tags.length)
    (some : tags ≠ []) (items : Each IsTag b tags) (tail : IsArray w rest) :
    IsArray (l ++ (b ++ w)) (tags ++ rest)
  | sized {l size b w : List UInt8} {tags rest : List Tag} (count : IsLong l (-tags.length))
    (some : tags ≠ []) (bytes : IsLong size b.length) (items : Each IsTag b tags)
    (tail : IsArray w rest) : IsArray (l ++ (size ++ (b ++ w))) (tags ++ rest)

/-- `n` tags in one block, with its count in front and the end behind. -/
def IsBlock (w : List UInt8) (n : Nat) : Prop :=
  IsLong w 0 ∧ n = 0 ∨ ∃ l b e, ∃ tags : List Tag, IsLong l n ∧ tags.length = n ∧ n ≠ 0
    ∧ Each IsTag b tags ∧ IsLong e 0 ∧ w = l ++ (b ++ e)

section

variable {lib : ArweaveLib}

theorem IsString.reads {w : List UInt8} {s : Text} (h : IsString w s) :
    Reads (avroDecodeString lib) w s := by
  obtain ⟨l, hl, hlength, rfl⟩ := h
  refine hl.reads.bind ?_
  have husize : asUsize (utf8 s).length = (utf8 s).length := by
    unfold asUsize
    omega
  intro rest
  rw [husize, Reader.bind_apply, Reader.reads_take none (utf8 s) rest, ok_bind]
  dsimp only
  rw [Reader.lift, Bytes.ofUtf8_utf8]
  rfl

theorem IsTag.reads {w : List UInt8} {tag : Tag} (h : IsTag w tag) :
    Reads (decodeTag lib) w tag := by
  obtain ⟨name, value, hname, hvalue, rfl⟩ := h
  exact hname.reads.bind (hvalue.reads.map (Tag.mk tag.name))

theorem reads_tags {b : List UInt8} {tags : List Tag} (h : Each IsTag b tags) :
    Reads (Reader.many (decodeTag lib) tags.length) b tags := by
  induction h with
  | nil => exact Reads.pure []
  | cons head tail ih => exact head.reads.bind (ih.map (_ :: ·))

theorem deserialize_block {l b rest : List UInt8} {tags : List Tag} (hl : IsLong l tags.length)
    (hb : Each IsTag b tags) :
    Tags.deserialize lib (l ++ (b ++ rest)) = .ok ⟨tags.length, tags⟩ := by
  have hmany : Reads (Reader.many (decodeTag lib) (tags.length : Int).toNat) b tags := by
    rw [Int.toNat_natCast]
    exact reads_tags hb
  have hreads : Reads (decodeTags lib) (l ++ b) ⟨tags.length, tags⟩ :=
    hl.reads.bind (hmany.map (Tags.mk tags.length))
  rw [← List.append_assoc, Tags.deserialize, Reader.run, hreads rest]
  rfl

theorem length_many {p : Reader ArweaveError Tag} : ∀ {n : Nat} {s rest : List UInt8}
    {tags : List Tag}, Reader.many p n s = .ok (tags, rest) → tags.length = n := by
  intro n
  induction n with
  | zero =>
    intro s rest tags h
    cases h
    rfl
  | succ n ih =>
    intro s rest tags h
    rw [Reader.many, Reader.bind_apply] at h
    obtain ⟨⟨tag, mid⟩, -, h⟩ := bind_eq_ok.mp h
    dsimp only at h
    rw [Reader.bind_apply] at h
    obtain ⟨⟨tags', mid'⟩, hmany, h⟩ := bind_eq_ok.mp h
    cases h
    rw [List.length_cons, ih hmany]

theorem length_of_deserialize {l rest : List UInt8} {n : Int} {tags : Tags} (hl : IsLong l n)
    (h : Tags.deserialize lib (l ++ rest) = .ok tags) : tags.data.length = n.toNat := by
  rw [Tags.deserialize, Reader.run] at h
  obtain ⟨⟨tags', mid⟩, hdecode, h⟩ := bind_eq_ok.mp h
  cases h
  rw [decodeTags, Reader.bind_apply] at hdecode
  obtain ⟨⟨len, mid'⟩, hlen, hdecode⟩ := bind_eq_ok.mp hdecode
  obtain ⟨rfl, -⟩ := hl.unique hlen
  dsimp only at hdecode
  rw [Reader.bind_apply] at hdecode
  obtain ⟨⟨data, mid''⟩, hmany, hdecode⟩ := bind_eq_ok.mp hdecode
  cases hdecode
  exact length_many hmany

theorem IsArray.isLong_of_nil {w : List UInt8} {tags : List Tag} (h : IsArray w tags)
    (htags : tags = []) : IsLong w 0 := by
  cases h with
  | done count => exact count
  | block count some items tail => exact absurd (List.append_eq_nil_iff.mp htags).1 some
  | sized count some bytes items tail => exact absurd (List.append_eq_nil_iff.mp htags).1 some

theorem isArray_iff {w : List UInt8} {tags : Tags} (h : Tags.deserialize lib w = .ok tags)
    (n : Nat) : IsArray w tags.data ∧ n = tags.data.length ↔ IsBlock w n := by
  constructor
  · intro harray
    obtain ⟨harray, rfl⟩ := harray
    generalize hdata : tags.data = data at harray
    cases harray with
    | done count => exact .inl ⟨count, rfl⟩
    | block count some items tail =>
      rename_i l b rest block after
      have hlength := length_of_deserialize count h
      rw [hdata, List.length_append, Int.toNat_natCast] at hlength
      -- the count is that of the first block, so nothing is in the blocks behind it
      have hafter : after = [] := List.eq_nil_of_length_eq_zero (by omega)
      rw [hafter, List.append_nil]
      have hne : block.length ≠ 0 := fun hzero => some (List.eq_nil_of_length_eq_zero hzero)
      exact .inr ⟨l, b, rest, block, count, rfl, hne, items, tail.isLong_of_nil hafter, rfl⟩
    | sized count some bytes items tail =>
      rename_i l size b rest block after
      have hlength := length_of_deserialize count h
      rw [hdata, List.length_append] at hlength
      have hne : block.length ≠ 0 := fun hzero => some (List.eq_nil_of_length_eq_zero hzero)
      omega
  · intro hblock
    rcases hblock with ⟨hend, rfl⟩ | ⟨l, b, e, block, hl, rfl, hne, hb, he, rfl⟩
    · have hread : Tags.deserialize lib (w ++ []) = .ok tags := by
        rw [List.append_nil]
        exact h
      have hlength := length_of_deserialize hend hread
      have hnil : tags.data = [] := List.eq_nil_of_length_eq_zero hlength
      rw [hnil]
      exact ⟨.done hend, rfl⟩
    · rw [deserialize_block hl hb] at h
      cases h
      have hsome : block ≠ [] := fun hnil => hne (by rw [hnil]; rfl)
      have harray : IsArray (l ++ (b ++ e)) (block ++ []) := .block hl hsome hb (.done he)
      rw [List.append_nil] at harray
      exact ⟨harray, rfl⟩

theorem tags_of_deserialize {binary : List UInt8} {item : DataItem}
    (h : DataItem.deserialize lib binary = .ok item) :
    Tags.deserialize lib item.rawTags = .ok item.tags := by
  unfold DataItem.deserialize at h
  obtain ⟨⟨signatureType, reader⟩, -, h⟩ := bind_eq_ok.mp h
  dsimp only at h
  split at h
  · cases h
  · obtain ⟨⟨header, reader'⟩, -, h⟩ := bind_eq_ok.mp h
    obtain ⟨⟨rawTags, rawData⟩, -, h⟩ := bind_eq_ok.mp h
    obtain ⟨tags, htags, h⟩ := bind_eq_ok.mp h
    cases h
    exact htags

def shortLong (n : Nat) : List UInt8 := [UInt8.ofNat (2 * n)]

theorem isLong_shortLong : ∀ n < 64, IsLong (shortLong n) n := by
  unfold IsLong
  decide

def stringBytes (s : Text) : List UInt8 := shortLong (utf8 s).length ++ utf8 s

def tagBytes (tag : Tag) : List UInt8 := stringBytes tag.name ++ stringBytes tag.value

def Short (tag : Tag) : Prop := (utf8 tag.name).length < 64 ∧ (utf8 tag.value).length < 64

theorem isString_stringBytes {s : Text} (h : (utf8 s).length < 64) : IsString (stringBytes s) s :=
  ⟨_, isLong_shortLong _ h, by omega, rfl⟩

theorem each_tagBytes {tags : List Tag} (h : ∀ tag ∈ tags, Short tag) :
    Each IsTag (tags.flatMap tagBytes) tags := by
  induction tags with
  | nil => exact .nil
  | cons tag tags ih =>
    have htag := h tag (.head _)
    exact .cons ⟨_, _, isString_stringBytes htag.1, isString_stringBytes htag.2, rfl⟩
      (ih fun tag' hmem => h tag' (List.mem_cons_of_mem tag hmem))

def itemBytes (signature rawOwner target : List UInt8) (tagsNumber : Nat)
    (rawTags rawData : List UInt8) : List UInt8 :=
  [1, 0] ++ (signature ++ (rawOwner ++ ((1 :: target) ++ ([0] ++ (toLe 8 tagsNumber
    ++ (toLe 8 rawTags.length ++ (rawTags ++ rawData)))))))

def itemOf (lib : ArweaveLib) (signature rawOwner target : List UInt8) (tagsNumber : Nat)
    (tags : Tags) (rawTags rawData : List UInt8) : DataItem where
  signatureType := 1
  signature
  owner := generateAddress lib rawOwner
  rawOwner
  target := some (lib.base64Url target)
  rawTarget := target
  anchor := none
  rawAnchor := []
  tagsNumber
  tagsBytesNumber := rawTags.length
  tags
  rawTags
  data := lib.base64Url rawData
  rawData

theorem reads_take_of_length {w : List UInt8} {n : Nat} (h : w.length = n) :
    Reads (Reader.take none n : Reader ArweaveError (List UInt8)) w w := by
  rw [← h]
  exact Reader.reads_take none w

theorem reads_present {target : List UInt8} (h : target.length = 32) :
    Reads (decodePresent lib) (1 :: target) (target, some (lib.base64Url target)) := by
  intro rest
  have hpresent : decodePresent lib (1 :: (target ++ rest)) = (do
      let raw ← Reader.take none 32
      pure (raw, some (lib.base64Url raw)) : Reader ArweaveError _) (target ++ rest) := rfl
  rw [List.cons_append, hpresent]
  exact (reads_take_of_length h).map _ rest

theorem reads_absent : Reads (decodePresent lib) [0] ([], none) := fun _ => rfl

theorem deserialize_written {signature rawOwner target rawTags rawData : List UInt8}
    {tagsNumber : Nat} {tags : Tags} (hsignature : signature.length = 512)
    (howner : rawOwner.length = 512) (htarget : target.length = 32) (hnumber : tagsNumber < 2 ^ 64)
    (hlength : rawTags.length < 2 ^ 32) (htags : Tags.deserialize lib rawTags = .ok tags) :
    DataItem.deserialize lib (itemBytes signature rawOwner target tagsNumber rawTags rawData)
      = .ok (itemOf lib signature rawOwner target tagsNumber tags rawTags rawData) := by
  have hnumber' : tagsNumber < 256 ^ 8 := by omega
  have hlength' : rawTags.length < 256 ^ 8 := by omega
  have hheader : Reads (decodeHeader lib) (signature ++ (rawOwner ++ ((1 :: target) ++ ([0]
      ++ (toLe 8 tagsNumber ++ toLe 8 rawTags.length)))))
      ⟨signature, rawOwner, (target, some (lib.base64Url target)), ([], none), tagsNumber,
        rawTags.length⟩ :=
    (reads_take_of_length hsignature).bind ((reads_take_of_length howner).bind
      ((reads_present htarget).bind (reads_absent.bind ((Reader.reads_little none hnumber').bind
        ((Reader.reads_little none hlength').map (Header.mk _ _ _ _ _))))))
  have husize : asUsize rawTags.length = rawTags.length := by
    unfold asUsize
    omega
  have hread := hheader (rawTags ++ rawData)
  simp only [List.append_assoc] at hread
  have htype : Reads (Reader.little none 2 : Reader ArweaveError Nat) [1, 0] 1 :=
    Reader.reads_little none (by omega : 1 < 256 ^ 2)
  unfold DataItem.deserialize
  rw [itemBytes, htype, ok_bind]
  dsimp only
  rw [if_neg (by simp), hread, ok_bind]
  dsimp only
  rw [husize, Reader.reads_take none rawTags rawData, ok_bind]
  dsimp only
  rw [htags]
  rfl

end

end Keystone3.Arweave
