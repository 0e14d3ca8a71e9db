import Keystone3.Account.Info

/-!
# The sealed account record

`SaveAccountSecret` and `LoadAccountSecret` of `keystore.c`. `sealAccount` and
`openAccount` are the computation in the middle of the two routines, from the pieces to
the pages and back; around them are the page writes and reads.
-/

namespace Keystone3

open Logic.Prog
open Bytes (Block)
open Bytes.Cbc (encryptBlocks decryptBlocks)
open Bytes.Cbc (Cell)

structure AccountSecret where
  entropy : Block 32
  seed : Block 64
  slip39EmsOrTonEntropyL32 : Block 32
  reservedData : Block 32
  entropyLen : UInt8
deriving DecidableEq

/-- `AccountSecret_t accountSecret = {0}`. -/
def AccountSecret.cleared : AccountSecret where
  entropy := Block.zero 32
  seed := Block.zero 64
  slip39EmsOrTonEntropyL32 := Block.zero 32
  reservedData := Block.zero 32
  entropyLen := 0

structure AccountRecord where
  iv : Page
  encryptEntropy : Page
  encryptSeedH32 : Page
  encryptSeedL32 : Page
  slip39EmsOrTonEntropyL32 : Page
  encryptReservedData : Page
  hmac : Page

def AccountRecord.authenticated (r : AccountRecord) : List UInt8 :=
  r.iv.bytes ++ r.encryptEntropy.bytes ++ r.encryptSeedH32.bytes ++ r.encryptSeedL32.bytes ++
    r.slip39EmsOrTonEntropyL32.bytes ++ r.encryptReservedData.bytes

def accountKeys (env : Env) (pieces : Block 64) : Page × Page :=
  let hash := hashWithSalt env pieces.bytes "combine two pieces"
  let sha512Hash := env.crypto.sha512 hash.bytes
  (Block.front (m := 32) (n := 32) sha512Hash, Block.back (m := 32) (n := 32) sha512Hash)

def combineInnerAesKey (env : Env) (aesKey : Page) : Page := aesKey.xor env.otp.aesKey

/-- The middle of `SaveAccountSecret`: one CBC context over the four fields,
started from the first half of the IV page. -/
def sealAccount (env : Env) (pieces : Block 64) (iv : Page) (s : AccountSecret) : AccountRecord :=
  let keys := accountKeys env pieces
  let ctx := env.crypto.aes (combineInnerAesKey env keys.1)
  let entropy : Block 32 × Cell :=
    encryptBlocks ctx 2 (Block.front (m := 16) (n := 16) iv) s.entropy
  let seed : Block 64 × Cell := encryptBlocks ctx 4 entropy.2 s.seed
  let ems : Block 32 × Cell := encryptBlocks ctx 2 seed.2 s.slip39EmsOrTonEntropyL32
  let reserved : Block 32 × Cell := encryptBlocks ctx 2 ems.2 s.reservedData
  let record : AccountRecord :=
    { iv := iv
      encryptEntropy := entropy.1
      encryptSeedH32 := Block.front (m := 32) (n := 32) seed.1
      encryptSeedL32 := Block.back (m := 32) (n := 32) seed.1
      slip39EmsOrTonEntropyL32 := ems.1
      encryptReservedData := reserved.1
      hmac := Block.zero 32 }
  { record with hmac := env.crypto.hmacSha256 keys.2.bytes record.authenticated }

/-- The end of `LoadAccountSecret`: check the HMAC, then decipher. An entropy
length of zero stands for 32. -/
def openAccount (env : Env) (pieces : Block 64) (r : AccountRecord) (entropyLen : UInt8) :
    Except ErrCode AccountSecret :=
  let keys := accountKeys env pieces
  if env.crypto.hmacSha256 keys.2.bytes r.authenticated = r.hmac then
    let ctx := env.crypto.aes (combineInnerAesKey env keys.1)
    let entropy : Block 32 × Cell :=
      decryptBlocks ctx 2 (Block.front (m := 16) (n := 16) r.iv) r.encryptEntropy
    let seed : Block 64 × Cell :=
      decryptBlocks ctx 4 entropy.2
        (Block.append (m := 32) (n := 32) r.encryptSeedH32 r.encryptSeedL32)
    let ems : Block 32 × Cell := decryptBlocks ctx 2 seed.2 r.slip39EmsOrTonEntropyL32
    let reserved : Block 32 × Cell := decryptBlocks ctx 2 ems.2 r.encryptReservedData
    .ok { entropy := entropy.1
          seed := seed.1
          slip39EmsOrTonEntropyL32 := ems.1
          reservedData := reserved.1
          entropyLen := if entropyLen = 0 then 32 else entropyLen }
  else .error .keystoreAuth

theorem openAccount_sealAccount (env : Env) (pieces : Block 64) (iv : Page) (s : AccountSecret)
    (entropyLen : UInt8) :
    openAccount env pieces (sealAccount env pieces iv s) entropyLen
      = .ok { s with entropyLen := if entropyLen = 0 then 32 else entropyLen } := by
  have hmac : env.crypto.hmacSha256 (accountKeys env pieces).2.bytes
      (sealAccount env pieces iv s).authenticated = (sealAccount env pieces iv s).hmac := rfl
  unfold openAccount
  dsimp only
  rw [if_pos hmac]
  unfold sealAccount
  dsimp only
  -- each part is deciphered from the chaining block the part before it left
  have hseed : ∀ x : Block 64,
      Block.append (m := 32) (n := 32) (Block.front (m := 32) (n := 32) x)
        (Block.back (m := 32) (n := 32) x) = x :=
    Block.append_front_back (m := 32) (n := 32)
  rw [hseed, Bytes.Cbc.decryptBlocks_encryptBlocks, Bytes.Cbc.decryptBlocks_encryptBlocks,
    Bytes.Cbc.decryptBlocks_encryptBlocks, Bytes.Cbc.decrypt_encrypt]

variable {env : Env}

theorem openAccount_entropyLen {pieces : Block 64} {r : AccountRecord}
    {entropyLen : UInt8} {s : AccountSecret} (h : openAccount env pieces r entropyLen = .ok s) :
    (if entropyLen = 0 then 32 else entropyLen) = s.entropyLen := by
  unfold openAccount at h
  dsimp only at h
  split at h
  · obtain rfl := Except.ok.inj h
    rfl
  · exact nomatch h

def readRecord (env : Env) (i : AccountIndex) : Account AccountRecord := do
  let iv ← seHmacEncryptRead env (accountPage i pageIndexIv)
  let encryptEntropy ← seHmacEncryptRead env (accountPage i pageIndexEntropyOrTonEntropyH32)
  let encryptSeedH32 ← seHmacEncryptRead env (accountPage i pageIndexSeedH32)
  let encryptSeedL32 ← seHmacEncryptRead env (accountPage i pageIndexSeedL32)
  let ems ← seHmacEncryptRead env (accountPage i pageIndexSlip39EmsOrTonEntropyL32)
  let encryptReservedData ← seHmacEncryptRead env (accountPage i pageIndexReserved)
  let hmac ← seHmacEncryptRead env (accountPage i pageIndexHmac)
  return { iv := iv
           encryptEntropy := encryptEntropy
           encryptSeedH32 := encryptSeedH32
           encryptSeedL32 := encryptSeedL32
           slip39EmsOrTonEntropyL32 := ems
           encryptReservedData := encryptReservedData
           hmac := hmac }

def AccountRecord.pages (r : AccountRecord) : List (PageIndex × Page) :=
  [(pageIndexIv, r.iv), (pageIndexEntropyOrTonEntropyH32, r.encryptEntropy),
    (pageIndexSeedH32, r.encryptSeedH32), (pageIndexSeedL32, r.encryptSeedL32),
    (pageIndexSlip39EmsOrTonEntropyL32, r.slip39EmsOrTonEntropyL32),
    (pageIndexReserved, r.encryptReservedData), (pageIndexHmac, r.hmac)]

def writePages (env : Env) (i : AccountIndex) (ps : List (PageIndex × Page)) : Account Unit :=
  each (fun p => seHmacEncryptWrite env p.2 (accountPage i p.1)) ps

/-- The parameters of a new account: `SetCurrentAccountEntropyLen`, and
`SetCurrentAccountMfp` of the fingerprint of the seed. A null response or an
error of `get_master_fingerprint` leaves the fingerprint as it is. -/
def newAccountInfo (env : Env) (s : AccountSecret) (a : AccountInfo) : AccountInfo :=
  let a := { a with entropyLen := s.entropyLen }
  match a.mnemonicType with
  | .ton => a
  | mnemonicType =>
    let seedLen := if mnemonicType = .slip39 then s.entropyLen.toNat else 64
    match env.wallet.getMasterFingerprint (s.seed.bytes.take seedLen) with
    | some (.ok masterFingerprint) => { a with mfp := masterFingerprint }
    | _ => a

/-- The part of `SaveAccountSecret` that every save makes: new key pieces, a
new IV, and the seven pages. -/
def writeSecret (env : Env) (accountIndex : AccountIndex) (accountSecret : AccountSecret)
    (password : CString) : Account Unit := do
  let pieces ← setNewKeyPieceToSE env accountIndex password
  let iv ← trngGet env
  writePages env accountIndex (sealAccount env pieces iv accountSecret).pages

/-- For a new account the parameters follow the secret;
the return code of storing them is dropped. -/
def saveAccountSecret (env : Env) (accountIndex : AccountIndex) (accountSecret : AccountSecret)
    (password : CString) (newAccount : Bool) : Account Unit := do
  writeSecret env accountIndex accountSecret password
  if newAccount then do
    setInfo (newAccountInfo env accountSecret)
    ignore (saveCurrentAccountInfo env)
  else
    pure ()

/-- The return code of `GetKeyPieceFromSE` is overwritten
by the next read. -/
def loadAccountSecret (env : Env) (accountIndex : AccountIndex) (password : CString) :
    Account AccountSecret := do
  ignore (getAccountInfo env accountIndex)
  let pieces ← stackGarbage env
  let got ← getKeyPieceFromSE env accountIndex pieces password
  let record ← readRecord env accountIndex
  let param ← seHmacEncryptRead env (accountPage accountIndex pageIndexParam)
  ofExcept (openAccount env got.2 record (AccountInfo.ofPage param).entropyLen)

/-- The record in the pages of account `i`. -/
def recordOf (d : Device) (i : AccountIndex) : AccountRecord where
  iv := d.page (accountPage i pageIndexIv)
  encryptEntropy := d.page (accountPage i pageIndexEntropyOrTonEntropyH32)
  encryptSeedH32 := d.page (accountPage i pageIndexSeedH32)
  encryptSeedL32 := d.page (accountPage i pageIndexSeedL32)
  slip39EmsOrTonEntropyL32 := d.page (accountPage i pageIndexSlip39EmsOrTonEntropyL32)
  encryptReservedData := d.page (accountPage i pageIndexReserved)
  hmac := d.page (accountPage i pageIndexHmac)

/-- The parameters in the parameter page of account `i`. -/
def paramOf (d : Device) (i : AccountIndex) : AccountInfo :=
  AccountInfo.ofPage (d.page (accountPage i pageIndexParam))

/-- The device holds the secret `s` in account `i` under the password, with an IV
that was drawn at random. -/
def Sealed (env : Env) (d : Device) (i : AccountIndex) (password : CString)
    (s : AccountSecret) : Prop :=
  Authorized env d i password ∧
    ∃ k, recordOf d i = sealAccount env (storedPieces env d i password) (env.trng k) s

instance (env : Env) (d : Device) (i : AccountIndex) (password : CString) :
    Decidable (Authorized env d i password) :=
  inferInstanceAs (Decidable (_ = _))

def loaded (env : Env) (buf : Block 64) (d : Device) (i : AccountIndex) (password : CString) :
    Except ErrCode AccountSecret :=
  openAccount env (if Authorized env d i password then storedPieces env d i password else buf)
    (recordOf d i) (paramOf d i).entropyLen

/-- Everything a load looks at: the pages of the account and its key slots. -/
structure AccountCells where
  page : PageIndex → Page
  auth : Page
  rollKdf : Page
  hostKdf : Page

/-- The cells of account `i`. -/
def cellsOf (i : AccountIndex) (d : Device) : AccountCells where
  page := fun k => d.page (accountPage i k)
  auth := d.slot (getAccountSlot i).auth
  rollKdf := d.slot (getAccountSlot i).rollKdf
  hostKdf := d.slot (getAccountSlot i).hostKdf

variable {i : AccountIndex} {d d' : Device}

theorem recordOf_congr (h : cellsOf i d' = cellsOf i d) :
    recordOf d' i = recordOf d i := by
  have hp : ∀ k, d'.page (accountPage i k) = d.page (accountPage i k) :=
    fun k => congrFun (congrArg AccountCells.page h) k
  unfold recordOf
  rw [hp, hp, hp, hp, hp, hp, hp]

theorem paramOf_congr (h : cellsOf i d' = cellsOf i d) :
    paramOf d' i = paramOf d i :=
  congrArg AccountInfo.ofPage (congrFun (congrArg AccountCells.page h) pageIndexParam)

theorem authorized_congr {password : CString}
    (h : cellsOf i d' = cellsOf i d) :
    Authorized env d' i password ↔ Authorized env d i password := by
  have ha : d'.slot (getAccountSlot i).auth = d.slot (getAccountSlot i).auth :=
    congrArg AccountCells.auth h
  unfold Authorized
  rw [ha]

theorem storedPieces_congr {password : CString}
    (h : cellsOf i d' = cellsOf i d) :
    storedPieces env d' i password = storedPieces env d i password := by
  have hr : d'.slot (getAccountSlot i).rollKdf = d.slot (getAccountSlot i).rollKdf :=
    congrArg AccountCells.rollKdf h
  have hh : d'.slot (getAccountSlot i).hostKdf = d.slot (getAccountSlot i).hostKdf :=
    congrArg AccountCells.hostKdf h
  have hp : d'.page (accountPage i pageIndexKeyPiece) = d.page (accountPage i pageIndexKeyPiece) :=
    congrFun (congrArg AccountCells.page h) pageIndexKeyPiece
  unfold storedPieces stored608Piece storedDsPiece
  rw [hr, hh, hp]

theorem loaded_congr (buf : Block 64)
    (password : CString) (h : cellsOf i d' = cellsOf i d) :
    loaded env buf d' i password = loaded env buf d i password := by
  unfold loaded
  rw [recordOf_congr h, paramOf_congr h, storedPieces_congr h]
  by_cases ha : Authorized env d i password
  · rw [if_pos ha, if_pos ((authorized_congr h).mpr ha)]
  · rw [if_neg ha, if_neg (mt (authorized_congr h).mp ha)]

theorem sealed_congr {password : CString}
    {s : AccountSecret} (h : cellsOf i d' = cellsOf i d) (hs : Sealed env d i password s) :
    Sealed env d' i password s := by
  obtain ⟨ha, k, hr⟩ := hs
  exact ⟨(authorized_congr h).mpr ha, k, by rw [recordOf_congr h, storedPieces_congr h, hr]⟩

theorem loaded_sealed {d : Device} {password : CString}
    {s : AccountSecret} (buf : Block 64) (h : Sealed env d i password s) :
    loaded env buf d i password = .ok { s with
      entropyLen := if (paramOf d i).entropyLen = 0 then 32 else (paramOf d i).entropyLen } := by
  obtain ⟨ha, k, hr⟩ := h
  unfold loaded
  rw [if_pos ha, hr]
  exact openAccount_sealAccount env _ (env.trng k) s _

theorem readRecord_answered {d : Device}
    (hr : AnswersReads env d.writes) :
    readRecord env i d = (.ok (recordOf d i), d.countReads 7) := by
  have h : ∀ n k, seHmacEncryptRead env (accountPage i k) (d.countReads n)
      = (.ok (d.page (accountPage i k)), d.countReads (n + 1)) :=
    fun n _ => seRead_answered (d := d.countReads n) (hr _)
  unfold readRecord
  refine (bind_ok (h 0 _)).trans ?_
  rw [bind_ok (h 1 _), bind_ok (h 2 _), bind_ok (h 3 _), bind_ok (h 4 _), bind_ok (h 5 _),
    bind_ok (h 6 _)]
  rfl

/-- **A load that is answered** returns `loaded`, and changes nothing. -/
theorem loadAccountSecret_answered {d : Device} (hr : AnswersReads env d.writes)
    (i : AccountIndex) (password : CString) :
    ∃ n, loadAccountSecret env i password d
      = (ofExcept (loaded env (env.stack d.writes (d.reads + 1)) d i password) :
          Account AccountSecret) (d.countReads n) := by
  have hinfo : ignore (getAccountInfo env i) d = (.ok (), d.countReads 1) := by
    refine ignore_ok (a := paramOf d i) ?_
    unfold getAccountInfo
    exact bind_ok (seRead_answered (hr _))
  -- the pieces are read, or the buffer is left as it was found
  have hpieces : ∃ n ret, getKeyPieceFromSE env i (env.stack d.writes (d.reads + 1)) password
      (d.countReads 1) = (.ok (ret, if Authorized env d i password then
        storedPieces env d i password else env.stack d.writes (d.reads + 1)), d.countReads n) := by
    by_cases ha : Authorized env d i password
    · rw [if_pos ha]
      exact ⟨4, _, getKeyPieceFromSE_answered (d := d.countReads 1) _ hr ha⟩
    · rw [if_neg ha]
      exact ⟨1, _, getKeyPieceFromSE_unauthorized (d := d.countReads 1) _ ha⟩
  obtain ⟨n, ret, hpieces⟩ := hpieces
  refine ⟨n + 7 + 1, ?_⟩
  have hgarbage : stackGarbage env (d.countReads 1)
      = (.ok (env.stack d.writes (d.reads + 1)), d.countReads 1) := rfl
  have hrecord := readRecord_answered (i := i) (d := d.countReads n) hr
  let param := fun d : Device => d.page (accountPage i pageIndexParam)
  have hparam : seRead env param ((d.countReads n).countReads 7) = _ := seRead_answered (hr _)
  unfold loadAccountSecret
  rw [bind_ok hinfo, bind_ok hgarbage, bind_ok hpieces, bind_ok hrecord]
  refine (bind_ok hparam).trans ?_
  show _ = ofExcept (loaded env _ d i password) ((d.countReads (n + 7)).countReads 1)
  rfl

theorem loadAccountSecret_ideal (env : Env) (i : AccountIndex) (password : CString) (d : Device) :
    (loadAccountSecret env.ideal i password d).1
      = ((ofExcept (loaded env (env.stack d.writes (d.reads + 1)) d i password) :
          Account AccountSecret) d).1 := by
  have hr : AnswersReads env.ideal d.writes := fun _ => rfl
  obtain ⟨n, h⟩ := loadAccountSecret_answered hr i password
  rw [h]
  show (ofExcept (loaded env (env.stack d.writes (d.reads + 1)) d i password) _).1 = _
  cases loaded env (env.stack d.writes (d.reads + 1)) d i password with
  | ok s => rfl
  | error e => rfl

theorem frame_readRecord {R : Device → Device → Prop} (env : Env) (hR : Reading R)
    (i : AccountIndex) : Frame R (readRecord env i) := by
  have h := fun k => frame_seHmacEncryptRead env hR (accountPage i k)
  have hR := hR.toPreorder
  exact frame_bind hR (h _) fun _ => frame_bind hR (h _) fun _ => frame_bind hR (h _) fun _ =>
    frame_bind hR (h _) fun _ => frame_bind hR (h _) fun _ => frame_bind hR (h _) fun _ =>
    frame_bind hR (h _) fun _ => frame_pure hR _

theorem frame_loadAccountSecret {R : Device → Device → Prop} (env : Env) (h : Reading R)
    (i : AccountIndex) (password : CString) : Frame R (loadAccountSecret env i password) := by
  have hR := h.toPreorder
  exact frame_bind hR (frame_ignore (frame_getAccountInfo env h i)) fun _ =>
    frame_bind hR (frame_stackGarbage env hR) fun _ =>
    frame_bind hR (frame_getKeyPieceFromSE h _) fun _ =>
    frame_bind hR (frame_readRecord env h i) fun _ =>
    frame_bind hR (frame_seHmacEncryptRead env h _) fun _ => frame_ofExcept hR _

section

variable {β : Type} {f : Device → β} {i : AccountIndex} (env : Env)

def secretPages : List PageIndex :=
  [pageIndexKeyPiece, pageIndexIv, pageIndexEntropyOrTonEntropyH32, pageIndexSeedH32,
    pageIndexSeedL32, pageIndexSlip39EmsOrTonEntropyL32, pageIndexReserved, pageIndexHmac]

theorem frame_writePages {ks : List PageIndex} (hf : Misses i ks f)
    (ps : List (PageIndex × Page)) (h : ∀ p ∈ ps, p.1 ∈ ks) :
    Frame (Keeps f) (writePages env i ps) :=
  frame_each (keeps_preorder f) ps fun p hp =>
    frame_seHmacEncryptWrite env hf.toBlind fun d => hf.page p.1 (h p hp) d p.2

theorem pages_subset (r : AccountRecord) : ∀ p ∈ r.pages, p.1 ∈ secretPages := by
  intro p hp
  have hfst : p.1 ∈ r.pages.map Prod.fst := List.mem_map_of_mem hp
  have hsub : ∀ k ∈ r.pages.map Prod.fst, k ∈ secretPages := by
    show ∀ k ∈ ([0, 1, 2, 3, 4, 5, 6] : List PageIndex), k ∈ secretPages
    decide
  exact hsub p.1 hfst

theorem frame_writeSecret (hf : Misses i secretPages f) (s : AccountSecret)
    (password : CString) : Frame (Keeps f) (writeSecret env i s password) := by
  have hR := keeps_preorder f
  exact frame_bind hR (frame_setNewKeyPieceToSE env password hf (by decide)) fun _ =>
    frame_bind hR (frame_trngGet env hf.toBlind) fun _ =>
    frame_writePages env hf _ (pages_subset _)

theorem frame_saveAccountSecret (hf : Misses i secretPages f) (s : AccountSecret)
    (password : CString) : Frame (Keeps f) (saveAccountSecret env i s password false) :=
  frame_bind (keeps_preorder f) (frame_writeSecret env hf s password) fun _ =>
    frame_pure (keeps_preorder f) _

theorem frame_saveAccountSecret_new (hf : Misses i secretPages f) (hi : IgnoresInfo f)
    (s : AccountSecret) (password : CString) (newAccount : Bool) :
    Frame (Keeps f) (saveAccountSecret env i s password newAccount) := by
  have hR := keeps_preorder f
  refine frame_bind hR (frame_writeSecret env hf s password) fun _ => ?_
  split
  · exact frame_bind hR (frame_setInfo hi.info _) fun _ =>
      frame_ignore (frame_saveCurrentAccountInfo env hi.toBlind hi.param)
  · exact frame_pure hR _

end

section

variable {env : Env} {i : AccountIndex} {password : CString} {s : AccountSecret} {w n : Nat}

theorem triple_writePages :
    ∀ (ps : List (PageIndex × Page)) (k : Nat), (ps.map Prod.fst).Nodup → k + ps.length ≤ n →
      Triple (fun d => d.writes = w + k) (writePages env i ps)
        (fun _ d => d.writes = w + (k + ps.length) ∧ ∀ p ∈ ps, d.page (accountPage i p.1) = p.2)
        (fun _ _ => Refuses env ∧ Troubled env w n) (fun _ => Troubled env w n)
  | [], _, _, _ => triple_pure fun d hd => ⟨hd, fun p hp => absurd hp List.not_mem_nil⟩
  | p :: ps, k, hnd, hlen => by
    rw [List.map_cons, List.nodup_cons] at hnd
    rw [List.length_cons] at hlen
    refine triple_bind (Q := fun _ d => d.writes = w + (k + 1) ∧
        d.page (accountPage i p.1) = p.2)
      (triple_seWrite_within (k := k) (by omega) (fun d hd => hd)
        fun d hd => ⟨congrArg (· + 1) hd, Device.setPage_self _ _ _⟩) fun _ => ?_
    -- the pages still to come are other pages
    have hkeep : Frame (Keeps fun d : Device => d.page (accountPage i p.1))
        (writePages env i ps) := by
      refine frame_each (keeps_preorder _) ps fun q hq =>
        frame_seHmacEncryptWrite env ⟨fun _ => rfl, fun _ => rfl, fun _ _ => rfl⟩ fun d => ?_
      refine Device.setPage_ne d q.2 fun he => hnd.1 ?_
      rw [(accountPage_inj.mp he).2]
      exact List.mem_map_of_mem hq
    refine triple_conseq (triple_and (triple_writePages ps (k + 1) hnd.2 (by omega))
      (triple_of_frame (I := fun d => d.page (accountPage i p.1) = p.2) hkeep
        fun _ _ h hI => h.trans hI)) (fun _ h => h) (fun _ d h => ⟨?_, ?_⟩)
      (fun _ _ h => h.1) fun _ h => h.1
    · rw [h.1.1, List.length_cons]
      omega
    · intro q hq
      rcases List.mem_cons.mp hq with rfl | hq
      · exact h.2
      · exact h.1.2 q hq

theorem pages_nodup (r : AccountRecord) : (r.pages.map Prod.fst).Nodup := by
  show ([0, 1, 2, 3, 4, 5, 6] : List PageIndex).Nodup
  decide

theorem recordOf_of_pages {r : AccountRecord} {d : Device}
    (h : ∀ p ∈ r.pages, d.page (accountPage i p.1) = p.2) : recordOf d i = r := by
  unfold AccountRecord.pages at h
  simp only [List.mem_cons, List.not_mem_nil, or_false, forall_eq_or_imp, forall_eq] at h
  obtain ⟨h₀, h₁, h₂, h₃, h₄, h₅, h₆⟩ := h
  unfold recordOf
  rw [h₀, h₁, h₂, h₃, h₄, h₅, h₆]

def pieceCells (i : AccountIndex) (d : Device) : Page × Page × Page × Page :=
  (d.slot (getAccountSlot i).auth, d.slot (getAccountSlot i).rollKdf,
    d.slot (getAccountSlot i).hostKdf, d.page (accountPage i pageIndexKeyPiece))

theorem frame_writePages_pieceCells (r : AccountRecord) :
    Frame (Keeps (pieceCells i)) (writePages env i r.pages) := by
  refine frame_each (keeps_preorder _) r.pages fun p hp =>
    frame_seHmacEncryptWrite env ⟨fun _ => rfl, fun _ => rfl, fun _ _ => rfl⟩ fun d => ?_
  have hk : ∀ k ∈ r.pages.map Prod.fst, pageIndexKeyPiece ≠ k := by
    show ∀ k ∈ ([0, 1, 2, 3, 4, 5, 6] : List PageIndex), pageIndexKeyPiece ≠ k
    decide
  unfold pieceCells
  rw [Device.setPage_slot, Device.setPage_ne d p.2 fun he =>
    hk p.1 (List.mem_map_of_mem hp) (accountPage_inj.mp he).2]

theorem authorized_of_pieceCells {d d' : Device} (h : pieceCells i d' = pieceCells i d)
    (ha : Authorized env d i password) : Authorized env d' i password :=
  (congrArg Prod.fst h).trans ha

theorem storedPieces_of_pieceCells {d d' : Device} (h : pieceCells i d' = pieceCells i d) :
    storedPieces env d' i password = storedPieces env d i password := by
  have hr : d'.slot (getAccountSlot i).rollKdf = d.slot (getAccountSlot i).rollKdf :=
    congrArg (fun x => x.2.1) h
  have hh : d'.slot (getAccountSlot i).hostKdf = d.slot (getAccountSlot i).hostKdf :=
    congrArg (fun x => x.2.2.1) h
  have hp : d'.page (accountPage i pageIndexKeyPiece) = d.page (accountPage i pageIndexKeyPiece) :=
    congrArg (fun x => x.2.2.2) h
  unfold storedPieces stored608Piece storedDsPiece
  rw [hr, hh, hp]

def saveWrites : Nat := 11

/-- **Writing a secret that returns** leaves it sealed under the password, and
fails only if one of its own operations did. -/
theorem triple_writeSecret (hn : saveWrites ≤ n) :
    Triple (fun d => d.writes = w) (writeSecret env i s password)
      (fun _ d => d.writes = w + saveWrites ∧ Sealed env d i password s)
      (fun _ _ => Refuses env ∧ Troubled env w n) (fun _ => Troubled env w n) := by
  have hn : 11 ≤ n := hn
  refine triple_bind (triple_setNewKeyPieceToSE (by omega)) fun pieces => ?_
  let held := fun d : Device => Authorized env d i password ∧ pieces = storedPieces env d i password
  refine triple_bind (Q := fun iv d => (d.writes = w + 4 ∧ held d) ∧ ∃ k, iv = env.trng k)
    (triple_trngGet fun d hd => ⟨hd, _, rfl⟩) fun iv => ?_
  have hkeep : Triple held (writePages env i (sealAccount env pieces iv s).pages)
      (fun _ => held) (fun _ => held) held :=
    triple_of_frame (frame_writePages_pieceCells _) fun _ _ h hh =>
      ⟨authorized_of_pieceCells h hh.1, hh.2.trans (storedPieces_of_pieceCells h).symm⟩
  rintro d ⟨hd, k, rfl⟩
  refine triple_conseq (triple_and (triple_writePages _ 4 (pages_nodup _) hn) hkeep)
    (fun _ h => h) (fun _ d h => ⟨h.1.1, h.2.1, k, ?_⟩) (fun _ _ h => h.1) (fun _ h => h.1) d hd
  rw [recordOf_of_pages h.1.2, h.2.2]

theorem sealed_setPage {d : Device} (j : AccountIndex) {k : PageIndex} (hk : k ∉ secretPages)
    (x : Page) (h : Sealed env d i password s) :
    Sealed env (d.setPage (accountPage j k) x) i password s := by
  have hp : ∀ l ∈ secretPages,
      (d.setPage (accountPage j k) x).page (accountPage i l) = d.page (accountPage i l) :=
    fun l hl => Device.setPage_ne d x fun he => hk ((accountPage_inj.mp he).2 ▸ hl)
  obtain ⟨ha, n, hr⟩ := h
  have hrec : recordOf (d.setPage (accountPage j k) x) i = recordOf d i := by
    unfold recordOf
    rw [hp _ (by decide), hp _ (by decide), hp _ (by decide), hp _ (by decide),
      hp _ (by decide), hp _ (by decide), hp _ (by decide)]
  have hpieces : storedPieces env (d.setPage (accountPage j k) x) i password
      = storedPieces env d i password := by
    refine storedPieces_of_pieceCells ?_
    unfold pieceCells
    rw [Device.setPage_slot, hp _ (by decide)]
  exact ⟨ha, n, by rw [hrec, hpieces, hr]⟩

def newSaveWrites : Nat := 12

/-- **Saving a new account** leaves the secret sealed under the password, its parameters in RAM. -/
theorem triple_saveAccountSecret_new {a : AccountInfo} :
    Triple (fun d => d.writes = w ∧ d.currentAccountIndex = some i ∧ d.currentAccountInfo = a)
      (saveAccountSecret env i s password true)
      (fun _ d => d.writes = w + newSaveWrites ∧ Sealed env d i password s ∧
        d.currentAccountIndex = some i ∧ d.currentAccountInfo = newAccountInfo env s a ∧
        (Refuses env ∨ paramOf d i = newAccountInfo env s a))
      (fun _ _ => Refuses env ∧ Troubled env w newSaveWrites)
      (fun _ => Troubled env w newSaveWrites) := by
  let session := fun (b : AccountInfo) (d : Device) =>
    d.currentAccountIndex = some i ∧ d.currentAccountInfo = b
  have hkeep : Triple (session a) (writeSecret env i s password) (fun _ => session a)
      (fun _ => session a) (session a) := by
    refine triple_of_frame (R := Keeps fun d : Device =>
      (d.currentAccountIndex, d.currentAccountInfo)) (frame_writeSecret env ?_ s password) ?_
    · exact ⟨⟨fun _ => rfl, fun _ => rfl, fun _ _ => rfl⟩, fun _ _ _ _ => rfl,
        fun _ _ _ _ => rfl⟩
    · exact fun _ _ h hs =>
        ⟨(congrArg Prod.fst h).trans hs.1, (congrArg Prod.snd h).trans hs.2⟩
  refine triple_bind (Q := fun _ d => (d.writes = w + 11 ∧ Sealed env d i password s) ∧
      session a d)
    (triple_conseq (triple_and (triple_writeSecret (n := newSaveWrites) (by decide)) hkeep)
      (fun _ h => h) (fun _ _ h => h) (fun _ _ h => h.1) fun _ h => h.1) fun _ => ?_
  rw [if_pos rfl]
  refine triple_bind (Q := fun _ d => (d.writes = w + 11 ∧ Sealed env d i password s) ∧
      session (newAccountInfo env s a) d)
    (triple_modify fun d hd => ⟨hd.1, hd.2.1, congrArg (newAccountInfo env s) hd.2.2⟩)
    fun _ => triple_ignore ?_
  -- the store of the parameters
  intro d hd
  obtain ⟨⟨hw, hs⟩, hi, ha⟩ := hd
  have hrun : saveCurrentAccountInfo env d
      = seHmacEncryptWrite env (newAccountInfo env s a).toPage
          (accountPage i pageIndexParam) d := by
    unfold saveCurrentAccountInfo
    rw [get_bind, hi, ha]
  rw [hrun]
  have hdone : ∀ b, let d' := if b then
        d.countWrite.setPage (accountPage i pageIndexParam) (newAccountInfo env s a).toPage
      else d.countWrite
      d'.writes = w + newSaveWrites ∧ Sealed env d' i password s ∧
        d'.currentAccountIndex = some i ∧ d'.currentAccountInfo = newAccountInfo env s a ∧
        (b = true → paramOf d' i = newAccountInfo env s a) := by
    intro b
    cases b with
    | false => exact ⟨congrArg (· + 1) hw, hs, hi, ha, nofun⟩
    | true =>
      refine ⟨congrArg (· + 1) hw, sealed_setPage i (by decide) _ hs, hi, ha, fun _ => ?_⟩
      show AccountInfo.ofPage ((d.countWrite.setPage _ _).page _) = _
      rw [Device.setPage_self, AccountInfo.ofPage_toPage]
  refine triple_seWrite (P := fun x => x = d) ?_ ?_ ?_ d rfl
  · rintro _ rfl _
    obtain ⟨h₁, h₂, h₃, h₄, h₅⟩ := hdone true
    exact ⟨h₁, h₂, h₃, h₄, .inr (h₅ rfl)⟩
  · rintro _ st b rfl hreply
    obtain ⟨h₁, h₂, h₃, h₄, _⟩ := hdone b
    exact ⟨h₁, h₂, h₃, h₄, .inl (.inl ⟨_, st, b, hreply⟩)⟩
  · rintro _ b rfl hreply
    exact .inl ⟨11, by decide, by rw [← hw, hreply]; exact SeReply.noConfusion⟩

end

end Keystone3
