import Keystone3.Se.Interface

/-!
# Key pieces and data hashes in the secure elements

`se_manager.c`. The key that seals an account's secret is made of two pieces. One comes
out of the ATECC608B, from the password and two key slots that only the password's
authorisation key opens; the other is a random key masked with a hash of the password
and stored in a DS28S60 page.
-/

namespace Keystone3

open Logic.Prog
open Bytes (Block)

abbrev pageNumPerAccount : Nat := 12

/-- A page of an account: `PAGE_INDEX_*`. -/
abbrev PageIndex : Type := Fin pageNumPerAccount

abbrev pageIndexIv : PageIndex := 0
abbrev pageIndexEntropyOrTonEntropyH32 : PageIndex := 1
abbrev pageIndexSeedH32 : PageIndex := 2
abbrev pageIndexSeedL32 : PageIndex := 3
abbrev pageIndexSlip39EmsOrTonEntropyL32 : PageIndex := 4
abbrev pageIndexReserved : PageIndex := 5
abbrev pageIndexHmac : PageIndex := 6
abbrev pageIndexKeyPiece : PageIndex := 7
abbrev pageIndexPasswordHash : PageIndex := 8
abbrev pageIndexParam : PageIndex := 9
abbrev pageIndexMultisigConfigHash : PageIndex := 10

def pageWallet1PubKeyHash : Nat := 85

def pagePublicInfo : Nat := 88

/-- The page with index `k` of account `i`. -/
def accountPage (i : AccountIndex) (k : PageIndex) : Nat := i.val * pageNumPerAccount + k.val

/-- The page of the wallet-data hash of account `i`. -/
def walletHashPage (i : AccountIndex) : Nat := pageWallet1PubKeyHash + i.val

theorem accountPage_inj {i j : AccountIndex} {k l : PageIndex} :
    accountPage i k = accountPage j l ↔ i = j ∧ k = l := by
  constructor
  · intro h
    have hk : k.val < 12 := k.isLt
    have hl : l.val < 12 := l.isLt
    have h : i.val * 12 + k.val = j.val * 12 + l.val := h
    exact ⟨Fin.ext (by omega), Fin.ext (by omega)⟩
  · rintro ⟨rfl, rfl⟩
    rfl

variable (i : AccountIndex)

theorem accountPage_lt (k : PageIndex) : accountPage i k < 36 := by
  have hi := i.isLt
  have hk : k.val < 12 := k.isLt
  show i.val * 12 + k.val < 36
  omega

theorem accountPage_ne_walletHashPage (i j : AccountIndex) (k : PageIndex) :
    accountPage i k ≠ walletHashPage j := by
  have h := accountPage_lt i k
  unfold walletHashPage pageWallet1PubKeyHash
  omega

theorem accountPage_ne_pagePublicInfo (k : PageIndex) :
    accountPage i k ≠ pagePublicInfo := by
  have h := accountPage_lt i k
  unfold pagePublicInfo
  omega

theorem walletHashPage_ne_pagePublicInfo :
    walletHashPage i ≠ pagePublicInfo := by
  have hi := i.isLt
  unfold walletHashPage pageWallet1PubKeyHash pagePublicInfo
  omega

theorem page_setPage (d : Device) (i j : AccountIndex) (k l : PageIndex) (x : Page) :
    (d.setPage (accountPage i k) x).page (accountPage j l)
      = if j = i ∧ l = k then x else d.page (accountPage j l) := by
  by_cases h : j = i ∧ l = k
  · rw [if_pos h, h.1, h.2, Device.setPage_self]
  · rw [if_neg h, Device.setPage_ne d x fun he => h (accountPage_inj.mp he)]

structure AccountSlot where
  auth : Nat
  rollKdf : Nat
  hostKdf : Nat

def getAccountSlot (accountIndex : AccountIndex) : AccountSlot :=
  match accountIndex with
  | 0 => { auth := 3, rollKdf := 4, hostKdf := 5 }
  | 1 => { auth := 6, rollKdf := 7, hostKdf := 9 }
  | 2 => { auth := 10, rollKdf := 11, hostKdf := 12 }

def AccountSlot.all (s : AccountSlot) : List Nat := [s.auth, s.rollKdf, s.hostKdf]

theorem getAuthSlot_rollKdf :
    getAuthSlot (getAccountSlot i).rollKdf = some (getAccountSlot i).auth := by
  revert i
  decide

theorem getAuthSlot_hostKdf :
    getAuthSlot (getAccountSlot i).hostKdf = some (getAccountSlot i).auth := by
  revert i
  decide

theorem auth_ne_rollKdf :
    (getAccountSlot i).auth ≠ (getAccountSlot i).rollKdf := by
  revert i
  decide

theorem auth_ne_hostKdf :
    (getAccountSlot i).auth ≠ (getAccountSlot i).hostKdf := by
  revert i
  decide

theorem slots_disjoint {i j : AccountIndex} (h : j ≠ i) :
    ∀ s ∈ (getAccountSlot j).all, ∀ t ∈ (getAccountSlot i).all, s ≠ t := by
  revert i j
  decide

def passwordMaxLen : Nat := 128

def hashWithSalt (env : Env) (inData : List UInt8) (saltString : String) : Page :=
  env.crypto.hmacSha256 saltString.toUTF8.toList
    (env.crypto.hmacSha256 env.otp.salt.bytes inData).bytes

/-- `HashWithSalt` of the bytes `strnlen_s` counts of a password. -/
def hashPassword (env : Env) (password : CString) (saltString : String) : Page :=
  hashWithSalt env (password.take passwordMaxLen) saltString

def authKeyOf (env : Env) (password : CString) : Page := hashPassword env password "auth_key"

def passwordHashOf (env : Env) (password : CString) : Page :=
  hashPassword env password "password hash"

/-- `SHA256_COUNT` rounds of SHA-256. -/
def sha256Rounds (env : Env) (x : Page) : Page :=
  env.crypto.sha256 (env.crypto.sha256 (env.crypto.sha256 x.bytes).bytes).bytes

def setNewKeyPieceToAtecc608b (env : Env) (accountIndex : AccountIndex) (password : CString) :
    Account Page := do
  let authKey := authKeyOf env password
  let accountSlot := getAccountSlot accountIndex
  seEncryptWrite env accountSlot.auth authKey
  seDeriveKey env accountSlot.rollKdf authKey
  let hostRandom ← trngGet env
  seEncryptWrite env accountSlot.hostKdf hostRandom
  let inData := hashPassword env password "password_atecc608b"
  let inData ← seKdf env accountSlot.rollKdf authKey inData
  let outData ← seKdf env accountSlot.hostKdf authKey inData
  return sha256Rounds env outData

def setNewKeyPieceToDs28s60 (env : Env) (accountIndex : AccountIndex) (password : CString) :
    Account Page := do
  let passwordHash := hashPassword env password "ds28s60 digest"
  let randomKey ← trngGet env
  let xData := passwordHash.xor randomKey
  seHmacEncryptWrite env xData (accountPage accountIndex pageIndexKeyPiece)
  return randomKey

def getKeyPieceFromAtecc608b (env : Env) (accountIndex : AccountIndex) (password : CString) :
    Account Page := do
  let authKey := authKeyOf env password
  let inData := hashPassword env password "password_atecc608b"
  let accountSlot := getAccountSlot accountIndex
  let inData ← seKdf env accountSlot.rollKdf authKey inData
  let outData ← seKdf env accountSlot.hostKdf authKey inData
  return sha256Rounds env outData

def getKeyPieceFromDs28s60 (env : Env) (accountIndex : AccountIndex) (password : CString) :
    Account Page := do
  let passwordHash := hashPassword env password "ds28s60 digest"
  let xData ← seHmacEncryptRead env (accountPage accountIndex pageIndexKeyPiece)
  return passwordHash.xor xData

def setNewKeyPieceToSE (env : Env) (accountIndex : AccountIndex) (password : CString) :
    Account (Block 64) := do
  let piece608 ← setNewKeyPieceToAtecc608b env accountIndex password
  let pieceDs ← setNewKeyPieceToDs28s60 env accountIndex password
  return piece608.append pieceDs

/-- The return code, and what is then in the buffer that
held `pieces` before. -/
def getKeyPieceFromSE (env : Env) (accountIndex : AccountIndex) (pieces : Block 64)
    (password : CString) : Account (Except ErrCode Unit × Block 64) := do
  match ← attempt (getKeyPieceFromAtecc608b env accountIndex password) with
  | .error e => return (.error e, pieces)
  | .ok piece608 =>
    let pieces := piece608.append (Block.back (m := 32) (n := 32) pieces)
    match ← attempt (getKeyPieceFromDs28s60 env accountIndex password) with
    | .error e => return (.error e, pieces)
    | .ok pieceDs => return (.ok (), (Block.front (m := 32) (n := 32) pieces).append pieceDs)

def atecc608bPiece (env : Env) (password : CString) (roll host : Page) : Page :=
  sha256Rounds env
    (env.crypto.kdf host (env.crypto.kdf roll (hashPassword env password "password_atecc608b")))

/-- The key slots of `i` are open to the password. -/
def Authorized (env : Env) (d : Device) (i : AccountIndex) (password : CString) : Prop :=
  d.slot (getAccountSlot i).auth = authKeyOf env password

def stored608Piece (env : Env) (d : Device) (i : AccountIndex) (password : CString) : Page :=
  atecc608bPiece env password (d.slot (getAccountSlot i).rollKdf)
    (d.slot (getAccountSlot i).hostKdf)

def storedDsPiece (env : Env) (d : Device) (i : AccountIndex) (password : CString) : Page :=
  (hashPassword env password "ds28s60 digest").xor (d.page (accountPage i pageIndexKeyPiece))

def storedPieces (env : Env) (d : Device) (i : AccountIndex) (password : CString) : Block 64 :=
  (stored608Piece env d i password).append (storedDsPiece env d i password)

/-- The observables that an operation on the given pages and the key slots of
account `i` leaves alone. -/
structure Misses {β : Type} (i : AccountIndex) (ks : List PageIndex) (f : Device → β) : Prop
    extends Blind f where
  page : ∀ k ∈ ks, ∀ (d : Device) (x : Page), f (d.setPage (accountPage i k) x) = f d
  slot : ∀ s ∈ (getAccountSlot i).all, ∀ (d : Device) (x : Page), f (d.setSlot s x) = f d

section

variable {β : Type} {f : Device → β} {i : AccountIndex} (env : Env) (password : CString)

theorem frame_setNewKeyPieceToAtecc608b {ks : List PageIndex} (hf : Misses i ks f) :
    Frame (Keeps f) (setNewKeyPieceToAtecc608b env i password) := by
  have hR := keeps_preorder f
  have hb := hf.toBlind
  refine frame_bind hR (frame_seEncryptWrite env hb fun d => hf.slot _ ?_ d _) fun _ =>
    frame_bind hR (frame_seDeriveKey env hb _ fun d x => hf.slot _ ?_ d x) fun _ =>
    frame_bind hR (frame_trngGet env hb) fun _ =>
    frame_bind hR (frame_seEncryptWrite env hb fun d => hf.slot _ ?_ d _) fun _ =>
    frame_bind hR (frame_seKdf env hb.reading _ _ _) fun _ =>
    frame_bind hR (frame_seKdf env hb.reading _ _ _) fun _ => frame_pure hR _
  all_goals
    unfold AccountSlot.all
    simp only [List.mem_cons, true_or, or_true]

theorem frame_setNewKeyPieceToSE {ks : List PageIndex} (hf : Misses i ks f)
    (hk : pageIndexKeyPiece ∈ ks) : Frame (Keeps f) (setNewKeyPieceToSE env i password) := by
  have hR := keeps_preorder f
  have hb := hf.toBlind
  exact frame_bind hR (frame_setNewKeyPieceToAtecc608b env password hf) fun _ =>
    frame_bind hR
      (frame_bind hR (frame_trngGet env hb) fun _ =>
        frame_bind hR (frame_seHmacEncryptWrite env hb fun d => hf.page _ hk d _) fun _ =>
          frame_pure hR _)
      fun _ => frame_pure hR _

end

section

variable {env : Env} {i : AccountIndex} {password : CString} {w n : Nat}

private theorem triple_seKdf_within {P : Device → Prop} {slot r : Nat} {inData : Page}
    {Q : Page → Device → Prop} (hslot : getAuthSlot slot = some (getAccountSlot i).auth)
    (hr : r < 2) (hP : ∀ d, P d → d.writes = w + 3 ∧ d.reads = r)
    (ha : ∀ d, P d → Authorized env d i password)
    (hok : ∀ d, P d → Q (env.crypto.kdf (d.slot slot) inData) d.countRead) :
    Triple P (seKdf env slot (authKeyOf env password) inData) Q
      (fun _ _ => Refuses env ∧ Troubled env w n) (fun _ => Troubled env w n) :=
  triple_bind (Q := fun _ d => P d)
    (triple_authorize hslot (fun _ hd _ => hd) fun d hd hne => absurd (ha d hd) hne)
    fun _ => triple_seRead_within hr hP hok

theorem triple_setNewKeyPieceToAtecc608b (hn : 3 ≤ n) :
    Triple (fun d => d.writes = w) (setNewKeyPieceToAtecc608b env i password)
      (fun piece d => d.writes = w + 3 ∧ Authorized env d i password ∧
        piece = stored608Piece env d i password)
      (fun _ _ => Refuses env ∧ Troubled env w n) (fun _ => Troubled env w n) := by
  let opened := fun (k : Nat) (d : Device) => d.writes = w + k ∧ Authorized env d i password
  -- the authorisation key
  refine triple_bind (Q := fun _ d => opened 1 d) (triple_seWrite_within (k := 0) (by omega)
    (fun d hd => hd) fun d hd => ⟨congrArg (· + 1) hd, Device.setSlot_self _ _ _⟩) fun _ => ?_
  -- the rolling key
  refine triple_bind (Q := fun _ d => opened 2 d) ?derive fun _ => ?_
  case derive =>
    refine triple_bind (Q := fun _ d => opened 1 d)
      (triple_authorize (getAuthSlot_rollKdf i) (fun d hd _ => hd) fun d hd hne => absurd hd.2 hne)
      fun _ => triple_bind (Q := fun _ d => opened 1 d) (triple_trngGet fun d hd => hd)
      fun _ => ?_
    exact triple_seWrite_within (k := 1) (by omega) (fun d hd => hd.1) fun d hd =>
      ⟨congrArg (· + 1) hd.1, (Device.setSlot_ne _ _ (auth_ne_rollKdf i)).trans hd.2⟩
  -- the host key
  refine triple_bind (Q := fun _ d => opened 2 d) (triple_trngGet fun d hd => hd) fun _ => ?_
  refine triple_bind (Q := fun _ d => opened 3 d ∧ d.reads = 0)
    (triple_seWrite_within (k := 2) (by omega) (fun d hd => hd.1) fun d hd =>
      ⟨⟨congrArg (· + 1) hd.1, (Device.setSlot_ne _ _ (auth_ne_hostKdf i)).trans hd.2⟩, rfl⟩)
    fun _ => ?_
  -- the two KDF steps only read, so what they return is still what the slots give
  refine triple_bind (Q := fun x d => (opened 3 d ∧ d.reads = 1) ∧ x = env.crypto.kdf
      (d.slot (getAccountSlot i).rollKdf) (hashPassword env password "password_atecc608b"))
    (triple_seKdf_within (getAuthSlot_rollKdf i) (r := 0) (by omega)
      (fun d hd => ⟨hd.1.1, hd.2⟩) (fun d hd => hd.1.2)
      fun d hd => ⟨⟨hd.1, congrArg (· + 1) hd.2⟩, rfl⟩) fun x => ?_
  refine triple_bind (Q := fun y d => opened 3 d ∧
      sha256Rounds env y = stored608Piece env d i password)
    (triple_seKdf_within (getAuthSlot_hostKdf i) (r := 1) (by omega)
      (fun d hd => ⟨hd.1.1.1, hd.1.2⟩) (fun d hd => hd.1.1.2) fun d hd => ⟨hd.1.1, ?_⟩)
    fun y => triple_pure fun d hd => ⟨hd.1.1, hd.1.2, hd.2⟩
  rw [hd.2]
  rfl

/-- **Setting the key pieces** opens the slots to the password, and the pieces
returned are the ones the device then holds. -/
theorem triple_setNewKeyPieceToSE (hn : 4 ≤ n) :
    Triple (fun d => d.writes = w) (setNewKeyPieceToSE env i password)
      (fun pieces d => d.writes = w + 4 ∧ Authorized env d i password ∧
        pieces = storedPieces env d i password)
      (fun _ _ => Refuses env ∧ Troubled env w n) (fun _ => Troubled env w n) := by
  refine triple_bind (triple_setNewKeyPieceToAtecc608b (by omega)) fun piece => ?_
  let held := fun (k : Nat) (d : Device) => d.writes = w + k ∧ Authorized env d i password ∧
    piece = stored608Piece env d i password
  refine triple_bind (Q := fun k d => held 4 d ∧ k = storedDsPiece env d i password) ?_
    fun k => triple_pure fun d hd => ⟨hd.1.1, hd.1.2.1, ?_⟩
  · refine triple_bind (Q := fun _ d => held 3 d) (triple_trngGet fun d hd => hd) fun k => ?_
    refine triple_bind (Q := fun _ d => held 4 d ∧ k = storedDsPiece env d i password)
      (triple_seWrite_within (k := 3) (by omega) (fun d hd => hd.1)
        fun d hd => ⟨⟨congrArg (· + 1) hd.1, hd.2⟩, ?_⟩)
      fun _ => triple_pure fun d hd => hd
    unfold storedDsPiece
    rw [Device.setPage_self, Block.xor_xor_cancel]
  · rw [hd.1.2.2, hd.2]
    rfl

/-- The reads of one stretch without a write are answered. -/
def AnswersReads (env : Env) (w : Nat) : Prop := ∀ r, env.readReply w r = .answered

/-- The device after `n` reads. -/
def Device.countReads (d : Device) (n : Nat) : Device := { d with reads := d.reads + n }

theorem seKdf_answered {d : Device} {slot : Nat} {inData : Page}
    (hslot : getAuthSlot slot = some (getAccountSlot i).auth)
    (hr : AnswersReads env d.writes) (ha : Authorized env d i password) :
    seKdf env slot (authKeyOf env password) inData d
      = (.ok (env.crypto.kdf (d.slot slot) inData), d.countRead) := by
  unfold seKdf
  rw [bind_ok (authorize_ok hslot ha)]
  exact seRead_answered (hr _)

theorem getKeyPieceFromAtecc608b_answered {d : Device} (hr : AnswersReads env d.writes)
    (ha : Authorized env d i password) :
    getKeyPieceFromAtecc608b env i password d
      = (.ok (stored608Piece env d i password), d.countReads 2) := by
  unfold getKeyPieceFromAtecc608b
  rw [bind_ok (seKdf_answered (getAuthSlot_rollKdf i) hr ha),
    bind_ok (seKdf_answered (d := d.countRead) (getAuthSlot_hostKdf i) hr ha)]
  rfl

/-- **Getting the key pieces** with the password that opens the slots returns
the pieces the device holds. -/
theorem getKeyPieceFromSE_answered {d : Device} (pieces : Block 64)
    (hr : AnswersReads env d.writes) (ha : Authorized env d i password) :
    getKeyPieceFromSE env i pieces password d
      = (.ok (.ok (), storedPieces env d i password), d.countReads 3) := by
  have hds : getKeyPieceFromDs28s60 env i password (d.countReads 2)
      = (.ok (storedDsPiece env d i password), d.countReads 3) := by
    unfold getKeyPieceFromDs28s60 seHmacEncryptRead
    rw [bind_ok (seRead_answered (d := d.countReads 2) (hr _))]
    rfl
  unfold getKeyPieceFromSE
  rw [bind_ok (attempt_ok (getKeyPieceFromAtecc608b_answered hr ha))]
  dsimp only
  rw [bind_ok (attempt_ok hds)]
  dsimp only
  rw [Block.front_append]
  rfl

theorem getKeyPieceFromSE_unauthorized {d : Device} (pieces : Block 64)
    (ha : ¬Authorized env d i password) :
    getKeyPieceFromSE env i pieces password d
      = (.ok (.error (.se atcaCheckmacVerifyFailed), pieces), d) := by
  have hauth : seKdf env (getAccountSlot i).rollKdf (authKeyOf env password)
      (hashPassword env password "password_atecc608b") d
        = (.error (.se atcaCheckmacVerifyFailed), d) := by
    unfold seKdf authorize
    rw [getAuthSlot_rollKdf]
    refine bind_error ?_
    show require (d.slot (getAccountSlot i).auth == authKeyOf env password) _ d = _
    rw [beq_false_of_ne ha]
    rfl
  have h608 : getKeyPieceFromAtecc608b env i password d
      = (.error (.se atcaCheckmacVerifyFailed), d) := bind_error hauth
  unfold getKeyPieceFromSE
  rw [bind_ok (attempt_error h608)]
  rfl

theorem frame_getKeyPieceFromSE {R : Device → Device → Prop} (h : Reading R)
    (pieces : Block 64) : Frame R (getKeyPieceFromSE env i pieces password) := by
  have hR := h.toPreorder
  have h608 : Frame R (getKeyPieceFromAtecc608b env i password) :=
    frame_bind hR (frame_seKdf env h _ _ _) fun _ =>
      frame_bind hR (frame_seKdf env h _ _ _) fun _ => frame_pure hR _
  have hds : Frame R (getKeyPieceFromDs28s60 env i password) :=
    frame_bind hR (frame_seHmacEncryptRead env h _) fun _ => frame_pure hR _
  refine frame_bind hR (frame_attempt h608) fun r => ?_
  cases r with
  | error e => exact frame_pure hR _
  | ok piece =>
    refine frame_bind hR (frame_attempt hds) fun r => ?_
    cases r with
    | error e => exact frame_pure hR _
    | ok piece' => exact frame_pure hR _

end

/-- Every byte is `0xFF` or every byte is zero: what the verify routines take
for a page that was never set. -/
def blankPage (data : Page) : Bool := checkAllFF data || checkAllZero data

/-- The body that `SetWalletDataHash` and `SetMultisigDataHash` share. -/
def setDataHash (env : Env) (page : Nat) (info : Page) : Account Unit :=
  seHmacEncryptWrite env info page

/-- The body that `VerifyWalletDataHash` and `VerifyMultisigWalletDataHash`
share. On a blank page the blank data itself is written back, not `info`. -/
def verifyDataHash (env : Env) (page : Nat) (info : Page) : Account Bool := do
  let garbage ← stackGarbage env
  let ret ← attempt (seHmacEncryptRead env page)
  let data := match ret with
    | .ok data => data
    | .error _ => Block.front (m := 32) (n := 32) garbage
  if ret.isOk && data == info then
    return true
  else if blankPage data then do
    ignore (setDataHash env page data)
    return true
  else
    return false

def setWalletDataHash (env : Env) (index : AccountIndex) (info : Page) : Account Unit :=
  setDataHash env (walletHashPage index) info

def verifyWalletDataHash (env : Env) (index : AccountIndex) (info : Page) : Account Bool :=
  verifyDataHash env (walletHashPage index) info

def setMultisigDataHash (env : Env) (index : AccountIndex) (info : Page) : Account Unit :=
  setDataHash env (accountPage index pageIndexMultisigConfigHash) info

def verifyMultisigWalletDataHash (env : Env) (index : AccountIndex) (info : Page) :
    Account Bool :=
  verifyDataHash env (accountPage index pageIndexMultisigConfigHash) info

theorem frame_verifyDataHash {β : Type} {f : Device → β} (env : Env) (hf : Blind f) {page : Nat}
    (hp : ∀ (d : Device) (x : Page), f (d.setPage page x) = f d) (info : Page) :
    Frame (Keeps f) (verifyDataHash env page info) := by
  have hR := keeps_preorder f
  refine frame_bind hR (frame_stackGarbage env hR) fun g =>
    frame_bind hR (frame_attempt (frame_seHmacEncryptRead env hf.reading page)) fun r => ?_
  generalize (match r with
    | .ok data => data
    | .error _ => Block.front (m := 32) (n := 32) g) = data
  dsimp only
  split
  · exact frame_pure hR _
  · split
    · exact frame_bind hR (frame_ignore (frame_seHmacEncryptWrite env hf fun d => hp d _))
        fun _ => frame_pure hR _
    · exact frame_pure hR _

end Keystone3
