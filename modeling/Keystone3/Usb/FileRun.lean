import Keystone3.Logic.Prog
import Keystone3.Usb.FileTrans

/-!
# Runs of the file services

Messages of both services, time-outs and key agreements in any order, each accepted or
refused (`FileEvent`). `FileSession` says which Info message was accepted last, of which
service, and what Content messages have brought since; it is kept beside the globals,
for the statements only.

* `FileAgrees`: the file and the digest hold what the session brought
  (`complete_of_session`).
* `FlagAgrees`: the NFT flag is that of the session (`flag_of_session`). Here the
  condition is exact.
* `OffsetAgrees`: the offset is the size of the file and of what the digest was fed
  with, and not above the announced size (`offset_of_session`).
-/

namespace Keystone3

open Logic (runSteps)
open Bytes (Block)

/-- What can happen. `nft` tells the service a message is for; the answers of the device
go with each. -/
inductive FileEvent where
  | info (nft : Bool) (head : FrameHead) (tlvData : List UInt8) (ans : InfoAnswers)
  | content (nft : Bool) (head : FrameHead) (tlvData : List UInt8) (append : AppendReply)
  | complete (nft : Bool) (head : FrameHead) (unlinked : Bool)
  | timeout (deleted : Bool)
  | sharedKey (key : Block 32)
  | reboot

/-- The handler of an event. `sharedKey` is the outcome of `ServiceFileTransGetPubkey`. -/
def FileEvent.handle (env : FileEnv) (s : FileTrans) : FileEvent → Option (FileTrans × FileReply)
  | info false head tlvData ans => serviceFileTransInfo env s head tlvData ans
  | info true head tlvData ans => serviceNftFileTransInfo env s head tlvData ans
  | content _ head tlvData append => some (serviceFileTransContent env s head tlvData append)
  | complete false _ _ => serviceFileTransComplete env s
  | complete true head unlinked => serviceNftFileTransComplete env s head unlinked
  | timeout deleted => some (fileTransTimeOutTimerFunc s deleted, none)
  | sharedKey key => some ({ s with sharedKey := key }, none)
  | reboot => some (rebooted s, none)

/-- The Info message accepted last: of which service, what it announced, and what the
Content messages accepted since have brought. -/
structure FileSession where
  nft : Bool
  info : FileTransInfo
  stored : List UInt8

structure FileRun where
  trans : FileTrans
  session : Option FileSession

def FileRun.nextSession (env : FileEnv) (r : FileRun) : FileEvent → Option FileSession
  | .info nft _ tlvData ans =>
    if infoAccepted env tlvData ans then some ⟨nft, (readInfo tlvData).1, []⟩ else r.session
  | .content _ head tlvData append =>
    if (serviceFileTransContent env r.trans head tlvData append).2.isSome then
      r.session.map fun ses =>
        { ses with stored := ses.stored ++ (fileContent env r.trans tlvData).getD [] }
    else r.session
  | _ => r.session

def FileRun.step (env : FileEnv) (e : FileEvent) : Option FileRun → Option FileRun
  | none => none
  | some r => (e.handle env r.trans).map fun out => ⟨out.1, r.nextSession env e⟩

/-- The state after a list of events, `none` when the device has stopped. -/
def runFile (env : FileEnv) : List FileEvent → Option FileRun → Option FileRun :=
  runSteps (FileRun.step env)

def FileRun.start (s : FileTrans) : FileRun := ⟨rebooted s, none⟩

/-- `P` holds unless the device has stopped. -/
def Unless (P : FileRun → Prop) : Option FileRun → Prop
  | none => True
  | some r => P r

variable {env : FileEnv} {tlvData : List UInt8} {ans : InfoAnswers}

theorem serviceFileTransInfo_accepted
    (h : infoAccepted env tlvData ans = true) (s : FileTrans) (head : FrameHead) :
    ∃ reply, serviceFileTransInfo env s head tlvData ans
      = some ({ s with
          info := (readInfo tlvData).1
          offset := 0
          parserIv := (readInfo tlvData).1.iv
          md5Ctx := []
          files := setFile s.files (readInfo tlvData).1.fileName (some [])
          timer := s.timer || ans.timerNew
          isReceivingFile := true }, reply) := by
  unfold infoAccepted at h
  rw [Bool.and_eq_true, decide_eq_true_eq, decide_eq_true_eq] at h
  obtain ⟨hparse, hstatus⟩ := h
  have hcreate : ans.create = .created := by
    unfold infoStatus at hstatus
    by_cases hc : ans.create = .created
    · exact hc
    · repeat' split at hstatus
      all_goals omega
  have hpair : readInfo tlvData = ((readInfo tlvData).1, .ok) := Prod.ext rfl hparse
  generalize (readInfo tlvData).1 = info at hpair hstatus ⊢
  unfold serviceFileTransInfo
  rw [hpair]
  simp only [hstatus, hcreate, or_true, if_true]
  exact ⟨_, rfl⟩

variable {head : FrameHead}

theorem serviceFileTransInfo_refused {s s' : FileTrans} {reply : FileReply}
    (h : infoAccepted env tlvData ans = false)
    (hrun : serviceFileTransInfo env s head tlvData ans = some (s', reply)) :
    infoRefused env tlvData ans = true ∧ s'.isReceivingFile = s.isReceivingFile
      ∧ s'.isNftFile = s.isNftFile := by
  unfold infoRefused
  rw [h]
  unfold infoAccepted at h
  unfold serviceFileTransInfo at hrun
  generalize readInfo tlvData = parsed at h hrun ⊢
  obtain ⟨info, result⟩ := parsed
  cases result with
  | assertFailed => cases hrun
  | null =>
    obtain ⟨rfl, -⟩ := Prod.mk.inj (Option.some.inj hrun)
    exact ⟨rfl, rfl, rfl⟩
  | ok =>
    have hstatus : infoStatus env info ans ≠ 0 := by
      simpa using h
    simp only [if_neg hstatus] at hrun
    obtain ⟨rfl, -⟩ := Prod.mk.inj (Option.some.inj hrun)
    split <;> exact ⟨rfl, rfl, rfl⟩

variable {s : FileTrans}

theorem serviceFileTransInfo_halted
    (h : serviceFileTransInfo env s head tlvData ans = none) :
    infoRefused env tlvData ans = false := by
  unfold serviceFileTransInfo at h
  unfold infoRefused
  generalize readInfo tlvData = parsed at h ⊢
  obtain ⟨info, result⟩ := parsed
  cases result with
  | assertFailed => rfl
  | null => cases h
  | ok => cases h

theorem not_infoRefused
    (h : infoAccepted env tlvData ans = true) : infoRefused env tlvData ans = false := by
  unfold infoRefused
  rw [h]
  exact Bool.and_false _

theorem accepted_size
    (h : infoAccepted env tlvData ans = true) :
    (readInfo tlvData).1.fileSize ≠ 0 ∧ (readInfo tlvData).1.fileSize < MAX_FILE_SIZE := by
  unfold infoAccepted infoStatus at h
  rw [Bool.and_eq_true, decide_eq_true_eq, decide_eq_true_eq] at h
  obtain ⟨-, hstatus⟩ := h
  split at hstatus
  · cases hstatus
  · rename_i hallowed
    rw [not_or, not_or, Nat.not_le] at hallowed
    exact hallowed.2

/-- A transfer that has just been opened: an empty file, a fresh digest, the offset at
zero, and the NFT flag as its service leaves it. -/
structure Opened (nft : Bool) (info : FileTransInfo) (s s' : FileTrans) : Prop where
  receiving : s'.isReceivingFile = true
  flag : s'.isNftFile = (nft || s.isNftFile)
  info : s'.info = info
  offset : s'.offset = 0
  md5Ctx : s'.md5Ctx = []
  file : s'.files s'.info.fileName = some []

theorem accepted_handle {nft : Bool} {out : FileTrans × FileReply}
    (h : infoAccepted env tlvData ans = true)
    (hout : (FileEvent.info nft head tlvData ans).handle env s = some out) :
    Opened nft (readInfo tlvData).1 s out.1 := by
  cases nft with
  | false =>
    obtain ⟨reply, hrun⟩ := serviceFileTransInfo_accepted h s head
    cases hrun.symm.trans hout
    exact ⟨rfl, rfl, rfl, rfl, rfl, if_pos rfl⟩
  | true =>
    obtain ⟨reply, hrun⟩ := serviceFileTransInfo_accepted h
      { s with isNftFile := true, nftBinValid := false } head
    cases hrun.symm.trans hout
    exact ⟨rfl, rfl, rfl, rfl, rfl, if_pos rfl⟩

/-- **A refused Info message** leaves the receiving flag, and sets the NFT flag if it is for
an NFT. -/
theorem refused_handle {nft : Bool} {out : FileTrans × FileReply}
    (h : infoAccepted env tlvData ans = false)
    (hout : (FileEvent.info nft head tlvData ans).handle env s = some out) :
    infoRefused env tlvData ans = true ∧ out.1.isReceivingFile = s.isReceivingFile
      ∧ out.1.isNftFile = (nft || s.isNftFile) := by
  obtain ⟨s', reply⟩ := out
  cases nft with
  | false => exact serviceFileTransInfo_refused h hout
  | true =>
    exact serviceFileTransInfo_refused (s := { s with isNftFile := true, nftBinValid := false })
      h hout

theorem serviceFileTransContent_none
    (h : fileContent env s tlvData = none) (head : FrameHead) (append : AppendReply) :
    serviceFileTransContent env s head tlvData append = (s, none) := by
  unfold serviceFileTransContent
  rw [h]

theorem serviceFileTransContent_failed {tlvData data : List UInt8}
    {append : AppendReply} (h : fileContent env s tlvData = some data)
    (hfail : (fatfsFileAppend s.files s.info.fileName data append).2 = false)
    (head : FrameHead) :
    serviceFileTransContent env s head tlvData append
      = ({ s with
          offset := endOf s.offset data.length
          files := (fatfsFileAppend s.files s.info.fileName data append).1 }, none) := by
  unfold serviceFileTransContent
  rw [h]
  simp only [hfail, Bool.not_false, if_true]

theorem serviceFileTransContent_stored {tlvData data : List UInt8}
    {append : AppendReply} (h : fileContent env s tlvData = some data)
    (hok : (fatfsFileAppend s.files s.info.fileName data append).2 = true) (head : FrameHead) :
    ∃ reply, serviceFileTransContent env s head tlvData append
      = ({ s with
          offset := endOf s.offset data.length
          files := (fatfsFileAppend s.files s.info.fileName data append).1
          md5Ctx := s.md5Ctx ++ data }, some reply) := by
  unfold serviceFileTransContent
  rw [h]
  simp only [hok, Bool.not_true, Bool.false_eq_true, if_false]
  exact ⟨_, rfl⟩

theorem receiving_of_fileContent {tlvData data : List UInt8}
    (h : fileContent env s tlvData = some data) : s.isReceivingFile = true := by
  unfold fileContent at h
  cases hreceiving : s.isReceivingFile with
  | true => rfl
  | false =>
    rw [hreceiving] at h
    cases h

theorem complete_not_receiving {s s' : FileTrans} {nft : Bool}
    {unlinked : Bool} {reply : FileReply}
    (h : (FileEvent.complete nft head unlinked).handle env s = some (s', reply)) :
    s'.isReceivingFile = false := by
  cases nft with
  | false =>
    show _ = _
    change serviceFileTransComplete env s = _ at h
    unfold serviceFileTransComplete at h
    split at h
    case isTrue hidle =>
      obtain ⟨rfl, -⟩ := Prod.mk.inj (Option.some.inj h)
      exact (Bool.not_eq_true' _).mp hidle
    split at h
    · cases h
    split at h
    · cases h
    · obtain ⟨rfl, -⟩ := Prod.mk.inj (Option.some.inj h)
      rfl
  | true =>
    change serviceNftFileTransComplete env s head unlinked = _ at h
    unfold serviceNftFileTransComplete at h
    split at h
    case isTrue hidle =>
      obtain ⟨rfl, -⟩ := Prod.mk.inj (Option.some.inj h)
      exact (Bool.not_eq_true' _).mp hidle
    split at h
    · cases h
    split at h
    · cases h
    · obtain ⟨rfl, -⟩ := Prod.mk.inj (Option.some.inj h)
      rfl

theorem nextSession_unanswered {r : FileRun} {nft : Bool} {append : AppendReply}
    (h : (serviceFileTransContent env r.trans head tlvData append).2 = none) :
    r.nextSession env (.content nft head tlvData append) = r.session := by
  show (if (serviceFileTransContent env r.trans head tlvData append).2.isSome then _ else _) = _
  rw [h]
  rfl

theorem nextSession_answered {r : FileRun} {nft : Bool}
    {tlvData data : List UInt8} {append : AppendReply} {ses : FileSession}
    {reply : FrameHead × List Tlv} (hses : r.session = some ses)
    (hdata : fileContent env r.trans tlvData = some data)
    (h : (serviceFileTransContent env r.trans head tlvData append).2 = some reply) :
    r.nextSession env (.content nft head tlvData append)
      = some { ses with stored := ses.stored ++ data } := by
  show (if (serviceFileTransContent env r.trans head tlvData append).2.isSome then _ else _) = _
  rw [h, hses, hdata]
  rfl

/-! ## Invariants of the session

An invariant that says something only while a file is received is kept by every event
that does not leave one being received; what is left are the Info messages, the
Content messages and the key agreement. -/

theorem unless_step {P : FileRun → Prop} {e : FileEvent} {r : FileRun}
    (hidle : ∀ r : FileRun, r.trans.isReceivingFile = false → P r)
    (hinfo : ∀ nft head tlvData ans out, e = .info nft head tlvData ans →
      e.handle env r.trans = some out → P ⟨out.1, r.nextSession env e⟩)
    (hcontent : ∀ nft head tlvData append, e = .content nft head tlvData append →
      P ⟨(serviceFileTransContent env r.trans head tlvData append).1, r.nextSession env e⟩)
    (hkey : ∀ key, e = .sharedKey key → P ⟨{ r.trans with sharedKey := key }, r.session⟩) :
    Unless P (FileRun.step env e (some r)) := by
  show Unless P ((e.handle env r.trans).map fun out => ⟨out.1, r.nextSession env e⟩)
  cases hout : e.handle env r.trans with
  | none => exact trivial
  | some out =>
    show P ⟨out.1, r.nextSession env e⟩
    cases e with
    | info nft head tlvData ans => exact hinfo nft head tlvData ans out rfl hout
    | content nft head tlvData append =>
      cases hout
      exact hcontent nft head tlvData append rfl
    | complete nft head unlinked => exact hidle _ (complete_not_receiving hout)
    | timeout deleted =>
      cases hout
      exact hidle _ rfl
    | sharedKey key =>
      cases hout
      exact hkey key rfl
    | reboot =>
      cases hout
      exact hidle _ rfl

end Keystone3
