import Keystone3.Usb.FileRun

/-!
# What a session of the file services guarantees

The three invariants of `Keystone3.Usb.FileRun`, each with the condition that its steps
have to meet.
-/

namespace Keystone3

open Logic (AllSteps runSteps_inv_of allSteps_iff_along)
open Bytes (Block)

/-- The file and the digest hold what the session has brought, and the globals are what
it announced. -/
def FileAgrees (r : FileRun) : Prop :=
  r.trans.isReceivingFile = true → ∃ ses, r.session = some ses ∧ r.trans.info = ses.info
    ∧ r.trans.md5Ctx = ses.stored ∧ r.trans.files ses.info.fileName = some ses.stored

/-- The volume takes all of a piece, or none of it and says so. -/
def AppendReply.Whole (data : List UInt8) : AppendReply → Prop
  | .openFailed => True
  | .wrote written true => data.length ≤ written
  | .wrote written false => written = 0

/-- No Info message is refused while a file is being received, and every piece is written
wholly or not at all. -/
def FileSafe (env : FileEnv) (e : FileEvent) : Option FileRun → Prop
  | none => True
  | some r =>
    match e with
    | .info _ _ tlvData ans =>
      infoRefused env tlvData ans = true → r.trans.isReceivingFile = false
    | .content _ _ tlvData append =>
      ∀ data ∈ fileContent env r.trans tlvData, append.Whole data
    | _ => True

instance (data : List UInt8) : (append : AppendReply) → Decidable (append.Whole data)
  | .openFailed => isTrue trivial
  | .wrote written true => inferInstanceAs (Decidable (data.length ≤ written))
  | .wrote written false => inferInstanceAs (Decidable (written = 0))

instance (env : FileEnv) (e : FileEvent) (r : Option FileRun) : Decidable (FileSafe env e r) :=
  match r, e with
  | none, _ => isTrue trivial
  | some _, .info _ _ _ _ => inferInstanceAs (Decidable (_ → _))
  | some r, .content _ _ tlvData append =>
    inferInstanceAs (Decidable (∀ data ∈ fileContent env r.trans tlvData, append.Whole data))
  | some _, .complete _ _ _ => isTrue trivial
  | some _, .timeout _ => isTrue trivial
  | some _, .sharedKey _ => isTrue trivial
  | some _, .reboot => isTrue trivial

theorem setFile_same (files : FileName → Option (List UInt8)) (path : FileName)
    (content : Option (List UInt8)) : setFile files path content path = content := if_pos rfl

theorem fatfsFileAppend_whole {files : FileName → Option (List UInt8)} {path : FileName}
    {old data : List UInt8} {append : AppendReply} (hold : files path = some old)
    (hwhole : append.Whole data) :
    (fatfsFileAppend files path data append).1 path
      = some (if (fatfsFileAppend files path data append).2 then old ++ data else old) := by
  cases append with
  | openFailed => exact hold
  | wrote written ok =>
    show setFile files path (some ((files path).getD [] ++ data.take written)) path
      = some (if ok then old ++ data else old)
    rw [setFile_same, hold]
    cases ok with
    | true =>
      rw [if_pos rfl, List.take_of_length_le hwhole]
      rfl
    | false =>
      obtain rfl : written = 0 := hwhole
      rw [List.take_zero]
      exact congrArg some (List.append_nil old)

variable {env : FileEnv} {r : FileRun}

theorem fileAgrees_step {e : FileEvent}
    (hsafe : FileSafe env e (some r)) (h : FileAgrees r) :
    Unless FileAgrees (FileRun.step env e (some r)) := by
  apply unless_step
  case hidle =>
    intro r' hidle hreceiving
    rw [hidle] at hreceiving
    cases hreceiving
  case hinfo =>
    rintro nft head tlvData ans out rfl hout
    cases haccepted : infoAccepted env tlvData ans with
    | true =>
      have hopened := accepted_handle haccepted hout
      refine fun _ => ⟨⟨nft, (readInfo tlvData).1, []⟩, if_pos haccepted, hopened.info,
        hopened.md5Ctx, ?_⟩
      rw [← hopened.info]
      exact hopened.file
    | false =>
      obtain ⟨hrefused, hsame, -⟩ := refused_handle haccepted hout
      intro hreceiving
      rw [hsame, show r.trans.isReceivingFile = false from hsafe hrefused] at hreceiving
      cases hreceiving
  case hcontent =>
    rintro nft head tlvData append rfl
    cases hdata : fileContent env r.trans tlvData with
    | none =>
      have hrun := serviceFileTransContent_none hdata head append
      rw [nextSession_unanswered (by rw [hrun]), hrun]
      exact h
    | some data =>
      obtain ⟨ses, hses, hinfo, hmd5, hfile⟩ := h (receiving_of_fileContent hdata)
      have hname : r.trans.files r.trans.info.fileName = some ses.stored := by
        rw [hinfo]
        exact hfile
      have happend := fatfsFileAppend_whole hname (hsafe data hdata)
      rw [hinfo] at happend
      cases hok : (fatfsFileAppend r.trans.files r.trans.info.fileName data append).2 with
      | false =>
        have hrun := serviceFileTransContent_failed hdata hok head
        rw [nextSession_unanswered (by rw [hrun]), hrun]
        rw [hinfo] at hok
        rw [hok] at happend
        exact fun _ => ⟨ses, hses, hinfo, hmd5, by rw [hinfo]; exact happend⟩
      | true =>
        obtain ⟨reply, hrun⟩ := serviceFileTransContent_stored hdata hok head
        rw [nextSession_answered hses hdata (by rw [hrun]), hrun]
        rw [hinfo] at hok
        rw [hok] at happend
        refine fun _ => ⟨_, rfl, hinfo, ?_, by rw [hinfo]; exact happend⟩
        exact congrArg (· ++ data) hmd5
  case hkey =>
    rintro key rfl
    exact h

/-- A Complete message that would pass its checks installs what the last accepted Info message
announced, and just the bytes of that session. -/
def InstallsSession (env : FileEnv) (r : FileRun) : Prop :=
  r.trans.isReceivingFile = true → completePasses env r.trans = true →
    ∃ ses, r.session = some ses ∧ r.trans.info = ses.info ∧ signatureValid env ses.info = true
      ∧ r.trans.files ses.info.fileName = some ses.stored ∧ env.md5 ses.stored = ses.info.md5

/-- **The file that is installed is the one that was announced**, in every run in which no
Info message is refused while a file is being received and every piece is written wholly
or not at all. -/
theorem complete_of_session (env : FileEnv) (s : FileTrans) (events : List FileEvent)
    (hsafe : AllSteps (FileRun.step env) (FileSafe env) events (some (FileRun.start s))) :
    Unless (InstallsSession env) (runFile env events (some (FileRun.start s))) := by
  have hinv : Unless FileAgrees (runFile env events (some (FileRun.start s))) :=
    runSteps_inv_of (fun e r hc h => by
      cases r with
      | none => exact trivial
      | some r => exact fileAgrees_step hc h) events _ hsafe nofun
  cases hend : runFile env events (some (FileRun.start s)) with
  | none => exact trivial
  | some r =>
    rw [hend] at hinv
    intro hreceiving hpasses
    obtain ⟨ses, hses, hinfo, hmd5, hfile⟩ := hinv hreceiving
    unfold completePasses at hpasses
    rw [Bool.and_eq_true, beq_iff_eq, hinfo, hmd5] at hpasses
    exact ⟨ses, hses, hinfo, hpasses.2, hfile, hpasses.1⟩

/-- A digest that is the first bytes, signatures that are all valid, a cipher that does
nothing. -/
def sampleFileEnv : FileEnv where
  md5 := Block.ofBytes 16
  sha256 := Block.ofBytes 32
  k1VerifySignature := fun _ _ => true
  aes := fun _ => .plain

def sampleTrans : FileTrans :=
  rebooted ⟨false, false, .cleared, 0, false, [], Block.zero 16, Block.zero 32, false, fun _ => none⟩

/-- An Info message for a firmware of `size` bytes with this digest. -/
def sampleInfo (size : UInt8) (md5 : List UInt8) : List UInt8 :=
  [1, 14] ++ firmwareName ++ [0] ++ [2, 4, size, 0, 0, 0] ++ [3, 16] ++ (Block.ofBytes 16 md5).bytes

def sampleContent (offset : UInt8) (data : List UInt8) : List UInt8 :=
  [1, 4, offset, 0, 0, 0] ++ [2, UInt8.ofNat data.length] ++ data

def sampleAnswers : InfoAnswers := ⟨1, false, 90, .created, true⟩

def lowBattery : InfoAnswers := { sampleAnswers with displayPercent := 10 }

def sampleHead : FrameHead := ⟨0x6B, 0, 1, 2, 1, 2, 0⟩

theorem complete_of_session_sample :
    Unless (InstallsSession sampleFileEnv)
      (runFile sampleFileEnv
        [.info false sampleHead (sampleInfo 2 [1, 2]) sampleAnswers,
          .content false sampleHead (sampleContent 0 [1, 2]) (.wrote 2 true)]
        (some (FileRun.start sampleTrans))) :=
  complete_of_session _ _ _ (by decide)

/-- An Info message that is refused for the battery replaces what the session announced:
its file is installed. -/
theorem refused_info_installs :
    ¬Unless (InstallsSession sampleFileEnv)
      (runFile sampleFileEnv
        [.info false sampleHead (sampleInfo 2 [1, 2]) sampleAnswers,
          .info false sampleHead (sampleInfo 2 [3, 4]) lowBattery,
          .content false sampleHead (sampleContent 0 [3, 4]) (.wrote 2 true)]
        (some (FileRun.start sampleTrans))) := by
  intro h
  have hend : (runFile sampleFileEnv
      [.info false sampleHead (sampleInfo 2 [1, 2]) sampleAnswers,
        .info false sampleHead (sampleInfo 2 [3, 4]) lowBattery,
        .content false sampleHead (sampleContent 0 [3, 4]) (.wrote 2 true)]
      (some (FileRun.start sampleTrans))).map
        (fun r => (r.trans.isReceivingFile, completePasses sampleFileEnv r.trans, r.trans.info.md5,
          r.session.map (·.info.md5)))
      = some (true, true, Block.ofBytes 16 [3, 4], some (Block.ofBytes 16 [1, 2])) := by
    decide
  obtain ⟨r, hr, hvalues⟩ := Option.map_eq_some_iff.mp hend
  rw [hr] at h
  simp only [Prod.mk.injEq] at hvalues
  obtain ⟨hreceiving, hpasses, hmd5, hannounced⟩ := hvalues
  obtain ⟨ses, hses, hinfo, -⟩ := h hreceiving hpasses
  rw [hses] at hannounced
  have hother : ses.info.md5 = Block.ofBytes 16 [1, 2] := Option.some.inj hannounced
  rw [← hinfo, hmd5] at hother
  cases hother

/-- What a Content message stores, by the kind of its session: the piece itself for an
NFT, the beginning of the deciphered piece for a firmware. -/
def PieceOf (env : FileEnv) (s : FileTrans) (nft : Bool) (tlvData data : List UInt8) : Prop :=
  ∃ offset fileData, readContent tlvData = some (offset, fileData)
    ∧ if nft then data = fileData else data <+: dataDecrypt env s.sharedKey s.parserIv fileData

/-- While a file is being received the NFT flag is that of the session, and so is what
Content messages store. -/
def FlagAgrees (env : FileEnv) (r : FileRun) : Prop :=
  r.trans.isReceivingFile = true → ∃ ses, r.session = some ses ∧ r.trans.isNftFile = ses.nft
    ∧ ∀ tlvData data, fileContent env r.trans tlvData = some data →
      PieceOf env r.trans ses.nft tlvData data

/-- No NFT Info message is refused while a firmware is being received, and no firmware Info
message is accepted while the NFT flag is set. -/
def FlagSafe (env : FileEnv) (e : FileEvent) : Option FileRun → Prop
  | none => True
  | some r =>
    match e with
    | .info true _ tlvData ans =>
      infoRefused env tlvData ans = true → r.trans.isReceivingFile = true → r.trans.isNftFile = true
    | .info false _ tlvData ans => infoAccepted env tlvData ans = true → r.trans.isNftFile = false
    | _ => True

theorem fileContent_piece {s : FileTrans} {tlvData data : List UInt8}
    (h : fileContent env s tlvData = some data) : PieceOf env s s.isNftFile tlvData data := by
  unfold fileContent at h
  split at h
  · cases h
  split at h
  · cases h
  cases hread : readContent tlvData with
  | none =>
    rw [hread] at h
    cases h
  | some piece =>
    obtain ⟨offset, fileData⟩ := piece
    rw [hread] at h
    refine ⟨offset, fileData, hread, ?_⟩
    simp only at h
    split at h
    · cases h
    split at h
    · cases h
    split at h
    · cases h
    split at h
    case isTrue hnft =>
      rw [if_pos hnft]
      exact (Option.some.inj h).symm
    case isFalse hnft =>
      rw [if_neg hnft]
      cases h
      split
      · exact List.take_prefix _ _
      · exact List.prefix_rfl

theorem flagAgrees_iff : FlagAgrees env r
    ↔ (r.trans.isReceivingFile = true → ∃ ses, r.session = some ses
      ∧ r.trans.isNftFile = ses.nft) := by
  constructor
  · intro h hreceiving
    obtain ⟨ses, hses, hflag, -⟩ := h hreceiving
    exact ⟨ses, hses, hflag⟩
  · intro h hreceiving
    obtain ⟨ses, hses, hflag⟩ := h hreceiving
    refine ⟨ses, hses, hflag, fun tlvData data hdata => ?_⟩
    rw [← hflag]
    exact fileContent_piece hdata

theorem flagAgrees_firmware {head : FrameHead}
    {tlvData : List UInt8} {ans : InfoAnswers} (h : FlagAgrees env r) :
    FlagSafe env (.info false head tlvData ans) (some r)
      ↔ Unless (FlagAgrees env) (FileRun.step env (.info false head tlvData ans) (some r)) := by
  show (infoAccepted env tlvData ans = true → r.trans.isNftFile = false)
    ↔ Unless (FlagAgrees env) (((FileEvent.info false head tlvData ans).handle env r.trans).map
        fun out => ⟨out.1, if infoAccepted env tlvData ans then
          some ⟨false, (readInfo tlvData).1, []⟩ else r.session⟩)
  cases haccepted : infoAccepted env tlvData ans with
  | true =>
    obtain ⟨reply, hrun⟩ := serviceFileTransInfo_accepted haccepted r.trans head
    rw [show (FileEvent.info false head tlvData ans).handle env r.trans = _ from hrun]
    show (true = true → r.trans.isNftFile = false) ↔ FlagAgrees env _
    rw [flagAgrees_iff]
    constructor
    · intro hclear _
      exact ⟨_, rfl, hclear rfl⟩
    · intro hagrees _
      obtain ⟨ses, hses, hflag⟩ := hagrees rfl
      cases hses
      exact hflag
  | false =>
    refine ⟨fun _ => ?_, nofun⟩
    cases hout : (FileEvent.info false head tlvData ans).handle env r.trans with
    | none => exact trivial
    | some out =>
      obtain ⟨-, hreceiving, hflag⟩ := refused_handle haccepted hout
      apply flagAgrees_iff.mpr
      intro hnow
      obtain ⟨ses, hses, hsame⟩ := flagAgrees_iff.mp h (hreceiving.symm.trans hnow)
      exact ⟨ses, hses, hflag.trans hsame⟩

theorem flagAgrees_nft {head : FrameHead}
    {tlvData : List UInt8} {ans : InfoAnswers} (h : FlagAgrees env r) :
    FlagSafe env (.info true head tlvData ans) (some r)
      ↔ Unless (FlagAgrees env) (FileRun.step env (.info true head tlvData ans) (some r)) := by
  show (infoRefused env tlvData ans = true → r.trans.isReceivingFile = true →
      r.trans.isNftFile = true)
    ↔ Unless (FlagAgrees env) (((FileEvent.info true head tlvData ans).handle env r.trans).map
        fun out => ⟨out.1, if infoAccepted env tlvData ans then
          some ⟨true, (readInfo tlvData).1, []⟩ else r.session⟩)
  cases hout : (FileEvent.info true head tlvData ans).handle env r.trans with
  | none =>
    have hno : infoRefused env tlvData ans = false :=
      serviceFileTransInfo_halted (s := { r.trans with isNftFile := true, nftBinValid := false }) hout
    rw [hno]
    exact ⟨fun _ => trivial, nofun⟩
  | some out =>
    show _ ↔ FlagAgrees env _
    rw [flagAgrees_iff]
    cases haccepted : infoAccepted env tlvData ans with
    | true =>
      rw [not_infoRefused haccepted]
      exact ⟨fun _ _ => ⟨_, rfl, (accepted_handle haccepted hout).flag⟩, nofun⟩
    | false =>
      obtain ⟨hrefused, hreceiving, hflag⟩ := refused_handle haccepted hout
      constructor
      · intro hsafe hnow
        have hbefore : r.trans.isReceivingFile = true := hreceiving.symm.trans hnow
        obtain ⟨ses, hses, hsame⟩ := flagAgrees_iff.mp h hbefore
        exact ⟨ses, hses, hflag.trans ((hsafe hrefused hbefore).symm.trans hsame)⟩
      · intro hagrees _ hbefore
        obtain ⟨ses, hses, hsame⟩ := flagAgrees_iff.mp h hbefore
        obtain ⟨ses', hses', hnew⟩ := hagrees (hreceiving.trans hbefore)
        cases hses.symm.trans hses'
        rw [hsame, ← hnew]
        exact hflag

theorem serviceFileTransContent_flags (env : FileEnv) (s : FileTrans) (head : FrameHead)
    (tlvData : List UInt8) (append : AppendReply) :
    (serviceFileTransContent env s head tlvData append).1.isReceivingFile = s.isReceivingFile
      ∧ (serviceFileTransContent env s head tlvData append).1.isNftFile = s.isNftFile := by
  unfold serviceFileTransContent
  split
  · exact ⟨rfl, rfl⟩
  · simp only
    split <;> exact ⟨rfl, rfl⟩

theorem nextSession_content {ses : FileSession} (h : r.session = some ses)
    (env : FileEnv) (nft : Bool) (head : FrameHead) (tlvData : List UInt8) (append : AppendReply) :
    ∃ ses', r.nextSession env (.content nft head tlvData append) = some ses'
      ∧ ses'.nft = ses.nft := by
  show ∃ ses', (if (serviceFileTransContent env r.trans head tlvData append).2.isSome then
    r.session.map _ else r.session) = some ses' ∧ _
  rw [h]
  split
  · exact ⟨_, rfl, rfl⟩
  · exact ⟨_, rfl, rfl⟩

/-- **One event keeps the flag in agreement exactly when it is safe.** -/
theorem flagSafe_iff (env : FileEnv) (e : FileEvent) (r : Option FileRun)
    (h : Unless (FlagAgrees env) r) :
    FlagSafe env e r ↔ Unless (FlagAgrees env) (FileRun.step env e r) := by
  cases r with
  | none => exact ⟨fun _ => trivial, fun _ => trivial⟩
  | some r =>
    by_cases hinfo : ∃ nft head tlvData ans, e = .info nft head tlvData ans
    · obtain ⟨nft, head, tlvData, ans, rfl⟩ := hinfo
      cases nft with
      | false => exact flagAgrees_firmware h
      | true => exact flagAgrees_nft h
    · have hsafe : FlagSafe env e (some r) := by
        cases e with
        | info nft head tlvData ans => exact absurd ⟨nft, head, tlvData, ans, rfl⟩ hinfo
        | _ => exact trivial
      refine ⟨fun _ => ?_, fun _ => hsafe⟩
      apply unless_step
      case hidle =>
        intro r' hidle hreceiving
        rw [hidle] at hreceiving
        cases hreceiving
      case hinfo =>
        intro nft head tlvData ans out he _
        exact absurd ⟨nft, head, tlvData, ans, he⟩ hinfo
      case hcontent =>
        rintro nft head tlvData append rfl
        obtain ⟨hreceiving, hflag⟩ :=
          serviceFileTransContent_flags env r.trans head tlvData append
        apply flagAgrees_iff.mpr
        intro hnow
        obtain ⟨ses, hses, hsame⟩ := flagAgrees_iff.mp h (hreceiving.symm.trans hnow)
        obtain ⟨ses', hses', hnft⟩ := nextSession_content hses env nft head tlvData append
        exact ⟨ses', hses', hflag.trans (hsame.trans hnft.symm)⟩
      case hkey =>
        rintro key rfl
        exact flagAgrees_iff.mpr (flagAgrees_iff (r := r).mp h)

/-- **The flag is the session's.** All along a run, while a file is being received, the NFT
flag is that of the last accepted Info message, with firmware pieces deciphered and NFT
pieces not, if and only if no NFT Info message is refused while a firmware is being
received and no firmware Info message is accepted while the flag is set. -/
theorem flag_of_session (env : FileEnv) (s : FileTrans) (events : List FileEvent) :
    AllSteps (FileRun.step env) (FlagSafe env) events (some (FileRun.start s))
      ↔ ∀ front, front <+: events →
        Unless (FlagAgrees env) (runFile env front (some (FileRun.start s))) :=
  allSteps_iff_along (I := Unless (FlagAgrees env)) (flagSafe_iff env) events _ nofun

/-- A refused NFT Info message leaves the flag set for the firmware that follows. -/
theorem refused_nft_keeps_flag :
    ¬∀ front, front <+: [.info true sampleHead (sampleInfo 2 [1, 2]) lowBattery,
          .info false sampleHead (sampleInfo 2 [1, 2]) sampleAnswers] →
        Unless (FlagAgrees sampleFileEnv)
          (runFile sampleFileEnv front (some (FileRun.start sampleTrans))) := by
  intro h
  have hend : (runFile sampleFileEnv
      [.info true sampleHead (sampleInfo 2 [1, 2]) lowBattery,
        .info false sampleHead (sampleInfo 2 [1, 2]) sampleAnswers]
      (some (FileRun.start sampleTrans))).map
        (fun r => (r.trans.isReceivingFile, r.trans.isNftFile, r.session.map (·.nft)))
      = some (true, true, some false) := by
    decide
  obtain ⟨r, hr, hvalues⟩ := Option.map_eq_some_iff.mp hend
  have hagrees := h _ List.prefix_rfl
  rw [hr] at hagrees
  simp only [Prod.mk.injEq] at hvalues
  obtain ⟨hreceiving, hflag, hsession⟩ := hvalues
  obtain ⟨ses, hses, hsame, -⟩ := hagrees hreceiving
  rw [hses] at hsession
  have hfirmware : ses.nft = false := Option.some.inj hsession
  rw [hflag, hfirmware] at hsame
  cases hsame

/-- While a file is being received, the offset is the size of the file and of what the
digest was fed with, and not above the announced size, which is below the limit. -/
def OffsetAgrees (r : FileRun) : Prop :=
  r.trans.isReceivingFile = true → r.trans.info.fileSize < MAX_FILE_SIZE
    ∧ r.trans.offset ≤ r.trans.info.fileSize ∧ r.trans.md5Ctx.length = r.trans.offset
    ∧ ∃ file, r.trans.files r.trans.info.fileName = some file ∧ file.length = r.trans.offset

def AppendReply.Written (data : List UInt8) : AppendReply → Prop
  | .wrote written true => data.length ≤ written
  | _ => False

/-- No piece is lost on the way, and no NFT piece goes beyond the announced size. -/
def OffsetSafe (env : FileEnv) (e : FileEvent) : Option FileRun → Prop
  | none => True
  | some r =>
    match e with
    | .info _ _ tlvData ans =>
      infoRefused env tlvData ans = true → r.trans.isReceivingFile = false
    | .content _ _ tlvData append =>
      ∀ data ∈ fileContent env r.trans tlvData,
        (data = [] ∨ append.Written data)
          ∧ (r.trans.isNftFile = true → r.trans.offset + data.length ≤ r.trans.info.fileSize)
    | _ => True

instance (data : List UInt8) : (append : AppendReply) → Decidable (append.Written data)
  | .openFailed => isFalse id
  | .wrote written true => inferInstanceAs (Decidable (data.length ≤ written))
  | .wrote _ false => isFalse id

instance (env : FileEnv) (e : FileEvent) (r : Option FileRun) : Decidable (OffsetSafe env e r) :=
  match r, e with
  | none, _ => isTrue trivial
  | some _, .info _ _ _ _ => inferInstanceAs (Decidable (_ → _))
  | some r, .content _ _ tlvData append =>
    inferInstanceAs (Decidable (∀ data ∈ fileContent env r.trans tlvData,
      (data = [] ∨ append.Written data)
        ∧ (r.trans.isNftFile = true → r.trans.offset + data.length ≤ r.trans.info.fileSize)))
  | some _, .complete _ _ _ => isTrue trivial
  | some _, .timeout _ => isTrue trivial
  | some _, .sharedKey _ => isTrue trivial
  | some _, .reboot => isTrue trivial

theorem length_dataDecrypt (env : FileEnv) (key : Block 32) (iv : Block 16) (data : List UInt8) :
    (dataDecrypt env key iv data).length = data.length := by
  have hle := Nat.mul_div_le data.length 16
  unfold dataDecrypt
  rw [List.length_append, Block.size_eq, List.length_drop]
  show 16 * (data.length / 16) + _ = _
  omega

theorem fileContent_fits {s : FileTrans} {tlvData data : List UInt8}
    (h : fileContent env s tlvData = some data) (hsize : s.info.fileSize < MAX_FILE_SIZE)
    (hfirmware : s.isNftFile = false) : s.offset + data.length ≤ s.info.fileSize := by
  have hmax : MAX_FILE_SIZE = 8388608 := rfl
  unfold fileContent at h
  split at h
  · cases h
  split at h
  · cases h
  cases hread : readContent tlvData with
  | none =>
    rw [hread] at h
    cases h
  | some piece =>
    obtain ⟨offset, fileData⟩ := piece
    rw [hread, hfirmware] at h
    simp only at h
    split at h
    · cases h
    rename_i hbounds
    rw [not_or, Nat.not_lt, Nat.not_lt] at hbounds
    obtain ⟨hoffset, hpiece⟩ := hbounds
    split at h
    · cases h
    split at h
    · cases h
    rename_i hsame
    rw [ne_eq, Decidable.not_not] at hsame
    simp only [Bool.false_eq_true, if_false, Option.some.injEq] at h
    subst h
    have hend : endOf offset fileData.length = offset + fileData.length :=
      Nat.mod_eq_of_lt (by omega)
    rw [hsame, hend]
    split
    · rw [List.length_take]
      omega
    · rw [length_dataDecrypt]
      omega

theorem fatfsFileAppend_nil {files : FileName → Option (List UInt8)} {path : FileName}
    {old : List UInt8} (hold : files path = some old) (append : AppendReply) :
    (fatfsFileAppend files path [] append).1 = files := by
  cases append with
  | openFailed => rfl
  | wrote written ok =>
    funext p
    show (if p = path then some ((files path).getD [] ++ List.take written []) else files p)
      = files p
    split
    · rename_i hp
      rw [hp, hold, List.take_nil]
      exact congrArg some (List.append_nil old)
    · rfl

theorem safe_content {nft : Bool} {head : FrameHead}
    {tlvData data : List UInt8} {append : AppendReply} (h : OffsetAgrees r)
    (hsafe : OffsetSafe env (.content nft head tlvData append) (some r))
    (hdata : fileContent env r.trans tlvData = some data) :
    ∃ files md5Ctx reply, serviceFileTransContent env r.trans head tlvData append
        = ({ r.trans with
            offset := r.trans.offset + data.length, files := files, md5Ctx := md5Ctx }, reply)
      ∧ md5Ctx = r.trans.md5Ctx ++ data
      ∧ r.trans.offset + data.length ≤ r.trans.info.fileSize
      ∧ (∀ file, r.trans.files r.trans.info.fileName = some file →
        files r.trans.info.fileName = some (file ++ data))
      ∧ (reply = none → data = [] ∧ files = r.trans.files) := by
  obtain ⟨hsize, -, -, file, hfile, -⟩ := h (receiving_of_fileContent hdata)
  obtain ⟨hwritten, hnft⟩ := hsafe data hdata
  have hfits : r.trans.offset + data.length ≤ r.trans.info.fileSize := by
    cases hflag : r.trans.isNftFile with
    | true => exact hnft hflag
    | false => exact fileContent_fits hdata hsize hflag
  have hend : endOf r.trans.offset data.length = r.trans.offset + data.length := by
    have hmax : MAX_FILE_SIZE = 8388608 := rfl
    exact Nat.mod_eq_of_lt (by omega)
  cases hok : (fatfsFileAppend r.trans.files r.trans.info.fileName data append).2 with
  | false =>
    rcases hwritten with rfl | hwritten
    · have hrun := serviceFileTransContent_failed hdata hok head
      rw [hend, fatfsFileAppend_nil hfile] at hrun
      refine ⟨r.trans.files, r.trans.md5Ctx, none, hrun, (List.append_nil _).symm, hfits, ?_,
        fun _ => ⟨rfl, rfl⟩⟩
      intro file' hfile'
      rw [hfile', List.append_nil]
    · cases append with
      | openFailed => exact absurd hwritten id
      | wrote written ok =>
        obtain rfl : ok = false := hok
        exact absurd hwritten id
  | true =>
    obtain ⟨reply, hrun⟩ := serviceFileTransContent_stored hdata hok head
    rw [hend] at hrun
    refine ⟨_, _, some reply, hrun, rfl, hfits, ?_, nofun⟩
    intro file' hfile'
    have hwhole : append.Whole data ∨ data = [] := by
      rcases hwritten with hempty | hwritten
      · exact .inr hempty
      · cases append with
        | openFailed => exact .inl trivial
        | wrote written ok =>
          obtain rfl : ok = true := hok
          exact .inl hwritten
    rcases hwhole with hwhole | rfl
    · rw [fatfsFileAppend_whole hfile' hwhole, hok]
      rfl
    · rw [fatfsFileAppend_nil hfile', hfile', List.append_nil]

theorem offsetAgrees_step {e : FileEvent}
    (hsafe : OffsetSafe env e (some r)) (h : OffsetAgrees r) :
    Unless OffsetAgrees (FileRun.step env e (some r)) := by
  apply unless_step
  case hidle =>
    intro r' hidle hreceiving
    rw [hidle] at hreceiving
    cases hreceiving
  case hinfo =>
    rintro nft head tlvData ans out rfl hout
    cases haccepted : infoAccepted env tlvData ans with
    | true =>
      have hopened := accepted_handle haccepted hout
      obtain ⟨hpos, hbelow⟩ := accepted_size haccepted
      intro _
      refine ⟨?_, ?_, ?_, [], hopened.file, hopened.offset.symm⟩
      · rw [hopened.info]
        exact hbelow
      · rw [hopened.offset]
        exact Nat.zero_le _
      · rw [hopened.md5Ctx, hopened.offset]
        rfl
    | false =>
      obtain ⟨hrefused, hsame, -⟩ := refused_handle haccepted hout
      intro hreceiving
      rw [hsame, show r.trans.isReceivingFile = false from hsafe hrefused] at hreceiving
      cases hreceiving
  case hcontent =>
    rintro nft head tlvData append rfl
    cases hdata : fileContent env r.trans tlvData with
    | none =>
      rw [serviceFileTransContent_none hdata head append]
      exact h
    | some data =>
      obtain ⟨-, -, hmd5, file, hfile, hlen⟩ := h (receiving_of_fileContent hdata)
      obtain ⟨files, md5Ctx, reply, hrun, hctx, hfits, hfiles, -⟩ := safe_content h hsafe hdata
      rw [hrun]
      intro hreceiving
      refine ⟨(h hreceiving).1, hfits, ?_, file ++ data, hfiles file hfile, ?_⟩
      · show md5Ctx.length = r.trans.offset + data.length
        rw [hctx, List.length_append, hmd5]
      · show (file ++ data).length = r.trans.offset + data.length
        rw [List.length_append, hlen]
  case hkey =>
    rintro key rfl
    exact h

/-- A Content message that is not answered leaves offset, digest and files as they were. -/
def RefusalKeeps (env : FileEnv) (r : FileRun) : Prop :=
  ∀ nft head tlvData append,
    OffsetSafe env (.content nft head tlvData append) (some r) →
    (serviceFileTransContent env r.trans head tlvData append).2 = none →
    (serviceFileTransContent env r.trans head tlvData append).1.offset = r.trans.offset
      ∧ (serviceFileTransContent env r.trans head tlvData append).1.md5Ctx = r.trans.md5Ctx
      ∧ (serviceFileTransContent env r.trans head tlvData append).1.files = r.trans.files

theorem refusalKeeps_of_agrees (h : OffsetAgrees r) :
    RefusalKeeps env r := by
  intro nft head tlvData append hsafe hrefused
  cases hdata : fileContent env r.trans tlvData with
  | none =>
    rw [serviceFileTransContent_none hdata head append]
    exact ⟨rfl, rfl, rfl⟩
  | some data =>
    obtain ⟨files, md5Ctx, reply, hrun, hctx, -, -, hsame⟩ := safe_content h hsafe hdata
    rw [hrun] at hrefused ⊢
    obtain ⟨rfl, hfiles⟩ := hsame hrefused
    exact ⟨rfl, hctx.trans (List.append_nil _), hfiles⟩

/-- **Offset, digest and file stay together**, in every run in which no Info message is
refused while a file is being received, every piece is written wholly and no NFT piece
goes beyond the announced size; and a Content message of such a run that is not answered
changes none of them. -/
theorem offset_of_session (env : FileEnv) (s : FileTrans) (events : List FileEvent)
    (hsafe : AllSteps (FileRun.step env) (OffsetSafe env) events (some (FileRun.start s))) :
    Unless (fun r => OffsetAgrees r ∧ RefusalKeeps env r)
      (runFile env events (some (FileRun.start s))) := by
  have hinv : Unless OffsetAgrees (runFile env events (some (FileRun.start s))) :=
    runSteps_inv_of (fun e r hc h => by
      cases r with
      | none => exact trivial
      | some r => exact offsetAgrees_step hc h) events _ hsafe nofun
  cases hend : runFile env events (some (FileRun.start s)) with
  | none => exact trivial
  | some r =>
    rw [hend] at hinv
    exact ⟨hinv, refusalKeeps_of_agrees hinv⟩

theorem offset_of_session_sample :
    Unless (fun r => OffsetAgrees r ∧ RefusalKeeps sampleFileEnv r)
      (runFile sampleFileEnv
        [.info false sampleHead (sampleInfo 3 [1, 2]) sampleAnswers,
          .content false sampleHead (sampleContent 1 [2]) .openFailed,
          .content false sampleHead (sampleContent 0 [1, 2]) (.wrote 2 true),
          .content false sampleHead (sampleContent 2 [3, 4]) (.wrote 1 true)]
        (some (FileRun.start sampleTrans))) :=
  offset_of_session _ _ _ (by decide)

/-- A piece that cannot be written moves the offset all the same. -/
theorem failed_append_moves_offset :
    ¬Unless OffsetAgrees
      (runFile sampleFileEnv
        [.info false sampleHead (sampleInfo 3 [1, 2]) sampleAnswers,
          .content false sampleHead (sampleContent 0 [1, 2]) .openFailed]
        (some (FileRun.start sampleTrans))) := by
  intro h
  have hend : (runFile sampleFileEnv
      [.info false sampleHead (sampleInfo 3 [1, 2]) sampleAnswers,
        .content false sampleHead (sampleContent 0 [1, 2]) .openFailed]
      (some (FileRun.start sampleTrans))).map
        (fun r => (r.trans.isReceivingFile, r.trans.offset, r.trans.md5Ctx)) = some (true, 2, []) := by
    decide
  obtain ⟨r, hr, hvalues⟩ := Option.map_eq_some_iff.mp hend
  rw [hr] at h
  simp only [Prod.mk.injEq] at hvalues
  obtain ⟨hreceiving, hoffset, hctx⟩ := hvalues
  obtain ⟨-, -, hlen, -⟩ := h hreceiving
  rw [hoffset, hctx] at hlen
  cases hlen

end Keystone3
