import Keystone3.Logic.Prog
import Keystone3.Usb.Eapdu

/-!
# Resolving a UR over USB

`g_requestID` is the id of the request that is being shown, and `0xFFFF` when there is
none: it is what a new request is refused as busy by, and what the answer is sent with
(`processURService`, `handleURResultViaUSBFunc`).

A run (`UrEvent`) interleaves requests with what the user does. `pending` are the
requests that were accepted and have not been answered or given up.

* `recorded_of_session`: exactly when no request arrives while one is pending, there is
  at most one, and `g_requestID` is its id.
* `answered_with_own_id`: every answer carries the id of its request exactly when no
  request is refused by `checkURAcceptable`, which answers before the id is recorded,
  and no key derivation is answered after its id was forgotten.
-/

namespace Keystone3

open Logic (runSteps AllSteps runSteps_inv allSteps_iff_along)

def REQUEST_ID_IDLE : UInt16 := 0xFFFF

def CMD_RESOLVE_UR : UInt16 := 2

inductive UrPage where
  | usbHardwareView
  | prepareReceiveUrUsb

inductive CheckResult where
  | ok
  | mismatchedWallet
  | failed (errorMessage : String)
deriving DecidableEq

/-- What the rest of the device says about a request: the page on top, the wallet, what
the UR parses to, and the check of the transaction, which is absent for a view without
a handler. -/
structure UrAnswers where
  lockScreenIsTop : Bool
  mnemonicIsTon : Bool
  isSetup : Bool
  parseError : Option String
  isHardwareCall : Bool
  keyDerivationRequestIsTop : Bool
  homePageIsTop : Bool
  usbTransportIsTop : Bool
  viewTypeIsAllow : Bool
  checkResult : Option CheckResult

structure UrService where
  requestID : UInt16
  sent : List EApduResponse

/-- Send a response, and no request is in progress. -/
def basicHandlerFunc (s : UrService) (data : String) (requestID : UInt16) (status : StatusEnum) :
    UrService where
  requestID := REQUEST_ID_IDLE
  sent := s.sent ++ [⟨eApduHeader, CMD_RESOLVE_UR, requestID, status, data⟩]

def handleURResultViaUSBFunc (s : UrService) (data : String) (requestID : UInt16)
    (status : StatusEnum) : UrService :=
  let sendStatus := if status = .prsExportHardwareCallSuccess then .rspSuccessCode else status
  basicHandlerFunc s data requestID sendStatus

def urAcceptable (ans : UrAnswers) : Bool :=
  !ans.lockScreenIsTop && !ans.mnemonicIsTon && !ans.isSetup

def checkURAcceptable (s : UrService) (ans : UrAnswers) : Bool × UrService :=
  if ans.lockScreenIsTop then
    (false, handleURResultViaUSBFunc s "Device is locked" s.requestID .prsParsingDisallowed)
  else if ans.mnemonicIsTon then
    (false, handleURResultViaUSBFunc s "Ton wallet is not supported" s.requestID
      .prsParsingDisallowed)
  else if ans.isSetup then
    (false, handleURResultViaUSBFunc s "Export address is just allowed on specific pages"
      s.requestID .prsParsingDisallowed)
  else (true, s)

def gotoFailPage (s : UrService) (errorCode : StatusEnum) (errorMessage : String) : UrService :=
  handleURResultViaUSBFunc s errorMessage s.requestID errorCode

def isRequestAllowed (s : UrService) (requestID : UInt16) (ans : UrAnswers) : Bool × UrService :=
  if s.requestID ≠ REQUEST_ID_IDLE then
    (false, handleURResultViaUSBFunc s "Previous request is not finished" requestID
      .prsParsingDisallowed)
  else checkURAcceptable s ans

def handleHardwareCall (s : UrService) (ans : UrAnswers) : UrService × Option UrPage :=
  if ans.keyDerivationRequestIsTop || ans.homePageIsTop then (s, some .usbHardwareView)
  else
    ({ handleURResultViaUSBFunc s "Export address is just allowed on specific pages" s.requestID
        .prsParsingDisallowed with requestID := REQUEST_ID_IDLE }, none)

def handleNormalCall (s : UrService) (ans : UrAnswers) : Bool × UrService :=
  if ans.homePageIsTop || ans.usbTransportIsTop then (true, s)
  else
    (false, { handleURResultViaUSBFunc s "Export address is just allowed on specific pages"
      s.requestID .prsParsingDisallowed with requestID := REQUEST_ID_IDLE })

/-- Without a check result the error message is read through a null
pointer: `none`. -/
def handleCheckResult (s : UrService) : Option CheckResult → Option (UrService × Option UrPage)
  | some .ok => some (s, some .prepareReceiveUrUsb)
  | some .mismatchedWallet =>
    some (gotoFailPage s .prsParsingMismatchedWallet "usb_transport_mismatched_wallet_desc", none)
  | some (.failed errorMessage) => some (gotoFailPage s .prsParsingError errorMessage, none)
  | none => none

/-- The global, and the page the request is shown on, if it is
accepted. -/
def processURService (s : UrService) (requestID : UInt16) (ans : UrAnswers) :
    Option (UrService × Option UrPage) :=
  match isRequestAllowed s requestID ans with
  | (false, s) => some (s, none)
  | (true, s) =>
    let s := { s with requestID := requestID }
    match ans.parseError with
    | some errorMessage =>
      some (handleURResultViaUSBFunc s errorMessage s.requestID .prsParsingError, none)
    | none =>
      if ans.isHardwareCall then some (handleHardwareCall s ans)
      else
        match handleNormalCall s ans with
        | (false, s) => some (s, none)
        | (true, s) =>
          if !ans.viewTypeIsAllow then
            some (handleURResultViaUSBFunc s "this view type is not supported" s.requestID
              .rspFailureCode, none)
          else handleCheckResult s ans.checkResult

def clearUSBRequestId (s : UrService) : UrService := { s with requestID := REQUEST_ID_IDLE }

/-- `GetCurrentTransactionMode`: a recorded request makes it a transaction over USB. -/
def transactionModeIsUsb (s : UrService) : Bool := s.requestID != REQUEST_ID_IDLE

def urAccepted (ans : UrAnswers) : Bool :=
  urAcceptable ans && ans.parseError.isNone
    && if ans.isHardwareCall then ans.keyDerivationRequestIsTop || ans.homePageIsTop
      else (ans.homePageIsTop || ans.usbTransportIsTop) && ans.viewTypeIsAllow
        && ans.checkResult = some .ok

inductive UrOutcome (s : UrService) (requestID : UInt16) (ans : UrAnswers) :
    UrService → Option UrPage → Prop where
  | busy (payload : String) (hbusy : s.requestID ≠ REQUEST_ID_IDLE) :
      UrOutcome s requestID ans (basicHandlerFunc s payload requestID .prsParsingDisallowed) none
  | unacceptable (payload : String) (hidle : s.requestID = REQUEST_ID_IDLE)
      (hans : urAcceptable ans = false) :
      UrOutcome s requestID ans
        (basicHandlerFunc s payload REQUEST_ID_IDLE .prsParsingDisallowed) none
  | refused (payload : String) (status : StatusEnum) (hidle : s.requestID = REQUEST_ID_IDLE)
      (hans : urAcceptable ans = true) (hnot : urAccepted ans = false) :
      UrOutcome s requestID ans (basicHandlerFunc s payload requestID status) none
  | accepted (page : UrPage) (hidle : s.requestID = REQUEST_ID_IDLE)
      (hans : urAccepted ans = true) :
      UrOutcome s requestID ans { s with requestID := requestID } (some page)

variable {ans : UrAnswers}

theorem checkURAcceptable_false {s : UrService}
    (h : urAcceptable ans = false) :
    ∃ payload, checkURAcceptable s ans
      = (false, basicHandlerFunc s payload s.requestID .prsParsingDisallowed) := by
  unfold urAcceptable at h
  unfold checkURAcceptable
  split
  · exact ⟨_, rfl⟩
  split
  · exact ⟨_, rfl⟩
  split
  · exact ⟨_, rfl⟩
  · rename_i hlock hton hsetup
    rw [Bool.not_eq_true] at hlock hton hsetup
    rw [hlock, hton, hsetup] at h
    cases h

theorem checkURAcceptable_true {s : UrService}
    (h : urAcceptable ans = true) : checkURAcceptable s ans = (true, s) := by
  unfold urAcceptable at h
  rw [Bool.and_eq_true, Bool.and_eq_true, Bool.not_eq_true', Bool.not_eq_true',
    Bool.not_eq_true'] at h
  obtain ⟨⟨hlock, hton⟩, hsetup⟩ := h
  unfold checkURAcceptable
  rw [hlock, hton, hsetup]
  rfl

variable {requestID : UInt16}

theorem processURService_outcome {s s' : UrService}
    {page : Option UrPage} (h : processURService s requestID ans = some (s', page)) :
    UrOutcome s requestID ans s' page := by
  unfold processURService isRequestAllowed at h
  by_cases hbusy : s.requestID ≠ REQUEST_ID_IDLE
  · rw [if_pos hbusy] at h
    obtain ⟨rfl, rfl⟩ := Prod.mk.inj (Option.some.inj h)
    exact .busy _ hbusy
  rw [if_neg hbusy] at h
  have hidle : s.requestID = REQUEST_ID_IDLE := Decidable.not_not.mp hbusy
  cases hans : urAcceptable ans with
  | false =>
    obtain ⟨payload, hcheck⟩ := checkURAcceptable_false (s := s) hans
    rw [hcheck, hidle] at h
    obtain ⟨rfl, rfl⟩ := Prod.mk.inj (Option.some.inj h)
    exact .unacceptable payload hidle hans
  | true =>
    rw [checkURAcceptable_true hans] at h
    simp only at h
    cases hparse : ans.parseError with
    | some errorMessage =>
      rw [hparse] at h
      obtain ⟨rfl, rfl⟩ := Prod.mk.inj (Option.some.inj h)
      refine .refused errorMessage .prsParsingError hidle hans ?_
      unfold urAccepted
      rw [hparse, Option.isNone_some, Bool.and_false, Bool.false_and]
    | none =>
      rw [hparse] at h
      simp only at h
      cases hhard : ans.isHardwareCall with
      | true =>
        have haccepted : urAccepted ans = (ans.keyDerivationRequestIsTop || ans.homePageIsTop) := by
          unfold urAccepted
          rw [hans, hparse, hhard]
          rfl
        rw [hhard, if_pos rfl] at h
        unfold handleHardwareCall at h
        cases htop : ans.keyDerivationRequestIsTop || ans.homePageIsTop with
        | true =>
          rw [htop, if_pos rfl] at h
          obtain ⟨rfl, rfl⟩ := Prod.mk.inj (Option.some.inj h)
          exact .accepted _ hidle (haccepted.trans htop)
        | false =>
          rw [htop, if_neg Bool.false_ne_true] at h
          obtain ⟨rfl, rfl⟩ := Prod.mk.inj (Option.some.inj h)
          exact .refused _ .prsParsingDisallowed hidle hans (haccepted.trans htop)
      | false =>
        have haccepted : urAccepted ans = ((ans.homePageIsTop || ans.usbTransportIsTop)
            && ans.viewTypeIsAllow && ans.checkResult = some .ok) := by
          unfold urAccepted
          rw [hans, hparse, hhard]
          rfl
        rw [hhard, if_neg Bool.false_ne_true] at h
        unfold handleNormalCall at h
        cases htop : ans.homePageIsTop || ans.usbTransportIsTop with
        | false =>
          rw [htop, if_neg Bool.false_ne_true] at h
          obtain ⟨rfl, rfl⟩ := Prod.mk.inj (Option.some.inj h)
          refine .refused _ .prsParsingDisallowed hidle hans ?_
          rw [haccepted, htop]
          rfl
        | true =>
          rw [htop, if_pos rfl] at h
          simp only at h
          cases hview : ans.viewTypeIsAllow with
          | false =>
            rw [hview] at h
            obtain ⟨rfl, rfl⟩ := Prod.mk.inj (Option.some.inj h)
            refine .refused _ .rspFailureCode hidle hans ?_
            rw [haccepted, htop, hview]
            rfl
          | true =>
            rw [hview, if_neg (by decide)] at h
            cases hcheck : ans.checkResult with
            | none =>
              rw [hcheck] at h
              cases h
            | some result =>
              rw [htop, hview, hcheck] at haccepted
              rw [hcheck] at h
              cases result with
              | ok =>
                obtain ⟨rfl, rfl⟩ := Prod.mk.inj (Option.some.inj h)
                exact .accepted _ hidle haccepted
              | mismatchedWallet =>
                obtain ⟨rfl, rfl⟩ := Prod.mk.inj (Option.some.inj h)
                exact .refused _ .prsParsingMismatchedWallet hidle hans haccepted
              | failed errorMessage =>
                obtain ⟨rfl, rfl⟩ := Prod.mk.inj (Option.some.inj h)
                exact .refused _ .prsParsingError hidle hans haccepted

/-- A request, or what the user does on the page that shows one. -/
inductive UrEvent where
  | request (requestID : UInt16) (ans : UrAnswers)
  | transactionRejected
  | transactionSigned (urResult : Except String String)
  | transactionPasswordErrors
  | keyDerivationShared (data : String)
  | keyDerivationRejected
  | cleared

def transactionAnswer (s : UrService) (data : String) (status : StatusEnum) : UrService :=
  if transactionModeIsUsb s then handleURResultViaUSBFunc s data s.requestID status else s

/-- What the pages and the handlers of the USB do to the global. -/
def UrEvent.onPage (s : UrService) : UrEvent → UrService
  | .request _ _ => s
  | .transactionRejected => transactionAnswer s "UR parsing rejected" .prsParsingRejected
  | .transactionSigned (.ok data) => transactionAnswer s data .rspSuccessCode
  | .transactionSigned (.error errorMessage) => transactionAnswer s errorMessage .prsParsingError
  | .transactionPasswordErrors =>
    transactionAnswer s "Please try again after unlocking" .prsParsingVerifyPasswordError
  | .keyDerivationShared data =>
    handleURResultViaUSBFunc s data s.requestID .prsExportHardwareCallSuccess
  | .keyDerivationRejected =>
    handleURResultViaUSBFunc s "UR parsing rejected" s.requestID .prsParsingRejected
  | .cleared => clearUSBRequestId s

/-- The service, the ids of the requests that are accepted and not yet answered, and the
answers given so far, each beside the id of the request it was given to. -/
structure UrRun where
  service : UrService
  pending : List UInt16
  answered : List (UInt16 × EApduResponse)

def UrService.newlySent (s s' : UrService) : List EApduResponse := s'.sent.drop s.sent.length

def UrRun.received (r : UrRun) (requestID : UInt16) (s' : UrService) (page : Option UrPage) :
    UrRun where
  service := s'
  pending := if page.isSome then r.pending ++ [requestID] else r.pending
  answered := r.answered ++ (r.service.newlySent s').map (requestID, ·)

def UrRun.acted (r : UrRun) (e : UrEvent) : UrRun where
  service := e.onPage r.service
  pending :=
    match e with
    | .cleared => []
    | e => if (r.service.newlySent (e.onPage r.service)).isEmpty then r.pending
      else r.pending.dropLast
  answered := r.answered ++ r.pending.getLast?.toList.flatMap fun requestID =>
    (r.service.newlySent (e.onPage r.service)).map (requestID, ·)

def urStep : UrEvent → Option UrRun → Option UrRun
  | _, none => none
  | .request requestID ans, some r =>
    (processURService r.service requestID ans).map fun out => r.received requestID out.1 out.2
  | e, some r => some (r.acted e)

def UrRun.start : UrRun := ⟨⟨REQUEST_ID_IDLE, []⟩, [], []⟩

theorem processURService_halted {s : UrService}
    (h : processURService s requestID ans = none) :
    s.requestID = REQUEST_ID_IDLE ∧ urAcceptable ans = true ∧ urAccepted ans = false := by
  unfold processURService isRequestAllowed at h
  by_cases hbusy : s.requestID ≠ REQUEST_ID_IDLE
  · rw [if_pos hbusy] at h
    cases h
  rw [if_neg hbusy] at h
  refine ⟨Decidable.not_not.mp hbusy, ?_⟩
  cases hans : urAcceptable ans with
  | false =>
    obtain ⟨payload, hcheck⟩ := checkURAcceptable_false (s := s) hans
    rw [hcheck] at h
    cases h
  | true =>
    refine ⟨rfl, Bool.eq_false_iff.mpr fun haccepted => ?_⟩
    rw [checkURAcceptable_true hans] at h
    unfold urAccepted at haccepted
    rw [Bool.and_eq_true, Bool.and_eq_true, Option.isNone_iff_eq_none] at haccepted
    obtain ⟨⟨-, hparse⟩, hrest⟩ := haccepted
    rw [hparse] at h
    simp only at h
    split at h
    · cases h
    · rename_i hhard
      rw [if_neg hhard, Bool.and_eq_true, Bool.and_eq_true, decide_eq_true_eq] at hrest
      obtain ⟨⟨htop, hview⟩, hcheck⟩ := hrest
      unfold handleNormalCall at h
      rw [htop, if_pos rfl] at h
      simp only at h
      rw [hview, if_neg (by decide), hcheck] at h
      cases h

@[simp] theorem newlySent_self (s : UrService) : s.newlySent s = [] := List.drop_length

theorem newlySent_basicHandlerFunc (s : UrService) (data : String) (requestID : UInt16)
    (status : StatusEnum) :
    s.newlySent (basicHandlerFunc s data requestID status)
      = [⟨eApduHeader, CMD_RESOLVE_UR, requestID, status, data⟩] :=
  List.drop_left

def UrEvent.isKeyDerivation : UrEvent → Bool
  | .keyDerivationShared _ => true
  | .keyDerivationRejected => true
  | _ => false

inductive PageOutcome (s : UrService) : UrEvent → Prop where
  | cleared : PageOutcome s .cleared
  | silent (e : UrEvent) (hne : e ≠ .cleared) (hkey : e.isKeyDerivation = false)
      (hpage : e.onPage s = s) : PageOutcome s e
  | answered (e : UrEvent) (hne : e ≠ .cleared) (data : String) (status : StatusEnum)
      (hpage : e.onPage s = basicHandlerFunc s data s.requestID status)
      (hid : s.requestID ≠ REQUEST_ID_IDLE ∨ e.isKeyDerivation = true) : PageOutcome s e

theorem pageOutcome_of_transaction {s : UrService} {e : UrEvent} {data : String}
    {status : StatusEnum} (hne : e ≠ .cleared) (hkey : e.isKeyDerivation = false)
    (h : e.onPage s = transactionAnswer s data status) : PageOutcome s e := by
  unfold transactionAnswer at h
  split at h
  · rename_i husb
    unfold transactionModeIsUsb at husb
    exact .answered e hne data _ h (.inl (bne_iff_ne.mp husb))
  · exact .silent e hne hkey h

theorem onPage_outcome (s : UrService) (e : UrEvent) : PageOutcome s e := by
  cases e with
  | request requestID ans => exact .silent _ nofun rfl rfl
  | transactionRejected => exact pageOutcome_of_transaction nofun rfl rfl
  | transactionSigned urResult =>
    cases urResult with
    | ok data => exact pageOutcome_of_transaction nofun rfl rfl
    | error errorMessage => exact pageOutcome_of_transaction nofun rfl rfl
  | transactionPasswordErrors => exact pageOutcome_of_transaction nofun rfl rfl
  | keyDerivationShared data => exact .answered _ nofun data _ rfl (.inr rfl)
  | keyDerivationRejected => exact .answered _ nofun _ _ rfl (.inr rfl)
  | cleared => exact .cleared

variable {r : UrRun}

theorem acted_silent {e : UrEvent} (hne : e ≠ .cleared)
    (h : e.onPage r.service = r.service) : r.acted e = r := by
  have hanswered : (r.acted e).answered = r.answered := by
    unfold UrRun.acted
    simp [h]
  have hpending : (r.acted e).pending = r.pending := by
    unfold UrRun.acted
    cases e with
    | cleared => exact absurd rfl hne
    | _ =>
      simp only
      rw [h, newlySent_self]
      rfl
  have hservice : (r.acted e).service = r.service := h
  calc r.acted e = ⟨(r.acted e).service, (r.acted e).pending, (r.acted e).answered⟩ := rfl
    _ = r := by rw [hservice, hpending, hanswered]

theorem acted_answered {e : UrEvent} {data : String}
    {status : StatusEnum} (hne : e ≠ .cleared)
    (h : e.onPage r.service = basicHandlerFunc r.service data requestID status) :
    (r.acted e).service.requestID = REQUEST_ID_IDLE
      ∧ (r.acted e).pending = r.pending.dropLast
      ∧ (r.acted e).answered = r.answered ++ r.pending.getLast?.toList.map
          (·, ⟨eApduHeader, CMD_RESOLVE_UR, requestID, status, data⟩) := by
  refine ⟨?_, ?_, ?_⟩
  · show (e.onPage r.service).requestID = _
    rw [h]
    rfl
  · unfold UrRun.acted
    cases e with
    | cleared => exact absurd rfl hne
    | _ =>
      simp only
      rw [h, newlySent_basicHandlerFunc]
      rfl
  · unfold UrRun.acted
    simp only
    rw [h, newlySent_basicHandlerFunc]
    cases r.pending.getLast? with
    | none => rfl
    | some id => rfl

/-- Either no request is pending and none is recorded, or one is, by its own id. -/
def UrRun.Recorded (r : UrRun) : Prop :=
  (r.pending = [] ∧ r.service.requestID = REQUEST_ID_IDLE) ∨ r.pending = [r.service.requestID]

/-- A request comes when none is pending. With the id that stands for none, the pending
request is not seen by `IsRequestAllowed`, and a request that is not accepted does it
no harm. -/
def ComesAlone : UrEvent → Option UrRun → Prop
  | .request _ ans, some r =>
    r.pending = [] ∨ (r.pending = [REQUEST_ID_IDLE] ∧ urAccepted ans = false)
  | _, _ => True

theorem recorded_refused (hr : r.Recorded)
    (hidle : r.service.requestID = REQUEST_ID_IDLE) (requestID : UInt16) (payload : String)
    (id : UInt16) (status : StatusEnum) :
    (r.received requestID (basicHandlerFunc r.service payload id status) none).Recorded := by
  rcases hr with ⟨hpending, -⟩ | hpending
  · exact .inl ⟨hpending, rfl⟩
  · rw [hidle] at hpending
    exact .inr hpending

theorem comesAlone_of_idle (hr : r.Recorded)
    (hidle : r.service.requestID = REQUEST_ID_IDLE) (hans : urAccepted ans = false)
    (requestID : UInt16) : ComesAlone (.request requestID ans) (some r) := by
  rcases hr with ⟨hpending, -⟩ | hpending
  · exact .inl hpending
  · rw [hidle] at hpending
    exact .inr ⟨hpending, hans⟩

theorem recorded_received {s' : UrService}
    {page : Option UrPage} (hr : r.Recorded)
    (hout : UrOutcome r.service requestID ans s' page) :
    ComesAlone (.request requestID ans) (some r) ↔ (r.received requestID s' page).Recorded := by
  cases hout with
  | busy payload hbusy =>
    rcases hr with ⟨-, hidle⟩ | hpending
    · exact absurd hidle hbusy
    -- the pending request is no longer the recorded one
    constructor
    · rintro (hnone | ⟨hother, -⟩)
      · rw [hpending] at hnone
        cases hnone
      · rw [hpending] at hother
        exact absurd (List.head_eq_of_cons_eq hother) hbusy
    · rintro (⟨hnone, -⟩ | hother)
      · have : r.pending = [] := hnone
        rw [hpending] at this
        cases this
      · have : r.pending = [REQUEST_ID_IDLE] := hother
        rw [hpending] at this
        exact absurd (List.head_eq_of_cons_eq this) hbusy
  | unacceptable payload hidle hans =>
    have hnot : urAccepted ans = false := by
      unfold urAccepted
      rw [hans, Bool.false_and, Bool.false_and]
    exact iff_of_true (comesAlone_of_idle hr hidle hnot requestID)
      (recorded_refused hr hidle _ _ _ _)
  | refused payload status hidle _ hnot =>
    exact iff_of_true (comesAlone_of_idle hr hidle hnot requestID)
      (recorded_refused hr hidle _ _ _ _)
  | accepted page hidle hans =>
    have hnow : (r.received requestID { r.service with requestID := requestID }
        (some page)).pending = r.pending ++ [requestID] := rfl
    rcases hr with ⟨hpending, -⟩ | hpending
    · refine iff_of_true (.inl hpending) (.inr ?_)
      rw [hnow, hpending]
      rfl
    · refine iff_of_false ?_ ?_
      · rintro (hnone | ⟨-, hnot⟩)
        · rw [hpending] at hnone
          cases hnone
        · rw [hans] at hnot
          cases hnot
      · rintro (⟨hnone, -⟩ | hone)
        · rw [hnow, hpending] at hnone
          cases hnone
        · rw [hnow, hpending] at hone
          cases hone

theorem recorded_acted (hr : r.Recorded) (e : UrEvent) : (r.acted e).Recorded := by
  cases onPage_outcome r.service e with
  | cleared => exact .inl ⟨rfl, rfl⟩
  | silent _ hne _ hpage =>
    rw [acted_silent hne hpage]
    exact hr
  | answered _ hne data status hpage _ =>
    obtain ⟨hid, hpending, -⟩ := acted_answered hne hpage
    refine .inl ⟨?_, hid⟩
    rw [hpending]
    rcases hr with ⟨hnone, -⟩ | hone
    · rw [hnone]
      rfl
    · rw [hone]
      rfl

theorem comesAlone_step (e : UrEvent) (o : Option UrRun) (ho : ∀ r ∈ o, r.Recorded) :
    ComesAlone e o ↔ ∀ r ∈ urStep e o, r.Recorded := by
  cases o with
  | none => exact iff_of_true (by cases e <;> trivial) (by cases e <;> exact nofun)
  | some r =>
    have hr := ho r rfl
    have hacted : ∀ r' ∈ some (r.acted e), r'.Recorded := by
      rintro r' ⟨⟩
      exact recorded_acted hr e
    cases e with
    | request requestID ans =>
      show _ ↔ ∀ r' ∈ (processURService r.service requestID ans).map _, UrRun.Recorded r'
      cases hserve : processURService r.service requestID ans with
      | none =>
        obtain ⟨hidle, -, hnot⟩ := processURService_halted hserve
        exact iff_of_true (comesAlone_of_idle hr hidle hnot requestID) nofun
      | some out =>
        rw [recorded_received hr (processURService_outcome hserve)]
        simp only [Option.map_some, Option.mem_def, Option.some.injEq, forall_eq']
    | _ => exact iff_of_true trivial hacted

/-- **A pending request stays the recorded one, and the only one, throughout a run,
exactly when no request comes while one is pending.** -/
theorem recorded_of_session (events : List UrEvent) :
    AllSteps urStep ComesAlone events (some .start) ↔
      ∀ js, js <+: events → ∀ r ∈ runSteps urStep js (some .start), r.Recorded :=
  allSteps_iff_along comesAlone_step events (some .start) fun r hr => by
    cases hr
    exact .inl ⟨rfl, rfl⟩

def signable : UrAnswers where
  lockScreenIsTop := false
  mnemonicIsTon := false
  isSetup := false
  parseError := none
  isHardwareCall := false
  keyDerivationRequestIsTop := false
  homePageIsTop := true
  usbTransportIsTop := false
  viewTypeIsAllow := true
  checkResult := some .ok

/-- A second request is refused as busy, and with that the first is no longer recorded:
a third one is accepted while the first is still shown. -/
theorem busy_request_forgets_pending :
    ¬ ∀ events : List UrEvent, ∀ r ∈ runSteps urStep events (some .start), r.Recorded := by
  intro h
  have hthird : (runSteps urStep
      [.request 1 signable, .request 2 signable, .request 3 signable] (some .start)).map
        UrRun.pending = some [1, 3] := by decide
  obtain ⟨r, hr, hpending⟩ := Option.map_eq_some_iff.mp hthird
  rcases h _ r hr with ⟨hnone, -⟩ | hone
  · rw [hpending] at hnone
    cases hnone
  · rw [hpending] at hone
    have hlength : 2 = 1 := congrArg List.length hone
    cases hlength

/-- Every answer carries the id of the request it was given to. -/
def UrRun.OwnIds (r : UrRun) : Prop := ∀ a ∈ r.answered, a.2.requestID = a.1

def UrRun.ShowsRecorded (r : UrRun) : Prop :=
  r.service.requestID ≠ REQUEST_ID_IDLE → r.pending.getLast? = some r.service.requestID

/-- The answer of a step is sent with the id of its request: a request that is examined is
acceptable, and the one a key derivation page shows is still recorded, or its id is the one
that stands for none. -/
def AnswersItsOwn : UrEvent → Option UrRun → Prop
  | .request requestID ans, some r =>
    r.service.requestID = REQUEST_ID_IDLE → urAcceptable ans = true ∨ requestID = REQUEST_ID_IDLE
  | e, some r =>
    e.isKeyDerivation = true → r.service.requestID = REQUEST_ID_IDLE →
      ∀ requestID ∈ r.pending.getLast?, requestID = REQUEST_ID_IDLE
  | _, none => True

theorem ownIds_append (hr : r.OwnIds) (answers : List (UInt16 × EApduResponse)) :
    (∀ a ∈ answers, a.2.requestID = a.1) ↔
      ∀ a ∈ r.answered ++ answers, a.2.requestID = a.1 := by
  constructor
  · intro h a ha
    rcases List.mem_append.mp ha with hold | hnew
    · exact hr a hold
    · exact h a hnew
  · intro h a ha
    exact h a (List.mem_append_right _ ha)

theorem received_answered (r : UrRun) (requestID : UInt16) (payload : String) (id : UInt16)
    (status : StatusEnum) (page : Option UrPage) :
    (r.received requestID (basicHandlerFunc r.service payload id status) page).answered
      = r.answered ++ [(requestID, ⟨eApduHeader, CMD_RESOLVE_UR, id, status, payload⟩)] := by
  unfold UrRun.received
  simp only
  rw [newlySent_basicHandlerFunc]
  rfl

theorem showsRecorded_received
    {s' : UrService} {page : Option UrPage} (hout : UrOutcome r.service requestID ans s' page) :
    (r.received requestID s' page).ShowsRecorded := by
  cases hout with
  | accepted page _ _ =>
    intro _
    exact List.getLast?_concat
  | _ =>
    intro h
    exact absurd rfl h

theorem ownIds_received {s' : UrService}
    {page : Option UrPage} (hr : r.OwnIds)
    (hout : UrOutcome r.service requestID ans s' page) :
    AnswersItsOwn (.request requestID ans) (some r) ↔
      (r.received requestID s' page).OwnIds := by
  unfold UrRun.OwnIds
  cases hout with
  | busy payload hbusy =>
    rw [received_answered, ← ownIds_append hr]
    refine iff_of_true (fun hidle => absurd hidle hbusy) ?_
    rw [List.forall_mem_singleton]
  | unacceptable payload hidle hans =>
    rw [received_answered, ← ownIds_append hr, List.forall_mem_singleton]
    constructor
    · intro h
      rcases h hidle with hacc | hid
      · rw [hans] at hacc
        cases hacc
      · exact hid.symm
    · intro h _
      exact .inr h.symm
  | refused payload status hidle hans _ =>
    rw [received_answered, ← ownIds_append hr]
    refine iff_of_true (fun _ => .inl hans) ?_
    rw [List.forall_mem_singleton]
  | accepted page hidle hans =>
    unfold urAccepted at hans
    rw [Bool.and_eq_true, Bool.and_eq_true] at hans
    refine iff_of_true (fun _ => .inl hans.1.1) ?_
    have hnone : r.service.newlySent { r.service with requestID := requestID } = [] :=
      List.drop_length
    unfold UrRun.received
    simp only
    rw [hnone, List.map_nil, List.append_nil]
    exact hr

theorem showsRecorded_acted (hr : r.ShowsRecorded) (e : UrEvent) :
    (r.acted e).ShowsRecorded := by
  cases onPage_outcome r.service e with
  | cleared =>
    intro h
    exact absurd rfl h
  | silent _ hne _ hpage =>
    rw [acted_silent hne hpage]
    exact hr
  | answered _ hne data status hpage _ =>
    intro h
    exact absurd (acted_answered hne hpage).1 h

theorem ownIds_acted (hr : r.OwnIds) (hshows : r.ShowsRecorded) (e : UrEvent) :
    (e.isKeyDerivation = true → r.service.requestID = REQUEST_ID_IDLE →
      ∀ requestID ∈ r.pending.getLast?, requestID = REQUEST_ID_IDLE) ↔ (r.acted e).OwnIds := by
  cases onPage_outcome r.service e with
  | cleared =>
    refine iff_of_true nofun ?_
    have hnone : r.service.newlySent (UrEvent.cleared.onPage r.service) = [] := List.drop_length
    unfold UrRun.OwnIds UrRun.acted
    rw [hnone, ← ownIds_append hr]
    cases r.pending.getLast? with
    | none => exact nofun
    | some id => exact nofun
  | silent _ hne hkey hpage =>
    rw [acted_silent hne hpage]
    refine iff_of_true (fun h => ?_) hr
    rw [hkey] at h
    cases h
  | answered _ hne data status hpage hid =>
    unfold UrRun.OwnIds
    rw [(acted_answered hne hpage).2.2, ← ownIds_append hr]
    cases hlast : r.pending.getLast? with
    | none => exact iff_of_true nofun nofun
    | some requestID =>
      rw [Option.toList_some, List.map_singleton, List.forall_mem_singleton]
      simp only [Option.mem_def, Option.some.injEq, forall_eq']
      by_cases hidle : r.service.requestID = REQUEST_ID_IDLE
      · have hkey := hid.resolve_left (fun h => h hidle)
        rw [hidle]
        exact ⟨fun h => (h hkey rfl).symm, fun h _ _ => h.symm⟩
      · -- the page shows the recorded request
        refine iff_of_true (fun _ h => absurd h hidle) ?_
        rw [hshows hidle] at hlast
        exact Option.some.inj hlast

theorem answersItsOwn_step (e : UrEvent) (o : Option UrRun)
    (ho : ∀ r ∈ o, r.OwnIds ∧ r.ShowsRecorded) :
    AnswersItsOwn e o ↔ ∀ r ∈ urStep e o, r.OwnIds ∧ r.ShowsRecorded := by
  cases o with
  | none => exact iff_of_true (by cases e <;> trivial) (by cases e <;> exact nofun)
  | some r =>
    obtain ⟨hown, hshows⟩ := ho r rfl
    have hacted : (r.acted e).OwnIds ↔ ∀ r' ∈ some (r.acted e), r'.OwnIds ∧ r'.ShowsRecorded := by
      simp only [Option.mem_def, Option.some.injEq, forall_eq']
      exact (and_iff_left (showsRecorded_acted hshows e)).symm
    cases e with
    | request requestID ans =>
      show _ ↔ ∀ r' ∈ (processURService r.service requestID ans).map _,
        UrRun.OwnIds r' ∧ UrRun.ShowsRecorded r'
      cases hserve : processURService r.service requestID ans with
      | none =>
        obtain ⟨-, hans, -⟩ := processURService_halted hserve
        exact iff_of_true (fun _ => .inl hans) nofun
      | some out =>
        have hout := processURService_outcome hserve
        rw [ownIds_received hown hout]
        simp only [Option.map_some, Option.mem_def, Option.some.injEq, forall_eq']
        exact (and_iff_left (showsRecorded_received hout)).symm
    | _ => exact (ownIds_acted hown hshows _).trans hacted

theorem showsRecorded_step (e : UrEvent) (o : Option UrRun) (ho : ∀ r ∈ o, r.ShowsRecorded) :
    ∀ r ∈ urStep e o, r.ShowsRecorded := by
  cases o with
  | none => cases e <;> exact nofun
  | some r =>
    have hacted : ∀ r' ∈ some (r.acted e), r'.ShowsRecorded := by
      rintro r' ⟨⟩
      exact showsRecorded_acted (ho r rfl) e
    cases e with
    | request requestID ans =>
      intro r' hr'
      obtain ⟨out, hserve, rfl⟩ := Option.map_eq_some_iff.mp hr'
      exact showsRecorded_received (processURService_outcome hserve)
    | _ => exact hacted

/-- **Throughout a run every answer carries its own request's id, exactly when no
examined request finds the device in a state without URs, and no key derivation is
answered after its id was forgotten.** -/
theorem answered_with_own_id (events : List UrEvent) :
    AllSteps urStep AnswersItsOwn events (some .start) ↔
      ∀ js, js <+: events → ∀ r ∈ runSteps urStep js (some .start), r.OwnIds := by
  have hstart : ∀ r ∈ some UrRun.start, r.OwnIds ∧ r.ShowsRecorded := by
    rintro r ⟨⟩
    exact ⟨fun _ h => (nomatch h), fun h => absurd rfl h⟩
  rw [allSteps_iff_along answersItsOwn_step events (some .start) hstart]
  constructor
  · intro h js hjs r hr
    exact (h js hjs r hr).1
  · intro h js hjs r hr
    have hshows := runSteps_inv showsRecorded_step js (some .start) (fun r hr => (hstart r hr).2)
    exact ⟨h js hjs r hr, hshows r hr⟩

/-- A request that reaches a locked device is answered with the id that stands for none. -/
theorem locked_answered_without_id :
    ¬ ∀ events : List UrEvent, ∀ r ∈ runSteps urStep events (some .start), r.OwnIds := by
  intro h
  have hlocked : (runSteps urStep [.request 7 { signable with lockScreenIsTop := true }]
      (some .start)).map UrRun.answered
        = some [(7, ⟨eApduHeader, CMD_RESOLVE_UR, REQUEST_ID_IDLE, .prsParsingDisallowed,
            "Device is locked"⟩)] := by decide
  obtain ⟨r, hr, hanswered⟩ := Option.map_eq_some_iff.mp hlocked
  have hown := h _ r hr
  unfold UrRun.OwnIds at hown
  rw [hanswered, List.forall_mem_singleton] at hown
  cases hown

end Keystone3
