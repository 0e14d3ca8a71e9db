import Keystone3.Logic.Prog
import Keystone3.Usb.Eapdu

/-!
# Exporting an address over USB

The host asks for the account keys of a chain; the device keeps what it was asked in
`g_exportAddressParams` and opens a page on which the user approves or rejects
(`exportAddressService`, `exportAddressApprove`, `exportAddressReject`).

A run (`ExportEvent`) interleaves requests, the opening of pages and the user's buttons;
a page shows the parameters that are kept when it opens.

* `exported_of_session`: no button reads an absent request, and every kept request gets
  one response, on the page that shows it and with its id, exactly when no request finds
  another one kept while the home page is still on top, and the user approves known
  account types only.
-/

namespace Keystone3

open Logic (runSteps AllSteps allSteps_iff_along_of)

def CMD_EXPORT_ADDRESS : UInt16 := 4

/-- `ETH` of the enumeration `Chain`. -/
def CHAIN_ETH : UInt8 := 0

inductive ETHAccountType where
  | bip44Standard
  | ledgerLive
  | ledgerLegacy

/-- What the code is built with. `accountTypeOf` is the conversion of a number to the enumeration,
whose size is left to the compiler. -/
structure ExportEnv where
  accountTypeOf : UInt16 → Option ETHAccountType

structure EthParams where
  n : UInt8
  type : UInt16
  chain : UInt8
  wallet : UInt8

structure ExportAddressParams where
  requestID : UInt16
  n : UInt8
  wallet : UInt8
  type : UInt16

/-- The global `g_exportAddressParams`, the number of page messages that are posted and
not yet taken, and what was sent. -/
structure ExportService where
  params : Option ExportAddressParams
  posted : Nat
  sent : List EApduResponse

/-- `-1` in every field, as far as it fits. -/
def newParams : EthParams := ⟨0xFF, 0xFFFF, 0xFF, 0xFF⟩

/-- The fields are unsigned, and none of them compares equal to `-1`. -/
def isValidParams : Option EthParams → Bool
  | none => false
  | some params =>
    !((params.n.toNat : Int) == -1 || (params.type.toNat : Int) == -1
      || (params.chain.toNat : Int) == -1 || (params.wallet.toNat : Int) == -1)

/-- The chain and the wallet are kept in a byte each. -/
def parseParams (data : List UInt8) (dataLength : Nat) : Option EthParams :=
  if dataLength < 6 then none
  else some { newParams with
    n := 0
    chain := (extract16bitValue data 0).toUInt8
    wallet := (extract16bitValue data 2).toUInt8
    type := extract16bitValue data 4 }

namespace ExportService

/-- `SendEApduResponseError`. -/
def sendError (s : ExportService) (requestID : UInt16) (status : StatusEnum) (error : String) :
    ExportService :=
  { s with sent := s.sent ++ [⟨eApduHeader, CMD_EXPORT_ADDRESS, requestID, status, error⟩] }

def freeParams (s : ExportService) : ExportService := { s with params := none }

end ExportService

def checkExportAcceptable (s : ExportService) (req : EApduRequest)
    (lockScreenIsTop homePageIsTop : Bool) : Bool × ExportService :=
  if lockScreenIsTop then
    (false, s.sendError req.requestID .prsExportAddressDisallowed
      "Export address is not allowed when the device is locked")
  else if !homePageIsTop then
    (false, s.sendError req.requestID .prsExportAddressDisallowed
      "Export address is just allowed on specific pages")
  else (true, s)

def exportAddressService (s : ExportService) (req : EApduRequest)
    (lockScreenIsTop homePageIsTop : Bool) : ExportService :=
  match checkExportAcceptable s req lockScreenIsTop homePageIsTop with
  | (false, s) => s
  | (true, s) =>
    if s.params.isSome then
      (s.sendError req.requestID .prsExportAddressBusy
        "Export address is busy, please try again later").freeParams
    else
      match parseParams req.data req.dataLen with
      | none => s.sendError req.requestID .prsExportAddressInvalidParams "Invalid params"
      | some params =>
        if !isValidParams (some params) then
          s.sendError req.requestID .prsExportAddressInvalidParams "Invalid params"
        else if params.chain = CHAIN_ETH then
          { s with
            params := some ⟨req.requestID, params.n, params.wallet, params.type⟩
            posted := s.posted + 1 }
        else s.sendError req.requestID .prsExportAddressUnsupportedChain "Unsupported chain"

/-- For a type that is none of the accounts' the wallet code returns
a null pointer, and the result is read through it: `none`. -/
def exportEthAddress (env : ExportEnv) (s : ExportService) (requestID : UInt16) (type : UInt16)
    (urResult : ETHAccountType → Except String String) : Option ExportService :=
  match env.accountTypeOf type with
  | none => none
  | some accountType =>
    match urResult accountType with
    | .error errorMessage => some (s.sendError requestID .prsExportAddressError errorMessage)
    | .ok data =>
      some { s with
        sent := s.sent ++ [⟨eApduHeader, CMD_EXPORT_ADDRESS, requestID, .rspSuccessCode, data⟩] }

/-- Without a kept request it is read through a null pointer. -/
def exportAddressApprove (env : ExportEnv) (s : ExportService)
    (urResult : ETHAccountType → Except String String) : Option ExportService :=
  match s.params with
  | none => none
  | some p => (exportEthAddress env s p.requestID p.type urResult).map (·.freeParams)

def exportAddressReject (s : ExportService) : Option ExportService :=
  match s.params with
  | none => none
  | some p =>
    some (s.sendError p.requestID .prsExportAddressRejected "Export address is rejected").freeParams

/-- A request, with what is on top when it comes (`homePageIsTop`: the home page is, if
no page of a request is open); the display task takes a page message; a button on the
page, with what the encoder answers for an account type. -/
inductive ExportEvent where
  | request (req : EApduRequest) (lockScreenIsTop homePageIsTop : Bool)
  | viewOpened
  | approved (urResult : ETHAccountType → Except String String)
  | rejected

/-- The service, the open pages (the one on top first) with their parameters, the kept requests,
and the responses given on a page, each beside what the page showed. -/
structure ExportRun where
  service : ExportService
  shown : List (Option ExportAddressParams)
  accepted : List ExportAddressParams
  answered : List (Option ExportAddressParams × EApduResponse)

def ExportRun.received (r : ExportRun) (req : EApduRequest)
    (lockScreenIsTop homePageIsTop : Bool) : ExportRun :=
  let s := exportAddressService r.service req lockScreenIsTop (homePageIsTop && r.shown.isEmpty)
  { r with
    service := s
    accepted := r.accepted ++ if r.service.posted < s.posted then s.params.toList else [] }

def ExportRun.open (r : ExportRun) : ExportRun :=
  if r.service.posted = 0 then r
  else { r with
    service := { r.service with posted := r.service.posted - 1 }
    shown := r.service.params :: r.shown }

def ExportRun.pressed (r : ExportRun) (shown : Option ExportAddressParams)
    (rest : List (Option ExportAddressParams)) (s' : ExportService) : ExportRun :=
  { r with
    service := s'
    shown := rest
    answered := r.answered ++ (s'.sent.drop r.service.sent.length).map (shown, ·) }

def ExportRun.button (r : ExportRun) (handler : ExportService → Option ExportService) :
    Option ExportRun :=
  match r.shown with
  | [] => some r
  | shown :: rest => (handler r.service).map (r.pressed shown rest)

def exportStep (env : ExportEnv) : ExportEvent → Option ExportRun → Option ExportRun
  | _, none => none
  | .request req lockScreenIsTop homePageIsTop, some r =>
    some (r.received req lockScreenIsTop homePageIsTop)
  | .viewOpened, some r => some r.open
  | .approved urResult, some r => r.button fun s => exportAddressApprove env s urResult
  | .rejected, some r => r.button exportAddressReject

def ExportRun.start : ExportRun := ⟨⟨none, 0, []⟩, [], [], []⟩

/-- Every request that was kept has one response, on the page that shows it and with its
id, or it is still kept. -/
structure ExportRun.Settled (r : ExportRun) : Prop where
  answers : r.accepted.map some = r.answered.map Prod.fst ++ r.service.params.toList.map some
  own : ∀ a ∈ r.answered, ∀ p ∈ a.1, a.2.requestID = p.requestID

/-- The kept request has one page, which is open or on its way. -/
def ExportRun.OnScreen (r : ExportRun) : Prop :=
  match r.service.params with
  | none => r.service.posted = 0 ∧ r.shown = []
  | some p => (r.service.posted = 1 ∧ r.shown = []) ∨ (r.service.posted = 0 ∧ r.shown = [some p])

/-- A request finds none kept, or is refused by `CheckExportAcceptable`; the user approves
an account type there is. -/
def ExportInTurn (env : ExportEnv) : ExportEvent → Option ExportRun → Prop
  | .request _ lockScreenIsTop homePageIsTop, some r =>
    r.service.params = none ∨ lockScreenIsTop = true ∨ homePageIsTop = false ∨ r.shown ≠ []
  | .approved _, some r =>
    r.shown ≠ [] → ∀ p ∈ r.service.params, (env.accountTypeOf p.type).isSome
  | _, _ => True

inductive ExportOutcome (s : ExportService) (req : EApduRequest) (acceptable : Bool) :
    ExportService → Prop where
  | refused (status : StatusEnum) (error : String) (h : acceptable = false ∨ s.params = none) :
      ExportOutcome s req acceptable (s.sendError req.requestID status error)
  | busy (status : StatusEnum) (error : String) (hacc : acceptable = true)
      (hkept : s.params ≠ none) :
      ExportOutcome s req acceptable (s.sendError req.requestID status error).freeParams
  | kept (p : ExportAddressParams) (hnone : s.params = none)
      (hid : p.requestID = req.requestID) :
      ExportOutcome s req acceptable { s with params := some p, posted := s.posted + 1 }

theorem exportAddressService_outcome (s : ExportService) (req : EApduRequest)
    (lockScreenIsTop homePageIsTop : Bool) :
    ExportOutcome s req (!lockScreenIsTop && homePageIsTop)
      (exportAddressService s req lockScreenIsTop homePageIsTop) := by
  unfold exportAddressService checkExportAcceptable
  cases lockScreenIsTop with
  | true => exact .refused _ _ (.inl rfl)
  | false =>
    cases homePageIsTop with
    | false => exact .refused _ _ (.inl rfl)
    | true =>
      cases hparams : s.params with
      | some p =>
        simp only [Bool.false_eq_true, if_false, Bool.not_true, hparams, Option.isSome_some,
          if_true]
        refine .busy _ _ rfl fun hnone => ?_
        rw [hparams] at hnone
        cases hnone
      | none =>
        simp only [Bool.false_eq_true, if_false, Bool.not_true, hparams, Option.isSome_none]
        split
        · exact .refused _ _ (.inr hparams)
        · split
          · exact .refused _ _ (.inr hparams)
          · split
            · exact .kept _ hparams rfl
            · exact .refused _ _ (.inr hparams)

variable {p : ExportAddressParams}

theorem exportAddressApprove_kept {env : ExportEnv} {s : ExportService} (hp : s.params = some p)
    (htype : (env.accountTypeOf p.type).isSome)
    (urResult : ETHAccountType → Except String String) :
    ∃ resp : EApduResponse, resp.requestID = p.requestID ∧
      exportAddressApprove env s urResult
        = some { s with params := none, sent := s.sent ++ [resp] } := by
  obtain ⟨accountType, haccount⟩ := Option.isSome_iff_exists.mp htype
  unfold exportAddressApprove exportEthAddress
  simp only [hp, haccount]
  cases urResult accountType with
  | error errorMessage => exact ⟨_, rfl, rfl⟩
  | ok data => exact ⟨_, rfl, rfl⟩

theorem exportAddressApprove_unknown {env : ExportEnv} {s : ExportService} (hp : s.params = some p)
    (htype : env.accountTypeOf p.type = none)
    (urResult : ETHAccountType → Except String String) :
    exportAddressApprove env s urResult = none := by
  unfold exportAddressApprove exportEthAddress
  simp only [hp, htype, Option.map_none]

theorem exportAddressReject_kept {s : ExportService}
    (hp : s.params = some p) :
    ∃ resp : EApduResponse, resp.requestID = p.requestID ∧
      exportAddressReject s = some { s with params := none, sent := s.sent ++ [resp] } := by
  unfold exportAddressReject
  rw [hp]
  exact ⟨_, rfl, rfl⟩

theorem settled_pressed {r : ExportRun} {resp : EApduResponse}
    (hr : r.Settled) (hp : r.service.params = some p) (hposted : r.service.posted = 0)
    (hid : resp.requestID = p.requestID) :
    (r.pressed (some p) [] { r.service with
        params := none, sent := r.service.sent ++ [resp] }).Settled
      ∧ (r.pressed (some p) [] { r.service with
        params := none, sent := r.service.sent ++ [resp] }).OnScreen := by
  have hanswered : (r.pressed (some p) [] { r.service with
      params := none, sent := r.service.sent ++ [resp] }).answered
        = r.answered ++ [(some p, resp)] := by
    unfold ExportRun.pressed
    simp only [List.drop_left]
    rfl
  refine ⟨⟨?_, ?_⟩, hposted, rfl⟩
  · have hall := hr.answers
    rw [hp] at hall
    rw [hanswered, List.map_append]
    show r.accepted.map some = r.answered.map Prod.fst ++ [some p] ++ []
    rw [List.append_nil]
    exact hall
  · intro a ha q hq
    rw [hanswered] at ha
    rcases List.mem_append.mp ha with hold | hnew
    · exact hr.own a hold q hq
    · obtain rfl := List.mem_singleton.mp hnew
      cases hq
      exact hid

theorem button_keeps {r : ExportRun} {handler : ExportService → Option ExportService}
    (hr : r.Settled) (hscreen : r.OnScreen)
    (hhandler : ∀ p, r.service.params = some p → r.shown ≠ [] →
      ∃ resp : EApduResponse, resp.requestID = p.requestID ∧
        handler r.service = some { r.service with
          params := none, sent := r.service.sent ++ [resp] }) :
    ∃ r' ∈ r.button handler, r'.Settled ∧ r'.OnScreen := by
  have hkept := hscreen
  unfold ExportRun.OnScreen at hkept
  cases hp : r.service.params with
  | none =>
    rw [hp] at hkept
    have hbutton : r.button handler = some r := by
      unfold ExportRun.button
      rw [hkept.2]
    exact ⟨r, hbutton, hr, hscreen⟩
  | some p =>
    rw [hp] at hkept
    rcases hkept with ⟨-, hshown⟩ | ⟨hposted, hshown⟩
    · have hbutton : r.button handler = some r := by
        unfold ExportRun.button
        rw [hshown]
      exact ⟨r, hbutton, hr, hscreen⟩
    · obtain ⟨resp, hid, hs⟩ := hhandler p hp (by rw [hshown]; exact List.cons_ne_nil _ _)
      refine ⟨_, ?_, settled_pressed hr hp hposted hid⟩
      unfold ExportRun.button
      rw [hshown]
      show (handler r.service).map _ = _
      rw [hs]
      rfl

theorem open_keeps {r : ExportRun} (hr : r.Settled) (hscreen : r.OnScreen) :
    r.open.Settled ∧ r.open.OnScreen := by
  unfold ExportRun.open
  by_cases hposted : r.service.posted = 0
  · rw [if_pos hposted]
    exact ⟨hr, hscreen⟩
  rw [if_neg hposted]
  refine ⟨⟨hr.answers, hr.own⟩, ?_⟩
  unfold ExportRun.OnScreen at hscreen ⊢
  simp only
  cases hp : r.service.params with
  | none =>
    rw [hp] at hscreen
    exact absurd hscreen.1 hposted
  | some p =>
    rw [hp] at hscreen
    rcases hscreen with ⟨hone, hshown⟩ | ⟨hzero, -⟩
    · refine .inr ⟨?_, ?_⟩
      · rw [hone]
      · rw [hshown]
    · exact absurd hzero hposted

theorem received_keeps {r : ExportRun} {req : EApduRequest}
    {lockScreenIsTop homePageIsTop : Bool} (hr : r.Settled) (hscreen : r.OnScreen)
    (hturn : r.service.params = none ∨ lockScreenIsTop = true ∨ homePageIsTop = false
      ∨ r.shown ≠ []) :
    (r.received req lockScreenIsTop homePageIsTop).Settled
      ∧ (r.received req lockScreenIsTop homePageIsTop).OnScreen := by
  have hout := exportAddressService_outcome r.service req lockScreenIsTop
    (homePageIsTop && r.shown.isEmpty)
  unfold ExportRun.received
  simp only
  generalize exportAddressService r.service req lockScreenIsTop
    (homePageIsTop && r.shown.isEmpty) = s' at hout
  cases hout with
  | refused status error h =>
    refine ⟨⟨?_, hr.own⟩, hscreen⟩
    show (r.accepted ++ if r.service.posted < r.service.posted then _ else []).map some = _
    rw [if_neg (Nat.lt_irrefl _), List.append_nil]
    exact hr.answers
  | busy status error hacc hkept =>
    exfalso
    rw [Bool.and_eq_true, Bool.and_eq_true, Bool.not_eq_true', List.isEmpty_iff] at hacc
    obtain ⟨hlock, hhome, hshown⟩ := hacc
    rcases hturn with hnone | hlocked | haway | hpage
    · exact hkept hnone
    · rw [hlock] at hlocked
      cases hlocked
    · rw [hhome] at haway
      cases haway
    · exact hpage hshown
  | kept p hnone hid =>
    unfold ExportRun.OnScreen at hscreen
    rw [hnone] at hscreen
    obtain ⟨hposted, hshown⟩ := hscreen
    refine ⟨⟨?_, hr.own⟩, .inl ⟨congrArg (· + 1) hposted, hshown⟩⟩
    have hall := hr.answers
    rw [hnone, Option.toList_none, List.map_nil, List.append_nil] at hall
    simp only
    rw [if_pos (Nat.lt_succ_self _), List.map_append, hall]

theorem exportStep_keeps (env : ExportEnv) (e : ExportEvent) (o : Option ExportRun)
    (ho : ∃ r ∈ o, r.Settled ∧ r.OnScreen) (hturn : ExportInTurn env e o) :
    ∃ r ∈ exportStep env e o, r.Settled ∧ r.OnScreen := by
  obtain ⟨r, rfl, hr, hscreen⟩ := ho
  cases e with
  | request req lockScreenIsTop homePageIsTop =>
    exact ⟨_, rfl, received_keeps hr hscreen hturn⟩
  | viewOpened => exact ⟨_, rfl, open_keeps hr hscreen⟩
  | approved urResult =>
    show ∃ r' ∈ r.button fun s => exportAddressApprove env s urResult, _
    refine button_keeps hr hscreen fun p hp hshown => ?_
    exact exportAddressApprove_kept hp (hturn hshown p hp) urResult
  | rejected =>
    show ∃ r' ∈ r.button exportAddressReject, _
    exact button_keeps hr hscreen fun p hp _ => exportAddressReject_kept hp

theorem exportStep_needs (env : ExportEnv) (e : ExportEvent) (o : Option ExportRun)
    (ho : ∃ r ∈ o, r.Settled ∧ r.OnScreen) (hnext : ∃ r ∈ exportStep env e o, r.Settled) :
    ExportInTurn env e o := by
  obtain ⟨r, rfl, hr, hscreen⟩ := ho
  obtain ⟨r', hr', hsettled⟩ := hnext
  cases e with
  | request req lockScreenIsTop homePageIsTop =>
    cases hr'
    have hout := exportAddressService_outcome r.service req lockScreenIsTop
      (homePageIsTop && r.shown.isEmpty)
    have hanswers := hsettled.answers
    unfold ExportRun.received at hanswers
    simp only at hanswers
    generalize exportAddressService r.service req lockScreenIsTop
      (homePageIsTop && r.shown.isEmpty) = s' at hout hanswers
    cases hout with
    | refused status error h =>
      rcases h with hnot | hnone
      · right
        cases lockScreenIsTop with
        | true => exact .inl rfl
        | false =>
          cases homePageIsTop with
          | false => exact .inr (.inl rfl)
          | true =>
            refine .inr (.inr fun hshown => ?_)
            rw [hshown] at hnot
            cases hnot
      · exact .inl hnone
    | busy status error hacc hkept =>
      exfalso
      obtain ⟨p, hp⟩ := Option.ne_none_iff_exists'.mp hkept
      have hall := hr.answers
      have hposted : ¬ r.service.posted < (r.service.sendError req.requestID status
        error).freeParams.posted := Nat.lt_irrefl _
      rw [if_neg hposted, List.append_nil, hall, hp] at hanswers
      have hlength := congrArg List.length hanswers
      simp [ExportService.freeParams] at hlength
    | kept p hnone hid => exact .inl hnone
  | viewOpened => trivial
  | approved urResult =>
    intro hshown p hp
    cases htype : env.accountTypeOf p.type with
    | some accountType => rfl
    | none =>
      exfalso
      obtain ⟨shown, rest, hpage⟩ := List.exists_cons_of_ne_nil hshown
      have hnone := exportAddressApprove_unknown hp htype urResult
      have hbutton : r.button (fun s => exportAddressApprove env s urResult) = some r' := hr'
      unfold ExportRun.button at hbutton
      rw [hpage] at hbutton
      simp only at hbutton
      rw [hnone] at hbutton
      cases hbutton
  | rejected => trivial

/-- **No button reads an absent request, and every kept request is answered once, on the
page that shows it, exactly when requests and approvals come in turn.** -/
theorem exported_of_session (env : ExportEnv) (events : List ExportEvent) :
    AllSteps (exportStep env) (ExportInTurn env) events (some .start) ↔
      ∀ js, js <+: events → ∃ r ∈ runSteps (exportStep env) js (some .start), r.Settled := by
  refine allSteps_iff_along_of (J := fun o => ∃ r ∈ o, ExportRun.Settled r) ?_
    (exportStep_keeps env) (exportStep_needs env) events _ ?_
  · rintro o ⟨r, hr, hsettled, -⟩
    exact ⟨r, hr, hsettled⟩
  · exact ⟨_, rfl, ⟨rfl, nofun⟩, rfl, rfl⟩

def metamaskRequest (requestID : UInt16) : EApduRequest where
  cla := 0
  data := [0, 0, 0, 0, 0, 0]
  dataLen := 6
  requestID := requestID
  commandType := CMD_EXPORT_ADDRESS

/-- A second request that comes before the page of the first has opened is answered as
busy and frees the first; the page opens all the same, and its button reads a null
pointer. -/
theorem busy_export_frees_pending :
    ¬ ∀ (env : ExportEnv) (events : List ExportEvent),
      ∃ r ∈ runSteps (exportStep env) events (some .start), r.Settled := by
  intro h
  obtain ⟨r, hr, -⟩ := h ⟨fun _ => some .bip44Standard⟩
    [.request (metamaskRequest 1) false true, .request (metamaskRequest 2) false true,
      .viewOpened, .rejected]
  have hcrash : (runSteps (exportStep ⟨fun _ => some .bip44Standard⟩)
    [.request (metamaskRequest 1) false true, .request (metamaskRequest 2) false true,
      .viewOpened, .rejected] (some .start)) = none := by decide
  rw [hcrash] at hr
  cases hr

end Keystone3
