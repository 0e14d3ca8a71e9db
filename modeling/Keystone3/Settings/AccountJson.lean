import Keystone3.Account.AreaText
import Keystone3.Json.Squeeze

/-!
# The settings of an account

The routines of `account_public_info.c` that keep the receive addresses and the
connected wallets of an account. All of them live in one JSON document, an object for
each chain or wallet.

With a passphrase in force there is a second document instead, in RAM behind
`g_tempParsePhraseJson`, which lives from one call to the next and is never written to
the flash.
-/

namespace Keystone3.Settings

open Logic (Prog)
open Logic.Prog
open Json (Item ascii printValue removeFormatChar)

/-- `g_tempParsePhraseJson`. -/
inductive TempParsePhraseJson where
  | null
  | live (root : Item)
  /-- The document has been deleted, and the pointer still points to where it was. -/
  | dangling

structure SettingsDevice where
  device : Device
  tempParsePhraseJson : TempParsePhraseJson
  /-- A document was used after it had been deleted. -/
  usedAfterDelete : Bool

abbrev Routine (α : Type) : Type := Prog ErrCode SettingsDevice α

def onDevice {α : Type} (x : Account α) : Routine α :=
  onPart SettingsDevice.device (fun d s => { s with device := d }) x

/-- A pointer to the root of a document: the one of `g_tempParsePhraseJson`, or a tree of
the call's own, null where the text could not be parsed. -/
inductive RootJson where
  | temp
  | own (root : Option Item)

def useAfterDelete {α : Type} : Routine α := do
  modify fun s => { s with usedAfterDelete := true }
  halt

/-- The document behind `g_tempParsePhraseJson`. -/
def tempJson : Routine Item := do
  let s ← get
  match s.tempParsePhraseJson with
  | .live root => pure root
  | .dangling => useAfterDelete
  | .null => halt

/-- Point `g_tempParsePhraseJson` somewhere else. -/
def setTemp (temp : TempParsePhraseJson) : Routine Unit :=
  modify fun s => { s with tempParsePhraseJson := temp }

def RootJson.read : RootJson → Routine (Option Item)
  | .temp => do
    let root ← tempJson
    return some root
  | .own root => pure root

def RootJson.change (f : Item → Item) : RootJson → Routine RootJson
  | .temp => do
    let root ← tempJson
    setTemp (.live (f root))
    return .temp
  | .own root => pure (.own (root.map f))

/-- It does not touch `g_tempParsePhraseJson` itself. -/
def cJSONDelete : RootJson → Routine Unit
  | .temp => do
    let _ ← tempJson
    setTemp .dangling
  | .own _ => pure ()

/-- `GetCurrentAccountIndex`, asserted to be an account. -/
def currentAccount : Routine AccountIndex := do
  let s ← get
  match s.device.currentAccountIndex with
  | some i => pure i
  | none => halt

/-- `PassphraseExist(GetCurrentAccountIndex())`. -/
def passphraseMode : Routine Bool := do
  let i ← currentAccount
  onDevice (passphraseExist i)

def tempRoot : Routine RootJson := do
  let s ← get
  match s.tempParsePhraseJson with
  | .null => do
    setTemp (.live (.object []))
    return .temp
  | _ => return .temp

def dropTemp : Routine Unit := do
  let s ← get
  match s.tempParsePhraseJson with
  | .null => pure ()
  | _ => do
    cJSONDelete .temp
    setTemp .null

def parseArea (i : AccountIndex) : Routine RootJson := do
  let s ← get
  if areaSize s.device i .mutableData = 0xFFFFFFFF then halt
  else return .own (Json.parse ((areaText s.device i .mutableData).takeWhile (· != 0)))

def readAndParseAccountJson : Routine RootJson := do
  let account ← currentAccount
  if ← onDevice (passphraseExist account) then tempRoot
  else do
    dropTemp
    parseArea account

/-- `CleanupJson`, and what the routines do that do not call it. -/
def cleanupJson (json : RootJson) : Routine Unit := do
  if ← passphraseMode then pure ()
  else cJSONDelete json

def printRoot : Option Item → Routine CString
  | some root => pure (removeFormatChar (printValue root))
  | none => halt

def storeRoot (env : Env) (i : AccountIndex) (rootJson : RootJson) : Routine Unit := do
  onDevice (eraseArea env i .mutableData)
  let root ← rootJson.read
  let jsonString ← printRoot root
  onDevice (writeSizedText env i .mutableData jsonString)

def writeJsonToFlash (env : Env) (rootJson : RootJson) : Routine Unit := do
  let account ← currentAccount
  if ← onDevice (passphraseExist account) then pure ()
  else storeRoot env account rootJson

def itemOf (name : CString) (root : Option Item) : Option Item :=
  root.bind fun root => root.getObjectItem name

/-- The value of a key in an item, as the `uint32_t` that its `int` becomes. -/
def valueOf (key : CString) (item : Item) : UInt32 :=
  match item.getObjectItem key with
  | some value => UInt32.ofInt value.valueInt
  | none => 0

def namedValue (name key : CString) (root : Option Item) : UInt32 :=
  match itemOf name root with
  | some item => valueOf key item
  | none => 0

/-- `cJSON_CreateNumber` of an unsigned value. -/
def createNumber (value : UInt32) : Item := .number value.toNat

def putValue (key : CString) (value : UInt32) (item : Item) : Item :=
  match item.getObjectItem key with
  | some _ => item.replaceItemInObject key (createNumber value)
  | none => item.addItemToObject key (createNumber value)

def setValue (key : CString) (value : UInt32) (item : Item) : Item :=
  match item.getObjectItem key with
  | some _ => item.updateItem key (Item.setNumberValue value.toNat)
  | none => item.addItemToObject key (createNumber value)

def getValue (key name : CString) : Routine UInt32 := do
  let rootJson ← readAndParseAccountJson
  let root ← rootJson.read
  cleanupJson rootJson
  return namedValue name key root

def finishSet (env : Env) (rootJson : RootJson) : Routine Unit := do
  writeJsonToFlash env rootJson
  cleanupJson rootJson

def changeOldItem (env : Env) (f : Item → Item) (rootJson : RootJson) :
    Option Item → Routine Unit
  | some _ => do
    let rootJson ← rootJson.change f
    finishSet env rootJson
  | none => cJSONDelete rootJson

def setOldItem (env : Env) (key name : CString) (value : UInt32) : Routine Unit := do
  let rootJson ← readAndParseAccountJson
  let root ← rootJson.read
  changeOldItem env (Item.updateItem name (putValue key value)) rootJson (itemOf name root)

/-- Set a value of an item, by `put`, or make the item where there is none. -/
def changeAnyItem (put : CString → UInt32 → Item → Item) (key name : CString) (value : UInt32)
    (rootJson : RootJson) : Option Item → Routine RootJson
  | some _ => rootJson.change (Item.updateItem name (put key value))
  | none =>
    rootJson.change fun root => root.addItemToObject name (.object [(key, createNumber value)])

def setAnyItem (env : Env) (put : CString → UInt32 → Item → Item) (key name : CString)
    (value : UInt32) : Routine Unit := do
  let rootJson ← readAndParseAccountJson
  let root ← rootJson.read
  let rootJson ← changeAnyItem put key name value rootJson (itemOf name root)
  finishSet env rootJson

def newChainItem (chainName : CString) : Item :=
  .object [(ascii "recvIndex", createNumber 0), (ascii "recvPath", createNumber 0),
    (ascii "firstRecv", .bool true),
    (ascii "manage", .bool (chainName == ascii "TON" || chainName == ascii "BTC" ||
      chainName == ascii "ETH"))]

def ensureChainItem (chainName : CString) (rootJson : RootJson) : Option Item → Routine RootJson
  | some _ => pure rootJson
  | none => rootJson.change fun root => root.addItemToObject chainName (newChainItem chainName)

def getAccountReceiveIndex (chainName : CString) : Routine UInt32 := do
  let rootJson ← readAndParseAccountJson
  let root ← rootJson.read
  let rootJson ← ensureChainItem chainName rootJson (itemOf chainName root)
  cleanupJson rootJson
  return namedValue chainName (ascii "recvIndex") root

/-- Without an item of the chain there is nothing to set, and the
document is stored as it was. -/
def setAccountReceiveIndex (env : Env) (chainName : CString) (index : UInt32) :
    Routine Unit := do
  let rootJson ← readAndParseAccountJson
  let rootJson ← rootJson.change (Item.updateItem chainName (putValue (ascii "recvIndex") index))
  finishSet env rootJson

def getAccountReceivePath (chainName : CString) : Routine UInt32 :=
  getValue (ascii "recvPath") chainName

def setAccountReceivePath (env : Env) (chainName : CString) (index : UInt32) : Routine Unit :=
  setOldItem env (ascii "recvPath") chainName index

def getAccountIndex (chainName : CString) : Routine UInt32 :=
  getValue (ascii "recvAccount") chainName

def setAccountIndex (env : Env) (chainName : CString) (index : UInt32) : Routine Unit :=
  setOldItem env (ascii "recvAccount") chainName index

/-- `strncpy_s` of a whole string into a buffer of as many bytes. -/
def strncpyS (dmax : Nat) (src : CString) : CString := if src.length < dmax then src else []

/-- The copy of a wallet's name, in `BUFFER_SIZE_32` bytes and without format characters. -/
def walletNameCopy (walletName : CString) : CString := removeFormatChar (strncpyS 32 walletName)

def getTemplateWalletValue (walletName key : CString) : Routine UInt32 := getValue key walletName

def setTemplateWalletValue (env : Env) (walletName key : CString) (value : UInt32) :
    Routine Unit := setAnyItem env setValue key walletName value

def getConnectWalletPathIndex (walletName : CString) : Routine UInt32 :=
  getTemplateWalletValue (walletNameCopy walletName) (ascii "derivePath")

def setConnectWalletPathIndex (env : Env) (walletName : CString) (index : UInt32) :
    Routine Unit :=
  setTemplateWalletValue env (walletNameCopy walletName) (ascii "derivePath") index

def getConnectWalletAccountIndex (walletName : CString) : Routine UInt32 :=
  getValue (ascii "walletAccount") (walletNameCopy walletName)

def setConnectWalletAccountIndex (env : Env) (walletName : CString) (index : UInt32) :
    Routine Unit :=
  setAnyItem env putValue (ascii "walletAccount") (walletNameCopy walletName) index

def getConnectWalletNetwork (walletName : CString) : Routine UInt32 :=
  getValue (ascii "walletNetwork") walletName

def setConnectWalletNetwork (env : Env) (walletName : CString) (index : UInt32) :
    Routine Unit := setAnyItem env putValue (ascii "walletNetwork") walletName index

inductive Kind where
  | receiveIndex
  | receivePath
  | accountIndex
  | walletAccount
  | walletNetwork
  | walletPath
deriving DecidableEq

structure Name where
  text : CString
  terminated : 0 ∉ text
deriving DecidableEq

def Kind.get (name : Name) : Kind → Routine UInt32
  | .receiveIndex => getAccountReceiveIndex name.text
  | .receivePath => getAccountReceivePath name.text
  | .accountIndex => getAccountIndex name.text
  | .walletAccount => getConnectWalletAccountIndex name.text
  | .walletNetwork => getConnectWalletNetwork name.text
  | .walletPath => getConnectWalletPathIndex name.text

def Kind.set (env : Env) (name : Name) (value : UInt32) : Kind → Routine Unit
  | .receiveIndex => setAccountReceiveIndex env name.text value
  | .receivePath => setAccountReceivePath env name.text value
  | .accountIndex => setAccountIndex env name.text value
  | .walletAccount => setConnectWalletAccountIndex env name.text value
  | .walletNetwork => setConnectWalletNetwork env name.text value
  | .walletPath => setConnectWalletPathIndex env name.text value

end Keystone3.Settings
