import Keystone3.Json.RoundTrip
import Keystone3.Account.AreaText

/-!
# The multisig wallets of an account

`multi_sig_wallet_manager.c`, with `MultiSigWalletSave` and `MultiSigWalletGet` of
`account_public_info.c`. The manager keeps the wallets of the current account in a
linked list with its length beside it; every addition and deletion writes the whole list
to the account's flash area as a JSON text, with the hash of the text in the secure
element, and a switch of accounts makes a new manager and reads the text back.
-/

namespace Keystone3.Multisig

open Logic (Prog)
open Logic.Prog
open Json (Item ascii printValue)

/-- `MultiSigWallet`, as the Rust code hands it over. Its texts are C strings. -/
structure MultiSigWallet where
  name : CString
  network : UInt32
  verifyCode : CString
  verifyWithoutMfp : CString
  format : CString
  configText : CString
  terminated : ∀ text ∈ [name, verifyCode, verifyWithoutMfp, format, configText], 0 ∉ text

structure MultiSigWalletItem where
  order : Int
  verifyCode : CString
  verifyWithoutMfp : CString
  name : CString
  format : CString
  network : Int
  walletConfig : CString
  passphrase : Bool

/-- The values of the nodes, from the head on. -/
structure MultiSigWalletList where
  nodes : List MultiSigWalletItem
  length : Int

/-- The device with `g_multisigWalletManager`; `none` is a null pointer. -/
structure WalletDevice where
  device : Device
  list : Option MultiSigWalletList

abbrev Manager (α : Type) : Type := Prog ErrCode WalletDevice α

def onDevice {α : Type} (x : Account α) : Manager α :=
  onPart WalletDevice.device (fun d s => { s with device := d }) x

def maxMultiSigWalletNumber : Nat := 5

def maxNameLength : Nat := 64

def maxFormatLength : Nat := 12

def maxVerifyCodeLength : Nat := 12

def maxWalletConfigTextLength : Nat := 2048

def multiSigStrCacheLength : Nat := 3 * 1024

def createMultiSigWalletList : MultiSigWalletList := ⟨[], 0⟩

/-- On a full list it returns without a word. -/
def insertNode (item : MultiSigWalletItem) (list : MultiSigWalletList) : MultiSigWalletList :=
  if (maxMultiSigWalletNumber : Int) ≤ list.length then list
  else ⟨list.nodes ++ [item], list.length + 1⟩

def findNode (verifyCode : CString) (list : MultiSigWalletList) : Option MultiSigWalletItem :=
  list.nodes.find? fun item => item.verifyCode == verifyCode

def findAvailableIndex (list : MultiSigWalletList) : Nat :=
  ((List.range maxMultiSigWalletNumber).find? fun index : Nat =>
    list.nodes.all fun item => item.order != (index : Int)).getD maxMultiSigWalletNumber

/-- The list, and the index of the node, `-1` when there is none. -/
def deleteNode (verifyCode : CString) (list : MultiSigWalletList) : Int × MultiSigWalletList :=
  match list.nodes.findIdx? fun item => item.verifyCode == verifyCode with
  | some index => (index, ⟨list.nodes.eraseIdx index, list.length - 1⟩)
  | none => (-1, list)

def appendWalletItemToJson (item : MultiSigWalletItem) : Item :=
  .object [(ascii "order", .number item.order), (ascii "name", .string item.name),
    (ascii "verify_code", .string item.verifyCode),
    (ascii "verify_without_mfp", .string item.verifyWithoutMfp),
    (ascii "network", .number item.network), (ascii "wallet_config", .string item.walletConfig),
    (ascii "format", .string item.format), (ascii "passphrase", .bool item.passphrase)]

/-- The document of a list; `g_multiSigInfoVersion` is its version. -/
def walletsJson (nodes : List MultiSigWalletItem) : Item :=
  .object [(ascii "version", .string (ascii "1.0.0")),
    (ascii "multi_sig_wallet_list", .array (nodes.map appendWalletItemToJson))]

/-- `GetStringValue`, into `maxLen` bytes. -/
def getStringValue (obj : Item) (key : CString) (maxLen : Nat) : CString :=
  match obj.getObjectItem key with
  | some json => if (json.valueString.getD []).length < maxLen then json.valueString.getD [] else []
  | none => []

/-- An item read from its place in the document. The order and the network are looked
at without a check that they are there. -/
def walletItemOfJson (wallet : Item) : Option MultiSigWalletItem := do
  let order ← wallet.getObjectItem (ascii "order")
  let network ← wallet.getObjectItem (ascii "network")
  return {
    order := order.valueInt
    name := getStringValue wallet (ascii "name") multiSigStrCacheLength
    verifyCode := getStringValue wallet (ascii "verify_code") multiSigStrCacheLength
    verifyWithoutMfp := getStringValue wallet (ascii "verify_without_mfp") multiSigStrCacheLength
    network := network.valueInt
    walletConfig := getStringValue wallet (ascii "wallet_config") multiSigStrCacheLength
    format := getStringValue wallet (ascii "format") multiSigStrCacheLength
    passphrase :=
      match wallet.getObjectItem (ascii "passphrase") with
      | some passphrase => passphrase.valueInt != 0
      | none => false }

/-- `ASSERT_WALLET_MANAGER_EXIST`, and its list. -/
def getList : Manager MultiSigWalletList := do
  let s ← get
  match s.list with
  | some list => pure list
  | none => halt

def setList (list : MultiSigWalletList) : Manager Unit :=
  modify fun s => { s with list := some list }

/-- `GetCurrentAccountIndex`, where the caller asserts that an account is logged in. -/
def currentAccount : Manager AccountIndex := do
  let s ← get
  match s.device.currentAccountIndex with
  | some i => pure i
  | none => halt

def storeMultisigHash (env : Env) (i : AccountIndex) (text : CString) : Account Unit :=
  ignore (setMultisigDataHash env i (env.crypto.sha256 text))

def writeWallets (env : Env) (i : AccountIndex) (retStr : CString) : Account Unit := do
  writeSizedText env i .multiSigData retStr
  storeMultisigHash env i retStr

/-- The flash part of `MultiSigWalletSave`. The area is erased before the size of the
text is checked. -/
def saveWallets (env : Env) (i : AccountIndex) (nodes : List MultiSigWalletItem) : Account Unit := do
  eraseArea env i .multiSigData
  let retStr := printValue (walletsJson nodes)
  assert (retStr.length < UserArea.multiSigData.size - 4)
  writeWallets env i retStr

def multiSigWalletSave (env : Env) : Manager Unit := do
  let i ← currentAccount
  let list ← getList
  onDevice (saveWallets env i list.nodes)

def multiSigWalletSaveDefault (env : Env) (i : AccountIndex) : Account Unit := do
  eraseArea env i .multiSigData
  writeWallets env i (printValue (walletsJson []))

def ensureWallets (env : Env) (i : AccountIndex) : Account Unit := do
  let d ← get
  if areaSize d i .multiSigData = 0xFFFFFFFF ∨ areaSize d i .multiSigData = 0 then
    multiSigWalletSaveDefault env i
  else pure ()

def checkWallets (env : Env) (i : AccountIndex) : Account CString := do
  let d ← get
  let jsonString := (areaText d i .multiSigData).takeWhile (· != 0)
  if ← verifyMultisigWalletDataHash env i (env.crypto.sha256 jsonString) then
    return jsonString
  else
    throw .keystoreExtendPublicKeyNotMatch

/-- The flash part of `MultiSigWalletGet`. -/
def readWallets (env : Env) (i : AccountIndex) : Account CString := do
  ensureWallets env i
  checkWallets env i

/-- The loop of `MultiSigWalletGet`. -/
def insertWallets : List Item → MultiSigWalletList → Option MultiSigWalletList
  | [], list => some list
  | wallet :: wallets, list => do
    let item ← walletItemOfJson wallet
    insertWallets wallets (insertNode item list)

def walletsOfText (jsonString : CString) : Option Item :=
  (Json.parse jsonString).bind fun rootJson => rootJson.getObjectItem (ascii "multi_sig_wallet_list")

def insertAll (wallets : Item) (list : MultiSigWalletList) : Manager Unit :=
  match insertWallets wallets.elements list with
  | some list => setList list
  | none => halt

def multiSigWalletGet (env : Env) (i : AccountIndex) : Manager Unit := do
  let jsonString ← onDevice (readWallets env i)
  let list ← getList
  match walletsOfText jsonString with
  | none => pure ()
  | some wallets => insertAll wallets list

/-- `initMultiSigWalletManager` and `LoadCurrentAccountMultisigWallet`, as every switch of
accounts calls them. -/
def loadCurrentAccountMultisigWallet (env : Env) : Manager Unit := do
  setList createMultiSigWalletList
  let i ← currentAccount
  multiSigWalletGet env i

def walletItem (wallet : MultiSigWallet) (order : Nat) (passphrase : Bool) : MultiSigWalletItem where
  name := strcpyS maxNameLength wallet.name
  network := wallet.network.toInt32.toInt
  order := order
  verifyCode := strcpyS maxVerifyCodeLength wallet.verifyCode
  verifyWithoutMfp := strcpyS maxVerifyCodeLength wallet.verifyWithoutMfp
  format := strcpyS maxFormatLength wallet.format
  walletConfig := strcpyS maxWalletConfigTextLength wallet.configText
  passphrase := passphrase

/-- It returns the item whether or not the list took it. -/
def addMultisigWalletToCurrentAccount (env : Env) (wallet : MultiSigWallet) :
    Manager MultiSigWalletItem := do
  let list ← getList
  match findNode wallet.verifyCode list with
  | some item => return item
  | none => do
    let i ← currentAccount
    let passphrase ← onDevice (passphraseExist i)
    let item := walletItem wallet (findAvailableIndex list) passphrase
    setList (insertNode item list)
    multiSigWalletSave env
    return item

def deleteMultisigWalletByVerifyCode (env : Env) (verifyCode : CString) : Manager Int := do
  let list ← getList
  setList (deleteNode verifyCode list).2
  multiSigWalletSave env
  return (deleteNode verifyCode list).1

end Keystone3.Multisig
