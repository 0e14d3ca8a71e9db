import Keystone3.Bitcoin.Psbt
import Keystone3.Bytes.Lines
import Keystone3.Bytes.Numeral
import Keystone3.Keys.Hierarchy

/-!
# Keys at paths that are texts

A path is read from a text, with or without an `m` in front. The key at the last
two steps below an account's public key is the one at the whole path, if the
steps before them are the account's (`getPublicKeyBySeed_of_account`).
-/

namespace Keystone3.Keys

open Bitcoin (ChildNumber DerivationPath PublicKey)
open Bytes (Block)
open Logic (Outcome)
open Logic.Outcome (bind_eq_ok okOr okOr_eq_ok)
open Option (bind_eq_bind bind_eq_some_iff map_some)

abbrev Text : Type := List Char

/-- `KeystoreError`, less the texts of the library and what is only raised elsewhere. -/
inductive KeystoreError where
  | derivePubKey
  | invalidDerivationPath
  | seedError
  | derivationError
deriving DecidableEq

abbrev Result (α : Type) : Type := Outcome KeystoreError α

/-- `FromStr for ChildNumber`. -/
def parseChild (part : Text) : Option ChildNumber :=
  if part.getLast? = some '\'' ∨ part.getLast? = some 'h' then
    (Bytes.parseUnsigned (2 ^ 31) part.dropLast).map fun n => .hardened (UInt32.ofNat n)
  else (Bytes.parseUnsigned (2 ^ 31) part).map fun n => .normal (UInt32.ofNat n)

/-- `strip_prefix("m/")`, or else the text. -/
def stripRoot : Text → Text
  | 'm' :: '/' :: path => path
  | path => path

def parseSteps : List Text → Option DerivationPath
  | [] => some []
  | part :: parts => do
    let child ← parseChild part
    let path ← parseSteps parts
    pure (child :: path)

/-- `FromStr for DerivationPath`. -/
def parsePath (path : Text) : Option DerivationPath :=
  if path = [] ∨ path = ['m'] ∨ path = ['m', '/'] then some []
  else parseSteps ((stripRoot path).splitOn '/')

/-- `Display for ChildNumber`. -/
def childText : ChildNumber → Text
  | .normal index => Nat.toDigits 10 index.toNat
  | .hardened index => Nat.toDigits 10 index.toNat ++ ['\'']

/-- `Display for DerivationPath`. -/
def pathText (path : DerivationPath) : Text := ['/'].intercalate (path.map childText)

def normalizePath (path : Text) : Text :=
  let p := path.map Char.toLower
  if p.head? = some 'm' then p else 'm' :: '/' :: p

def twoSteps (a b : Text) : Text := 'm' :: '/' :: (a ++ '/' :: b)

structure SecpLib (Xpriv Xpub : Type) extends Hierarchy Xpriv Xpub ChildNumber where
  parseXpub : Text → Option Xpub
  newMaster : List UInt8 → Option Xpriv
  publicKey : Xpub → PublicKey
  serializeUncompressed : PublicKey → Block 65
  /-- A signature and the number that tells the key from others. -/
  signEcdsaRecoverable : Xpriv → Block 32 → UInt8 × Block 64

section

variable {Xpriv Xpub : Type} (lib : SecpLib Xpriv Xpub)

def deriveExtendPublicKey (xpub path : Text) : Result Xpub := do
  let p := normalizePath path
  let extendedKey ← okOr .derivePubKey (lib.parseXpub xpub)
  let derivationPath ← okOr .invalidDerivationPath (parsePath p)
  okOr .derivationError (lib.derivePub extendedKey derivationPath)

def derivePublicKey (xpub path : Text) : Result PublicKey := do
  let key ← deriveExtendPublicKey lib xpub path
  pure (lib.publicKey key)

def getExtendedPrivateKeyBySeed (seed : List UInt8) (path : Text) : Result Xpriv := do
  let p := normalizePath path
  let derivationPath ← okOr .invalidDerivationPath (parsePath p)
  let root ← okOr .seedError (lib.newMaster seed)
  okOr .derivationError (lib.derivePriv root derivationPath)

def getPublicKeyBySeed (seed : List UInt8) (path : Text) : Result PublicKey := do
  let key ← getExtendedPrivateKeyBySeed lib seed path
  pure (lib.publicKey (lib.neuter key))

def signMessageBySeed (seed : List UInt8) (path : Text) (message : Block 32) :
    Result (UInt8 × Block 64) := do
  let key ← getExtendedPrivateKeyBySeed lib seed path
  pure (lib.signEcdsaRecoverable key message)

/-- The text is that of the seed's public key at the account's path. -/
def IsAccountKey (seed : List UInt8) (account : DerivationPath) (xpub : Text) : Prop :=
  ∃ master key, lib.newMaster seed = some master ∧ lib.derivePriv master account = some key
    ∧ lib.parseXpub xpub = some (lib.neuter key)

end

def stepBytes (path : DerivationPath) : List UInt8 :=
  path.flatMap fun
    | .normal index => [0, index.toUInt8]
    | .hardened index => [1, index.toUInt8]

def SecpLib.ofPaths (publicKey : DerivationPath → PublicKey)
    (sign : DerivationPath → Block 32 → UInt8 × Block 64) :
    SecpLib DerivationPath DerivationPath where
  hardened
    | .normal _ => false
    | .hardened _ => true
  neuter := id
  childPriv k s := some (k ++ [s])
  childPub k
    | .normal index => some (k ++ [.normal index])
    | .hardened _ => none
  childPub_hardened k s h := by
    cases s with
    | normal index => cases h
    | hardened index => rfl
  childPub_neuter k s h := by
    cases s with
    | normal index => rfl
    | hardened index => cases h
  parseXpub := parsePath
  newMaster _ := some []
  publicKey
  serializeUncompressed pubkey := Block.ofBytes 65 (4 :: pubkey.bytes)
  signEcdsaRecoverable := sign

def InAccount (account : DerivationPath) (path : Text) : Prop :=
  ∃ a b, parsePath (normalizePath path) = some (account ++ [a, b])

theorem toLower_eq_slash (c : Char) : c.toLower = '/' ↔ c = '/' := by
  unfold Char.toLower
  split
  · rename_i h
    have hlow : 65 ≤ c.toNat ∧ c.toNat ≤ 90 := h
    constructor
    · intro heq
      have hval := congrArg Char.toNat heq
      simp at hval
      omega
    · rintro rfl
      exact absurd h (by decide)
  · exact Iff.rfl

theorem splitOn_map_toLower (path : Text) :
    (path.map Char.toLower).splitOn '/' = (path.splitOn '/').map (List.map Char.toLower) := by
  induction path with
  | nil => rfl
  | cons c path ih =>
    rw [List.map_cons, List.splitOn_cons_eq_if_modifyHead, List.splitOn_cons_eq_if_modifyHead]
    by_cases hc : c = '/'
    · rw [if_pos (beq_iff_eq.mpr ((toLower_eq_slash c).mpr hc)), if_pos (beq_iff_eq.mpr hc), ih]
      rfl
    · rw [if_neg (by simpa using fun h => hc ((toLower_eq_slash c).mp h)),
        if_neg (by simpa using hc), ih]
      cases path.splitOn '/' with
      | nil => rfl
      | cons first parts => rfl

theorem splitOn_slash {first : Text} (h : '/' ∉ first) (path : Text) :
    (first ++ '/' :: path).splitOn '/' = first :: path.splitOn '/' :=
  List.splitOn_append_cons_self_of_not_mem h path

theorem splitOn_normalizePath (path : Text) :
    ∃ front, (normalizePath path).splitOn '/'
      = front ++ (path.splitOn '/').map (List.map Char.toLower) := by
  unfold normalizePath
  dsimp only
  split
  · exact ⟨[], splitOn_map_toLower path⟩
  · refine ⟨[['m']], ?_⟩
    rw [show 'm' :: '/' :: path.map Char.toLower = ['m'] ++ '/' :: path.map Char.toLower from rfl,
      splitOn_slash (by decide), splitOn_map_toLower]
    rfl

theorem splitOn_root (path : Text) : ('m' :: '/' :: path).splitOn '/' = ['m'] :: path.splitOn '/' :=
  @splitOn_slash ['m'] (by decide) path

theorem stripRoot_of_ne {path : Text} (h : (path.splitOn '/').head? ≠ some ['m']) :
    stripRoot path = path := by
  unfold stripRoot
  split
  · rw [splitOn_root] at h
    exact absurd rfl h
  · rfl

theorem parsePath_of_splitOn {path first second third : Text} {rest : List Text}
    (h : path.splitOn '/' = first :: second :: third :: rest) :
    parsePath path = parseSteps (if first = ['m'] then second :: third :: rest
      else first :: second :: third :: rest) := by
  have hlong : ¬(path = [] ∨ path = ['m'] ∨ path = ['m', '/']) := by
    rintro (rfl | rfl | rfl)
    · cases h
    · cases h
    · cases h
  rw [parsePath, if_neg hlong]
  by_cases hfirst : first = ['m']
  · have hjoin := @List.intercalate_splitOn _ path _ _ '/'
    rw [h, List.intercalate_cons_cons, hfirst] at hjoin
    rw [if_pos hfirst]
    rw [← hjoin] at h ⊢
    have hroot := splitOn_root (['/'].intercalate (second :: third :: rest))
    have hstrip : stripRoot (['m'] ++ ['/'] ++ ['/'].intercalate (second :: third :: rest))
        = ['/'].intercalate (second :: third :: rest) := rfl
    rw [hstrip]
    exact congrArg parseSteps (List.cons.inj (hroot.symm.trans h)).2
  · have hhead : (path.splitOn '/').head? ≠ some ['m'] := by
      rw [h]
      exact fun heq => hfirst (Option.some.inj heq)
    rw [if_neg hfirst, stripRoot_of_ne hhead, h]

theorem parseSteps_append {p q : List Text} {path : DerivationPath}
    (h : parseSteps (p ++ q) = some path) :
    ∃ front back, path = front ++ back ∧ parseSteps p = some front ∧ parseSteps q = some back := by
  induction p generalizing path with
  | nil => exact ⟨[], path, rfl, rfl, h⟩
  | cons part p ih =>
    rw [List.cons_append, parseSteps, bind_eq_bind, bind_eq_some_iff] at h
    obtain ⟨child, hchild, h⟩ := h
    rw [bind_eq_bind, bind_eq_some_iff] at h
    obtain ⟨path', hpath', h⟩ := h
    cases h
    obtain ⟨front, back, rfl, hfront, hback⟩ := ih hpath'
    refine ⟨child :: front, back, rfl, ?_, hback⟩
    rw [parseSteps, hchild, bind_eq_bind, Option.bind_some, hfront]
    rfl

theorem length_parseSteps {parts : List Text} {path : DerivationPath}
    (h : parseSteps parts = some path) : path.length = parts.length := by
  induction parts generalizing path with
  | nil =>
    cases h
    rfl
  | cons part parts ih =>
    rw [parseSteps, bind_eq_bind, bind_eq_some_iff] at h
    obtain ⟨child, hchild, h⟩ := h
    rw [bind_eq_bind, bind_eq_some_iff] at h
    obtain ⟨path', hpath', h⟩ := h
    cases h
    rw [List.length_cons, List.length_cons, ih hpath']

theorem toLower_of_isDigit {c : Char} (h : c.isDigit = true) : c.toLower = c := by
  unfold Char.toLower
  rw [dif_neg]
  intro hupper
  have hdigit := Bytes.isDigit_toNat h
  have hletter : 65 ≤ c.toNat ∧ c.toNat ≤ 90 := hupper
  omega

theorem mem_childText {child : ChildNumber} {c : Char} (h : c ∈ childText child) :
    c.isDigit = true ∨ c = '\'' := by
  cases child with
  | normal index => exact .inl (Bytes.isDigit_toDigits c h)
  | hardened index =>
    rcases List.mem_append.mp h with h | h
    · exact .inl (Bytes.isDigit_toDigits c h)
    · exact .inr (List.mem_singleton.mp h)

variable (child : ChildNumber)

theorem childText_ne_nil : childText child ≠ [] := by
  cases child with
  | normal index => exact Nat.toDigits_ne_nil
  | hardened index => exact List.append_ne_nil_of_right_ne_nil _ (List.cons_ne_nil _ _)

theorem map_toLower_childText :
    (childText child).map Char.toLower = childText child := by
  refine (List.map_congr_left fun c hc => ?_).trans (List.map_id _)
  rcases mem_childText hc with h | rfl
  · exact toLower_of_isDigit h
  · decide

theorem slash_notMem_childText : '/' ∉ childText child := by
  intro h
  rcases mem_childText h with h | h
  · cases h
  · cases h

def childIndex : ChildNumber → UInt32
  | .normal index => index
  | .hardened index => index

theorem parseChild_childText : parseChild (childText child)
    = if (childIndex child).toNat < 2 ^ 31 then some child else none := by
  unfold parseChild
  cases child with
  | normal index =>
    have hlast : ¬((childText (.normal index)).getLast? = some '\''
        ∨ (childText (.normal index)).getLast? = some 'h') := by
      rintro (h | h)
      · cases Bytes.isDigit_toDigits _ (List.mem_of_getLast? h)
      · cases Bytes.isDigit_toDigits _ (List.mem_of_getLast? h)
    rw [if_neg hlast, childText, Bytes.parseUnsigned_toDigits_eq, childIndex]
    split
    · rw [map_some, UInt32.ofNat_toNat]
    · rfl
  | hardened index =>
    rw [childText, if_pos (.inl List.getLast?_concat), List.dropLast_concat,
      Bytes.parseUnsigned_toDigits_eq, childIndex]
    split
    · rw [map_some, UInt32.ofNat_toNat]
    · rfl

theorem eq_of_parseSteps_childText {path path' : DerivationPath}
    (h : parseSteps (path.map childText) = some path') : path' = path := by
  induction path generalizing path' with
  | nil =>
    cases h
    rfl
  | cons child path ih =>
    rw [List.map_cons, parseSteps, bind_eq_bind, bind_eq_some_iff] at h
    obtain ⟨child', hchild, h⟩ := h
    rw [bind_eq_bind, bind_eq_some_iff] at h
    obtain ⟨rest, hrest, h⟩ := h
    cases h
    rw [parseChild_childText] at hchild
    split at hchild
    · cases hchild
      rw [ih hrest]
    · cases hchild

theorem splitOn_pathText (path : DerivationPath) :
    (pathText (child :: path)).splitOn '/' = (child :: path).map childText := by
  refine List.splitOn_intercalate '/' (fun part hpart => ?_) (List.cons_ne_nil _ _)
  obtain ⟨c, -, rfl⟩ := List.mem_map.mp hpart
  exact slash_notMem_childText c

theorem map_toLower_pathText (path : DerivationPath) :
    (pathText path).map Char.toLower = pathText path := by
  cases path with
  | nil => rfl
  | cons child path =>
    have hparts : ((child :: path).map childText).map (List.map Char.toLower)
        = (child :: path).map childText := by
      refine (List.map_congr_left fun part hpart => ?_).trans (List.map_id _)
      obtain ⟨step, -, rfl⟩ := List.mem_map.mp hpart
      exact map_toLower_childText step
    have hsplit := splitOn_map_toLower (pathText (child :: path))
    rw [splitOn_pathText, hparts] at hsplit
    have hjoin := @List.intercalate_splitOn _ ((pathText (child :: path)).map Char.toLower) _ _ '/'
    rw [hsplit] at hjoin
    exact hjoin.symm

theorem head?_pathText (path : DerivationPath) :
    ∃ c, (pathText (child :: path)).head? = some c ∧ c ≠ 'm' := by
  obtain ⟨c, rest, hchild⟩ := List.exists_cons_of_ne_nil (childText_ne_nil child)
  have hc : c ≠ 'm' := by
    rintro rfl
    rcases mem_childText (hchild ▸ List.mem_cons_self) with h | h
    · exact absurd h (by decide)
    · exact absurd h (by decide)
  refine ⟨c, ?_, hc⟩
  cases path with
  | nil =>
    rw [pathText, List.map_singleton, List.intercalate_singleton, hchild]
    rfl
  | cons next path =>
    rw [pathText, List.map_cons, List.map_cons, List.intercalate_cons_cons, hchild]
    rfl

theorem eq_of_parsePath_pathText {path path' : DerivationPath}
    (h : parsePath (normalizePath (pathText path)) = some path') : path' = path := by
  cases path with
  | nil =>
    cases h
    rfl
  | cons child path =>
    obtain ⟨c, hhead, hc⟩ := head?_pathText child path
    have hnormal : normalizePath (pathText (child :: path))
        = 'm' :: '/' :: pathText (child :: path) := by
      unfold normalizePath
      dsimp only
      rw [map_toLower_pathText, hhead, if_neg (by simpa using hc)]
    have hlong : ¬('m' :: '/' :: pathText (child :: path) = []
        ∨ 'm' :: '/' :: pathText (child :: path) = ['m']
        ∨ 'm' :: '/' :: pathText (child :: path) = ['m', '/']) := by
      rintro (h | h | h)
      · cases h
      · cases h
      · rw [(List.cons.inj (List.cons.inj h).2).2] at hhead
        cases hhead
    rw [hnormal, parsePath, if_neg hlong, stripRoot, splitOn_pathText] at h
    exact eq_of_parseSteps_childText h

theorem parsePath_twoSteps {a b : Text} (ha : '/' ∉ a) (hb : '/' ∉ b) :
    parsePath (twoSteps a b) = parseSteps [a, b] := by
  have hsplit : (twoSteps a b).splitOn '/' = [['m'], a, b] := by
    rw [twoSteps, splitOn_root, splitOn_slash ha, List.splitOn_eq_singleton hb]
  rw [parsePath_of_splitOn hsplit, if_pos rfl]

theorem normalizePath_twoSteps (a b : Text) :
    normalizePath (twoSteps a b) = twoSteps (a.map Char.toLower) (b.map Char.toLower) := by
  unfold normalizePath twoSteps
  simp

theorem slash_notMem_map_toLower {part : Text} (h : '/' ∉ part) : '/' ∉ part.map Char.toLower := by
  intro hmem
  obtain ⟨c, hc, heq⟩ := List.mem_map.mp hmem
  rw [(toLower_eq_slash c).mp heq] at hc
  exact h hc

theorem parsePath_lastTwo {path a b : Text} {front : List Text} {steps : DerivationPath}
    (hparts : path.splitOn '/' = front ++ [a, b]) (hfront : front ≠ [])
    (h : parsePath (normalizePath path) = some steps) :
    ∃ start back, steps = start ++ back
      ∧ parseSteps [a.map Char.toLower, b.map Char.toLower] = some back := by
  obtain ⟨extra, hsplit⟩ := splitOn_normalizePath path
  rw [hparts, List.map_append, ← List.append_assoc] at hsplit
  have hsome : extra ++ front.map (List.map Char.toLower) ≠ [] := by
    simp [hfront]
  generalize extra ++ front.map (List.map Char.toLower) = parts at hsplit hsome
  cases parts with
  | nil => exact absurd rfl hsome
  | cons first parts =>
    -- an `m` in front is left out, and the two parts at the end are not
    have hsteps : ∃ kept, parseSteps (kept ++ [a.map Char.toLower, b.map Char.toLower])
        = some steps := by
      cases parts with
      | nil =>
        rw [parsePath_of_splitOn hsplit] at h
        split at h
        · exact ⟨[], h⟩
        · exact ⟨[first], h⟩
      | cons second parts =>
        cases parts with
        | nil =>
          rw [parsePath_of_splitOn hsplit] at h
          split at h
          · exact ⟨[second], h⟩
          · exact ⟨[first, second], h⟩
        | cons third parts =>
          rw [parsePath_of_splitOn hsplit] at h
          split at h
          · exact ⟨second :: third :: parts, h⟩
          · exact ⟨first :: second :: third :: parts, h⟩
    obtain ⟨kept, hkept⟩ := hsteps
    obtain ⟨start, back, rfl, -, hback⟩ := parseSteps_append hkept
    exact ⟨start, back, rfl, hback⟩

theorem InAccount.steps {account : DerivationPath} {path a b : Text} {front : List Text}
    (h : InAccount account path) (hparts : path.splitOn '/' = front ++ [a, b])
    (hfront : front ≠ []) :
    ∃ back, parseSteps [a.map Char.toLower, b.map Char.toLower] = some back
      ∧ parsePath (normalizePath path) = some (account ++ back) := by
  obtain ⟨x, y, hpath⟩ := h
  obtain ⟨start, back, heq, hback⟩ := parsePath_lastTwo hparts hfront hpath
  have hlength := length_parseSteps hback
  obtain ⟨rfl, rfl⟩ := List.append_inj' heq hlength.symm
  exact ⟨_, hback, hpath⟩

theorem map_toLower_of_parseDigits {bound n : Nat} {s : Text}
    (h : Bytes.parseDigits bound s = some n) : s.map Char.toLower = s := by
  unfold Bytes.parseDigits at h
  split at h
  · rename_i hdigits
    have hall := List.all_eq_true.mp hdigits.2.1
    exact (List.map_congr_left fun c hc => toLower_of_isDigit (hall c hc)).trans (List.map_id s)
  · cases h

theorem map_toLower_of_parseUnsigned {bound n : Nat} {s : Text}
    (h : Bytes.parseUnsigned bound s = some n) : s.map Char.toLower = s := by
  unfold Bytes.parseUnsigned at h
  split at h
  · rw [List.map_cons, map_toLower_of_parseDigits h]
    rfl
  · exact map_toLower_of_parseDigits h

theorem map_toLower_of_parseChild {part : Text} {child : ChildNumber}
    (h : parseChild part = some child) : part.map Char.toLower = part := by
  unfold parseChild at h
  split at h
  · rename_i hlast
    obtain ⟨n, hn, -⟩ := Option.map_eq_some_iff.mp h
    obtain ⟨last, hlast, hlower⟩ : ∃ last, part.getLast? = some last ∧ last.toLower = last := by
      rcases hlast with hlast | hlast
      · exact ⟨_, hlast, by decide⟩
      · exact ⟨_, hlast, by decide⟩
    have hpart := List.dropLast_append_getLast? last hlast
    rw [← hpart, List.map_append, map_toLower_of_parseUnsigned hn, List.map_singleton, hlower]
  · obtain ⟨n, hn, -⟩ := Option.map_eq_some_iff.mp h
    exact map_toLower_of_parseUnsigned hn

theorem map_toLower_of_parseSteps {parts : List Text} {path : DerivationPath}
    (h : parseSteps parts = some path) : ∀ part ∈ parts, part.map Char.toLower = part := by
  induction parts generalizing path with
  | nil => exact fun part hpart => absurd hpart List.not_mem_nil
  | cons part parts ih =>
    rw [parseSteps, bind_eq_bind, bind_eq_some_iff] at h
    obtain ⟨child, hchild, h⟩ := h
    rw [bind_eq_bind, bind_eq_some_iff] at h
    obtain ⟨path', hpath', h⟩ := h
    intro p hp
    rcases List.mem_cons.mp hp with rfl | hp
    · exact map_toLower_of_parseChild hchild
    · exact ih hpath' p hp

theorem length_parts_le {path : Text} {steps : DerivationPath}
    (h : parsePath (normalizePath path) = some steps) (hparts : 3 ≤ (path.splitOn '/').length) :
    (path.splitOn '/').length ≤ steps.length + 1 := by
  obtain ⟨extra, hsplit⟩ := splitOn_normalizePath path
  have hlength := congrArg List.length hsplit
  rw [List.length_append, List.length_map] at hlength
  generalize hall : (normalizePath path).splitOn '/' = all at hlength
  match all, hlength with
  | [], hlength | [_], hlength | [_, _], hlength =>
    simp at hlength
    omega
  | first :: second :: third :: rest, hlength =>
    rw [parsePath_of_splitOn hall] at h
    have hsteps := length_parseSteps h
    simp at hlength
    split at hsteps
    · simp at hsteps
      omega
    · simp at hsteps
      omega

section

variable {Xpriv Xpub : Type} {lib : SecpLib Xpriv Xpub}

theorem getExtendedPrivateKeyBySeed_eq_ok {seed : List UInt8} {path : Text} {key : Xpriv} :
    getExtendedPrivateKeyBySeed lib seed path = .ok key ↔ ∃ steps master,
      parsePath (normalizePath path) = some steps ∧ lib.newMaster seed = some master
        ∧ lib.derivePriv master steps = some key := by
  unfold getExtendedPrivateKeyBySeed
  constructor
  · intro h
    obtain ⟨steps, hsteps, h⟩ := bind_eq_ok.mp h
    obtain ⟨master, hmaster, h⟩ := bind_eq_ok.mp h
    exact ⟨steps, master, okOr_eq_ok.mp hsteps, okOr_eq_ok.mp hmaster, okOr_eq_ok.mp h⟩
  · intro h
    obtain ⟨steps, master, hsteps, hmaster, hkey⟩ := h
    dsimp only
    rw [hsteps, hmaster]
    show okOr _ (lib.derivePriv master steps) = _
    rw [hkey]
    rfl

theorem derivePublicKey_eq_ok {xpub path : Text} {pk : PublicKey} :
    derivePublicKey lib xpub path = .ok pk ↔ ∃ key steps child, lib.parseXpub xpub = some key
      ∧ parsePath (normalizePath path) = some steps ∧ lib.derivePub key steps = some child
        ∧ lib.publicKey child = pk := by
  unfold derivePublicKey deriveExtendPublicKey
  constructor
  · intro h
    obtain ⟨child, hchild, h⟩ := bind_eq_ok.mp h
    obtain ⟨key, hkey, hchild⟩ := bind_eq_ok.mp hchild
    obtain ⟨steps, hsteps, hchild⟩ := bind_eq_ok.mp hchild
    cases h
    exact ⟨key, steps, child, okOr_eq_ok.mp hkey, okOr_eq_ok.mp hsteps, okOr_eq_ok.mp hchild, rfl⟩
  · intro h
    obtain ⟨key, steps, child, hkey, hsteps, hchild, rfl⟩ := h
    dsimp only
    rw [hkey, hsteps]
    show (okOr _ (lib.derivePub key steps) >>= _) = _
    rw [hchild]
    rfl

theorem getPublicKeyBySeed_of_account {seed : List UInt8} {account : DerivationPath}
    {xpub path a b : Text} {front : List Text} {pk : PublicKey}
    (hkey : IsAccountKey lib seed account xpub) (hparts : path.splitOn '/' = front ++ [a, b])
    (hfront : front ≠ []) (hin : InAccount account path)
    (hpub : derivePublicKey lib xpub (twoSteps a b) = .ok pk) :
    getPublicKeyBySeed lib seed path = .ok pk := by
  obtain ⟨back, hback, hpath⟩ := hin.steps hparts hfront
  obtain ⟨master, key, hmaster, haccount, hxpub⟩ := hkey
  obtain ⟨key', steps, child, hkey', hsteps, hchild, rfl⟩ := derivePublicKey_eq_ok.mp hpub
  have hslash : ∀ part ∈ [a, b], '/' ∉ part.map Char.toLower := by
    intro part hpart
    have hmem : part ∈ path.splitOn '/' := by
      rw [hparts]
      exact List.mem_append_right front hpart
    exact slash_notMem_map_toLower (Bytes.not_mem_of_mem_splitOn part hmem)
  rw [normalizePath_twoSteps, parsePath_twoSteps (hslash a (by simp)) (hslash b (by simp)),
    hback] at hsteps
  cases hsteps
  rw [hxpub] at hkey'
  cases hkey'
  obtain ⟨k', hk', hneuter⟩ := Hierarchy.derivePriv_of_derivePub haccount hchild
  have hprivate := getExtendedPrivateKeyBySeed_eq_ok.mpr ⟨_, master, hpath, hmaster, hk'⟩
  rw [getPublicKeyBySeed, hprivate, ← hneuter]
  rfl

end

end Keystone3.Keys
