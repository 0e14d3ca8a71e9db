import Keystone3.Logic.Panic
import Keystone3.Zcash.Totals

/-!
# What can be read of a partially created Zcash transaction

Checking never panics: the values that are taken for granted are there where
the commitments to them are right. Showing panics at two places, on bytes that
the sender of a note and the host choose: a memo that may begin a text and is
none, and an address next to a note that is no address. `pczt_returns_iff`: it does
not where the actions that are gone through have neither.
-/

namespace Keystone3.Zcash

open Bytes (Block)
open Logic (Outcome)
open Logic.Outcome (bind_eq_ok collect exists_of_isOk okOr ok_bind pure_eq returns_bind
  returns_error returns_ok returns_okOr)

def MemoReadable (memo : Block 512) : Prop :=
  memo.bytes.headD 0 ≤ 0xf4 →
    (Bytes.ofUtf8 (memo.bytes.reverse.dropWhile fun b => b = 0).reverse).isSome = true

section

variable {Xpub : Type} (lib : ZcashLib Xpub) (ufvk : UnifiedFullViewingKey Xpub)

/-- The address next to a note is one, if the note is for the recipient. -/
def Action.AddressReadable (action : Action) (address : OrchardAddress) : Prop :=
  action.output.recipient = some address → ∀ userAddress,
    action.output.userAddress = some userAddress →
      (lib.matchesReceiver userAddress address).isSome = true

def viewingKeys (fvk : FullViewingKey) : List (OutgoingViewingKey × Bool) :=
  [(lib.toOvk fvk .external, false), (lib.toOvk fvk .internal, true)]
    ++ (ufvk.transparent.map fun k => (lib.internalOvk k, true)).toList

def Action.openedDirectly (action : Action) : Option (Note × OrchardAddress × Block 512) :=
  match noteOf lib action with
  | .ok note => lib.tryOutputRecoveryWithPkdEsk action note
  | _ => none

def Action.opened (action : Action) :
    List (OutgoingViewingKey × Bool) → Option (Note × OrchardAddress × Block 512)
  | [] => action.openedDirectly lib
  | key :: keys =>
    match lib.tryOutputRecoveryWithOvk action key.1 with
    | some opened => some opened
    | none => action.opened keys

def Action.Readable (fvk : FullViewingKey) (action : Action) : Prop :=
  action.output.value.isSome = true → ∀ note address memo,
    action.opened lib (viewingKeys lib ufvk fvk) = some (note, address, memo) →
      MemoReadable memo ∧ action.AddressReadable lib address

/-- An action is shown: what is opened is for the recipient and the address next to it, and where
nothing is opened it is worth nothing. -/
def Action.Shown (fvk : FullViewingKey) (action : Action) : Prop :=
  match action.opened lib (viewingKeys lib ufvk fvk) with
  | some (_, address, _) => action.output.value.isSome = true
    ∧ action.output.recipient = some address ∧ ∀ userAddress,
      action.output.userAddress = some userAddress →
        lib.matchesReceiver userAddress address = some true
  | none => action.output.value = some 0 ∧ (noteOf lib action).isOk = true

/-- The actions can be shown one after the other, up to the first that is refused. -/
def ReadableInOrder (fvk : FullViewingKey) : List Action → Prop
  | [] => True
  | action :: actions =>
    action.Readable lib ufvk fvk ∧ (action.Shown lib ufvk fvk → ReadableInOrder fvk actions)

/-- So can those of a transaction, if the account has a key for them. -/
def Pczt.Readable (pczt : Pczt) : Prop :=
  ∀ fvk bundle, ufvk.orchard = some fvk → pczt.orchard = some bundle →
    ReadableInOrder lib ufvk fvk bundle.actions

end

section

variable {Xpub : Type} {lib : ZcashLib Xpub} {ufvk : UnifiedFullViewingKey Xpub} {action : Action}
  {value : UInt64}

theorem valueIff_decodeMemo (memo : Block 512) :
    Outcome.ValueIff (decodeMemo memo) (MemoReadable memo) := by
  unfold decodeMemo MemoReadable
  dsimp only
  by_cases hfirst : memo.bytes.headD 0 ≤ 0xf4
  · rw [if_pos hfirst]
    exact (Outcome.valueIff_unwrap _).map.congr ⟨fun h _ => h, fun h => h hfirst⟩
  · rw [if_neg hfirst]
    refine Outcome.ValueIff.congr (P := True) ?_ (iff_of_true trivial fun h => absurd h hfirst)
    split
    · exact Outcome.valueIff_ok none
    · exact Outcome.valueIff_ok _

theorem returns_checkReceiver (output : OrchardOutput) (address : OrchardAddress) :
    Outcome.Returns (checkReceiver lib output address) ↔ ∀ userAddress,
      output.userAddress = some userAddress →
        (lib.matchesReceiver userAddress address).isSome = true := by
  unfold checkReceiver
  cases output.userAddress with
  | none => exact iff_of_true (returns_ok ()) nofun
  | some userAddress =>
    refine returns_bind.trans ((and_iff_left ?_).trans ?_)
    · intro found _
      split
      · exact returns_error _
      · exact returns_ok ()
    · rw [(Outcome.valueIff_unwrap _).returns_iff]
      constructor
      · rintro h _ ⟨⟩
        exact h
      · exact fun h => h userAddress rfl

theorem checkReceiver_eq_ok (output : OrchardOutput) (address : OrchardAddress) :
    checkReceiver lib output address = .ok () ↔ ∀ userAddress,
      output.userAddress = some userAddress →
        lib.matchesReceiver userAddress address = some true := by
  unfold checkReceiver
  cases output.userAddress with
  | none => exact iff_of_true rfl nofun
  | some userAddress =>
    have hone : (∀ u, some userAddress = some u → lib.matchesReceiver u address = some true)
        ↔ lib.matchesReceiver userAddress address = some true :=
      ⟨fun h => h userAddress rfl, by rintro h _ ⟨⟩; exact h⟩
    rw [hone]
    dsimp only
    cases lib.matchesReceiver userAddress address with
    | none =>
      constructor
      · nofun
      · nofun
    | some found =>
      cases found with
      | false =>
        constructor
        · nofun
        · nofun
      | true => exact iff_of_true rfl rfl

theorem decodeOutput_opened {vk : Option OutgoingViewingKey} {isInternal : Bool} {note : Note}
    {address : OrchardAddress} {memo : Block 512}
    (h : decodeOutputEncCiphertext lib action vk = .ok (some (note, address, memo))) :
    (Outcome.Returns (decodeOutput lib action value vk isInternal)
        ↔ MemoReadable memo ∧ action.AddressReadable lib address)
      ∧ decodeOutput lib action value vk isInternal ≠ .ok none
      ∧ (MemoReadable memo → ((∃ target, decodeOutput lib action value vk isInternal
          = .ok (some target))
        ↔ action.output.recipient = some address ∧ ∀ userAddress,
          action.output.userAddress = some userAddress →
            lib.matchesReceiver userAddress address = some true)) := by
  unfold decodeOutput Action.AddressReadable
  rw [h]
  dsimp only [ok_bind]
  have hmemo := valueIff_decodeMemo memo
  by_cases hreadable : MemoReadable memo
  · obtain ⟨text, htext⟩ := hmemo.exists_ok hreadable
    rw [htext]
    dsimp only [ok_bind]
    cases hrecipient : action.output.recipient with
    | none =>
      refine ⟨iff_of_true (returns_error _) ⟨hreadable, nofun⟩, ?_, fun _ => ?_⟩
      · nofun
      · constructor
        · rintro ⟨target, htarget⟩
          cases htarget
        · rintro ⟨h, -⟩
          cases h
    | some recipient =>
      dsimp only [okOr, ok_bind]
      by_cases hsame : recipient = address
      · subst hsame
        rw [if_neg (not_not_intro rfl)]
        have hreturns := @returns_checkReceiver _ lib action.output recipient
        have hok := @checkReceiver_eq_ok _ lib action.output recipient
        refine ⟨?_, ?_, fun _ => ?_⟩
        · refine (returns_bind.trans (and_iff_left fun _ _ => returns_ok _)).trans ?_
          rw [hreturns]
          exact ⟨fun h => ⟨hreadable, fun _ => h⟩, fun h => h.2 rfl⟩
        · intro hnone
          obtain ⟨_, -, hnone⟩ := bind_eq_ok.mp hnone
          cases hnone
        · constructor
          · rintro ⟨target, htarget⟩
            obtain ⟨_, hcheck, -⟩ := bind_eq_ok.mp htarget
            exact ⟨rfl, hok.mp hcheck⟩
          · rintro ⟨-, hall⟩
            exact ⟨_, bind_eq_ok.mpr ⟨(), hok.mpr hall, rfl⟩⟩
      · rw [if_pos hsame]
        have hother : some recipient ≠ some address := fun h => hsame (Option.some.inj h)
        refine ⟨iff_of_true (returns_error _) ⟨hreadable, fun h => absurd h hother⟩, ?_,
          fun _ => ?_⟩
        · nofun
        · constructor
          · rintro ⟨target, htarget⟩
            cases htarget
          · rintro ⟨h, -⟩
            exact absurd h hother
  · rw [hmemo.halted hreadable]
    refine ⟨iff_of_false (fun h => h rfl) fun h => hreadable h.1, ?_, fun h => absurd h hreadable⟩
    nofun

theorem returns_firstDecoded_cons {key : Option OutgoingViewingKey × Bool}
    {keys : List (Option OutgoingViewingKey × Bool)} :
    Outcome.Returns (firstDecoded lib action value (key :: keys))
      ↔ Outcome.Returns (decodeOutput lib action value key.1 key.2)
        ∧ (decodeOutput lib action value key.1 key.2 = .ok none →
          Outcome.Returns (firstDecoded lib action value keys)) := by
  rw [firstDecoded, returns_bind]
  refine and_congr_right fun _ => ?_
  constructor
  · exact fun h hnone => h none hnone
  · intro h output houtput
    cases output with
    | none => exact h houtput
    | some target => exact returns_ok _

theorem isOk_firstDecoded_cons {key : Option OutgoingViewingKey × Bool}
    {keys : List (Option OutgoingViewingKey × Bool)} :
    (firstDecoded lib action value (key :: keys)).isOk = true
      ↔ (∃ target, decodeOutput lib action value key.1 key.2 = .ok (some target))
        ∨ decodeOutput lib action value key.1 key.2 = .ok none
          ∧ (firstDecoded lib action value keys).isOk = true := by
  rw [firstDecoded]
  constructor
  · intro h
    obtain ⟨result, hresult⟩ := exists_of_isOk h
    obtain ⟨output, houtput, hresult⟩ := bind_eq_ok.mp hresult
    cases output with
    | none =>
      have hrest : firstDecoded lib action value keys = .ok result := hresult
      exact .inr ⟨houtput, by rw [hrest]; rfl⟩
    | some target => exact .inl ⟨target, houtput⟩
  · rintro (⟨target, h⟩ | ⟨h, hrest⟩)
    · rw [h]
      rfl
    · rw [h]
      exact hrest

theorem decodeOutput_closed {ovk : OutgoingViewingKey} {isInternal : Bool}
    (h : lib.tryOutputRecoveryWithOvk action ovk = none) :
    decodeOutput lib action value (some ovk) isInternal = .ok none := by
  unfold decodeOutput decodeOutputEncCiphertext
  dsimp only [pure_eq, ok_bind]
  rw [h]
  exact if_neg fun hnone => nomatch hnone.1

theorem returns_noteOf (action : Action) : Outcome.Returns (noteOf lib action) := by
  unfold noteOf
  refine (returns_okOr _ _).bind fun recipient _ => ?_
  refine (returns_okOr _ _).bind fun value _ => ?_
  split
  · exact returns_error _
  · refine (returns_okOr _ _).bind fun rseed _ => ?_
    dsimp only
    split
    · exact returns_error _
    · exact returns_ok _

theorem decodeOutput_direct_closed (hvalue : action.output.value = some value)
    (h : action.openedDirectly lib = none) :
    Outcome.Returns (decodeOutput lib action value none false)
      ∧ (∀ target, decodeOutput lib action value none false ≠ .ok (some target))
      ∧ (decodeOutput lib action value none false = .ok none
        ↔ value = 0 ∧ (noteOf lib action).isOk = true) := by
  unfold Action.openedDirectly at h
  unfold decodeOutput decodeOutputEncCiphertext
  dsimp only
  cases hnote : noteOf lib action with
  | halted => exact absurd hnote (returns_noteOf action)
  | error e =>
    refine ⟨returns_error e, ?_, ?_⟩
    · intro target h
      cases h
    · constructor
      · nofun
      · rintro ⟨-, h⟩
        cases h
  | ok note =>
    rw [hnote] at h
    dsimp only at h
    dsimp only [pure_eq, ok_bind]
    rw [h, hvalue]
    dsimp only
    by_cases hzero : value = 0
    · subst hzero
      rw [if_neg (by decide)]
      refine ⟨returns_ok none, ?_, iff_of_true rfl ⟨rfl, rfl⟩⟩
      intro target h
      cases h
    · have hworth : (some value).any (fun v => v != 0) = true := bne_iff_ne.mpr hzero
      rw [if_pos ⟨rfl, hworth⟩]
      refine ⟨returns_error _, ?_, ?_⟩
      · intro target h
        cases h
      · constructor
        · nofun
        · exact fun h => absurd h.1 hzero

theorem decodeOutputEncCiphertext_direct {opened : Note × OrchardAddress × Block 512}
    (h : action.openedDirectly lib = some opened) :
    decodeOutputEncCiphertext lib action none = .ok (some opened) := by
  unfold Action.openedDirectly at h
  unfold decodeOutputEncCiphertext
  dsimp only
  cases hnote : noteOf lib action with
  | ok note =>
    rw [hnote] at h
    exact congrArg Outcome.ok h
  | error e =>
    rw [hnote] at h
    cases h
  | halted =>
    rw [hnote] at h
    cases h

theorem firstDecoded_spec (hvalue : action.output.value = some value)
    (keys : List (OutgoingViewingKey × Bool)) :
    (Outcome.Returns (firstDecoded lib action value
        (keys.map (fun key => (some key.1, key.2)) ++ [(none, false)]))
      ↔ ∀ note address memo, action.opened lib keys = some (note, address, memo) →
        MemoReadable memo ∧ action.AddressReadable lib address)
    ∧ ((∀ note address memo, action.opened lib keys = some (note, address, memo) →
        MemoReadable memo) →
      ((firstDecoded lib action value
        (keys.map (fun key => (some key.1, key.2)) ++ [(none, false)])).isOk = true
      ↔ match action.opened lib keys with
        | some (_, address, _) => action.output.recipient = some address ∧ ∀ userAddress,
          action.output.userAddress = some userAddress →
            lib.matchesReceiver userAddress address = some true
        | none => value = 0 ∧ (noteOf lib action).isOk = true)) := by
  -- a key that opens a note decides, in front of whatever keys
  have hdecides : ∀ (vk : Option OutgoingViewingKey) (isInternal : Bool)
      (keys : List (Option OutgoingViewingKey × Bool)) (note : Note) (address : OrchardAddress)
      (memo : Block 512),
      decodeOutputEncCiphertext lib action vk = .ok (some (note, address, memo)) →
      (Outcome.Returns (firstDecoded lib action value ((vk, isInternal) :: keys))
        ↔ MemoReadable memo ∧ action.AddressReadable lib address)
      ∧ (MemoReadable memo →
        ((firstDecoded lib action value ((vk, isInternal) :: keys)).isOk = true
          ↔ action.output.recipient = some address ∧ ∀ userAddress,
            action.output.userAddress = some userAddress →
              lib.matchesReceiver userAddress address = some true)) := by
    intro vk isInternal keys note address memo h
    obtain ⟨hreturns, hsome, hok⟩ := @decodeOutput_opened _ lib action value vk isInternal _ _ _ h
    rw [returns_firstDecoded_cons, isOk_firstDecoded_cons, hreturns]
    refine ⟨and_iff_left fun hnone => absurd hnone hsome, fun hmemo => ?_⟩
    rw [← hok hmemo]
    exact or_iff_left fun hnone => hsome hnone.1
  have hone : ∀ (opened : Note × OrchardAddress × Block 512)
      (P : Note → OrchardAddress → Block 512 → Prop),
      (∀ note address memo, some opened = some (note, address, memo) → P note address memo)
        ↔ P opened.1 opened.2.1 opened.2.2 := by
    intro opened P
    exact ⟨fun h => h _ _ _ rfl, by rintro h _ _ _ ⟨⟩; exact h⟩
  induction keys with
  | nil =>
    rw [List.map_nil, List.nil_append, Action.opened]
    cases hopened : action.openedDirectly lib with
    | some opened =>
      obtain ⟨hreturns, hok⟩ := hdecides none false [] opened.1 opened.2.1 opened.2.2
        (decodeOutputEncCiphertext_direct hopened)
      rw [hone opened fun _ address memo => MemoReadable memo ∧ action.AddressReadable lib address,
        hone opened fun _ _ memo => MemoReadable memo]
      exact ⟨hreturns, hok⟩
    | none =>
      obtain ⟨hreturns, hsome, hnone⟩ := decodeOutput_direct_closed hvalue hopened
      rw [returns_firstDecoded_cons, isOk_firstDecoded_cons]
      have hall : ∀ note address memo,
          (none : Option (Note × OrchardAddress × Block 512)) = some (note, address, memo) →
            MemoReadable memo ∧ action.AddressReadable lib address := nofun
      refine ⟨iff_of_true ⟨hreturns, fun _ => returns_ok none⟩ hall, fun _ => ?_⟩
      dsimp only
      rw [← hnone]
      constructor
      · rintro (⟨target, htarget⟩ | ⟨h, -⟩)
        · exact absurd htarget (hsome target)
        · exact h
      · exact fun h => .inr ⟨h, rfl⟩
  | cons key keys ih =>
    rw [List.map_cons, List.cons_append, Action.opened]
    cases hopened : lib.tryOutputRecoveryWithOvk action key.1 with
    | some opened =>
      obtain ⟨hreturns, hok⟩ := hdecides (some key.1) key.2
        (keys.map (fun key => (some key.1, key.2)) ++ [(none, false)]) opened.1 opened.2.1 opened.2.2
        (congrArg Outcome.ok hopened)
      rw [hone opened fun _ address memo => MemoReadable memo ∧ action.AddressReadable lib address,
        hone opened fun _ _ memo => MemoReadable memo]
      exact ⟨hreturns, hok⟩
    | none =>
      have hclosed := @decodeOutput_closed _ lib action value key.1 key.2 hopened
      rw [returns_firstDecoded_cons, isOk_firstDecoded_cons, hclosed]
      dsimp only
      refine ⟨Iff.trans ?_ ih.1, fun hmemo => Iff.trans ?_ (ih.2 hmemo)⟩
      · rw [forall_prop_of_true rfl]
        exact and_iff_right (returns_ok none)
      · constructor
        · rintro (⟨target, htarget⟩ | ⟨-, h⟩)
          · cases htarget
          · exact h
        · exact fun h => .inr ⟨rfl, h⟩

theorem opened_of_firstDecoded {keys : List (OutgoingViewingKey × Bool)}
    (h : firstDecoded lib action value
      (keys.map (fun key => (some key.1, key.2)) ++ [(none, false)]) = .ok none) :
    action.opened lib keys = none := by
  induction keys with
  | nil =>
    rcases firstDecoded_cons h with ⟨target, -, htarget⟩ | ⟨hnone, -⟩
    · cases htarget
    · cases hopened : action.openedDirectly lib with
      | none => exact hopened
      | some opened =>
        have hsome := (@decodeOutput_opened _ lib action value none false opened.1 opened.2.1
          opened.2.2 (decodeOutputEncCiphertext_direct hopened)).2.1
        exact absurd hnone hsome
  | cons key keys ih =>
    rw [List.map_cons, List.cons_append] at h
    rcases firstDecoded_cons h with ⟨target, -, htarget⟩ | ⟨hnone, hrest⟩
    · cases htarget
    · have hclosed := (decodeOutput_key hnone).1
      rw [Action.opened, Option.isSome_eq_false_iff.mp hclosed.symm |> Option.isNone_iff_eq_none.mp]
      exact ih hrest

end

section

variable {Xpub : Type} {lib : ZcashLib Xpub} {ufvk : UnifiedFullViewingKey Xpub}
  {seedFingerprint : Block 32} {accountIndex : UInt32}

theorem decodingKeys_eq (fvk : FullViewingKey) : decodingKeys lib ufvk fvk
    = (viewingKeys lib ufvk fvk).map (fun key => (some key.1, key.2)) ++ [(none, false)] := by
  unfold decodingKeys viewingKeys
  cases ufvk.transparent with
  | none => rfl
  | some xpub => rfl

theorem parseOrchardOutput_spec {fvk : FullViewingKey} (hfvk : ufvk.orchard = some fvk)
    (action : Action) :
    (Outcome.Returns (parseOrchardOutput lib ufvk action) ↔ action.Readable lib ufvk fvk)
      ∧ (action.Readable lib ufvk fvk →
        ((parseOrchardOutput lib ufvk action).isOk = true ↔ action.Shown lib ufvk fvk)) := by
  unfold parseOrchardOutput Action.Readable Action.Shown
  rw [hfvk]
  dsimp only [okOr, ok_bind]
  cases hvalue : action.output.value with
  | none =>
    refine ⟨iff_of_true (returns_error _) nofun, fun _ => ?_⟩
    constructor
    · nofun
    · intro h
      split at h
      · cases h.1
      · cases h.1
  | some value =>
    obtain ⟨hreturns, hok⟩ := @firstDecoded_spec _ lib action value hvalue
      (viewingKeys lib ufvk fvk)
    have hnone := @opened_of_firstDecoded _ lib action value (viewingKeys lib ufvk fvk)
    rw [← decodingKeys_eq] at hreturns hok hnone
    dsimp only [ok_bind]
    have hvalue' : (some value).isSome = true := rfl
    rw [forall_prop_of_true hvalue']
    refine ⟨Iff.trans ?_ hreturns, fun hreadable => ?_⟩
    · refine returns_bind.trans (and_iff_left fun parsed _ => ?_)
      cases parsed with
      | some target => exact returns_ok target
      | none =>
        dsimp only
        split
        · exact returns_ok _
        · split
          · exact returns_ok _
          · exact returns_error _
    · have hok := hok fun note address memo hopened => (hreadable note address memo hopened).1
      constructor
      · intro h
        obtain ⟨target, htarget⟩ := exists_of_isOk h
        obtain ⟨parsed, hparsed, -⟩ := bind_eq_ok.mp htarget
        have hshown := hok.mp (by rw [hparsed]; rfl)
        cases hopened : action.opened lib (viewingKeys lib ufvk fvk) with
        | none =>
          rw [hopened] at hshown
          exact ⟨congrArg some hshown.1, hshown.2⟩
        | some opened =>
          rw [hopened] at hshown
          exact ⟨rfl, hshown⟩
      · intro h
        have hshown : (firstDecoded lib action value (decodingKeys lib ufvk fvk)).isOk = true := by
          rw [hok]
          cases hopened : action.opened lib (viewingKeys lib ufvk fvk) with
          | none =>
            rw [hopened] at h
            exact ⟨Option.some.inj h.1, h.2⟩
          | some opened =>
            rw [hopened] at h
            exact h.2
        obtain ⟨parsed, hparsed⟩ := exists_of_isOk hshown
        rw [hparsed]
        cases parsed with
        | some target => rfl
        | none =>
          rw [hnone hparsed] at h
          cases action.output.userAddress with
          | some address => rfl
          | none =>
            dsimp only [ok_bind]
            rw [if_pos (Option.some.inj h.1)]
            rfl

theorem returns_collect_parseAction {fvk : FullViewingKey} (hfvk : ufvk.orchard = some fvk)
    (actions : List Action) :
    Outcome.Returns (collect (parseAction lib seedFingerprint ufvk) actions)
      ↔ ReadableInOrder lib ufvk fvk actions := by
  induction actions with
  | nil => exact iff_of_true (returns_ok []) trivial
  | cons action actions ih =>
    obtain ⟨hreturns, hok⟩ := @parseOrchardOutput_spec _ lib ufvk fvk hfvk action
    have haction : Outcome.Returns (parseAction lib seedFingerprint ufvk action)
        ↔ action.Readable lib ufvk fvk :=
      (returns_bind.trans (and_iff_left fun _ _ => returns_ok _)).trans hreturns
    rw [collect, returns_bind, haction, ReadableInOrder]
    refine and_congr_right fun hreadable => ?_
    have hrest : ∀ p, Outcome.Returns (collect (parseAction lib seedFingerprint ufvk) actions
        >>= fun bs => pure (p :: bs)) ↔ ReadableInOrder lib ufvk fvk actions := fun p =>
      (returns_bind.trans (and_iff_left fun _ _ => returns_ok _)).trans ih
    constructor
    · intro h hshown
      obtain ⟨target, htarget⟩ := exists_of_isOk ((hok hreadable).mpr hshown)
      exact (hrest _).mp (h _ (bind_eq_ok.mpr ⟨target, htarget, rfl⟩))
    · intro h p hp
      refine (hrest p).mpr (h ((hok hreadable).mp ?_))
      rw [(parseAction_spec hp).2]
      rfl

theorem returns_mapError {α : Type} {f : ZcashError → ZcashError} {x : Result α} :
    Outcome.Returns (Outcome.mapError f x) ↔ Outcome.Returns x := by
  cases x with
  | ok a => exact iff_of_true (returns_ok a) (returns_ok a)
  | error e => exact iff_of_true (returns_error _) (returns_error e)
  | halted => exact Iff.rfl

theorem returns_parsePczt (pczt : Pczt) :
    Outcome.Returns (parsePczt lib seedFingerprint ufvk pczt) ↔ pczt.Readable lib ufvk := by
  unfold parsePczt
  -- behind the Orchard part nothing panics
  have htransparent : ∀ bundle,
      Outcome.Returns (parseTransparent lib seedFingerprint bundle) := by
    intro bundle
    refine (Outcome.Returns.collect fun input _ => ?_).bind fun sources _ =>
      (Outcome.Returns.collect fun output _ => ?_).bind fun _ _ => returns_ok _
    · unfold parseTransparentInput
      split
      · exact returns_ok _
      · exact returns_error _
    · unfold parseTransparentOutput
      split
      · exact (returns_okOr _ _).bind fun _ _ => returns_ok _
      · exact (returns_okOr _ _).bind fun _ _ => returns_ok _
      · exact returns_error _
  cases hbundle : pczt.orchard with
  | none =>
    refine iff_of_true (returns_error _) ?_
    intro fvk bundle _ h
    cases hbundle.symm.trans h
  | some bundle =>
    have hactions : Outcome.Returns (Outcome.mapError ZcashError.verifier
        (parseOrchard lib seedFingerprint ufvk bundle)) ↔ pczt.Readable lib ufvk := by
      refine returns_mapError.trans ((returns_bind.trans
        (and_iff_left fun _ _ => returns_ok _)).trans ?_)
      cases hfvk : ufvk.orchard with
      | none =>
        -- without a key every action is refused
        refine iff_of_true (Outcome.Returns.collect fun action _ => ?_) ?_
        · unfold parseAction parseOrchardOutput
          rw [hfvk]
          exact returns_error _
        · intro fvk _ h
          cases hfvk.symm.trans h
      | some fvk =>
        rw [returns_collect_parseAction hfvk]
        constructor
        · intro h fvk' bundle' hfvk' hbundle'
          cases hfvk.symm.trans hfvk'
          cases hbundle.symm.trans hbundle'
          exact h
        · exact fun h => h fvk bundle hfvk hbundle
    refine Iff.trans ?_ hactions
    rw [show part (some bundle) = .ok bundle from rfl, ok_bind]
    refine returns_bind.trans (and_iff_left fun orchard _ => ?_)
    refine (returns_okOr _ _).bind fun transparentBundle _ => ?_
    refine ((htransparent transparentBundle).mapError _).bind fun transparent _ => ?_
    dsimp only
    split
    · exact returns_error _
    · exact returns_ok _

end

/-- A commitment to a net value that is right is one to values that are there. -/
structure ZcashLib.ChecksValues {Xpub : Type} (lib : ZcashLib Xpub) : Prop where
  values : ∀ action, lib.verifyCvNet action = true →
    action.spend.value.isSome = true ∧ action.output.value.isSome = true

section

variable {Xpub : Type} {lib : ZcashLib Xpub} {seedFingerprint : Block 32} {accountIndex : UInt32}
  {ufvk : UnifiedFullViewingKey Xpub}

theorem returns_checkDerivedKey (xpub : Xpub) (mismatch : String) (pubkey : Bitcoin.PublicKey)
    (derivation : Bip32Derivation) : Outcome.Returns
      (checkDerivedKey lib accountIndex xpub mismatch pubkey derivation) := by
  refine (returns_okOr _ _).bind fun target _ => ?_
  split
  · exact returns_error _
  · exact returns_ok ()

theorem returns_checkUserAddress (address : Keys.Text) (output : TransparentOutput) :
    Outcome.Returns (checkUserAddress address output) := by
  unfold checkUserAddress
  split
  · split
    · exact returns_error _
    · exact returns_ok ()
  · exact returns_error _

theorem returns_checkTransparentInput (xpub : Xpub) (input : TransparentInput) :
    Outcome.Returns (checkTransparentInput lib seedFingerprint accountIndex xpub input) := by
  unfold checkTransparentInput
  split
  · split
    · exact returns_ok ()
    · refine (returns_checkDerivedKey _ _ _ _).bind fun _ _ => ?_
      split
      · exact returns_error _
      · exact returns_ok ()
  · exact returns_error _

theorem returns_checkTransparentOutput (xpub : Xpub) (output : TransparentOutput) :
    Outcome.Returns (checkTransparentOutput lib seedFingerprint accountIndex xpub output) := by
  unfold checkTransparentOutput
  split
  · refine (returns_checkUserAddress _ _).bind fun _ _ => ?_
    split
    · split
      · split
        · exact returns_checkDerivedKey _ _ _ _
        · exact returns_ok ()
      · exact returns_ok ()
    · exact returns_ok ()
  · refine (returns_checkUserAddress _ _).bind fun _ _ => ?_
    split
    · exact returns_ok ()
    · exact returns_checkDerivedKey _ _ _ _
  · exact returns_error _

theorem returns_checkAction (fvk : FullViewingKey) (action : Action) :
    Outcome.Returns (checkAction lib seedFingerprint accountIndex fvk action) := by
  have hspend : Outcome.Returns
      (checkActionSpend lib seedFingerprint accountIndex fvk action.spend) := by
    unfold checkActionSpend
    dsimp only
    split
    · exact returns_ok ()
    · split
      · exact returns_error _
      · split
        · exact returns_error _
        · exact returns_ok ()
  unfold checkAction
  split
  · exact returns_error _
  · refine hspend.bind fun _ _ => ?_
    unfold checkActionOutput
    split
    · exact returns_error _
    · exact returns_ok ()

theorem returns_netValues {actions : List Action} (h : ∀ action ∈ actions,
    action.spend.value.isSome = true ∧ action.output.value.isSome = true) :
    Outcome.Returns (netValues actions) := by
  induction actions with
  | nil => exact returns_ok []
  | cons action actions ih =>
    obtain ⟨⟨hspent, hpaid⟩, hrest⟩ := List.forall_mem_cons.mp h
    obtain ⟨spent, hspent⟩ := Option.isSome_iff_exists.mp hspent
    obtain ⟨paid, hpaid⟩ := Option.isSome_iff_exists.mp hpaid
    rw [netValues, hspent, hpaid]
    exact (ih hrest).bind fun _ _ => returns_ok _

theorem returns_checkPczt (hlib : lib.ChecksValues) (pczt : Pczt) :
    Outcome.Returns (checkPczt lib seedFingerprint accountIndex ufvk pczt) := by
  refine (returns_okOr _ _).bind fun xpub _ => ?_
  refine (returns_okOr _ _).bind fun fvk _ => ?_
  refine (returns_okOr _ _).bind fun orchard _ => ?_
  refine Outcome.Returns.bind (Outcome.Returns.mapError ?_ _) fun _ _ => ?_
  · refine (Outcome.Returns.collect fun action _ => returns_checkAction fvk action).bind
      fun checked hchecked => ?_
    refine (returns_netValues fun action haction => hlib.values action ?_).bind fun values _ => ?_
    · have hok := Outcome.forall_of_collect hchecked action haction
      unfold checkAction at hok
      split at hok
      · cases hok
      · rename_i hverified
        exact Bool.not_eq_false _ ▸ hverified
    · split
      · exact returns_ok ()
      · exact returns_error _
  · refine (returns_okOr _ _).bind fun transparent _ => Outcome.Returns.mapError ?_ _
    exact (Outcome.Returns.collect fun input _ => returns_checkTransparentInput xpub input).bind
      fun _ _ => (Outcome.Returns.collect fun output _ =>
        returns_checkTransparentOutput xpub output).bind fun _ _ => returns_ok ()

end

/-- **When neither panics**: for the transactions whose actions, as far as they are gone through,
have memos and addresses that can be read. -/
theorem pczt_returns_iff {Xpub : Type} {lib : ZcashLib Xpub} (hlib : lib.ChecksValues)
    (seedFingerprint : Block 32) (accountIndex : UInt32) (ufvk : UnifiedFullViewingKey Xpub)
    (pczt : Pczt) :
    (Outcome.Returns (checkPczt lib seedFingerprint accountIndex ufvk pczt)
        ∧ Outcome.Returns (parsePczt lib seedFingerprint ufvk pczt)) ↔ pczt.Readable lib ufvk :=
  (and_iff_right (returns_checkPczt hlib pczt)).trans (returns_parsePczt pczt)

def ZcashLib.withMemo (memo : Block 512) : ZcashLib Bitcoin.DerivationPath :=
  { ZcashLib.sample with
    verifyCvNet := fun action => action.spend.value.isSome && action.output.value.isSome
    tryOutputRecoveryWithPkdEsk := fun _ note => some (note, note.recipient, memo) }

theorem ZcashLib.checksValues_withMemo (memo : Block 512) :
    (ZcashLib.withMemo memo).ChecksValues where
  values _ h := Bool.and_eq_true_iff.mp h

def memoOf (first : UInt8) : Block 512 := Block.ofBytes 512 [first]

theorem pczt_returns_sample :
    (Outcome.Returns (checkPczt (.withMemo (memoOf 0xff)) (Block.zero 32) 0 sampleUfvk (orchardPczt 5))
      ∧ Outcome.Returns (parsePczt (.withMemo (memoOf 0xff)) (Block.zero 32) sampleUfvk
        (orchardPczt 5))) ↔ (orchardPczt 5).Readable (.withMemo (memoOf 0xff)) sampleUfvk :=
  pczt_returns_iff (ZcashLib.checksValues_withMemo _) (Block.zero 32) 0 sampleUfvk (orchardPczt 5)

theorem not_memoReadable : ¬MemoReadable (memoOf 0x80) := by
  intro h
  have hfirst : (memoOf 0x80).bytes = [0x80] ++ List.replicate 511 0 := rfl
  have hdropped : ((List.replicate 511 (0 : UInt8)).reverse ++ [0x80]).dropWhile
      (fun b => decide (b = 0)) = [0x80] := by
    rw [List.reverse_replicate, List.dropWhile_append_of_pos]
    · rfl
    · intro b hb
      exact decide_eq_true (List.eq_of_mem_replicate hb)
  unfold MemoReadable at h
  rw [hfirst, List.reverse_append, show [(0x80 : UInt8)].reverse = [0x80] from rfl, hdropped] at h
  cases h (by decide)

/-- **A memo that is no text is a panic.** -/
theorem not_returns_memo : ¬∀ (Xpub : Type) (lib : ZcashLib Xpub) (seedFingerprint : Block 32)
    (accountIndex : UInt32) (ufvk : UnifiedFullViewingKey Xpub) (pczt : Pczt), lib.ChecksValues →
    Outcome.Returns (checkPczt lib seedFingerprint accountIndex ufvk pczt)
      ∧ Outcome.Returns (parsePczt lib seedFingerprint ufvk pczt) := by
  intro hall
  have hreturns := (hall _ (.withMemo (memoOf 0x80)) (Block.zero 32) 0 sampleUfvk (orchardPczt 5)
    (ZcashLib.checksValues_withMemo _)).2
  have hreadable := (returns_parsePczt _).mp hreturns _ _ rfl rfl
  exact not_memoReadable (hreadable.1 rfl _ _ _ rfl).1

end Keystone3.Zcash
