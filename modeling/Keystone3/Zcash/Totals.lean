import Keystone3.Bytes.Checked
import Keystone3.Zcash.Parse

/-!
# The totals that are shown

What is transferred and the fee are differences of sums of 64 bits. `exactTotals_iff`:
the totals are exact where the inputs add up to a number of 64 bits and the outputs to
no more than the inputs.
-/

namespace Keystone3.Zcash

open Bytes (Block checkedAdd checkedSub checkedSum checkedAdd_eq checkedSub_eq checkedAdd_eq_some
  checkedSub_eq_some checkedSum_eq_some foldl_eq_of_foldlM)
open Logic (Outcome)
open Logic.Outcome (bind_eq_ok okOr_eq_ok)
open List (filter_true map_cons map_map sum_cons)
open Option (bind_eq_some_iff getD_some map_some)

def checkedTotal (f : ParsedPart → List UInt64) : UInt64 → List (Option ParsedPart) → Option UInt64
  | acc, [] => some acc
  | acc, none :: parts => checkedTotal f acc parts
  | acc, some part :: parts => do
    let amount ← checkedSum (f part)
    let acc ← checkedAdd acc amount
    checkedTotal f acc parts

namespace ParsedPart

def inputAmounts (part : ParsedPart) : List UInt64 := part.sources.map ParsedFrom.amount

def outputAmounts (part : ParsedPart) : List UInt64 := part.targets.map ParsedTo.amount

def changeAmounts (part : ParsedPart) : List UInt64 :=
  (part.targets.filter ParsedTo.isChange).map ParsedTo.amount

end ParsedPart

/-- The amount that is transferred and the fee of `parse_pczt`, where no sum and no difference
wraps. -/
def checkedTotals (parts : List (Option ParsedPart)) (valueSum : Int) :
    Option (UInt64 × UInt64) := do
  let totalChange ← checkedTotal ParsedPart.changeAmounts 0 parts
  let totalInput ← checkedTotal ParsedPart.inputAmounts 0 parts
  let totalOutput ← checkedTotal ParsedPart.outputAmounts 0 parts
  let amount := UInt64.ofNat valueSum.natAbs
  let totalOutput := if valueSum < 0 then saturatingAdd totalOutput amount else totalOutput
  let totalInput := if valueSum < 0 then totalInput else saturatingAdd totalInput amount
  let transfer ← checkedSub totalOutput totalChange
  let fee ← checkedSub totalInput totalOutput
  pure (transfer, fee)

def partSum (f : ParsedPart → List UInt64) (part : Option ParsedPart) : Nat :=
  ((part.map f).getD []).map UInt64.toNat |>.sum

variable {parts : List (Option ParsedPart)}

theorem checkedTotal_eq_some {f : ParsedPart → List UInt64} {acc s : UInt64} : checkedTotal f acc parts = some s
      ↔ s.toNat = acc.toNat + (parts.map (partSum f)).sum := by
  induction parts generalizing acc with
  | nil =>
    rw [checkedTotal, List.map_nil, List.sum_nil, Nat.add_zero, eq_comm (a := s.toNat),
      UInt64.toNat_inj]
    exact Option.some_inj
  | cons part parts ih =>
    rw [map_cons, sum_cons]
    cases part with
    | none =>
      have hzero : partSum f none = 0 := rfl
      rw [checkedTotal, ih, hzero, Nat.zero_add]
    | some part =>
      have hs := s.toNat_lt
      have hpart : partSum f (some part) = ((f part).map UInt64.toNat).sum := rfl
      rw [checkedTotal, hpart]
      constructor
      · intro h
        obtain ⟨amount, hamount, h⟩ := bind_eq_some_iff.mp h
        obtain ⟨next, hnext, h⟩ := bind_eq_some_iff.mp h
        rw [ih.mp h, checkedAdd_eq_some.mp hnext, checkedSum_eq_some.mp hamount, Nat.add_assoc]
      · intro h
        have hamount : (UInt64.ofNat ((f part).map UInt64.toNat).sum).toNat
            = ((f part).map UInt64.toNat).sum := UInt64.toNat_ofNat_of_lt' (by show _ < 2 ^ 64; omega)
        have hnext : (acc + UInt64.ofNat ((f part).map UInt64.toNat).sum).toNat
            = acc.toNat + ((f part).map UInt64.toNat).sum := by
          rw [UInt64.toNat_add, hamount, Nat.mod_eq_of_lt (by omega)]
        refine bind_eq_some_iff.mpr ⟨_, checkedSum_eq_some.mpr hamount, ?_⟩
        refine bind_eq_some_iff.mpr ⟨_, checkedAdd_eq_some.mpr (hnext.trans ?_), ?_⟩
        · rw [hamount]
        · rw [ih, hnext, h, Nat.add_assoc]

section

variable {Xpub : Type} (lib : ZcashLib Xpub) (seedFingerprint : Block 32)
  (ufvk : UnifiedFullViewingKey Xpub)

def Action.spent (action : Action) : Nat := (action.spend.value.getD 0).toNat

def Action.paid (action : Action) : Nat := (action.output.value.getD 0).toNat

def TransparentBundle.spent (bundle : TransparentBundle) : Nat :=
  (bundle.inputs.map fun input => input.value.toNat).sum

def TransparentBundle.paid (bundle : TransparentBundle) : Nat :=
  (bundle.outputs.map fun output => output.value.toNat).sum

def Action.isChange (action : Action) : Bool :=
  match parseOrchardOutput lib ufvk action with
  | .ok target => target.isChange
  | _ => false

def TransparentOutput.isChange (output : TransparentOutput) : Bool :=
  match parseTransparentOutput lib seedFingerprint output with
  | .ok target => target.isChange
  | _ => false

def totalSpent (transparent : TransparentBundle) (orchard : OrchardBundle) (sapling : Int) : Nat :=
  transparent.spent + (orchard.actions.map Action.spent).sum + sapling.toNat

def totalPaid (transparent : TransparentBundle) (orchard : OrchardBundle) (sapling : Int) : Nat :=
  transparent.paid + (orchard.actions.map Action.paid).sum + (-sapling).toNat

def paidToOthers (transparent : TransparentBundle) (orchard : OrchardBundle) (sapling : Int) :
    Nat :=
  ((transparent.outputs.filter fun output => !output.isChange lib seedFingerprint).map
      fun output => output.value.toNat).sum
    + ((orchard.actions.filter fun action => !action.isChange lib ufvk).map Action.paid).sum
    + (-sapling).toNat

/-- The balance of a transaction: what its transparent inputs have more than its outputs, with the
balances of the two pools. -/
def balance (transparent : TransparentBundle) (orchard : OrchardBundle) (sapling : Int) : Int :=
  (transparent.spent : Int) - transparent.paid + orchard.valueSum + sapling

/-- **The totals are exact**: the amount that is shown as transferred is what is paid to others, the
fee is the balance, and neither a sum nor a difference wraps on the way. -/
def ExactTotals (pczt : Pczt) (parsed : ParsedPczt) : Prop :=
  ∃ transparent orchard transfer fee, pczt.transparent = some transparent
    ∧ pczt.orchard = some orchard
    ∧ checkedTotals [parsed.orchard, parsed.transparent] pczt.sapling.valueSum = some (transfer, fee)
    ∧ parsed.totalTransferValue = formatZecValue lib transfer
    ∧ parsed.feeValue = formatZecValue lib fee
    ∧ transfer.toNat
      = paidToOthers lib seedFingerprint ufvk transparent orchard pczt.sapling.valueSum
    ∧ (fee.toNat : Int) = balance transparent orchard pczt.sapling.valueSum

/-- The inputs add up to a number of 64 bits, and the outputs to no more. -/
def TotalsFit (pczt : Pczt) : Prop :=
  ∃ transparent orchard, pczt.transparent = some transparent ∧ pczt.orchard = some orchard
    ∧ totalSpent transparent orchard pczt.sapling.valueSum < 2 ^ 64
    ∧ totalPaid transparent orchard pczt.sapling.valueSum
      ≤ totalSpent transparent orchard pczt.sapling.valueSum

/-- Where a note commitment is right, the note that is decrypted is the one it is of. -/
structure ZcashLib.BindsNotes (lib : ZcashLib Xpub) : Prop where
  recovered_ovk : ∀ action ovk note address memo,
    lib.verifyNoteCommitment action.output action.spend = true →
    lib.tryOutputRecoveryWithOvk action ovk = some (note, address, memo) →
    action.output.value = some note.value
  recovered_direct : ∀ action given note address memo,
    lib.verifyNoteCommitment action.output action.spend = true → noteOf lib action = .ok given →
    lib.tryOutputRecoveryWithPkdEsk action given = some (note, address, memo) →
    note.value = given.value

end

section

variable {Xpub : Type} {lib : ZcashLib Xpub} {seedFingerprint : Block 32}
  {ufvk : UnifiedFullViewingKey Xpub}

variable {action : Action}

theorem noteOf_value {note : Note} (h : noteOf lib action = .ok note) :
    action.output.value = some note.value := by
  unfold noteOf at h
  obtain ⟨recipient, -, h⟩ := bind_eq_ok.mp h
  obtain ⟨value, hvalue, h⟩ := bind_eq_ok.mp h
  split at h
  · cases h
  · obtain ⟨rseed, -, h⟩ := bind_eq_ok.mp h
    dsimp only at h
    split at h
    · cases h
    · cases h
      exact okOr_eq_ok.mp hvalue

theorem decodeOutputEncCiphertext_value (hlib : lib.BindsNotes)
    {vk : Option OutgoingViewingKey} {note : Note} {address : OrchardAddress} {memo : Block 512}
    (hcommitment : lib.verifyNoteCommitment action.output action.spend = true)
    (h : decodeOutputEncCiphertext lib action vk = .ok (some (note, address, memo))) :
    action.output.value = some note.value := by
  cases vk with
  | some ovk => exact hlib.recovered_ovk _ _ _ _ _ hcommitment (Outcome.ok.inj h)
  | none =>
    obtain ⟨given, hgiven, h⟩ := bind_eq_ok.mp h
    rw [hlib.recovered_direct _ _ _ _ _ hcommitment hgiven (Outcome.ok.inj h)]
    exact noteOf_value hgiven

theorem decodeOutput_amount (hlib : lib.BindsNotes) {value : UInt64}
    {vk : Option OutgoingViewingKey} {isInternal : Bool} {target : ParsedTo}
    (hcommitment : lib.verifyNoteCommitment action.output action.spend = true)
    (hvalue : action.output.value = some value)
    (h : decodeOutput lib action value vk isInternal = .ok (some target)) :
    target.amount = value ∧ (target.isDummy = true → value = 0) := by
  unfold decodeOutput at h
  obtain ⟨decoded, hdecoded, h⟩ := bind_eq_ok.mp h
  cases decoded with
  | none =>
    dsimp only at h
    split at h
    · cases h
    · cases h
  | some opened =>
    obtain ⟨note, address, memo⟩ := opened
    have hnote := decodeOutputEncCiphertext_value hlib hcommitment hdecoded
    rw [hvalue, Option.some.injEq] at hnote
    obtain ⟨text, -, h⟩ := bind_eq_ok.mp h
    obtain ⟨recipient, -, h⟩ := bind_eq_ok.mp h
    split at h
    · cases h
    · obtain ⟨_, -, h⟩ := bind_eq_ok.mp h
      cases h
      refine ⟨hnote.symm, ?_⟩
      intro hdummy
      exact of_decide_eq_true (Bool.and_eq_true_iff.mp hdummy).2

theorem firstDecoded_amount (hlib : lib.BindsNotes) {value : UInt64}
    {keys : List (Option OutgoingViewingKey × Bool)} {target : ParsedTo}
    (hcommitment : lib.verifyNoteCommitment action.output action.spend = true)
    (hvalue : action.output.value = some value)
    (h : firstDecoded lib action value keys = .ok (some target)) :
    target.amount = value ∧ (target.isDummy = true → value = 0) := by
  induction keys with
  | nil => cases h
  | cons key keys ih =>
    rcases firstDecoded_cons h with ⟨other, hdecoded, heq⟩ | ⟨-, hrest⟩
    · cases heq
      exact decodeOutput_amount hlib hcommitment hvalue hdecoded
    · exact ih hrest

theorem parseOrchardOutput_amount (hlib : lib.BindsNotes) {target : ParsedTo}
    (hcommitment : lib.verifyNoteCommitment action.output action.spend = true)
    (h : parseOrchardOutput lib ufvk action = .ok target) :
    target.amount.toNat = action.paid ∧ (target.isDummy = true → action.paid = 0) := by
  unfold parseOrchardOutput at h
  obtain ⟨fvk, -, h⟩ := bind_eq_ok.mp h
  obtain ⟨value, hvalue, h⟩ := bind_eq_ok.mp h
  obtain ⟨parsed, hparsed, h⟩ := bind_eq_ok.mp h
  have hvalue := okOr_eq_ok.mp hvalue
  have hpaid : action.paid = value.toNat := by rw [Action.paid, hvalue, getD_some]
  have hfinal : target.amount = value ∧ (target.isDummy = true → value = 0) := by
    cases parsed with
    | some parsed =>
      cases h
      exact firstDecoded_amount hlib hcommitment hvalue hparsed
    | none =>
      dsimp only at h
      split at h
      · cases h
        exact ⟨rfl, nofun⟩
      · split at h
        · rename_i hzero
          cases h
          exact ⟨rfl, fun _ => hzero⟩
        · cases h
  rw [hpaid, hfinal.1]
  exact ⟨rfl, fun hdummy => by rw [hfinal.2 hdummy]; rfl⟩

theorem parseTransparentOutput_amount {output : TransparentOutput} {target : ParsedTo}
    (h : parseTransparentOutput lib seedFingerprint output = .ok target) :
    target.amount = output.value := by
  unfold parseTransparentOutput at h
  split at h
  · obtain ⟨address, -, h⟩ := bind_eq_ok.mp h
    cases h
    rfl
  · obtain ⟨address, -, h⟩ := bind_eq_ok.mp h
    cases h
    rfl
  · cases h

theorem parseTransparentInput_amount {input : TransparentInput} {source : ParsedFrom}
    (h : parseTransparentInput lib seedFingerprint input = .ok source) :
    source.amount = input.value := by
  unfold parseTransparentInput at h
  split at h
  · cases h
    rfl
  · cases h

theorem sum_filter_eq {α β : Type} {R : α → β → Prop} {as : List α} {bs : List β} {p : β → Bool}
    {q : α → Bool} {f : β → Nat} {g : α → Nat} (h : List.Forall₂ R as bs)
    (hR : ∀ a ∈ as, ∀ b, R a b → (if p b = true then f b else 0) = if q a = true then g a else 0) :
    ((bs.filter p).map f).sum = ((as.filter q).map g).sum := by
  induction h with
  | nil => rfl
  | @cons a b as bs hab h ih =>
    have hrest := ih fun a' ha' => hR a' (List.mem_cons_of_mem a ha')
    have hfirst := hR a (.head _) b hab
    have hb : (((b :: bs).filter p).map f).sum
        = (if p b = true then f b else 0) + ((bs.filter p).map f).sum := by
      rw [List.filter_cons]
      split
      · rw [map_cons, sum_cons]
      · rw [Nat.zero_add]
    have ha : (((a :: as).filter q).map g).sum
        = (if q a = true then g a else 0) + ((as.filter q).map g).sum := by
      rw [List.filter_cons]
      split
      · rw [map_cons, sum_cons]
      · rw [Nat.zero_add]
    rw [hb, ha, hfirst, hrest]

theorem sum_filter_add {α : Type} (q : α → Bool) (g : α → Nat) (as : List α) :
    ((as.filter q).map g).sum + ((as.filter fun a => !q a).map g).sum = (as.map g).sum := by
  induction as with
  | nil => rfl
  | cons a as ih =>
    rw [map_cons, sum_cons, ← ih]
    cases hq : q a with
    | true =>
      rw [List.filter_cons_of_pos hq, List.filter_cons_of_neg (by rw [hq]; decide), map_cons,
        sum_cons]
      omega
    | false =>
      rw [List.filter_cons_of_neg (by rw [hq]; decide), List.filter_cons_of_pos (by rw [hq]; rfl),
        map_cons, sum_cons]
      omega

theorem partSum_nonempty {f : ParsedPart → List UInt64} (part : ParsedPart)
    (hf : part.sources = [] → part.targets = [] → f part = []) :
    partSum f part.nonempty = ((f part).map UInt64.toNat).sum := by
  rw [partSum, getD_nonempty part hf]

structure PartSums (part : Option ParsedPart) (spent paid change : Nat) : Prop where
  input : partSum ParsedPart.inputAmounts part = spent
  output : partSum ParsedPart.outputAmounts part = paid
  change : partSum ParsedPart.changeAmounts part = change

theorem partSums_nonempty (part : ParsedPart) : PartSums part.nonempty
    (part.sources.map fun source => source.amount.toNat).sum
    (part.targets.map fun target => target.amount.toNat).sum
    ((part.targets.filter ParsedTo.isChange).map fun target => target.amount.toNat).sum := by
  refine ⟨?_, ?_, ?_⟩
  · rw [partSum_nonempty part fun hsources _ => by rw [ParsedPart.inputAmounts, hsources]; rfl,
      ParsedPart.inputAmounts, map_map]
    rfl
  · rw [partSum_nonempty part fun _ htargets => by rw [ParsedPart.outputAmounts, htargets]; rfl,
      ParsedPart.outputAmounts, map_map]
    rfl
  · rw [partSum_nonempty part fun _ htargets => by rw [ParsedPart.changeAmounts, htargets]; rfl,
      ParsedPart.changeAmounts, map_map]
    rfl

theorem partSums_transparent {bundle : TransparentBundle} {shown : Option ParsedPart}
    (h : parseTransparent lib seedFingerprint bundle = .ok shown) : PartSums shown bundle.spent bundle.paid
      ((bundle.outputs.filter (TransparentOutput.isChange lib seedFingerprint)).map
        fun output => output.value.toNat).sum := by
  obtain ⟨sources, hsources, htargets, hshown⟩ := parseTransparent_eq_ok h
  have hinput : ((sources.filter fun _ => true).map fun source => source.amount.toNat).sum
      = ((bundle.inputs.filter fun _ => true).map fun input => input.value.toNat).sum :=
    sum_filter_eq hsources fun input _ source hsource => by
      rw [parseTransparentInput_amount hsource]
  rw [filter_true, filter_true] at hinput
  have hall : ∀ q : Bool → Bool, (((targetsOf shown).filter fun t => q t.isChange).map
        fun target => target.amount.toNat).sum
      = ((bundle.outputs.filter fun o => q (o.isChange lib seedFingerprint)).map
        fun output => output.value.toNat).sum := by
    intro q
    refine sum_filter_eq htargets fun output _ target htarget => ?_
    have hmark : output.isChange lib seedFingerprint = target.isChange := by
      rw [TransparentOutput.isChange, htarget]
    rw [hmark, parseTransparentOutput_amount htarget]
  have houtput := hall fun _ => true
  rw [filter_true, filter_true] at houtput
  have hchange := hall id
  have hsums := partSums_nonempty ⟨sources, targetsOf shown⟩
  rw [← hshown] at hsums
  exact ⟨hsums.input.trans hinput, hsums.output.trans houtput, hsums.change.trans hchange⟩

theorem parseAction_spec {p : Option ParsedFrom × ParsedTo}
    (h : parseAction lib seedFingerprint ufvk action = .ok p) :
    (p.1.map fun source => source.amount.toNat).getD 0 = action.spent
      ∧ parseOrchardOutput lib ufvk action = .ok p.2 := by
  unfold parseAction at h
  obtain ⟨target, htarget, h⟩ := bind_eq_ok.mp h
  cases h
  refine ⟨?_, htarget⟩
  dsimp only
  rw [Action.spent]
  cases action.spend.value with
  | none => rfl
  | some value =>
    dsimp only
    split
    · rename_i hzero
      rw [getD_some, hzero]
      rfl
    · rfl

theorem sum_filterMap {α β : Type} (f : α → Option β) (g : β → Nat) (as : List α) :
    ((as.filterMap f).map g).sum = (as.map fun a => ((f a).map g).getD 0).sum := by
  induction as with
  | nil => rfl
  | cons a as ih =>
    rw [map_cons, sum_cons, ← ih]
    cases hf : f a with
    | none => rw [List.filterMap_cons_none hf, Option.map_none, Option.getD_none, Nat.zero_add]
    | some b =>
      rw [List.filterMap_cons_some hf, map_cons, sum_cons, map_some, getD_some]

theorem partSums_orchard (hlib : lib.BindsNotes) {bundle : OrchardBundle}
    {shown : Option ParsedPart} (hcommitment : ∀ action ∈ bundle.actions,
      lib.verifyNoteCommitment action.output action.spend = true)
    (h : parseOrchard lib seedFingerprint ufvk bundle = .ok shown) : PartSums shown
      (bundle.actions.map Action.spent).sum (bundle.actions.map Action.paid).sum
      ((bundle.actions.filter (Action.isChange lib ufvk)).map Action.paid).sum := by
  unfold parseOrchard at h
  obtain ⟨parsed, hparsed, h⟩ := bind_eq_ok.mp h
  cases h
  have hactions := Outcome.collect_eq_ok.mp hparsed
  have htargets : List.Forall₂ (fun action target => parseOrchardOutput lib ufvk action = .ok target)
      bundle.actions (parsed.map Prod.snd) :=
    (List.forall₂_map_right_iff).mpr (hactions.imp fun _ _ hp => (parseAction_spec hp).2)
  have hsums := partSums_nonempty ⟨parsed.filterMap Prod.fst,
    (parsed.map Prod.snd).filter fun target => !target.isDummy⟩
  refine ⟨hsums.input.trans ?_, hsums.output.trans ?_, hsums.change.trans ?_⟩
  · have hsources := sum_filter_eq (p := fun _ => true) (q := fun _ => true)
      (f := fun p : Option ParsedFrom × ParsedTo => (p.1.map fun s => s.amount.toNat).getD 0)
      (g := Action.spent) hactions fun action _ p hp =>
        (if_pos rfl).trans ((parseAction_spec hp).1.trans (if_pos rfl).symm)
    rw [filter_true, filter_true] at hsources
    rw [← hsources]
    exact sum_filterMap _ _ _
  · have houtputs := sum_filter_eq (q := fun _ => true) (g := Action.paid)
      (p := fun target : ParsedTo => !target.isDummy) htargets fun action haction target htarget => by
        obtain ⟨hamount, hdummy⟩ :=
          parseOrchardOutput_amount hlib (hcommitment action haction) htarget
        cases hmark : target.isDummy with
        | false => exact hamount
        | true => exact (hdummy hmark).symm
    rwa [filter_true] at houtputs
  · rw [List.filter_filter]
    refine sum_filter_eq htargets fun action haction target htarget => ?_
    obtain ⟨hamount, hdummy⟩ := parseOrchardOutput_amount hlib (hcommitment action haction) htarget
    have hchange : action.isChange lib ufvk = target.isChange := by
      rw [Action.isChange, htarget]
    rw [hchange]
    cases hmark : target.isDummy with
    | false =>
      rw [Bool.not_false, Bool.and_true]
      split
      · exact hamount
      · rfl
    | true =>
      rw [Bool.not_true, Bool.and_false, hdummy hmark]
      exact (ite_self 0).symm

end

section

variable {Xpub : Type} {lib : ZcashLib Xpub} {seedFingerprint : Block 32} {accountIndex : UInt32}
  {ufvk : UnifiedFullViewingKey Xpub}

theorem checkAction_commitment {fvk : FullViewingKey} {action : Action}
    (h : checkAction lib seedFingerprint accountIndex fvk action = .ok ()) :
    lib.verifyNoteCommitment action.output action.spend = true := by
  unfold checkAction at h
  split at h
  · cases h
  · obtain ⟨_, -, h⟩ := bind_eq_ok.mp h
    unfold checkActionOutput at h
    split at h
    · cases h
    · rename_i hverified
      exact Bool.not_eq_false _ ▸ hverified

theorem netValues_sum {actions : List Action} {values : List Int}
    (h : netValues actions = .ok values) : values.sum
      = ((actions.map Action.spent).sum : Int) - (actions.map Action.paid).sum := by
  induction actions generalizing values with
  | nil =>
    cases h
    rfl
  | cons action actions ih =>
    obtain ⟨spent, hspent, h⟩ := bind_eq_ok.mp h
    obtain ⟨paid, hpaid, h⟩ := bind_eq_ok.mp h
    obtain ⟨rest, hrest, h⟩ := bind_eq_ok.mp h
    cases h
    have hspent : action.spent = spent.toNat := by
      rw [Action.spent, Outcome.unwrap_eq_ok.mp hspent, getD_some]
    have hpaid : action.paid = paid.toNat := by
      rw [Action.paid, Outcome.unwrap_eq_ok.mp hpaid, getD_some]
    rw [sum_cons, map_cons, map_cons, sum_cons, sum_cons, ih hrest, hspent, hpaid]
    omega

theorem sumValues_eq {acc s : Int} {values : List Int} (h : sumValues acc values = some s) :
    s = acc + values.sum := by
  induction values generalizing acc with
  | nil =>
    cases h
    rw [List.sum_nil, add_zero]
  | cons v values ih =>
    rw [sumValues] at h
    split at h
    · rw [ih h, sum_cons, add_assoc]
    · cases h

theorem checkPczt_orchard {pczt : Pczt}
    (h : checkPczt lib seedFingerprint accountIndex ufvk pczt = .ok ()) :
    ∃ orchard, pczt.orchard = some orchard
      ∧ (∀ action ∈ orchard.actions, lib.verifyNoteCommitment action.output action.spend = true)
      ∧ orchard.valueSum = ((orchard.actions.map Action.spent).sum : Int)
        - (orchard.actions.map Action.paid).sum := by
  unfold checkPczt at h
  obtain ⟨xpub, -, h⟩ := bind_eq_ok.mp h
  obtain ⟨fvk, -, h⟩ := bind_eq_ok.mp h
  obtain ⟨orchard, horchard, h⟩ := bind_eq_ok.mp h
  obtain ⟨_, hcheck, -⟩ := bind_eq_ok.mp h
  have hcheck := Outcome.mapError_eq_ok.mp hcheck
  unfold checkOrchard at hcheck
  obtain ⟨checked, hactions, hcheck⟩ := bind_eq_ok.mp hcheck
  obtain ⟨values, hvalues, hcheck⟩ := bind_eq_ok.mp hcheck
  split at hcheck
  · rename_i hsum
    refine ⟨orchard, okOr_eq_ok.mp horchard, ?_, ?_⟩
    · exact fun action haction =>
        checkAction_commitment (Outcome.forall_of_collect hactions action haction)
    · rw [sumValues_eq hsum, netValues_sum hvalues, zero_add]
  · cases hcheck

end

theorem total_eq_of_checkedTotal {f : ParsedPart → List UInt64} {acc s : UInt64} (h : checkedTotal f acc parts = some s) :
    (parts.filterMap fun part => part.map fun p => sum (f p)).foldl (· + ·) acc = s := by
  induction parts generalizing acc with
  | nil => exact Option.some.inj h
  | cons part parts ih =>
    cases part with
    | none => exact ih h
    | some part =>
      obtain ⟨amount, hamount, h⟩ := bind_eq_some_iff.mp h
      obtain ⟨next, hnext, h⟩ := bind_eq_some_iff.mp h
      have hsum : sum (f part) = amount := foldl_eq_of_foldlM hamount
      rw [List.filterMap_cons_some (map_some ..), List.foldl_cons, hsum, checkedAdd_eq hnext, ih h]

section

variable {Xpub : Type} {lib : ZcashLib Xpub} {seedFingerprint : Block 32}
  {ufvk : UnifiedFullViewingKey Xpub}

theorem parsePczt_totals {pczt : Pczt} {parsed : ParsedPczt}
    (h : parsePczt lib seedFingerprint ufvk pczt = .ok parsed) :
    (-maxMoney ≤ pczt.sapling.valueSum ∧ pczt.sapling.valueSum ≤ maxMoney)
    ∧ ∀ transfer fee, checkedTotals [parsed.orchard, parsed.transparent] pczt.sapling.valueSum
        = some (transfer, fee) →
      parsed.totalTransferValue = formatZecValue lib transfer
        ∧ parsed.feeValue = formatZecValue lib fee := by
  unfold parsePczt at h
  obtain ⟨orchardBundle, -, h⟩ := bind_eq_ok.mp h
  obtain ⟨orchard, -, h⟩ := bind_eq_ok.mp h
  obtain ⟨transparentBundle, -, h⟩ := bind_eq_ok.mp h
  obtain ⟨transparent, -, h⟩ := bind_eq_ok.mp h
  dsimp only at h
  split at h
  · cases h
  · rename_i hrange
    cases h
    refine ⟨Decidable.not_not.mp hrange, ?_⟩
    intro transfer fee htotals
    obtain ⟨change, hchange, htotals⟩ := bind_eq_some_iff.mp htotals
    obtain ⟨input, hinput, htotals⟩ := bind_eq_some_iff.mp htotals
    obtain ⟨output, houtput, htotals⟩ := bind_eq_some_iff.mp htotals
    obtain ⟨transfer', htransfer, htotals⟩ := bind_eq_some_iff.mp htotals
    obtain ⟨fee', hfee, htotals⟩ := bind_eq_some_iff.mp htotals
    cases htotals
    have hchange : total ParsedPart.totalChange [orchard, transparent] = change :=
      total_eq_of_checkedTotal hchange
    have hinput : total ParsedPart.totalInput [orchard, transparent] = input :=
      total_eq_of_checkedTotal hinput
    have houtput : total ParsedPart.totalOutput [orchard, transparent] = output :=
      total_eq_of_checkedTotal houtput
    dsimp only
    rw [hchange, hinput, houtput, checkedSub_eq htransfer, checkedSub_eq hfee]
    exact ⟨rfl, rfl⟩

end

theorem toNat_saturatingAdd (a b : UInt64) :
    (saturatingAdd a b).toNat = min (a.toNat + b.toNat) (2 ^ 64 - 1) := by
  unfold saturatingAdd
  by_cases hfits : a.toNat + b.toNat < 2 ^ 64
  · rw [if_pos hfits, UInt64.toNat_add, Nat.mod_eq_of_lt hfits]
    omega
  · rw [if_neg hfits]
    show 2 ^ 64 - 1 = _
    omega

def partsSum (f : ParsedPart → List UInt64) (parts : List (Option ParsedPart)) : Nat :=
  (parts.map (partSum f)).sum

/-- The sum with an amount of the Sapling pool, which does not wrap but stays at the greatest
number. -/
def withPool (n pool : Nat) : Nat := min (n + pool) (2 ^ 64 - 1)

theorem checkedTotals_eq_some {v : Int}
    (hv : -maxMoney ≤ v ∧ v ≤ maxMoney) {transfer fee : UInt64} :
    checkedTotals parts v = some (transfer, fee)
      ↔ partsSum ParsedPart.changeAmounts parts < 2 ^ 64
        ∧ partsSum ParsedPart.inputAmounts parts < 2 ^ 64
        ∧ partsSum ParsedPart.outputAmounts parts < 2 ^ 64
        ∧ transfer.toNat + partsSum ParsedPart.changeAmounts parts
          = withPool (partsSum ParsedPart.outputAmounts parts) (-v).toNat
        ∧ fee.toNat + withPool (partsSum ParsedPart.outputAmounts parts) (-v).toNat
          = withPool (partsSum ParsedPart.inputAmounts parts) v.toNat := by
  have hmax : maxMoney < 2 ^ 63 := by decide
  have htotal : ∀ (f : ParsedPart → List UInt64) (s : UInt64), checkedTotal f 0 parts = some s
      ↔ s.toNat = partsSum f parts := by
    intro f s
    rw [checkedTotal_eq_some, UInt64.toNat_zero, Nat.zero_add]
    rfl
  have hamount : (UInt64.ofNat v.natAbs).toNat = v.natAbs :=
    UInt64.toNat_ofNat_of_lt' (by show _ < 2 ^ 64; omega)
  -- the amount of the pool is on one side only
  have houtput : ∀ s : UInt64,
      (if v < 0 then saturatingAdd s (UInt64.ofNat v.natAbs) else s).toNat
        = withPool s.toNat (-v).toNat := by
    intro s
    have hs := s.toNat_lt
    unfold withPool
    split
    · rw [toNat_saturatingAdd, hamount]
      omega
    · omega
  have hinput : ∀ s : UInt64,
      (if v < 0 then s else saturatingAdd s (UInt64.ofNat v.natAbs)).toNat
        = withPool s.toNat v.toNat := by
    intro s
    have hs := s.toNat_lt
    unfold withPool
    split
    · omega
    · rw [toNat_saturatingAdd, hamount]
      omega
  constructor
  · intro h
    obtain ⟨change, hchange, h⟩ := bind_eq_some_iff.mp h
    obtain ⟨input, hin, h⟩ := bind_eq_some_iff.mp h
    obtain ⟨output, hout, h⟩ := bind_eq_some_iff.mp h
    obtain ⟨transfer', htransfer, h⟩ := bind_eq_some_iff.mp h
    obtain ⟨fee', hfee, h⟩ := bind_eq_some_iff.mp h
    cases h
    have hchange := (htotal _ _).mp hchange
    have hin := (htotal _ _).mp hin
    have hout := (htotal _ _).mp hout
    rw [checkedSub_eq_some, houtput, hout, hchange] at htransfer
    rw [checkedSub_eq_some, houtput, hinput, hin, hout] at hfee
    exact ⟨hchange ▸ change.toNat_lt, hin ▸ input.toNat_lt, hout ▸ output.toNat_lt, htransfer, hfee⟩
  · rintro ⟨hchange, hin, hout, htransfer, hfee⟩
    have hof : ∀ n < 2 ^ 64, (UInt64.ofNat n).toNat = n := fun n hn => UInt64.toNat_ofNat_of_lt' hn
    refine bind_eq_some_iff.mpr ⟨_, (htotal _ _).mpr (hof _ hchange), ?_⟩
    refine bind_eq_some_iff.mpr ⟨_, (htotal _ _).mpr (hof _ hin), ?_⟩
    refine bind_eq_some_iff.mpr ⟨_, (htotal _ _).mpr (hof _ hout), ?_⟩
    refine bind_eq_some_iff.mpr ⟨transfer, ?_, ?_⟩
    · rw [checkedSub_eq_some, houtput, hof _ hchange, hof _ hout, htransfer]
    · refine bind_eq_some_iff.mpr ⟨fee, ?_, rfl⟩
      rw [checkedSub_eq_some, houtput, hinput, hof _ hin, hof _ hout, hfee]

/-- **When the totals are exact**: of the transactions that pass the checks, for those whose inputs
add up to a number of 64 bits and whose outputs to no more than the inputs. -/
theorem exactTotals_iff {Xpub : Type} {lib : ZcashLib Xpub} (hlib : lib.BindsNotes)
    {seedFingerprint : Block 32} {accountIndex : UInt32} {ufvk : UnifiedFullViewingKey Xpub}
    {pczt : Pczt} {parsed : ParsedPczt}
    (hcheck : checkPczt lib seedFingerprint accountIndex ufvk pczt = .ok ())
    (hparse : parsePczt lib seedFingerprint ufvk pczt = .ok parsed) :
    ExactTotals lib seedFingerprint ufvk pczt parsed ↔ TotalsFit pczt := by
  obtain ⟨orchard, horchard, hcommitment, hbalance⟩ := checkPczt_orchard hcheck
  obtain ⟨orchard', transparent, horchard', htransparent, hactions, hparts⟩ := parsePczt_eq_ok hparse
  cases horchard.symm.trans horchard'
  have hT := partSums_transparent hparts
  have hO := partSums_orchard hlib hcommitment hactions
  obtain ⟨hrange, hshown⟩ := parsePczt_totals hparse
  have hsum : ∀ f, partsSum f [parsed.orchard, parsed.transparent]
      = partSum f parsed.orchard + partSum f parsed.transparent := by
    intro f
    rw [partsSum, List.map_cons, List.map_singleton, List.sum_cons, List.sum_singleton]
  have htotals := fun transfer fee =>
    @checkedTotals_eq_some [parsed.orchard, parsed.transparent] _ hrange transfer fee
  simp only [hsum, hT.input, hT.output, hT.change, hO.input, hO.output, hO.change] at htotals
  -- change and what is paid to others are all that is paid
  have hsplitT := sum_filter_add (TransparentOutput.isChange lib seedFingerprint)
    (fun output => output.value.toNat) transparent.outputs
  change _ + _ = transparent.paid at hsplitT
  have hsplitO := sum_filter_add (Action.isChange lib ufvk) Action.paid orchard.actions
  constructor
  · rintro ⟨transparent', orchard', transfer, fee, htransparent', horchard', hchecked, -, -, -, hfee⟩
    cases htransparent.symm.trans htransparent'
    cases horchard.symm.trans horchard'
    obtain ⟨-, hin, hout, -, hpaid⟩ := (htotals transfer fee).mp hchecked
    unfold balance at hfee
    unfold withPool at hpaid
    refine ⟨transparent, orchard, htransparent, horchard, ?_, ?_⟩
    · -- a sum that has stayed at the greatest number would make the fee too small
      unfold totalSpent
      omega
    · unfold totalPaid totalSpent
      omega
  · rintro ⟨transparent', orchard', htransparent', horchard', hfits, hle⟩
    cases htransparent.symm.trans htransparent'
    cases horchard.symm.trans horchard'
    unfold totalSpent at hfits hle
    unfold totalPaid at hle
    have htransfer : paidToOthers lib seedFingerprint ufvk transparent orchard
        pczt.sapling.valueSum < 2 ^ 64 := by
      unfold paidToOthers
      omega
    have hfee : (balance transparent orchard pczt.sapling.valueSum).toNat < 2 ^ 64 := by
      unfold balance
      omega
    have hchecked := (htotals (UInt64.ofNat (paidToOthers lib seedFingerprint ufvk transparent orchard
      pczt.sapling.valueSum)) (UInt64.ofNat (balance transparent orchard
      pczt.sapling.valueSum).toNat)).mpr ?_
    · obtain ⟨hamount, hfeeText⟩ := hshown _ _ hchecked
      refine ⟨transparent, orchard, _, _, htransparent, horchard, hchecked, hamount, hfeeText,
        UInt64.toNat_ofNat_of_lt' htransfer, ?_⟩
      rw [UInt64.toNat_ofNat_of_lt' hfee]
      unfold balance
      omega
    · rw [UInt64.toNat_ofNat_of_lt' htransfer, UInt64.toNat_ofNat_of_lt' hfee]
      unfold paidToOthers balance withPool
      unfold TransparentBundle.paid at *
      refine ⟨?_, ?_, ?_, ?_, ?_⟩
      all_goals omega

def ZcashLib.opening : ZcashLib Bitcoin.DerivationPath :=
  { ZcashLib.sample with
    tryOutputRecoveryWithPkdEsk := fun _ note => some (note, note.recipient, Block.ofBytes 512 [0xff]) }

theorem ZcashLib.bindsNotes_opening : ZcashLib.opening.BindsNotes where
  recovered_ovk := by
    intro action ovk note address memo _ h
    cases h
  recovered_direct := by
    intro action given note address memo _ _ h
    cases h
    rfl

def sampleAction (value : UInt64) : Action where
  cvNet := Block.zero 32
  rcv := none
  spend := {
    nullifier := Block.zero 32
    rk := Block.zero 32
    recipient := none
    value := some value
    rho := none
    rseed := none
    fvk := none
    alpha := none
    zip32Derivation := none }
  output := {
    cmx := Block.zero 32
    encryptedNote := ⟨Block.zero 32, Block.zero 580, Block.zero 80⟩
    recipient := some (Block.zero 43)
    value := some value
    rseed := some (Block.zero 32)
    userAddress := none }

def orchardPczt (value : UInt64) : Pczt where
  transparent := some ⟨[], []⟩
  orchard := some ⟨[sampleAction value, sampleAction value], 0⟩
  sapling := ⟨0, false, false⟩

theorem exactTotals_orchard : ∃ parsed,
    parsePczt .opening (Block.zero 32) sampleUfvk (orchardPczt 5) = .ok parsed
      ∧ (ExactTotals .opening (Block.zero 32) sampleUfvk (orchardPczt 5) parsed
        ↔ TotalsFit (orchardPczt 5)) :=
  ⟨_, rfl, @exactTotals_iff _ _ ZcashLib.bindsNotes_opening (Block.zero 32) 0 sampleUfvk
    (orchardPczt 5) _ rfl rfl⟩

/-- **Two values of `2 ^ 63` are nothing**: their sums wrap to zero. -/
theorem not_exactTotals_wrapping : ¬∀ (Xpub : Type) (lib : ZcashLib Xpub)
    (seedFingerprint : Block 32) (accountIndex : UInt32) (ufvk : UnifiedFullViewingKey Xpub)
    (pczt : Pczt) (parsed : ParsedPczt), lib.BindsNotes →
    checkPczt lib seedFingerprint accountIndex ufvk pczt = .ok () →
    parsePczt lib seedFingerprint ufvk pczt = .ok parsed →
    ExactTotals lib seedFingerprint ufvk pczt parsed := by
  intro hall
  obtain ⟨-, -, transfer, fee, -, -, hchecked, -⟩ := hall _ .opening (Block.zero 32) 0 sampleUfvk
    (orchardPczt 0x8000000000000000) _ ZcashLib.bindsNotes_opening rfl rfl
  cases hchecked

end Keystone3.Zcash
