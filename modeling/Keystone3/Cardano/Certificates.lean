import Keystone3.Cardano.Address

/-!
# Cardano certificates

A certificate is shown as a list of fields. Nothing of it is shown if one of its
addresses or hashes has no text.
-/

namespace Keystone3.Cardano

open Bytes (Block hexText)
open Logic (Outcome)

inductive DRep where
  | keyHash (hash : Block 28)
  | scriptHash (hash : Block 28)
  | alwaysAbstain
  | alwaysNoConfidence
deriving DecidableEq

structure Anchor where
  url : Text
  anchorDataHash : Block 32
deriving DecidableEq

inductive Certificate where
  | stakeRegistration (stake : Credential) (coin : Option UInt64)
  | stakeDeregistration (stake : Credential) (coin : Option UInt64)
  | stakeDelegation (stake : Credential) (pool : Block 28)
  | poolRegistration (rewardAccount : RewardAddress)
  | poolRetirement (pool : Block 28)
  | genesisKeyDelegation
  | moveInstantaneousRewards
  | committeeHotAuth (hot cold : Credential)
  | committeeColdResign (cold : Credential) (anchor : Option Anchor)
  | drepDeregistration (voting : Credential) (coin : UInt64)
  | drepRegistration (voting : Credential) (coin : UInt64) (anchor : Option Anchor)
  | drepUpdate (voting : Credential) (anchor : Option Anchor)
  | stakeAndVoteDelegation (stake : Credential) (pool : Block 28) (drep : DRep)
  | stakeRegistrationAndDelegation (stake : Credential) (pool : Block 28) (coin : UInt64)
  | stakeVoteRegistrationAndDelegation (stake : Credential) (pool : Block 28) (drep : DRep)
      (coin : UInt64)
  | voteDelegation (stake : Credential) (drep : DRep)
  | voteRegistrationAndDelegation (stake : Credential) (drep : DRep) (coin : UInt64)
deriving DecidableEq

structure CertField where
  label : String
  value : Text

structure CardanoCertificate where
  certType : String
  fields : List CertField

def labelAddress : String := "Address"

def labelPool : String := "Pool"

def labelDeposit : String := "Deposit"

def labelDrep : String := "DRep"

def labelVote : String := "Vote"

def labelAnchorUrl : String := "Anchor URL"

def labelAnchorDataHash : String := "Anchor Data Hash"

def labelColdKey : String := "Cold Key"

def labelHotKey : String := "Hot Key"

section

-- `normalize_coin` divides in floating point and is a parameter
variable (lib : AddressLib) (normalizeCoin : UInt64 → Text)

def orInvalid {α : Type} (found : Option α) : Result α :=
  Outcome.okOr (.invalidTransaction none) found

def addressField (networkId : UInt8) (stake : Credential) : Result CertField := do
  let value ← orInvalid (lib.rewardToBech32 ⟨networkId, stake⟩)
  pure ⟨labelAddress, value⟩

def poolField (pool : Block 28) : Result CertField := do
  let value ← orInvalid (lib.hashToBech32 "pool" pool)
  pure ⟨labelPool, value⟩

def depositField (coin : UInt64) : CertField := ⟨labelDeposit, normalizeCoin coin⟩

def drepField : DRep → Result CertField
  | .alwaysAbstain => pure ⟨labelVote, "Abstain".toList⟩
  | .alwaysNoConfidence => pure ⟨labelVote, "No Confidence".toList⟩
  | .keyHash hash => do
    let value ← orInvalid (lib.hashToBech32 "drep" hash)
    pure ⟨labelDrep, value⟩
  | .scriptHash hash => do
    let value ← orInvalid (lib.hashToBech32 "" hash)
    pure ⟨labelDrep, value⟩

def votingField : Credential → Result CertField
  | .keyHash hash => drepField lib (.keyHash hash)
  | .scriptHash hash => drepField lib (.scriptHash hash)

def committeeField (label : String) : Credential → CertField
  | .keyHash hash => ⟨label, hexText hash.bytes⟩
  | .scriptHash hash => ⟨label, hexText hash.bytes⟩

def anchorFields (anchor : Option Anchor) : List CertField :=
  [⟨labelAnchorUrl, (anchor.map Anchor.url).getD "None".toList⟩,
    ⟨labelAnchorDataHash, (anchor.map fun a => hexText a.anchorDataHash.bytes).getD "None".toList⟩]

def Certificate.parse (networkId : UInt8) : Certificate → Result CardanoCertificate
  | .stakeDelegation stake pool => do
    let address ← addressField lib networkId stake
    let pool ← poolField lib pool
    pure ⟨"Stake Pool Delegation", [address, pool]⟩
  | .stakeDeregistration stake coin => do
    let address ← addressField lib networkId stake
    pure ⟨"Stake Deregistration", address :: (coin.map (depositField normalizeCoin)).toList⟩
  | .stakeRegistration stake coin => do
    let address ← addressField lib networkId stake
    pure ⟨"Account Registration", address :: (coin.map (depositField normalizeCoin)).toList⟩
  | .voteDelegation stake drep => do
    let vote ← drepField lib drep
    let address ← addressField lib networkId stake
    pure ⟨"DRep Delegation", [address, vote]⟩
  | .poolRegistration rewardAccount => do
    let value ← orInvalid (lib.rewardToBech32 rewardAccount)
    pure ⟨"Pool Registration", [⟨labelAddress, value⟩]⟩
  | .poolRetirement pool => do
    let pool ← poolField lib pool
    pure ⟨"Pool Retirement", [pool]⟩
  | .genesisKeyDelegation => pure ⟨"Genesis Key Delegation", [⟨labelAddress, "None".toList⟩]⟩
  | .moveInstantaneousRewards =>
    pure ⟨"Move Instantaneous Rewards Cert", [⟨labelAddress, "None".toList⟩]⟩
  | .committeeHotAuth hot cold =>
    pure ⟨"Committee Hot Auth", [committeeField labelHotKey hot, committeeField labelColdKey cold]⟩
  | .committeeColdResign cold anchor =>
    pure ⟨"Committee Cold Resign", committeeField labelColdKey cold
      :: (if anchor.isSome then anchorFields anchor else [])⟩
  | .drepDeregistration voting coin => do
    let drep ← votingField lib voting
    pure ⟨"Drep Deregistration", [drep, depositField normalizeCoin coin]⟩
  | .drepRegistration voting coin anchor => do
    let drep ← votingField lib voting
    pure ⟨"Drep Registration", drep :: depositField normalizeCoin coin :: anchorFields anchor⟩
  | .drepUpdate voting anchor => do
    let drep ← votingField lib voting
    pure ⟨"Drep Update", drep :: anchorFields anchor⟩
  | .stakeAndVoteDelegation stake pool drep => do
    let vote ← drepField lib drep
    let address ← addressField lib networkId stake
    let pool ← poolField lib pool
    pure ⟨"Stake And Vote Delegation", [address, pool, vote]⟩
  | .stakeRegistrationAndDelegation stake pool coin => do
    let address ← addressField lib networkId stake
    let pool ← poolField lib pool
    pure ⟨"Stake Registration & Delegation", [address, pool, depositField normalizeCoin coin]⟩
  | .stakeVoteRegistrationAndDelegation stake pool drep coin => do
    let vote ← drepField lib drep
    let address ← addressField lib networkId stake
    let pool ← poolField lib pool
    pure ⟨"Stake Vote Registration & Delegation",
      [address, pool, vote, depositField normalizeCoin coin]⟩
  | .voteRegistrationAndDelegation stake drep coin => do
    let vote ← drepField lib drep
    let address ← addressField lib networkId stake
    pure ⟨"Vote Registration And Delegation", [address, vote, depositField normalizeCoin coin]⟩

def parseCertificates (networkId : UInt8) (certs : Option (List Certificate)) :
    Result (List CardanoCertificate) :=
  Outcome.collect (Certificate.parse lib normalizeCoin networkId) (certs.getD [])

end

end Keystone3.Cardano
