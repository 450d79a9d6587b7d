import SetProtocol.Core.Encoding
import SetProtocol.Modules.GovernanceModule

set_option relaxedAutoImplicit false
set_option autoImplicit false

/-!
# Governance adapters

The adapters of `contracts/protocol/integration` that give the governance module its calldata. Those
of Compound and of the second version of Aave take a proposal as encoded data, which they decode and
encode again. The adapter of the first version of Aave takes the asset to vote with in that way.

## Main definitions

* `SetProtocol.CompoundLikeGovernanceAdapter`, `SetProtocol.CompoundBravoGovernanceAdapter`,
  `SetProtocol.AaveGovernanceAdapter`, `SetProtocol.AaveGovernanceV2Adapter`,
  `SetProtocol.SnapshotGovernanceAdapter`.
* `SetProtocol.GovernanceAdapter` — one of the five.
* `SetProtocol.GovernanceAdapter.deployed` — the adapters at their addresses.

## Implementation notes

A contract reverts when a function is called that it does not have. Strings are sequences of bytes.
-/

namespace SetProtocol

open Checked

/-- The type `bool` of the ABI. -/
def boolCodec : Abi.Codec Bool := Abi.bool

/-- The type `bytes32` of the ABI. -/
def bytes32Codec : Abi.Codec (BitVec 256) := Abi.bitVec 256

/-- The type `uint8` of the ABI. -/
def uint8Codec : Abi.Codec ℕ := Abi.uint 8

/-- The types `bytes` and `string` of the ABI. -/
def bytesCodec : Abi.Codec Bytes := Abi.bytes

/-- One address. -/
def delegateLayout : Abi.Layout (Address × Unit) := .cons addressCodec .nil

/-! ## Compound -/

/-- A proposal of Compound: the targets, values, signatures and calldatas, and a description. -/
abbrev CompoundProposal : Type :=
  List Address × List ℕ × List Bytes × List Bytes × Bytes × Unit

/-- The arguments of `propose`. -/
def compoundProposalLayout : Abi.Layout CompoundProposal :=
  .cons (Abi.array addressCodec) <| .cons (Abi.array uint256Codec) <|
    .cons (Abi.array bytesCodec) <| .cons (Abi.array bytesCodec) <| .cons bytesCodec .nil

/-- `getProposeCalldata` of the adapters of Compound, to a governor. -/
def compoundProposeCalldata (keccak256 : String → ℕ) (governor : Address) (proposalData : Bytes) :
    Except Revert (Address × ℕ × CallData) := do
  let proposal ← abiDecode compoundProposalLayout proposalData
  return (governor, 0, .bytes (encodeWithSignature keccak256
    "propose(address[],uint256[],string[],bytes[],string)" compoundProposalLayout proposal))

/-- `getDelegateCalldata` of the adapters of Compound, to a token. -/
def compoundDelegateCalldata (keccak256 : String → ℕ) (governanceToken delegatee : Address) :
    Address × ℕ × CallData :=
  (governanceToken, 0,
    .bytes (encodeWithSignature keccak256 "delegate(address)" delegateLayout (delegatee, ())))

/-- A `CompoundLikeGovernanceAdapter`. -/
structure CompoundLikeGovernanceAdapter where
  /-- The governor, of the version Alpha. -/
  governorAlpha : Address
  /-- The token of which votes are delegated. -/
  governanceToken : Address

namespace CompoundLikeGovernanceAdapter

variable (adapter : CompoundLikeGovernanceAdapter) (keccak256 : String → ℕ)

/-- The arguments of `castVote`. -/
def voteLayout : Abi.Layout (ℕ × Bool × Unit) := .cons uint256Codec (.cons boolCodec .nil)

/-- `getVoteCalldata`. -/
def getVoteCalldata (proposalId : ℕ) (support : Bool) (_data : Bytes) :
    Except Revert (Address × ℕ × CallData) :=
  .ok (adapter.governorAlpha, 0, .bytes (encodeWithSignature keccak256 "castVote(uint256,bool)"
    voteLayout (proposalId, support, ())))

/-- `getDelegateCalldata`. -/
def getDelegateCalldata (delegatee : Address) : Except Revert (Address × ℕ × CallData) :=
  .ok (compoundDelegateCalldata keccak256 adapter.governanceToken delegatee)

/-- `getRegisterCalldata`. -/
def getRegisterCalldata (setToken : Address) : Except Revert (Address × ℕ × CallData) :=
  .ok (compoundDelegateCalldata keccak256 adapter.governanceToken setToken)

/-- `getRevokeCalldata`. -/
def getRevokeCalldata : Except Revert (Address × ℕ × CallData) :=
  .ok (compoundDelegateCalldata keccak256 adapter.governanceToken zeroAddress)

/-- `getProposeCalldata`. -/
def getProposeCalldata (proposalData : Bytes) : Except Revert (Address × ℕ × CallData) :=
  compoundProposeCalldata keccak256 adapter.governorAlpha proposalData

end CompoundLikeGovernanceAdapter

/-- A `CompoundBravoGovernanceAdapter`. -/
structure CompoundBravoGovernanceAdapter where
  /-- The governor, of the version Bravo. -/
  governorBravo : Address
  /-- The token of which votes are delegated. -/
  governanceToken : Address

namespace CompoundBravoGovernanceAdapter

variable (adapter : CompoundBravoGovernanceAdapter) (keccak256 : String → ℕ)

/-- The arguments of `castVote`. -/
def voteLayout : Abi.Layout (ℕ × ℕ × Unit) := .cons uint256Codec (.cons uint8Codec .nil)

/-- `getVoteCalldata`. -/
def getVoteCalldata (proposalId : ℕ) (support : Bool) (_data : Bytes) :
    Except Revert (Address × ℕ × CallData) :=
  let supportNumber := if support then 1 else 0
  .ok (adapter.governorBravo, 0, .bytes (encodeWithSignature keccak256 "castVote(uint256,uint8)"
    voteLayout (proposalId, supportNumber, ())))

/-- `getDelegateCalldata`. -/
def getDelegateCalldata (delegatee : Address) : Except Revert (Address × ℕ × CallData) :=
  .ok (compoundDelegateCalldata keccak256 adapter.governanceToken delegatee)

/-- `getRegisterCalldata`. -/
def getRegisterCalldata (setToken : Address) : Except Revert (Address × ℕ × CallData) :=
  .ok (compoundDelegateCalldata keccak256 adapter.governanceToken setToken)

/-- `getRevokeCalldata`. -/
def getRevokeCalldata : Except Revert (Address × ℕ × CallData) :=
  .ok (compoundDelegateCalldata keccak256 adapter.governanceToken zeroAddress)

/-- `getProposeCalldata`. -/
def getProposeCalldata (proposalData : Bytes) : Except Revert (Address × ℕ × CallData) :=
  compoundProposeCalldata keccak256 adapter.governorBravo proposalData

end CompoundBravoGovernanceAdapter

/-! ## Aave -/

/-- An `AaveGovernanceAdapter`. -/
structure AaveGovernanceAdapter where
  /-- The governance contract. -/
  aaveProtoGovernance : Address
  /-- The token with which the Set votes, unless the data have another one. -/
  aaveToken : Address

namespace AaveGovernanceAdapter

variable (adapter : AaveGovernanceAdapter) (keccak256 : String → ℕ)

/-- `VOTE_FOR`. -/
def voteFor : ℕ := 1

/-- `VOTE_AGAINST`. -/
def voteAgainst : ℕ := 2

/-- The arguments of `submitVoteByVoter`. -/
def voteLayout : Abi.Layout (ℕ × ℕ × Address × Unit) :=
  .cons uint256Codec (.cons uint256Codec (.cons addressCodec .nil))

/-- `getVoteCalldata`. -/
def getVoteCalldata (proposalId : ℕ) (support : Bool) (data : Bytes) :
    Except Revert (Address × ℕ × CallData) := do
  let voteValue := if support then voteFor else voteAgainst
  let (asset, _) ← (if data.length = 0 then .ok (adapter.aaveToken, ())
    else abiDecode delegateLayout data)
  return (adapter.aaveProtoGovernance, 0, .bytes (encodeWithSignature keccak256
    "submitVoteByVoter(uint256,uint256,address)" voteLayout (proposalId, voteValue, asset, ())))

/-- `getDelegateCalldata`. -/
def getDelegateCalldata (_delegatee : Address) : Except Revert (Address × ℕ × CallData) :=
  .error "No delegation available in AAVE governance"

/-- `getRegisterCalldata`. -/
def getRegisterCalldata (_setToken : Address) : Except Revert (Address × ℕ × CallData) :=
  .error "No register available in AAVE governance"

/-- `getRevokeCalldata`. -/
def getRevokeCalldata : Except Revert (Address × ℕ × CallData) :=
  .error "No revoke available in AAVE governance"

/-- `getProposeCalldata`. -/
def getProposeCalldata (_proposalData : Bytes) : Except Revert (Address × ℕ × CallData) :=
  .error "Creation of new proposal only available to AAVE genesis team"

end AaveGovernanceAdapter

/-- An `AaveGovernanceV2Adapter`. -/
structure AaveGovernanceV2Adapter where
  /-- The governance contract. -/
  aaveGovernanceV2 : Address
  /-- The token of which votes are delegated. -/
  aaveToken : Address

namespace AaveGovernanceV2Adapter

variable (adapter : AaveGovernanceV2Adapter) (keccak256 : String → ℕ)

/-- A proposal of Aave: the executor, the targets, values, signatures and calldatas, which of them
are delegated calls, and the hash of a description. -/
abbrev Proposal : Type :=
  Address × List Address × List ℕ × List Bytes × List Bytes × List Bool × BitVec 256 × Unit

/-- The arguments of `create`. -/
def proposalLayout : Abi.Layout Proposal :=
  .cons addressCodec <| .cons (Abi.array addressCodec) <| .cons (Abi.array uint256Codec) <|
    .cons (Abi.array bytesCodec) <| .cons (Abi.array bytesCodec) <|
      .cons (Abi.array boolCodec) <| .cons bytes32Codec .nil

/-- The arguments of `submitVote`. -/
def voteLayout : Abi.Layout (ℕ × Bool × Unit) := .cons uint256Codec (.cons boolCodec .nil)

/-- `getVoteCalldata`. -/
def getVoteCalldata (proposalId : ℕ) (support : Bool) (_data : Bytes) :
    Except Revert (Address × ℕ × CallData) :=
  .ok (adapter.aaveGovernanceV2, 0, .bytes (encodeWithSignature keccak256
    "submitVote(uint256,bool)" voteLayout (proposalId, support, ())))

/-- `getDelegateCalldata`. -/
def getDelegateCalldata (delegatee : Address) : Except Revert (Address × ℕ × CallData) :=
  .ok (adapter.aaveToken, 0,
    .bytes (encodeWithSignature keccak256 "delegate(address)" delegateLayout (delegatee, ())))

/-- `getProposeCalldata`. -/
def getProposeCalldata (proposalData : Bytes) : Except Revert (Address × ℕ × CallData) := do
  let proposal ← abiDecode proposalLayout proposalData
  return (adapter.aaveGovernanceV2, 0, .bytes (encodeWithSignature keccak256
    "create(address,address[],uint256[],string[],bytes[],bool[],bytes32)" proposalLayout
    proposal))

/-- `getRegisterCalldata`. -/
def getRegisterCalldata (_setToken : Address) : Except Revert (Address × ℕ × CallData) :=
  .error "No register available in AAVE governance"

/-- `getRevokeCalldata`. -/
def getRevokeCalldata : Except Revert (Address × ℕ × CallData) :=
  .error "No revoke available in AAVE governance"

end AaveGovernanceV2Adapter

/-! ## Snapshot -/

/-- A `SnapshotGovernanceAdapter`. -/
structure SnapshotGovernanceAdapter where
  /-- The registry of delegates. -/
  delegateRegistry : Address

namespace SnapshotGovernanceAdapter

variable (adapter : SnapshotGovernanceAdapter) (keccak256 : String → ℕ)

/-- `ZERO_BYTES32`, which stands for all spaces. -/
def zeroBytes32 : BitVec 256 := 0

/-- The arguments of `setDelegate`. -/
def setDelegateLayout : Abi.Layout (BitVec 256 × Address × Unit) :=
  .cons bytes32Codec (.cons addressCodec .nil)

/-- The arguments of `clearDelegate`. -/
def clearDelegateLayout : Abi.Layout (BitVec 256 × Unit) := .cons bytes32Codec .nil

/-- `getDelegateCalldata`. -/
def getDelegateCalldata (delegatee : Address) : Except Revert (Address × ℕ × CallData) :=
  .ok (adapter.delegateRegistry, 0, .bytes (encodeWithSignature keccak256
    "setDelegate(bytes32,address)" setDelegateLayout (zeroBytes32, delegatee, ())))

/-- `getRevokeCalldata`. -/
def getRevokeCalldata : Except Revert (Address × ℕ × CallData) :=
  .ok (adapter.delegateRegistry, 0, .bytes (encodeWithSignature keccak256
    "clearDelegate(bytes32)" clearDelegateLayout (zeroBytes32, ())))

end SnapshotGovernanceAdapter

/-! ## Deployed adapters -/

/-- An adapter of one of the kinds. -/
inductive GovernanceAdapter
  | compoundLike (adapter : CompoundLikeGovernanceAdapter)
  | compoundBravo (adapter : CompoundBravoGovernanceAdapter)
  | aave (adapter : AaveGovernanceAdapter)
  | aaveV2 (adapter : AaveGovernanceV2Adapter)
  | snapshot (adapter : SnapshotGovernanceAdapter)

/-- The adapters at their addresses. -/
def GovernanceAdapter.deployed (keccak256 : String → ℕ) (code : Address → GovernanceAdapter) :
    GovernanceAdapters where
  getDelegateCalldata adapter delegatee _ :=
    match code adapter with
    | .compoundLike a => a.getDelegateCalldata keccak256 delegatee
    | .compoundBravo a => a.getDelegateCalldata keccak256 delegatee
    | .aave _ => AaveGovernanceAdapter.getDelegateCalldata delegatee
    | .aaveV2 a => a.getDelegateCalldata keccak256 delegatee
    | .snapshot a => a.getDelegateCalldata keccak256 delegatee
  getProposeCalldata adapter proposalData _ :=
    match code adapter with
    | .compoundLike a => a.getProposeCalldata keccak256 proposalData
    | .compoundBravo a => a.getProposeCalldata keccak256 proposalData
    | .aave _ => AaveGovernanceAdapter.getProposeCalldata proposalData
    | .aaveV2 a => a.getProposeCalldata keccak256 proposalData
    | .snapshot _ => .error ""
  getRegisterCalldata adapter setToken _ :=
    match code adapter with
    | .compoundLike a => a.getRegisterCalldata keccak256 setToken
    | .compoundBravo a => a.getRegisterCalldata keccak256 setToken
    | .aave _ => AaveGovernanceAdapter.getRegisterCalldata setToken
    | .aaveV2 _ => AaveGovernanceV2Adapter.getRegisterCalldata setToken
    | .snapshot _ => .error ""
  getRevokeCalldata adapter _ :=
    match code adapter with
    | .compoundLike a => a.getRevokeCalldata keccak256
    | .compoundBravo a => a.getRevokeCalldata keccak256
    | .aave _ => AaveGovernanceAdapter.getRevokeCalldata
    | .aaveV2 _ => AaveGovernanceV2Adapter.getRevokeCalldata
    | .snapshot a => a.getRevokeCalldata keccak256
  getVoteCalldata adapter proposalId support data _ :=
    match code adapter with
    | .compoundLike a => a.getVoteCalldata keccak256 proposalId support data
    | .compoundBravo a => a.getVoteCalldata keccak256 proposalId support data
    | .aave a => a.getVoteCalldata keccak256 proposalId support data
    | .aaveV2 a => a.getVoteCalldata keccak256 proposalId support data
    | .snapshot _ => .error ""

end SetProtocol
