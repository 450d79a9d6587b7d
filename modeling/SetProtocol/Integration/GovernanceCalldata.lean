import SetProtocol.Integration.GovernanceAdapters

set_option relaxedAutoImplicit false
set_option autoImplicit false

/-!
# What governance contracts are told

The manager of a Set asks the governance module to vote, to propose or to delegate. The module takes
calldata from an adapter and has the Set make the call. The contract that is called has its own
functions, which differ between protocols: a side of a vote is a truth value here, and a number there.
What it reads from the calldata is what the manager asked for.

## Main definitions

* `SetProtocol.GovernanceCalldata.Request` — what the manager asks for.
* `SetProtocol.GovernanceCalldata.Instruction` — what a governance contract is told.
* `SetProtocol.GovernanceCalldata.asked` — what a request means for the protocol of an adapter.
* `SetProtocol.GovernanceCalldata.Reads` — what a contract of that protocol reads.

## Main results

* `SetProtocol.GovernanceCalldata.reads_of_calldata` — the calldata of an adapter say what was asked.
* `SetProtocol.GovernanceCalldata.instructed_of_run` — a request makes the Set tell the contract what
  the manager asked for.
-/

namespace SetProtocol

open Checked

namespace GovernanceCalldata

/-- What the manager of a Set asks for. -/
inductive Request
  | delegate (delegatee : Address)
  | propose (proposalData : Bytes)
  | register
  | revoke
  | vote (proposalId : ℕ) (support : Bool) (data : Bytes)

/-- The function of the governance module. -/
def Request.run (self : Address) (env : Env) (adapters : GovernanceAdapters) (w : World)
    (msgSender setToken : Address) (governanceName : String) : Request → Except Revert World
  | .delegate delegatee =>
    GovernanceModule.delegate self env adapters w msgSender setToken governanceName delegatee
  | .propose proposalData =>
    GovernanceModule.propose self env adapters w msgSender setToken governanceName proposalData
  | .register => GovernanceModule.register self env adapters w msgSender setToken governanceName
  | .revoke => GovernanceModule.revoke self env adapters w msgSender setToken governanceName
  | .vote proposalId support data =>
    GovernanceModule.vote self env adapters w msgSender setToken governanceName proposalId support
      data

/-- The function of the adapter. -/
def Request.calldata (adapters : GovernanceAdapters) (setToken adapter : Address) (w : World) :
    Request → Except Revert (Address × ℕ × CallData)
  | .delegate delegatee => adapters.getDelegateCalldata adapter delegatee w
  | .propose proposalData => adapters.getProposeCalldata adapter proposalData w
  | .register => adapters.getRegisterCalldata adapter setToken w
  | .revoke => adapters.getRevokeCalldata adapter w
  | .vote proposalId support data => adapters.getVoteCalldata adapter proposalId support data w

/-- What a governance contract is told. -/
inductive Instruction
  | vote (proposalId : ℕ) (support : Bool)
  | voteWith (proposalId : ℕ) (support : Bool) (asset : Address)
  | delegate (delegatee : Address)
  | clearDelegate
  | compoundPropose (proposal : CompoundProposal)
  | aavePropose (proposal : AaveGovernanceV2Adapter.Proposal)

/-- The arguments can be encoded. -/
def Instruction.Fits : Instruction → Prop
  | .vote proposalId _ => InUint256 proposalId
  | .voteWith proposalId _ _ => InUint256 proposalId
  | .compoundPropose proposal => (Abi.tuple compoundProposalLayout).Valid proposal
  | .aavePropose proposal => (Abi.tuple AaveGovernanceV2Adapter.proposalLayout).Valid proposal
  | _ => True

/-- What a request means for a protocol like Compound: registering is delegating to oneself, and
revoking is delegating to nobody. -/
def askedOfCompound (setToken : Address) : Request → Option Instruction
  | .delegate delegatee => some (.delegate delegatee)
  | .propose proposalData =>
    ((Abi.tuple compoundProposalLayout).decode proposalData).map .compoundPropose
  | .register => some (.delegate setToken)
  | .revoke => some (.delegate zeroAddress)
  | .vote proposalId support _ => some (.vote proposalId support)

/-- What a request means for the protocol of an adapter, where it has a meaning. -/
def asked (setToken : Address) : GovernanceAdapter → Request → Option Instruction
  | .compoundLike _, request => askedOfCompound setToken request
  | .compoundBravo _, request => askedOfCompound setToken request
  | .aave a, .vote proposalId support data =>
    if data = [] then some (.voteWith proposalId support a.aaveToken)
    else ((Abi.tuple delegateLayout).decode data).map fun (asset, _) =>
      .voteWith proposalId support asset
  | .aaveV2 _, .delegate delegatee => some (.delegate delegatee)
  | .aaveV2 _, .propose proposalData =>
    ((Abi.tuple AaveGovernanceV2Adapter.proposalLayout).decode proposalData).map .aavePropose
  | .aaveV2 _, .vote proposalId support _ => some (.vote proposalId support)
  | .snapshot _, .delegate delegatee => some (.delegate delegatee)
  | .snapshot _, .revoke => some .clearDelegate
  | _, _ => none

/-- A contract of the protocol reads the instruction from the data of a call. -/
def Reads (keccak256 : String → ℕ) (target : Address) (data : Bytes) :
    GovernanceAdapter → Instruction → Prop
  | .compoundLike a, .vote proposalId support =>
    target = a.governorAlpha ∧ decodeCall keccak256 "castVote(uint256,bool)"
      CompoundLikeGovernanceAdapter.voteLayout data = some (proposalId, support, ())
  | .compoundLike a, .delegate delegatee =>
    target = a.governanceToken ∧
      decodeCall keccak256 "delegate(address)" delegateLayout data = some (delegatee, ())
  | .compoundLike a, .compoundPropose proposal =>
    target = a.governorAlpha ∧ decodeCall keccak256
      "propose(address[],uint256[],string[],bytes[],string)" compoundProposalLayout data =
        some proposal
  | .compoundBravo a, .vote proposalId support =>
    target = a.governorBravo ∧ decodeCall keccak256 "castVote(uint256,uint8)"
      CompoundBravoGovernanceAdapter.voteLayout data =
        some (proposalId, if support then 1 else 0, ())
  | .compoundBravo a, .delegate delegatee =>
    target = a.governanceToken ∧
      decodeCall keccak256 "delegate(address)" delegateLayout data = some (delegatee, ())
  | .compoundBravo a, .compoundPropose proposal =>
    target = a.governorBravo ∧ decodeCall keccak256
      "propose(address[],uint256[],string[],bytes[],string)" compoundProposalLayout data =
        some proposal
  | .aave a, .voteWith proposalId support asset =>
    target = a.aaveProtoGovernance ∧ decodeCall keccak256
      "submitVoteByVoter(uint256,uint256,address)" AaveGovernanceAdapter.voteLayout data =
        some (proposalId, if support then 1 else 2, asset, ())
  | .aaveV2 a, .vote proposalId support =>
    target = a.aaveGovernanceV2 ∧ decodeCall keccak256 "submitVote(uint256,bool)"
      AaveGovernanceV2Adapter.voteLayout data = some (proposalId, support, ())
  | .aaveV2 a, .delegate delegatee =>
    target = a.aaveToken ∧
      decodeCall keccak256 "delegate(address)" delegateLayout data = some (delegatee, ())
  | .aaveV2 a, .aavePropose proposal =>
    target = a.aaveGovernanceV2 ∧ decodeCall keccak256
      "create(address,address[],uint256[],string[],bytes[],bool[],bytes32)"
      AaveGovernanceV2Adapter.proposalLayout data = some proposal
  | .snapshot a, .delegate delegatee =>
    target = a.delegateRegistry ∧ decodeCall keccak256 "setDelegate(bytes32,address)"
      SnapshotGovernanceAdapter.setDelegateLayout data = some (0, delegatee, ())
  | .snapshot a, .clearDelegate =>
    target = a.delegateRegistry ∧ decodeCall keccak256 "clearDelegate(bytes32)"
      SnapshotGovernanceAdapter.clearDelegateLayout data = some (0, ())
  | _, _ => False

/-- The call tells the contract of the protocol what was asked for, and sends no Ether. -/
def Tells (keccak256 : String → ℕ) (setToken : Address) (kind : GovernanceAdapter)
    (request : Request) (r : Address × ℕ × CallData) : Prop :=
  ∃ instruction data, asked setToken kind request = some instruction ∧ r.2 = (0, .bytes data) ∧
    (instruction.Fits → Reads keccak256 r.1 data kind instruction)

variable {keccak256 : String → ℕ} {code : Address → GovernanceAdapter} {w w' : World}
  {setToken adapter : Address} {request : Request} {r : Address × ℕ × CallData}

/-- An account to delegate to is read back. -/
theorem decodeCall_delegate (keccak256 : String → ℕ) (delegatee : Address) :
    decodeCall keccak256 "delegate(address)" delegateLayout
      (encodeWithSignature keccak256 "delegate(address)" delegateLayout (delegatee, ())) =
        some (delegatee, ()) :=
  decodeCall_encodeWithSignature ⟨valid_address _, trivial⟩

/-- A proposal that was decoded is encoded again. -/
theorem compoundProposeCalldata_eq_ok {governor : Address} {proposalData : Bytes}
    (h : compoundProposeCalldata keccak256 governor proposalData = .ok r) :
    ∃ proposal, (Abi.tuple compoundProposalLayout).decode proposalData = some proposal ∧
      r = (governor, 0, .bytes (encodeWithSignature keccak256
        "propose(address[],uint256[],string[],bytes[],string)" compoundProposalLayout
        proposal)) := by
  simp only [compoundProposeCalldata, bind_eq_ok, abiDecode_eq_ok, pure_eq_ok] at h
  obtain ⟨proposal, hdecode, rfl⟩ := h
  exact ⟨proposal, hdecode, rfl⟩

section Adapters

variable (h : request.calldata (GovernanceAdapter.deployed keccak256 code) setToken adapter w =
  .ok r)
include h

/-- The adapter for Compound's governor Alpha tells it. -/
theorem tells_of_compoundLike {a : CompoundLikeGovernanceAdapter}
    (hcode : code adapter = .compoundLike a) :
    Tells keccak256 setToken (.compoundLike a) request r := by
  simp only [Request.calldata, GovernanceAdapter.deployed, hcode] at h
  cases request with
  | delegate delegatee =>
    obtain rfl := Except.ok.inj h
    exact ⟨_, _, rfl, rfl, fun _ => ⟨rfl, decodeCall_delegate _ _⟩⟩
  | propose proposalData =>
    obtain ⟨proposal, hdecode, rfl⟩ := compoundProposeCalldata_eq_ok h
    refine ⟨.compoundPropose proposal, _, ?_, rfl, fun hfits => ⟨rfl, ?_⟩⟩
    · simp only [asked, askedOfCompound, hdecode, Option.map_some]
    · exact decodeCall_encodeWithSignature hfits
  | register =>
    obtain rfl := Except.ok.inj h
    exact ⟨_, _, rfl, rfl, fun _ => ⟨rfl, decodeCall_delegate _ _⟩⟩
  | revoke =>
    obtain rfl := Except.ok.inj h
    exact ⟨_, _, rfl, rfl, fun _ => ⟨rfl, decodeCall_delegate _ _⟩⟩
  | vote proposalId support data =>
    obtain rfl := Except.ok.inj h
    refine ⟨_, _, rfl, rfl, fun hfits => ⟨rfl, ?_⟩⟩
    exact decodeCall_encodeWithSignature ⟨valid_uint256 hfits, trivial, trivial⟩

/-- So does the one for the governor Bravo, where a side of a vote is a number. -/
theorem tells_of_compoundBravo {a : CompoundBravoGovernanceAdapter}
    (hcode : code adapter = .compoundBravo a) :
    Tells keccak256 setToken (.compoundBravo a) request r := by
  simp only [Request.calldata, GovernanceAdapter.deployed, hcode] at h
  cases request with
  | delegate delegatee =>
    obtain rfl := Except.ok.inj h
    exact ⟨_, _, rfl, rfl, fun _ => ⟨rfl, decodeCall_delegate _ _⟩⟩
  | propose proposalData =>
    obtain ⟨proposal, hdecode, rfl⟩ := compoundProposeCalldata_eq_ok h
    refine ⟨.compoundPropose proposal, _, ?_, rfl, fun hfits => ⟨rfl, ?_⟩⟩
    · simp only [asked, askedOfCompound, hdecode, Option.map_some]
    · exact decodeCall_encodeWithSignature hfits
  | register =>
    obtain rfl := Except.ok.inj h
    exact ⟨_, _, rfl, rfl, fun _ => ⟨rfl, decodeCall_delegate _ _⟩⟩
  | revoke =>
    obtain rfl := Except.ok.inj h
    exact ⟨_, _, rfl, rfl, fun _ => ⟨rfl, decodeCall_delegate _ _⟩⟩
  | vote proposalId support data =>
    obtain rfl := Except.ok.inj h
    have hside : uint8Codec.Valid (if support then 1 else 0) := by
      cases support with
      | false => exact ⟨by decide, by decide⟩
      | true => exact ⟨by decide, by decide⟩
    refine ⟨_, _, rfl, rfl, fun hfits => ⟨rfl, ?_⟩⟩
    exact decodeCall_encodeWithSignature ⟨valid_uint256 hfits, hside, trivial⟩

/-- The adapter for Aave knows votes only, with the asset that the data have, or its own. -/
theorem tells_of_aave {a : AaveGovernanceAdapter} (hcode : code adapter = .aave a) :
    Tells keccak256 setToken (.aave a) request r := by
  simp only [Request.calldata, GovernanceAdapter.deployed, hcode] at h
  cases request with
  | vote proposalId support data =>
    have hside : uint256Codec.Valid (if support then 1 else 2) := by
      cases support with
      | false => exact valid_uint256 (by decide)
      | true => exact valid_uint256 (by decide)
    simp only [AaveGovernanceAdapter.getVoteCalldata, bind_eq_ok, pure_eq_ok, Prod.exists] at h
    obtain ⟨asset, _, hasset, rfl⟩ := h
    refine ⟨.voteWith proposalId support asset, _, ?_, rfl, fun hfits => ⟨rfl, ?_⟩⟩
    · split_ifs at hasset with hdata
      · obtain ⟨rfl, -⟩ := Prod.mk.inj (Except.ok.inj hasset)
        rw [List.length_eq_zero_iff] at hdata
        simp only [asked, if_pos hdata]
      · rw [abiDecode_eq_ok] at hasset
        rw [List.length_eq_zero_iff] at hdata
        simp only [asked, if_neg hdata, hasset, Option.map_some]
    · exact decodeCall_encodeWithSignature
        ⟨valid_uint256 hfits, hside, valid_address _, trivial⟩
  | delegate _ => cases h
  | propose _ => cases h
  | register => cases h
  | revoke => cases h

/-- The adapter for the second version of Aave knows votes, delegates and proposals. -/
theorem tells_of_aaveV2 {a : AaveGovernanceV2Adapter} (hcode : code adapter = .aaveV2 a) :
    Tells keccak256 setToken (.aaveV2 a) request r := by
  simp only [Request.calldata, GovernanceAdapter.deployed, hcode] at h
  cases request with
  | delegate delegatee =>
    obtain rfl := Except.ok.inj h
    exact ⟨_, _, rfl, rfl, fun _ => ⟨rfl, decodeCall_delegate _ _⟩⟩
  | propose proposalData =>
    simp only [AaveGovernanceV2Adapter.getProposeCalldata, bind_eq_ok, abiDecode_eq_ok,
      pure_eq_ok] at h
    obtain ⟨proposal, hdecode, rfl⟩ := h
    refine ⟨.aavePropose proposal, _, ?_, rfl, fun hfits => ⟨rfl, ?_⟩⟩
    · simp only [asked, hdecode, Option.map_some]
    · exact decodeCall_encodeWithSignature hfits
  | vote proposalId support data =>
    obtain rfl := Except.ok.inj h
    refine ⟨_, _, rfl, rfl, fun hfits => ⟨rfl, ?_⟩⟩
    exact decodeCall_encodeWithSignature ⟨valid_uint256 hfits, trivial, trivial⟩
  | register => cases h
  | revoke => cases h

/-- The adapter for Snapshot knows delegates only, for all spaces. -/
theorem tells_of_snapshot {a : SnapshotGovernanceAdapter} (hcode : code adapter = .snapshot a) :
    Tells keccak256 setToken (.snapshot a) request r := by
  have hspace : bytes32Codec.Valid 0 := by
    show 256 ≤ 256
    exact Nat.le_refl 256
  simp only [Request.calldata, GovernanceAdapter.deployed, hcode] at h
  cases request with
  | delegate delegatee =>
    obtain rfl := Except.ok.inj h
    refine ⟨_, _, rfl, rfl, fun _ => ⟨rfl, ?_⟩⟩
    exact decodeCall_encodeWithSignature ⟨hspace, valid_address _, trivial⟩
  | revoke =>
    obtain rfl := Except.ok.inj h
    refine ⟨_, _, rfl, rfl, fun _ => ⟨rfl, ?_⟩⟩
    exact decodeCall_encodeWithSignature ⟨hspace, trivial⟩
  | propose _ => cases h
  | register => cases h
  | vote _ _ _ => cases h

/-- What an adapter gives for a request tells the contract what was asked for. -/
theorem reads_of_calldata : Tells keccak256 setToken (code adapter) request r := by
  cases hcode : code adapter with
  | compoundLike a => exact tells_of_compoundLike h hcode
  | compoundBravo a => exact tells_of_compoundBravo h hcode
  | aave a => exact tells_of_aave h hcode
  | aaveV2 a => exact tells_of_aaveV2 h hcode
  | snapshot a => exact tells_of_snapshot h hcode

end Adapters

/-- A request is the one call that the adapter gives, which the manager of the Set asks for. -/
theorem run_eq_ok {self msgSender : Address} {env : Env} {adapters : GovernanceAdapters}
    {governanceName : String}
    (h : request.run self env adapters w msgSender setToken governanceName = .ok w') :
    msgSender = (w.setTokens setToken).manager ∧
      ∃ target value data words,
        request.calldata adapters setToken (w.integrations self (env.keccak256 governanceName)) w =
          .ok (target, value, data) ∧
        w.invoke env self setToken target value data = .ok (w', words) := by
  have hgovern : ∀ getCalldata : Address → World → Except Revert (Address × ℕ × CallData),
      GovernanceModule.governBy self env w msgSender setToken governanceName getCalldata = .ok w' →
      msgSender = (w.setTokens setToken).manager ∧ ∃ target value data words,
        getCalldata (w.integrations self (env.keccak256 governanceName)) w =
          .ok (target, value, data) ∧
        w.invoke env self setToken target value data = .ok (w', words) := by
    intro getCalldata h
    simp only [GovernanceModule.governBy, ModuleBase.getAndValidateAdapter,
      ModuleBase.getAndValidateAdapterWithHash, bind_eq_ok, pure_eq_ok] at h
    obtain ⟨_, hvalid, _, ⟨-, -, rfl⟩, ⟨target, value, data⟩, hdata, ⟨w₁, words⟩, hinvoke, rfl⟩ := h
    simp only [ModuleBase.onlyManagerAndValidSet, ModuleBase.onlySetManager, bind_eq_ok,
      require_eq_ok] at hvalid
    obtain ⟨-, hmanager, -⟩ := hvalid
    exact ⟨hmanager.symm, target, value, data, words, hdata, hinvoke⟩
  cases request with
  | delegate delegatee => exact hgovern _ h
  | propose proposalData => exact hgovern _ h
  | register => exact hgovern _ h
  | revoke => exact hgovern _ h
  | vote proposalId support data => exact hgovern _ h

/-- A request makes the Set call a governance contract once, without Ether. The contract is the one
of the protocol, and reads from the calldata what the manager asked for. A request without a meaning
for the protocol reverts. -/
theorem instructed_of_run {self msgSender : Address} {env : Env} {governanceName : String}
    (h : request.run self env (GovernanceAdapter.deployed env.keccak256 code) w msgSender setToken
      governanceName = .ok w') :
    msgSender = (w.setTokens setToken).manager ∧
      ∃ kind instruction target data words,
        kind = code (w.integrations self (env.keccak256 governanceName)) ∧
        asked setToken kind request = some instruction ∧
        w.invoke env self setToken target 0 (.bytes data) = .ok (w', words) ∧
        (instruction.Fits → Reads env.keccak256 target data kind instruction) := by
  obtain ⟨hmanager, target, value, callData, words, hcalldata, hinvoke⟩ := run_eq_ok h
  obtain ⟨instruction, data, hasked, hcall, hreads⟩ := reads_of_calldata hcalldata
  simp only [Prod.mk.injEq] at hcall
  obtain ⟨rfl, rfl⟩ := hcall
  exact ⟨hmanager, _, instruction, target, data, words, rfl, hasked, hinvoke, hreads⟩

/-- The Set `100`, with the manager `3`. -/
def exampleWorld : World where
  controller := { isSet := fun a => a = 100, isModule := fun a => a = 7 }
  integrations _ _ := 80
  setTokens _ := { manager := 3, moduleStates := fun _ => .initialized }

/-- A governor that takes votes for a proposal. -/
def exampleGovernor : Env where
  call call w :=
    match call.data with
    | .bytes data =>
      if decodeCall (fun _ => 0) "castVote(uint256,uint8)"
        CompoundBravoGovernanceAdapter.voteLayout data = some (5, 1, ()) then .ok (w, [])
      else .error ""
    | _ => .error ""

/-- A vote for a proposal arrives at the governor. -/
theorem instructed_of_run_example :
    ∃ w target data words,
      (Request.vote 5 true []).run 7 exampleGovernor
          (GovernanceAdapter.deployed exampleGovernor.keccak256
            fun _ => .compoundBravo ⟨90, 91⟩) exampleWorld 3 100 "" = .ok w ∧
        exampleWorld.invoke exampleGovernor 7 100 target 0 (.bytes data) = .ok (w, words) ∧
        Reads exampleGovernor.keccak256 target data (.compoundBravo ⟨90, 91⟩) (.vote 5 true) := by
  obtain ⟨w, hrun, -⟩ := exists_of_yields
    (x := (Request.vote 5 true []).run 7 exampleGovernor
      (GovernanceAdapter.deployed exampleGovernor.keccak256
        fun _ => .compoundBravo ⟨90, 91⟩) exampleWorld 3 100 "")
    (p := fun w => w.calls.length = 1) (by decide +kernel)
  obtain ⟨-, kind, instruction, target, data, words, rfl, hasked, hinvoke, hreads⟩ :=
    instructed_of_run hrun
  obtain rfl := Option.some.inj hasked
  refine ⟨w, target, data, words, hrun, hinvoke, hreads ?_⟩
  show InUint256 5
  decide

end GovernanceCalldata

end SetProtocol
