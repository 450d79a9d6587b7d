import SetProtocol.Core.ERC20
import SetProtocol.Core.SetToken

set_option relaxedAutoImplicit false
set_option autoImplicit false

/-!
# The state of the chain

The storage of all contracts, and the calls by which one contract changes another. There is one
contract of each kind of module; its address is a parameter of its functions. Contracts that are
not part of the protocol keep their data in a storage of plain words, and what their code does is
a parameter, `SetProtocol.Env`.

Every call of a SetToken to another contract is recorded in a log, in order, and so is every
`transferFrom` of a module.

## Main definitions

* `SetProtocol.World` — the state of the chain.
* `SetProtocol.Env` — the behaviour of the contracts outside the protocol.
* `SetProtocol.World.editSetToken`, `editToken` — a call to a SetToken and to a token.
* `SetProtocol.World.mint`, `burn`, `invoke` — the SetToken functions that touch its ledger or
  call other contracts.

## Main results

* `SetProtocol.World.execute_keeps`, `invoke_keeps` — the frame of a call by a SetToken.
-/

namespace SetProtocol

open Checked

/-! ## The storage of the modules -/

/-- `DebtIssuanceModule.IssuanceSettings`. -/
structure IssuanceSettings where
  /-- The bound on both fees. -/
  maxManagerFee : ℕ := 0
  /-- The issue fee in precise units. -/
  managerIssueFee : ℕ := 0
  /-- The redeem fee in precise units. -/
  managerRedeemFee : ℕ := 0
  /-- The recipient of the manager's fees. -/
  feeRecipient : Address := zeroAddress
  /-- The hook of the manager, or none. -/
  managerIssuanceHook : Address := zeroAddress
  /-- The modules whose hooks are called before issuance and redemption. -/
  moduleIssuanceHooks : List Address := []
  /-- Whether a module registered a hook. -/
  isModuleHook : Address → Bool := fun _ => false

/-- `StreamingFeeModule.FeeState`. -/
structure FeeState where
  /-- The recipient of the fee. -/
  feeRecipient : Address := zeroAddress
  /-- The bound on the fee. -/
  maxStreamingFeePercentage : ℕ := 0
  /-- The yearly fee in precise units. -/
  streamingFeePercentage : ℕ := 0
  /-- When the fee was last accrued. -/
  lastStreamingFeeTimestamp : ℕ := 0

/-- `StakingModule.StakingPosition`. -/
structure StakingPosition where
  /-- The hashed name of the adapter. -/
  adapterHash : ℕ := 0
  /-- The amount of tokens, per Set, that is staked. -/
  componentPositionUnits : ℕ := 0

/-- `StakingModule.ComponentPositions`. -/
structure ComponentPositions where
  /-- The staking contracts the component is staked on. -/
  stakingContracts : List Address := []
  /-- The position on each staking contract. -/
  positions : Address → StakingPosition := fun _ => {}

/-- `CompoundLeverageModule.EnabledAssets`. -/
structure EnabledAssets where
  /-- The enabled collateral markets. -/
  collateralCTokens : List Address := []
  /-- The enabled borrow markets. -/
  borrowCTokens : List Address := []
  /-- The underlying assets of the borrow markets. -/
  borrowAssets : List Address := []

/-- The storage of the `CompoundLeverageModule`. -/
structure CompoundLeverage where
  /-- The account that governs the module. -/
  owner : Address := zeroAddress
  /-- The market of each underlying asset. -/
  underlyingToCToken : Address → Address := fun _ => zeroAddress
  /-- Wrapped Ether. -/
  weth : Address := zeroAddress
  /-- The market for Ether. -/
  cEther : Address := zeroAddress
  /-- The Comptroller of Compound. -/
  comptroller : Address := zeroAddress
  /-- Whether a market is enabled as collateral, by Set. -/
  collateralCTokenEnabled : Address → Address → Bool := fun _ _ => false
  /-- Whether a market is enabled for borrowing, by Set. -/
  borrowCTokenEnabled : Address → Address → Bool := fun _ _ => false
  /-- The enabled markets, by Set. -/
  enabledAssets : Address → EnabledAssets := fun _ => {}
  /-- Whether a Set may initialize the module. -/
  allowedSetTokens : Address → Bool := fun _ => false
  /-- Whether any Set may initialize the module. -/
  anySetAllowed : Bool := false

/-- `NavIssuanceModule.NAVIssuanceSettings`. -/
structure NAVIssuanceSettings where
  /-- The hook called before issuance, or none. -/
  managerIssuanceHook : Address := zeroAddress
  /-- The hook called before redemption, or none. -/
  managerRedemptionHook : Address := zeroAddress
  /-- The assets that users may issue with and redeem into. -/
  reserveAssets : List Address := []
  /-- The recipient of the manager's fees. -/
  feeRecipient : Address := zeroAddress
  /-- The manager's fee on issuance and on redemption, in precise units. -/
  managerFees : ℕ × ℕ := (0, 0)
  /-- The bound on both fees. -/
  maxManagerFee : ℕ := 0
  /-- The premium in precise units. -/
  premiumPercentage : ℕ := 0
  /-- The bound on the premium. -/
  maxPremiumPercentage : ℕ := 0
  /-- The supply that issuance and redemption need. -/
  minSetTokenSupply : ℕ := 0

/-- `AirdropModule.AirdropSettings`. -/
structure AirdropSettings where
  /-- The tokens that may be absorbed. -/
  airdrops : List Address := []
  /-- The recipient of the manager's fee. -/
  feeRecipient : Address := zeroAddress
  /-- The fee on absorbed tokens in precise units. -/
  airdropFee : ℕ := 0
  /-- Whether anyone may absorb, or the manager only. -/
  anyoneAbsorb : Bool := false

/-- `SingleIndexModule.AssetTradeInfo`. -/
structure AssetTradeInfo where
  /-- The target unit of the current rebalance. -/
  targetUnit : ℕ := 0
  /-- The largest size of a trade. -/
  maxSize : ℕ := 0
  /-- The time that has to pass between trades. -/
  coolOffPeriod : ℕ := 0
  /-- When the component was last traded. -/
  lastTradeTimestamp : ℕ := 0
  /-- The number of the exchange to use. -/
  exchange : ℕ := 0

/-- The storage of the `SingleIndexModule`. -/
structure SingleIndex where
  /-- The restrictions on each component. -/
  assetInfo : Address → AssetTradeInfo := fun _ => {}
  /-- The components whose units the current rebalance changes. -/
  rebalanceComponents : List Address := []
  /-- The position multiplier for which the target units were devised. -/
  positionMultiplier : ℕ := 0
  /-- Whether an account may trade. -/
  tradeAllowList : Address → Bool := fun _ => false
  /-- Whether anyone may trade. -/
  anyoneTrade : Bool := false
  /-- The Set that is managed, or none. -/
  index : Address := zeroAddress
  /-- Wrapped Ether. -/
  weth : Address := zeroAddress
  /-- The router of Uniswap. -/
  uniswapRouter : Address := zeroAddress
  /-- The router of Sushiswap. -/
  sushiswapRouter : Address := zeroAddress
  /-- The proxy of Balancer. -/
  balancerProxy : Address := zeroAddress

/-! ## The world -/

/-- The data of a call that a SetToken makes: the encoding of a function with its arguments. -/
inductive CallData
  | approve (spender : Address) (amount : ℕ)
  | transfer (recipient : Address) (amount : ℕ)
  | transferFrom (sender recipient : Address) (amount : ℕ)
  | withdraw (amount : ℕ)
  | deposit
  | depositAmount (amount : ℕ)
  | enterMarkets (cTokens : List Address)
  | exitMarket (cToken : Address)
  | borrow (amount : ℕ)
  | repayBorrow (amount : ℕ)
  | repayBorrowEther
  | swap (functionSignature : String) (amount limit : ℕ) (path : List Address)
      (recipient : Address) (deadline : ℕ)
  | smartSwap (functionSignature : String) (sellComponent buyComponent : Address)
      (amount limit poolLimit : ℕ)
  | bytes (data : Bytes)
  deriving DecidableEq

/-- A call from one contract to another. -/
structure Call where
  /-- The calling contract. -/
  caller : Address
  /-- The called contract. -/
  target : Address
  /-- The Ether sent. -/
  value : ℕ
  /-- The function and its arguments. -/
  data : CallData
  deriving DecidableEq

/-- The state of the chain. -/
structure World where
  /-- The controller. -/
  controller : Controller := {}
  /-- The adapters of the integration registry, by module and hashed name. -/
  integrations : Address → ℕ → Address := fun _ _ => zeroAddress
  /-- The ledger of each token, SetTokens included. -/
  tokens : Address → ERC20 := fun _ => {}
  /-- The rest of the storage of each SetToken. -/
  setTokens : Address → SetToken := fun _ => {}
  /-- `BasicIssuanceModule.managerIssuanceHook`. -/
  basicIssuanceHook : Address → Address := fun _ => zeroAddress
  /-- `IssuanceModule.managerIssuanceHook`. -/
  issuanceHook : Address → Address := fun _ => zeroAddress
  /-- `DebtIssuanceModule.issuanceSettings`. -/
  issuanceSettings : Address → IssuanceSettings := fun _ => {}
  /-- `StreamingFeeModule.feeStates`. -/
  feeStates : Address → FeeState := fun _ => {}
  /-- `StakingModule.stakingPositions`, by Set and component. -/
  stakingPositions : Address → Address → ComponentPositions := fun _ _ => {}
  /-- The storage of the `CompoundLeverageModule`. -/
  compoundLeverage : CompoundLeverage := {}
  /-- `NavIssuanceModule.navIssuanceSettings`. -/
  navIssuanceSettings : Address → NAVIssuanceSettings := fun _ => {}
  /-- `NavIssuanceModule.isReserveAsset`. -/
  isReserveAsset : Address → Address → Bool := fun _ _ => false
  /-- `ClaimModule.anyoneClaim`. -/
  anyoneClaim : Address → Bool := fun _ => false
  /-- `ClaimModule.rewardPoolList`. -/
  rewardPoolList : Address → List Address := fun _ => []
  /-- `ClaimModule.claimSettings`, by Set and reward pool. -/
  claimSettings : Address → Address → List Address := fun _ _ => []
  /-- `AirdropModule.airdropSettings`. -/
  airdropSettings : Address → AirdropSettings := fun _ => {}
  /-- The storage of the `SingleIndexModule`. -/
  singleIndex : SingleIndex := {}
  /-- The storage of the contracts outside the protocol. -/
  storage : Address → ℕ → ℕ := fun _ _ => 0
  /-- The calls made so far. -/
  calls : List Call := []
  /-- `block.timestamp`. -/
  timestamp : ℕ := 0

/-- The behaviour of the contracts outside the protocol. A hook is called with its own address,
and a module's hook with the module that calls it. -/
structure Env where
  /-- The effect of a call, and the words it returns. -/
  call : Call → World → Except Revert (World × List ℕ) := fun _ w => .ok (w, [])
  /-- The hash of a name. -/
  keccak256 : String → ℕ := fun _ => 0
  /-- `IManagerIssuanceHook.invokePreIssueHook`. -/
  invokePreIssueHook (hook setToken : Address) (quantity : ℕ) (caller recipient : Address) :
    World → Except Revert World := fun w => .ok w
  /-- `IModuleIssuanceHook.moduleIssueHook`. -/
  moduleIssueHook (module caller setToken : Address) (quantity : ℕ) :
    World → Except Revert World := fun w => .ok w
  /-- `IModuleIssuanceHook.moduleRedeemHook`. -/
  moduleRedeemHook (module caller setToken : Address) (quantity : ℕ) :
    World → Except Revert World := fun w => .ok w
  /-- `IModuleIssuanceHook.componentIssueHook`. -/
  componentIssueHook (module caller setToken : Address) (quantity : ℕ) (component : Address)
    (isEquity : Bool) : World → Except Revert World := .ok
  /-- `IModuleIssuanceHook.componentRedeemHook`. -/
  componentRedeemHook (module caller setToken : Address) (quantity : ℕ) (component : Address)
    (isEquity : Bool) : World → Except Revert World := .ok
  /-- `IDebtIssuanceModule.registerToIssuanceModule`, which most contracts do not have. -/
  registerToIssuanceModule (module caller setToken : Address) : World → Except Revert World :=
    fun _ => .error ""
  /-- `IDebtIssuanceModule.unregisterFromIssuanceModule`. -/
  unregisterFromIssuanceModule (module caller setToken : Address) : World → Except Revert World :=
    fun _ => .error ""
  /-- `INAVIssuanceHook.invokePreIssueHook`. -/
  navPreIssueHook (hook setToken reserveAsset : Address) (quantity : ℕ)
    (caller recipient : Address) : World → Except Revert World := fun w => .ok w
  /-- `INAVIssuanceHook.invokePreRedeemHook`. -/
  navPreRedeemHook (hook setToken : Address) (quantity : ℕ) (caller recipient : Address) :
    World → Except Revert World := fun w => .ok w
  /-- `ISetValuer.calculateSetTokenValuation`. -/
  calculateSetTokenValuation (setToken quoteAsset : Address) : World → Except Revert ℕ :=
    fun _ => .ok 0
  /-- `IStakingAdapter.getSpenderAddress`. -/
  getSpenderAddress (adapter stakingContract : Address) : World → Except Revert Address :=
    fun _ => .ok stakingContract
  /-- `IStakingAdapter.getStakeCallData`. -/
  getStakeCallData (adapter stakingContract : Address) (notionalAmount : ℕ) :
    World → Except Revert (Address × ℕ × CallData) :=
    fun _ => .ok (stakingContract, 0, .depositAmount notionalAmount)
  /-- `IStakingAdapter.getUnstakeCallData`. -/
  getUnstakeCallData (adapter stakingContract : Address) (notionalAmount : ℕ) :
    World → Except Revert (Address × ℕ × CallData) :=
    fun _ => .ok (stakingContract, 0, .withdraw notionalAmount)
  /-- `IClaimAdapter.getRewards`. -/
  getRewards (adapter setToken rewardPool : Address) : World → Except Revert ℕ := fun _ => .ok 0
  /-- `IClaimAdapter.getClaimCallData`. -/
  getClaimCallData (adapter setToken rewardPool : Address) :
    World → Except Revert (Address × ℕ × CallData) := fun _ => .ok (rewardPool, 0, .bytes [])
  /-- `IExchangeAdapter.getSpender`. -/
  getSpender (adapter : Address) : World → Except Revert Address := fun _ => .ok adapter
  /-- `IExchangeAdapter.getTradeCalldata`. -/
  getTradeCalldata (adapter fromToken toToken toAddress : Address) (fromQuantity minToQuantity : ℕ)
    (data : Bytes) : World → Except Revert (Address × ℕ × CallData) :=
    fun _ => .ok (adapter, 0, .bytes data)
  /-- `IWrapAdapter.getSpenderAddress`. -/
  getWrapSpenderAddress (adapter underlyingToken wrappedToken : Address) :
    World → Except Revert Address := fun _ => .ok wrappedToken
  /-- `IWrapAdapter.ETH_TOKEN_ADDRESS`. -/
  ethTokenAddress (adapter : Address) : World → Except Revert Address := fun _ => .ok zeroAddress
  /-- `IWrapAdapter.getWrapCallData`. -/
  getWrapCallData (adapter underlyingToken wrappedToken : Address) (underlyingUnits : ℕ) :
    World → Except Revert (Address × ℕ × CallData) :=
    fun _ => .ok (wrappedToken, 0, .depositAmount underlyingUnits)
  /-- `IWrapAdapter.getUnwrapCallData`. -/
  getUnwrapCallData (adapter underlyingToken wrappedToken : Address) (wrappedTokenUnits : ℕ) :
    World → Except Revert (Address × ℕ × CallData) :=
    fun _ => .ok (wrappedToken, 0, .withdraw wrappedTokenUnits)
  /-- The Ether that an account holds. -/
  etherBalance (account : Address) : World → ℕ := fun _ => 0
  /-- `IAmmAdapter.isValidPool`. -/
  isValidPool (adapter pool : Address) : World → Except Revert Bool := fun _ => .ok true
  /-- `IAmmAdapter.getSpenderAddress`. -/
  getAmmSpenderAddress (adapter pool : Address) : World → Except Revert Address :=
    fun _ => .ok pool
  /-- `IAmmAdapter.getProvideLiquidityCalldata`. -/
  getProvideLiquidityCalldata (adapter pool : Address) (components : List Address)
    (maxTokensIn : List ℕ) (minLiquidity : ℕ) : World → Except Revert (Address × ℕ × CallData) :=
    fun _ => .ok (pool, 0, .bytes [])
  /-- `IAmmAdapter.getProvideLiquiditySingleAssetCalldata`. -/
  getProvideLiquiditySingleAssetCalldata (adapter pool component : Address)
    (maxTokenIn minLiquidity : ℕ) : World → Except Revert (Address × ℕ × CallData) :=
    fun _ => .ok (pool, 0, .bytes [])
  /-- `IAmmAdapter.getRemoveLiquidityCalldata`. -/
  getRemoveLiquidityCalldata (adapter pool : Address) (components : List Address)
    (minTokensOut : List ℕ) (liquidity : ℕ) : World → Except Revert (Address × ℕ × CallData) :=
    fun _ => .ok (pool, 0, .bytes [])
  /-- `IAmmAdapter.getRemoveLiquiditySingleAssetCalldata`. -/
  getRemoveLiquiditySingleAssetCalldata (adapter pool component : Address)
    (minTokenOut liquidity : ℕ) : World → Except Revert (Address × ℕ × CallData) :=
    fun _ => .ok (pool, 0, .bytes [])
  /-- `ICErc20.borrowBalanceCurrent`, which accrues interest. -/
  borrowBalanceCurrent (cToken account : Address) : World → Except Revert (World × ℕ) :=
    fun w => .ok (w, 0)
  /-- `ICErc20.borrowBalanceStored`. -/
  borrowBalanceStored (cToken account : Address) : World → Except Revert ℕ := fun _ => .ok 0

namespace World

variable {w w' : World} {sender setToken token : Address}

/-! ## Calls to a SetToken and to a token -/

/-- What a contract called by `sender` sees of the world. -/
def message (w : World) (sender : Address) : Message := ⟨w.controller, sender⟩

/-- The world with another storage of a SetToken. -/
def setSetToken (w : World) (setToken : Address) (s : SetToken) : World :=
  { w with setTokens := Function.update w.setTokens setToken s }

/-- The world with another ledger of a token. -/
def setTokenLedger (w : World) (token : Address) (t : ERC20) : World :=
  { w with tokens := Function.update w.tokens token t }

/-- The world with another word in the storage of a contract outside the protocol. -/
def store (w : World) (target : Address) (key word : ℕ) : World :=
  { w with
    storage := Function.update w.storage target (Function.update (w.storage target) key word) }

/-- Call a function of a SetToken. -/
def editSetToken (w : World) (sender setToken : Address)
    (f : Message → SetToken → Except Revert SetToken) : Except Revert World := do
  let s ← f (w.message sender) (w.setTokens setToken)
  return w.setSetToken setToken s

/-- Call a function of a token. -/
def editToken (w : World) (token : Address) (f : ERC20 → Except Revert ERC20) :
    Except Revert World := do
  let t ← f (w.tokens token)
  return w.setTokenLedger token t

/-- `SetToken.totalSupply`. -/
def totalSupply (w : World) (setToken : Address) : ℕ := (w.tokens setToken).totalSupply

/-- `SetToken.mint`. -/
def mint (w : World) (sender setToken account : Address) (quantity : ℕ) :
    Except Revert World := do
  SetToken.privileged (w.message sender) (w.setTokens setToken)
  w.editToken setToken fun t => t.mint account quantity

/-- `SetToken.burn`. -/
def burn (w : World) (sender setToken account : Address) (quantity : ℕ) :
    Except Revert World := do
  SetToken.privileged (w.message sender) (w.setTokens setToken)
  w.editToken setToken fun t => t.burn account quantity

/-- Record a call. -/
def log (w : World) (call : Call) : World := { w with calls := w.calls ++ [call] }

/-- The effect of a call by its data: a token is called through its interface, and everything
else is outside the protocol. -/
def execute (env : Env) (w : World) (call : Call) : Except Revert (World × List ℕ) :=
  match call.data with
  | .approve spender amount => do
    let w ← w.editToken call.target fun t => t.approve call.caller spender amount
    return (w, [1])
  | .transfer recipient amount => do
    let w ← w.editToken call.target fun t => t.transfer call.caller recipient amount
    return (w, [1])
  | .transferFrom sender recipient amount => do
    let w ← w.editToken call.target fun t => t.transferFrom call.caller sender recipient amount
    return (w, [1])
  | _ => env.call call w

/-- `try call {} catch {}`: a call that reverts changes nothing. -/
def attempt (w : World) (call : World → Except Revert World) : World :=
  match call w with
  | .ok w' => w'
  | .error _ => w

/-- `SetToken.invoke`. -/
def invoke (env : Env) (w : World) (sender setToken target : Address) (value : ℕ)
    (data : CallData) : Except Revert (World × List ℕ) := do
  SetToken.privileged (w.message sender) (w.setTokens setToken)
  let call : Call := ⟨setToken, target, value, data⟩
  execute env (w.log call) call

/-! ## Successful calls -/

@[simp] theorem editSetToken_eq_ok {f : Message → SetToken → Except Revert SetToken} :
    w.editSetToken sender setToken f = .ok w' ↔
      ∃ s, f (w.message sender) (w.setTokens setToken) = .ok s ∧
        w.setSetToken setToken s = w' := by
  simp [editSetToken]

@[simp] theorem editToken_eq_ok {f : ERC20 → Except Revert ERC20} :
    w.editToken token f = .ok w' ↔
      ∃ t, f (w.tokens token) = .ok t ∧ w.setTokenLedger token t = w' := by
  simp [editToken]

/-- A SetToken calls another contract for a module that may use its privileged functions. -/
theorem invoke_eq_ok {env : Env} {target : Address} {value : ℕ} {data : CallData}
    {r : World × List ℕ} :
    w.invoke env sender setToken target value data = .ok r ↔
      SetToken.Authorised (w.message sender) (w.setTokens setToken) ∧
        execute env (w.log ⟨setToken, target, value, data⟩) ⟨setToken, target, value, data⟩ =
          .ok r := by
  simp only [invoke, bind_eq_ok, SetToken.privileged_eq_ok]
  constructor
  · rintro ⟨-, h⟩
    exact h
  · exact fun h => ⟨(), h⟩

/-- Writing to a SetToken what is there changes nothing. -/
theorem setSetToken_self : w.setSetToken setToken (w.setTokens setToken) = w := by
  simp [setSetToken]

/-- Of two writes to a SetToken the last one counts. -/
theorem setSetToken_setSetToken {s s' : SetToken} :
    (w.setSetToken setToken s).setSetToken setToken s' = w.setSetToken setToken s' := by
  simp [setSetToken]

/-- What is written to a SetToken is read back. -/
@[simp] theorem setTokens_setSetToken {s : SetToken} :
    (w.setSetToken setToken s).setTokens setToken = s :=
  Function.update_self _ _ _

/-- A ledger that is written back unchanged changes nothing. -/
@[simp] theorem setTokenLedger_self : w.setTokenLedger token (w.tokens token) = w := by
  unfold setTokenLedger
  rw [Function.update_eq_self]

/-- Making a call keeps any part of the world that ledgers and contracts outside the protocol
keep. -/
theorem execute_keeps {β : Type} {env : Env} {call : Call} {words : List ℕ} (π : World → β)
    (hledger : ∀ w token t, π (setTokenLedger w token t) = π w)
    (hcall : ∀ call w w' words, env.call call w = .ok (w', words) → π w' = π w)
    (h : execute env w call = .ok (w', words)) : π w' = π w := by
  unfold execute at h
  split at h
  -- either the call is one to a token, or it is left to the contracts outside
  all_goals first
    | exact hcall _ _ _ _ h
    | simp only [bind_eq_ok, editToken_eq_ok, pure_eq_ok, Prod.mk.injEq] at h
      obtain ⟨_, ⟨t, -, rfl⟩, rfl, -⟩ := h
      exact hledger _ _ _

/-- What a SetToken calls keeps any part of the world that logs, ledgers and contracts outside the
protocol keep. -/
theorem invoke_keeps {β : Type} {env : Env} {target : Address} {value : ℕ} {data : CallData}
    {words : List ℕ} (π : World → β) (hlog : ∀ w call, π (log w call) = π w)
    (hledger : ∀ w token t, π (setTokenLedger w token t) = π w)
    (hcall : ∀ call w w' words, env.call call w = .ok (w', words) → π w' = π w)
    (h : w.invoke env sender setToken target value data = .ok (w', words)) : π w' = π w :=
  (execute_keeps π hledger hcall (invoke_eq_ok.mp h).2).trans (hlog w _)

end World

end SetProtocol
