import SetProtocol.Core.PriceOracle
import SetProtocol.Lib.Register
import SetProtocol.Lib.Transition

set_option relaxedAutoImplicit false
set_option autoImplicit false

/-!
# Prices of pool tokens

`contracts/protocol/integration/UniswapPairPriceAdapter.sol`. The adapter prices the tokens of the
pools that its owner allows, from the reserves of the pool and the prices of its two tokens. It asks
the price oracle for these.

Of each pool the adapter keeps the tokens and their base units, as they are when the pool is added.

## Main definitions

* `SetProtocol.UniswapV2Library.getReserves` — the reserves of the pair of two tokens.
* `SetProtocol.UniswapPairPriceAdapter` — the storage.
* `SetProtocol.UniswapPairPriceAdapter.getPrice` — the price of a pair of assets.
* `SetProtocol.UniswapPairPriceAdapter.deploy` — the constructor.
* `SetProtocol.UniswapPairPriceAdapter.Action` — a call of the owner.

## Main results

* `SetProtocol.UniswapPairPriceAdapter.kept_of_run` — what is stored of the pools, in all runs.

## Implementation notes

The tokens of a pair and their decimals do not change, as opposed to its reserves and its supply.
-/

namespace SetProtocol

open Checked Transition Register

/-- What pairs and tokens always answer. -/
structure PairTokens where
  /-- `IUniswapV2Pair.token0`. -/
  token0 : Address → Except Revert Address := fun _ => .error ""
  /-- `IUniswapV2Pair.token1`. -/
  token1 : Address → Except Revert Address := fun _ => .error ""
  /-- `ERC20.decimals`. -/
  decimals : Address → Except Revert ℕ := fun _ => .ok 18

/-- What pairs answer at one time. -/
structure PairStates where
  /-- The address that a factory gives the pair of two tokens. -/
  create2 (factory token0 token1 : Address) : Address := zeroAddress
  /-- `IUniswapV2Pair.getReserves`, of the tokens in the order of their addresses. -/
  getReserves : Address → Except Revert (ℕ × ℕ) := fun _ => .error ""
  /-- `IUniswapV2Pair.totalSupply`. -/
  totalSupply : Address → Except Revert ℕ := fun _ => .error ""

namespace UniswapV2Library

/-- `sortTokens`. -/
def sortTokens (tokenA tokenB : Address) : Except Revert (Address × Address) := do
  require (tokenA ≠ tokenB) "UniswapV2Library: IDENTICAL_ADDRESSES"
  let (token0, token1) := if tokenA < tokenB then (tokenA, tokenB) else (tokenB, tokenA)
  require (token0 ≠ zeroAddress) "UniswapV2Library: ZERO_ADDRESS"
  return (token0, token1)

/-- `pairFor`. -/
def pairFor (pairs : PairStates) (factory tokenA tokenB : Address) : Except Revert Address := do
  let (token0, token1) ← sortTokens tokenA tokenB
  return pairs.create2 factory token0 token1

/-- `getReserves`. -/
def getReserves (pairs : PairStates) (factory tokenA tokenB : Address) :
    Except Revert (ℕ × ℕ) := do
  let (token0, _) ← sortTokens tokenA tokenB
  let (reserve0, reserve1) ← pairs.getReserves (← pairFor pairs factory tokenA tokenB)
  return if tokenA = token0 then (reserve0, reserve1) else (reserve1, reserve0)

end UniswapV2Library

/-- `PoolSettings`. -/
structure PoolSettings where
  /-- The first token of the pool. -/
  tokenOne : Address := zeroAddress
  /-- The second token of the pool. -/
  tokenTwo : Address := zeroAddress
  /-- One whole first token. -/
  tokenOneBaseUnit : ℕ := 0
  /-- One whole second token. -/
  tokenTwoBaseUnit : ℕ := 0
  /-- Whether the pool is allowed. -/
  isValid : Bool := false
  deriving DecidableEq

/-- The storage of the adapter. -/
structure UniswapPairPriceAdapter where
  /-- The controller. -/
  controller : Address := zeroAddress
  /-- The account that allows pools. -/
  owner : Address := zeroAddress
  /-- What is stored of each pool. -/
  uniswapPoolsToSettings : Address → PoolSettings := fun _ => {}
  /-- The allowed pools, in order. -/
  allowedUniswapPools : List Address := []
  /-- The factory of the pools. -/
  uniswapFactory : Address := zeroAddress

namespace UniswapPairPriceAdapter

/-! ## Prices -/

/-- `_getUniswapPrice`, from the prices of the oracle. -/
def getUniswapPrice (u : UniswapPairPriceAdapter) (pairs : PairStates)
    (priceOracle : Address → Address → Except Revert ℕ) (poolAddress masterQuoteAsset : Address) :
    Except Revert ℕ := do
  let poolInfo := u.uniswapPoolsToSettings poolAddress
  let tokenOnePriceToMaster ← priceOracle poolInfo.tokenOne masterQuoteAsset
  let tokenTwoPriceToMaster ← priceOracle poolInfo.tokenTwo masterQuoteAsset
  let (tokenOneReserves, tokenTwoReserves) ←
    UniswapV2Library.getReserves pairs u.uniswapFactory poolInfo.tokenOne poolInfo.tokenTwo
  let normalizedTokenOneBaseUnit ←
    PreciseUnitMath.preciseDiv tokenOneReserves poolInfo.tokenOneBaseUnit
  let normalizedTokenBaseTwoUnits ←
    PreciseUnitMath.preciseDiv tokenTwoReserves poolInfo.tokenTwoBaseUnit
  let totalNotionalToMaster ← SafeMath.add
    (← PreciseUnitMath.preciseMul normalizedTokenOneBaseUnit tokenOnePriceToMaster)
    (← PreciseUnitMath.preciseMul normalizedTokenBaseTwoUnits tokenTwoPriceToMaster)
  let totalSupply ← pairs.totalSupply poolAddress
  PreciseUnitMath.preciseDiv totalNotionalToMaster totalSupply

/-- The price of one asset in the master quote asset: that of a pool, or that of the oracle. -/
def priceToMaster (u : UniswapPairPriceAdapter) (pairs : PairStates)
    (priceOracle : Address → Address → Except Revert ℕ) (asset masterQuoteAsset : Address) :
    Except Revert ℕ :=
  if (u.uniswapPoolsToSettings asset).isValid = true then
    u.getUniswapPrice pairs priceOracle asset masterQuoteAsset
  else priceOracle asset masterQuoteAsset

/-- `getPrice`. -/
def getPrice (u : UniswapPairPriceAdapter) (c : Controller) (pairs : PairStates)
    (priceOracle : Address → Address → Except Revert ℕ)
    (masterQuoteAsset msgSender assetOne assetTwo : Address) : Except Revert (Bool × ℕ) := do
  require (c.isSystemContract u.controller msgSender = true) "Must be system contract"
  if (u.uniswapPoolsToSettings assetOne).isValid = false ∧
      (u.uniswapPoolsToSettings assetTwo).isValid = false then
    return (false, 0)
  let assetOnePriceToMaster ← u.priceToMaster pairs priceOracle assetOne masterQuoteAsset
  let assetTwoPriceToMaster ← u.priceToMaster pairs priceOracle assetTwo masterQuoteAsset
  return (true, ← PreciseUnitMath.preciseDiv assetOnePriceToMaster assetTwoPriceToMaster)

/-! ## Pools -/

/-- What is stored of a pool that is allowed. The powers are not checked for overflow. -/
def settingsOf (tokens : PairTokens) (poolAddress : Address) : Except Revert PoolSettings := do
  let tokenOne ← tokens.token0 poolAddress
  let tokenTwo ← tokens.token1 poolAddress
  let tokenOneDecimals ← tokens.decimals tokenOne
  let tokenTwoDecimals ← tokens.decimals tokenTwo
  return {
    tokenOne := tokenOne
    tokenTwo := tokenTwo
    tokenOneBaseUnit := 10 ^ tokenOneDecimals % 2 ^ 256
    tokenTwoBaseUnit := 10 ^ tokenTwoDecimals % 2 ^ 256
    isValid := true }

/-- What `addPool` and a round of the constructor do. -/
def allow (tokens : PairTokens) (reason : Revert) (u : UniswapPairPriceAdapter)
    (poolAddress : Address) : Except Revert UniswapPairPriceAdapter := do
  require ((u.uniswapPoolsToSettings poolAddress).isValid = false) reason
  let poolSettings ← settingsOf tokens poolAddress
  return { u with
    uniswapPoolsToSettings := Function.update u.uniswapPoolsToSettings poolAddress poolSettings
    allowedUniswapPools := u.allowedUniswapPools ++ [poolAddress] }

/-- The constructor. -/
def deploy (tokens : PairTokens) (msgSender controller uniswapFactory : Address)
    (uniswapPools : List Address) : Except Revert UniswapPairPriceAdapter :=
  uniswapPools.foldlM (allow tokens "Uniswap pool address must be unique.")
    { controller := controller, owner := msgSender, uniswapFactory := uniswapFactory }

/-- `addPool`. -/
def addPool (tokens : PairTokens) (u : UniswapPairPriceAdapter) (msgSender poolAddress : Address) :
    Except Revert UniswapPairPriceAdapter := do
  require (msgSender = u.owner) "Ownable: caller is not the owner"
  allow tokens "Uniswap pool address already added" u poolAddress

/-- `removePool`. -/
def removePool (u : UniswapPairPriceAdapter) (msgSender poolAddress : Address) :
    Except Revert UniswapPairPriceAdapter := do
  require (msgSender = u.owner) "Ownable: caller is not the owner"
  require ((u.uniswapPoolsToSettings poolAddress).isValid = true)
    "Uniswap pool address does not exist"
  let allowedUniswapPools ← AddressArrayUtils.remove u.allowedUniswapPools poolAddress
  return { u with
    uniswapPoolsToSettings := Function.update u.uniswapPoolsToSettings poolAddress {}
    allowedUniswapPools := allowedUniswapPools }

/-- `transferOwnership`, inherited from `Ownable`. -/
def transferOwnership (u : UniswapPairPriceAdapter) (msgSender newOwner : Address) :
    Except Revert UniswapPairPriceAdapter := do
  require (msgSender = u.owner) "Ownable: caller is not the owner"
  require (newOwner ≠ zeroAddress) "Ownable: new owner is the zero address"
  return { u with owner := newOwner }

/-- `renounceOwnership`, inherited from `Ownable`. -/
def renounceOwnership (u : UniswapPairPriceAdapter) (msgSender : Address) :
    Except Revert UniswapPairPriceAdapter := do
  require (msgSender = u.owner) "Ownable: caller is not the owner"
  return { u with owner := zeroAddress }

/-! ## Calls -/

/-- A call of a function of the adapter that writes. -/
inductive Action
  | addPool (msgSender poolAddress : Address)
  | removePool (msgSender poolAddress : Address)
  | transferOwnership (msgSender newOwner : Address)
  | renounceOwnership (msgSender : Address)

/-- The effect of a call. -/
def step (tokens : PairTokens) : Action → UniswapPairPriceAdapter →
    Except Revert UniswapPairPriceAdapter
  | .addPool msgSender poolAddress, u => u.addPool tokens msgSender poolAddress
  | .removePool msgSender poolAddress, u => u.removePool msgSender poolAddress
  | .transferOwnership msgSender newOwner, u => u.transferOwnership msgSender newOwner
  | .renounceOwnership msgSender, u => u.renounceOwnership msgSender

/-! ## The invariant -/

/-- The allowed pools are listed, each once. What is stored of them is what they answer, and nothing
is stored of other addresses. -/
structure Kept (tokens : PairTokens) (u : UniswapPairPriceAdapter) : Prop where
  /-- The list and the flags are in step. -/
  lists : Lists u.allowedUniswapPools fun pool => (u.uniswapPoolsToSettings pool).isValid = true
  /-- The allowed pools have their settings. -/
  settings : ∀ pool, (u.uniswapPoolsToSettings pool).isValid = true →
    settingsOf tokens pool = .ok (u.uniswapPoolsToSettings pool)
  /-- Other addresses have none. -/
  cleared : ∀ pool, (u.uniswapPoolsToSettings pool).isValid = false →
    u.uniswapPoolsToSettings pool = {}

variable {tokens : PairTokens} {u u' : UniswapPairPriceAdapter} {pool : Address}
  {poolSettings : PoolSettings}

/-- Settings that were read are those of an allowed pool. -/
theorem isValid_of_settingsOf (h : settingsOf tokens pool = .ok poolSettings) :
    poolSettings.isValid = true := by
  simp only [settingsOf, bind_eq_ok, pure_eq_ok] at h
  obtain ⟨_, -, _, -, _, -, _, -, rfl⟩ := h
  rfl

namespace Kept

/-- New settings of one pool, which are its own or none, with a list in step. -/
theorem write {l : List Address} (hkept : Kept tokens u)
    (hlists : Lists l fun p =>
      (Function.update u.uniswapPoolsToSettings pool poolSettings p).isValid = true)
    (hsettings : poolSettings.isValid = true → settingsOf tokens pool = .ok poolSettings)
    (hcleared : poolSettings.isValid = false → poolSettings = {}) :
    Kept tokens { u with
      uniswapPoolsToSettings := Function.update u.uniswapPoolsToSettings pool poolSettings
      allowedUniswapPools := l } := by
  refine ⟨hlists, fun p hp => ?_, fun p hp => ?_⟩
  · rcases eq_or_ne p pool with rfl | hne
    · simp only [Function.update_self] at hp ⊢
      exact hsettings hp
    · simp only [Function.update_of_ne hne] at hp ⊢
      exact hkept.settings p hp
  · rcases eq_or_ne p pool with rfl | hne
    · simp only [Function.update_self] at hp ⊢
      exact hcleared hp
    · simp only [Function.update_of_ne hne] at hp ⊢
      exact hkept.cleared p hp

/-- A pool joins. -/
theorem allow {reason : Revert} (hkept : Kept tokens u)
    (h : UniswapPairPriceAdapter.allow tokens reason u pool = .ok u') : Kept tokens u' := by
  simp only [UniswapPairPriceAdapter.allow, bind_eq_ok, require_eq_ok, pure_eq_ok] at h
  obtain ⟨-, hnew, poolSettings, hsettings, rfl⟩ := h
  have hvalid := isValid_of_settingsOf hsettings
  refine hkept.write ?_ (fun _ => hsettings) fun hnot => ?_
  · apply hkept.lists.append
    · rw [hnew]
      exact Bool.false_ne_true
    · intro p
      rcases eq_or_ne p pool with rfl | hne
      · simp [hvalid]
      · simp [hne]
  · rw [hvalid] at hnot
    exact absurd hnot.symm Bool.false_ne_true

/-- The constructor has its pools join. -/
theorem deploy {msgSender controller uniswapFactory : Address} {uniswapPools : List Address}
    (h : UniswapPairPriceAdapter.deploy tokens msgSender controller uniswapFactory uniswapPools =
      .ok u) : Kept tokens u := by
  refine foldlM_preserves (Kept tokens) (fun pool _ t t' hkept stepped => hkept.allow stepped) ?_ h
  refine ⟨Lists.nil fun _ => Bool.false_ne_true, ?_, fun _ _ => rfl⟩
  intro pool hpool
  exact absurd hpool Bool.false_ne_true

/-- Every call keeps the pools. -/
theorem step {a : Action} (hkept : Kept tokens u)
    (stepped : UniswapPairPriceAdapter.step tokens a u = .ok u') : Kept tokens u' := by
  cases a with
  | addPool msgSender poolAddress =>
    simp only [UniswapPairPriceAdapter.step, addPool, bind_eq_ok] at stepped
    obtain ⟨-, -, stepped⟩ := stepped
    exact hkept.allow stepped
  | removePool msgSender poolAddress =>
    simp only [UniswapPairPriceAdapter.step, removePool, bind_eq_ok,
      AddressArrayUtils.remove_eq_ok, pure_eq_ok] at stepped
    obtain ⟨-, -, -, -, _, ⟨-, rfl⟩, rfl⟩ := stepped
    refine hkept.write ?_ (fun hvalid => absurd hvalid Bool.false_ne_true) fun _ => rfl
    apply hkept.lists.remove (List.Perm.refl _)
    intro p
    rcases eq_or_ne p poolAddress with rfl | hne
    · simp
    · simp [hne]
  | transferOwnership msgSender newOwner =>
    simp only [UniswapPairPriceAdapter.step, transferOwnership, bind_eq_ok, pure_eq_ok] at stepped
    obtain ⟨-, -, -, -, rfl⟩ := stepped
    exact ⟨hkept.lists, hkept.settings, hkept.cleared⟩
  | renounceOwnership msgSender =>
    simp only [UniswapPairPriceAdapter.step, renounceOwnership, bind_eq_ok, pure_eq_ok] at stepped
    obtain ⟨-, -, rfl⟩ := stepped
    exact ⟨hkept.lists, hkept.settings, hkept.cleared⟩

end Kept

/-- After any calls from the constructor on, the adapter has the settings of the pools that it lists,
each of them once, and of no others. -/
theorem kept_of_run {msgSender controller uniswapFactory : Address} {uniswapPools : List Address}
    (deployed : deploy tokens msgSender controller uniswapFactory uniswapPools = .ok u)
    (reached : Reach (step tokens) u u') : Kept tokens u' :=
  reached.invariant (Kept tokens) (fun _ _ _ hkept _ stepped => hkept.step stepped)
    (Kept.deploy deployed)

end UniswapPairPriceAdapter

end SetProtocol
