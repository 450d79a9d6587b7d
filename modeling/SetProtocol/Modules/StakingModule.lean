import Mathlib.Algebra.BigOperators.Group.List.Basic
import SetProtocol.Core.ModuleBase

set_option relaxedAutoImplicit false
set_option autoImplicit false

/-!
# Staking

`contracts/protocol/modules/StakingModule.sol`. The module deployed at `self` stakes components of a
Set on contracts outside the protocol. It keeps the staked units by component and contract, and the
Set keeps their sum as the external position of the component in this module.

## Main definitions

* `SetProtocol.StakingModule.stake`, `unstake` — the operations of the manager.
* `SetProtocol.StakingModule.componentIssueHook`, `componentRedeemHook` — what issuance and
  redemption call.
* `SetProtocol.StakingModule.attach` — the module in its place among the contracts.
* `SetProtocol.ComponentPositions.total` — the units staked of a component.

## Main results

* `SetProtocol.ComponentPositions.Tracked.addStake`, `removeStake` — the bookkeeping adds and
  subtracts units.
* `SetProtocol.StakingModule.updatePositions_spec` — staking and unstaking edit the default and then
  the external position of the Set.
-/

namespace SetProtocol

open Checked

/-! ## Bookkeeping -/

namespace ComponentPositions

/-- The part of `_updateStakeState` that keeps the units of the module. -/
def addStake (p : ComponentPositions) (stakeContract : Address) (adapterHash units : ℕ) :
    Except Revert ComponentPositions :=
  if AddressArrayUtils.contains p.stakingContracts stakeContract then do
    let sum ← SafeMath.add units (p.positions stakeContract).componentPositionUnits
    return { p with
      positions := Function.update p.positions stakeContract
        { p.positions stakeContract with componentPositionUnits := sum } }
  else
    .ok
      { stakingContracts := p.stakingContracts ++ [stakeContract]
        positions := Function.update p.positions stakeContract ⟨adapterHash, units⟩ }

/-- The part of `_updateUnstakeState` that keeps the units of the module. -/
def removeStake (p : ComponentPositions) (stakeContract : Address) (units : ℕ) :
    Except Revert ComponentPositions := do
  let remainingPositionUnits ←
    SafeMath.sub (p.positions stakeContract).componentPositionUnits units
  if 0 < remainingPositionUnits then
    return { p with
      positions := Function.update p.positions stakeContract
        { p.positions stakeContract with componentPositionUnits := remainingPositionUnits } }
  else do
    let stakingContracts ← AddressArrayUtils.remove p.stakingContracts stakeContract
    return { stakingContracts := stakingContracts
             positions := Function.update p.positions stakeContract {} }

/-- The units on one contract. -/
def units (p : ComponentPositions) (stakeContract : Address) : ℕ :=
  (p.positions stakeContract).componentPositionUnits

/-- The units on all contracts. -/
def total (p : ComponentPositions) : ℕ := (p.stakingContracts.map p.units).sum

/-- The contracts are distinct, and there are no units on a contract that is not listed. -/
structure Tracked (p : ComponentPositions) : Prop where
  /-- No contract is listed twice. -/
  nodup : p.stakingContracts.Nodup
  /-- Units are on listed contracts only. -/
  units_eq_zero : ∀ j ∉ p.stakingContracts, p.units j = 0

variable {p p' : ComponentPositions} {j : Address} {adapterHash n : ℕ}

/-- Nothing is tracked at first. -/
theorem tracked_empty : Tracked {} := ⟨List.nodup_nil, fun _ _ => rfl⟩

@[simp] theorem total_empty : total {} = 0 := rfl

/-- The units of one contract, and those of the others. -/
private theorem total_eq_add (hj : j ∈ p.stakingContracts) :
    p.total = p.units j + ((p.stakingContracts.erase j).map p.units).sum :=
  (List.sum_map_erase p.units hj).symm

/-- The units of the other contracts are the same when they are the same on each. -/
private theorem sum_erase_congr (p' : ComponentPositions) (hp : p.stakingContracts.Nodup)
    (h : ∀ k, k ≠ j → p'.units k = p.units k) :
    ((p.stakingContracts.erase j).map p'.units).sum =
      ((p.stakingContracts.erase j).map p.units).sum := by
  congr 1
  refine List.map_congr_left fun k hk => h k ?_
  rintro rfl
  exact hp.not_mem_erase hk

/-- Staking adds units on one contract. -/
theorem Tracked.addStake (hp : Tracked p) (h : p.addStake j adapterHash n = .ok p') :
    Tracked p' ∧ p'.total = p.total + n ∧
      ∀ k, p'.units k = p.units k + if k = j then n else 0 := by
  unfold ComponentPositions.addStake at h
  split_ifs at h with hj
  · simp only [bind_eq_ok, SafeMath.add_eq_ok, pure_eq_ok] at h
    obtain ⟨_, ⟨-, rfl⟩, rfl⟩ := h
    have hj' : j ∈ p.stakingContracts := AddressArrayUtils.contains_eq_true.mp hj
    set p' : ComponentPositions :=
      { p with
        positions := Function.update p.positions j
          { p.positions j with
            componentPositionUnits := n + (p.positions j).componentPositionUnits } }
    have hunits : ∀ k, p'.units k = p.units k + if k = j then n else 0 := by
      intro k
      by_cases hk : k = j
      · subst hk
        simp [p', units, Nat.add_comm]
      · simp [p', units, hk]
    refine ⟨⟨hp.nodup, fun k hk => ?_⟩, ?_, hunits⟩
    · have hkj : k ≠ j := fun he => hk (he ▸ hj')
      rw [hunits, if_neg hkj, hp.units_eq_zero k hk]
    · have hrest := sum_erase_congr (j := j) p' hp.nodup fun k hk => by simp [hunits, hk]
      rw [total_eq_add (p := p') hj', total_eq_add hj', hunits, if_pos rfl, hrest]
      omega
  · obtain rfl := Except.ok.inj h
    have hj' : j ∉ p.stakingContracts :=
      AddressArrayUtils.contains_eq_false.mp (Bool.eq_false_iff.mpr hj)
    set p' : ComponentPositions :=
      { stakingContracts := p.stakingContracts ++ [j]
        positions := Function.update p.positions j ⟨adapterHash, n⟩ }
    have hunits : ∀ k, p'.units k = p.units k + if k = j then n else 0 := by
      intro k
      by_cases hk : k = j
      · subst hk
        rw [hp.units_eq_zero k hj']
        simp [p', units]
      · simp [p', units, hk]
    have hlist : p'.stakingContracts = p.stakingContracts ++ [j] := rfl
    refine ⟨⟨?_, fun k hk => ?_⟩, ?_, hunits⟩
    · rw [hlist, ← List.concat_eq_append]
      exact hp.nodup.concat hj'
    · rw [hlist, List.mem_append, List.mem_singleton, not_or] at hk
      rw [hunits, if_neg hk.2, hp.units_eq_zero k hk.1]
    · have hmap : p.stakingContracts.map p'.units = p.stakingContracts.map p.units := by
        refine List.map_congr_left fun k hk => ?_
        have hkj : k ≠ j := fun he => hj' (he ▸ hk)
        rw [hunits, if_neg hkj, Nat.add_zero]
      rw [total, total, hlist, List.map_append, List.sum_append, hmap, List.map_singleton,
        List.sum_singleton, hunits, if_pos rfl, hp.units_eq_zero j hj', Nat.zero_add]

/-- Unstaking takes units from one contract. -/
theorem Tracked.removeStake (hp : Tracked p) (h : p.removeStake j n = .ok p') :
    Tracked p' ∧ p'.total + n = p.total ∧
      ∀ k, p'.units k + (if k = j then n else 0) = p.units k := by
  simp only [ComponentPositions.removeStake, bind_eq_ok, SafeMath.sub_eq_ok] at h
  obtain ⟨_, ⟨hle, rfl⟩, h⟩ := h
  rw [← units] at hle h
  split_ifs at h with hpos
  · obtain rfl := pure_eq_ok.mp h
    have hj : j ∈ p.stakingContracts := by
      by_contra hj
      have := hp.units_eq_zero j hj
      omega
    set p' : ComponentPositions :=
      { p with
        positions := Function.update p.positions j
          { p.positions j with componentPositionUnits := p.units j - n } }
    have hunits : ∀ k, p'.units k + (if k = j then n else 0) = p.units k := by
      intro k
      by_cases hk : k = j
      · subst hk
        simpa [p', units] using Nat.sub_add_cancel hle
      · simp [p', units, hk]
    refine ⟨⟨hp.nodup, fun k hk => ?_⟩, ?_, hunits⟩
    · have := hunits k
      have := hp.units_eq_zero k hk
      omega
    · have hrest := sum_erase_congr (j := j) p' hp.nodup fun k hk => by
        simpa [hk] using hunits k
      have hat := hunits j
      rw [if_pos rfl] at hat
      rw [total_eq_add (p := p') hj, total_eq_add hj, hrest]
      omega
  · simp only [bind_eq_ok, AddressArrayUtils.remove_eq_ok, pure_eq_ok] at h
    obtain ⟨_, ⟨hj, rfl⟩, rfl⟩ := h
    set p' : ComponentPositions :=
      { stakingContracts := p.stakingContracts.erase j
        positions := Function.update p.positions j {} }
    have hunits : ∀ k, p'.units k + (if k = j then n else 0) = p.units k := by
      intro k
      by_cases hk : k = j
      · subst hk
        simp only [p', units, Function.update_self, if_true] at hpos hle ⊢
        omega
      · simp [p', units, hk]
    refine ⟨⟨hp.nodup.erase j, fun k hk => ?_⟩, ?_, hunits⟩
    · have hk' := hunits k
      by_cases hkj : k = j
      · subst hkj
        rw [if_pos rfl] at hk'
        omega
      · have hnot : k ∉ p.stakingContracts := fun hmem =>
          hk ((List.mem_erase_of_ne hkj).mpr hmem)
        have := hp.units_eq_zero k hnot
        omega
    · have hrest := sum_erase_congr (j := j) p' hp.nodup fun k hk => by
        simpa [hk] using hunits k
      have hlist : p'.stakingContracts = p.stakingContracts.erase j := rfl
      rw [total_eq_add hj, ← hrest, total, hlist]
      omega

end ComponentPositions

namespace StakingModule

/-- Write the positions of a component. -/
def setStakingPositions (w : World) (setToken component : Address) (p : ComponentPositions) :
    World :=
  { w with
    stakingPositions := Function.update w.stakingPositions setToken
      (Function.update (w.stakingPositions setToken) component p) }

/-- `getStakingContracts`. -/
def getStakingContracts (w : World) (setToken component : Address) : List Address :=
  (w.stakingPositions setToken component).stakingContracts

/-- `getStakingPosition`. -/
def getStakingPosition (w : World) (setToken component stakeContract : Address) :
    StakingPosition :=
  (w.stakingPositions setToken component).positions stakeContract

/-- `getStakingPositionUnit`. -/
def getStakingPositionUnit (w : World) (setToken component stakeContract : Address) : ℕ :=
  (getStakingPosition w setToken component stakeContract).componentPositionUnits

/-! ## Calls to staking contracts -/

/-- `_stake`. -/
def invokeStake (self : Address) (env : Env) (w : World)
    (setToken stakeContract component adapter : Address)
    (componentPositionUnits setTokenStakeQuantity : ℕ) : Except Revert World := do
  let notionalStakeQuantity ←
    Position.getDefaultTotalNotional setTokenStakeQuantity componentPositionUnits
  let spender ← env.getSpenderAddress adapter stakeContract w
  let w ← Invoke.invokeApprove self env w setToken component spender notionalStakeQuantity
  let (target, callValue, methodData) ←
    env.getStakeCallData adapter stakeContract notionalStakeQuantity w
  let (w, _) ← w.invoke env self setToken target callValue methodData
  return w

/-- `_unstake`. -/
def invokeUnstake (self : Address) (env : Env) (w : World)
    (setToken stakeContract component adapter : Address)
    (componentPositionUnits setTokenUnstakeQuantity : ℕ) : Except Revert World := do
  let preActionBalance := (w.tokens component).balances setToken
  let notionalUnstakeQuantity ←
    Position.getDefaultTotalNotional setTokenUnstakeQuantity componentPositionUnits
  let (target, callValue, methodData) ←
    env.getUnstakeCallData adapter stakeContract notionalUnstakeQuantity w
  let (w, _) ← w.invoke env self setToken target callValue methodData
  let postActionBalance := (w.tokens component).balances setToken
  let expectedBalance ← SafeMath.add preActionBalance notionalUnstakeQuantity
  require (expectedBalance ≤ postActionBalance) "Not enough tokens returned from stake contract"
  return w

/-! ## Staking and unstaking -/

/-- What `_updateStakeState` and `_updateUnstakeState` share: write the positions of the module,
and move units between the default and the external position of the Set. They differ in the
direction. -/
def updatePositions (self : Address) (w : World) (setToken component : Address)
    (p : ComponentPositions) (newDefaultUnit : ℕ → Except Revert ℕ)
    (newExternalUnit : ℤ → Except Revert ℤ) : Except Revert World := do
  let w := setStakingPositions w setToken component p
  let defaultUnit ← (w.setTokens setToken).getDefaultPositionRealUnit component
  let newDefaultTokenUnit ← newDefaultUnit (← SafeCast.toUint256 defaultUnit)
  let w ← w.editSetToken self setToken fun m s =>
    Position.editDefaultPosition m s component newDefaultTokenUnit
  let externalUnit ← (w.setTokens setToken).getExternalPositionRealUnit component self
  let newExternalTokenUnit ← newExternalUnit externalUnit
  w.editSetToken self setToken fun m s =>
    Position.editExternalPosition m s component self newExternalTokenUnit []

/-- `_updateStakeState`. -/
def updateStakeState (self : Address) (env : Env) (w : World)
    (setToken stakeContract component : Address) (adapterName : String)
    (componentPositionUnits : ℕ) : Except Revert World := do
  let p ← (w.stakingPositions setToken component).addStake stakeContract
    (env.keccak256 adapterName) componentPositionUnits
  updatePositions self w setToken component p
    (fun unit => SafeMath.sub unit componentPositionUnits)
    (fun unit => do SignedSafeMath.add unit (← SafeCast.toInt256 componentPositionUnits))

/-- `_updateUnstakeState`. -/
def updateUnstakeState (self : Address) (w : World) (setToken stakeContract component : Address)
    (componentPositionUnits : ℕ) : Except Revert World := do
  let p ← (w.stakingPositions setToken component).removeStake stakeContract componentPositionUnits
  updatePositions self w setToken component p
    (fun unit => SafeMath.add unit componentPositionUnits)
    (fun unit => do SignedSafeMath.sub unit (← SafeCast.toInt256 componentPositionUnits))

/-- `stake`. -/
def stake (self : Address) (env : Env) (w : World)
    (msgSender setToken stakeContract component : Address) (adapterName : String)
    (componentPositionUnits : ℕ) : Except Revert World := do
  ModuleBase.onlyManagerAndValidSet self w setToken msgSender
  let sufficient ← Position.hasSufficientDefaultUnits (w.setTokens setToken) component
    componentPositionUnits
  require (sufficient = true) "Not enough component to stake"
  let adapter ← ModuleBase.getAndValidateAdapter self env w adapterName
  let w ← invokeStake self env w setToken stakeContract component adapter componentPositionUnits
    (w.totalSupply setToken)
  updateStakeState self env w setToken stakeContract component adapterName componentPositionUnits

/-- `unstake`. -/
def unstake (self : Address) (env : Env) (w : World)
    (msgSender setToken stakeContract component : Address) (adapterName : String)
    (componentPositionUnits : ℕ) : Except Revert World := do
  ModuleBase.onlyManagerAndValidSet self w setToken msgSender
  require (componentPositionUnits ≤ getStakingPositionUnit w setToken component stakeContract)
    "Not enough component tokens staked"
  let adapter ← ModuleBase.getAndValidateAdapter self env w adapterName
  let w ← invokeUnstake self env w setToken stakeContract component adapter componentPositionUnits
    (w.totalSupply setToken)
  updateUnstakeState self w setToken stakeContract component componentPositionUnits

/-! ## Hooks -/

/-- The body that `componentIssueHook` and `componentRedeemHook` share: they differ in the call
that is made for each contract. -/
def forEachContract (self : Address) (w : World) (caller setToken : Address)
    (setTokenQuantity : ℕ) (component : Address)
    (call : World → Address → Address → Address → Address → ℕ → ℕ → Except Revert World) :
    Except Revert World := do
  ModuleBase.onlyModule w setToken caller
  (getStakingContracts w setToken component).foldlM (fun w stakingContract => do
    let stakingPosition := getStakingPosition w setToken component stakingContract
    let adapter ← ModuleBase.getAndValidateAdapterWithHash self w stakingPosition.adapterHash
    call w setToken stakingContract component adapter stakingPosition.componentPositionUnits
      setTokenQuantity) w

/-- `componentIssueHook`. -/
def componentIssueHook (self : Address) (env : Env) (w : World) (caller setToken : Address)
    (setTokenQuantity : ℕ) (component : Address) : Except Revert World :=
  forEachContract self w caller setToken setTokenQuantity component (invokeStake self env)

/-- `componentRedeemHook`. -/
def componentRedeemHook (self : Address) (env : Env) (w : World) (caller setToken : Address)
    (setTokenQuantity : ℕ) (component : Address) : Except Revert World :=
  forEachContract self w caller setToken setTokenQuantity component (invokeUnstake self env)

/-- The contracts with this module among them, at the address `self`. -/
def attach (self : Address) (env : Env) : Env :=
  { env with
    moduleIssueHook := fun module caller setToken quantity w =>
      if module = self then .ok w else env.moduleIssueHook module caller setToken quantity w
    moduleRedeemHook := fun module caller setToken quantity w =>
      if module = self then .ok w else env.moduleRedeemHook module caller setToken quantity w
    componentIssueHook := fun module caller setToken quantity component isEquity w =>
      if module = self then componentIssueHook self env w caller setToken quantity component
      else env.componentIssueHook module caller setToken quantity component isEquity w
    componentRedeemHook := fun module caller setToken quantity component isEquity w =>
      if module = self then componentRedeemHook self env w caller setToken quantity component
      else env.componentRedeemHook module caller setToken quantity component isEquity w }

/-- What writing the positions changes, on the module and on the Set. -/
theorem updatePositions_spec {self setToken component : Address} {w w' : World}
    {p : ComponentPositions} {newDefaultUnit : ℕ → Except Revert ℕ}
    {newExternalUnit : ℤ → Except Revert ℤ}
    (h : updatePositions self w setToken component p newDefaultUnit newExternalUnit = .ok w') :
    ∃ n x s₁ s₂,
      Position.editDefaultPosition (w.message self) (w.setTokens setToken) component n = .ok s₁ ∧
      newExternalUnit (s₁.externalRealUnit component self) = .ok x ∧
      Position.editExternalPosition (w.message self) s₁ component self x [] = .ok s₂ ∧
      w' = (setStakingPositions w setToken component p).setSetToken setToken s₂ := by
  simp only [updatePositions, bind_eq_ok, World.editSetToken_eq_ok,
    SetToken.getExternalPositionRealUnit_eq_ok] at h
  obtain ⟨_, -, _, -, n, -, _, ⟨s₁, hs₁, rfl⟩, _, ⟨-, rfl⟩, x, hx, s₂, hs₂, rfl⟩ := h
  refine ⟨n, x, s₁, s₂, hs₁, ?_, ?_, ?_⟩
  · simpa [World.setSetToken] using hx
  · simpa [World.setSetToken, World.message, setStakingPositions] using hs₂
  · simp [World.setSetToken]

/-! ## Configuration -/

/-- `initialize`. -/
def initializeModule (self : Address) (w : World) (msgSender setToken : Address) :
    Except Revert World := do
  ModuleBase.onlySetManager w setToken msgSender
  ModuleBase.onlyValidAndPendingSet self w setToken
  w.editSetToken self setToken SetToken.initializeModule

/-- `removeModule`, which the Set calls. -/
def removeModule (w : World) (msgSender : Address) : Except Revert Unit :=
  (w.setTokens msgSender).components.forM fun component =>
    require ((w.stakingPositions msgSender component).stakingContracts.length = 0)
      "Open positions must be closed"

end StakingModule

end SetProtocol
