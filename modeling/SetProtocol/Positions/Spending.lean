import SetProtocol.Modules.AmmModule
import SetProtocol.Modules.TradeModule
import SetProtocol.Modules.WrapModule

set_option relaxedAutoImplicit false
set_option autoImplicit false

/-!
# What a module may spend of a position

Before an action the modules check the units to spend against the default position, and after it
they set the position by the balances before and after. What the Set held beyond its position, which
came by an airdrop, is to stay outside of it.

The edit keeps that promise whatever the roundings. It succeeds when no more was spent than the
notional amount of the position, and the checks of the modules see to that, except one: before
liquidity is removed, the notional amount of pool tokens is compared with a unit. Below a supply of
one whole Set too much passes, and above it too little.

## Main definitions

* `SetProtocol.Spending` — the quantities that passed the check of a module.
* `SetProtocol.AcceptsRemoval` — the checks before liquidity is removed pass.
* `SetProtocol.LimitsRemoval` — what supply and unit are to be for the position to limit them.

## Main results

* `SetProtocol.acceptsRemoval_limit_iff` — when the position limits the removal of liquidity.
* `SetProtocol.Spending.of_trade`, `of_validateWrapAndUpdate`, `of_validateUnwrapAndUpdate`,
  `of_addLiquidity`, `of_removeLiquidity` — what the operations spend has passed a check.
* `SetProtocol.spending_keeps_airdropped` — the edit after an action, and which checks suffice
  for it.
-/

namespace SetProtocol

open Checked

/-! ## The unit after an action -/

section Edit

variable {supply pre post unit n : ℕ}

/-- The new unit stands for no more than what is there beyond the airdropped amount, and falls short
of it by the share of the supply and one at most. -/
theorem notional_of_edit
    (h : Position.calculateDefaultEditPositionUnit supply pre post unit = .ok n) :
    n * supply / preciseUnit ≤ post - (pre - unit * supply / preciseUnit) ∧
      post - (pre - unit * supply / preciseUnit) ≤
        n * supply / preciseUnit + supply / preciseUnit + 1 := by
  obtain ⟨-, -, -, -, hsupply, rfl⟩ := Position.calculateDefaultEditPositionUnit_eq_ok.mp h
  exact Rounding.div_mul_div_bounds preciseUnit_pos hsupply

/-- The untracked amount does not shrink, and grows by the share of the supply and one at most. -/
theorem untracked_of_edit
    (h : Position.calculateDefaultEditPositionUnit supply pre post unit = .ok n) :
    pre - unit * supply / preciseUnit ≤ post - n * supply / preciseUnit ∧
      post - n * supply / preciseUnit ≤
        pre - unit * supply / preciseUnit + supply / preciseUnit + 1 := by
  obtain ⟨-, -, hpost, -, -, -⟩ := Position.calculateDefaultEditPositionUnit_eq_ok.mp h
  obtain ⟨hle, hloss⟩ := notional_of_edit h
  omega

/-- The edit returns when no more was spent than the notional amount of some part of the unit. -/
theorem exists_edit {q : ℕ} (hsupply : 0 < supply) (hpre : unit * supply / preciseUnit ≤ pre)
    (hfit : InUint256 (unit * supply))
    (hfit' : InUint256 ((post - (pre - unit * supply / preciseUnit)) * preciseUnit))
    (hq : q ≤ unit) (hspent : pre ≤ post + q * supply / preciseUnit) :
    ∃ n, Position.calculateDefaultEditPositionUnit supply pre post unit = .ok n := by
  have hnotional : q * supply / preciseUnit ≤ unit * supply / preciseUnit :=
    Nat.div_le_div_right (Nat.mul_le_mul_right supply hq)
  have hpost : pre - unit * supply / preciseUnit ≤ post := by omega
  exact ⟨_, Position.calculateDefaultEditPositionUnit_eq_ok.mpr
    ⟨hfit, hpre, hpost, hfit', hsupply, rfl⟩⟩

end Edit

/-! ## Removing liquidity -/

section Removal

variable {self setToken ammPool ammAdapter : Address} {env : Env} {w : World}
  {integrationName : String} {components : List Address} {minimums : List ℕ} {units : ℕ}

/-- `removeLiquidity` accepts the arguments: `_getActionInfo` and `_validateRemoveLiquidity`
pass. -/
def AcceptsRemoval (self : Address) (env : Env) (w : World) (setToken : Address)
    (integrationName : String) (ammPool : Address) (units : ℕ) (components : List Address)
    (minimums : List ℕ) : Prop :=
  ∃ info, AmmModule.getActionInfo self env w setToken integrationName ammPool components minimums
      units = .ok info ∧
    AmmModule.validateRemoveLiquidity env w info = .ok ()

/-- The products that these two functions compute fit their types, apart from the one with the
units to remove. -/
structure RequestFits (w : World) (setToken ammPool : Address) (minimums : List ℕ) : Prop where
  /-- The notional quantities of the components. -/
  minimums : ∀ minimum ∈ minimums, InUint256 (w.totalSupply setToken * minimum)
  /-- The real unit of the pool token. -/
  position : InInt256 ((w.setTokens setToken).defaultPositionVirtualUnit ammPool *
    (w.setTokens setToken).positionMultiplier)

/-- A removal from a valid pool is accepted when the notional quantity is at most the unit of the
position, whatever the supply. -/
theorem acceptsRemoval_iff
    (hadapter : ModuleBase.getAndValidateAdapter self env w integrationName = .ok ammAdapter)
    (hpool : env.isValidPool ammAdapter ammPool w = .ok true)
    (hlength : minimums.length = components.length) (hminimums : ∀ minimum ∈ minimums, 0 < minimum)
    (hquantity : 0 < AmmModule.notional w setToken units) :
    AcceptsRemoval self env w setToken integrationName ammPool units components minimums ↔
      RequestFits w setToken ammPool minimums ∧ InUint256 (w.totalSupply setToken * units) ∧
        (AmmModule.notional w setToken units : ℤ) ≤
          (w.setTokens setToken).defaultRealUnit ammPool := by
  simp only [AcceptsRemoval, AmmModule.getActionInfo_eq_ok, hadapter, Except.ok.injEq,
    AmmModule.validateRemoveLiquidity_eq_ok, AmmModule.validateCommon_eq_ok]
  constructor
  · rintro ⟨_, ⟨_, rfl, hfit, hfits, rfl⟩, -, -, hunits⟩
    obtain ⟨hread, hle⟩ := Position.hasSufficientDefaultUnits_iff.mp hunits
    exact ⟨⟨hfits, hread⟩, hfit, hle⟩
  · rintro ⟨⟨hfits, hread⟩, hfit, hle⟩
    exact ⟨_, ⟨ammAdapter, rfl, hfit, hfits, rfl⟩, ⟨hlength, hquantity, hpool⟩, hminimums,
      Position.hasSufficientDefaultUnits_iff.mpr ⟨hread, hle⟩⟩

/-- A positive unit of which the product fits, with one unit more, is small enough for its notional
amounts to fit. -/
private theorem succ_mul_preciseUnit_le {n : ℕ} (hfits : RequestFits w setToken ammPool minimums)
    (hunit : (w.setTokens setToken).defaultRealUnit ammPool = n) :
    (n + 1) * preciseUnit ≤ 2 ^ 256 := by
  have hle : (n : ℤ) * preciseUnitInt ≤ 2 ^ 255 - 1 := by
    rw [← hunit]
    exact (Int.ediv_mul_le _ preciseUnitInt_pos.ne').trans hfits.position.2
  rw [← natCast_preciseUnit] at hle
  have hle' : n * preciseUnit ≤ 2 ^ 255 := by
    have hle' : ((n * preciseUnit : ℕ) : ℤ) ≤ 2 ^ 255 := by
      rw [Nat.cast_mul]
      omega
    exact_mod_cast hle'
  calc (n + 1) * preciseUnit = n * preciseUnit + preciseUnit := Nat.succ_mul n preciseUnit
    _ ≤ 2 ^ 255 + preciseUnit := Nat.add_le_add_right hle' preciseUnit
    _ ≤ 2 ^ 256 := by decide

/-- When the position limits the units to remove, by the supply and its unit: the unit is not
positive, or there is a whole Set at least and the notional quantity of the unit is less than the
next unit. Where a product overflows nothing is accepted, and then no units of the position may
have a positive quantity. -/
def LimitsRemoval (w : World) (setToken ammPool : Address) (minimums : List ℕ) : Prop :=
  (w.setTokens setToken).defaultRealUnit ammPool ≤ 0 ∨
    (RequestFits w setToken ammPool minimums ∧ preciseUnit ≤ w.totalSupply setToken ∧
      (w.totalSupply setToken : ℤ) * (w.setTokens setToken).defaultRealUnit ammPool <
        ((w.setTokens setToken).defaultRealUnit ammPool + 1) * preciseUnitInt) ∨
    ¬RequestFits w setToken ammPool minimums ∧
      (w.totalSupply setToken : ℤ) * (w.setTokens setToken).defaultRealUnit ammPool <
        preciseUnitInt

/-- The comparison of the notional quantity, where products fit, is one of the units for all units of
a positive quantity exactly when the position limits them. -/
private theorem forall_notional_le_iff (hsupply : 0 < w.totalSupply setToken) :
    (∀ units, 0 < w.totalSupply setToken * units / preciseUnit →
      (RequestFits w setToken ammPool minimums ∧ InUint256 (w.totalSupply setToken * units) ∧
        ((w.totalSupply setToken * units / preciseUnit : ℕ) : ℤ) ≤
          (w.setTokens setToken).defaultRealUnit ammPool ↔
        (units : ℤ) ≤ (w.setTokens setToken).defaultRealUnit ammPool)) ↔
      LimitsRemoval w setToken ammPool minimums := by
  unfold LimitsRemoval
  rcases le_or_gt ((w.setTokens setToken).defaultRealUnit ammPool) 0 with hnone | hsome
  · -- neither the units nor their quantity are within a position that has none
    refine iff_of_true (fun units hquantity => iff_of_false ?_ ?_) (.inl hnone)
    · rintro ⟨-, -, hle⟩
      omega
    · intro hle
      obtain rfl : units = 0 := by omega
      simp at hquantity
  obtain ⟨n, hunit⟩ := Int.eq_ofNat_of_zero_le hsome.le
  have hn : 0 < n := by omega
  rw [hunit, ← natCast_preciseUnit]
  by_cases hfits : RequestFits w setToken ammPool minimums
  · have hiff := Rounding.forall_mul_div_le_iff preciseUnit_pos hsupply hn
      (succ_mul_preciseUnit_le hfits hunit)
    simp only [hfits, true_and, not_true_eq_false, false_and, or_false, Nat.cast_le,
      (Int.natCast_pos.mpr hn).not_ge, false_or]
    exact_mod_cast hiff
  · -- nothing is accepted
    have hiff := Rounding.forall_lt_of_mul_div_pos_iff (s := w.totalSupply setToken) (n := n)
      preciseUnit_pos
    simp only [hfits, false_and, false_iff, false_or, not_false_eq_true, true_and, Nat.cast_le,
      (Int.natCast_pos.mpr hn).not_ge, not_le]
    exact_mod_cast hiff

/-- **The limit of a removal**: for a valid pool, minimums other than zero and a supply, the
position limits the units to remove, whatever they are, as long as their quantity is positive,
exactly when it does so by the supply and its unit. -/
theorem acceptsRemoval_limit_iff
    (hadapter : ModuleBase.getAndValidateAdapter self env w integrationName = .ok ammAdapter)
    (hpool : env.isValidPool ammAdapter ammPool w = .ok true)
    (hlength : minimums.length = components.length) (hminimums : ∀ minimum ∈ minimums, 0 < minimum)
    (hsupply : 0 < w.totalSupply setToken) :
    (∀ units, 0 < w.totalSupply setToken * units / preciseUnit →
      (AcceptsRemoval self env w setToken integrationName ammPool units components minimums ↔
        (units : ℤ) ≤ (w.setTokens setToken).defaultRealUnit ammPool)) ↔
      LimitsRemoval w setToken ammPool minimums := by
  rw [← forall_notional_le_iff hsupply]
  refine forall₂_congr fun units hquantity => ?_
  rw [acceptsRemoval_iff hadapter hpool hlength hminimums hquantity, AmmModule.notional]

/-- The Set `100` with a position of one whole pool token `7` in each Set, the exchange `5` of the
module `8`, and the given supply. -/
def examplePoolWorld (supply : ℕ) : World :=
  { integrations := fun module _ => if module = 8 then 5 else zeroAddress
    tokens := fun a =>
      if a = 100 then { totalSupply := supply }
      else if a = 7 then { balances := fun b => if b = 100 then 10 ^ 18 else 0 } else {}
    setTokens := fun _ =>
      { components := [7]
        componentPositions := fun _ => { virtualUnit := 10 ^ 18 }
        moduleStates := fun a => if a = 8 then .initialized else .none } }

theorem requestFits_examplePoolWorld {supply : ℕ} (hfits : InUint256 (supply * 1)) :
    RequestFits (examplePoolWorld supply) 100 7 [1] :=
  ⟨fun _ h => List.mem_singleton.mp h ▸ hfits, (by decide : InInt256 (10 ^ 18 * preciseUnitInt))⟩

theorem getAndValidateAdapter_examplePoolWorld {supply : ℕ} :
    ModuleBase.getAndValidateAdapter 8 {} (examplePoolWorld supply) "" = .ok 5 := rfl

/-- At the supply of one whole Set, what is accepted is limited by the position. -/
theorem acceptsRemoval_limit_iff_example :
    AcceptsRemoval 8 {} (examplePoolWorld (10 ^ 18)) 100 "" 7 (10 ^ 18) [11] [1] ↔
      ((10 ^ 18 : ℕ) : ℤ) ≤ ((examplePoolWorld (10 ^ 18)).setTokens 100).defaultRealUnit 7 :=
  (acceptsRemoval_limit_iff getAndValidateAdapter_examplePoolWorld rfl rfl (by decide)
    (by decide)).mpr (.inr (.inl ⟨requestFits_examplePoolWorld (by decide), by decide, by decide⟩))
    (10 ^ 18) (by decide)

theorem acceptsRemoval_examplePoolWorld :
    AcceptsRemoval 8 {} (examplePoolWorld (10 ^ 17)) 100 "" 7 (5 * 10 ^ 18) [11] [1] :=
  (acceptsRemoval_iff getAndValidateAdapter_examplePoolWorld rfl rfl (by decide) (by decide)).mpr
    ⟨requestFits_examplePoolWorld (by decide), by decide, by decide⟩

/-- At the supply 0.1, five whole pool tokens per Set are accepted, while the position has one. -/
theorem acceptsRemoval_beyond_position :
    0 < (examplePoolWorld (10 ^ 17)).totalSupply 100 * (5 * 10 ^ 18) / preciseUnit ∧
      ((examplePoolWorld (10 ^ 17)).setTokens 100).defaultRealUnit 7 = 10 ^ 18 ∧
      ¬(AcceptsRemoval 8 {} (examplePoolWorld (10 ^ 17)) 100 "" 7 (5 * 10 ^ 18) [11] [1] ↔
        ((5 * 10 ^ 18 : ℕ) : ℤ) ≤
          ((examplePoolWorld (10 ^ 17)).setTokens 100).defaultRealUnit 7) := by
  refine ⟨by decide, by decide, fun hlimit => ?_⟩
  exact absurd (hlimit.mp acceptsRemoval_examplePoolWorld) (by decide)

end Removal

/-! ## What the checks allow to spend -/

/-- The actions that spend units of a default position. -/
inductive SpendingKind
  | trade
  | wrap
  | addLiquidity
  | removeLiquidity
  deriving DecidableEq

/-- An action of the kind, with the arguments of which the check passed: it spends the quantity for
the given units of the token. -/
inductive Spending (env : Env) (w : World) (setToken : Address) :
    SpendingKind → Address → ℕ → ℕ → Prop
  | trade {self sendToken receiveToken : Address} {exchangeName : String}
    {sendQuantity minReceiveQuantity : ℕ} {info : TradeModule.TradeInfo}
    (created : TradeModule.createTradeInfo self env w setToken exchangeName sendToken receiveToken
      sendQuantity minReceiveQuantity = .ok info)
    (valid : TradeModule.validatePreTradeData w info sendQuantity = .ok ()) :
    Spending env w setToken .trade sendToken sendQuantity info.totalSendQuantity
  /-- Wrapping spends the underlying token, and unwrapping the wrapped one. -/
  | wrap {token : Address} {units quantity : ℕ}
    (valid : WrapModule.validateInputs w setToken token units = .ok ())
    (created : Position.getDefaultTotalNotional (w.totalSupply setToken) units = .ok quantity) :
    Spending env w setToken .wrap token units quantity
  | addLiquidity {self ammPool token : Address} {ammName : String} {components : List Address}
    {maxComponentUnits : List ℕ} {minPoolTokenUnits units quantity : ℕ}
    {info : AmmModule.ActionInfo}
    (created : AmmModule.getActionInfo self env w setToken ammName ammPool components
      maxComponentUnits minPoolTokenUnits = .ok info)
    (valid : AmmModule.validateAddLiquidity env w info = .ok ())
    (entry : (token, units, quantity) ∈
      info.components.zip (info.componentUnits.zip info.totalNotionalComponents)) :
    Spending env w setToken .addLiquidity token units quantity
  | removeLiquidity {self ammPool : Address} {ammName : String} {components : List Address}
    {minComponentUnits : List ℕ} {poolTokenUnits : ℕ} {info : AmmModule.ActionInfo}
    (created : AmmModule.getActionInfo self env w setToken ammName ammPool components
      minComponentUnits poolTokenUnits = .ok info)
    (valid : AmmModule.validateRemoveLiquidity env w info = .ok ()) :
    Spending env w setToken .removeLiquidity ammPool poolTokenUnits info.liquidityQuantity

namespace Spending

variable {env : Env} {w : World} {setToken token : Address} {kind : SpendingKind}
  {units quantity : ℕ}

/-- The entries of the arrays of components, of their units and of what is computed from these. -/
private theorem mem_zip_map {components : List Address} {l : List ℕ} {f : ℕ → ℕ} :
    (token, units, quantity) ∈ components.zip (l.zip (l.map f)) ↔
      (token, units) ∈ components.zip l ∧ quantity = f units := by
  rw [← List.map_prod_left_eq_zip, List.zip_map_right, List.mem_map]
  constructor
  · rintro ⟨⟨token', units'⟩, hentry, heq⟩
    obtain ⟨rfl, rfl, rfl⟩ : token' = token ∧ units' = units ∧ f units' = quantity := by
      simpa using heq
    exact ⟨hentry, rfl⟩
  · rintro ⟨hentry, rfl⟩
    exact ⟨_, hentry, rfl⟩

/-- What is spent is the notional quantity of the units. -/
theorem quantity_eq (h : Spending env w setToken kind token units quantity) :
    quantity = w.totalSupply setToken * units / preciseUnit := by
  cases h with
  | trade created valid => exact (TradeModule.validatePreTradeData_spec created valid).2
  | wrap valid created => exact (PreciseUnitMath.preciseMul_eq_ok.mp created).2.symm
  | addLiquidity created valid entry =>
    obtain ⟨_, -, -, -, rfl⟩ := AmmModule.getActionInfo_eq_ok.mp created
    exact (mem_zip_map.mp entry).2
  | removeLiquidity created valid =>
    obtain ⟨_, -, -, -, rfl⟩ := AmmModule.getActionInfo_eq_ok.mp created
    rfl

/-- Every check but the one before liquidity is removed compares units with units. -/
theorem units_le (h : Spending env w setToken kind token units quantity)
    (hkind : kind ≠ .removeLiquidity) :
    (units : ℤ) ≤ (w.setTokens setToken).defaultRealUnit token := by
  cases h with
  | trade created valid => exact (TradeModule.validatePreTradeData_spec created valid).1
  | wrap valid created => exact WrapModule.validateInputs_spec valid
  | addLiquidity created valid entry =>
    obtain ⟨_, -, -, -, rfl⟩ := AmmModule.getActionInfo_eq_ok.mp created
    have hunits := (AmmModule.validateAddLiquidity_eq_ok.mp valid).2 _ (mem_zip_map.mp entry).1
    exact Position.le_of_hasSufficientDefaultUnits hunits
  | removeLiquidity => exact absurd rfl hkind

/-- The check sees to it that no more is spent than the notional quantity of some part of the
position, always but for removals of liquidity, and for these where their notional quantity is no
more than the one of the position. -/
theorem spent_le_iff (h : Spending env w setToken kind token units quantity) {unit : ℕ}
    (hunit : (w.setTokens setToken).defaultRealUnit token = unit) :
    (∃ q ≤ unit, quantity ≤ q * w.totalSupply setToken / preciseUnit) ↔
      (kind = .removeLiquidity →
        units * w.totalSupply setToken / preciseUnit ≤
          unit * w.totalSupply setToken / preciseUnit) := by
  have hquantity := h.quantity_eq
  rw [Nat.mul_comm] at hquantity
  constructor
  · rintro ⟨q, hq, hle⟩ -
    rw [← hquantity]
    exact hle.trans (Nat.div_le_div_right (Nat.mul_le_mul_right _ hq))
  · intro hremoval
    by_cases hkind : kind = .removeLiquidity
    · exact ⟨unit, le_rfl, hquantity.trans_le (hremoval hkind)⟩
    · have hunits := h.units_le hkind
      rw [hunit] at hunits
      exact ⟨units, by exact_mod_cast hunits, hquantity.le⟩

end Spending

/-! ## The operations spend what their checks allow -/

section Operations

variable {self weth msgSender setToken ammPool : Address} {env : Env} {w w' : World}
  {ammName : String}

/-- A trade spends the units to sell. -/
theorem Spending.of_trade {exchangeName : String} {sendToken receiveToken : Address}
    {sendQuantity minReceiveQuantity : ℕ} {data : Bytes}
    (h : TradeModule.trade self env w msgSender setToken exchangeName sendToken sendQuantity
      receiveToken minReceiveQuantity data = .ok w') :
    ∃ quantity, Spending env w setToken .trade sendToken sendQuantity quantity := by
  simp only [TradeModule.trade, bind_eq_ok] at h
  obtain ⟨-, -, info, hinfo, ⟨⟩, hvalid, -⟩ := h
  exact ⟨_, .trade hinfo hvalid⟩

/-- Wrapping spends units of the underlying token. -/
theorem Spending.of_validateWrapAndUpdate {integrationName : String}
    {underlyingToken wrappedToken : Address} {underlyingUnits : ℕ} {usesEther : Bool}
    {r : World × ℕ × ℕ}
    (h : WrapModule.validateWrapAndUpdate self weth env w integrationName setToken underlyingToken
      wrappedToken underlyingUnits usesEther = .ok r) :
    ∃ quantity, Spending env w setToken .wrap underlyingToken underlyingUnits quantity := by
  simp only [WrapModule.validateWrapAndUpdate, bind_eq_ok] at h
  obtain ⟨⟨⟩, hvalid, quantity, hquantity, -⟩ := h
  exact ⟨quantity, .wrap hvalid hquantity⟩

/-- Unwrapping spends units of the wrapped token. -/
theorem Spending.of_validateUnwrapAndUpdate {integrationName : String}
    {underlyingToken wrappedToken : Address} {wrappedTokenUnits : ℕ} {usesEther : Bool}
    {r : World × ℕ × ℕ}
    (h : WrapModule.validateUnwrapAndUpdate self weth env w integrationName setToken underlyingToken
      wrappedToken wrappedTokenUnits usesEther = .ok r) :
    ∃ quantity, Spending env w setToken .wrap wrappedToken wrappedTokenUnits quantity := by
  simp only [WrapModule.validateUnwrapAndUpdate, bind_eq_ok] at h
  obtain ⟨⟨⟩, hvalid, quantity, hquantity, -⟩ := h
  exact ⟨quantity, .wrap hvalid hquantity⟩

/-- Adding liquidity spends up to the given units of each component. -/
theorem Spending.of_addLiquidity {minPoolTokenUnits : ℕ} {components : List Address}
    {maxComponentUnits : List ℕ}
    (h : AmmModule.addLiquidity self env w msgSender setToken ammName ammPool minPoolTokenUnits
      components maxComponentUnits = .ok w') :
    ∀ entry ∈ components.zip maxComponentUnits,
      ∃ quantity, Spending env w setToken .addLiquidity entry.1 entry.2 quantity := by
  simp only [AmmModule.addLiquidity, AmmModule.addLiquidityBy, bind_eq_ok] at h
  obtain ⟨-, -, info, hinfo, ⟨⟩, hvalid, -⟩ := h
  intro entry hentry
  obtain ⟨_, -, -, -, rfl⟩ := AmmModule.getActionInfo_eq_ok.mp hinfo
  exact ⟨_, .addLiquidity hinfo hvalid (mem_zip_map.mpr ⟨hentry, rfl⟩)⟩

/-- Removing liquidity spends pool tokens, and its arguments are accepted. -/
theorem Spending.of_removeLiquidity {poolTokenUnits : ℕ} {components : List Address}
    {minComponentUnits : List ℕ}
    (h : AmmModule.removeLiquidity self env w msgSender setToken ammName ammPool poolTokenUnits
      components minComponentUnits = .ok w') :
    AcceptsRemoval self env w setToken ammName ammPool poolTokenUnits components
        minComponentUnits ∧
      ∃ quantity, Spending env w setToken .removeLiquidity ammPool poolTokenUnits quantity := by
  simp only [AmmModule.removeLiquidity, AmmModule.removeLiquidityBy, bind_eq_ok] at h
  obtain ⟨-, -, info, hinfo, ⟨⟩, hvalid, -⟩ := h
  exact ⟨⟨info, hinfo, hvalid⟩, _, .removeLiquidity hinfo hvalid⟩

end Operations

/-- **The edit after an action**: whenever the new unit is computed, it stands for no more than what
is there beyond the airdropped amount, so that the untracked amount does not shrink, and it grows by
the share of the supply and one at most. The new unit is computed whenever no more was spent than
the notional amount of some part of the unit. That is what the checks of trades, of wrapping and of
adding liquidity allow to spend, and it is what the check of a removal of liquidity allows exactly
where the notional quantity of the units to remove is at most the one of the position. -/
theorem spending_keeps_airdropped {supply unit pre post : ℕ} (hsupply : 0 < supply)
    (hpre : unit * supply / preciseUnit ≤ pre) (hfit : InUint256 (unit * supply))
    (hfit' : InUint256 ((post - (pre - unit * supply / preciseUnit)) * preciseUnit)) :
    (∀ n, Position.calculateDefaultEditPositionUnit supply pre post unit = .ok n →
      n * supply / preciseUnit ≤ post - (pre - unit * supply / preciseUnit) ∧
      pre - unit * supply / preciseUnit ≤ post - n * supply / preciseUnit ∧
      post - n * supply / preciseUnit ≤
        pre - unit * supply / preciseUnit + supply / preciseUnit + 1) ∧
    ((∃ q ≤ unit, pre ≤ post + q * supply / preciseUnit) →
      ∃ n, Position.calculateDefaultEditPositionUnit supply pre post unit = .ok n) ∧
    ∀ (env : Env) (w : World) (setToken token : Address) (kind : SpendingKind)
      (units quantity : ℕ), Spending env w setToken kind token units quantity →
      w.totalSupply setToken = supply → (w.setTokens setToken).defaultRealUnit token = unit →
      ((∃ q ≤ unit, quantity ≤ q * supply / preciseUnit) ↔
        (kind = .removeLiquidity →
          units * supply / preciseUnit ≤ unit * supply / preciseUnit)) := by
  refine ⟨fun n hn => ⟨(notional_of_edit hn).1, untracked_of_edit hn⟩, ?_, ?_⟩
  · rintro ⟨q, hq, hspent⟩
    exact exists_edit hsupply hpre hfit hfit' hq hspent
  · rintro env w setToken token kind units quantity hspending rfl hunit
    exact hspending.spent_le_iff hunit

/-- Half a pool token of one is spent at the supply of one whole Set, and at most half of the unit
is left. -/
theorem spending_keeps_airdropped_example :
    (∃ n, Position.calculateDefaultEditPositionUnit (10 ^ 18) (10 ^ 18) (5 * 10 ^ 17) (10 ^ 18) =
        .ok n ∧
      n * 10 ^ 18 / preciseUnit ≤ 5 * 10 ^ 17) ∧
    ∃ q ≤ 10 ^ 18, 10 ^ 18 ≤ q * 10 ^ 18 / preciseUnit := by
  have hfit : InUint256
      ((5 * 10 ^ 17 - (10 ^ 18 - 10 ^ 18 * 10 ^ 18 / preciseUnit)) * preciseUnit) := by decide
  have hsupply : 0 < 10 ^ 18 := by decide
  obtain ⟨hbounds, hreturns, hcheck⟩ :=
    spending_keeps_airdropped hsupply (by decide) (by decide) hfit
  constructor
  · obtain ⟨n, hn⟩ := hreturns ⟨5 * 10 ^ 17, by decide, by decide⟩
    exact ⟨n, hn, (hbounds n hn).1⟩
  · have hwrap : Spending {} (examplePoolWorld (10 ^ 18)) 100 .wrap 7 (10 ^ 18) (10 ^ 18) :=
      .wrap (by decide +kernel) (PreciseUnitMath.preciseMul_eq_ok.mpr (by decide))
    exact (hcheck _ _ _ _ _ _ _ hwrap rfl (by decide)).mpr fun h => absurd h (by decide)

/-- At the supply 0.1 the check lets a removal spend half a pool token, where the whole position is
a tenth of one. The position cannot be edited after that. -/
theorem removal_spends_beyond_position :
    ∃ quantity,
      Spending {} (examplePoolWorld (10 ^ 17)) 100 .removeLiquidity 7 (5 * 10 ^ 18) quantity ∧
      ((examplePoolWorld (10 ^ 17)).setTokens 100).defaultRealUnit 7 = ((10 ^ 18 : ℕ) : ℤ) ∧
      (¬∃ q ≤ 10 ^ 18,
        quantity ≤ q * (examplePoolWorld (10 ^ 17)).totalSupply 100 / preciseUnit) ∧
      ∀ n, Position.calculateDefaultEditPositionUnit (10 ^ 17) (10 ^ 18) (10 ^ 18 - quantity)
        (10 ^ 18) ≠ .ok n := by
  obtain ⟨info, hinfo, hvalid⟩ := acceptsRemoval_examplePoolWorld
  have hspending : Spending {} (examplePoolWorld (10 ^ 17)) 100 .removeLiquidity 7 (5 * 10 ^ 18)
      info.liquidityQuantity := .removeLiquidity hinfo hvalid
  have hquantity : info.liquidityQuantity = 5 * 10 ^ 17 := hspending.quantity_eq
  have hunit : ((examplePoolWorld (10 ^ 17)).setTokens 100).defaultRealUnit 7 =
      ((10 ^ 18 : ℕ) : ℤ) := by decide
  refine ⟨_, hspending, hunit, ?_, fun n hn => ?_⟩
  · rw [hspending.spent_le_iff hunit]
    exact fun hle => absurd (hle rfl) (by decide)
  · rw [hquantity] at hn
    obtain ⟨-, -, hpost, -⟩ := Position.calculateDefaultEditPositionUnit_eq_ok.mp hn
    exact absurd hpost (by decide)

end SetProtocol
