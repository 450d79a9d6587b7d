import SetProtocol.Leverage.Calls
import SetProtocol.Positions.Collateralised

set_option relaxedAutoImplicit false
set_option autoImplicit false

/-!
# What a sync writes

`sync` writes, for each enabled collateral market, what the Set holds of it per Set, and for each
enabled asset to borrow what the Set owes per Set. The first is rounded down and the second up. Both
are stored as virtual units, which are rounded down once more, and once more where they are read;
as debt is negative, all roundings of one kind of position go the same way.

## Main definitions

* `SetProtocol.LeverageSync.AccruesOnly` — what Compound does when it accrues interest.
* `SetProtocol.LeverageSync.OnlyEdits` — the positions that may have changed.
* `SetProtocol.LeverageSync.returnedDebt` — the debt that Compound returns to a round of the sync.

## Main results

* `SetProtocol.LeverageSync.conservative_of_sync` — after a sync no collateral is overstated and no
  debt is understated, and other positions are as they were.
-/

namespace SetProtocol

open Checked

namespace LeverageSync

open CompoundLeverageModule

variable {clm setToken c cToken : Address} {env : Env} {w w' : World} {m : Message}
  {s s' s₁ s₂ : SetToken} {supply : ℕ}

/-! ## Positions that change -/

/-- The default positions of some components may have changed, and the positions that others have in
the module, but nothing else. -/
structure OnlyEdits (module : Address) (collateral borrowed : Address → Prop)
    (s s' : SetToken) : Prop where
  /-- The multiplier stays. -/
  multiplier : s'.positionMultiplier = s.positionMultiplier
  /-- The other default units stay. -/
  defaults : ∀ d, ¬collateral d →
    s'.defaultPositionVirtualUnit d = s.defaultPositionVirtualUnit d
  /-- The other external units stay. -/
  externals : ∀ d q, ¬(borrowed d ∧ q = module) →
    s'.externalPositionVirtualUnit d q = s.externalPositionVirtualUnit d q
  /-- So do their data. -/
  data : ∀ d q, ¬(borrowed d ∧ q = module) →
    s'.externalPositionData d q = s.externalPositionData d q
  /-- No other external position is opened or closed. -/
  modules : ∀ d q, ¬(borrowed d ∧ q = module) →
    (q ∈ s'.externalPositionModules d ↔ q ∈ s.externalPositionModules d)
  /-- No other component is listed or dropped. -/
  components : ∀ d, ¬collateral d → ¬borrowed d → (d ∈ s'.components ↔ d ∈ s.components)

namespace OnlyEdits

variable {collateral collateral' borrowed borrowed' : Address → Prop}

/-- Nothing changes by doing nothing. -/
theorem refl (s : SetToken) : OnlyEdits clm collateral borrowed s s :=
  ⟨rfl, fun _ _ => rfl, fun _ _ _ => rfl, fun _ _ _ => rfl, fun _ _ _ => Iff.rfl,
    fun _ _ _ => Iff.rfl⟩

/-- Two edits, one after the other. -/
theorem trans (h₁ : OnlyEdits clm collateral borrowed s s₁)
    (h₂ : OnlyEdits clm collateral borrowed s₁ s₂) : OnlyEdits clm collateral borrowed s s₂ where
  multiplier := h₂.multiplier.trans h₁.multiplier
  defaults d hd := (h₂.defaults d hd).trans (h₁.defaults d hd)
  externals d q hd := (h₂.externals d q hd).trans (h₁.externals d q hd)
  data d q hd := (h₂.data d q hd).trans (h₁.data d q hd)
  modules d q hd := (h₂.modules d q hd).trans (h₁.modules d q hd)
  components d hc hb := (h₂.components d hc hb).trans (h₁.components d hc hb)

/-- More may be allowed to change. -/
theorem mono (h : OnlyEdits clm collateral borrowed s s') (hc : ∀ d, collateral d → collateral' d)
    (hb : ∀ d, borrowed d → borrowed' d) : OnlyEdits clm collateral' borrowed' s s' where
  multiplier := h.multiplier
  defaults d hd := h.defaults d fun h => hd (hc d h)
  externals d q hd := h.externals d q fun h => hd ⟨hb d h.1, h.2⟩
  data d q hd := h.data d q fun h => hd ⟨hb d h.1, h.2⟩
  modules d q hd := h.modules d q fun h => hd ⟨hb d h.1, h.2⟩
  components d hd hd' := h.components d (fun h => hd (hc d h)) fun h => hd' (hb d h)

/-- Default units that stay are read as before. -/
theorem defaultRealUnit_eq (h : OnlyEdits clm collateral borrowed s s') (hc : ¬collateral c) :
    s'.defaultRealUnit c = s.defaultRealUnit c := by
  unfold SetToken.defaultRealUnit SetToken.realUnit
  rw [h.defaults c hc, h.multiplier]

/-- So are external units. -/
theorem externalRealUnit_eq (h : OnlyEdits clm collateral borrowed s s') (hb : ¬borrowed c) :
    s'.externalRealUnit c clm = s.externalRealUnit c clm := by
  unfold SetToken.externalRealUnit SetToken.realUnit
  rw [h.externals c clm fun hd => hb hd.1, h.multiplier]

end OnlyEdits

/-- Removing a component by swap and pop keeps the others, whether or not some are listed twice. -/
private theorem mem_swapPop_of_ne {l : List Address} {d : Address} (hc : c ∈ l) (hd : d ≠ c) :
    d ∈ SwapPop.swapPop l (l.idxOf c) ↔ d ∈ l := by
  rw [(SwapPop.swapPop_idxOf_perm hc).mem_iff, List.mem_erase_of_ne hd]

/-- A default edit touches the default position of its component, and what is read back is not more
than what was written. -/
theorem onlyEdits_of_editDefaultPosition (hm : 0 < s.positionMultiplier) {newUnit : ℕ}
    (h : Position.editDefaultPosition m s c newUnit = .ok s') :
    OnlyEdits clm (fun d => d = c) (fun _ => False) s s' ∧ s'.defaultRealUnit c ≤ newUnit := by
  obtain ⟨-, l, v, hlist, rfl, -, rfl⟩ := Position.editDefaultPosition_cases hm h
  refine ⟨⟨rfl, fun d hd => ?_, fun d q _ => ?_, fun d q _ => ?_, fun d q _ => ?_,
    fun d hd _ => ?_⟩, ?_⟩
  · simp [hd]
  · simp
  · simp
  · simp
  · rw [Position.components_withDefaultPosition]
    cases hlist with
    | keep => rfl
    | append => simp [hd]
    | remove _ _ _ old => exact mem_swapPop_of_ne old hd
  · simp only [SetToken.defaultRealUnit, SetToken.realUnit,
      Position.defaultPositionVirtualUnit_withDefaultPosition, if_pos,
      Position.positionMultiplier_withDefaultPosition]
    exact Rounding.ediv_mul_ediv_le preciseUnitInt_pos hm

/-- An external edit touches the position of its component in its module, and what is read back is
not more than what was written. -/
theorem onlyEdits_of_editExternalPosition (hm : 0 < s.positionMultiplier) {newUnit : ℤ}
    {data : Bytes} (h : Position.editExternalPosition m s c clm newUnit data = .ok s') :
    OnlyEdits clm (fun _ => False) (fun d => d = c) s s' ∧ s'.externalRealUnit c clm ≤ newUnit := by
  cases Position.editExternalPosition_cases hm h with
  | opened nonzero l ms v listed owned rounded kept =>
    refine ⟨⟨rfl, fun d _ => ?_, fun d q hd => ?_, fun d q hd => ?_, fun d q hd => ?_,
      fun d _ hd => ?_⟩, ?_⟩
    · simp
    · simp [hd]
    · simp [hd]
    · rw [Position.externalPositionModules_withExternalPosition]
      split
      · rename_i hdc
        subst hdc
        have hq : q ≠ clm := fun hq => hd ⟨rfl, hq⟩
        rcases owned with ⟨-, rfl⟩ | ⟨-, rfl⟩
        · rfl
        · simp [hq]
      · rfl
    · rw [Position.components_withExternalPosition]
      rcases listed with ⟨-, rfl⟩ | ⟨-, rfl, -⟩
      · rfl
      · simp [hd]
    · simp only [SetToken.externalRealUnit, SetToken.realUnit,
        Position.externalPositionVirtualUnit_withExternalPosition, and_self, if_true,
        Position.positionMultiplier_withExternalPosition, rounded]
      exact Rounding.ediv_mul_ediv_le preciseUnitInt_pos hm
  | closed zero open_ l owned listed =>
    refine ⟨⟨rfl, fun d _ => ?_, fun d q hd => ?_, fun d q hd => ?_, fun d q hd => ?_,
      fun d _ hd => ?_⟩, ?_⟩
    · simp
    · simp [hd]
    · simp [hd]
    · rw [Position.externalPositionModules_withExternalPosition]
      split
      · rename_i hdc
        subst hdc
        have hq : q ≠ clm := fun hq => hd ⟨rfl, hq⟩
        exact mem_swapPop_of_ne owned hq
      · rfl
    · rw [Position.components_withExternalPosition]
      rcases listed with ⟨-, rfl⟩ | ⟨-, -, old, rfl⟩
      · rfl
      · exact mem_swapPop_of_ne old hd
    · simp [SetToken.externalRealUnit, SetToken.realUnit, zero]
  | absent zero closed => exact ⟨OnlyEdits.refl s, by rw [closed, zero]⟩

/-! ## Compound -/

/-- What Compound does when it accrues interest on the debt of a Set: it keeps what is owed in its
own storage. -/
structure AccruesOnly (env : Env) (setToken : Address) : Prop where
  /-- The positions of the Set are left alone. -/
  positions : ∀ cToken w w' n, env.borrowBalanceCurrent cToken setToken w = .ok (w', n) →
    w'.setTokens setToken = w.setTokens setToken
  /-- No tokens move. -/
  tokens : ∀ cToken w w' n, env.borrowBalanceCurrent cToken setToken w = .ok (w', n) →
    w'.tokens = w.tokens

/-- What Compound says that a Set owes on a market, with or without the interest up to the block. -/
def borrowBalance (env : Env) (shouldAccrueInterest : Bool) (cToken setToken : Address)
    (w : World) : Except Revert (World × ℕ) :=
  if shouldAccrueInterest then env.borrowBalanceCurrent cToken setToken w
  else do return (w, ← env.borrowBalanceStored cToken setToken w)

variable {shouldAccrueInterest : Bool} {n : ℕ} {unit : ℤ}

/-- Asking for it changes neither the positions of the Set nor any tokens. -/
theorem AccruesOnly.of_borrowBalance (hacc : AccruesOnly env setToken)
    (h : borrowBalance env shouldAccrueInterest cToken setToken w = .ok (w', n)) :
    w'.setTokens setToken = w.setTokens setToken ∧ w'.tokens = w.tokens := by
  unfold borrowBalance at h
  split_ifs at h
  · exact ⟨hacc.positions _ _ _ _ h, hacc.tokens _ _ _ _ h⟩
  · simp only [bind_eq_ok, pure_eq_ok, Prod.mk.injEq] at h
    obtain ⟨_, -, rfl, -⟩ := h
    exact ⟨rfl, rfl⟩

/-! ## Rounds -/

/-- A round over collateral touches the default position of its market, and what is read back is
covered by what the Set holds. -/
theorem syncCollateral_spec (hm : 0 < (w.setTokens setToken).positionMultiplier)
    (h : syncCollateral clm setToken supply w c = .ok w') :
    ∃ s, w' = w.setSetToken setToken s ∧
      OnlyEdits clm (fun d => d = c) (fun _ => False) (w.setTokens setToken) s ∧
      s.defaultRealUnit c * supply ≤ ((w.tokens c).balances setToken : ℤ) * preciseUnitInt := by
  simp only [syncCollateral, getCollateralPosition, bind_eq_ok,
    SetToken.getDefaultPositionRealUnit_eq_ok, SafeCast.toUint256_eq_ok,
    PreciseUnitMath.preciseDiv_eq_ok] at h
  obtain ⟨_, ⟨-, rfl⟩, previous, hprevious, _, ⟨-, -, rfl⟩, h⟩ := h
  set newUnit := (w.tokens c).balances setToken * preciseUnit / supply
  -- rounded down, the unit times the supply is covered
  have hcovered : (newUnit : ℤ) * supply ≤
      ((w.tokens c).balances setToken : ℤ) * preciseUnitInt := by
    rw [← natCast_preciseUnit]
    exact_mod_cast Nat.div_mul_le_self _ _
  split_ifs at h with hchange
  · obtain ⟨s, hs, rfl⟩ := World.editSetToken_eq_ok.mp h
    obtain ⟨hedits, hle⟩ : OnlyEdits clm (fun d => d = c) (fun _ => False) _ s ∧ _ :=
      onlyEdits_of_editDefaultPosition hm hs
    refine ⟨s, rfl, hedits, ?_⟩
    have hmul := Int.mul_le_mul_of_nonneg_right hle (Int.natCast_nonneg supply)
    exact hmul.trans hcovered
  · obtain rfl : w = w' := by simpa using h
    refine ⟨w.setTokens setToken, World.setSetToken_self.symm, OnlyEdits.refl _, ?_⟩
    have hsame : (w.setTokens setToken).defaultRealUnit c = newUnit := by
      rw [hprevious, not_not.mp hchange]
    rw [hsame]
    exact hcovered

/-- A unit that is at most the debt per Set, rounded up, with the sign changed, covers the debt. -/
theorem owed_le_of_unit_le (hsupply : 0 < supply) (h : unit ≤ -((n * preciseUnit) ⌈/⌉ supply : ℕ)) :
    (n : ℤ) * preciseUnitInt ≤ -unit * supply := by
  have hceil := Rounding.le_ceilDiv_mul (a := n * preciseUnit) hsupply
  have hunit : (((n * preciseUnit) ⌈/⌉ supply : ℕ) : ℤ) ≤ -unit := by omega
  rw [← natCast_preciseUnit]
  calc (n : ℤ) * (preciseUnit : ℤ) ≤ (((n * preciseUnit) ⌈/⌉ supply : ℕ) : ℤ) * supply := by
        exact_mod_cast hceil
    _ ≤ -unit * supply := Int.mul_le_mul_of_nonneg_right hunit (Int.natCast_nonneg supply)

/-- A round over debt touches the position of its asset in the module, and what is read back covers
what Compound says. -/
theorem syncBorrow_spec (hacc : AccruesOnly env setToken)
    (hm : 0 < (w.setTokens setToken).positionMultiplier) {assets : List Address} {i : ℕ}
    (h : syncBorrow clm env setToken supply shouldAccrueInterest assets w (cToken, i) = .ok w') :
    ∃ asset, assets[i]? = some asset ∧
      OnlyEdits clm (fun _ => False) (fun d => d = asset) (w.setTokens setToken)
        (w'.setTokens setToken) ∧
      w'.tokens = w.tokens ∧
      ∃ w₁ n, borrowBalance env shouldAccrueInterest cToken setToken w = .ok (w₁, n) ∧
        (n : ℤ) * preciseUnitInt ≤
          -(w'.setTokens setToken).externalRealUnit asset clm * supply := by
  simp only [syncBorrow, bind_eq_ok, AddressArrayUtils.read_eq_ok,
    SetToken.getExternalPositionRealUnit_eq_ok, Prod.exists] at h
  obtain ⟨asset, hasset, previous, ⟨-, hprevious⟩, w₁, unit, hposition, h⟩ := h
  obtain ⟨n, hbalance, hunit, hsupply⟩ := getBorrowPosition_eq_ok hposition
  change borrowBalance env shouldAccrueInterest cToken setToken w = .ok (w₁, n) at hbalance
  obtain ⟨hpositions, htokens⟩ := hacc.of_borrowBalance hbalance
  refine ⟨asset, hasset, ?_⟩
  split_ifs at h with hchange
  · obtain ⟨s, hs, rfl⟩ := World.editSetToken_eq_ok.mp h
    rw [hpositions] at hs
    obtain ⟨hedits, hle⟩ := onlyEdits_of_editExternalPosition hm hs
    rw [World.setTokens_setSetToken]
    exact ⟨hedits, htokens, w₁, n, hbalance, owed_le_of_unit_le hsupply (hunit ▸ hle)⟩
  · obtain rfl : w₁ = w' := by simpa using h
    rw [hpositions]
    refine ⟨OnlyEdits.refl _, htokens, w₁, n, hbalance, owed_le_of_unit_le hsupply ?_⟩
    rw [hprevious, ← hunit]
    exact (not_not.mp hchange).ge

/-! ## Loops -/

/-- The loop over collateral covers all of its markets, by induction on the list: a market that
comes again is written again, and the others keep what was written. -/
theorem collateralLoop_spec {l : List Address}
    (hm : 0 < (w.setTokens setToken).positionMultiplier)
    (h : l.foldlM (syncCollateral clm setToken supply) w = .ok w') :
    ∃ s, w' = w.setSetToken setToken s ∧
      OnlyEdits clm (fun d => d ∈ l) (fun _ => False) (w.setTokens setToken) s ∧
      ∀ c ∈ l, s.defaultRealUnit c * supply ≤
        ((w.tokens c).balances setToken : ℤ) * preciseUnitInt := by
  induction l generalizing w with
  | nil =>
    obtain rfl : w = w' := by simpa using h
    exact ⟨_, World.setSetToken_self.symm, OnlyEdits.refl _,
      fun c hc => absurd hc List.not_mem_nil⟩
  | cons a l ih =>
    obtain ⟨w₁, hround, hloop⟩ := foldlM_cons_eq_ok.mp h
    obtain ⟨s₁, rfl, hedits₁, hcovered₁⟩ := syncCollateral_spec hm hround
    have hm₁ : 0 < ((w.setSetToken setToken s₁).setTokens setToken).positionMultiplier := by
      rw [World.setTokens_setSetToken, hedits₁.multiplier]
      exact hm
    obtain ⟨s₂, rfl, hedits₂, hcovered₂⟩ := ih hm₁ hloop
    rw [World.setTokens_setSetToken] at hedits₂
    refine ⟨s₂, World.setSetToken_setSetToken, ?_, fun c hc => ?_⟩
    · have h₁ : OnlyEdits clm (fun d => d ∈ a :: l) (fun _ => False) (w.setTokens setToken) s₁ :=
        hedits₁.mono (fun d hd => hd ▸ List.mem_cons_self) fun _ h => h
      have h₂ : OnlyEdits clm (fun d => d ∈ a :: l) (fun _ => False) s₁ s₂ :=
        hedits₂.mono (fun d hd => List.mem_cons_of_mem a hd) fun _ h => h
      exact h₁.trans h₂
    · by_cases hl : c ∈ l
      · exact hcovered₂ c hl
      · have hca : c = a := (List.mem_cons.mp hc).resolve_right hl
        subst hca
        rw [hedits₂.defaultRealUnit_eq hl]
        exact hcovered₁

/-- The loop over debt touches the positions that its assets have in the module. -/
theorem borrowLoop_spec (hacc : AccruesOnly env setToken) {assets : List Address}
    {l : List (Address × ℕ)} (hm : 0 < (w.setTokens setToken).positionMultiplier)
    (h : l.foldlM (syncBorrow clm env setToken supply shouldAccrueInterest assets) w = .ok w') :
    OnlyEdits clm (fun _ => False) (fun d => ∃ entry ∈ l, assets[entry.2]? = some d)
      (w.setTokens setToken) (w'.setTokens setToken) ∧ w'.tokens = w.tokens := by
  have hdone := foldlM_preserves (fun w' => OnlyEdits clm (fun _ => False)
      (fun d => ∃ entry ∈ l, assets[entry.2]? = some d) (w.setTokens setToken)
      (w'.setTokens setToken) ∧ w'.tokens = w.tokens) ?_ ⟨OnlyEdits.refl _, rfl⟩ h
  · exact hdone
  · rintro ⟨cToken, i⟩ hentry w₁ w₂ ⟨hedits, htokens⟩ hround
    obtain ⟨asset, hasset, hedits', htokens', -⟩ :=
      syncBorrow_spec hacc (hedits.multiplier ▸ hm) hround
    refine ⟨hedits.trans (hedits'.mono (fun _ h => h) fun d hd => ?_), htokens'.trans htokens⟩
    exact ⟨(cToken, i), hentry, hd ▸ hasset⟩

/-- The loop over debt covers what Compound returns for the market at an index: the round of its
asset writes it, and the rounds after it write other assets. -/
theorem borrowLoop_covers (hacc : AccruesOnly env setToken) {assets cTokens : List Address}
    {i : ℕ} {asset : Address} (hm : 0 < (w.setTokens setToken).positionMultiplier)
    (hassets : assets.Nodup) (hasset : assets[i]? = some asset)
    (hcToken : cTokens[i]? = some cToken)
    (h : cTokens.zipIdx.foldlM (syncBorrow clm env setToken supply shouldAccrueInterest assets) w =
      .ok w') :
    ∃ w₁ w₂ n,
      (cTokens.zipIdx.take i).foldlM
        (syncBorrow clm env setToken supply shouldAccrueInterest assets) w = .ok w₁ ∧
      borrowBalance env shouldAccrueInterest cToken setToken w₁ = .ok (w₂, n) ∧
      (n : ℤ) * preciseUnitInt ≤ -(w'.setTokens setToken).externalRealUnit asset clm * supply := by
  have hindex : cTokens.zipIdx[i]? = some (cToken, i) := by
    rw [List.getElem?_zipIdx, hcToken, Nat.zero_add]
    rfl
  obtain ⟨w₁, w₃, hbefore, hround, hafter⟩ := foldlM_eq_ok_split hindex h
  obtain ⟨hedits₁, -⟩ := borrowLoop_spec hacc hm hbefore
  have hm₁ : 0 < (w₁.setTokens setToken).positionMultiplier := hedits₁.multiplier ▸ hm
  obtain ⟨asset', hasset', hedits₃, -, w₂, n, hbalance, howed⟩ := syncBorrow_spec hacc hm₁ hround
  obtain rfl : asset = asset' := Option.some.inj (hasset.symm.trans hasset')
  obtain ⟨hedits', -⟩ := borrowLoop_spec hacc (hedits₃.multiplier ▸ hm₁) hafter
  have hothers : ¬∃ entry ∈ cTokens.zipIdx.drop (i + 1), assets[entry.2]? = some asset := by
    rintro ⟨entry, hentry, hsame⟩
    obtain ⟨j, hj, rfl⟩ := List.mem_drop_iff_getElem.mp hentry
    have hlt := (List.getElem?_eq_some_iff.mp hasset).1
    have hij := (List.getElem?_inj hlt hassets).mp (hasset.trans hsame.symm)
    rw [List.getElem_zipIdx] at hij
    dsimp only at hij
    omega
  refine ⟨w₁, w₂, n, hbefore, hbalance, ?_⟩
  rw [hedits'.externalRealUnit_eq hothers]
  exact howed

/-! ## The sync -/

/-- The world in which `sync` asks Compound for the debt on the market at an index: the loop over
collateral and the rounds over the markets before it are done. -/
def beforeDebt (clm : Address) (env : Env) (w : World) (setToken : Address)
    (shouldAccrueInterest : Bool) (i : ℕ) : Except Revert World := do
  let setTotalSupply := w.totalSupply setToken
  let enabled := w.compoundLeverage.enabledAssets setToken
  let w ← enabled.collateralCTokens.foldlM (syncCollateral clm setToken setTotalSupply) w
  (enabled.borrowCTokens.zipIdx.take i).foldlM
    (syncBorrow clm env setToken setTotalSupply shouldAccrueInterest enabled.borrowAssets) w

/-- What Compound returns to `sync` for the market at an index. -/
def returnedDebt (clm : Address) (env : Env) (w : World) (setToken : Address)
    (shouldAccrueInterest : Bool) (i : ℕ) (cToken : Address) : Except Revert ℕ := do
  let w ← beforeDebt clm env w setToken shouldAccrueInterest i
  let (_, borrowNotionalBalance) ← borrowBalance env shouldAccrueInterest cToken setToken w
  return borrowNotionalBalance

/-- What a sync leaves. -/
structure Conservative (clm : Address) (env : Env) (w w' : World) (setToken : Address)
    (shouldAccrueInterest : Bool) : Prop where
  /-- The Set holds the default units of its collateral. -/
  collateral : ∀ c ∈ (w.compoundLeverage.enabledAssets setToken).collateralCTokens,
    (w'.setTokens setToken).defaultRealUnit c * (w.totalSupply setToken : ℤ) ≤
      ((w'.tokens c).balances setToken : ℤ) * preciseUnitInt
  /-- The external units of the assets to borrow cover what Compound returned. -/
  debt : ∀ i asset cToken,
    (w.compoundLeverage.enabledAssets setToken).borrowAssets[i]? = some asset →
    (w.compoundLeverage.enabledAssets setToken).borrowCTokens[i]? = some cToken →
    ∃ n, returnedDebt clm env w setToken shouldAccrueInterest i cToken = .ok n ∧
      (n : ℤ) * preciseUnitInt ≤
        -(w'.setTokens setToken).externalRealUnit asset clm * (w.totalSupply setToken : ℤ)
  /-- Only these positions have changed. -/
  others : OnlyEdits clm
    (fun d => d ∈ (w.compoundLeverage.enabledAssets setToken).collateralCTokens)
    (fun d => d ∈ (w.compoundLeverage.enabledAssets setToken).borrowAssets)
    (w.setTokens setToken) (w'.setTokens setToken)

/-- **Sync is conservative**: of a Set with some supply and a positive multiplier, on which the
enabled assets to borrow are distinct, after a sync the default unit of each enabled collateral
market, times the supply, is at most what the Set holds, the external unit of each enabled asset to
borrow, times the supply and without its sign, is at least what Compound returned, and no other
position has changed.

**Proof sketch.** The rounds over debt keep default units, so collateral is covered as its loop left
it. The loop over debt covers the debt of each asset, and both loops write nothing else. -/
theorem conservative_of_sync (hacc : AccruesOnly env setToken)
    (hsupply : 0 < w.totalSupply setToken) (hm : 0 < (w.setTokens setToken).positionMultiplier)
    (hassets : (w.compoundLeverage.enabledAssets setToken).borrowAssets.Nodup)
    (h : sync clm env w setToken shouldAccrueInterest = .ok w') :
    Conservative clm env w w' setToken shouldAccrueInterest := by
  simp only [sync, bind_eq_ok, hsupply, if_true] at h
  obtain ⟨-, -, w₁, hcollateral, hborrow⟩ := h
  obtain ⟨s, hw₁, hedits, hcovered⟩ := collateralLoop_spec hm hcollateral
  have hleverage : w₁.compoundLeverage = w.compoundLeverage := by
    rw [hw₁]
    rfl
  have hset : w₁.setTokens setToken = s := by
    rw [hw₁, World.setTokens_setSetToken]
  have htokens₁ : w₁.tokens = w.tokens := by
    rw [hw₁]
    rfl
  rw [hleverage] at hborrow
  have hm₁ : 0 < (w₁.setTokens setToken).positionMultiplier := by
    rw [hset, hedits.multiplier]
    exact hm
  obtain ⟨hedits', htokens⟩ := borrowLoop_spec hacc hm₁ hborrow
  rw [hset] at hedits'
  refine ⟨fun c hc => ?_, fun i asset cToken hasset hcToken => ?_, ?_⟩
  · rw [hedits'.defaultRealUnit_eq id, htokens, htokens₁]
    exact hcovered c hc
  · obtain ⟨w₂, w₃, n, hbefore, hbalance, howed⟩ :=
      borrowLoop_covers hacc hm₁ hassets hasset hcToken hborrow
    refine ⟨n, ?_, howed⟩
    simp only [returnedDebt, beforeDebt, bind_eq_ok, pure_eq_ok, Prod.exists]
    exact ⟨w₂, ⟨w₁, hcollateral, hbefore⟩, w₃, n, hbalance, rfl⟩
  · refine OnlyEdits.trans (hedits.mono (fun _ h => h) fun _ h => h.elim)
      (hedits'.mono (fun _ h => h.elim) fun d hd => ?_)
    obtain ⟨entry, -, hentry⟩ := hd
    exact List.mem_of_getElem? hentry

/-! ## Example -/

/-- The Set that owes the market a single unit for a supply of three, with a multiplier of 9/10. It
holds three of the token `12`, which is enabled as collateral. -/
def exampleWorld : World :=
  let w := marketWorld 0 (3 * 10 ^ 18) 1
  { w with
    setTokens := fun a => { w.setTokens a with positionMultiplier := 9 * 10 ^ 17 }
    compoundLeverage :=
      { w.compoundLeverage with
        enabledAssets := fun _ =>
          { collateralCTokens := [12], borrowCTokens := [22], borrowAssets := [11] } } }

private theorem accruesOnly_market : AccruesOnly (market 11) 100 := by
  have hsame : ∀ cToken w w' n, (market 11).borrowBalanceCurrent cToken 100 w = .ok (w', n) →
      w = w' := fun cToken w w' n h => (Prod.mk.inj (Except.ok.inj h)).1
  refine ⟨fun cToken w w' n h => ?_, fun cToken w w' n h => ?_⟩
  · rw [hsame cToken w w' n h]
  · rw [hsame cToken w w' n h]

/-- One unit of the collateral is lost to rounding, and the debt of a third of a unit per Set counts
as a whole one. -/
theorem conservative_of_sync_example :
    ∃ w, sync 7 (market 11) exampleWorld 100 true = .ok w ∧
      (w.setTokens 100).defaultRealUnit 12 = 10 ^ 18 - 1 ∧
      (w.setTokens 100).externalRealUnit 11 7 = -1 ∧
      Conservative 7 (market 11) exampleWorld w 100 true := by
  obtain ⟨w, hsync, hunits⟩ := exists_of_yields
    (x := sync 7 (market 11) exampleWorld 100 true)
    (p := fun w => (w.setTokens 100).defaultRealUnit 12 = 10 ^ 18 - 1 ∧
      (w.setTokens 100).externalRealUnit 11 7 = -1) (by decide +kernel)
  obtain ⟨hcollateral, hdebt⟩ := of_decide_eq_true hunits
  exact ⟨w, hsync, hcollateral, hdebt, conservative_of_sync accruesOnly_market (by decide +kernel)
    (by decide +kernel) (List.nodup_singleton 11) hsync⟩

end LeverageSync

end SetProtocol
