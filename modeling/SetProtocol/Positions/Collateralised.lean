import SetProtocol.Core.World

set_option relaxedAutoImplicit false
set_option autoImplicit false

/-!
# Collateralised Sets

A Set with default positions is collateralised when it holds, of each component, the default unit
times the supply. The default unit is the product of the virtual unit and the multiplier, rounded
down, so the balance need not cover the fraction that is rounded off.

## Main definitions

* `SetProtocol.DefaultOnly` — the Set has default positions only.
* `SetProtocol.Collateralised` — it holds enough of a component.
* `SetProtocol.BackedBeforeRounding` — it holds enough for the unit before that is rounded.

## Main results

* `SetProtocol.BackedBeforeRounding.collateralised` — what is backed before rounding is
  collateralised.
* `SetProtocol.BackedBeforeRounding.collateralised_of_scaled` — it stays so when multiplier and
  supply are scaled against each other.
-/

namespace SetProtocol

variable {w : World} {setToken c : Address}

/-- The Set has distinct components, and no external positions in them. -/
structure DefaultOnly (s : SetToken) : Prop where
  /-- No component is listed twice. -/
  nodup : s.components.Nodup
  /-- No component has an external position. -/
  external : ∀ c ∈ s.components, s.externalPositionModules c = []

/-- The Set holds enough of the component for the default unit of its whole supply. -/
def Collateralised (w : World) (setToken c : Address) : Prop :=
  (w.setTokens setToken).defaultRealUnit c * (w.totalSupply setToken : ℤ) ≤
    ((w.tokens c).balances setToken : ℤ) * preciseUnitInt

instance (w : World) (setToken c : Address) : Decidable (Collateralised w setToken c) :=
  inferInstanceAs (Decidable (_ ≤ _))

/-- The Set holds enough of the component for its whole supply before the unit is rounded: what the
rounded unit hides is there as well. -/
def BackedBeforeRounding (w : World) (setToken c : Address) : Prop :=
  (w.setTokens setToken).defaultPositionVirtualUnit c *
      (w.setTokens setToken).positionMultiplier * (w.totalSupply setToken : ℤ) ≤
    ((w.tokens c).balances setToken : ℤ) * preciseUnitInt * preciseUnitInt

instance (w : World) (setToken c : Address) : Decidable (BackedBeforeRounding w setToken c) :=
  inferInstanceAs (Decidable (_ ≤ _))

/-- A unit that is not positive asks for nothing. -/
theorem collateralised_of_nonpos (h : (w.setTokens setToken).defaultRealUnit c ≤ 0) :
    Collateralised w setToken c := by
  calc (w.setTokens setToken).defaultRealUnit c * (w.totalSupply setToken : ℤ) ≤ 0 :=
        Int.mul_nonpos_of_nonpos_of_nonneg h (Int.natCast_nonneg _)
    _ ≤ ((w.tokens c).balances setToken : ℤ) * preciseUnitInt :=
        Int.mul_nonneg (Int.natCast_nonneg _) preciseUnitInt_pos.le

/-- A Set is collateralised as shares are backed: a negative unit asks for nothing. -/
theorem collateralised_iff :
    Collateralised w setToken c ↔
      ((w.setTokens setToken).defaultRealUnit c).toNat * w.totalSupply setToken ≤
        (w.tokens c).balances setToken * preciseUnit := by
  rcases le_or_gt 0 ((w.setTokens setToken).defaultRealUnit c) with h | h
  · obtain ⟨u, hu⟩ := Int.eq_ofNat_of_zero_le h
    rw [Collateralised, ← natCast_preciseUnit, hu, Int.toNat_natCast]
    exact_mod_cast Iff.rfl
  · rw [Int.toNat_of_nonpos h.le, Nat.zero_mul]
    exact iff_of_true (collateralised_of_nonpos h.le) (Nat.zero_le _)

/-- A Set that holds enough of a component for the whole supply before rounding is
collateralised. -/
theorem BackedBeforeRounding.collateralised (h : BackedBeforeRounding w setToken c) :
    Collateralised w setToken c := by
  set v := (w.setTokens setToken).defaultPositionVirtualUnit c *
    (w.setTokens setToken).positionMultiplier with hv
  have hfloor : v / preciseUnitInt * preciseUnitInt ≤ v := Int.ediv_mul_le v preciseUnitInt_pos.ne'
  unfold Collateralised SetToken.defaultRealUnit SetToken.realUnit
  rw [← hv]
  refine le_of_mul_le_mul_right ?_ preciseUnitInt_pos
  calc v / preciseUnitInt * (w.totalSupply setToken : ℤ) * preciseUnitInt
      = v / preciseUnitInt * preciseUnitInt * (w.totalSupply setToken : ℤ) := by ring
    _ ≤ v * (w.totalSupply setToken : ℤ) :=
        Int.mul_le_mul_of_nonneg_right hfloor (Int.natCast_nonneg _)
    _ ≤ _ := h

/-- A negative unit stays negative under any multiplier. -/
theorem collateralised_of_neg {w' : World}
    (hvirtual : (w'.setTokens setToken).defaultPositionVirtualUnit c =
      (w.setTokens setToken).defaultPositionVirtualUnit c)
    (hunit : (w.setTokens setToken).defaultPositionVirtualUnit c < 0)
    (hpos : 0 ≤ (w'.setTokens setToken).positionMultiplier) : Collateralised w' setToken c := by
  apply collateralised_of_nonpos
  unfold SetToken.defaultRealUnit SetToken.realUnit
  apply Int.ediv_le_of_le_mul preciseUnitInt_pos
  rw [hvirtual, Int.zero_mul]
  exact Int.mul_nonpos_of_nonpos_of_nonneg hunit.le hpos

/-- What is backed before rounding is still collateralised when the multiplier falls at least by the
ratio by which the supply grows. -/
theorem BackedBeforeRounding.collateralised_of_scaled {w' : World}
    (h : BackedBeforeRounding w setToken c)
    (hvirtual : (w'.setTokens setToken).defaultPositionVirtualUnit c =
      (w.setTokens setToken).defaultPositionVirtualUnit c)
    (hpos : 0 ≤ (w'.setTokens setToken).positionMultiplier)
    (hscaled : (w'.setTokens setToken).positionMultiplier * (w'.totalSupply setToken : ℤ) ≤
      (w.setTokens setToken).positionMultiplier * (w.totalSupply setToken : ℤ))
    (hbal : (w.tokens c).balances setToken ≤ (w'.tokens c).balances setToken) :
    Collateralised w' setToken c := by
  rcases le_or_gt 0 ((w.setTokens setToken).defaultPositionVirtualUnit c) with hunit | hunit
  · apply BackedBeforeRounding.collateralised
    unfold BackedBeforeRounding
    rw [hvirtual]
    calc (w.setTokens setToken).defaultPositionVirtualUnit c *
          (w'.setTokens setToken).positionMultiplier * (w'.totalSupply setToken : ℤ)
        = (w.setTokens setToken).defaultPositionVirtualUnit c *
            ((w'.setTokens setToken).positionMultiplier * (w'.totalSupply setToken : ℤ)) :=
          Int.mul_assoc _ _ _
      _ ≤ (w.setTokens setToken).defaultPositionVirtualUnit c *
            ((w.setTokens setToken).positionMultiplier * (w.totalSupply setToken : ℤ)) :=
          Int.mul_le_mul_of_nonneg_left hscaled hunit
      _ ≤ (w.tokens c).balances setToken * preciseUnitInt * preciseUnitInt := by
          rw [← Int.mul_assoc]
          exact h
      _ ≤ (w'.tokens c).balances setToken * preciseUnitInt * preciseUnitInt := by
          have hsq := Int.mul_nonneg preciseUnitInt_pos.le preciseUnitInt_pos.le
          have hbal' : ((w.tokens c).balances setToken : ℤ) ≤ (w'.tokens c).balances setToken := by
            exact_mod_cast hbal
          rw [Int.mul_assoc, Int.mul_assoc]
          exact Int.mul_le_mul_of_nonneg_right hbal' hsq
  · exact collateralised_of_neg hvirtual hunit hpos

end SetProtocol
