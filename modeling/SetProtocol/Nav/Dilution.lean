import SetProtocol.Modules.NavIssuanceModule

set_option relaxedAutoImplicit false
set_option autoImplicit false

/-!
# The value of minted Sets

Sets are minted for a net reserve quantity at the valuation of the Set. The quantity to mint is the
value of the reserve, less the premium, over the value of a Set; the denominator is the value of the
whole supply, and the premium is added to it. All quotients are rounded down, and this favours the
existing holders, except in the denominator: there the value of the supply is rounded down, which
favours the buyer.

The premium makes up for that. Without it, the Sets minted can be worth more than the reserve, by
the factor that the value of the supply loses to its rounding.

## Main results

* `SetProtocol.NavIssuanceModule.mint_value_le` — the value of the minted Sets.
* `SetProtocol.NavIssuanceModule.mint_dilutes` — where it is more than the value of the reserve.
-/

namespace SetProtocol

open Checked

namespace NavIssuanceModule

/-! ## The formula -/

section Formula

variable (net supply setTokenValuation premium unit : ℕ)

/-- The value of a reserve quantity in precise units. -/
def reserveValue : ℕ := net * preciseUnit / unit

/-- What is left of a reserve quantity without the premium. -/
def lessPremium : ℕ := net - net * premium / preciseUnit

/-- What the premium takes off the value of a reserve quantity. -/
def premiumValue : ℕ := reserveValue net unit - reserveValue (lessPremium net premium) unit

/-- The premium does not raise the value. -/
theorem reserveValue_lessPremium_le :
    reserveValue (lessPremium net premium) unit ≤ reserveValue net unit := by
  apply Nat.div_le_div_right
  apply Nat.mul_le_mul_right
  exact Nat.sub_le net _

theorem reserveValue_add_premiumValue :
    reserveValue (lessPremium net premium) unit + premiumValue net premium unit =
      reserveValue net unit :=
  Nat.add_sub_of_le (reserveValue_lessPremium_le net premium unit)

/-- The minted Sets times the denominator are no more than the supply times the value of the reserve
less the premium. -/
theorem mintQuantityOf_mul_le :
    mintQuantityOf net supply setTokenValuation premium unit *
        (supply * setTokenValuation / preciseUnit + premiumValue net premium unit) ≤
      reserveValue (lessPremium net premium) unit * supply := by
  rw [premiumValue, ← Nat.add_sub_assoc (reserveValue_lessPremium_le net premium unit)]
  exact Rounding.div_mul_div_mul_le

/-- The minted Sets are worth no more than the reserve, up to the rounding of the value of the
supply. -/
theorem mintQuantityOf_value_le :
    mintQuantityOf net supply setTokenValuation premium unit * setTokenValuation *
        (supply * setTokenValuation / preciseUnit) ≤
      reserveValue net unit * (supply * setTokenValuation) := by
  have hissued := Rounding.issued_value_le (v := setTokenValuation)
    (mintQuantityOf_mul_le net supply setTokenValuation premium unit)
  have hle := reserveValue_lessPremium_le net premium unit
  exact hissued.trans (Nat.mul_le_mul_right _ hle)

/-- They are worth no more than the reserve with a premium, and without rounding. -/
theorem mintQuantityOf_value_le_of_premium (hpos : 0 < supply * setTokenValuation)
    (h : reserveValue (lessPremium net premium) unit < reserveValue net unit ∨
      preciseUnit ∣ supply * setTokenValuation) :
    mintQuantityOf net supply setTokenValuation premium unit * setTokenValuation ≤
      reserveValue net unit * preciseUnit := by
  have hq := mintQuantityOf_mul_le net supply setTokenValuation premium unit
  rcases h with hlt | hdvd
  · have hpremium : 0 < premiumValue net premium unit := Nat.sub_pos_of_lt hlt
    rw [← reserveValue_add_premiumValue net premium unit]
    exact Rounding.issued_value_le_of_surcharge preciseUnit_pos hq rfl hpremium
  · have hissued := Rounding.issued_value_le_of_dvd preciseUnit_pos hq rfl hdvd hpos
    have hle := reserveValue_lessPremium_le net premium unit
    exact hissued.trans (Nat.mul_le_mul_right preciseUnit hle)

end Formula

/-! ## The quantity to mint -/

variable {env : Env} {w : World} {setToken reserveAsset : Address}
  {net supply setTokenValuation minted : ℕ}

/-- A unit of a reserve asset with no more than 18 decimals fits. -/
theorem reserveAssetUnit_eq (hdecimals : (w.tokens reserveAsset).decimals ≤ 18) :
    reserveAssetUnit w reserveAsset = 10 ^ (w.tokens reserveAsset).decimals :=
  ERC20.ten_pow_mod_of_le hdecimals

/-- **The value of the minted Sets**: a mint of `q` Sets for a net reserve quantity, of the value
`F`, at the supply `S` and the valuation `V`. The Sets are worth no more than the reserve, up to the
rounding of the value of the supply: `q * V * ⌊S * V⌋ ≤ F * (S * V)`. They are worth no more than
the reserve, `q * V ≤ F`, if the premium takes something off the value of the reserve, and if the
value of the supply is a whole number. -/
theorem mint_value_le (hsupply : 0 < supply)
    (hvaluation : env.calculateSetTokenValuation setToken reserveAsset w = .ok setTokenValuation)
    (hpos : 0 < setTokenValuation) (hdecimals : (w.tokens reserveAsset).decimals ≤ 18)
    (h : getSetTokenMintQuantity env w setToken reserveAsset net supply = .ok minted) :
    minted * setTokenValuation * (supply * setTokenValuation / preciseUnit) ≤
        reserveValue net (10 ^ (w.tokens reserveAsset).decimals) *
          (supply * setTokenValuation) ∧
      (reserveValue (lessPremium net (getIssuePremium w setToken))
            (10 ^ (w.tokens reserveAsset).decimals) <
          reserveValue net (10 ^ (w.tokens reserveAsset).decimals) ∨
        preciseUnit ∣ supply * setTokenValuation →
        minted * setTokenValuation ≤
          reserveValue net (10 ^ (w.tokens reserveAsset).decimals) * preciseUnit) := by
  have hminted := getSetTokenMintQuantity_eq_ok h
  rw [valuation, hvaluation, reserveAssetUnit_eq hdecimals] at hminted
  rw [hminted]
  have hvalue : 0 < supply * setTokenValuation := Nat.mul_pos hsupply hpos
  exact ⟨mintQuantityOf_value_le _ _ _ _ _, mintQuantityOf_value_le_of_premium _ _ _ _ _ hvalue⟩

/-- The Set `100` with a reserve asset of 18 decimals and no premium. -/
def exampleMintWorld : World := { tokens := fun _ => { decimals := 18 } }

/-- At the supply of two whole Sets of the value `3`, the reserve `4` buys `8 / 6` Sets. -/
theorem mint_value_le_example :
    ∃ minted, getSetTokenMintQuantity { calculateSetTokenValuation := fun _ _ _ => .ok 3 }
        exampleMintWorld 100 50 4 (2 * 10 ^ 18) = .ok minted ∧
      minted * 3 ≤ 4 * preciseUnit := by
  obtain ⟨minted, hminted, -⟩ := exists_of_yields
    (x := getSetTokenMintQuantity { calculateSetTokenValuation := fun _ _ _ => .ok 3 }
      exampleMintWorld 100 50 4 (2 * 10 ^ 18))
    (p := fun _ => true) (by decide +kernel)
  have hvalue := (mint_value_le (by decide) rfl (by decide) (by decide) hminted).2
  exact ⟨minted, hminted, hvalue (.inr (by decide))⟩

/-- At the supply 1.5 and the valuation `1`, the reserve `2` buys three Sets: the value of the
supply is rounded down to `1`. -/
theorem mint_dilutes :
    ∃ minted, getSetTokenMintQuantity { calculateSetTokenValuation := fun _ _ _ => .ok 1 }
        exampleMintWorld 100 50 2 (15 * 10 ^ 17) = .ok minted ∧
      getIssuePremium exampleMintWorld 100 < preciseUnit ∧
      (exampleMintWorld.tokens 50).decimals = 18 ∧
      ¬minted * 1 ≤ 2 * 10 ^ 18 / 10 ^ 18 * 10 ^ 18 := by
  obtain ⟨minted, hminted, hvalue⟩ := exists_of_yields
    (x := getSetTokenMintQuantity { calculateSetTokenValuation := fun _ _ _ => .ok 1 }
      exampleMintWorld 100 50 2 (15 * 10 ^ 17))
    (p := fun minted => minted = 3 * 10 ^ 18) (by decide +kernel)
  obtain rfl := of_decide_eq_true hvalue
  exact ⟨_, hminted, by decide, by decide, by decide⟩

end NavIssuanceModule

end SetProtocol
