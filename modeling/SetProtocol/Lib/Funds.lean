import SetProtocol.Lib.Rounding

set_option relaxedAutoImplicit false
set_option autoImplicit false

/-!
# Funds

A fund issues shares and holds assets. Of each asset, `d` shares stand for a number of units. The
fund is backed when it holds what all shares together stand for, before anything is rounded, and it
is backed up to `e` when it holds that but for `e` parts of `d` of each asset.

Shares are exchanged for assets: what is paid in is rounded up, what is paid out is rounded down,
and neither changes the units. Besides, the manager of the fund marks some assets anew, to units
that their holdings back, and leaves the others alone. A dilution changes shares and units together,
and costs what the rounding of the new units does.

## Main definitions

* `Funds.Fund` — shares, holdings and units.
* `Funds.BackedAt`, `Funds.BackedUpTo` — the fund holds what its shares stand for.
* `Funds.Exchange` — shares for assets, or assets for shares.
* `Funds.Step` — an exchange, assets marked anew, or a dilution, with its cost.
* `Funds.Run` — steps in a row, with the sum of their costs.

## Main results

* `Funds.Step.backed`, `Funds.Run.backed` — a fund is backed after a step, or a run, up to its cost
  more than before.
* `Funds.BackedUpTo.payment_le` — what a backed fund pays for any part of its shares.
* `Funds.Exchange.surplus` — exchanges take nothing of what the fund holds beyond its shares, backed
  or not.
-/

namespace Funds

/-- A fund: what it issued, what it holds, and what its shares stand for. -/
structure Fund (α : Type*) where
  /-- The number of shares. -/
  supply : ℕ
  /-- What the fund holds of each asset. -/
  holding : α → ℕ
  /-- What a fixed number of shares stands for, of each asset. -/
  unit : α → ℕ

variable {α : Type*} {d e cost cost' : ℕ} {f f' f'' : Fund α} {a : α}

/-- The fund holds of the asset what its shares stand for, `d` of them for the unit. -/
def BackedAt (d : ℕ) (f : Fund α) (a : α) : Prop := f.unit a * f.supply ≤ f.holding a * d

/-- The fund holds what its shares stand for, up to `e` parts of `d` of each asset. -/
def BackedUpTo (d e : ℕ) (f : Fund α) : Prop := ∀ a, f.unit a * f.supply ≤ f.holding a * d + e

/-- A fund that is backed up to nothing is backed. -/
theorem BackedUpTo.backedAt (hf : BackedUpTo d 0 f) (a : α) : BackedAt d f a := hf a

/-- What a part of the shares is paid is there, but for what the fund is not backed up to. -/
theorem BackedUpTo.payment_le (hf : BackedUpTo d e f) {quantity : ℕ} (hq : quantity ≤ f.supply)
    (a : α) : f.unit a * quantity / d ≤ f.holding a + e / d := by
  rcases Nat.eq_zero_or_pos d with rfl | hd
  · simp
  · have hpart : f.unit a * quantity ≤ f.holding a * d + e :=
      (Nat.mul_le_mul_left _ hq).trans (hf a)
    calc f.unit a * quantity / d
        ≤ (f.holding a * d + e) / d := Nat.div_le_div_right hpart
      _ = f.holding a + e / d := by rw [Nat.add_comm, Nat.add_mul_div_right _ _ hd, Nat.add_comm]

/-! ## Steps -/

/-- Shares are exchanged for assets. -/
inductive Exchange (d : ℕ) (f f' : Fund α) : Prop
  /-- At most a quantity of shares is issued, and the assets for that quantity are paid in, rounded
  up. -/
  | deposit (quantity : ℕ) (units : f'.unit = f.unit) (issued : f'.supply ≤ f.supply + quantity)
      (paid : ∀ a, f.holding a + (f.unit a * quantity) ⌈/⌉ d ≤ f'.holding a)
  /-- At least a quantity of shares is given back, and at most the assets for that quantity are paid
  out, rounded down. -/
  | withdraw (quantity : ℕ) (units : f'.unit = f.unit)
      (returned : f'.supply + quantity ≤ f.supply)
      (paid : ∀ a, f.holding a ≤ f'.holding a + f.unit a * quantity / d)

/-- A step of a fund, with its cost in parts of `d` of each asset. -/
inductive Step (d : ℕ) (f f' : Fund α) : ℕ → Prop
  | exchange (h : Exchange d f f') : Step d f f' 0
  /-- The marked assets have new units that their holdings back. Of the others the fund lost
  nothing, and their units have not grown. -/
  | mark (marked : α → Prop) (supply : f'.supply = f.supply)
      (rounded : ∀ a, marked a → BackedAt d f' a)
      (others : ∀ a, ¬marked a → f'.unit a ≤ f.unit a ∧ f.holding a ≤ f'.holding a) : Step d f f' 0
  /-- What the shares stand for grows by no more than the holdings and the cost. -/
  | dilute (cost : ℕ)
      (diluted : ∀ a, f'.unit a * f'.supply + f.holding a * d ≤
        f.unit a * f.supply + f'.holding a * d + cost) : Step d f f' cost

/-- An exchange changes no units. -/
theorem Exchange.units (h : Exchange d f f') : f'.unit = f.unit := by
  cases h with
  | deposit _ units _ _ => exact units
  | withdraw _ units _ _ => exact units

/-- Over an exchange the holdings change by no less than what the shares stand for. -/
theorem Exchange.surplus (hd : 0 < d) (h : Exchange d f f') (a : α) :
    f.holding a * d + f.unit a * f'.supply ≤ f'.holding a * d + f.unit a * f.supply := by
  cases h with
  | deposit quantity _ issued paid =>
    have hceil := Rounding.le_ceilDiv_mul (a := f.unit a * quantity) hd
    have hissued : f.unit a * f'.supply ≤ f.unit a * f.supply + f.unit a * quantity := by
      rw [← Nat.mul_add]
      exact Nat.mul_le_mul_left _ issued
    have hpaid := Nat.mul_le_mul_right d (paid a)
    rw [Nat.add_mul] at hpaid
    omega
  | withdraw quantity _ returned paid =>
    have hfloor := Nat.div_mul_le_self (f.unit a * quantity) d
    have hreturned : f.unit a * f'.supply + f.unit a * quantity ≤ f.unit a * f.supply := by
      rw [← Nat.mul_add]
      exact Nat.mul_le_mul_left _ returned
    have hpaid := Nat.mul_le_mul_right d (paid a)
    rw [Nat.add_mul] at hpaid
    omega

/-- What holds of one exchange holds of two in a row. -/
theorem surplus_trans (hunits : f'.unit a = f.unit a)
    (h : f.holding a * d + f.unit a * f'.supply ≤ f'.holding a * d + f.unit a * f.supply)
    (h' : f'.holding a * d + f'.unit a * f''.supply ≤ f''.holding a * d + f'.unit a * f'.supply) :
    f.holding a * d + f.unit a * f''.supply ≤ f''.holding a * d + f.unit a * f.supply := by
  rw [hunits] at h'
  omega

/-- Where as many shares were issued as were given back, the fund has lost nothing. -/
theorem holding_le_of_surplus (hd : 0 < d) (hsupply : f.supply ≤ f'.supply)
    (h : f.holding a * d + f.unit a * f'.supply ≤ f'.holding a * d + f.unit a * f.supply) :
    f.holding a ≤ f'.holding a := by
  have hclaims := Nat.mul_le_mul_left (f.unit a) hsupply
  exact Nat.le_of_mul_le_mul_right (by omega) hd

/-- After a step the fund is backed up to the cost more than before. -/
theorem Step.backed (hd : 0 < d) (h : Step d f f' cost) (hf : BackedUpTo d e f) :
    BackedUpTo d (e + cost) f' := by
  intro a
  have hbacked := hf a
  cases h with
  | exchange h =>
    have hsurplus := h.surplus hd a
    rw [h.units]
    omega
  | mark marked supply rounded others =>
    by_cases ha : marked a
    · exact (rounded a ha).trans (Nat.le_add_right _ _)
    · obtain ⟨hunit, hholding⟩ := others a ha
      calc f'.unit a * f'.supply
          ≤ f.unit a * f.supply := by
            rw [supply]
            exact Nat.mul_le_mul_right _ hunit
        _ ≤ f.holding a * d + e := hbacked
        _ ≤ f'.holding a * d + (e + 0) := by
            rw [Nat.add_zero]
            exact Nat.add_le_add_right (Nat.mul_le_mul_right d hholding) e
  | dilute _ diluted =>
    have hdiluted := diluted a
    omega

/-! ## Runs -/

/-- Steps in a row, with the sum of their costs. -/
inductive Run (d : ℕ) (f : Fund α) : Fund α → ℕ → Prop
  | start : Run d f f 0
  | next {f' f'' : Fund α} {cost cost' : ℕ} (run : Run d f f' cost) (step : Step d f' f'' cost') :
      Run d f f'' (cost + cost')

/-- A step is a run. -/
theorem Step.run (h : Step d f f' cost) : Run d f f' cost := by
  have hrun := Run.start.next h
  rwa [Nat.zero_add] at hrun

/-- Runs are put one after the other. -/
theorem Run.trans (h : Run d f f' cost) (h' : Run d f' f'' cost') :
    Run d f f'' (cost + cost') := by
  induction h' with
  | start => exact h
  | next _ step ih =>
    rw [← Nat.add_assoc]
    exact ih.next step

/-- After a run the fund is backed up to the cost of the run more than before. -/
theorem Run.backed (hd : 0 < d) (h : Run d f f' cost) (hf : BackedUpTo d e f) :
    BackedUpTo d (e + cost) f' := by
  induction h with
  | start => exact hf
  | next _ step ih =>
    rw [← Nat.add_assoc]
    exact step.backed hd ih

end Funds
