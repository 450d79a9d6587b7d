import Mathlib.Data.Rat.Floor
import SetProtocol.Lib.Quotients
import SetProtocol.Prices.Nesting

set_option relaxedAutoImplicit false
set_option autoImplicit false

/-!
# What pool tokens are worth

A pool token is worth a part of the reserves of its pool. When these are pool tokens as well, it is
worth a part of a part, and so on down to tokens that have an oracle. The price oracle computes this
with a rounding at each step, and keeps the tokens and the decimals of each pool in the storage of
an adapter that its owner edits.

## Main definitions

* `SetProtocol.PriceSystem.Governed` — the adapters are in states that their owners can bring about.
* `SetProtocol.PriceSystem.Worth` — what an asset is worth without roundings, and what they can take
  from it.

## Main results

* `SetProtocol.PriceSystem.worth_bounds_of_getPrice` — the price of an asset is at most what it is
  worth, and less by no more than the roundings.
-/

namespace SetProtocol

open Checked Transition

namespace PriceSystem

/-- Every adapter of the price oracle was deployed, and called by its owner. -/
def Governed (S : PriceSystem) (tokens : PairTokens) : Prop :=
  ∀ adapter ∈ S.priceOracle.adapters, ∃ u msgSender controller uniswapFactory uniswapPools,
    UniswapPairPriceAdapter.deploy tokens msgSender controller uniswapFactory uniswapPools = .ok u ∧
      Reach (UniswapPairPriceAdapter.step tokens) u (S.adapters adapter)

/-- The adapter that prices an asset in the master quote asset, unless oracles do. -/
def poolAdapter (S : PriceSystem) (asset : Address) : Option Address :=
  if S.priceOracle.route asset S.masterQuoteAsset = .adapters then
    S.priceOracle.adapters.find? (S.prices asset S.masterQuoteAsset)
  else none

/-- What one whole pool token is worth: its part of the reserves. The price of the master quote
asset in itself is `m`. -/
def poolValue (r₁ r₂ d₁ d₂ supply m : ℕ) (v₁ v₂ : ℚ) : ℚ :=
  (r₁ / 10 ^ d₁ * v₁ + r₂ / 10 ^ d₂ * v₂) * (preciseUnit / supply) * (preciseUnit / m)

/-- What the roundings can take from the price of a pool token, with those of its two tokens. -/
def poolGrain (r₁ r₂ d₁ d₂ supply m : ℕ) (v₁ v₂ g₁ g₂ : ℚ) : ℚ :=
  (r₁ / 10 ^ d₁ * g₁ + r₂ / 10 ^ d₂ * g₂ + (v₁ + v₂) / preciseUnit + 2) *
    (preciseUnit / supply) * (preciseUnit / m) + preciseUnit / m + 1

/-- What one whole unit of an asset is worth in the master quote asset without roundings, and what
roundings can take from it. -/
inductive Worth (S : PriceSystem) (tokens : PairTokens) : Address → ℚ → ℚ → Prop
  | plain {asset sender : Address} {depth p : ℕ} (hplain : S.poolAdapter asset = none)
    (hprice : S.getPrice depth sender asset S.masterQuoteAsset = .ok p) : Worth S tokens asset p 0
  | pool {asset adapter sender one two : Address} {depth m d₁ d₂ r₁ r₂ supply : ℕ}
    {v₁ v₂ g₁ g₂ : ℚ} (hadapter : S.poolAdapter asset = some adapter)
    (hone : tokens.token0 asset = .ok one) (htwo : tokens.token1 asset = .ok two)
    (hd₁ : tokens.decimals one = .ok d₁) (hd₂ : tokens.decimals two = .ok d₂)
    (hreserves : UniswapV2Library.getReserves S.pairs (S.adapters adapter).uniswapFactory one two =
      .ok (r₁, r₂))
    (hsupply : S.pairs.totalSupply asset = .ok supply)
    (hmaster : S.getPrice depth sender S.masterQuoteAsset S.masterQuoteAsset = .ok m)
    (worthOne : Worth S tokens one v₁ g₁) (worthTwo : Worth S tokens two v₂ g₂) :
    Worth S tokens asset (poolValue r₁ r₂ d₁ d₂ supply m v₁ v₂)
      (poolGrain r₁ r₂ d₁ d₂ supply m v₁ v₂ g₁ g₂)

variable {S : PriceSystem} {tokens : PairTokens} {asset adapter sender sender' : Address}
  {assetOne assetTwo : Address} {depth depth' p p' : ℕ} {v g : ℚ}

/-- A price depends neither on who asks nor on the gas. -/
theorem getPrice_unique (h : S.getPrice depth sender assetOne assetTwo = .ok p)
    (h' : S.getPrice depth' sender' assetOne assetTwo = .ok p') : p = p' := by
  have h := getPrice_of_le (Nat.le_succ_of_le (Nat.le_max_left depth depth')) h
  have h' := getPrice_of_le (Nat.le_succ_of_le (Nat.le_max_right depth depth')) h'
  simp only [getPrice, PriceOracle.getPrice, bind_eq_ok, pure_eq_ok] at h h'
  obtain ⟨-, -, direct, hdirect, master, hmaster, found, hfound, -, -, rfl⟩ := h
  obtain ⟨-, -, direct', hdirect', master', hmaster', found', hfound', -, -, rfl⟩ := h'
  obtain rfl := Except.ok.inj (hdirect.symm.trans hdirect')
  obtain rfl := Except.ok.inj (hmaster.symm.trans hmaster')
  obtain rfl := Except.ok.inj (hfound.symm.trans hfound')
  rfl

/-- The price of a pool token is computed from the tokens and the decimals of the pool, and from
prices with less gas. -/
theorem getPrice_of_poolAdapter (hgoverned : S.Governed tokens)
    (hmaster : ∀ adapter, ¬S.IsPool adapter S.masterQuoteAsset)
    (hdecimals : ∀ token decimals, tokens.decimals token = .ok decimals → decimals ≤ 77)
    (hadapter : S.poolAdapter asset = some adapter)
    (h : S.getPrice (depth + 1) sender asset S.masterQuoteAsset = .ok p) :
    ∃ one two d₁ d₂ p₁ p₂ r₁ r₂ supply m,
      tokens.token0 asset = .ok one ∧ tokens.token1 asset = .ok two ∧
      tokens.decimals one = .ok d₁ ∧ tokens.decimals two = .ok d₂ ∧
      S.getPrice depth adapter one S.masterQuoteAsset = .ok p₁ ∧
      S.getPrice depth adapter two S.masterQuoteAsset = .ok p₂ ∧
      UniswapV2Library.getReserves S.pairs (S.adapters adapter).uniswapFactory one two =
        .ok (r₁, r₂) ∧
      S.pairs.totalSupply asset = .ok supply ∧
      S.getPrice depth adapter S.masterQuoteAsset S.masterQuoteAsset = .ok m ∧
      p = (r₁ * preciseUnit / 10 ^ d₁ * p₁ / preciseUnit +
        r₂ * preciseUnit / 10 ^ d₂ * p₂ / preciseUnit) * preciseUnit / supply *
          preciseUnit / m := by
  have hspec := PriceOracle.getPrice_spec h
  unfold poolAdapter at hadapter
  split_ifs at hadapter with hroute
  rw [hroute] at hspec
  obtain ⟨adapter', hfind, hanswer⟩ := find?_of_loop hspec
  obtain rfl := Option.some.inj (hadapter.symm.trans hfind)
  have hmem := List.mem_of_find?_eq_some hadapter
  -- the asset is the pool token, since the master quote asset is none
  have hnone : ((S.adapters adapter).uniswapPoolsToSettings S.masterQuoteAsset).isValid ≠ true :=
    fun hvalid => hmaster adapter ⟨hmem, hvalid⟩
  have hvalid : ((S.adapters adapter).uniswapPoolsToSettings asset).isValid = true := by
    have hprices := List.find?_some hadapter
    rw [prices, Bool.or_eq_true] at hprices
    exact hprices.resolve_right hnone
  obtain ⟨x, m, hx, hm, hp⟩ := (getPrice_readings_eq_ok hanswer).2 rfl
  rw [UniswapPairPriceAdapter.priceToMaster, if_pos hvalid] at hx
  rw [UniswapPairPriceAdapter.priceToMaster, if_neg hnone] at hm
  obtain ⟨u, _, _, _, _, hdeploy, hreach⟩ := hgoverned adapter hmem
  have hkept := UniswapPairPriceAdapter.kept_of_run hdeploy hreach
  have hsettings := hkept.settings asset hvalid
  simp only [UniswapPairPriceAdapter.settingsOf, bind_eq_ok, pure_eq_ok] at hsettings
  obtain ⟨one, hone, two, htwo, d₁, hd₁, d₂, hd₂, hstored⟩ := hsettings
  have hbase : ∀ d, d ≤ 77 → 10 ^ d % 2 ^ 256 = 10 ^ d := by
    intro d hd
    apply Nat.mod_eq_of_lt
    calc 10 ^ d ≤ 10 ^ 77 := Nat.pow_le_pow_right (by decide) hd
      _ < 2 ^ 256 := by decide
  simp only [UniswapPairPriceAdapter.getUniswapPrice, ← hstored, bind_eq_ok, Prod.exists,
    PreciseUnitMath.preciseDiv_eq_ok, PreciseUnitMath.preciseMul_eq_ok, SafeMath.add_eq_ok,
    hbase d₁ (hdecimals one d₁ hd₁), hbase d₂ (hdecimals two d₂ hd₂)] at hx
  obtain ⟨p₁, hp₁, p₂, hp₂, r₁, r₂, hreserves, _, ⟨-, -, rfl⟩, _, ⟨-, -, rfl⟩, _, ⟨-, rfl⟩, _,
    ⟨-, rfl⟩, _, ⟨-, rfl⟩, supply, hsupply, -, -, rfl⟩ := hx
  rw [PreciseUnitMath.preciseDiv_eq_ok] at hp
  obtain ⟨-, -, rfl⟩ := hp
  exact ⟨one, two, d₁, d₂, p₁, p₂, r₁, r₂, supply, m, hone, htwo, hd₁, hd₂, hp₁, hp₂, hreserves,
    hsupply, hm, rfl⟩

/-! ## Bounds -/

/-- The roundings of the price of a pool token, from those of its two tokens. -/
theorem poolValue_bounds {r₁ r₂ d₁ d₂ supply m p₁ p₂ : ℕ} {v₁ v₂ g₁ g₂ : ℚ}
    (h₁ : v₁ - g₁ ≤ p₁ ∧ p₁ ≤ v₁) (h₂ : v₂ - g₂ ≤ p₂ ∧ p₂ ≤ v₂)
    (hp : p = (r₁ * preciseUnit / 10 ^ d₁ * p₁ / preciseUnit +
      r₂ * preciseUnit / 10 ^ d₂ * p₂ / preciseUnit) * preciseUnit / supply *
        preciseUnit / m) :
    poolValue r₁ r₂ d₁ d₂ supply m v₁ v₂ - poolGrain r₁ r₂ d₁ d₂ supply m v₁ v₂ g₁ g₂ ≤ p ∧
      p ≤ poolValue r₁ r₂ d₁ d₂ supply m v₁ v₂ := by
  obtain ⟨hlow₁, hhigh₁⟩ := h₁
  obtain ⟨hlow₂, hhigh₂⟩ := h₂
  have hunit : (0 : ℚ) < preciseUnit := Nat.cast_pos.mpr preciseUnit_pos
  have hreserve : ∀ r d : ℕ, (0 : ℚ) ≤ r / 10 ^ d := fun r d => by positivity
  have hshare : (0 : ℚ) ≤ preciseUnit / supply := div_nonneg hunit.le (Nat.cast_nonneg _)
  have hquote : (0 : ℚ) ≤ preciseUnit / m := div_nonneg hunit.le (Nat.cast_nonneg _)
  -- what each token has in the reserves
  obtain ⟨hone, hone'⟩ :=
    Rounding.scaled_product_bounds (K := ℚ) r₁ (10 ^ d₁) p₁ preciseUnit_pos
  obtain ⟨htwo, htwo'⟩ :=
    Rounding.scaled_product_bounds (K := ℚ) r₂ (10 ^ d₂) p₂ preciseUnit_pos
  rw [Nat.cast_pow, Nat.cast_ofNat] at hone hone' htwo htwo'
  -- the part of a token, and its price in the master quote asset
  obtain ⟨hpart, hpart'⟩ := Rounding.scaled_quotient_bounds (K := ℚ)
    (r₁ * preciseUnit / 10 ^ d₁ * p₁ / preciseUnit +
      r₂ * preciseUnit / 10 ^ d₂ * p₂ / preciseUnit) preciseUnit supply
  obtain ⟨hprice, hprice'⟩ := Rounding.scaled_quotient_bounds (K := ℚ)
    ((r₁ * preciseUnit / 10 ^ d₁ * p₁ / preciseUnit +
      r₂ * preciseUnit / 10 ^ d₂ * p₂ / preciseUnit) * preciseUnit / supply) preciseUnit m
  rw [← hp] at hprice hprice'
  rw [Nat.cast_add] at hpart hpart'
  have hvalueOne := mul_le_mul_of_nonneg_left hhigh₁ (hreserve r₁ d₁)
  have hvalueTwo := mul_le_mul_of_nonneg_left hhigh₂ (hreserve r₂ d₂)
  have hlossOne := mul_le_mul_of_nonneg_left hlow₁ (hreserve r₁ d₁)
  have hlossTwo := mul_le_mul_of_nonneg_left hlow₂ (hreserve r₂ d₂)
  have hunitOne := div_le_div_of_nonneg_right hhigh₁ hunit.le
  have hunitTwo := div_le_div_of_nonneg_right hhigh₂ hunit.le
  unfold poolGrain poolValue
  constructor
  · have htotal : r₁ / 10 ^ d₁ * v₁ + r₂ / 10 ^ d₂ * v₂ -
        (r₁ / 10 ^ d₁ * g₁ + r₂ / 10 ^ d₂ * g₂ + (v₁ + v₂) / preciseUnit + 2) ≤
        ((r₁ * preciseUnit / 10 ^ d₁ * p₁ / preciseUnit : ℕ) : ℚ) +
          (r₂ * preciseUnit / 10 ^ d₂ * p₂ / preciseUnit : ℕ) := by
      rw [add_div]
      linarith
    have hshared := mul_le_mul_of_nonneg_right
      (mul_le_mul_of_nonneg_right htotal hshare) hquote
    have hquoted := mul_le_mul_of_nonneg_right hpart hquote
    linarith
  · have htotal : ((r₁ * preciseUnit / 10 ^ d₁ * p₁ / preciseUnit : ℕ) : ℚ) +
        (r₂ * preciseUnit / 10 ^ d₂ * p₂ / preciseUnit : ℕ) ≤
        r₁ / 10 ^ d₁ * v₁ + r₂ / 10 ^ d₂ * v₂ := by
      linarith
    calc (p : ℚ) ≤ _ := hprice'
      _ ≤ _ := mul_le_mul_of_nonneg_right hpart' hquote
      _ ≤ _ := mul_le_mul_of_nonneg_right (mul_le_mul_of_nonneg_right htotal hshare) hquote

section Governed

variable (hgoverned : S.Governed tokens)
  (hmaster : ∀ adapter, ¬S.IsPool adapter S.masterQuoteAsset)
  (hdecimals : ∀ token decimals, tokens.decimals token = .ok decimals → decimals ≤ 77)
include hgoverned hmaster hdecimals

/-- An asset that has a price is worth something. -/
theorem exists_worth (h : S.getPrice depth sender asset S.masterQuoteAsset = .ok p) :
    ∃ v g, Worth S tokens asset v g := by
  induction depth generalizing sender asset p with
  | zero => cases h
  | succ depth ih =>
    cases hadapter : S.poolAdapter asset with
    | none => exact ⟨p, 0, .plain hadapter h⟩
    | some adapter =>
      obtain ⟨one, two, d₁, d₂, p₁, p₂, r₁, r₂, supply, m, hone, htwo, hd₁, hd₂, hp₁, hp₂,
        hreserves, hsupply, hm, -⟩ :=
        getPrice_of_poolAdapter hgoverned hmaster hdecimals hadapter h
      obtain ⟨v₁, g₁, worthOne⟩ := ih hp₁
      obtain ⟨v₂, g₂, worthTwo⟩ := ih hp₂
      exact ⟨_, _, .pool hadapter hone htwo hd₁ hd₂ hreserves hsupply hm worthOne worthTwo⟩

/-- The price is at most what the asset is worth, and less by no more than the roundings. -/
theorem bounds_of_worth (hworth : Worth S tokens asset v g)
    (h : S.getPrice depth sender asset S.masterQuoteAsset = .ok p) :
    v - g ≤ p ∧ (p : ℚ) ≤ v := by
  induction hworth generalizing depth sender p with
  | plain hplain hprice =>
    obtain rfl := getPrice_unique h hprice
    rw [sub_zero]
    exact ⟨le_rfl, le_rfl⟩
  | pool hadapter hone htwo hd₁ hd₂ hreserves hsupply hm worthOne worthTwo ihOne ihTwo =>
    cases depth with
    | zero => cases h
    | succ depth =>
      obtain ⟨one, two, d₁, d₂, p₁, p₂, r₁, r₂, supply, m, hone', htwo', hd₁', hd₂', hp₁, hp₂,
        hreserves', hsupply', hm', hp⟩ :=
        getPrice_of_poolAdapter hgoverned hmaster hdecimals hadapter h
      -- both have the same pool
      obtain rfl := Except.ok.inj (hone.symm.trans hone')
      obtain rfl := Except.ok.inj (htwo.symm.trans htwo')
      obtain rfl := Except.ok.inj (hd₁.symm.trans hd₁')
      obtain rfl := Except.ok.inj (hd₂.symm.trans hd₂')
      obtain ⟨rfl, rfl⟩ := Prod.mk.inj (Except.ok.inj (hreserves.symm.trans hreserves'))
      obtain rfl := Except.ok.inj (hsupply.symm.trans hsupply')
      obtain rfl := getPrice_unique hm hm'
      exact poolValue_bounds (ihOne hp₁) (ihTwo hp₂) hp

/-- **Pool tokens are not overvalued**: whatever the owners of the adapters did, where the master
quote asset is no pool token, an asset that has a price in it is worth something by the reserves of
the pairs that the factory has for the tokens of the pools. The price is at most that, and less by
no more than the roundings. -/
theorem worth_bounds_of_getPrice
    (h : S.getPrice depth sender asset S.masterQuoteAsset = .ok p) :
    (∃ v g, Worth S tokens asset v g) ∧
      ∀ v g, Worth S tokens asset v g → v - g ≤ p ∧ (p : ℚ) ≤ v :=
  ⟨exists_worth hgoverned hmaster hdecimals h,
    fun _ _ hworth => bounds_of_worth hgoverned hmaster hdecimals hworth h⟩

end Governed

/-! ## Example -/

/-- The tokens of the two pools of the example. -/
def exampleTokens : PairTokens where
  token0 a := .ok (if a = 21 then 11 else 12)
  token1 a := .ok (if a = 21 then 12 else 21)
  decimals a := .ok (if a = 12 then 6 else 18)

/-- The adapter of the example was deployed for the two pools. -/
theorem governed_exampleSystem : exampleSystem.Governed exampleTokens := by
  intro adapter _
  refine ⟨_, zeroAddress, zeroAddress, zeroAddress, [21, 22], ?_, .start⟩
  have hstored : Function.update (Function.update (fun _ => ({} : PoolSettings)) 21
      ⟨11, 12, 10 ^ 18, 10 ^ 6, true⟩) 22 ⟨12, 21, 10 ^ 6, 10 ^ 18, true⟩ =
        (exampleSystem.adapters adapter).uniswapPoolsToSettings := by
    funext a
    by_cases hinner : a = 21
    · subst hinner
      rfl
    · by_cases houter : a = 22
      · subst houter
        rfl
      · rw [Function.update_of_ne houter, Function.update_of_ne hinner]
        simp only [exampleSystem, if_neg hinner, if_neg houter]
  show _ = Except.ok { exampleSystem.adapters adapter with
    uniswapPoolsToSettings := (exampleSystem.adapters adapter).uniswapPoolsToSettings }
  rw [← hstored]
  rfl

/-- The outer pool has one whole token `12`, which is worth one, and one whole token of the inner
pool, which is worth three. Its own supply is two whole tokens. -/
theorem worth_bounds_of_getPrice_example :
    exampleSystem.getPrice 5 9 22 10 = .ok (2 * 10 ^ 18) ∧
      ∃ v g, Worth exampleSystem exampleTokens 22 v g ∧
        v - g ≤ ((2 * 10 ^ 18 : ℕ) : ℚ) ∧ ((2 * 10 ^ 18 : ℕ) : ℚ) ≤ v := by
  have hprice : exampleSystem.getPrice 5 9 22 10 = .ok (2 * 10 ^ 18) := by decide +kernel
  have hdecimals : ∀ token decimals, exampleTokens.decimals token = .ok decimals →
      decimals ≤ 77 := by
    intro token decimals h
    obtain rfl := Except.ok.inj h
    split
    · omega
    · omega
  obtain ⟨⟨v, g, hworth⟩, hbounds⟩ := worth_bounds_of_getPrice governed_exampleSystem
    ranked_exampleSystem.master hdecimals hprice
  exact ⟨hprice, v, g, hworth, hbounds v g hworth⟩

end PriceSystem

end SetProtocol
