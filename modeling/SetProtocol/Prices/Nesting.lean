import SetProtocol.Core.SetValuer
import SetProtocol.Integration.UniswapPairPriceAdapter

set_option relaxedAutoImplicit false
set_option autoImplicit false

/-!
# The price oracle with its adapters

The price oracle asks its adapters, and an adapter for pool tokens asks the price oracle: for the
prices of the two tokens of a pool, which may be pool tokens again. Calls that nest too deeply run
out of gas.

Where the tokens of every pool come before the pool, such as in the order of deployment, calls nest
no deeper than the rank of the assets says. More gas changes nothing then, neither a price nor a
revert.

## Main definitions

* `SetProtocol.PriceSystem` — the price oracle, its adapters, and the contracts that they read.
* `SetProtocol.PriceSystem.getPrice` — the price of a pair, with a bound on the depth of calls.
* `SetProtocol.PriceSystem.Ranked` — the tokens of a pool come before it.

## Main results

* `SetProtocol.PriceSystem.getPrice_of_le` — a price stays the same with more gas.
* `SetProtocol.PriceSystem.getPrice_of_height_lt` — any two depths beyond the height of a pair give
  the same.
* `SetProtocol.PriceSystem.getPrice_mul_getPrice_le_of_pools` — the prices of the two directions of
  a pair have a product of at most one.
-/

namespace SetProtocol

open Checked

/-- The price oracle of the protocol, whose adapters are those for pool tokens. -/
structure PriceSystem where
  /-- The controller. -/
  controller : Controller
  /-- The price oracle that the controller names. -/
  priceOracle : PriceOracle
  /-- The adapters at their addresses. -/
  adapters : Address → UniswapPairPriceAdapter
  /-- `IOracle.read`. -/
  read : Address → Except Revert ℕ
  /-- What pairs answer. -/
  pairs : PairStates

namespace PriceSystem

variable (S : PriceSystem)

/-- The asset that links pairs without an oracle. -/
def masterQuoteAsset : Address := S.priceOracle.masterQuoteAsset

/-- What the price oracle reads, when it answers its adapters by `priceOracle`. -/
def readings (priceOracle : Address → Address → Address → Except Revert ℕ) : Readings where
  read := S.read
  getPrice adapter assetOne assetTwo :=
    (S.adapters adapter).getPrice S.controller S.pairs (priceOracle adapter) S.masterQuoteAsset
      S.controller.getPriceOracle assetOne assetTwo

/-- `PriceOracle.getPrice`, which runs out of gas where calls nest deeper than `depth`. -/
def getPrice : ℕ → Address → Address → Address → Except Revert ℕ
  | 0, _, _, _ => .error ""
  | depth + 1, msgSender, assetOne, assetTwo =>
    S.priceOracle.getPrice S.controller (S.readings (getPrice depth)) msgSender assetOne assetTwo

/-- An adapter of the price oracle prices the asset as a pool token. -/
def IsPool (adapter asset : Address) : Prop :=
  adapter ∈ S.priceOracle.adapters ∧
    ((S.adapters adapter).uniswapPoolsToSettings asset).isValid = true

/-- The tokens of a pool come before it, and the master quote asset before all pools. -/
structure Ranked (rank : Address → ℕ) : Prop where
  /-- The master quote asset is no pool token. -/
  master : ∀ adapter, ¬S.IsPool adapter S.masterQuoteAsset
  /-- It comes first. -/
  rank_master : rank S.masterQuoteAsset = 0
  /-- The first token comes before the pool. -/
  tokenOne : ∀ adapter pool, S.IsPool adapter pool →
    rank ((S.adapters adapter).uniswapPoolsToSettings pool).tokenOne < rank pool
  /-- So does the second one. -/
  tokenTwo : ∀ adapter pool, S.IsPool adapter pool →
    rank ((S.adapters adapter).uniswapPoolsToSettings pool).tokenTwo < rank pool

/-- How deeply the calls for the price of a pair nest. -/
def height (rank : Address → ℕ) (assetOne assetTwo : Address) : ℕ :=
  if assetTwo = S.masterQuoteAsset then 2 * rank assetOne
  else 2 * max (rank assetOne) (rank assetTwo) + 1

end PriceSystem

/-! ## What a price depends on -/

section Congruence

variable {P : PriceOracle} {c : Controller} {R R' : Readings}
  {assetOne assetTwo asset master sender : Address} {u : UniswapPairPriceAdapter}
  {pairs : PairStates} {f g : Address → Address → Except Revert ℕ} {p : ℕ}

/-- The loop over the adapters depends on what these answer for the pair. -/
theorem PriceOracle.getPriceFromAdaptersLoop_congr {adapters : List Address}
    (h : ∀ adapter ∈ adapters, R.getPrice adapter assetOne assetTwo =
      R'.getPrice adapter assetOne assetTwo) :
    getPriceFromAdaptersLoop R assetOne assetTwo adapters =
      getPriceFromAdaptersLoop R' assetOne assetTwo adapters := by
  induction adapters with
  | nil => rfl
  | cons adapter adapters ih =>
    obtain ⟨hfirst, hrest⟩ := List.forall_mem_cons.mp h
    simp only [getPriceFromAdaptersLoop, hfirst, ih hrest]

/-- So does the price. -/
theorem PriceOracle.getPrice_congr (hread : R.read = R'.read)
    (h : ∀ adapter ∈ P.adapters, R.getPrice adapter assetOne assetTwo =
      R'.getPrice adapter assetOne assetTwo) :
    P.getPrice c R sender assetOne assetTwo = P.getPrice c R' sender assetOne assetTwo := by
  have hdirect : ∀ a b, P.getDirectOrInversePrice R a b = P.getDirectOrInversePrice R' a b := by
    intro a b
    simp only [getDirectOrInversePrice, calculateInversePrice, hread]
  simp only [getPrice, getPriceFromMasterQuote, getPriceFromAdapters, hdirect,
    getPriceFromAdaptersLoop_congr h]

/-- The price of an asset in the master quote asset depends on those of the tokens of a pool. -/
theorem UniswapPairPriceAdapter.priceToMaster_congr
    (hpool : (u.uniswapPoolsToSettings asset).isValid = true →
      f (u.uniswapPoolsToSettings asset).tokenOne master =
          g (u.uniswapPoolsToSettings asset).tokenOne master ∧
        f (u.uniswapPoolsToSettings asset).tokenTwo master =
          g (u.uniswapPoolsToSettings asset).tokenTwo master)
    (hplain : (u.uniswapPoolsToSettings asset).isValid ≠ true → f asset master = g asset master) :
    u.priceToMaster pairs f asset master = u.priceToMaster pairs g asset master := by
  unfold priceToMaster
  split_ifs with hvalid
  · obtain ⟨hone, htwo⟩ := hpool hvalid
    simp only [getUniswapPrice, hone, htwo]
  · exact hplain hvalid

/-- Where the adapters answer the same whenever they answered, a price that was found stays. -/
theorem PriceOracle.getPrice_of_answers (hread : R.read = R'.read)
    (h : ∀ adapter ∈ P.adapters, ∀ r, R.getPrice adapter assetOne assetTwo = .ok r →
      R'.getPrice adapter assetOne assetTwo = .ok r)
    (hprice : P.getPrice c R sender assetOne assetTwo = .ok p) :
    P.getPrice c R' sender assetOne assetTwo = .ok p := by
  have hloop : ∀ adapters, (∀ adapter ∈ adapters, adapter ∈ P.adapters) → ∀ r,
      getPriceFromAdaptersLoop R assetOne assetTwo adapters = .ok r →
      getPriceFromAdaptersLoop R' assetOne assetTwo adapters = .ok r := by
    intro adapters
    induction adapters with
    | nil => exact fun _ r hr => hr
    | cons adapter adapters ih =>
      intro hmem r hr
      obtain ⟨hfirst, hrest⟩ := List.forall_mem_cons.mp hmem
      simp only [getPriceFromAdaptersLoop, bind_eq_ok] at hr ⊢
      obtain ⟨⟨found, price⟩, hanswer, hr⟩ := hr
      refine ⟨_, h adapter hfirst _ hanswer, ?_⟩
      cases found with
      | true => exact hr
      | false => exact ih hrest r hr
  have hdirect : ∀ a b, P.getDirectOrInversePrice R' a b = P.getDirectOrInversePrice R a b := by
    intro a b
    simp only [getDirectOrInversePrice, calculateInversePrice, hread]
  simp only [getPrice, getPriceFromMasterQuote, hdirect, bind_eq_ok] at hprice ⊢
  obtain ⟨_, hsystem, direct, hfirst, master, hsecond, found, hthird, hfound⟩ := hprice
  refine ⟨_, hsystem, direct, hfirst, master, hsecond, found, ?_, hfound⟩
  split_ifs at hthird ⊢ with hneed
  · exact hloop P.adapters (fun _ hmem => hmem) _ hthird
  · exact hthird

/-- Where the oracle answers the same whenever it answered, so does an adapter. -/
theorem UniswapPairPriceAdapter.getPrice_of_answers {r : Bool × ℕ}
    (h : ∀ a p, f a master = .ok p → g a master = .ok p)
    (hprice : u.getPrice c pairs f master sender assetOne assetTwo = .ok r) :
    u.getPrice c pairs g master sender assetOne assetTwo = .ok r := by
  have hasset : ∀ a p, u.priceToMaster pairs f a master = .ok p →
      u.priceToMaster pairs g a master = .ok p := by
    intro a p hp
    unfold priceToMaster at hp ⊢
    split_ifs at hp ⊢ with hvalid
    · simp only [getUniswapPrice, bind_eq_ok] at hp ⊢
      obtain ⟨one, hone, two, htwo, hrest⟩ := hp
      exact ⟨one, h _ _ hone, two, h _ _ htwo, hrest⟩
    · exact h _ _ hp
  simp only [getPrice, bind_eq_ok] at hprice ⊢
  obtain ⟨_, hsystem, hprice⟩ := hprice
  refine ⟨_, hsystem, ?_⟩
  split_ifs at hprice ⊢ with hnone
  · exact hprice
  · simp only [bind_eq_ok] at hprice ⊢
    obtain ⟨one, hone, two, htwo, hrest⟩ := hprice
    exact ⟨one, hasset _ _ hone, two, hasset _ _ htwo, hrest⟩

end Congruence

namespace PriceSystem

variable {S : PriceSystem} {rank : Address → ℕ} {assetOne assetTwo asset adapter : Address}
  {sender sender' : Address} {depth depth' p q : ℕ}

/-! ## The depth of calls -/

/-- A price stays the same with more gas. -/
theorem getPrice_of_le (hle : depth ≤ depth')
    (h : S.getPrice depth sender assetOne assetTwo = .ok p) :
    S.getPrice depth' sender assetOne assetTwo = .ok p := by
  induction depth generalizing depth' sender assetOne assetTwo p with
  | zero => cases h
  | succ depth ih =>
    obtain ⟨depth', rfl⟩ : ∃ n, depth' = n + 1 := ⟨depth' - 1, by omega⟩
    refine PriceOracle.getPrice_of_answers (R := S.readings (S.getPrice depth)) rfl
      (fun adapter _ r hr => ?_) h
    refine UniswapPairPriceAdapter.getPrice_of_answers (fun asset price hprice => ?_) hr
    exact ih (by omega) hprice

section Depth

variable (hranked : S.Ranked rank)
include hranked

/-- The calls for the tokens of a pool, and for an asset that is none, nest less deeply than those
for a pair that the adapter prices. -/
theorem height_lt_height (hpair : S.IsPool adapter assetOne ∨ S.IsPool adapter assetTwo) :
    (∀ asset, asset = assetOne ∨ asset = assetTwo → S.IsPool adapter asset →
      S.height rank ((S.adapters adapter).uniswapPoolsToSettings asset).tokenOne
          S.masterQuoteAsset < S.height rank assetOne assetTwo ∧
        S.height rank ((S.adapters adapter).uniswapPoolsToSettings asset).tokenTwo
          S.masterQuoteAsset < S.height rank assetOne assetTwo) ∧
    ∀ asset, asset = assetOne ∨ asset = assetTwo → ¬S.IsPool adapter asset →
      S.height rank asset S.masterQuoteAsset < S.height rank assetOne assetTwo := by
  have htokens := fun asset (hpool : S.IsPool adapter asset) =>
    And.intro (hranked.tokenOne adapter asset hpool) (hranked.tokenTwo adapter asset hpool)
  have hmaster := hranked.rank_master
  simp only [height, if_true]
  by_cases htwo : assetTwo = S.masterQuoteAsset
  · -- the second asset is no pool token, so the first one is
    have hone : S.IsPool adapter assetOne := by
      refine hpair.resolve_right fun hpool => hranked.master adapter ?_
      rwa [← htwo]
    have hrank := htokens assetOne hone
    rw [if_pos htwo]
    constructor
    · rintro asset (rfl | rfl) hpool
      · omega
      · exact absurd (htwo ▸ hpool) (hranked.master adapter)
    · rintro asset (rfl | rfl) hplain
      · exact absurd hone hplain
      · rw [htwo]
        omega
  · rw [if_neg htwo]
    constructor
    · intro asset hasset hpool
      have hrank := htokens asset hpool
      rcases hasset with rfl | rfl
      · omega
      · omega
    · rintro asset (rfl | rfl) -
      · omega
      · omega

/-- **Enough gas**: any two depths beyond the height of a pair give the same, a price or a
revert. -/
theorem getPrice_of_height_lt (h : S.height rank assetOne assetTwo < depth)
    (h' : S.height rank assetOne assetTwo < depth') :
    S.getPrice depth sender assetOne assetTwo = S.getPrice depth' sender assetOne assetTwo := by
  induction depth generalizing depth' sender assetOne assetTwo with
  | zero => exact absurd h (Nat.not_lt_zero _)
  | succ depth ih =>
    obtain ⟨depth', rfl⟩ : ∃ n, depth' = n + 1 := ⟨depth' - 1, by omega⟩
    refine PriceOracle.getPrice_congr (R := S.readings (S.getPrice depth)) rfl
      fun adapter hadapter => ?_
    by_cases hpair : S.IsPool adapter assetOne ∨ S.IsPool adapter assetTwo
    · obtain ⟨htokens, hplain⟩ := height_lt_height hranked hpair
      -- the inner calls nest less deeply, for both depths
      have hprice : ∀ asset, asset = assetOne ∨ asset = assetTwo →
          (S.adapters adapter).priceToMaster S.pairs (S.getPrice depth adapter) asset
              S.masterQuoteAsset =
            (S.adapters adapter).priceToMaster S.pairs (S.getPrice depth' adapter) asset
              S.masterQuoteAsset := by
        intro asset hasset
        apply UniswapPairPriceAdapter.priceToMaster_congr
        · intro hvalid
          obtain ⟨hone, htwo⟩ := htokens asset hasset ⟨hadapter, hvalid⟩
          exact ⟨ih (by omega) (by omega), ih (by omega) (by omega)⟩
        · intro hvalid
          have hlt := hplain asset hasset fun hpool => hvalid hpool.2
          exact ih (by omega) (by omega)
      simp only [readings, UniswapPairPriceAdapter.getPrice, hprice assetOne (Or.inl rfl),
        hprice assetTwo (Or.inr rfl)]
    · obtain ⟨hone, htwo⟩ := not_or.mp hpair
      have hnone : ((S.adapters adapter).uniswapPoolsToSettings assetOne).isValid = false ∧
          ((S.adapters adapter).uniswapPoolsToSettings assetTwo).isValid = false :=
        ⟨Bool.eq_false_iff.mpr fun hvalid => hone ⟨hadapter, hvalid⟩,
          Bool.eq_false_iff.mpr fun hvalid => htwo ⟨hadapter, hvalid⟩⟩
      simp only [readings, UniswapPairPriceAdapter.getPrice, if_pos hnone]

end Depth

/-! ## The adapter that answers -/

/-- An adapter prices a pair when one of the assets is a pool token. -/
def prices (S : PriceSystem) (assetOne assetTwo adapter : Address) : Bool :=
  ((S.adapters adapter).uniswapPoolsToSettings assetOne).isValid ||
    ((S.adapters adapter).uniswapPoolsToSettings assetTwo).isValid

/-- The two directions of a pair are priced by the same adapters. -/
theorem prices_comm (S : PriceSystem) (assetOne assetTwo : Address) :
    S.prices assetOne assetTwo = S.prices assetTwo assetOne := by
  funext adapter
  exact Bool.or_comm _ _

/-- An adapter that does not price a pair says so. One that does divides the prices of the two
assets in the master quote asset. -/
theorem getPrice_readings_eq_ok {f : Address → Address → Address → Except Revert ℕ} {found : Bool}
    (h : (S.readings f).getPrice adapter assetOne assetTwo = .ok (found, p)) :
    found = S.prices assetOne assetTwo adapter ∧
      (found = true → ∃ x y,
        (S.adapters adapter).priceToMaster S.pairs (f adapter) assetOne S.masterQuoteAsset =
            .ok x ∧
          (S.adapters adapter).priceToMaster S.pairs (f adapter) assetTwo S.masterQuoteAsset =
            .ok y ∧
          PreciseUnitMath.preciseDiv x y = .ok p) := by
  simp only [readings, UniswapPairPriceAdapter.getPrice, bind_eq_ok] at h
  obtain ⟨-, -, h⟩ := h
  unfold prices
  split_ifs at h with hnone
  · simp only [pure_eq_ok, Prod.mk.injEq] at h
    obtain ⟨rfl, -⟩ := h
    rw [hnone.1, hnone.2]
    exact ⟨rfl, fun hfound => absurd hfound Bool.false_ne_true⟩
  · simp only [bind_eq_ok, pure_eq_ok, Prod.mk.injEq] at h
    obtain ⟨x, hx, y, hy, q, hq, rfl, rfl⟩ := h
    refine ⟨?_, fun _ => ⟨x, y, hx, hy, hq⟩⟩
    rw [eq_comm, Bool.or_eq_true]
    rcases not_and_or.mp hnone with hone | htwo
    · exact Or.inl (Bool.eq_true_of_not_eq_false hone)
    · exact Or.inr (Bool.eq_true_of_not_eq_false htwo)

/-- The first adapter that prices a pair answers. -/
theorem find?_of_loop {f : Address → Address → Address → Except Revert ℕ}
    {adapters : List Address}
    (h : PriceOracle.getPriceFromAdaptersLoop (S.readings f) assetOne assetTwo adapters =
      .ok (true, p)) :
    ∃ adapter, adapters.find? (S.prices assetOne assetTwo) = some adapter ∧
      (S.readings f).getPrice adapter assetOne assetTwo = .ok (true, p) := by
  induction adapters with
  | nil => simp [PriceOracle.getPriceFromAdaptersLoop] at h
  | cons adapter adapters ih =>
    simp only [PriceOracle.getPriceFromAdaptersLoop, bind_eq_ok] at h
    obtain ⟨⟨found, price⟩, hanswer, h⟩ := h
    obtain ⟨hfound, -⟩ := getPrice_readings_eq_ok hanswer
    cases found with
    | true =>
      obtain rfl : price = p := by simpa using h
      exact ⟨adapter, List.find?_cons_of_pos hfound.symm, hanswer⟩
    | false =>
      obtain ⟨next, hnext, hprice⟩ := ih (by simpa using h)
      refine ⟨next, ?_, hprice⟩
      rw [List.find?_cons_of_neg (by rw [← hfound]; exact Bool.false_ne_true)]
      exact hnext

/-! ## The two directions of a pair -/

/-- **Inverting a query creates no value**, through the adapters neither: where a pair has an oracle
in at most one direction, the prices of its two directions have a product of at most one, whoever
asks with whatever gas, and however deeply pools nest. -/
theorem getPrice_mul_getPrice_le_of_pools
    (hone : S.priceOracle.oracles assetOne assetTwo = zeroAddress ∨
      S.priceOracle.oracles assetTwo assetOne = zeroAddress)
    (h₁ : S.getPrice depth sender assetOne assetTwo = .ok p)
    (h₂ : S.getPrice depth' sender' assetTwo assetOne = .ok q) : p * q ≤ 10 ^ 36 := by
  -- both prices are found with the same gas
  have h₁ := getPrice_of_le (Nat.le_succ_of_le (Nat.le_max_left depth depth')) h₁
  have h₂ := getPrice_of_le (Nat.le_succ_of_le (Nat.le_max_right depth depth')) h₂
  have hp := PriceOracle.getPrice_spec h₁
  have hq := PriceOracle.getPrice_spec h₂
  rw [PriceOracle.route_comm] at hq
  rw [show 10 ^ 36 = preciseUnit * preciseUnit by decide]
  cases hroute : S.priceOracle.route assetOne assetTwo with
  | oracle =>
    rw [hroute] at hp hq
    rcases hone with hnone | hnone
    · rw [Nat.mul_comm]
      exact PriceOracle.direct_mul_inverse_le hnone hq hp
    · exact PriceOracle.direct_mul_inverse_le hnone hp hq
  | masterQuote =>
    rw [hroute] at hp hq
    exact PriceOracle.masterQuote_mul_masterQuote_le hp hq
  | adapters =>
    rw [hroute] at hp hq
    obtain ⟨adapter, hadapter, hp⟩ := find?_of_loop hp
    obtain ⟨adapter', hadapter', hq⟩ := find?_of_loop hq
    rw [prices_comm, hadapter] at hadapter'
    obtain rfl := Option.some.inj hadapter'
    obtain ⟨x, y, hx, hy, hp⟩ := (getPrice_readings_eq_ok hp).2 rfl
    obtain ⟨y', x', hy', hx', hq⟩ := (getPrice_readings_eq_ok hq).2 rfl
    obtain rfl := Except.ok.inj (hx.symm.trans hx')
    obtain rfl := Except.ok.inj (hy.symm.trans hy')
    rw [PreciseUnitMath.preciseDiv_eq_ok] at hp hq
    obtain ⟨-, hy, rfl⟩ := hp
    obtain ⟨-, hx, rfl⟩ := hq
    exact Rounding.div_mul_inverse_le hx hy

/-! ## Example -/

/-- The pool `21` of the tokens `11` and `12`, and the pool `22` of `12` and of the token of the
pool `21`. The two plain tokens and the master quote asset `10` have oracles. -/
def exampleSystem : PriceSystem where
  controller :=
    { isResource := fun a => a = 8 ∨ a = 9 ∨ a = 80
      resourceId := fun id => if id = 1 then 8 else zeroAddress }
  priceOracle :=
    { oracles := fun a b => if b = 10 ∧ (a = 10 ∨ a = 11 ∨ a = 12) then a else zeroAddress
      masterQuoteAsset := 10
      adapters := [80] }
  adapters _ :=
    { uniswapPoolsToSettings := fun a =>
        if a = 21 then ⟨11, 12, 10 ^ 18, 10 ^ 6, true⟩
        else if a = 22 then ⟨12, 21, 10 ^ 6, 10 ^ 18, true⟩
        else {}
      allowedUniswapPools := [21, 22] }
  read a := .ok (if a = 11 then 3 * 10 ^ 18 else 10 ^ 18)
  pairs :=
    { create2 := fun _ token0 _ => if token0 = 11 then 21 else 22
      getReserves := fun a => .ok (if a = 21 then (10 ^ 18, 3 * 10 ^ 6) else (10 ^ 6, 10 ^ 18))
      totalSupply := fun _ => .ok (2 * 10 ^ 18) }

/-- The order in which the pools were deployed. -/
def exampleRank (a : Address) : ℕ := if a = 22 then 2 else if a = 21 then 1 else 0

/-- The pools of the example. -/
theorem isPool_exampleSystem {pool : Address} (h : exampleSystem.IsPool adapter pool) :
    pool = 21 ∨ pool = 22 := by
  obtain ⟨-, hvalid⟩ := h
  by_contra hne
  rw [not_or] at hne
  simp only [exampleSystem, if_neg hne.1, if_neg hne.2, Bool.false_eq_true] at hvalid

/-- The tokens of each pool come before it. -/
theorem ranked_exampleSystem : exampleSystem.Ranked exampleRank := by
  refine ⟨?_, rfl, ?_, ?_⟩
  · intro adapter hpool
    rcases isPool_exampleSystem hpool with h | h
    · exact absurd h (by decide)
    · exact absurd h (by decide)
  · intro adapter pool hpool
    rcases isPool_exampleSystem hpool with rfl | rfl
    · show exampleRank 11 < exampleRank 21
      decide
    · show exampleRank 12 < exampleRank 22
      decide
  · intro adapter pool hpool
    rcases isPool_exampleSystem hpool with rfl | rfl
    · show exampleRank 12 < exampleRank 21
      decide
    · show exampleRank 21 < exampleRank 22
      decide

/-- The price of the outer pool takes three calls within each other, and more gas changes
nothing. -/
theorem getPrice_of_height_lt_example :
    exampleSystem.getPrice 5 9 22 10 = .ok (2 * 10 ^ 18) ∧
      exampleSystem.getPrice 5 9 22 10 = exampleSystem.getPrice 1024 9 22 10 := by
  refine ⟨by decide +kernel, ?_⟩
  exact getPrice_of_height_lt ranked_exampleSystem (by decide +kernel) (by decide +kernel)

/-- The two pool tokens in each other. -/
theorem getPrice_mul_getPrice_le_of_pools_example :
    ∃ p q, exampleSystem.getPrice 5 9 21 22 = .ok p ∧ exampleSystem.getPrice 6 9 22 21 = .ok q ∧
      0 < p * q ∧ p * q ≤ 10 ^ 36 := by
  obtain ⟨p, hp, hpos⟩ := exists_of_yields
    (x := exampleSystem.getPrice 5 9 21 22) (p := fun p => 0 < p) (by decide +kernel)
  obtain ⟨q, hq, hpos'⟩ := exists_of_yields
    (x := exampleSystem.getPrice 6 9 22 21) (p := fun q => 0 < q) (by decide +kernel)
  exact ⟨p, q, hp, hq, Nat.mul_pos (of_decide_eq_true hpos) (of_decide_eq_true hpos'),
    getPrice_mul_getPrice_le_of_pools (Or.inl rfl) hp hq⟩

end PriceSystem

end SetProtocol
