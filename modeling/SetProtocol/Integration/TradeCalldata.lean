import Mathlib.Tactic.Ring
import SetProtocol.Integration.ExchangeAdapters
import SetProtocol.Modules.TradeModule

set_option relaxedAutoImplicit false
set_option autoImplicit false

/-!
# What exchanges are asked to do

An exchange decodes the calldata that an adapter returns. What it decodes is compared here with the
trade that the adapter was asked for.

## Main definitions

* `SetProtocol.ZeroEx.ProxyCall` — the calls of the exchange proxy of 0x, with all arguments.
* `SetProtocol.ZeroEx.Order` — what such a call asks for.
* `SetProtocol.ZeroEx.Order.Fits` — that this is the trade.

## Main results

* `SetProtocol.ZeroEx.decode_encode` — calls of the proxy are read back.
* `SetProtocol.ZeroEx.getTradeCalldata_eq_ok_iff`, `SetProtocol.OneInch.accepts_iff` — of the
  calldata that the exchange can decode, the adapter returns those that ask for the trade.
* `SetProtocol.ZeroEx.ordered_of_trade` — what a trade through the adapter makes the Set approve
  and call.
* `SetProtocol.UniswapV2ExchangeAdapterV2.getTradeCalldata_getUniswapExchangeData` — from the helper
  through the adapter to the router.
* `SetProtocol.KyberExchangeAdapter.rate_of_getTradeCalldata` — the rate of a least quantity.
-/

namespace SetProtocol

open Checked

/-! ## 0x -/

namespace ZeroEx

open ZeroExApiAdapter

/-- The element type of the last argument of `transformERC20`. -/
def transformation : Abi.Codec (ℕ × Bytes × Unit) :=
  Abi.tuple (.cons (Abi.uint 32) (.cons Abi.bytes .nil))

/-- The calls of the exchange proxy, with all of their arguments. -/
inductive ProxyCall
  | transformERC20 (inputToken outputToken : Address) (inputTokenAmount minOutputTokenAmount : ℕ)
    (transformations : List (ℕ × Bytes × Unit))
  | sellToLiquidityProvider (inputToken outputToken provider recipient : Address)
    (sellAmount minBuyAmount : ℕ) (auxiliaryData : Bytes)
  | sellToUniswap (tokens : List Address) (sellAmount minBuyAmount : ℕ) (isSushi : Bool)
  | batchFill (fillData : BatchFillData) (minBuyAmount : ℕ)
  | multiHopFill (fillData : MultiHopFillData) (minBuyAmount : ℕ)
  deriving DecidableEq

/-- The arguments of `transformERC20`. -/
def transformERC20Arguments := transformERC20Layout.append (.cons (Abi.array transformation) .nil)

/-- The arguments of `sellToLiquidityProvider`. -/
def sellToLiquidityProviderArguments :=
  sellToLiquidityProviderLayout.append (.cons Abi.bytes .nil)

/-- The arguments of `sellToUniswap`. -/
def sellToUniswapArguments := sellToUniswapLayout.append (.cons Abi.bool .nil)

namespace ProxyCall

/-- The calldata of a call. -/
def encode : ProxyCall → Bytes
  | transformERC20 inputToken outputToken amount minAmount transformations =>
    transformERC20Selector ++ (Abi.tuple transformERC20Arguments).encode
      ((inputToken, outputToken, amount, minAmount, ()), (transformations, ()))
  | sellToLiquidityProvider inputToken outputToken provider recipient amount minAmount data =>
    sellToLiquidityProviderSelector ++ (Abi.tuple sellToLiquidityProviderArguments).encode
      ((inputToken, outputToken, provider, recipient, amount, minAmount, ()), (data, ()))
  | sellToUniswap tokens amount minAmount isSushi =>
    sellToUniswapSelector ++ (Abi.tuple sellToUniswapArguments).encode
      ((tokens, amount, minAmount, ()), (isSushi, ()))
  | batchFill fillData minAmount =>
    batchFillSelector ++ (Abi.tuple batchFillLayout).encode (fillData, minAmount, ())
  | multiHopFill fillData minAmount =>
    multiHopFillSelector ++ (Abi.tuple multiHopFillLayout).encode (fillData, minAmount, ())

/-- The arguments fit into the calldata. -/
def Valid : ProxyCall → Prop
  | transformERC20 inputToken outputToken amount minAmount transformations =>
    (Abi.tuple transformERC20Arguments).Valid
      ((inputToken, outputToken, amount, minAmount, ()), (transformations, ()))
  | sellToLiquidityProvider inputToken outputToken provider recipient amount minAmount data =>
    (Abi.tuple sellToLiquidityProviderArguments).Valid
      ((inputToken, outputToken, provider, recipient, amount, minAmount, ()), (data, ()))
  | sellToUniswap tokens amount minAmount isSushi =>
    (Abi.tuple sellToUniswapArguments).Valid ((tokens, amount, minAmount, ()), (isSushi, ()))
  | batchFill fillData minAmount =>
    (Abi.tuple batchFillLayout).Valid (fillData, minAmount, ())
  | multiHopFill fillData minAmount =>
    (Abi.tuple multiHopFillLayout).Valid (fillData, minAmount, ())

/-- The call of the function with a selector. -/
def decodeArguments (selector arguments : Bytes) : Option ProxyCall :=
  if selector = transformERC20Selector then
    ((Abi.tuple transformERC20Arguments).decode arguments).map
      fun ((inputToken, outputToken, amount, minAmount, _), (transformations, _)) =>
        .transformERC20 inputToken outputToken amount minAmount transformations
  else if selector = sellToLiquidityProviderSelector then
    ((Abi.tuple sellToLiquidityProviderArguments).decode arguments).map
      fun ((inputToken, outputToken, provider, recipient, amount, minAmount, _), (data, _)) =>
        .sellToLiquidityProvider inputToken outputToken provider recipient amount minAmount data
  else if selector = sellToUniswapSelector then
    ((Abi.tuple sellToUniswapArguments).decode arguments).map
      fun ((tokens, amount, minAmount, _), (isSushi, _)) =>
        .sellToUniswap tokens amount minAmount isSushi
  else if selector = batchFillSelector then
    ((Abi.tuple batchFillLayout).decode arguments).map fun (fillData, minAmount, _) =>
      .batchFill fillData minAmount
  else if selector = multiHopFillSelector then
    ((Abi.tuple multiHopFillLayout).decode arguments).map fun (fillData, minAmount, _) =>
      .multiHopFill fillData minAmount
  else none

/-- What the proxy makes of calldata: the selector names the function, whose arguments follow. -/
def decode (data : Bytes) : Option ProxyCall := decodeArguments (data.take 4) (data.drop 4)

end ProxyCall

/-- What a call asks for. -/
structure Order where
  /-- The tokens, from the one that is sold to the one that is bought. -/
  path : List Address
  /-- Who receives the bought tokens, where the call says so. -/
  recipient : Option Address
  /-- The amount to sell. -/
  sellAmount : ℕ
  /-- The least amount to buy. -/
  minBuyAmount : ℕ

/-- The order of a call. -/
def ProxyCall.order : ProxyCall → Order
  | transformERC20 inputToken outputToken amount minAmount _ =>
    ⟨[inputToken, outputToken], none, amount, minAmount⟩
  | sellToLiquidityProvider inputToken outputToken _ recipient amount minAmount _ =>
    ⟨[inputToken, outputToken], some recipient, amount, minAmount⟩
  | sellToUniswap tokens amount minAmount _ => ⟨tokens, none, amount, minAmount⟩
  | batchFill fillData minAmount =>
    ⟨[fillData.inputToken, fillData.outputToken], none, fillData.sellAmount, minAmount⟩
  | multiHopFill fillData minAmount => ⟨fillData.tokens, none, fillData.sellAmount, minAmount⟩

/-- The order is the trade of a quantity of one token for at least a quantity of another one, which
a given account receives. -/
structure Order.Fits (order : Order)
    (sourceToken destinationToken destinationAddress : Address)
    (sourceQuantity minDestinationQuantity : ℕ) : Prop where
  /-- The path has two tokens at least. -/
  hops : 1 < order.path.length
  /-- The first token is sold. -/
  source : order.path.head? = some sourceToken
  /-- The last token is bought. -/
  destination : order.path.getLast? = some destinationToken
  /-- Where the order names a recipient, it is the account. -/
  recipient : ∀ recipient ∈ order.recipient, recipient = destinationAddress
  /-- The quantity is sold. -/
  sold : order.sellAmount = sourceQuantity
  /-- No less than the quantity is bought. -/
  bought : minDestinationQuantity ≤ order.minBuyAmount

variable {call : ProxyCall} {data : Bytes} {d : Decoded}

/-! ### Calls are read back -/

/-- A selector in front, and arguments after it. -/
theorem decode_append {selector arguments : Bytes} (h : selector.length = 4) :
    ProxyCall.decode (selector ++ arguments) = ProxyCall.decodeArguments selector arguments := by
  rw [ProxyCall.decode, List.take_left' h, List.drop_left' h]

/-- What the proxy is sent is what it decodes. -/
theorem decode_encode (h : call.Valid) : ProxyCall.decode call.encode = some call := by
  cases call with
  | transformERC20 =>
    rw [ProxyCall.encode, decode_append rfl, ProxyCall.decodeArguments, if_pos rfl,
      Abi.Codec.decode_encode_self h]
    rfl
  | sellToLiquidityProvider =>
    rw [ProxyCall.encode, decode_append rfl, ProxyCall.decodeArguments, if_neg (by decide),
      if_pos rfl, Abi.Codec.decode_encode_self h]
    rfl
  | sellToUniswap =>
    rw [ProxyCall.encode, decode_append rfl, ProxyCall.decodeArguments, if_neg (by decide),
      if_neg (by decide), if_pos rfl, Abi.Codec.decode_encode_self h]
    rfl
  | batchFill =>
    rw [ProxyCall.encode, decode_append rfl, ProxyCall.decodeArguments, if_neg (by decide),
      if_neg (by decide), if_neg (by decide), if_pos rfl, Abi.Codec.decode_encode_self h]
    rfl
  | multiHopFill =>
    rw [ProxyCall.encode, decode_append rfl, ProxyCall.decodeArguments, if_neg (by decide),
      if_neg (by decide), if_neg (by decide), if_neg (by decide), if_pos rfl,
      Abi.Codec.decode_encode_self h]
    rfl

/-- Two hops, from the token `11` to the token `12`. -/
def exampleCall : ProxyCall :=
  .multiHopFill ⟨[11, 13, 12], 10 ^ 17, [⟨Abi.toBytes 4 1, [7]⟩, ⟨Abi.toBytes 4 2, []⟩]⟩ (10 ^ 16)

/-- Its arguments fit. -/
theorem valid_exampleCall : exampleCall.Valid := by
  have hselector : ∀ n, (Abi.fixedBytes 4).Valid (Abi.toBytes 4 n) := fun _ => ⟨rfl, by decide⟩
  have hbytes : ∀ l : Bytes, l.length ≤ 1 → Abi.bytes.Valid l := fun l h => h.trans (by decide)
  have hfirst : wrappedMultiHopCall.Valid ⟨Abi.toBytes 4 1, [7]⟩ := by
    refine ⟨_, rfl, hselector 1, hbytes _ (by decide), ?_, trivial⟩
    decide +kernel
  have hsecond : wrappedMultiHopCall.Valid ⟨Abi.toBytes 4 2, []⟩ := by
    refine ⟨_, rfl, hselector 2, hbytes _ (by decide), ?_, trivial⟩
    decide +kernel
  have hcalls : (Abi.array wrappedMultiHopCall).Valid
      [⟨Abi.toBytes 4 1, [7]⟩, ⟨Abi.toBytes 4 2, []⟩] := by
    refine ⟨?_, (_, _), rfl, hfirst, ?_, (_, _), rfl, hsecond, ?_, (), rfl, trivial⟩
    all_goals decide +kernel
  have hpath : (Abi.array addressCodec).Valid [11, 13, 12] := valid_path (by decide)
  refine ⟨⟨_, rfl, hpath, ?_, ⟨?_, ?_⟩, hcalls, ?_, trivial⟩, ?_, ⟨?_, ?_⟩, trivial⟩
  all_goals decide +kernel

/-! ### The adapter reads the order -/

/-- What the adapter takes from an order whose path has two tokens at least. -/
def Order.decoded (order : Order) : Option Decoded := do
  let inputToken ← order.path.head?
  let outputToken ← order.path.getLast?
  if 1 < order.path.length then
    some {
      inputToken := inputToken
      outputToken := outputToken
      recipient := order.recipient.getD zeroAddress
      supportsRecipient := order.recipient.isSome
      inputTokenAmount := order.sellAmount
      minOutputTokenAmount := order.minBuyAmount }
  else none

/-- Calldata of the proxy have a selector. -/
theorem four_le_length (h : ProxyCall.decode data = some call) : 4 ≤ data.length := by
  have hselector : ∀ n, data.take 4 = Abi.toBytes 4 n → 4 ≤ data.length := by
    intro n heq
    have hlength := congrArg List.length heq
    rw [List.length_take, Abi.length_toBytes] at hlength
    omega
  unfold ProxyCall.decode ProxyCall.decodeArguments at h
  split_ifs at h with h₁ h₂ h₃ h₄ h₅
  · exact hselector _ h₁
  · exact hselector _ h₂
  · exact hselector _ h₃
  · exact hselector _ h₄
  · exact hselector _ h₅

/-- The path of a function that has one is read from both ends. -/
theorem read_path_eq_ok {path : List Address} {amount minAmount : ℕ} {reason : Revert} :
    (do
      require (1 < path.length) reason
      return ({
        inputToken := ← AddressArrayUtils.read path 0
        outputToken := ← AddressArrayUtils.read path (path.length - 1)
        inputTokenAmount := amount
        minOutputTokenAmount := minAmount } : Decoded)) = .ok d ↔
      (Order.mk path none amount minAmount).decoded = some d := by
  simp only [Order.decoded, bind_eq_ok, require_eq_ok, AddressArrayUtils.read_eq_ok, pure_eq_ok,
    List.head?_eq_getElem?, List.getLast?_eq_getElem?, Option.bind_eq_bind, Option.bind_eq_some_iff]
  constructor
  · rintro ⟨-, hpath, input, hinput, output, houtput, rfl⟩
    exact ⟨input, hinput, output, houtput, if_pos hpath⟩
  · rintro ⟨input, hinput, output, houtput, h⟩
    split_ifs at h with hpath
    exact ⟨(), hpath, input, hinput, output, houtput, Option.some.inj h⟩

/-- The adapter decodes the first arguments as the proxy does, and takes the order from them. -/
theorem decodeArguments_eq_ok {selector arguments : Bytes}
    (h : ProxyCall.decodeArguments selector arguments = some call) :
    decodeArguments selector arguments = .ok d ↔ call.order.decoded = some d := by
  unfold ProxyCall.decodeArguments at h
  unfold decodeArguments
  split_ifs at h ⊢
  · obtain ⟨⟨⟨input, output, amount, minAmount, _⟩, transformations, _⟩, hdecode, rfl⟩ :=
      Option.map_eq_some_iff.mp h
    rw [abiDecode_eq_ok.mpr (Abi.Layout.decode_of_append hdecode)]
    simp [ProxyCall.order, Order.decoded]
  · obtain ⟨⟨⟨input, output, provider, recipient, amount, minAmount, _⟩, auxiliaryData, _⟩, hdecode,
      rfl⟩ := Option.map_eq_some_iff.mp h
    rw [abiDecode_eq_ok.mpr (Abi.Layout.decode_of_append hdecode)]
    simp [ProxyCall.order, Order.decoded]
  · obtain ⟨⟨⟨tokens, amount, minAmount, _⟩, isSushi, _⟩, hdecode, rfl⟩ :=
      Option.map_eq_some_iff.mp h
    rw [abiDecode_eq_ok.mpr (Abi.Layout.decode_of_append hdecode)]
    exact read_path_eq_ok
  · obtain ⟨⟨fillData, minAmount, _⟩, hdecode, rfl⟩ := Option.map_eq_some_iff.mp h
    rw [abiDecode_eq_ok.mpr hdecode]
    simp [ProxyCall.order, Order.decoded]
  · obtain ⟨⟨fillData, minAmount, _⟩, hdecode, rfl⟩ := Option.map_eq_some_iff.mp h
    rw [abiDecode_eq_ok.mpr hdecode]
    exact read_path_eq_ok

/-- An order fits a trade when what the adapter takes from it passes the checks. -/
theorem Order.fits_iff {order : Order} {sourceToken destinationToken destinationAddress : Address}
    {sourceQuantity minDestinationQuantity : ℕ} :
    order.Fits sourceToken destinationToken destinationAddress sourceQuantity
        minDestinationQuantity ↔
      ∃ d, order.decoded = some d ∧ d.inputToken = sourceToken ∧ d.outputToken = destinationToken ∧
        (d.supportsRecipient = false ∨ d.recipient = destinationAddress) ∧
        d.inputTokenAmount = sourceQuantity ∧ minDestinationQuantity ≤ d.minOutputTokenAmount := by
  obtain ⟨path, recipient, sellAmount, minBuyAmount⟩ := order
  have hrecipient : (∀ r ∈ recipient, r = destinationAddress) ↔
      recipient.isSome = false ∨ recipient.getD zeroAddress = destinationAddress := by
    cases recipient with
    | none => simp
    | some r => simp
  constructor
  · rintro ⟨hops, source, destination, hr, sold, bought⟩
    simp only at hops source destination hr sold bought
    refine ⟨⟨sourceToken, destinationToken, recipient.getD zeroAddress, recipient.isSome,
      sellAmount, minBuyAmount⟩, ?_, rfl, rfl, hrecipient.mp hr, sold, bought⟩
    rw [Order.decoded]
    simp only [source, destination, Option.bind_eq_bind, Option.bind_some, if_pos hops]
  · rintro ⟨d, hd, hinput, houtput, hr, hsold, hbought⟩
    simp only [Order.decoded, Option.bind_eq_bind, Option.bind_eq_some_iff] at hd
    obtain ⟨input, hsource, output, hdestination, hd⟩ := hd
    split_ifs at hd with hops
    obtain rfl := Option.some.inj hd
    subst hinput houtput
    exact ⟨hops, hsource, hdestination, hrecipient.mpr hr, hsold, hbought⟩

/-- Of the calldata that the proxy can decode, the adapter returns those whose order is the trade,
as they are. Ether goes along when it is sold. -/
theorem getTradeCalldata_eq_ok_iff
    {zeroExAddress sourceToken destinationToken destinationAddress : Address}
    {sourceQuantity minDestinationQuantity : ℕ} {r : Address × ℕ × CallData}
    (h : ProxyCall.decode data = some call) :
    getTradeCalldata zeroExAddress sourceToken destinationToken destinationAddress sourceQuantity
        minDestinationQuantity data = .ok r ↔
      call.order.Fits sourceToken destinationToken destinationAddress sourceQuantity
          minDestinationQuantity ∧
        r = (zeroExAddress, if sourceToken = ethAddress then sourceQuantity else 0,
          .bytes data) := by
  simp only [getTradeCalldata, bind_eq_ok, require_eq_ok, pure_eq_ok, decodeArguments_eq_ok h,
    Order.fits_iff]
  constructor
  · rintro ⟨-, -, d, hd, -, hinput, -, houtput, -, hrecipient, -, hsold, -, hbought, rfl⟩
    exact ⟨⟨d, hd, hinput, houtput, hrecipient, hsold, hbought⟩, by rw [hinput, hsold]⟩
  · rintro ⟨⟨d, hd, hinput, houtput, hrecipient, hsold, hbought⟩, rfl⟩
    refine ⟨(), four_le_length h, d, hd, (), hinput, (), houtput, (), hrecipient, (), hsold, (),
      hbought, ?_⟩
    rw [hinput, hsold]

/-- The call of two hops is returned for its trade. -/
theorem getTradeCalldata_eq_ok_iff_example :
    getTradeCalldata 90 11 12 100 (10 ^ 17) (10 ^ 15) exampleCall.encode =
      .ok (90, 0, .bytes exampleCall.encode) := by
  rw [getTradeCalldata_eq_ok_iff (decode_encode valid_exampleCall)]
  exact ⟨⟨by decide, rfl, rfl, fun r h => absurd h (Option.not_mem_none r), rfl, by decide⟩, rfl⟩

/-! ### Trades through the adapter -/

section Trades

variable {self msgSender setToken sendToken receiveToken zeroExAddress : Address} {env : Env}
  {w w' : World} {exchangeName : String} {sendQuantity minReceiveQuantity : ℕ}

/-- The Set approves the proxy and makes a call of it, for the trade of a manager. -/
structure Ordered (self setToken sendToken receiveToken zeroExAddress : Address) (env : Env)
    (w : World) (sendQuantity minReceiveQuantity : ℕ) (data : Bytes) (call : ProxyCall) : Prop where
  /-- The order sells the units of the whole supply, for no less than the least units, to the
  Set. -/
  fits : call.order.Fits sendToken receiveToken setToken
    (w.totalSupply setToken * sendQuantity / preciseUnit)
    (w.totalSupply setToken * minReceiveQuantity / preciseUnit)
  /-- The Set has the units that it sells. -/
  units : (sendQuantity : ℤ) ≤ (w.setTokens setToken).defaultRealUnit sendToken
  /-- The proxy is approved for what is sold, and the call is made with the data as they are. What
  the Set has more of the bought token is no less than the least quantity. -/
  called : ∃ w₁ w₂ words,
    Invoke.invokeApprove self env w setToken sendToken zeroExAddress
      (w.totalSupply setToken * sendQuantity / preciseUnit) = .ok w₁ ∧
    w₁.invoke env self setToken zeroExAddress
      (if sendToken = ethAddress then w.totalSupply setToken * sendQuantity / preciseUnit else 0)
      (.bytes data) = .ok (w₂, words) ∧
    (w.tokens receiveToken).balances setToken +
        w.totalSupply setToken * minReceiveQuantity / preciseUnit ≤
      (w₂.tokens receiveToken).balances setToken

/-- A trade through the adapter makes the Set approve the proxy, and call it with an order that is
the trade. -/
theorem ordered_of_trade {adapter : Address}
    (hname : ModuleBase.getAndValidateAdapter self env w exchangeName = .ok adapter)
    (hspender : ∀ w, env.getSpender adapter w = .ok (getSpender zeroExAddress))
    (hadapter : ∀ fromToken toToken toAddress fromQuantity minToQuantity data w,
      env.getTradeCalldata adapter fromToken toToken toAddress fromQuantity minToQuantity data w =
        getTradeCalldata zeroExAddress fromToken toToken toAddress fromQuantity minToQuantity data)
    (hdata : ProxyCall.decode data = some call)
    (h : TradeModule.trade self env w msgSender setToken exchangeName sendToken sendQuantity
      receiveToken minReceiveQuantity data = .ok w') :
    Ordered self setToken sendToken receiveToken zeroExAddress env w sendQuantity
      minReceiveQuantity data call := by
  simp only [TradeModule.trade, bind_eq_ok] at h
  obtain ⟨-, -, info, hinfo, ⟨⟩, hvalid, w₂, htrade, exchanged, hpost, -⟩ := h
  obtain ⟨hunits, -⟩ := TradeModule.validatePreTradeData_spec hinfo hvalid
  simp only [TradeModule.createTradeInfo, Position.getDefaultTotalNotional, bind_eq_ok,
    PreciseUnitMath.preciseMul_eq_ok, pure_eq_ok] at hinfo
  obtain ⟨_, hname', sold, ⟨-, rfl⟩, bought, ⟨-, rfl⟩, rfl⟩ := hinfo
  obtain rfl := Except.ok.inj (hname.symm.trans hname')
  simp only [TradeModule.executeTrade, bind_eq_ok, pure_eq_ok, Prod.exists, hadapter, hspender,
    Except.ok.injEq, getTradeCalldata_eq_ok_iff hdata] at htrade
  obtain ⟨_, rfl, w₁, happrove, target, value, callData, ⟨hfits, hcall⟩, w₃, words, hinvoke,
    rfl⟩ := htrade
  simp only [Prod.mk.injEq] at hcall
  obtain ⟨rfl, rfl, rfl⟩ := hcall
  simp only [TradeModule.validatePostTrade, bind_eq_ok, SafeMath.sub_eq_ok, require_eq_ok,
    pure_eq_ok] at hpost
  obtain ⟨_, ⟨hle, rfl⟩, -, hmin, rfl⟩ := hpost
  exact ⟨hfits, hunits, w₁, w₃, words, happrove, hinvoke, by omega⟩

/-! #### Example -/

/-- A proxy that decodes its calls, takes the amount by allowance, and pays as much of the last
token. -/
def exampleProxy : Env where
  getSpender _ _ := .ok (getSpender 90)
  getTradeCalldata _ fromToken toToken toAddress fromQuantity minToQuantity data _ :=
    getTradeCalldata 90 fromToken toToken toAddress fromQuantity minToQuantity data
  call call w :=
    match call.data with
    | .bytes data =>
      match (ProxyCall.decode data).map ProxyCall.order with
      | some ⟨sell :: path, _, amount, _⟩ => do
        let w ← w.editToken sell fun t => t.transferFrom 90 call.caller 90 amount
        let w ← w.editToken (path.getLastD sell) fun t => t.transfer 90 call.caller amount
        return (w, [])
      | _ => .error ""
    | _ => .error ""

/-- The Set `100` of the token `11`, with the manager `3`. -/
def exampleWorld : World where
  controller := { isSet := fun a => a = 100, isModule := fun a => a = 7 }
  integrations _ _ := 80
  tokens a :=
    if a = 11 then { balances := fun b => if b = 100 then 10 ^ 18 else 0 }
    else if a = 12 then { balances := fun b => if b = 90 then 10 ^ 18 else 0 }
    else if a = 100 then { totalSupply := 10 ^ 18 }
    else {}
  setTokens _ :=
    { manager := 3
      moduleStates := fun _ => .initialized
      components := [11]
      componentPositions := fun c => if c = 11 then { virtualUnit := 10 ^ 18 } else {} }

/-- A trade by two hops. -/
theorem ordered_of_trade_example :
    ∃ w, TradeModule.trade 7 exampleProxy exampleWorld 3 100 "" 11 (10 ^ 17) 12 (10 ^ 16)
        exampleCall.encode = .ok w ∧
      (w.setTokens 100).components = [11, 12] ∧
      Ordered 7 100 11 12 90 exampleProxy exampleWorld (10 ^ 17) (10 ^ 16) exampleCall.encode
        exampleCall := by
  obtain ⟨w, htrade, hw⟩ := exists_of_yields
    (x := TradeModule.trade 7 exampleProxy exampleWorld 3 100 "" 11 (10 ^ 17) 12 (10 ^ 16)
      exampleCall.encode)
    (p := fun w => (w.setTokens 100).components = [11, 12]) (by decide +kernel)
  exact ⟨w, htrade, of_decide_eq_true hw,
    ordered_of_trade rfl (fun _ => rfl) (fun _ _ _ _ _ _ _ => rfl)
      (decode_encode valid_exampleCall) htrade⟩

end Trades

end ZeroEx

/-! ## 1inch -/

namespace OneInch

open OneInchExchangeAdapter

/-- The arguments of the function that the adapter compares. -/
def tradeLayout : Abi.Layout (Address × Address × ℕ × ℕ × Unit) :=
  .cons addressCodec (.cons addressCodec (.cons uint256Codec (.cons uint256Codec .nil)))

/-- The arguments of `swap`. The others are the guaranteed amount, the referrer, and the calls. -/
def swapArguments := tradeLayout.append (.cons uint256Codec (.cons addressCodec
  (.cons (Abi.array addressCodec) (.cons Abi.bytes (.cons (Abi.array uint256Codec)
    (.cons (Abi.array uint256Codec) .nil))))))

variable {data beyond word : Bytes} {place : ℕ}

/-- A word that lies in the data is loaded, whatever comes after them. -/
theorem mload_of_takeExactly (h : Abi.takeExactly 32 (data.drop place) = some word) :
    mload (data ++ beyond) place = word := by
  unfold Abi.takeExactly at h
  split_ifs at h with hlength
  rw [← Option.some.inj h, mload]
  have hplace : place ≤ data.length := by
    rw [List.length_drop] at hlength
    omega
  rw [List.drop_append_of_le_length hplace, List.append_assoc,
    List.take_append_of_le_length hlength]

/-- The address that the exchange decodes is the one that the adapter loads. -/
theorem addressOf_mload {a : Address} (h : addressCodec.decode (data.drop place) = some a) :
    addressOf (mload (data ++ beyond) place) = a := by
  obtain ⟨n, hn, rfl⟩ := Option.map_eq_some_iff.mp h
  obtain ⟨hread, -⟩ := Option.filter_eq_some_iff.mp hn
  obtain ⟨word, hword, rfl⟩ := Option.map_eq_some_iff.mp hread
  rw [mload_of_takeExactly hword]
  rfl

/-- So is the number. -/
theorem ofBytes_mload {n : ℕ} (h : uint256Codec.decode (data.drop place) = some n) :
    Abi.ofBytes (mload (data ++ beyond) place) = n := by
  obtain ⟨hread, -⟩ := Option.filter_eq_some_iff.mp h
  obtain ⟨word, hword, rfl⟩ := Option.map_eq_some_iff.mp hread
  rw [mload_of_takeExactly hword]

/-- Of the calldata that the exchange can decode, the adapter returns those of its function that
sell the quantity of the one token for at least the quantity of the other, as they are. What lies in
memory after the data has no part in it. -/
theorem accepts_iff {adapter : OneInchExchangeAdapter}
    {sourceToken destinationToken fromToken toToken : Address}
    {sourceQuantity minDestinationQuantity fromTokenAmount minReturnAmount : ℕ}
    {others : ℕ × Address × List Address × Bytes × List ℕ × List ℕ × Unit}
    {r : Address × ℕ × CallData}
    (h : (Abi.tuple swapArguments).decode (data.drop 4) =
      some ((fromToken, toToken, fromTokenAmount, minReturnAmount, ()), others)) :
    getTradeCalldata adapter sourceToken destinationToken sourceQuantity minDestinationQuantity data
        beyond = .ok r ↔
      data.take 4 = adapter.oneInchFunctionSignature ∧ fromToken = sourceToken ∧
        toToken = destinationToken ∧ fromTokenAmount = sourceQuantity ∧
        minDestinationQuantity ≤ minReturnAmount ∧
        r = (adapter.oneInchExchangeAddress, 0, .bytes data) := by
  have hprefix := Abi.Layout.decode_of_append h
  obtain ⟨hfrom, hrest⟩ := Abi.Layout.decode_of_cons rfl hprefix
  obtain ⟨hto, hrest⟩ := Abi.Layout.decode_of_cons rfl hrest
  obtain ⟨hamount, hrest⟩ := Abi.Layout.decode_of_cons rfl hrest
  obtain ⟨hmin, -⟩ := Abi.Layout.decode_of_cons rfl hrest
  simp only [List.drop_drop] at hfrom hto hamount hmin
  have hselector : (mload (data ++ beyond) 0).take 4 = data.take 4 := by
    have hlength : 4 ≤ data.length := by
      by_contra hshort
      have hnone : addressCodec.decode [] = none := by decide
      rw [List.drop_eq_nil_of_le (by omega), hnone] at hfrom
      exact absurd hfrom (by simp)
    rw [mload, List.drop_zero, List.take_take, List.append_assoc]
    exact List.take_append_of_le_length hlength
  have hsource : addressOf (mload (data ++ beyond) 4) = fromToken := addressOf_mload hfrom
  have hdestination : addressOf (mload (data ++ beyond) 36) = toToken := addressOf_mload hto
  have hsold : Abi.ofBytes (mload (data ++ beyond) 68) = fromTokenAmount := ofBytes_mload hamount
  have hbought : Abi.ofBytes (mload (data ++ beyond) 100) = minReturnAmount := ofBytes_mload hmin
  simp only [getTradeCalldata, hselector, hsource, hdestination, hsold, hbought, bind_eq_ok,
    require_eq_ok, pure_eq_ok]
  constructor
  · rintro ⟨-, hsignature, -, hs, -, hd, -, hq, -, hm, rfl⟩
    exact ⟨hsignature, hs, hd, hq, hm, rfl⟩
  · rintro ⟨hsignature, hs, hd, hq, hm, rfl⟩
    exact ⟨(), hsignature, (), hs, (), hd, (), hq, (), hm, rfl⟩

/-- Calldata of `swap`, with a single call. -/
def exampleData : Bytes :=
  Abi.toBytes 4 0xe2a7515e ++ (Abi.tuple swapArguments).encode
    ((11, 12, 10 ^ 17, 10 ^ 16, ()), (10 ^ 16, 0, [20], [1, 2, 3], [0, 3], [0], ()))

/-- Calldata that fit are returned. -/
theorem accepts_iff_example :
    getTradeCalldata ⟨80, 90, Abi.toBytes 4 0xe2a7515e⟩ 11 12 (10 ^ 17) (10 ^ 16) exampleData
      [255] = .ok (90, 0, .bytes exampleData) := by
  have hfirst : ((Abi.tuple swapArguments).decode (exampleData.drop 4)).map Prod.fst =
      some (11, 12, 10 ^ 17, 10 ^ 16, ()) := by decide +kernel
  obtain ⟨⟨arguments, others⟩, hdecode, rfl⟩ := Option.map_eq_some_iff.mp hfirst
  rw [accepts_iff hdecode]
  exact ⟨by decide +kernel, rfl, rfl, rfl, Nat.le_refl _, rfl⟩

end OneInch

/-! ## Uniswap -/

section Uniswap

variable {keccak256 : String → ℕ} {router destinationAddress : Address} {path : List Address}
  {timestamp sourceQuantity minDestinationQuantity amount limit : ℕ} {data : Bytes}
  {r : Address × ℕ × CallData}

/-- The arguments of a swap fit. -/
private theorem valid_swap (hamount : InUint256 amount) (hlimit : InUint256 limit)
    (htimestamp : InUint256 timestamp) (hpath : (Abi.array addressCodec).Valid path) :
    (Abi.tuple swapLayout).Valid (amount, limit, path, destinationAddress, timestamp, ()) := by
  refine ⟨valid_uint256 hamount, valid_uint256 hlimit, hpath, ?_, valid_address _,
    valid_uint256 htimestamp, trivial⟩
  decide

/-- The adapter makes the router swap the exact quantity for the least one, to the account, on the
path in the data, or directly where there are none. -/
theorem UniswapV2ExchangeAdapter.getTradeCalldata_spec {sourceToken destinationToken : Address}
    (hsource : InUint256 sourceQuantity) (hmin : InUint256 minDestinationQuantity)
    (htimestamp : InUint256 timestamp)
    (h : getTradeCalldata keccak256 router timestamp sourceToken destinationToken
      destinationAddress sourceQuantity minDestinationQuantity data = .ok r) :
    ∃ path callData, r = (router, 0, .bytes callData) ∧
      (if data = [] then path = [sourceToken, destinationToken]
        else (Abi.tuple pathLayout).decode data = some (path, ())) ∧
      decodeCall keccak256 "swapExactTokensForTokens(uint256,uint256,address[],address,uint256)"
        swapLayout callData = some (sourceQuantity, minDestinationQuantity, path,
          destinationAddress, timestamp, ()) := by
  simp only [getTradeCalldata, bind_eq_ok, pure_eq_ok, List.length_eq_zero_iff] at h
  obtain ⟨path, hpath, rfl⟩ := h
  refine ⟨path, _, rfl, ?_, decodeCall_encodeWithSignature
    (valid_swap hsource hmin htimestamp ?_)⟩
  · split_ifs at hpath ⊢ with hdata
    · exact (Except.ok.inj hpath).symm
    · simp only [bind_eq_ok, pure_eq_ok, abiDecode_eq_ok, Prod.exists] at hpath
      obtain ⟨_, _, hdecode, rfl⟩ := hpath
      exact hdecode
  · split_ifs at hpath with hdata
    · obtain rfl := Except.ok.inj hpath
      exact valid_path (Nat.le_of_lt (by decide : 2 < Abi.maxLength))
    · simp only [bind_eq_ok, pure_eq_ok, abiDecode_eq_ok, Prod.exists] at hpath
      obtain ⟨path, _, hdecode, rfl⟩ := hpath
      change (Abi.Layout.cons (Abi.array addressCodec) .nil).decode data data = _ at hdecode
      obtain ⟨_, -, harray, -⟩ := Abi.Layout.decode_of_cons_dynamic rfl hdecode
      exact Abi.valid_of_decode_array rfl valid_address harray

/-- The data that the helper makes of a path and a choice have the adapter make the router swap the
exact quantity for the least one, or for the least quantity no more than that quantity, to the
account, on the path. -/
theorem UniswapV2ExchangeAdapterV2.getTradeCalldata_getUniswapExchangeData
    {shouldSwapTokensForExactTokens : Bool} (hpath : path.length ≤ Abi.maxLength)
    (hsource : InUint256 sourceQuantity) (hmin : InUint256 minDestinationQuantity)
    (htimestamp : InUint256 timestamp) :
    ∃ callData, getTradeCalldata keccak256 router timestamp destinationAddress sourceQuantity
        minDestinationQuantity (getUniswapExchangeData path shouldSwapTokensForExactTokens) =
          .ok (router, 0, .bytes callData) ∧
      decodeCall keccak256
        (if shouldSwapTokensForExactTokens = true then swapTokensForExactTokens
          else swapExactTokensForTokens) swapLayout callData =
        some (if shouldSwapTokensForExactTokens = true then
            (minDestinationQuantity, sourceQuantity, path, destinationAddress, timestamp, ())
          else (sourceQuantity, minDestinationQuantity, path, destinationAddress, timestamp, ())) :=
    by
  have hdata : abiDecode exchangeDataLayout
      (getUniswapExchangeData path shouldSwapTokensForExactTokens) =
        .ok (path, shouldSwapTokensForExactTokens, ()) := by
    rw [abiDecode_eq_ok]
    refine Abi.Codec.decode_encode_self ⟨valid_path hpath, ?_, trivial, trivial⟩
    decide
  simp only [getTradeCalldata, hdata]
  cases shouldSwapTokensForExactTokens with
  | true =>
    exact ⟨_, rfl, decodeCall_encodeWithSignature
      (valid_swap hmin hsource htimestamp (valid_path hpath))⟩
  | false =>
    exact ⟨_, rfl, decodeCall_encodeWithSignature
      (valid_swap hsource hmin htimestamp (valid_path hpath))⟩

/-- A path of three tokens, for an exact amount to receive. -/
theorem UniswapV2ExchangeAdapterV2.getTradeCalldata_getUniswapExchangeData_example :
    ∃ callData, getTradeCalldata (fun _ => 2 ^ 255) 90 1000 100 (10 ^ 18) (10 ^ 17)
        (getUniswapExchangeData [11, 13, 12] true) = .ok (90, 0, .bytes callData) ∧
      decodeCall (fun _ => 2 ^ 255) swapTokensForExactTokens swapLayout callData =
        some (10 ^ 17, 10 ^ 18, [11, 13, 12], 100, 1000, ()) :=
  getTradeCalldata_getUniswapExchangeData (by decide) (by decide) (by decide) (by decide)

end Uniswap

/-! ## Kyber -/

/-- The adapter makes the proxy sell the whole quantity, to the account, at a rate that asks for no
more than the least quantity. What the rate asks for falls short of it by less than what a rate of
one pays for one unit more than the quantity. -/
theorem KyberExchangeAdapter.rate_of_getTradeCalldata {keccak256 : String → ℕ}
    {decimals : Address → Except Revert ℕ}
    {proxy sourceToken destinationToken destinationAddress : Address}
    {sourceQuantity minDestinationQuantity : ℕ} {r : Address × ℕ × CallData}
    (hsource : InUint256 sourceQuantity)
    (h : getTradeCalldata keccak256 decimals proxy sourceToken destinationToken destinationAddress
      sourceQuantity minDestinationQuantity = .ok r) :
    ∃ sourceDecimals destinationDecimals rate callData,
      decimals sourceToken = .ok sourceDecimals ∧
      decimals destinationToken = .ok destinationDecimals ∧ r = (proxy, 0, .bytes callData) ∧
      decodeCall keccak256 "trade(address,uint256,address,address,uint256,uint256,address)"
        tradeLayout callData = some (sourceToken, sourceQuantity, destinationToken,
          destinationAddress, PreciseUnitMath.maxUint256, rate, zeroAddress, ()) ∧
      sourceQuantity * rate * baseUnit destinationDecimals ≤
        minDestinationQuantity * preciseUnit * baseUnit sourceDecimals ∧
      minDestinationQuantity * preciseUnit * baseUnit sourceDecimals <
        sourceQuantity * rate * baseUnit destinationDecimals +
          (sourceQuantity + 1) * baseUnit destinationDecimals := by
  simp only [getTradeCalldata, tradeInfo, bind_eq_ok, SafeMath.mul_eq_ok, SafeMath.div_eq_ok,
    pure_eq_ok] at h
  obtain ⟨_, ⟨sourceDecimals, hs, destinationDecimals, hd, _, ⟨-, rfl⟩, _, ⟨hfits, rfl⟩, _,
    ⟨hbase, rfl⟩, rate, ⟨hpos, hrate⟩, rfl⟩, rfl⟩ := h
  set target := minDestinationQuantity * preciseUnit * baseUnit sourceDecimals
  set base := baseUnit destinationDecimals
  have hmax : InUint256 PreciseUnitMath.maxUint256 := by decide
  refine ⟨sourceDecimals, destinationDecimals, rate, _, hs, hd, rfl,
    decodeCall_encodeWithSignature ⟨valid_address _, valid_uint256 hsource, valid_address _,
      valid_address _, valid_uint256 hmax, valid_uint256 ?_, valid_address _, trivial⟩, ?_,
    ?_⟩
  · have hle : rate ≤ target := by
      rw [← hrate]
      exact (Nat.div_le_self _ _).trans (Nat.div_le_self _ _)
    exact hle.trans_lt hfits
  · rw [← hrate]
    calc sourceQuantity * (target / base / sourceQuantity) * base
        ≤ target / base * base := Nat.mul_le_mul_right _ (Nat.mul_div_le _ _)
      _ ≤ target := Nat.div_mul_le_self _ _
  · have hquotient : target / base < sourceQuantity * (rate + 1) := by
      rw [← hrate]
      exact Nat.lt_mul_div_succ _ hpos
    have htarget : target < base * (target / base + 1) := Nat.lt_mul_div_succ _ hbase
    calc target < base * (target / base + 1) := htarget
      _ ≤ base * (sourceQuantity * (rate + 1) + 1) :=
        Nat.mul_le_mul_left _ (Nat.succ_le_succ hquotient.le)
      _ = sourceQuantity * rate * base + (sourceQuantity + 1) * base := by ring

/-- Three units of a token with six decimals for two of one with eighteen. -/
theorem KyberExchangeAdapter.rate_of_getTradeCalldata_example :
    ∃ rate callData,
      getTradeCalldata (fun _ => 0) (fun a => .ok (if a = 11 then 6 else 18)) 90 11 12 100 3
        (2 * 10 ^ 12) = .ok (90, 0, .bytes callData) ∧
      3 * rate * baseUnit 18 ≤ 2 * 10 ^ 12 * preciseUnit * baseUnit 6 ∧
      2 * 10 ^ 12 * preciseUnit * baseUnit 6 <
        3 * rate * baseUnit 18 + (3 + 1) * baseUnit 18 := by
  obtain ⟨r, hr, -⟩ := exists_of_yields
    (x := getTradeCalldata (fun _ => 0) (fun a => .ok (if a = 11 then 6 else 18)) 90 11 12 100 3
      (2 * 10 ^ 12)) (p := fun _ => true) (by decide +kernel)
  obtain ⟨sourceDecimals, destinationDecimals, rate, callData, hs, hd, rfl, -, hle, hlt⟩ :=
    rate_of_getTradeCalldata (by decide) hr
  obtain rfl : 6 = sourceDecimals := Except.ok.inj hs
  obtain rfl : 18 = destinationDecimals := Except.ok.inj hd
  exact ⟨rate, callData, hr, hle, hlt⟩

end SetProtocol
