import SetProtocol.Core.Encoding

set_option relaxedAutoImplicit false
set_option autoImplicit false

/-!
# Exchange adapters

The adapters of `contracts/protocol/integration` that give trades their calldata. Those of Uniswap
and Kyber encode the call. Those of 0x and 1inch are given the calldata, which an API made, and
check it against the trade: the former by decoding it, the latter by reading words of memory.

## Main definitions

* `SetProtocol.ZeroExApiAdapter.getTradeCalldata`,
  `SetProtocol.OneInchExchangeAdapter.getTradeCalldata`,
  `SetProtocol.UniswapV2ExchangeAdapter.getTradeCalldata`,
  `SetProtocol.UniswapV2ExchangeAdapterV2.getTradeCalldata`,
  `SetProtocol.KyberExchangeAdapter.getTradeCalldata`.
-/

namespace SetProtocol

open Checked

/-! ## 0x -/

namespace ZeroExApiAdapter

/-- `ETH_ADDRESS`. -/
def ethAddress : Address := 0xEeeeeEeeeEeEeeEeEeEeeEEEeeeeEeeeeeeeEEeE

/-- `WrappedBatchCall`. -/
structure WrappedBatchCall where
  /-- The selector of the function. -/
  selector : Bytes
  /-- The amount to sell. -/
  sellAmount : ℕ
  /-- The data of the call. -/
  data : Bytes
  deriving DecidableEq

/-- `BatchFillData`. -/
structure BatchFillData where
  /-- The token that is sold. -/
  inputToken : Address
  /-- The token that is bought. -/
  outputToken : Address
  /-- The amount to sell. -/
  sellAmount : ℕ
  /-- The calls that fill the order. -/
  calls : List WrappedBatchCall
  deriving DecidableEq

/-- `WrappedMultiHopCall`. -/
structure WrappedMultiHopCall where
  /-- The selector of the function. -/
  selector : Bytes
  /-- The data of the call. -/
  data : Bytes
  deriving DecidableEq

/-- `MultiHopFillData`. -/
structure MultiHopFillData where
  /-- The tokens on the way. -/
  tokens : List Address
  /-- The amount to sell. -/
  sellAmount : ℕ
  /-- The calls, one for each hop. -/
  calls : List WrappedMultiHopCall
  deriving DecidableEq

/-- The fields of `WrappedBatchCall`. -/
def wrappedBatchCall : Abi.Codec WrappedBatchCall :=
  Abi.tuple (.ofFields (.cons (Abi.fixedBytes 4) (.cons uint256Codec (.cons Abi.bytes .nil)))
    (fun c => (c.selector, c.sellAmount, c.data, ())) (fun (selector, sellAmount, data, _) =>
      ⟨selector, sellAmount, data⟩) fun _ => rfl)

/-- The fields of `BatchFillData`. -/
def batchFillData : Abi.Codec BatchFillData :=
  Abi.tuple (.ofFields (.cons addressCodec (.cons addressCodec (.cons uint256Codec
      (.cons (Abi.array wrappedBatchCall) .nil))))
    (fun d => (d.inputToken, d.outputToken, d.sellAmount, d.calls, ()))
    (fun (inputToken, outputToken, sellAmount, calls, _) =>
      ⟨inputToken, outputToken, sellAmount, calls⟩) fun _ => rfl)

/-- The fields of `WrappedMultiHopCall`. -/
def wrappedMultiHopCall : Abi.Codec WrappedMultiHopCall :=
  Abi.tuple (.ofFields (.cons (Abi.fixedBytes 4) (.cons Abi.bytes .nil))
    (fun c => (c.selector, c.data, ())) (fun (selector, data, _) => ⟨selector, data⟩) fun _ => rfl)

/-- The fields of `MultiHopFillData`. -/
def multiHopFillData : Abi.Codec MultiHopFillData :=
  Abi.tuple (.ofFields (.cons (Abi.array addressCodec) (.cons uint256Codec
      (.cons (Abi.array wrappedMultiHopCall) .nil)))
    (fun d => (d.tokens, d.sellAmount, d.calls, ()))
    (fun (tokens, sellAmount, calls, _) => ⟨tokens, sellAmount, calls⟩) fun _ => rfl)

/-- The arguments of `transformERC20` that the adapter decodes. -/
def transformERC20Layout : Abi.Layout (Address × Address × ℕ × ℕ × Unit) :=
  .cons addressCodec (.cons addressCodec (.cons uint256Codec (.cons uint256Codec .nil)))

/-- The arguments of `sellToLiquidityProvider` that the adapter decodes. -/
def sellToLiquidityProviderLayout :
    Abi.Layout (Address × Address × Address × Address × ℕ × ℕ × Unit) :=
  .cons addressCodec (.cons addressCodec (.cons addressCodec (.cons addressCodec
    (.cons uint256Codec (.cons uint256Codec .nil)))))

/-- The arguments of `sellToUniswap` that the adapter decodes. -/
def sellToUniswapLayout : Abi.Layout (List Address × ℕ × ℕ × Unit) :=
  .cons (Abi.array addressCodec) (.cons uint256Codec (.cons uint256Codec .nil))

/-- The arguments of `batchFill`. -/
def batchFillLayout : Abi.Layout (BatchFillData × ℕ × Unit) :=
  .cons batchFillData (.cons uint256Codec .nil)

/-- The arguments of `multiHopFill`. -/
def multiHopFillLayout : Abi.Layout (MultiHopFillData × ℕ × Unit) :=
  .cons multiHopFillData (.cons uint256Codec .nil)

/-- The selectors of the functions, in the order of the branches. -/
def transformERC20Selector : Bytes := Abi.toBytes 4 0x415565b0

@[inherit_doc transformERC20Selector]
def sellToLiquidityProviderSelector : Bytes := Abi.toBytes 4 0xf7fcd384

@[inherit_doc transformERC20Selector]
def sellToUniswapSelector : Bytes := Abi.toBytes 4 0xd9627aa4

@[inherit_doc transformERC20Selector]
def batchFillSelector : Bytes := Abi.toBytes 4 0xafc6728e

@[inherit_doc transformERC20Selector]
def multiHopFillSelector : Bytes := Abi.toBytes 4 0x21c184b6

/-- The variables of `getTradeCalldata` that the branches assign. -/
structure Decoded where
  /-- The token that is sold. -/
  inputToken : Address := zeroAddress
  /-- The token that is bought. -/
  outputToken : Address := zeroAddress
  /-- Who receives the bought tokens. -/
  recipient : Address := zeroAddress
  /-- Whether the function has a recipient. -/
  supportsRecipient : Bool := false
  /-- The amount to sell. -/
  inputTokenAmount : ℕ := 0
  /-- The least amount to buy. -/
  minOutputTokenAmount : ℕ := 0
  deriving DecidableEq

/-- The branches of `getTradeCalldata`, with the selector and the data after it. -/
def decodeArguments (selector arguments : Bytes) : Except Revert Decoded :=
  if selector = transformERC20Selector then do
    let (inputToken, outputToken, inputTokenAmount, minOutputTokenAmount, _) ←
      abiDecode transformERC20Layout arguments
    return {
      inputToken := inputToken
      outputToken := outputToken
      inputTokenAmount := inputTokenAmount
      minOutputTokenAmount := minOutputTokenAmount }
  else if selector = sellToLiquidityProviderSelector then do
    let (inputToken, outputToken, _, recipient, inputTokenAmount, minOutputTokenAmount, _) ←
      abiDecode sellToLiquidityProviderLayout arguments
    return {
      inputToken := inputToken
      outputToken := outputToken
      recipient := recipient
      supportsRecipient := true
      inputTokenAmount := inputTokenAmount
      minOutputTokenAmount := minOutputTokenAmount }
  else if selector = sellToUniswapSelector then do
    let (path, inputTokenAmount, minOutputTokenAmount, _) ← abiDecode sellToUniswapLayout arguments
    require (1 < path.length) "Uniswap token path too short"
    return {
      inputToken := ← AddressArrayUtils.read path 0
      outputToken := ← AddressArrayUtils.read path (path.length - 1)
      inputTokenAmount := inputTokenAmount
      minOutputTokenAmount := minOutputTokenAmount }
  else if selector = batchFillSelector then do
    let (fillData, minOutputTokenAmount, _) ← abiDecode batchFillLayout arguments
    return {
      inputToken := fillData.inputToken
      outputToken := fillData.outputToken
      inputTokenAmount := fillData.sellAmount
      minOutputTokenAmount := minOutputTokenAmount }
  else if selector = multiHopFillSelector then do
    let (fillData, minOutputTokenAmount, _) ← abiDecode multiHopFillLayout arguments
    require (1 < fillData.tokens.length) "Multihop token path too short"
    return {
      inputToken := ← AddressArrayUtils.read fillData.tokens 0
      outputToken := ← AddressArrayUtils.read fillData.tokens (fillData.tokens.length - 1)
      inputTokenAmount := fillData.sellAmount
      minOutputTokenAmount := minOutputTokenAmount }
  else .error "Unsupported 0xAPI function selector"

/-- `getTradeCalldata`. -/
def getTradeCalldata (zeroExAddress sourceToken destinationToken destinationAddress : Address)
    (sourceQuantity minDestinationQuantity : ℕ) (data : Bytes) :
    Except Revert (Address × ℕ × CallData) := do
  require (4 ≤ data.length) "Invalid calldata"
  let decoded ← decodeArguments (data.take 4) (data.drop 4)
  require (decoded.inputToken = sourceToken) "Mismatched input token"
  require (decoded.outputToken = destinationToken) "Mismatched output token"
  require (decoded.supportsRecipient = false ∨ decoded.recipient = destinationAddress)
    "Mismatched recipient"
  require (decoded.inputTokenAmount = sourceQuantity) "Mismatched input token quantity"
  require (minDestinationQuantity ≤ decoded.minOutputTokenAmount)
    "Mismatched output token quantity"
  -- does not account for the protocol fees of limit orders
  return (zeroExAddress, if decoded.inputToken = ethAddress then decoded.inputTokenAmount else 0,
    .bytes data)

/-- `getSpender`, which the constructor sets to the address of the exchange. -/
def getSpender (zeroExAddress : Address) : Address := zeroExAddress

end ZeroExApiAdapter

/-! ## 1inch -/

/-- The storage of the `OneInchExchangeAdapter`. -/
structure OneInchExchangeAdapter where
  /-- Who takes the tokens. -/
  oneInchApprovalAddress : Address
  /-- The exchange. -/
  oneInchExchangeAddress : Address
  /-- The selector of the function. -/
  oneInchFunctionSignature : Bytes

namespace OneInchExchangeAdapter

/-- `mload`: the 32 bytes at a place of memory, which is zero where nothing was written. -/
def mload (memory : Bytes) (place : ℕ) : Bytes :=
  (memory.drop place ++ List.replicate 32 0).take 32

/-- What is compared of a word that is used as an address. -/
def addressOf (word : Bytes) : Address := BitVec.ofNat 160 (Abi.ofBytes word)

/-- `getTradeCalldata`, in a memory that has some bytes after the data. The words are read without
regard to the length of the data. -/
def getTradeCalldata (adapter : OneInchExchangeAdapter) (sourceToken destinationToken : Address)
    (sourceQuantity minDestinationQuantity : ℕ) (data beyond : Bytes) :
    Except Revert (Address × ℕ × CallData) := do
  let memory := data ++ beyond
  let signature := (mload memory 0).take 4
  let fromToken := addressOf (mload memory 4)
  let toToken := addressOf (mload memory 36)
  let fromTokenAmount := Abi.ofBytes (mload memory 68)
  let minReturnAmount := Abi.ofBytes (mload memory 100)
  require (signature = adapter.oneInchFunctionSignature) "Not One Inch Swap Function"
  require (fromToken = sourceToken) "Invalid send token"
  require (toToken = destinationToken) "Invalid receive token"
  require (fromTokenAmount = sourceQuantity) "Source quantity mismatch"
  require (minDestinationQuantity ≤ minReturnAmount) "Min destination quantity mismatch"
  return (adapter.oneInchExchangeAddress, 0, .bytes data)

/-- `getSpender`. -/
def getSpender (adapter : OneInchExchangeAdapter) : Address := adapter.oneInchApprovalAddress

end OneInchExchangeAdapter

/-! ## Uniswap -/

/-- The arguments of `swapExactTokensForTokens` and `swapTokensForExactTokens` of the router: the
two amounts, the path, the recipient and the deadline. -/
def swapLayout : Abi.Layout (ℕ × ℕ × List Address × Address × ℕ × Unit) :=
  .cons uint256Codec (.cons uint256Codec (.cons (Abi.array addressCodec) (.cons addressCodec
    (.cons uint256Codec .nil))))

namespace UniswapV2ExchangeAdapter

/-- The layout of the data that give a path. -/
def pathLayout : Abi.Layout (List Address × Unit) := .cons (Abi.array addressCodec) .nil

/-- `getTradeCalldata`. -/
def getTradeCalldata (keccak256 : String → ℕ) (router : Address) (timestamp : ℕ)
    (sourceToken destinationToken destinationAddress : Address)
    (sourceQuantity minDestinationQuantity : ℕ) (data : Bytes) :
    Except Revert (Address × ℕ × CallData) := do
  let path ← (
    if data.length = 0 then .ok [sourceToken, destinationToken]
    else do
      let (path, _) ← abiDecode pathLayout data
      return path)
  let callData := encodeWithSignature keccak256
    "swapExactTokensForTokens(uint256,uint256,address[],address,uint256)" swapLayout
    (sourceQuantity, minDestinationQuantity, path, destinationAddress, timestamp, ())
  return (router, 0, .bytes callData)

end UniswapV2ExchangeAdapter

namespace UniswapV2ExchangeAdapterV2

/-- `SWAP_EXACT_TOKENS_FOR_TOKENS`. -/
def swapExactTokensForTokens : String :=
  "swapExactTokensForTokens(uint256,uint256,address[],address,uint256)"

/-- `SWAP_TOKENS_FOR_EXACT_TOKENS`. -/
def swapTokensForExactTokens : String :=
  "swapTokensForExactTokens(uint256,uint256,address[],address,uint256)"

/-- The layout of the data that give a path and the function. -/
def exchangeDataLayout : Abi.Layout (List Address × Bool × Unit) :=
  .cons (Abi.array addressCodec) (.cons Abi.bool .nil)

/-- `getTradeCalldata`. -/
def getTradeCalldata (keccak256 : String → ℕ) (router : Address) (timestamp : ℕ)
    (destinationAddress : Address) (sourceQuantity minDestinationQuantity : ℕ) (data : Bytes) :
    Except Revert (Address × ℕ × CallData) := do
  let (path, shouldSwapTokensForExactTokens, _) ← abiDecode exchangeDataLayout data
  -- the quantities are flipped for an exact amount to receive
  let callData := encodeWithSignature keccak256
    (if shouldSwapTokensForExactTokens = true then swapTokensForExactTokens
      else swapExactTokensForTokens) swapLayout
    (if shouldSwapTokensForExactTokens = true then minDestinationQuantity else sourceQuantity,
      if shouldSwapTokensForExactTokens = true then sourceQuantity else minDestinationQuantity,
      path, destinationAddress, timestamp, ())
  return (router, 0, .bytes callData)

/-- `getUniswapExchangeData`. -/
def getUniswapExchangeData (path : List Address) (shouldSwapTokensForExactTokens : Bool) : Bytes :=
  (Abi.tuple exchangeDataLayout).encode (path, shouldSwapTokensForExactTokens, ())

end UniswapV2ExchangeAdapterV2

/-! ## Kyber -/

namespace KyberExchangeAdapter

/-- `KyberTradeInfo`. -/
structure KyberTradeInfo where
  /-- The decimals of the token to send. -/
  sourceTokenDecimals : ℕ
  /-- The decimals of the token to receive. -/
  destinationTokenDecimals : ℕ
  /-- The rate that the least quantity to receive implies. -/
  conversionRate : ℕ

/-- The arguments of `trade` of the proxy. -/
def tradeLayout : Abi.Layout (Address × ℕ × Address × Address × ℕ × ℕ × Address × Unit) :=
  .cons addressCodec (.cons uint256Codec (.cons addressCodec (.cons addressCodec
    (.cons uint256Codec (.cons uint256Codec (.cons addressCodec .nil))))))

/-- `10 ** decimals`, which is not checked for overflow. -/
def baseUnit (decimals : ℕ) : ℕ := 10 ^ decimals % 2 ^ 256

/-- The trade information that `getTradeCalldata` computes. -/
def tradeInfo (decimals : Address → Except Revert ℕ) (sourceToken destinationToken : Address)
    (sourceQuantity minDestinationQuantity : ℕ) : Except Revert KyberTradeInfo := do
  let sourceTokenDecimals ← decimals sourceToken
  let destinationTokenDecimals ← decimals destinationToken
  let scaled ← SafeMath.mul minDestinationQuantity preciseUnit
  let inSource ← SafeMath.mul scaled (baseUnit sourceTokenDecimals)
  let inDestination ← SafeMath.div inSource (baseUnit destinationTokenDecimals)
  let conversionRate ← SafeMath.div inDestination sourceQuantity
  return {
    sourceTokenDecimals := sourceTokenDecimals
    destinationTokenDecimals := destinationTokenDecimals
    conversionRate := conversionRate }

/-- `getTradeCalldata`. -/
def getTradeCalldata (keccak256 : String → ℕ) (decimals : Address → Except Revert ℕ)
    (kyberNetworkProxyAddress sourceToken destinationToken destinationAddress : Address)
    (sourceQuantity minDestinationQuantity : ℕ) : Except Revert (Address × ℕ × CallData) := do
  let kyberTradeInfo ← tradeInfo decimals sourceToken destinationToken sourceQuantity
    minDestinationQuantity
  -- the whole amount is sold, at no worse than the implied rate, without a referrer
  let methodData := encodeWithSignature keccak256
    "trade(address,uint256,address,address,uint256,uint256,address)" tradeLayout
    (sourceToken, sourceQuantity, destinationToken, destinationAddress, PreciseUnitMath.maxUint256,
      kyberTradeInfo.conversionRate, zeroAddress, ())
  return (kyberNetworkProxyAddress, 0, .bytes methodData)

end KyberExchangeAdapter

end SetProtocol
