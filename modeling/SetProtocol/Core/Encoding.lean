import SetProtocol.Core.World
import SetProtocol.Lib.Abi

set_option relaxedAutoImplicit false
set_option autoImplicit false

/-!
# Encoded calls

`abi.encodeWithSignature` and `abi.decode` of Solidity, for the types of the protocol.

## Main definitions

* `SetProtocol.abiDecode`, `SetProtocol.encodeWithSignature` — the functions of Solidity.
* `SetProtocol.decodeCall` — what a contract makes of a call of one of its functions.

## Main results

* `SetProtocol.decodeCall_encodeWithSignature` — arguments that fit are read back.

## Implementation notes

The selector of a function is the first bytes of the hash of its signature. The hash is a parameter.
-/

namespace SetProtocol

/-- The type `address` of the ABI. -/
def addressCodec : Abi.Codec Address := Abi.bitVec 160

/-- The type `uint256` of the ABI. -/
def uint256Codec : Abi.Codec ℕ := Abi.uint 256

/-- `abi.decode`. -/
def abiDecode {α : Type} (layout : Abi.Layout α) (data : Bytes) : Except Revert α :=
  match (Abi.tuple layout).decode data with
  | some a => .ok a
  | none => .error ""

/-- The selector of a function. -/
def functionSelector (keccak256 : String → ℕ) (signature : String) : Bytes :=
  (Abi.toBytes 32 (keccak256 signature)).take 4

/-- `abi.encodeWithSignature`. -/
def encodeWithSignature {α : Type} (keccak256 : String → ℕ) (signature : String)
    (layout : Abi.Layout α) (arguments : α) : Bytes :=
  functionSelector keccak256 signature ++ (Abi.tuple layout).encode arguments

/-- What a contract makes of a call of one of its functions. -/
def decodeCall {α : Type} (keccak256 : String → ℕ) (signature : String) (layout : Abi.Layout α)
    (callData : Bytes) : Option α :=
  if callData.take 4 = functionSelector keccak256 signature then
    (Abi.tuple layout).decode (callData.drop 4)
  else none

/-! ## Arguments -/

@[simp] theorem abiDecode_eq_ok {α : Type} {layout : Abi.Layout α} {data : Bytes} {a : α} :
    abiDecode layout data = .ok a ↔ (Abi.tuple layout).decode data = some a := by
  unfold abiDecode
  split
  next b hb => simp [hb]
  next hnone => simp [hnone]

@[simp] theorem length_functionSelector (keccak256 : String → ℕ) (signature : String) :
    (functionSelector keccak256 signature).length = 4 := by
  rw [functionSelector, List.length_take, Abi.length_toBytes]
  rfl

/-- Any address fits. -/
theorem valid_address (a : Address) : addressCodec.Valid a := by
  change 160 ≤ 256
  decide

/-- A number of 256 bits fits. -/
theorem valid_uint256 {n : ℕ} (h : InUint256 n) : uint256Codec.Valid n := ⟨h, h⟩

/-- A path that is not longer than an array can be fits. -/
theorem valid_path {path : List Address} (h : path.length ≤ Abi.maxLength) :
    (Abi.array addressCodec).Valid path :=
  ⟨h, Abi.Layout.valid_rep rfl valid_address _ path⟩

/-- Arguments that fit are read back. -/
theorem decodeCall_encodeWithSignature {α : Type} {keccak256 : String → ℕ} {signature : String}
    {layout : Abi.Layout α} {arguments : α} (h : (Abi.tuple layout).Valid arguments) :
    decodeCall keccak256 signature layout
      (encodeWithSignature keccak256 signature layout arguments) = some arguments := by
  have hlength := length_functionSelector keccak256 signature
  rw [decodeCall, encodeWithSignature, if_pos (List.take_left' hlength), List.drop_left' hlength]
  exact Abi.Codec.decode_encode_self h

/-- Calls of other functions are not taken for one. -/
theorem decodeCall_of_ne {α β : Type} {keccak256 : String → ℕ} {signature signature' : String}
    {layout : Abi.Layout α} {layout' : Abi.Layout β} {arguments : α}
    (h : functionSelector keccak256 signature ≠ functionSelector keccak256 signature') :
    decodeCall keccak256 signature' layout'
      (encodeWithSignature keccak256 signature layout arguments) = none := by
  have hlength := length_functionSelector keccak256 signature
  rw [decodeCall, encodeWithSignature, List.take_left' hlength, if_neg h]

end SetProtocol
