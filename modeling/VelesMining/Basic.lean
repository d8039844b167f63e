import Mathlib.Tactic.Ring

/-!
# Machine values and RPC errors

The C++ types the mining code computes with, and the errors its RPC handlers raise.

* `int` and `int32_t` are `BitVec 32` read with `BitVec.toInt`; `unsigned int` is `BitVec 32`
  read with `BitVec.toNat`. Sums wrap as two's complement, as the compiled code does, and
  `toInt_add_of_range` says when a sum does not wrap.
* `uint256` and `arith_uint256` are `Uint256`: the same 256 bits, `arith_uint256` reading them
  as a number (`UintToArith256`), least significant byte first.
* `JSONRPCError code message` is `JSONRPCError.mk`, with the codes of `rpc/protocol.h` that
  `mining.cpp` raises.
-/

namespace VelesMining

/-- `uint256` and `arith_uint256`. -/
abbrev Uint256 := BitVec 256

/-! ### `int` as `BitVec 32` -/

theorem toInt_lt_two_pow (x : BitVec 32) : x.toInt < 2 ^ 31 := by
  have := x.isLt
  rw [BitVec.toInt_eq_toNat_cond]; split <;> omega

theorem neg_two_pow_le_toInt (x : BitVec 32) : -2 ^ 31 ≤ x.toInt := by
  have := x.isLt
  rw [BitVec.toInt_eq_toNat_cond]; split <;> omega

theorem toInt_add_of_range (x y : BitVec 32) (h1 : -2 ^ 31 ≤ x.toInt + y.toInt)
    (h2 : x.toInt + y.toInt < 2 ^ 31) : (x + y).toInt = x.toInt + y.toInt := by
  have hx := x.isLt; have hy := y.isLt
  simp only [BitVec.toInt_eq_toNat_cond, BitVec.toNat_add] at *
  split <;> split <;> split <;> omega

theorem toInt_ofInt_of_range (i : Int) (h1 : -2 ^ 31 ≤ i) (h2 : i < 2 ^ 31) :
    (BitVec.ofInt 32 i).toInt = i := by
  rw [BitVec.toInt_ofInt, Int.bmod_def]; split <;> omega

theorem toInt_sub_one (x : BitVec 32) (h : 0 < x.toInt) : (x - 1).toInt = x.toInt - 1 := by
  have hx := x.isLt
  simp only [BitVec.toInt_eq_toNat_cond, BitVec.toNat_sub] at *
  split <;> split <;> simp at * <;> omega

theorem toInt_eq_of_toNat_lt (x : BitVec 32) (h : x.toNat < 2 ^ 31) : x.toInt = x.toNat := by
  rw [BitVec.toInt_eq_toNat_cond]; split <;> omega

/-! ### RPC errors -/

/-- The `RPCErrorCode`s raised by the mining RPCs. `RPC_MISC_ERROR` is what the server reports for
a `std::runtime_error`, such as `UniValue::get_str` on a value that is not a string. -/
inductive RPCErrorCode where
  | RPC_MISC_ERROR
  | RPC_TYPE_ERROR
  | RPC_INVALID_ADDRESS_OR_KEY
  | RPC_OUT_OF_MEMORY
  | RPC_INVALID_PARAMETER
  | RPC_DESERIALIZATION_ERROR
  | RPC_VERIFY_ERROR
  | RPC_CLIENT_NOT_CONNECTED
  | RPC_CLIENT_IN_INITIAL_DOWNLOAD
  | RPC_CLIENT_P2P_DISABLED
  | RPC_INTERNAL_ERROR
  deriving DecidableEq, Repr

/-- The object `JSONRPCError(code, message)` throws. -/
structure JSONRPCError where
  code : RPCErrorCode
  message : String
  deriving DecidableEq, Repr

theorem bind_eq_ok {ε α β : Type} {x : Except ε α} {f : α → Except ε β} {b : β}
    (h : x >>= f = .ok b) : ∃ a, x = .ok a ∧ f a = .ok b := by
  cases x with
  | error e => cases h
  | ok a => exact ⟨a, rfl, h⟩

end VelesMining
