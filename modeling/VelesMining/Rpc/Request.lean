import VelesMining.Basic

/-!
# Request parameters

The JSON values the mining RPCs read from their requests (`UniValue`), the accessors that throw
on a value of another type, and the choice of the proof-of-work algorithm from a request's
algorithm name, which `getmininginfo` and `getblocktemplate` make in the same words.
-/

namespace VelesMining

/-- A JSON value, as far as the mining RPCs look into their requests; a number is kept as the
integer it holds. -/
inductive UniValue where
  | null
  | str (s : String)
  | num (n : Int)
  | arr (items : List UniValue)
  | obj

/-- `UniValue::get_str`, which throws on a value that is not a string. -/
def UniValue.get_str : UniValue → Except JSONRPCError String
  | .str s => .ok s
  | _ => .error ⟨.RPC_MISC_ERROR, "JSON value is not a string as expected"⟩

/-- `UniValue::get_int`, which throws on a value that is not a number and on a number outside
the `int` range. -/
def UniValue.get_int : UniValue → Except JSONRPCError (BitVec 32)
  | .num n =>
    if -2 ^ 31 ≤ n ∧ n < 2 ^ 31 then .ok (BitVec.ofInt 32 n)
    else .error ⟨.RPC_MISC_ERROR, "JSON integer out of range"⟩
  | _ => .error ⟨.RPC_MISC_ERROR, "JSON value is not an integer as expected"⟩

/-- `UniValue::get_int64`, which throws on a value that is not a number and on a number outside
the `int64_t` range. -/
def UniValue.get_int64 : UniValue → Except JSONRPCError Int
  | .num n =>
    if -2 ^ 63 ≤ n ∧ n < 2 ^ 63 then .ok n else .error ⟨.RPC_MISC_ERROR, "JSON integer out of range"⟩
  | _ => .error ⟨.RPC_MISC_ERROR, "JSON value is not an integer as expected"⟩

theorem UniValue.get_str_eq_ok {v : UniValue} {s : String} : v.get_str = .ok s ↔ v = .str s := by
  cases v <;> simp [UniValue.get_str]

theorem UniValue.get_int64_eq_ok {v : UniValue} {n : Int} :
    v.get_int64 = .ok n ↔ v = .num n ∧ -2 ^ 63 ≤ n ∧ n < 2 ^ 63 := by
  cases v with
  | num m =>
    by_cases h : -2 ^ 63 ≤ m ∧ m < 2 ^ 63
    · simp only [UniValue.get_int64, if_pos h, Except.ok.injEq, UniValue.num.injEq]
      exact ⟨fun e => e ▸ ⟨rfl, h⟩, fun e => e.1⟩
    · simp only [UniValue.get_int64, if_neg h, UniValue.num.injEq]
      exact ⟨nofun, fun e => absurd (e.1 ▸ e.2) h⟩
  | _ => simp [UniValue.get_int64]

/-- `UniValue::get_real`, which throws on a value that is not a number. -/
def UniValue.get_real : UniValue → Except JSONRPCError Int
  | .num n => .ok n
  | _ => .error ⟨.RPC_MISC_ERROR, "JSON value is not a number as expected"⟩

/-- The algorithms of the node: `GetAlgoId` of a name (`ALGO_NULL` for an unknown one), its
`GetAlgoName`, and the `miningAlgo` of the node's options. -/
structure AlgoTable where
  miningAlgo : BitVec 32
  ALGO_NULL : BitVec 32
  GetAlgoId : String → BitVec 32
  GetAlgoName : BitVec 32 → String

/-- The algorithm named by a request parameter: `miningAlgo` when it is null, and otherwise
`GetAlgoId` of the name, which `get_str` reads. -/
def algoParam (algos : AlgoTable) : UniValue → Except JSONRPCError (BitVec 32)
  | .null => .ok algos.miningAlgo
  | v => algos.GetAlgoId <$> v.get_str

/-- The algorithm a request asks for in `getmininginfo` and `getblocktemplate`: the algorithm of
the parameter, where `ALGO_NULL` is refused with the name (whose `get_str` throws when there is
none). -/
def requestedAlgo (algos : AlgoTable) (algo : UniValue) : Except JSONRPCError (BitVec 32) := do
  let nPowAlgo ← algoParam algos algo
  if nPowAlgo = algos.ALGO_NULL then
    throw ⟨.RPC_INVALID_PARAMETER, "Unknown algorithm " ++ (← algo.get_str)⟩
  else pure nPowAlgo

theorem requestedAlgo_ne_null {algos : AlgoTable} {algo : UniValue} {nPowAlgo : BitVec 32}
    (h : requestedAlgo algos algo = .ok nPowAlgo) : nPowAlgo ≠ algos.ALGO_NULL := by
  unfold requestedAlgo at h
  obtain ⟨a, -, h⟩ := bind_eq_ok h
  split at h
  · obtain ⟨_, -, h⟩ := bind_eq_ok h
    cases h
  · cases h
    assumption

theorem requestedAlgo_unknown {algos : AlgoTable} {name : String}
    (h : algos.GetAlgoId name = algos.ALGO_NULL) :
    requestedAlgo algos (.str name) = .error ⟨.RPC_INVALID_PARAMETER, "Unknown algorithm " ++ name⟩ := by
  show (if algos.GetAlgoId name = algos.ALGO_NULL then _ else _) = _
  rw [if_pos h]
  rfl

end VelesMining
