import VelesMining.Basic
import Mathlib.Data.Rat.Floor
import Mathlib.Tactic.NormNum.OfScientific

/-!
# Block headers, transactions and the proof-of-work dispatch

`CBlockHeader::GetPoWHash` (`primitives/block.cpp`) picks one of six hash functions from the
algorithm field of the version, `nVersion & ALGO_VERSION_MASK`, and falls back to scrypt for a
version whose top bits are not the version-bits pattern. The version-field constants
(`primitives/block.h`, `versionbits.h`) and the hash functions (`crypto/`) are outside this
slice: they are the parameters `AlgoConstants` and `PowHashes`. A C++ `switch` needs distinct
case labels, so `AlgoConstants` carries that the six algorithm identifiers are distinct, and,
as the identifiers are values of the algorithm field, that each lies inside the mask.

Main facts: `GetPoWHash_of_top_bits_ne` (a header without the version-bits pattern is hashed
with scrypt whatever its algorithm field), `GetPoWHash_of_algo` (a header with it is hashed with
its algorithm's function) and `GetPoWHash_of_unknown` (an unknown algorithm hashes to all ones).

`GetAlgoCostFactor` is read with exact rationals for its `double`s; its normalising divisor is an
integer division of the `CAmount` that `18.25` truncates to, so it is `18 / 6 = 3`
(`GetAlgoCostFactor_eq`).
-/

namespace VelesMining

/-- `CBlockHeader`. -/
structure CBlockHeader where
  nVersion : BitVec 32
  hashPrevBlock : Uint256
  hashMerkleRoot : Uint256
  nTime : BitVec 32
  nBits : BitVec 32
  nNonce : BitVec 32
  deriving DecidableEq, Repr

/-- The version-field constants of `primitives/block.h` and `versionbits.h`. -/
structure AlgoConstants where
  ALGO_VERSION_MASK : BitVec 32
  ALGO_SHA256D : BitVec 32
  ALGO_SCRYPT : BitVec 32
  ALGO_NIST5 : BitVec 32
  ALGO_LYRA2Z : BitVec 32
  ALGO_X11 : BitVec 32
  ALGO_X16R : BitVec 32
  VERSIONBITS_TOP_MASK : BitVec 32
  VERSIONBITS_TOP_BITS : BitVec 32
  /-- The labels of one `switch` are distinct. -/
  algos_nodup : [ALGO_SHA256D, ALGO_SCRYPT, ALGO_NIST5, ALGO_LYRA2Z, ALGO_X11, ALGO_X16R].Nodup
  /-- Each identifier is a value of the algorithm field. -/
  algos_in_mask : ∀ a ∈ [ALGO_SHA256D, ALGO_SCRYPT, ALGO_NIST5, ALGO_LYRA2Z, ALGO_X11, ALGO_X16R],
    a &&& ALGO_VERSION_MASK = a

/-- The hash functions `GetPoWHash` calls. Each reads the 80 header bytes from `nVersion` to
`nNonce`; `HashX16R` also takes `hashPrevBlock`, the seed of its hash order. -/
structure PowHashes where
  GetHash : CBlockHeader → Uint256
  scrypt_1024_1_1_256 : CBlockHeader → Uint256
  NIST5 : CBlockHeader → Uint256
  lyra2z_hash : CBlockHeader → Uint256
  HashX11 : CBlockHeader → Uint256
  HashX16R : CBlockHeader → Uint256 → Uint256

/-- One assignment of the version-field constants, to evaluate the model on: the algorithm
field is bits 8 to 10, and the version-bits pattern is that of `versionbits.h`. -/
def sampleAlgoConstants : AlgoConstants where
  ALGO_VERSION_MASK := 0x700
  ALGO_SHA256D := 0
  ALGO_SCRYPT := 0x100
  ALGO_NIST5 := 0x200
  ALGO_LYRA2Z := 0x300
  ALGO_X11 := 0x400
  ALGO_X16R := 0x500
  VERSIONBITS_TOP_MASK := 0xE0000000
  VERSIONBITS_TOP_BITS := 0x20000000
  algos_nodup := by
    simp only [List.nodup_cons, List.mem_cons, List.mem_singleton, List.not_mem_nil,
      List.nodup_nil]
    decide
  algos_in_mask := by simp

/-- Hash functions to evaluate the model on: each hashes a header to its nonce. -/
def samplePowHashes : PowHashes where
  GetHash b := BitVec.ofNat 256 b.nNonce.toNat
  scrypt_1024_1_1_256 b := BitVec.ofNat 256 b.nNonce.toNat
  NIST5 b := BitVec.ofNat 256 b.nNonce.toNat
  lyra2z_hash b := BitVec.ofNat 256 b.nNonce.toNat
  HashX11 b := BitVec.ofNat 256 b.nNonce.toNat
  HashX16R b _ := BitVec.ofNat 256 b.nNonce.toNat

variable (K : AlgoConstants) (H : PowHashes)

/-- The algorithm field of a version, `nVersion & ALGO_VERSION_MASK`. -/
def algoOf (nVersion : BitVec 32) : BitVec 32 := nVersion &&& K.ALGO_VERSION_MASK

theorem algoOf_SHA256D : algoOf K K.ALGO_SHA256D = K.ALGO_SHA256D :=
  K.algos_in_mask _ (by simp)

theorem algoOf_SCRYPT : algoOf K K.ALGO_SCRYPT = K.ALGO_SCRYPT :=
  K.algos_in_mask _ (by simp)

theorem SHA256D_ne_SCRYPT : K.ALGO_SHA256D ≠ K.ALGO_SCRYPT := by
  have := K.algos_nodup
  simp only [List.nodup_cons, List.mem_cons, List.mem_singleton, not_or] at this
  exact this.1.1

/-- The value `powHash` starts from: `uint256S("ff…ff")`. -/
def allOnesHash : Uint256 := BitVec.allOnes 256

/-- The `switch` of `GetPoWHash`: the hash function of each algorithm identifier, and the
initial all-ones value when no label matches. -/
def powHashOf (algo : BitVec 32) (b : CBlockHeader) : Uint256 :=
  if algo = K.ALGO_SHA256D then H.GetHash b
  else if algo = K.ALGO_SCRYPT then H.scrypt_1024_1_1_256 b
  else if algo = K.ALGO_NIST5 then H.NIST5 b
  else if algo = K.ALGO_LYRA2Z then H.lyra2z_hash b
  else if algo = K.ALGO_X11 then H.HashX11 b
  else if algo = K.ALGO_X16R then H.HashX16R b b.hashPrevBlock
  else allOnesHash

/-- `CBlockHeader::GetPoWHash`. -/
def CBlockHeader.GetPoWHash (b : CBlockHeader) : Uint256 :=
  if b.nVersion &&& K.VERSIONBITS_TOP_MASK ≠ K.VERSIONBITS_TOP_BITS then
    H.scrypt_1024_1_1_256 b
  else powHashOf K H (algoOf K b.nVersion) b

/-- The compatibility clause: without the version-bits pattern the header is hashed with
scrypt, whatever its algorithm field says. -/
theorem GetPoWHash_of_top_bits_ne (b : CBlockHeader)
    (h : b.nVersion &&& K.VERSIONBITS_TOP_MASK ≠ K.VERSIONBITS_TOP_BITS) :
    b.GetPoWHash K H = H.scrypt_1024_1_1_256 b := by
  simp [CBlockHeader.GetPoWHash, h]

/-- With the version-bits pattern, the header is hashed with the function of its algorithm. -/
theorem GetPoWHash_of_algo (b : CBlockHeader)
    (h : b.nVersion &&& K.VERSIONBITS_TOP_MASK = K.VERSIONBITS_TOP_BITS) :
    b.GetPoWHash K H = powHashOf K H (algoOf K b.nVersion) b := by
  simp [CBlockHeader.GetPoWHash, h]

/-- An algorithm field outside the six identifiers falls through the `switch`: the hash stays
all ones, which no target admits. -/
theorem GetPoWHash_of_unknown (b : CBlockHeader)
    (h : b.nVersion &&& K.VERSIONBITS_TOP_MASK = K.VERSIONBITS_TOP_BITS)
    (hu : algoOf K b.nVersion ∉
      [K.ALGO_SHA256D, K.ALGO_SCRYPT, K.ALGO_NIST5, K.ALGO_LYRA2Z, K.ALGO_X11, K.ALGO_X16R]) :
    b.GetPoWHash K H = allOnesHash := by
  simp only [List.mem_cons, List.mem_singleton, List.not_mem_nil, or_false, not_or] at hu
  simp [GetPoWHash_of_algo K H b h, powHashOf, hu]

/-- `CBlockHeader::GetAlgoEfficiency`: the per-algorithm weight of the consensus work
calculation. The block height is not read. -/
def CBlockHeader.GetAlgoEfficiency (b : CBlockHeader) (_nBlockHeight : BitVec 32) : Nat :=
  let algo := algoOf K b.nVersion
  if algo = K.ALGO_SHA256D then 1
  else if algo = K.ALGO_SCRYPT then 12984
  else if algo = K.ALGO_NIST5 then 513
  else if algo = K.ALGO_LYRA2Z then 1973648
  else if algo = K.ALGO_X11 then 513
  else if algo = K.ALGO_X16R then 257849
  else 1

/-! ### The cost factor of the Alpha rewards -/

/-- The `double` of each algorithm in the `switch` of `GetAlgoCostFactor`, and the initial
`1` when no label matches. -/
def algoCostConstant (algo : BitVec 32) : ℚ :=
  if algo = K.ALGO_SHA256D then 10.00
  else if algo = K.ALGO_SCRYPT then 3.00
  else if algo = K.ALGO_NIST5 then 1.00
  else if algo = K.ALGO_LYRA2Z then 0.50
  else if algo = K.ALGO_X11 then 1.25
  else if algo = K.ALGO_X16R then 1.50
  else 1

/-- The conversion of a `double` to an integer type: truncation toward zero. -/
def truncToInt (x : ℚ) : Int := if 0 ≤ x then ⌊x⌋ else ⌈x⌉

/-- `CBlockHeader::GetAlgoCostFactor`, with the `double` arithmetic read as exact (the
constants are exact in binary; the value is the quotient the last division rounds). The literal
`18.25` initialises a `CAmount`, and `totalAdjustements / 6` divides two integers. -/
def CBlockHeader.GetAlgoCostFactor (b : CBlockHeader) : ℚ :=
  let totalAdjustements : Int := truncToInt 18.25
  algoCostConstant K (algoOf K b.nVersion) / (totalAdjustements.tdiv 6 : Int)

theorem truncToInt_eighteen : truncToInt 18.25 = 18 := by
  rw [truncToInt, if_pos (by norm_num), Int.floor_eq_iff]
  norm_num

theorem GetAlgoCostFactor_eq (b : CBlockHeader) :
    b.GetAlgoCostFactor K = algoCostConstant K (algoOf K b.nVersion) / 3 := by
  rw [CBlockHeader.GetAlgoCostFactor, truncToInt_eighteen, show Int.tdiv 18 6 = 3 from rfl]
  norm_num

/-! ### Transactions -/

/-- `COutPoint`: the transaction an input spends and the index of the output. -/
structure COutPoint where
  hash : Uint256
  n : BitVec 32
  deriving DecidableEq, Repr

/-- `COutPoint::IsNull`: a zero hash and index `(uint32_t) -1`. -/
def COutPoint.IsNull (p : COutPoint) : Bool := p.hash = 0 && p.n = BitVec.allOnes 32

/-- `CTxIn`, as far as the mining code reads it. -/
structure CTxIn where
  prevout : COutPoint
  deriving DecidableEq, Repr

/-- `CTransaction`, with the values the mining code reads from it: the inputs, the txid
(`GetHash`), the witness hash, the weight, the hex serialization and the output total. -/
structure CTransaction where
  vin : List CTxIn
  hash : Uint256
  witnessHash : Uint256
  weight : Nat
  hex : String
  valueOut : Int
  deriving DecidableEq, Repr

/-- `CTransaction::IsCoinBase`: one input, spending the null outpoint. -/
def CTransaction.IsCoinBase (tx : CTransaction) : Bool :=
  match tx.vin with
  | [i] => i.prevout.IsNull
  | _ => false

/-- `CBlock`: a header and its transactions. -/
structure CBlock extends CBlockHeader where
  vtx : List CTransaction
  deriving DecidableEq, Repr

end VelesMining
