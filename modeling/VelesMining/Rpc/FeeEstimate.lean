import Mathlib.Data.Rat.Floor
import VelesMining.Util.Strencodings
import VelesMining.Rpc.Request

/-!
# Fee estimation

`estimatesmartfee` and `estimaterawfee` read a confirmation target and ask the node's fee
estimator (`policy/fees.cpp`, a parameter here) for a fee rate. `estimatesmartfee` answers with the
estimate, or with an error entry when there is none, and with the target the estimate was found
at. `estimaterawfee` asks each of the three horizons that track the target and skips the others;
each answer has the estimate with its pass bucket (and its fail bucket, when one failed), or the
fail bucket and an error entry.

The parameters are taken as `RPCTypeCheck` lets them through: the target is a number, the mode a
string and the threshold a number, or absent. `double`s are rationals.

`rawFeeLoop_eq`: the horizon loop is a filter and a map over the horizons.
`estimaterawfee_spec`: the call succeeds exactly for a target between 1 and the long horizon's
highest tracked target and a threshold in `[0, 1]`, and then reports, in order, exactly the
horizons that track the target, the long one among them, each with a fee rate or an error entry
and never both.
-/

namespace VelesMining

/-- `FeeEstimateHorizon`. -/
inductive FeeEstimateHorizon where
  | SHORT_HALFLIFE
  | MED_HALFLIFE
  | LONG_HALFLIFE
  deriving DecidableEq, Repr

/-- Modelled from the spec: `StringForFeeEstimateHorizon` (`policy/fees.cpp`). -/
def StringForFeeEstimateHorizon : FeeEstimateHorizon → String
  | .SHORT_HALFLIFE => "short"
  | .MED_HALFLIFE => "medium"
  | .LONG_HALFLIFE => "long"

/-- `FeeEstimateMode`. -/
inductive FeeEstimateMode where
  | UNSET
  | ECONOMICAL
  | CONSERVATIVE
  deriving DecidableEq, Repr

/-- `EstimatorBucket`: a fee-rate range and the statistics of the transactions in it. -/
structure EstimatorBucket where
  start : ℚ
  «end» : ℚ
  withinTarget : ℚ
  totalConfirmed : ℚ
  inMempool : ℚ
  leftMempool : ℚ

/-- `EstimationResult`: the passing and the failing bucket, and the horizon's decay and scale. -/
structure EstimationResult where
  pass : EstimatorBucket
  fail : EstimatorBucket
  decay : ℚ
  scale : BitVec 32

/-- What the handlers use of the node: the fee estimator `::feeEstimator`, whose fee rates are
`GetFeePerK()` (satoshis per 1000 bytes, `0` for none), and `FeeModeFromString`. -/
structure FeeEstimator where
  HighestTargetTracked : FeeEstimateHorizon → Nat
  /-- The fee rate for a target and a conservative or economical estimate, with
  `FeeCalculation::returnedTarget`. -/
  estimateSmartFee : Nat → Bool → Int × Int
  estimateRawFee : Nat → ℚ → FeeEstimateHorizon → Int × EstimationResult
  FeeModeFromString : String → Option FeeEstimateMode

/-- Modelled from the spec: `ParseConfirmTarget` (`rpc/util.cpp`), which reads an `int` and
requires it between 1 and the highest target the long horizon tracks. -/
def ParseConfirmTarget (fe : FeeEstimator) (value : UniValue) : Except JSONRPCError Nat := do
  let target := (← value.get_int).toInt
  let max_target := fe.HighestTargetTracked .LONG_HALFLIFE
  if target < 1 ∨ target > max_target then
    throw ⟨.RPC_INVALID_PARAMETER,
      "Invalid conf_target, must be between 1 - " ++ i64tostr max_target⟩
  else pure target.toNat

theorem ParseConfirmTarget_eq_ok {fe : FeeEstimator} {t : Int} {n : Nat} :
    ParseConfirmTarget fe (.num t) = .ok n ↔
      t = n ∧ 1 ≤ n ∧ n < 2 ^ 31 ∧ n ≤ fe.HighestTargetTracked .LONG_HALFLIFE := by
  by_cases hr : -2 ^ 31 ≤ t ∧ t < 2 ^ 31
  · have hto : (BitVec.ofInt 32 t).toInt = t := toInt_ofInt_of_range t hr.1 hr.2
    simp only [ParseConfirmTarget, UniValue.get_int, if_pos hr, bind, Except.bind, hto]
    split_ifs with h
    · simp only [reduceCtorEq, false_iff]
      omega
    · simp only [Except.ok.injEq, pure, Except.pure]
      omega
  · simp only [ParseConfirmTarget, UniValue.get_int, if_neg hr, bind, Except.bind,
      reduceCtorEq, false_iff]
    omega

/-! ### `estimatesmartfee` -/

/-- The answer of `estimatesmartfee`: `feerate`, or `errors` when there is no fee rate, and
`blocks`. -/
structure SmartFeeResult where
  feerate : Option Int
  errors : Option (List String)
  blocks : Int

/-- Whether the estimate is conservative: unless the mode given is `ECONOMICAL`, and an error for
a mode `FeeModeFromString` does not know. -/
def conservativeParam (fe : FeeEstimator) : Option String → Except JSONRPCError Bool
  | none => .ok true
  | some s =>
    match fe.FeeModeFromString s with
    | none => .error ⟨.RPC_INVALID_PARAMETER, "Invalid estimate_mode parameter"⟩
    | some fee_mode => .ok (fee_mode ≠ .ECONOMICAL)

/-- `estimatesmartfee(conf_target, estimate_mode)`. -/
def estimatesmartfee (fe : FeeEstimator) (conf_target : Int) (estimate_mode : Option String) :
    Except JSONRPCError SmartFeeResult := do
  let conf_target ← ParseConfirmTarget fe (.num conf_target)
  let conservative ← conservativeParam fe estimate_mode
  let feeCalc := fe.estimateSmartFee conf_target conservative
  pure <| if feeCalc.1 ≠ 0 then ⟨some feeCalc.1, none, feeCalc.2⟩
    else ⟨none, some ["Insufficient data or no feerate found"], feeCalc.2⟩

/-! ### `estimaterawfee` -/

/-- `round` of `<cmath>`: the nearest integer, halfway cases away from zero. -/
def cRound (x : ℚ) : ℤ := if x < 0 then -⌊-x + 1 / 2⌋ else ⌊x + 1 / 2⌋

/-- A bucket as the answer describes it: the range rounded, the statistics rounded to two
decimals. -/
structure BucketResult where
  startrange : ℤ
  endrange : ℤ
  withintarget : ℚ
  totalconfirmed : ℚ
  inmempool : ℚ
  leftmempool : ℚ

/-- `passbucket` and `failbucket`. -/
def bucketResult (b : EstimatorBucket) : BucketResult :=
  ⟨cRound b.start, cRound b.«end», cRound (b.withinTarget * 100) / 100,
    cRound (b.totalConfirmed * 100) / 100, cRound (b.inMempool * 100) / 100,
    cRound (b.leftMempool * 100) / 100⟩

/-- The answer for one horizon. -/
structure HorizonResult where
  feerate : Option Int
  decay : ℚ
  scale : Int
  pass : Option BucketResult
  fail : Option BucketResult
  errors : Option (List String)

/-- `horizon_result`: the fee rate, the decay and scale, the pass bucket and the fail bucket
unless every bucket passed (`fail.start == -1`); without a fee rate, only what still means
something, and an error entry. -/
def horizonResult (feeRate : Int) (buckets : EstimationResult) : HorizonResult :=
  if feeRate ≠ 0 then
    ⟨some feeRate, buckets.decay, buckets.scale.toInt, some (bucketResult buckets.pass),
      if buckets.fail.start ≠ -1 then some (bucketResult buckets.fail) else none, none⟩
  else
    ⟨none, buckets.decay, buckets.scale.toInt, none, some (bucketResult buckets.fail),
      some ["Insufficient data or no feerate found which meets threshold"]⟩

theorem horizonResult_feerate (feeRate : Int) (buckets : EstimationResult) :
    (horizonResult feeRate buckets).feerate.isSome = !(horizonResult feeRate buckets).errors.isSome ∧
      (horizonResult feeRate buckets).pass.isSome = (horizonResult feeRate buckets).feerate.isSome := by
  unfold horizonResult
  split_ifs <;> simp

/-- The horizons, in the order the loop asks them. -/
def feeHorizons : List FeeEstimateHorizon := [.SHORT_HALFLIFE, .MED_HALFLIFE, .LONG_HALFLIFE]

/-- The loop over the horizons, which skips a horizon that does not track the target. -/
def rawFeeLoop (fe : FeeEstimator) (conf_target : Nat) (threshold : ℚ) :
    List FeeEstimateHorizon → List (String × HorizonResult)
  | [] => []
  | horizon :: horizons =>
    if conf_target > fe.HighestTargetTracked horizon then rawFeeLoop fe conf_target threshold horizons
    else
      let r := fe.estimateRawFee conf_target threshold horizon
      (StringForFeeEstimateHorizon horizon, horizonResult r.1 r.2) ::
        rawFeeLoop fe conf_target threshold horizons

theorem rawFeeLoop_eq (fe : FeeEstimator) (conf_target : Nat) (threshold : ℚ)
    (horizons : List FeeEstimateHorizon) :
    rawFeeLoop fe conf_target threshold horizons =
      (horizons.filter fun h => conf_target ≤ fe.HighestTargetTracked h).map fun h =>
        (StringForFeeEstimateHorizon h, horizonResult (fe.estimateRawFee conf_target threshold h).1
          (fe.estimateRawFee conf_target threshold h).2) := by
  induction horizons with
  | nil => rfl
  | cons h hs ih =>
    by_cases hh : conf_target > fe.HighestTargetTracked h
    · simp [rawFeeLoop, hh, ih, List.filter_cons, Nat.not_le.mpr hh]
    · simp [rawFeeLoop, hh, ih, List.filter_cons, Nat.not_lt.mp hh]

/-- `estimaterawfee(conf_target, threshold)`, with the default threshold `0.95` read as `19/20`;
the answer is the object of the horizons' answers, by horizon name. -/
def estimaterawfee (fe : FeeEstimator) (conf_target : Int) (threshold : Option ℚ) :
    Except JSONRPCError (List (String × HorizonResult)) := do
  let conf_target ← ParseConfirmTarget fe (.num conf_target)
  let threshold := threshold.getD (19 / 20)
  if threshold < 0 ∨ threshold > 1 then throw ⟨.RPC_INVALID_PARAMETER, "Invalid threshold"⟩
  else pure (rawFeeLoop fe conf_target threshold feeHorizons)

theorem estimaterawfee_eq_ok {fe : FeeEstimator} {t : Int} {threshold : Option ℚ}
    {res : List (String × HorizonResult)} :
    estimaterawfee fe t threshold = .ok res ↔
      (1 ≤ t ∧ t < 2 ^ 31 ∧ t ≤ fe.HighestTargetTracked .LONG_HALFLIFE) ∧
      (0 ≤ threshold.getD (19 / 20) ∧ threshold.getD (19 / 20) ≤ 1) ∧
      res = rawFeeLoop fe t.toNat (threshold.getD (19 / 20)) feeHorizons := by
  unfold estimaterawfee
  cases hp : ParseConfirmTarget fe (.num t) with
  | error e =>
    simp only [bind, Except.bind, reduceCtorEq, false_iff]
    rintro ⟨⟨h1, h2, h3⟩, -, -⟩
    have : ParseConfirmTarget fe (.num t) = .ok t.toNat := ParseConfirmTarget_eq_ok.mpr
      ⟨(Int.toNat_of_nonneg (by omega)).symm, by omega, by omega, by omega⟩
    rw [hp] at this
    cases this
  | ok n =>
    obtain ⟨rfl, hn⟩ := ParseConfirmTarget_eq_ok.mp hp
    simp only [bind, Except.bind, Int.toNat_natCast]
    split_ifs with hth
    · simp only [reduceCtorEq, false_iff]
      rintro ⟨-, ⟨h0, h1⟩, -⟩
      rcases hth with h | h
      · exact absurd h (not_lt.mpr h0)
      · exact absurd h (not_lt.mpr h1)
    · simp only [pure, Except.pure, Except.ok.injEq]
      push_neg at hth
      exact ⟨fun h => ⟨by omega, hth, h.symm⟩, fun h => h.2.2.symm⟩

/-- `estimaterawfee` answers exactly for a target between 1 and the long horizon's highest tracked
target, read as an `int`, and a threshold in `[0, 1]`. Every answer names, in order, exactly the
horizons that track the target, the long one always among them, and each horizon's answer has a
fee rate or an error entry, never both. -/
theorem estimaterawfee_horizons (fe : FeeEstimator) (t : Int) (threshold : Option ℚ) :
    ((∃ res, estimaterawfee fe t threshold = .ok res) ↔
      1 ≤ t ∧ t < 2 ^ 31 ∧ t ≤ fe.HighestTargetTracked .LONG_HALFLIFE ∧
        0 ≤ threshold.getD (19 / 20) ∧ threshold.getD (19 / 20) ≤ 1) ∧
    ∀ res, estimaterawfee fe t threshold = .ok res →
      res.map Prod.fst = (feeHorizons.filter fun h => t ≤ fe.HighestTargetTracked h).map
          StringForFeeEstimateHorizon ∧
        "long" ∈ res.map Prod.fst ∧ ∀ p ∈ res, p.2.feerate.isSome = !p.2.errors.isSome := by
  refine ⟨⟨fun ⟨_, h⟩ => ?_, fun ⟨h1, h2, h3, h4, h5⟩ => ⟨_, estimaterawfee_eq_ok.mpr
    ⟨⟨h1, h2, h3⟩, ⟨h4, h5⟩, rfl⟩⟩⟩, fun res h => ?_⟩
  · obtain ⟨⟨h1, h2, h3⟩, ⟨h4, h5⟩, -⟩ := estimaterawfee_eq_ok.mp h
    exact ⟨h1, h2, h3, h4, h5⟩
  obtain ⟨⟨h1, -, h3⟩, -, rfl⟩ := estimaterawfee_eq_ok.mp h
  have htrack : ∀ x : Nat, (t.toNat ≤ x) = (t ≤ x) := fun x => propext (by omega)
  rw [rawFeeLoop_eq, List.map_map]
  refine ⟨?_, ?_, ?_⟩
  · simp only [htrack]
    rfl
  · exact List.mem_map.mpr ⟨.LONG_HALFLIFE,
      List.mem_filter.mpr ⟨by simp [feeHorizons], by simpa [htrack] using h3⟩, rfl⟩
  · intro p hp
    obtain ⟨_, -, rfl⟩ := List.mem_map.mp hp
    exact (horizonResult_feerate _ _).1

end VelesMining
