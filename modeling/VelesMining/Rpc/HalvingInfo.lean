import VelesMining.Util.Strencodings
import Mathlib.Data.List.Nodup

/-!
# `gethalvinginfo`: the halving epochs

`gethalvinginfo` (`rpc/mining.cpp`) lists the halving epochs of `GetSubsidyHalvingParameters`.
Its loop keeps two counters: `nHalvings`, the epochs that started by halving, and
`nEpochsAfterHalving`, the epochs since the last halving, reset at every halving and at each of
the three named epochs `COINSWAP`, `BOOTSTRAP` and `ALPHA`. Every later epoch is named
`ALPHA_H{nHalvings}_E{nEpochsAfterHalving}`.

After the named epochs, each pass moves the pair `(nHalvings, nEpochsAfterHalving)` to
`(H + 1, 0)` or to `(H, E + 1)`, a step up in the lexicographic order (`lt_nextPair`); so the
numbered epochs carry strictly increasing pairs (`numberedPairs_pairwise`). The label is
injective (`epochLabel_inj`) and no label is a named epoch, so all names differ
(`gethalvinginfo_epoch_names`).

The supply counter is reset at the same points as `nEpochsAfterHalving` and then adds the
epoch's supply, so each epoch reports the supplies back to the last epoch that restarted it
(`gethalvinginfo_supply_since_halving`).

The halving parameters (`validation.h`) are outside this slice; `HalvingEpoch` has the fields
the loop reads, with the spec's types. `CountBlockRewards` (the supply of a running epoch) is a
parameter. The loop bound is `(int)epochs.size()`, so a list of `2 ^ 31` epochs or more is not
listed whole; `GetSubsidyHalvingParameters` partitions the `int` heights into epochs and never
builds one that long.
-/

namespace VelesMining

/-- Modelled from the spec: a halving epoch of `GetSubsidyHalvingParameters`, as far as
`gethalvinginfo` reads it. -/
structure HalvingEpoch where
  nStartBlock : Int
  nEndBlock : Int
  nMaxBlockSubsidy : Int
  fIsSubsidyHalved : Bool
  nStartSupply : Int
  nEndSupply : Int
  fHasEnded : Bool
  deriving DecidableEq, Repr

/-- Modelled from the spec: `HalvingParameters`, the epochs so far with the current interval
and the number of halvings. -/
structure HalvingParameters where
  nHalvingCount : Int
  nHalvingInterval : Int
  epochs : List HalvingEpoch
  deriving DecidableEq, Repr

/-- One object of the `epochs` array. `end_supply` is `false` (`none`) for an epoch that has not
ended. -/
structure EpochInfo where
  epoch_name : String
  started_by_halving : Bool
  start_block : Int
  end_block : Int
  max_block_reward : Int
  start_supply : Int
  end_supply : Option Int
  supply_target : Int
  supply_this_epoch : Int
  supply_since_halving : Int
  deriving DecidableEq, Repr

/-- The counters of the epoch loop. -/
structure HalvingLoopState where
  nHalvings : Nat
  nEpochsAfterHalving : Nat
  nSupplySinceHalving : Int
  deriving DecidableEq, Repr

/-- `knownEpochs`. -/
def knownEpochs : List String := ["COINSWAP", "BOOTSTRAP", "ALPHA"]

/-- `"ALPHA_H" + std::to_string(nHalvings) + "_E" + std::to_string(nEpochsAfterHalving)`. -/
def epochLabel (nHalvings nEpochsAfterHalving : Nat) : String :=
  "ALPHA_H" ++ stdToString nHalvings ++ "_E" ++ stdToString nEpochsAfterHalving

variable (CountBlockRewards : Int → Int)

/-- Pass `i` of the epoch loop: update the counters, name the epoch, and add its supply. -/
def halvingPass (i : Nat) (s : HalvingLoopState) (e : HalvingEpoch) :
    HalvingLoopState × EpochInfo :=
  let s1 : HalvingLoopState :=
    if e.fIsSubsidyHalved then ⟨s.nHalvings + 1, 0, 0⟩
    else { s with nEpochsAfterHalving := s.nEpochsAfterHalving + 1 }
  let epochName :=
    if h : i < knownEpochs.length then knownEpochs[i]
    else epochLabel s1.nHalvings s1.nEpochsAfterHalving
  let s2 : HalvingLoopState :=
    if i < knownEpochs.length then { s1 with nEpochsAfterHalving := 0, nSupplySinceHalving := 0 }
    else s1
  let nEpochMaxSupply := e.nMaxBlockSubsidy * (e.nEndBlock - e.nStartBlock + 1)
  let nEpochRealSupply :=
    if e.fHasEnded then e.nEndSupply - e.nStartSupply else CountBlockRewards e.nStartBlock
  let s3 := { s2 with nSupplySinceHalving := s2.nSupplySinceHalving + nEpochRealSupply }
  (s3,
    { epoch_name := epochName
      started_by_halving := e.fIsSubsidyHalved
      start_block := e.nStartBlock
      end_block := e.nEndBlock
      max_block_reward := e.nMaxBlockSubsidy
      start_supply := e.nStartSupply
      end_supply := if e.fHasEnded then some e.nEndSupply else none
      supply_target := nEpochMaxSupply
      supply_this_epoch := nEpochRealSupply
      supply_since_halving := s3.nSupplySinceHalving })

/-- The epoch loop from pass `i` on. -/
def epochLoop : Nat → HalvingLoopState → List HalvingEpoch → List EpochInfo
  | _, _, [] => []
  | i, s, e :: es =>
    let r := halvingPass CountBlockRewards i s e
    r.2 :: epochLoop (i + 1) r.1 es

/-- The `epochs` array: `for (int i = 0; i < (int)halvingParams->epochs.size(); i++)`. -/
def gethalvinginfoEpochs (epochs : List HalvingEpoch) : List EpochInfo :=
  epochLoop CountBlockRewards 0 ⟨0, 0, 0⟩
    (epochs.take (BitVec.ofNat 32 epochs.length).toInt.toNat)

/-- The object `gethalvinginfo` returns, without the two ratios it prints from `double`s. -/
structure HalvingInfo where
  halvings_occured : Int
  epochs_occured : Int
  halving_interval : Int
  blocks_to_next_epoch : Nat
  epochs : List EpochInfo
  deriving DecidableEq, Repr

/-- `gethalvinginfo` at active height `nHeight`. `blocks_to_next_epoch` is
`(uint64_t)epochs.back().nEndBlock - chainActive.Height()`, taken modulo `2 ^ 64`; with no epoch,
`epochs.back()` is undefined and the model returns `none`. -/
def gethalvinginfo (halvingParams : HalvingParameters) (nHeight : BitVec 32) :
    Option HalvingInfo :=
  halvingParams.epochs.getLast?.map fun last =>
    { halvings_occured := halvingParams.nHalvingCount
      epochs_occured := (BitVec.ofNat 32 halvingParams.epochs.length).toInt
      halving_interval := halvingParams.nHalvingInterval
      blocks_to_next_epoch := ((last.nEndBlock - nHeight.toInt) % 2 ^ 64).toNat
      epochs := gethalvinginfoEpochs CountBlockRewards halvingParams.epochs }

/-! ### The counters -/

/-- The counter pair after a numbered pass: a halving starts a new `H` with `E = 0`, any other
epoch moves `E` up. -/
def nextPair (halved : Bool) (p : Nat × Nat) : Nat × Nat :=
  if halved then (p.1 + 1, 0) else (p.1, p.2 + 1)

/-- The counter pairs of the numbered passes from the pair `p`, for the given halving flags. -/
def numberedPairs : Nat × Nat → List Bool → List (Nat × Nat)
  | _, [] => []
  | p, b :: bs => nextPair b p :: numberedPairs (nextPair b p) bs

theorem lt_nextPair (b : Bool) (p : Nat × Nat) :
    Prod.Lex (· < ·) (· < ·) p (nextPair b p) := by
  cases b <;> simp [nextPair, Prod.lex_def]

theorem lex_trans {p q r : Nat × Nat} (hpq : Prod.Lex (· < ·) (· < ·) p q)
    (hqr : Prod.Lex (· < ·) (· < ·) q r) : Prod.Lex (· < ·) (· < ·) p r := by
  simp only [Prod.lex_def] at *
  omega

theorem lt_of_mem_numberedPairs (p : Nat × Nat) (bs : List Bool) :
    ∀ q ∈ numberedPairs p bs, Prod.Lex (· < ·) (· < ·) p q := by
  induction bs generalizing p with
  | nil => simp [numberedPairs]
  | cons b bs ih =>
    intro q hq
    rcases List.mem_cons.mp hq with rfl | hq
    · exact lt_nextPair b p
    · exact lex_trans (lt_nextPair b p) (ih _ q hq)

theorem numberedPairs_pairwise (p : Nat × Nat) (bs : List Bool) :
    (numberedPairs p bs).Pairwise (Prod.Lex (· < ·) (· < ·)) := by
  induction bs generalizing p with
  | nil => simp [numberedPairs]
  | cons b bs ih =>
    exact List.pairwise_cons.mpr ⟨lt_of_mem_numberedPairs _ bs, ih _⟩

/-! ### The names -/

theorem halvingPass_name_numbered (i : Nat) (hi : 3 ≤ i) (s : HalvingLoopState)
    (e : HalvingEpoch) :
    (halvingPass CountBlockRewards i s e).2.epoch_name =
        epochLabel (nextPair e.fIsSubsidyHalved (s.nHalvings, s.nEpochsAfterHalving)).1
          (nextPair e.fIsSubsidyHalved (s.nHalvings, s.nEpochsAfterHalving)).2 ∧
      ((halvingPass CountBlockRewards i s e).1.nHalvings,
          (halvingPass CountBlockRewards i s e).1.nEpochsAfterHalving) =
        nextPair e.fIsSubsidyHalved (s.nHalvings, s.nEpochsAfterHalving) := by
  have hi' : ¬ i < knownEpochs.length := by simp [knownEpochs]; omega
  cases h : e.fIsSubsidyHalved <;> simp [halvingPass, nextPair, hi', h]

theorem halvingPass_name_known (i : Nat) (hi : i < knownEpochs.length) (s : HalvingLoopState)
    (e : HalvingEpoch) :
    (halvingPass CountBlockRewards i s e).2.epoch_name = knownEpochs[i] := by
  simp [halvingPass, hi]

theorem length_epochLoop (i : Nat) (s : HalvingLoopState) (es : List HalvingEpoch) :
    (epochLoop CountBlockRewards i s es).length = es.length := by
  induction es generalizing i s with
  | nil => rfl
  | cons e es ih => simp [epochLoop, ih]

theorem epochLoop_names_numbered (i : Nat) (hi : 3 ≤ i) (s : HalvingLoopState)
    (es : List HalvingEpoch) :
    (epochLoop CountBlockRewards i s es).map EpochInfo.epoch_name =
      (numberedPairs (s.nHalvings, s.nEpochsAfterHalving)
        (es.map HalvingEpoch.fIsSubsidyHalved)).map fun p => epochLabel p.1 p.2 := by
  induction es generalizing i s with
  | nil => rfl
  | cons e es ih =>
    obtain ⟨hname, hpair⟩ := halvingPass_name_numbered CountBlockRewards i hi s e
    simp only [epochLoop, List.map_cons, List.map, numberedPairs, hname,
      ih (i + 1) (by omega), hpair]

theorem epochLoop_names (i : Nat) (hi : i ≤ 3) (s : HalvingLoopState) (es : List HalvingEpoch) :
    ∃ p, (epochLoop CountBlockRewards i s es).map EpochInfo.epoch_name =
      (knownEpochs.drop i).take es.length ++
        (numberedPairs p ((es.drop (3 - i)).map HalvingEpoch.fIsSubsidyHalved)).map
          fun q => epochLabel q.1 q.2 := by
  induction es generalizing i s with
  | nil => exact ⟨(0, 0), by simp [epochLoop, numberedPairs]⟩
  | cons e es ih =>
    by_cases h3 : i < knownEpochs.length
    · -- a named epoch
      have hi3 : i < 3 := h3
      obtain ⟨p, hp⟩ := ih (i + 1) (by omega) (halvingPass CountBlockRewards i s e).1
      refine ⟨p, ?_⟩
      have hdrop : (e :: es).drop (3 - i) = es.drop (3 - (i + 1)) := by
        rw [show 3 - i = (3 - (i + 1)) + 1 by omega]; rfl
      rw [epochLoop, List.map_cons, hp, halvingPass_name_known CountBlockRewards i h3, hdrop,
        List.drop_eq_getElem_cons h3]
      rfl
    · -- the numbered epochs
      have hi3 : i = 3 := by simp [knownEpochs] at h3; omega
      subst hi3
      exact ⟨(s.nHalvings, s.nEpochsAfterHalving),
        by simp [epochLoop_names_numbered CountBlockRewards 3 le_rfl, knownEpochs]⟩

theorem epochLabel_inj {a b c d : Nat} (h : epochLabel a b = epochLabel c d) : a = c ∧ b = d := by
  have h' := congrArg String.data h
  simp only [epochLabel, stdToString, i64tostr, String.data_append, Int.natAbs_ofNat,
    Nat.cast_nonneg, not_lt.mpr, if_false, List.nil_append, List.append_assoc,
    List.append_cancel_left_eq] at h'
  obtain ⟨hac, h''⟩ := decimalChars_append_inj (by simp) (by simp) h'
  refine ⟨hac, ?_⟩
  simp only [List.cons_append, List.cons.injEq, true_and] at h''
  exact (decimalChars_append_inj (r := []) (s := []) (by simp) (by simp) (by simpa using h'')).1

theorem epochLabel_prefix (a b : Nat) : (epochLabel a b).data.take 7 = "ALPHA_H".data := by
  simp only [epochLabel, String.data_append, List.append_assoc]
  exact List.take_left' rfl

theorem epochLabel_not_known (a b : Nat) : epochLabel a b ∉ knownEpochs := by
  intro h
  have hp := epochLabel_prefix a b
  simp only [knownEpochs, List.mem_cons, List.mem_singleton, List.not_mem_nil, or_false] at h
  rcases h with h | h | h <;> rw [h] at hp <;> exact absurd hp (by decide)

/-- The `epoch_name`s of `gethalvinginfo` are pairwise distinct. The first three epochs are
`COINSWAP`, `BOOTSTRAP` and `ALPHA`, and the numbered ones after them carry strictly increasing
`(H, E)` pairs in the lexicographic order. Every epoch is listed when there are fewer than
`2 ^ 31`. -/
theorem gethalvinginfo_epoch_names (epochs : List HalvingEpoch) :
    ((gethalvinginfoEpochs CountBlockRewards epochs).map EpochInfo.epoch_name).Nodup ∧
    ((gethalvinginfoEpochs CountBlockRewards epochs).map EpochInfo.epoch_name).take 3 =
      knownEpochs.take (gethalvinginfoEpochs CountBlockRewards epochs).length ∧
    (∃ pairs : List (Nat × Nat),
      ((gethalvinginfoEpochs CountBlockRewards epochs).map EpochInfo.epoch_name).drop 3 =
        pairs.map (fun p => epochLabel p.1 p.2) ∧
      pairs.Pairwise (Prod.Lex (· < ·) (· < ·))) ∧
    (epochs.length < 2 ^ 31 → (gethalvinginfoEpochs CountBlockRewards epochs).length = epochs.length) := by
  set es := epochs.take (BitVec.ofNat 32 epochs.length).toInt.toNat
  obtain ⟨p, hp⟩ := epochLoop_names CountBlockRewards 0 (by omega) ⟨0, 0, 0⟩ es
  have hlen : (gethalvinginfoEpochs CountBlockRewards epochs).length = es.length :=
    length_epochLoop CountBlockRewards _ _ _
  set pairs := numberedPairs p ((es.drop 3).map HalvingEpoch.fIsSubsidyHalved)
  have hnames : (gethalvinginfoEpochs CountBlockRewards epochs).map EpochInfo.epoch_name =
      knownEpochs.take es.length ++ pairs.map fun q => epochLabel q.1 q.2 := hp
  -- fewer than three epochs leave no numbered one
  have hshort : es.length < 3 → pairs = [] := by
    intro h
    simp [pairs, List.drop_eq_nil_of_le (show es.length ≤ 3 by omega), numberedPairs]
  have hk : 3 ≤ es.length → knownEpochs.take es.length = knownEpochs := fun h =>
    List.take_of_length_le (by simp [knownEpochs]; omega)
  refine ⟨?_, ?_, ⟨pairs, ?_, numberedPairs_pairwise p _⟩, ?_⟩
  · rw [hnames, List.nodup_append]
    refine ⟨(List.take_sublist _ _).nodup (by decide), ?_, ?_⟩
    · exact ((numberedPairs_pairwise p _).nodup).map fun q r h => Prod.ext_iff.mpr
        (epochLabel_inj h)
    · intro x hx hx'
      obtain ⟨q, -, rfl⟩ := List.mem_map.mp hx'
      exact epochLabel_not_known q.1 q.2 ((List.take_sublist _ _).subset hx)
  · rw [hnames, hlen]
    by_cases h : es.length < 3
    · rw [hshort h]; simp [knownEpochs]
    · rw [hk (by omega)]; exact List.take_left' rfl
  · rw [hnames]
    by_cases h : es.length < 3
    · rw [hshort h]; simp [knownEpochs]
    · rw [hk (by omega)]; exact List.drop_left' rfl
  · intro h
    rw [hlen, List.length_take, toInt_eq_of_toNat_lt _ (by simp; omega)]
    simp; omega

/-! ### The supply since the last halving -/

/-- Entry `j` of a listing whose first pass was pass `i` restarts the supply count: it started
by halving, or it is one of the named epochs. -/
def restartsAt (i : Nat) (out : List EpochInfo) (j : Nat) : Prop :=
  out[j]?.map EpochInfo.started_by_halving = some true ∨ i + j < 3

/-- The supply of the listed epochs `m` to `k`. -/
def supplyBetween (out : List EpochInfo) (m k : Nat) : Int :=
  (((out.take (k + 1)).drop m).map EpochInfo.supply_this_epoch).sum

theorem restartsAt_cons (i : Nat) (x : EpochInfo) (out : List EpochInfo) (j : Nat) :
    restartsAt i (x :: out) (j + 1) ↔ restartsAt (i + 1) out j := by
  simp only [restartsAt, List.getElem?_cons_succ, Nat.add_right_comm i 1 j, Nat.add_assoc]

theorem supplyBetween_cons_succ (x : EpochInfo) (out : List EpochInfo) (m k : Nat) :
    supplyBetween (x :: out) (m + 1) (k + 1) = supplyBetween out m k := by
  simp [supplyBetween]

theorem supplyBetween_cons_zero (x : EpochInfo) (out : List EpochInfo) (k : Nat) :
    supplyBetween (x :: out) 0 (k + 1) = x.supply_this_epoch + supplyBetween out 0 k := by
  simp [supplyBetween]

theorem halvingPass_supply (i : Nat) (s : HalvingLoopState) (e : HalvingEpoch) :
    (halvingPass CountBlockRewards i s e).2.supply_since_halving =
        (if e.fIsSubsidyHalved ∨ i < 3 then 0 else s.nSupplySinceHalving) +
          (halvingPass CountBlockRewards i s e).2.supply_this_epoch ∧
      (halvingPass CountBlockRewards i s e).1.nSupplySinceHalving =
        (halvingPass CountBlockRewards i s e).2.supply_since_halving ∧
      (halvingPass CountBlockRewards i s e).2.started_by_halving = e.fIsSubsidyHalved := by
  by_cases hi : i < 3 <;> cases h : e.fIsSubsidyHalved <;> simp [halvingPass, knownEpochs, hi, h]

theorem epochLoop_supply (i : Nat) (s : HalvingLoopState) (es : List HalvingEpoch) (k : Nat)
    {x : EpochInfo} (hx : (epochLoop CountBlockRewards i s es)[k]? = some x) :
    (∃ m ≤ k, restartsAt i (epochLoop CountBlockRewards i s es) m ∧
      (∀ j, m < j → j ≤ k → ¬ restartsAt i (epochLoop CountBlockRewards i s es) j) ∧
      x.supply_since_halving = supplyBetween (epochLoop CountBlockRewards i s es) m k) ∨
    ((∀ j ≤ k, ¬ restartsAt i (epochLoop CountBlockRewards i s es) j) ∧
      x.supply_since_halving =
        s.nSupplySinceHalving + supplyBetween (epochLoop CountBlockRewards i s es) 0 k) := by
  induction es generalizing i s k with
  | nil => cases hx
  | cons e es ih =>
    obtain ⟨hssh, hstate, hsbh⟩ := halvingPass_supply CountBlockRewards i s e
    set r := halvingPass CountBlockRewards i s e
    have hout : epochLoop CountBlockRewards i s (e :: es) =
        r.2 :: epochLoop CountBlockRewards (i + 1) r.1 es := rfl
    rw [hout] at hx ⊢
    have hr0 : restartsAt i (r.2 :: epochLoop CountBlockRewards (i + 1) r.1 es) 0 ↔
        (e.fIsSubsidyHalved ∨ i < 3) := by
      simp [restartsAt, hsbh]
    cases k with
    | zero =>
      rw [List.getElem?_cons_zero] at hx
      obtain rfl : r.2 = x := Option.some.inj hx
      by_cases hr : e.fIsSubsidyHalved ∨ i < 3
      · refine .inl ⟨0, le_rfl, hr0.mpr hr, fun j h1 h2 => absurd h2 (by omega), ?_⟩
        simp [supplyBetween, hssh, hr]
      · refine .inr ⟨fun j hj => ?_, by simp [supplyBetween, hssh, hr]⟩
        obtain rfl : j = 0 := by omega
        exact fun h => hr (hr0.mp h)
    | succ k =>
      rw [List.getElem?_cons_succ] at hx
      rcases ih (i + 1) r.1 k hx with ⟨m, hm, hrm, hnone, hsum⟩ | ⟨hnone, hsum⟩
      · refine .inl ⟨m + 1, by omega, (restartsAt_cons ..).mpr hrm, fun j h1 h2 => ?_, ?_⟩
        · obtain ⟨j, rfl⟩ : ∃ j', j = j' + 1 := ⟨j - 1, by omega⟩
          exact fun h => hnone j (by omega) (by omega) ((restartsAt_cons ..).mp h)
        · rw [supplyBetween_cons_succ]; exact hsum
      · have htail : ∀ j, 0 < j → j ≤ k + 1 →
            ¬ restartsAt i (r.2 :: epochLoop CountBlockRewards (i + 1) r.1 es) j := by
          intro j h1 h2
          obtain ⟨j, rfl⟩ : ∃ j', j = j' + 1 := ⟨j - 1, by omega⟩
          exact fun h => hnone j (by omega) ((restartsAt_cons ..).mp h)
        rw [hsum, hstate, hssh]
        by_cases hr : e.fIsSubsidyHalved ∨ i < 3
        · refine .inl ⟨0, by omega, hr0.mpr hr, htail, ?_⟩
          simp [hr, supplyBetween_cons_zero]
        · refine .inr ⟨fun j hj => ?_, by simp [hr, supplyBetween_cons_zero]; ring⟩
          rcases Nat.eq_zero_or_pos j with rfl | hj0
          · exact fun h => hr (hr0.mp h)
          · exact htail j hj0 hj

/-- Every epoch of `gethalvinginfo` reports as `supply_since_halving` the sum of `supply_this_epoch`
from the last listed epoch that restarted the count (one started by halving, or one of the three
named epochs) through itself. -/
theorem gethalvinginfo_supply_since_halving (epochs : List HalvingEpoch) (k : Nat) {x : EpochInfo}
    (hx : (gethalvinginfoEpochs CountBlockRewards epochs)[k]? = some x) :
    ∃ m ≤ k, restartsAt 0 (gethalvinginfoEpochs CountBlockRewards epochs) m ∧
      (∀ j, m < j → j ≤ k → ¬ restartsAt 0 (gethalvinginfoEpochs CountBlockRewards epochs) j) ∧
      x.supply_since_halving = supplyBetween (gethalvinginfoEpochs CountBlockRewards epochs) m k := by
  rcases epochLoop_supply CountBlockRewards 0 _ _ k hx with h | ⟨hnone, -⟩
  · exact h
  · exact absurd (.inr (by omega)) (hnone 0 (Nat.zero_le k))

/-- Five epochs: the three named ones, then two that do not halve. -/
def sampleEpochs : List HalvingEpoch :=
  [⟨0, 99, 50, false, 0, 5000, true⟩, ⟨100, 199, 50, false, 5000, 9000, true⟩,
    ⟨200, 299, 50, false, 9000, 12000, true⟩, ⟨300, 399, 50, false, 12000, 14000, true⟩,
    ⟨400, 499, 50, false, 14000, 0, false⟩]

theorem gethalvinginfo_supply_since_halving_sampleEpochs :
    ∃ x, (gethalvinginfoEpochs (fun _ => 700) sampleEpochs)[4]? = some x ∧
      ∃ m ≤ 4, restartsAt 0 (gethalvinginfoEpochs (fun _ => 700) sampleEpochs) m ∧
        (∀ j, m < j → j ≤ 4 →
          ¬ restartsAt 0 (gethalvinginfoEpochs (fun _ => 700) sampleEpochs) j) ∧
        x.supply_since_halving =
          supplyBetween (gethalvinginfoEpochs (fun _ => 700) sampleEpochs) m 4 :=
  ⟨_, rfl, gethalvinginfo_supply_since_halving _ sampleEpochs 4 rfl⟩

end VelesMining
