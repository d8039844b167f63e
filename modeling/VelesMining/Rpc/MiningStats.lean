import VelesMining.Chain
import Mathlib.Algebra.BigOperators.Group.List

/-!
# Per-algorithm block statistics

`GetLastAlgoBlock`, `CountAlgoBlocks` and `CountAlgoBlockRewards` are three backward scans from
the tip with different stop conditions. `GetLastAlgoBlock` is the back-scan of `Chain`;
`CountAlgoBlocks` and `CountAlgoBlockRewards` run one loop, `sumAlgoBlocks`, adding `1` and the
block subsidy respectively.

On a well-formed chain with tip height `t` and a window `n ≥ 0`, both counters range over the
same entries: those of the algorithm with height in `[max (t - n + 1) 1, t]`, so genesis is never
counted (`sumAlgoBlocks_eq`). `GetLastAlgoBlock` returns the highest entry of the algorithm, or
genesis (`GetLastAlgoBlock_spec`), and the count is positive exactly when that entry lies in the
window (`algoWindowStats`).
-/

namespace VelesMining

variable (K : AlgoConstants)

/-- `GetLastAlgoBlock(nAlgo)`. Its loop tests `algo != nAlgo` before `pb->pprev`; both tests
are free of effects, so it is the back-scan `scanBackToAlgo` from the tip. -/
def GetLastAlgoBlock (chain : CChain) (nAlgo : BitVec 32) : BlockPtr :=
  scanBackToAlgo K nAlgo chain.Tip

/-- The loop of `CountAlgoBlocks` and `CountAlgoBlockRewards`: while `nBlocks` is non-zero and
`pb` has a parent, add `weight pb` if `pb` is a block of `nAlgo`, step to `pb->pprev` and
decrement `nBlocks`. -/
def sumAlgoBlocks (weight : CBlockIndex → Int) (nAlgo : BitVec 32) : BitVec 32 → BlockPtr → Int
  | nBlocks, e :: p :: ps =>
    if nBlocks ≠ 0 then
      (if algoOf K e.nVersion = nAlgo then weight e else 0) +
        sumAlgoBlocks weight nAlgo (nBlocks - 1) (p :: ps)
    else 0
  | _, _ => 0

/-- `CountAlgoBlocks(nAlgo, nBlocks)`. -/
def CountAlgoBlocks (chain : CChain) (nAlgo nBlocks : BitVec 32) : Int :=
  sumAlgoBlocks K (fun _ => 1) nAlgo nBlocks chain.Tip

variable (GetBlockSubsidy : CBlockIndex → Int)

/-- `CountAlgoBlockRewards(nAlgo, nBlocks)`, with `GetBlockSubsidy` the subsidy of an entry
(`GetBlockSubsidy(pb->nHeight, pb->GetBlockHeader(), …, false)`). -/
def CountAlgoBlockRewards (chain : CChain) (nAlgo nBlocks : BitVec 32) : Int :=
  sumAlgoBlocks K GetBlockSubsidy nAlgo nBlocks chain.Tip

/-- The entries of `nAlgo` at a height of at least `lo`. A window of `n` blocks below a tip at
height `t` has `lo = max (t - n + 1) 1`. -/
def algoWindow (nAlgo : BitVec 32) (lo : Int) (p : BlockPtr) : BlockPtr :=
  p.filter fun e => algoOf K e.nVersion = nAlgo ∧ lo ≤ e.nHeight.toInt

theorem algoWindow_cons (nAlgo : BitVec 32) (lo : Int) (e : CBlockIndex) (p : BlockPtr) :
    algoWindow K nAlgo lo (e :: p) =
      if algoOf K e.nVersion = nAlgo ∧ lo ≤ e.nHeight.toInt then e :: algoWindow K nAlgo lo p
      else algoWindow K nAlgo lo p := by
  by_cases h : algoOf K e.nVersion = nAlgo ∧ lo ≤ e.nHeight.toInt <;>
    simp [algoWindow, List.filter_cons, h]

theorem algoWindow_eq_nil (nAlgo : BitVec 32) (lo : Int) (p : BlockPtr) (hp : WellFormed p)
    (hlo : (p.length : Int) ≤ lo) : algoWindow K nAlgo lo p = [] := by
  induction p with
  | nil => rfl
  | cons e rest ih =>
    have he := hp.1
    simp only [List.length_cons] at hlo
    rw [algoWindow_cons, if_neg (fun h => by have := h.2; omega), ih hp.2 (by omega)]

theorem sumAlgoBlocks_eq (weight : CBlockIndex → Int) (nAlgo nBlocks : BitVec 32)
    (e : CBlockIndex) (rest : BlockPtr) (hp : WellFormed (e :: rest)) (hn : 0 ≤ nBlocks.toInt) :
    sumAlgoBlocks K weight nAlgo nBlocks (e :: rest) =
      ((algoWindow K nAlgo (max (e.nHeight.toInt - nBlocks.toInt + 1) 1) (e :: rest)).map
        weight).sum := by
  induction rest generalizing e nBlocks with
  | nil =>
    rw [algoWindow_eq_nil K _ _ _ hp (by have := hp.1; simp at *)]
    simp [sumAlgoBlocks]
  | cons p ps ih =>
    have he := hp.1
    have hpe := hp.2.1
    simp only [List.length_cons] at he hpe
    by_cases h0 : nBlocks = 0
    · subst h0
      rw [algoWindow_eq_nil K _ _ _ hp (by simp; omega)]
      simp [sumAlgoBlocks]
    · have hpos : 0 < nBlocks.toInt := by
        have : nBlocks.toInt ≠ 0 := fun h => h0 (BitVec.toInt_inj.mp (by simpa using h))
        omega
      have hlo : max (p.nHeight.toInt - (nBlocks - 1).toInt + 1) 1 =
          max (e.nHeight.toInt - nBlocks.toInt + 1) 1 := by
        rw [toInt_sub_one nBlocks hpos]; omega
      rw [sumAlgoBlocks, if_pos h0, ih (nBlocks - 1) p hp.2 (by rw [toInt_sub_one _ hpos]; omega),
        hlo, algoWindow_cons K nAlgo _ e]
      by_cases ha : algoOf K e.nVersion = nAlgo
      · rw [if_pos ha, if_pos ⟨ha, by omega⟩]; simp
      · rw [if_neg ha, if_neg (not_and_of_not_left _ ha)]; simp

theorem algoWindow_ne_nil_iff (nAlgo : BitVec 32) (lo : Int) (p : BlockPtr) :
    algoWindow K nAlgo lo p ≠ [] ↔ ∃ x ∈ p, algoOf K x.nVersion = nAlgo ∧ lo ≤ x.nHeight.toInt := by
  simp [algoWindow, List.filter_eq_nil_iff]

/-- The three scans agree. On a well-formed chain with tip height `t` and a window `n ≥ 0`,
`GetLastAlgoBlock` returns the highest entry of `nAlgo`, or genesis when there is none;
`CountAlgoBlocks` and `CountAlgoBlockRewards` count and add the subsidies of the entries of
`nAlgo` with height in `[max (t - n + 1) 1, t]`; and the count is positive exactly when the
last block of `nAlgo` lies in that window. -/
theorem algoWindowStats (chain : CChain) (e : CBlockIndex) (rest : BlockPtr)
    (htip : chain.Tip = e :: rest) (hwf : WellFormed chain.Tip) (nAlgo n : BitVec 32)
    (hn : 0 ≤ n.toInt) :
    (∃ b bs, GetLastAlgoBlock K chain nAlgo = b :: bs ∧ b :: bs <:+ chain.Tip ∧
      ((algoOf K b.nVersion = nAlgo ∧
          ∀ x ∈ chain.Tip, algoOf K x.nVersion = nAlgo → x.nHeight.toInt ≤ b.nHeight.toInt) ∨
        ((∀ x ∈ chain.Tip, algoOf K x.nVersion ≠ nAlgo) ∧ bs = [])) ∧
      (0 < CountAlgoBlocks K chain nAlgo n ↔
        max (e.nHeight.toInt - n.toInt + 1) 1 ≤ b.nHeight.toInt)) ∧
    CountAlgoBlocks K chain nAlgo n =
      (algoWindow K nAlgo (max (e.nHeight.toInt - n.toInt + 1) 1) chain.Tip).length ∧
    CountAlgoBlockRewards K GetBlockSubsidy chain nAlgo n =
      ((algoWindow K nAlgo (max (e.nHeight.toInt - n.toInt + 1) 1) chain.Tip).map
        GetBlockSubsidy).sum := by
  have hwf' : WellFormed (e :: rest) := htip ▸ hwf
  have hcount : CountAlgoBlocks K chain nAlgo n =
      (algoWindow K nAlgo (max (e.nHeight.toInt - n.toInt + 1) 1) chain.Tip).length := by
    rw [CountAlgoBlocks, htip, sumAlgoBlocks_eq K _ _ _ e rest hwf' hn]
    simp
  refine ⟨?_, hcount, by rw [CountAlgoBlockRewards, htip, sumAlgoBlocks_eq K _ _ _ e rest hwf' hn]⟩
  obtain ⟨b, bs, hscan, hsuf, hb⟩ := scanBackToAlgo_spec K nAlgo hwf (by simp [htip])
  refine ⟨b, bs, hscan, hsuf, hb, ?_⟩
  rw [hcount, Int.ofNat_pos, List.length_pos, algoWindow_ne_nil_iff]
  rcases hb with ⟨hba, hmax⟩ | ⟨hnone, rfl⟩
  · -- the last block of `nAlgo` is the highest one: the window holds an entry iff it holds `b`
    exact ⟨fun ⟨x, hx, hxa, hlo⟩ => hlo.trans (hmax x hx hxa),
      fun hlo => ⟨b, hsuf.subset (List.mem_cons_self _ _), hba, hlo⟩⟩
  · -- no entry of `nAlgo`: the window is empty and `b` is genesis, below the window
    have hb0 : b.nHeight.toInt = 0 := by simpa using (hwf.suffix hsuf).1
    exact ⟨fun ⟨x, hx, hxa, _⟩ => absurd hxa (hnone x hx), fun hlo => by omega⟩

/-- A three-block chain: a SHA256D genesis, a SCRYPT block, and a SHA256D tip. -/
def threeBlockChain : CChain := ⟨[tip, scryptBlock, genesis]⟩
where
  genesis : CBlockIndex := ⟨0, 0, sampleAlgoConstants.ALGO_SHA256D, 0, 0, 0, 0, 0⟩
  scryptBlock : CBlockIndex := ⟨1, 1, sampleAlgoConstants.ALGO_SCRYPT, 100, 0, 0, 0, 0⟩
  tip : CBlockIndex := ⟨2, 2, sampleAlgoConstants.ALGO_SHA256D, 200, 0, 0, 0, 0⟩

theorem algoWindowStats_threeBlockChain :
    threeBlockChain.Tip =
        threeBlockChain.tip :: [threeBlockChain.scryptBlock, threeBlockChain.genesis] ∧
      WellFormed threeBlockChain.Tip ∧ 0 ≤ (1 : BitVec 32).toInt ∧
      ((∃ b bs, GetLastAlgoBlock sampleAlgoConstants threeBlockChain
            sampleAlgoConstants.ALGO_SCRYPT = b :: bs ∧ b :: bs <:+ threeBlockChain.Tip ∧
          ((algoOf sampleAlgoConstants b.nVersion = sampleAlgoConstants.ALGO_SCRYPT ∧
              ∀ x ∈ threeBlockChain.Tip, algoOf sampleAlgoConstants x.nVersion =
                sampleAlgoConstants.ALGO_SCRYPT → x.nHeight.toInt ≤ b.nHeight.toInt) ∨
            ((∀ x ∈ threeBlockChain.Tip,
                algoOf sampleAlgoConstants x.nVersion ≠ sampleAlgoConstants.ALGO_SCRYPT) ∧
              bs = [])) ∧
          (0 < CountAlgoBlocks sampleAlgoConstants threeBlockChain
              sampleAlgoConstants.ALGO_SCRYPT 1 ↔
            max (threeBlockChain.tip.nHeight.toInt - (1 : BitVec 32).toInt + 1) 1 ≤
              b.nHeight.toInt)) ∧
        CountAlgoBlocks sampleAlgoConstants threeBlockChain sampleAlgoConstants.ALGO_SCRYPT 1 =
          (algoWindow sampleAlgoConstants sampleAlgoConstants.ALGO_SCRYPT
            (max (threeBlockChain.tip.nHeight.toInt - (1 : BitVec 32).toInt + 1) 1)
            threeBlockChain.Tip).length ∧
        CountAlgoBlockRewards sampleAlgoConstants (fun _ => 50) threeBlockChain
            sampleAlgoConstants.ALGO_SCRYPT 1 =
          ((algoWindow sampleAlgoConstants sampleAlgoConstants.ALGO_SCRYPT
            (max (threeBlockChain.tip.nHeight.toInt - (1 : BitVec 32).toInt + 1) 1)
            threeBlockChain.Tip).map fun _ => 50).sum) :=
  ⟨rfl, by decide, by decide,
    algoWindowStats sampleAlgoConstants (fun _ => 50) threeBlockChain _ _ rfl (by decide) _ 1
      (by decide)⟩

end VelesMining
