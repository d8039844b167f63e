import VelesMining.Primitives.Block
import Mathlib.Data.List.Basic

/-!
# The block index and the active chain

A `CBlockIndex*` is modelled by what its `pprev` links reach: `BlockPtr`, the entry and its
ancestors, newest first, with `[]` for `nullptr`. Following `pprev` is `List.tail`, and every
backward walk of the RPCs is a recursion on this list. `chainActive` is the pointer to its tip.
A chain is `WellFormed` when every entry's height is the number of its ancestors: heights run
down by one to a genesis entry whose `pprev` is null.

`scanBackToAlgo` is the back-scan `while (pb->pprev && algo(pb) != nAlgo) pb = pb->pprev` that
`GetNetworkHashPS` runs twice and `GetLastAlgoBlock` once; `scanBackToAlgo_eq` says what it
returns: the most recent entry of the algorithm, or the genesis entry when there is none.
`algoWork` is the per-algorithm chain work `W(e, a)`, and `WorkAccounted` says that every
entry's `nChainWorkAlgo` is `W` of its own algorithm.
-/

namespace VelesMining

/-- `CBlockIndex`, with the fields the mining RPCs read. `hash` is `*phashBlock`. -/
structure CBlockIndex where
  hash : Uint256
  nHeight : BitVec 32
  nVersion : BitVec 32
  nTime : BitVec 32
  nBits : BitVec 32
  nStatus : BitVec 32
  nChainWork : Uint256
  nChainWorkAlgo : Uint256
  deriving DecidableEq, Repr

/-- `CBlockIndex::GetBlockTime`: `nTime` as an `int64_t`. -/
def CBlockIndex.GetBlockTime (e : CBlockIndex) : Int := e.nTime.toNat

/-- A `CBlockIndex*`: the entry and the entries its `pprev` links reach, newest first. `[]` is
`nullptr`. -/
abbrev BlockPtr := List CBlockIndex

/-- `CChain`: the active chain, given by its tip pointer. -/
structure CChain where
  vChain : BlockPtr
  deriving DecidableEq, Repr

/-- `CChain::Tip`. -/
def CChain.Tip (c : CChain) : BlockPtr := c.vChain

/-- `CChain::Height`: `vChain.size() - 1` as an `int`. -/
def CChain.Height (c : CChain) : BitVec 32 := BitVec.ofInt 32 (c.vChain.length - 1)

/-- `CChain::operator[]`: the entry at `nHeight`, or `nullptr` outside `[0, Height()]`. -/
def CChain.get (c : CChain) (nHeight : BitVec 32) : BlockPtr :=
  if 0 ≤ nHeight.toInt ∧ nHeight.toInt < c.vChain.length then
    c.vChain.drop (c.vChain.length - 1 - nHeight.toInt.toNat)
  else []

/-- Heights run down by one to a genesis entry with a null `pprev`: every entry's height is the
number of entries below it. -/
def WellFormed : BlockPtr → Prop
  | [] => True
  | e :: rest => e.nHeight.toInt = rest.length ∧ WellFormed rest

instance decidableWellFormed : (p : BlockPtr) → Decidable (WellFormed p)
  | [] => isTrue trivial
  | e :: rest =>
    @instDecidableAnd _ _ (inferInstanceAs (Decidable (e.nHeight.toInt = rest.length)))
      (decidableWellFormed rest)

@[simp] theorem wellFormed_nil : WellFormed [] := trivial

@[simp] theorem wellFormed_cons (e : CBlockIndex) (rest : BlockPtr) :
    WellFormed (e :: rest) ↔ e.nHeight.toInt = rest.length ∧ WellFormed rest := Iff.rfl

theorem WellFormed.drop {p : BlockPtr} (h : WellFormed p) (n : Nat) : WellFormed (p.drop n) := by
  induction p generalizing n with
  | nil => simp
  | cons e rest ih => cases n with
    | zero => exact h
    | succ n => exact ih h.2 n

theorem WellFormed.height_of_mem {p : BlockPtr} (h : WellFormed p) {e : CBlockIndex}
    (he : e ∈ p) : ∃ k < p.length, e.nHeight.toInt = p.length - 1 - k := by
  induction p with
  | nil => simp at he
  | cons x rest ih =>
    rcases List.mem_cons.mp he with rfl | he
    · exact ⟨0, by simp, by simp [h.1]⟩
    · obtain ⟨k, hk, hek⟩ := ih h.2 he
      exact ⟨k + 1, by simp; omega, by simp [hek]; ring⟩

theorem WellFormed.height_le_head {e : CBlockIndex} {rest : BlockPtr} (h : WellFormed (e :: rest))
    {x : CBlockIndex} (hx : x ∈ e :: rest) : x.nHeight.toInt ≤ e.nHeight.toInt := by
  obtain ⟨k, -, hxk⟩ := h.height_of_mem hx
  rw [hxk, h.1]
  simp only [List.length_cons, Nat.cast_add, Nat.cast_one]
  omega

theorem WellFormed.suffix {p q : BlockPtr} (h : WellFormed p) (hq : q <:+ p) : WellFormed q := by
  rw [List.suffix_iff_eq_drop.mp hq]
  exact h.drop _

variable (K : AlgoConstants)

/-! ### The back-scan to an algorithm -/

/-- `while (pb->pprev && nAlgo != (pb->nVersion & ALGO_VERSION_MASK)) pb = pb->pprev;` -/
def scanBackToAlgo (nAlgo : BitVec 32) : BlockPtr → BlockPtr
  | [] => []
  | e :: rest =>
    if rest ≠ [] ∧ nAlgo ≠ algoOf K e.nVersion then scanBackToAlgo nAlgo rest else e :: rest

/-- The back-scan stops at the most recent entry of `nAlgo`, or at the genesis entry when no
entry of `nAlgo` is reachable. -/
theorem scanBackToAlgo_eq (nAlgo : BitVec 32) (p : BlockPtr) (hp : p ≠ []) :
    scanBackToAlgo K nAlgo p =
      if ∃ e ∈ p, algoOf K e.nVersion = nAlgo then p.dropWhile (algoOf K ·.nVersion ≠ nAlgo)
      else [p.getLast hp] := by
  induction p with
  | nil => exact absurd rfl hp
  | cons e rest ih =>
    by_cases he : algoOf K e.nVersion = nAlgo
    · simp [scanBackToAlgo, he, List.dropWhile_cons]
    · cases rest with
      | nil => simp [scanBackToAlgo, he]
      | cons e' rest' =>
        rw [scanBackToAlgo, if_pos ⟨List.cons_ne_nil _ _, Ne.symm he⟩, ih (List.cons_ne_nil _ _)]
        simp [he, List.dropWhile_cons, List.getLast_cons_cons]

theorem scanBackToAlgo_ne_nil (nAlgo : BitVec 32) {p : BlockPtr} (hp : p ≠ []) :
    scanBackToAlgo K nAlgo p ≠ [] := by
  rw [scanBackToAlgo_eq K nAlgo p hp]
  split
  · rename_i h
    obtain ⟨e, he, hea⟩ := h
    simpa [List.dropWhile_eq_nil_iff] using ⟨e, he, hea⟩
  · simp

theorem scanBackToAlgo_spec (nAlgo : BitVec 32) {p : BlockPtr} (hp : WellFormed p) (hne : p ≠ []) :
    ∃ b bs, scanBackToAlgo K nAlgo p = b :: bs ∧ b :: bs <:+ p ∧
      ((algoOf K b.nVersion = nAlgo ∧
          ∀ x ∈ p, algoOf K x.nVersion = nAlgo → x.nHeight.toInt ≤ b.nHeight.toInt) ∨
        ((∀ x ∈ p, algoOf K x.nVersion ≠ nAlgo) ∧ bs = [])) := by
  induction p with
  | nil => exact absurd rfl hne
  | cons e rest ih =>
    by_cases hs : rest ≠ [] ∧ nAlgo ≠ algoOf K e.nVersion
    · obtain ⟨b, bs, hscan, hsuf, hb⟩ := ih hp.2 hs.1
      refine ⟨b, bs, by rw [scanBackToAlgo, if_pos hs, hscan],
        hsuf.trans (List.suffix_cons _ _), ?_⟩
      -- `e` is not of `nAlgo`, so every entry of `nAlgo` lies in `rest`
      have hrest : ∀ x ∈ e :: rest, algoOf K x.nVersion = nAlgo → x ∈ rest := by
        intro x hx hxa
        rcases List.mem_cons.mp hx with rfl | hx
        · exact absurd hxa.symm hs.2
        · exact hx
      rcases hb with ⟨hba, hmax⟩ | ⟨hnone, hbs⟩
      · exact .inl ⟨hba, fun x hx hxa => hmax x (hrest x hx hxa) hxa⟩
      · exact .inr ⟨fun x hx hxa => hnone x (hrest x hx hxa) hxa, hbs⟩
    · refine ⟨e, rest, by rw [scanBackToAlgo, if_neg hs], List.suffix_refl _, ?_⟩
      by_cases he : algoOf K e.nVersion = nAlgo
      · exact .inl ⟨he, fun x hx _ => hp.height_le_head hx⟩
      · have hr : rest = [] := by
          by_contra hr
          exact hs ⟨hr, Ne.symm he⟩
        subst hr
        exact .inr ⟨by simpa using he, rfl⟩

/-! ### Per-algorithm chain work -/

variable (GetBlockProof : CBlockIndex → Nat)

/-- `W(p, a)`: the total proof of the entries at or below `p` whose algorithm field is `a`. -/
def algoWork (a : BitVec 32) : BlockPtr → Nat
  | [] => 0
  | e :: rest => (if algoOf K e.nVersion = a then GetBlockProof e else 0) + algoWork a rest

/-- Every entry's `nChainWorkAlgo` is `W` of its own algorithm. -/
def WorkAccounted : BlockPtr → Prop
  | [] => True
  | e :: rest =>
    e.nChainWorkAlgo.toNat = algoWork K GetBlockProof (algoOf K e.nVersion) (e :: rest) ∧
      WorkAccounted rest

theorem WorkAccounted.drop {p : BlockPtr} (h : WorkAccounted K GetBlockProof p) (n : Nat) :
    WorkAccounted K GetBlockProof (p.drop n) := by
  induction p generalizing n with
  | nil => simp [WorkAccounted]
  | cons e rest ih => cases n with
    | zero => exact h
    | succ n => exact ih h.2 n

theorem algoWork_append (a : BitVec 32) (p q : BlockPtr) :
    algoWork K GetBlockProof a (p ++ q) =
      algoWork K GetBlockProof a p + algoWork K GetBlockProof a q := by
  induction p with
  | nil => simp [algoWork]
  | cons e rest ih => rw [List.cons_append, algoWork, algoWork, ih]; ring

theorem algoWork_dropWhile (a : BitVec 32) (p : BlockPtr) :
    algoWork K GetBlockProof a (p.dropWhile (algoOf K ·.nVersion ≠ a)) =
      algoWork K GetBlockProof a p := by
  induction p with
  | nil => rfl
  | cons e rest ih =>
    by_cases he : algoOf K e.nVersion = a
    · simp [List.dropWhile_cons, he]
    · simpa [List.dropWhile_cons, he, algoWork] using ih

theorem algoWork_eq_zero (a : BitVec 32) (p : BlockPtr)
    (h : ¬ ∃ e ∈ p, algoOf K e.nVersion = a) : algoWork K GetBlockProof a p = 0 := by
  induction p with
  | nil => rfl
  | cons e rest ih =>
    simp only [List.mem_cons, exists_eq_or_imp, not_or] at h
    simp [algoWork, h.1, ih h.2]

theorem scanBackToAlgo_work (a : BitVec 32) (p : BlockPtr) (hp : p ≠ [])
    (hw : WorkAccounted K GetBlockProof p) (hex : ∃ e ∈ p, algoOf K e.nVersion = a) :
    ∃ b bs, scanBackToAlgo K a p = b :: bs ∧
      b.nChainWorkAlgo.toNat = algoWork K GetBlockProof a p := by
  rw [scanBackToAlgo_eq K a p hp, if_pos hex, ← algoWork_dropWhile K GetBlockProof a p]
  induction p with
  | nil => exact absurd rfl hp
  | cons e rest ih =>
    by_cases he : algoOf K e.nVersion = a
    · simp only [List.dropWhile_cons, he, ne_eq, not_true_eq_false, decide_False,
        Bool.false_eq_true, if_false]
      exact ⟨e, rest, rfl, he ▸ hw.1⟩
    · have hex' : ∃ e ∈ rest, algoOf K e.nVersion = a := by
        obtain ⟨x, hx, hxa⟩ := hex
        rcases List.mem_cons.mp hx with rfl | hx
        · exact absurd hxa he
        · exact ⟨x, hx, hxa⟩
      have hrest : rest ≠ [] := by rintro rfl; simp at hex'
      simp only [List.dropWhile_cons, he, ne_eq, not_false_eq_true, decide_True, if_true]
      exact ih hrest hw.2 hex'

end VelesMining
