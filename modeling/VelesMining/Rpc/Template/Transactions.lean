import VelesMining.Primitives.Block
import VelesMining.Util.Strencodings

/-!
# The `transactions` array of a block template

`getblocktemplate` lists the transactions of the template after the coinbase (BIP 22). It walks
`pblock->vtx` once, storing each txid's position in `setTxIndex` before it looks at the inputs,
so an input's `depends` entry is the position of the earlier template transaction it spends;
since the coinbase sits at position `0`, that position is the transaction's 1-based index in the
array.

`txEntries` is that loop. On a template whose only coinbase is `vtx[0]`, whose txids are
distinct and in which no transaction spends the coinbase or itself, it computes the array BIP 22
describes, `bip22Entries` (`txEntries_eq`): the position lookups of `setTxIndex` are the
first earlier position with the txid (`setTxIndex_eq_find`). The array is emitted unless a
pre-segwit sigop cost is not a multiple of `WITNESS_SCALE_FACTOR`, where the `assert` aborts.
-/

namespace VelesMining

/-- `CBlockTemplate`: the block with the fee and the sigop cost of each transaction. -/
structure CBlockTemplate where
  block : CBlock
  vTxFees : List Int
  vTxSigOpsCost : List Int
  deriving DecidableEq, Repr

/-- `WITNESS_SCALE_FACTOR`. -/
def WITNESS_SCALE_FACTOR : Int := 4

/-- One object of the `transactions` array. -/
structure TxEntry where
  data : String
  txid : String
  hash : String
  depends : List Nat
  fee : Int
  sigops : Int
  weight : Nat
  deriving DecidableEq, Repr

/-- The loop over `pblock->vtx` from position `i`, with the `setTxIndex` built so far:
`setTxIndex[txHash] = i++`, skip a coinbase, and otherwise list the transaction with the
positions of the inputs' txids, its fee and its sigop cost (divided by `WITNESS_SCALE_FACTOR`
before segwit, after `assert(nTxSigOps % WITNESS_SCALE_FACTOR == 0)`). `none` is the failed
`assert`, or an index past the end of `vTxFees` or `vTxSigOpsCost`. -/
def txEntries (vTxFees vTxSigOpsCost : List Int) (fPreSegWit : Bool) :
    Nat → (Uint256 → Option Nat) → List CTransaction → Option (List TxEntry)
  | _, _, [] => some []
  | i, setTxIndex, tx :: txs =>
    let setTxIndex' := fun h => if h = tx.hash then some i else setTxIndex h
    if tx.IsCoinBase then txEntries vTxFees vTxSigOpsCost fPreSegWit (i + 1) setTxIndex' txs
    else
      match vTxFees[i]?, vTxSigOpsCost[i]? with
      | some fee, some nTxSigOps =>
        if fPreSegWit ∧ nTxSigOps.tmod WITNESS_SCALE_FACTOR ≠ 0 then none
        else
          (txEntries vTxFees vTxSigOpsCost fPreSegWit (i + 1) setTxIndex' txs).map fun rest =>
            { data := tx.hex
              txid := GetHex tx.hash
              hash := GetHex tx.witnessHash
              depends := tx.vin.filterMap fun inp => setTxIndex' inp.prevout.hash
              fee := fee
              sigops := if fPreSegWit then nTxSigOps.tdiv WITNESS_SCALE_FACTOR else nTxSigOps
              weight := tx.weight } :: rest
      | _, _ => none

/-- The `transactions` array of a template, from an empty `setTxIndex`. -/
def templateTransactions (tmpl : CBlockTemplate) (fPreSegWit : Bool) : Option (List TxEntry) :=
  txEntries tmpl.vTxFees tmpl.vTxSigOpsCost fPreSegWit 0 (fun _ => none) tmpl.block.vtx

/-- Every sigop cost from position `i` on is a multiple of `WITNESS_SCALE_FACTOR`. -/
def sigOpsDivisible (vTxSigOpsCost : List Int) (i : Nat) : Bool :=
  (vTxSigOpsCost.drop i).all fun c => c.tmod WITNESS_SCALE_FACTOR == 0

theorem sigOpsDivisible_of_getElem? {vTxSigOpsCost : List Int} {i : Nat} {c : Int}
    (hc : vTxSigOpsCost[i]? = some c) :
    sigOpsDivisible vTxSigOpsCost i =
      (c.tmod WITNESS_SCALE_FACTOR == 0 && sigOpsDivisible vTxSigOpsCost (i + 1)) := by
  have hlt : i < vTxSigOpsCost.length := by
    by_contra h
    rw [List.getElem?_eq_none (by omega)] at hc
    cases hc
  rw [List.getElem?_eq_getElem hlt, Option.some.injEq] at hc
  rw [sigOpsDivisible, List.drop_eq_getElem_cons hlt, List.all_cons, hc]
  rfl

/-! ### The array BIP 22 describes -/

/-- The `depends` of `vtx[k]` as BIP 22 states it: for each input in order, the position
`1 ≤ j < k` of the earlier template transaction whose txid the input spends, if any. -/
def bip22Depends (vtx : List CTransaction) (k : Nat) (tx : CTransaction) : List Nat :=
  tx.vin.filterMap fun inp =>
    (List.range k).find? fun j => 1 ≤ j ∧ vtx[j]?.map CTransaction.hash = some inp.prevout.hash

/-- The entry that describes `vtx[k]`. -/
def bip22Entry (tmpl : CBlockTemplate) (fPreSegWit : Bool) (k : Nat) (tx : CTransaction) :
    TxEntry :=
  { data := tx.hex
    txid := GetHex tx.hash
    hash := GetHex tx.witnessHash
    depends := bip22Depends tmpl.block.vtx k tx
    fee := tmpl.vTxFees.getD k 0
    sigops := if fPreSegWit then tmpl.vTxSigOpsCost.getD k 0 / WITNESS_SCALE_FACTOR
      else tmpl.vTxSigOpsCost.getD k 0
    weight := tx.weight }

/-- The entries describing `txs`, the transactions from position `i` on. -/
def bip22Entries (tmpl : CBlockTemplate) (fPreSegWit : Bool) :
    Nat → List CTransaction → List TxEntry
  | _, [] => []
  | i, tx :: txs => bip22Entry tmpl fPreSegWit i tx :: bip22Entries tmpl fPreSegWit (i + 1) txs

theorem getElem?_bip22Entries (tmpl : CBlockTemplate) (fPreSegWit : Bool) (i : Nat)
    (txs : List CTransaction) (j : Nat) :
    (bip22Entries tmpl fPreSegWit i txs)[j]? =
      txs[j]?.map (bip22Entry tmpl fPreSegWit (i + j)) := by
  induction txs generalizing i j with
  | nil => rfl
  | cons tx txs ih =>
    cases j with
    | zero => simp [bip22Entries]
    | succ j => simp only [bip22Entries, List.getElem?_cons_succ, ih, Nat.add_right_comm i 1 j]; rfl

/-! ### The loop computes it -/

section Loop

variable {vtx : List CTransaction} (hnd : (vtx.map CTransaction.hash).Nodup)
include hnd

theorem eq_of_hash_eq {j j' : Nat} {h : Uint256} (hj : vtx[j]?.map CTransaction.hash = some h)
    (hj' : vtx[j']?.map CTransaction.hash = some h) : j = j' := by
  have hlt : j < (vtx.map CTransaction.hash).length := by
    by_contra hge
    simp only [List.length_map, not_lt] at hge
    simp [List.getElem?_eq_none hge] at hj
  exact List.getElem?_inj hlt hnd (by simp only [List.getElem?_map, hj, hj'])

theorem setTxIndex_insert {m : Uint256 → Option Nat} {i : Nat} {tx : CTransaction}
    (htx : vtx[i]? = some tx)
    (hm : ∀ h j, m h = some j ↔ j < i ∧ vtx[j]?.map CTransaction.hash = some h) :
    ∀ h j, (if h = tx.hash then some i else m h) = some j ↔
      j < i + 1 ∧ vtx[j]?.map CTransaction.hash = some h := by
  intro h j
  by_cases hh : h = tx.hash
  · subst hh
    simp only [if_true, Option.some.injEq]
    constructor
    · rintro rfl; exact ⟨by omega, by simp [htx]⟩
    · rintro ⟨-, hj⟩; exact eq_of_hash_eq hnd (j := i) (by simp [htx]) hj
  · rw [if_neg hh, hm]
    constructor
    · rintro ⟨hj, hjh⟩; exact ⟨by omega, hjh⟩
    · rintro ⟨hj, hjh⟩
      refine ⟨lt_of_le_of_ne (by omega) fun hji => hh ?_, hjh⟩
      subst hji; simpa [htx] using hjh.symm

theorem setTxIndex_eq_find {m : Uint256 → Option Nat} {i : Nat} {tx : CTransaction}
    (hm : ∀ h j, m h = some j ↔ j < i ∧ vtx[j]?.map CTransaction.hash = some h)
    {h : Uint256} (h0 : vtx[0]?.map CTransaction.hash ≠ some h) (hself : tx.hash ≠ h) :
    (if h = tx.hash then some i else m h) =
      (List.range i).find? fun j => 1 ≤ j ∧ vtx[j]?.map CTransaction.hash = some h := by
  rw [if_neg (Ne.symm hself)]
  cases hmh : m h with
  | none =>
    refine (List.find?_eq_none.mpr fun j hj hp => ?_).symm
    simp only [decide_eq_true_eq] at hp
    have := (hm h j).mpr ⟨List.mem_range.mp hj, hp.2⟩
    rw [hmh] at this
    cases this
  | some j =>
    obtain ⟨hj, hjh⟩ := (hm h j).mp hmh
    have hj0 : j ≠ 0 := by rintro rfl; exact h0 hjh
    refine (List.find?_range_eq_some.mpr ⟨by simp [hjh]; omega, List.mem_range.mpr hj,
      fun j' hj' => ?_⟩).symm
    simp only [Bool.not_eq_true', decide_eq_false_iff_not, not_and]
    exact fun _ hj'h => absurd (eq_of_hash_eq hnd hj'h hjh) (by omega)

theorem txEntries_eq (tmpl : CBlockTemplate) (fPreSegWit : Bool) (hv : tmpl.block.vtx = vtx)
    (hcb : ∀ k (hk : k < vtx.length), vtx[k].IsCoinBase = decide (k = 0))
    (hspend : ∀ k (hk : k < vtx.length), ∀ inp ∈ vtx[k].vin,
      vtx[0]?.map CTransaction.hash ≠ some inp.prevout.hash ∧ vtx[k].hash ≠ inp.prevout.hash)
    (hfees : tmpl.vTxFees.length = vtx.length) (hsig : tmpl.vTxSigOpsCost.length = vtx.length) :
    ∀ n i, i + n = vtx.length → 1 ≤ i → ∀ m : Uint256 → Option Nat,
      (∀ h j, m h = some j ↔ j < i ∧ vtx[j]?.map CTransaction.hash = some h) →
      txEntries tmpl.vTxFees tmpl.vTxSigOpsCost fPreSegWit i m (vtx.drop i) =
        if (!fPreSegWit || sigOpsDivisible tmpl.vTxSigOpsCost i) = true
        then some (bip22Entries tmpl fPreSegWit i (vtx.drop i)) else none := by
  intro n
  induction n with
  | zero =>
    intro i hi _ m _
    have hdrop : vtx.drop i = [] := List.drop_eq_nil_of_le (by omega)
    have hdiv : sigOpsDivisible tmpl.vTxSigOpsCost i = true := by
      simp [sigOpsDivisible, List.drop_eq_nil_of_le (show tmpl.vTxSigOpsCost.length ≤ i by omega)]
    rw [hdrop, hdiv, Bool.or_true, if_pos rfl]
    rfl
  | succ n ih =>
    intro i hi hi1 m hm
    have hlt : i < vtx.length := by omega
    have htx : vtx[i]? = some vtx[i] := List.getElem?_eq_getElem hlt
    obtain ⟨fee, hfee⟩ : ∃ fee, tmpl.vTxFees[i]? = some fee :=
      ⟨_, List.getElem?_eq_getElem (by omega)⟩
    obtain ⟨c, hc⟩ : ∃ c, tmpl.vTxSigOpsCost[i]? = some c :=
      ⟨_, List.getElem?_eq_getElem (by omega)⟩
    -- the depends of `vtx[i]` are the ones BIP 22 names
    have hdeps : (vtx[i].vin.filterMap fun inp =>
        if inp.prevout.hash = vtx[i].hash then some i else m inp.prevout.hash) =
        bip22Depends tmpl.block.vtx i vtx[i] := by
      rw [bip22Depends, hv]
      exact List.filterMap_congr fun inp hinp =>
        setTxIndex_eq_find hnd hm (hspend i hlt inp hinp).1 (hspend i hlt inp hinp).2
    have ih' := ih (i + 1) (by omega) (by omega) _ (setTxIndex_insert hnd htx hm)
    rw [List.drop_eq_getElem_cons hlt, txEntries, if_neg (by simp [hcb i hlt]; omega), hfee, hc,
      sigOpsDivisible_of_getElem? hc]
    simp only
    cases fPreSegWit with
    | false =>
      simp only [Bool.false_eq_true, false_and, if_false, Bool.not_false, Bool.true_or, if_true,
        ih', Option.map_some']
      simp [bip22Entries, bip22Entry, hdeps, List.getD_eq_getElem?_getD, hfee, hc]
    | true =>
      by_cases hdiv : c.tmod WITNESS_SCALE_FACTOR = 0
      · -- the `assert` holds: the entry is the BIP 22 one, with the sigop cost divided exactly
        simp only [hdiv, ne_eq, not_true_eq_false, and_false, if_false, beq_self_eq_true,
          Bool.true_and, Bool.not_true, Bool.false_or, ih']
        by_cases hrest : sigOpsDivisible tmpl.vTxSigOpsCost (i + 1) = true
        · simp [hrest, bip22Entries, bip22Entry, hdeps, List.getD_eq_getElem?_getD, hfee, hc,
            Int.tdiv_eq_ediv_of_dvd (Int.dvd_of_tmod_eq_zero hdiv)]
        · simp [hrest]
      · simp [hdiv]

end Loop

/-- The `transactions` array of a template whose only coinbase is `vtx[0]`, whose txids are
distinct, in which no transaction spends the coinbase or its own txid, and with one fee and one
sigop cost per transaction: its `k`-th element (1-based) describes `vtx[k]`, with fee
`vTxFees[k]`, sigops `vTxSigOpsCost[k]` (divided by `WITNESS_SCALE_FACTOR` before segwit) and
the positions `1 ≤ j < k` of the earlier transactions its inputs spend, in input order. The array
is emitted unless a pre-segwit sigop cost fails the `assert`. -/
theorem templateTransactions_describe (tmpl : CBlockTemplate) (fPreSegWit : Bool)
    (hcb : ∀ k (hk : k < tmpl.block.vtx.length), tmpl.block.vtx[k].IsCoinBase = decide (k = 0))
    (hnd : (tmpl.block.vtx.map CTransaction.hash).Nodup)
    (hspend : ∀ k (hk : k < tmpl.block.vtx.length), ∀ inp ∈ tmpl.block.vtx[k].vin,
      tmpl.block.vtx[0]?.map CTransaction.hash ≠ some inp.prevout.hash ∧
        tmpl.block.vtx[k].hash ≠ inp.prevout.hash)
    (hfees : tmpl.vTxFees.length = tmpl.block.vtx.length)
    (hsig : tmpl.vTxSigOpsCost.length = tmpl.block.vtx.length) :
    (templateTransactions tmpl fPreSegWit).isSome =
      (!fPreSegWit || sigOpsDivisible tmpl.vTxSigOpsCost 1) ∧
    ∀ arr, templateTransactions tmpl fPreSegWit = some arr →
      ∀ k, 1 ≤ k → arr[k - 1]? = tmpl.block.vtx[k]?.map (bip22Entry tmpl fPreSegWit k) := by
  -- the loop skips the coinbase, then runs from position 1
  have hloop : templateTransactions tmpl fPreSegWit =
      if (!fPreSegWit || sigOpsDivisible tmpl.vTxSigOpsCost 1) = true
      then some (bip22Entries tmpl fPreSegWit 1 (tmpl.block.vtx.drop 1)) else none := by
    unfold templateTransactions
    generalize hv : tmpl.block.vtx = vtx at hcb hnd hspend hfees hsig
    cases vtx with
    | nil =>
      have : sigOpsDivisible tmpl.vTxSigOpsCost 1 = true := by
        simp only [List.length_nil] at hsig
        simp [sigOpsDivisible, List.drop_eq_nil_of_le (show tmpl.vTxSigOpsCost.length ≤ 1 by omega)]
      simp [txEntries, this]
      rfl
    | cons cb txs =>
      have hcb0 : cb.IsCoinBase = true := by simpa using hcb 0 (by simp)
      rw [txEntries, if_pos hcb0]
      exact txEntries_eq hnd tmpl fPreSegWit hv hcb hspend hfees hsig txs.length 1
        (by simp [Nat.add_comm])
        le_rfl _ fun h j => by
          by_cases hh : h = cb.hash
          · subst hh; cases j <;> simp
          · cases j <;> simp [hh, Ne.symm hh]
  rw [hloop]
  constructor
  · split <;> simp_all
  · intro arr harr k hk
    split at harr
    · cases harr
      rw [getElem?_bip22Entries, List.getElem?_drop, show 1 + (k - 1) = k by omega]
    · cases harr

/-- A template of a coinbase and two transactions, the second spending the first. -/
def sampleTemplate : CBlockTemplate where
  block :=
    { nVersion := 0x20000000, hashPrevBlock := 0, hashMerkleRoot := 0, nTime := 0, nBits := 0,
      nNonce := 0, vtx := [coinbase, parent, child] }
  vTxFees := [0, 10, 20]
  vTxSigOpsCost := [0, 4, 8]
where
  coinbase : CTransaction := ⟨[⟨⟨0, BitVec.allOnes 32⟩⟩], 1, 1, 400, "", 50⟩
  parent : CTransaction := ⟨[⟨⟨7, 0⟩⟩], 2, 2, 800, "", 5⟩
  child : CTransaction := ⟨[⟨⟨2, 0⟩⟩, ⟨⟨7, 1⟩⟩], 3, 3, 800, "", 4⟩

theorem templateTransactions_describe_sampleTemplate :
    (∀ k (hk : k < sampleTemplate.block.vtx.length),
      sampleTemplate.block.vtx[k].IsCoinBase = decide (k = 0)) ∧
    (sampleTemplate.block.vtx.map CTransaction.hash).Nodup ∧
    (∀ k (hk : k < sampleTemplate.block.vtx.length), ∀ inp ∈ sampleTemplate.block.vtx[k].vin,
      sampleTemplate.block.vtx[0]?.map CTransaction.hash ≠ some inp.prevout.hash ∧
        sampleTemplate.block.vtx[k].hash ≠ inp.prevout.hash) ∧
    sampleTemplate.vTxFees.length = sampleTemplate.block.vtx.length ∧
    sampleTemplate.vTxSigOpsCost.length = sampleTemplate.block.vtx.length ∧
    (templateTransactions sampleTemplate true).isSome =
      (!true || sigOpsDivisible sampleTemplate.vTxSigOpsCost 1) ∧
    ∀ arr, templateTransactions sampleTemplate true = some arr →
      ∀ k, 1 ≤ k → arr[k - 1]? =
        sampleTemplate.block.vtx[k]?.map (bip22Entry sampleTemplate true k) :=
  ⟨by decide, by decide, by decide, rfl, rfl,
    templateTransactions_describe sampleTemplate true (by decide) (by decide) (by decide) rfl rfl⟩

end VelesMining
