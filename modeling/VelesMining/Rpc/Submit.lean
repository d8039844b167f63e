import VelesMining.Rpc.Template.GetBlockTemplate

/-!
# Submitting blocks, headers and fee deltas

`submitblock` decodes a block, requires a coinbase first, answers from the block index for a
block it already has, and otherwise hands the block to `ProcessNewBlock` with a
`submitblock_StateCatcher` registered on the validation interface for the length of that call.
The catcher keeps the state of the last `BlockChecked` notification for the block's hash
(`catchState_eq`), so the answer is `duplicate` for an accepted block that was not new, the BIP 22
result of that last state, or `inconclusive` when no notification named the block
(`submitblock_processed`). Before processing, a call leaves the node as it was
(`submitblock_cases`); after it, the only error thrown is the `RPC_VERIFY_ERROR` of an error state
(`submitblock_throws`). Submitting a block the node has stored and validated answers
`duplicate` again (`submitblock_duplicate`). Notifications about blocks that other threads
process while the catcher is registered change neither the node nor the answer
(`submitblock_interleaved`).

`submitheader` and `prioritisetransaction` read their parameters and hand them to the node; a
request they refuse leaves the node as it was (`submitheader_refused`,
`prioritisetransaction_spec`).

The node is a state `S` with the validation functions of `validation.cpp` and the mempool over it
(`Validation`); the notifications `ProcessNewBlock` sends while the catcher is registered are part
of what it returns.
-/

namespace VelesMining

/-- What `ProcessNewBlock` reports: whether it accepted the block, whether the block was new, and
the `BlockChecked` notifications it sent while it ran, in order, each with the hash of the block
checked. -/
structure ProcessResult where
  accepted : Bool
  fNewBlock : Bool
  checked : List (Uint256 × CValidationState)

/-- The functions of the node over its state `S` that submissions use: decoding, the block index
and its status, `UpdateUncommittedBlockStructures`, the two processing entry points, and the
mempool's `PrioritiseTransaction`. -/
structure Validation (S : Type) where
  DecodeHexBlk : String → Option CBlock
  DecodeHexBlockHeader : String → Option CBlockHeader
  LookupBlockIndex : S → Uint256 → Option CBlockIndex
  IsValidScripts : CBlockIndex → Bool
  BLOCK_FAILED_MASK : BitVec 32
  UpdateUncommittedBlockStructures : CBlock → CBlockIndex → CBlock
  ProcessNewBlock : S → CBlock → S × ProcessResult
  ProcessNewBlockHeaders : S → CBlockHeader → S × CValidationState
  PrioritiseTransaction : S → Uint256 → Int → S

/-! ### The state catcher -/

/-- `submitblock_StateCatcher`: the hash it waits for, whether a notification named it, and the
state that notification carried. -/
structure submitblock_StateCatcher where
  hash : Uint256
  found : Bool
  state : CValidationState

/-- `submitblock_StateCatcher::BlockChecked`: a notification for the hash is kept, any other is
ignored. -/
def submitblock_StateCatcher.BlockChecked (sc : submitblock_StateCatcher) (blockHash : Uint256)
    (stateIn : CValidationState) : submitblock_StateCatcher :=
  if blockHash ≠ sc.hash then sc else { sc with found := true, state := stateIn }

/-- The catcher for `hash`, constructed with a default (valid) state, after the notifications
`checked`. -/
def catchState (hash : Uint256) (checked : List (Uint256 × CValidationState)) :
    submitblock_StateCatcher :=
  checked.foldl (fun sc n => sc.BlockChecked n.1 n.2) ⟨hash, false, .valid⟩

/-- The notifications for `hash`, in order. -/
def checkedFor (hash : Uint256) (checked : List (Uint256 × CValidationState)) :
    List (Uint256 × CValidationState) :=
  checked.filter fun n => n.1 = hash

theorem foldl_BlockChecked (sc : submitblock_StateCatcher) (checked : List (Uint256 × CValidationState)) :
    checked.foldl (fun sc n => sc.BlockChecked n.1 n.2) sc =
      match (checkedFor sc.hash checked).getLast? with
      | none => sc
      | some n => { sc with found := true, state := n.2 } := by
  induction checked generalizing sc with
  | nil => rfl
  | cons n ns ih =>
    rw [List.foldl_cons, ih]
    by_cases hn : n.1 = sc.hash
    · have hkeep : (sc.BlockChecked n.1 n.2).hash = sc.hash := by
        simp [submitblock_StateCatcher.BlockChecked, hn]
      rw [hkeep]
      simp only [checkedFor, List.filter_cons, hn, decide_True, if_true]
      cases hlast : (ns.filter fun n => n.1 = sc.hash).getLast? with
      | none =>
        rw [List.getLast?_eq_none_iff.mp hlast]
        simp [submitblock_StateCatcher.BlockChecked, hn]
      | some m =>
        rw [List.getLast?_cons, hlast]
        simp [submitblock_StateCatcher.BlockChecked, hn]
    · have hskip : sc.BlockChecked n.1 n.2 = sc := by
        simp [submitblock_StateCatcher.BlockChecked, hn]
      rw [hskip]
      simp [checkedFor, List.filter_cons, hn]

theorem catchState_eq (hash : Uint256) (checked : List (Uint256 × CValidationState)) :
    catchState hash checked =
      match (checkedFor hash checked).getLast? with
      | none => ⟨hash, false, .valid⟩
      | some n => ⟨hash, true, n.2⟩ :=
  foldl_BlockChecked ⟨hash, false, .valid⟩ checked

/-- `seen` merges `own` and `others`, each in its own order. -/
inductive Interleaving {α : Type} : List α → List α → List α → Prop
  | nil : Interleaving [] [] []
  | left {x : α} {own others seen : List α} :
      Interleaving own others seen → Interleaving (x :: own) others (x :: seen)
  | right {y : α} {own others seen : List α} :
      Interleaving own others seen → Interleaving own (y :: others) (y :: seen)

theorem checkedFor_interleaving {hash : Uint256} {own others seen : List (Uint256 × CValidationState)}
    (h : Interleaving own others seen) (hothers : ∀ n ∈ others, n.1 ≠ hash) :
    checkedFor hash seen = checkedFor hash own := by
  induction h with
  | nil => rfl
  | left _ ih =>
    simp only [checkedFor, List.filter_cons] at ih ⊢
    rw [ih hothers]
  | right _ ih =>
    rw [List.forall_mem_cons] at hothers
    simp only [checkedFor, List.filter_cons] at ih ⊢
    simp [hothers.1, ih hothers.2]

/-! ### `submitblock` -/

/-- The answers from the block index: `duplicate` for a block with valid scripts,
`duplicate-invalid` for a failed one, and none for any other. -/
def indexAnswer {S : Type} (V : Validation S) (s : S) (hash : Uint256) : Option String :=
  match V.LookupBlockIndex s hash with
  | some pindex =>
    if V.IsValidScripts pindex then some "duplicate"
    else if pindex.nStatus &&& V.BLOCK_FAILED_MASK ≠ 0 then some "duplicate-invalid"
    else none
  | none => none

/-- The answer after processing: `duplicate` for an accepted block that was not new,
`inconclusive` when the catcher found nothing, and otherwise the BIP 22 result of its state. -/
def processedAnswer (r : ProcessResult) (sc : submitblock_StateCatcher) :
    Except JSONRPCError (Option String) :=
  if !r.fNewBlock && r.accepted then .ok (some "duplicate")
  else if !sc.found then .ok (some "inconclusive")
  else BIP22ValidationResult sc.state

/-- The block handed to `ProcessNewBlock`: its uncommitted structures filled in against its
previous block, when the node knows that block. -/
def uncommittedBlock {S : Type} (V : Validation S) (s : S) (block : CBlock) : CBlock :=
  match V.LookupBlockIndex s block.hashPrevBlock with
  | some pindex => V.UpdateUncommittedBlockStructures block pindex
  | none => block

/-- `submitblock(hexdata)`: the node after the call and the answer. The catcher is registered
just before `ProcessNewBlock` and unregistered just after it, with no exit in between, so it
sees exactly the notifications of that call. -/
def submitblock {S : Type} (H : PowHashes) (V : Validation S) (s : S) (hexdata : UniValue) :
    S × Except JSONRPCError (Option String) :=
  match hexdata.get_str with
  | .error e => (s, .error e)
  | .ok hex =>
    match V.DecodeHexBlk hex with
    | none => (s, .error ⟨.RPC_DESERIALIZATION_ERROR, "Block decode failed"⟩)
    | some block =>
      if block.vtx.head?.map CTransaction.IsCoinBase ≠ some true then
        (s, .error ⟨.RPC_DESERIALIZATION_ERROR, "Block does not start with a coinbase"⟩)
      else
        match indexAnswer V s (H.GetHash block.toCBlockHeader) with
        | some answer => (s, .ok (some answer))
        | none =>
          let block := uncommittedBlock V s block
          let r := V.ProcessNewBlock s block
          (r.1, processedAnswer r.2 (catchState (H.GetHash block.toCBlockHeader) r.2.checked))

section Submit

variable {S : Type} (H : PowHashes) (V : Validation S) (s : S)

theorem submitblock_cases (hexdata : UniValue) :
    ((submitblock H V s hexdata).1 = s ∧
      (∀ e, (submitblock H V s hexdata).2 = .error e →
        hexdata.get_str = .error e ∨ e.code = .RPC_DESERIALIZATION_ERROR) ∧
      (submitblock H V s hexdata).2 ≠ .ok none) ∨
    ∃ hex block, hexdata = .str hex ∧ V.DecodeHexBlk hex = some block ∧
      block.vtx.head?.map CTransaction.IsCoinBase = some true ∧
      indexAnswer V s (H.GetHash block.toCBlockHeader) = none := by
  unfold submitblock
  split
  · rename_i hstr
    exact .inl ⟨rfl, fun e he => .inl (by cases he; exact hstr), nofun⟩
  · rename_i hex hstr
    have hv := UniValue.get_str_eq_ok.mp hstr
    split
    · exact .inl ⟨rfl, fun e he => .inr (by cases he; rfl), nofun⟩
    · rename_i block hdec
      split
      · exact .inl ⟨rfl, fun e he => .inr (by cases he; rfl), nofun⟩
      · split
        · exact .inl ⟨rfl, nofun, nofun⟩
        · exact .inr ⟨hex, block, hv, hdec, not_not.mp ‹_›, ‹_›⟩

theorem submitblock_processed (hex : String) (block : CBlock)
    (hdec : V.DecodeHexBlk hex = some block)
    (hcb : block.vtx.head?.map CTransaction.IsCoinBase = some true)
    (hidx : indexAnswer V s (H.GetHash block.toCBlockHeader) = none) :
    let block' := uncommittedBlock V s block
    let r := V.ProcessNewBlock s block'
    submitblock H V s (.str hex) =
      (r.1, if !r.2.fNewBlock && r.2.accepted then .ok (some "duplicate") else
        match (checkedFor (H.GetHash block'.toCBlockHeader) r.2.checked).getLast? with
        | none => .ok (some "inconclusive")
        | some n => BIP22ValidationResult n.2) := by
  intro block' r
  simp only [submitblock, UniValue.get_str, hdec, hcb, ne_eq, not_true_eq_false, if_false, hidx]
  congr 1
  rw [processedAnswer, catchState_eq]
  cases (checkedFor (H.GetHash block'.toCBlockHeader) r.2.checked).getLast? <;> rfl

theorem BIP22ValidationResult_eq_null {state : CValidationState} :
    BIP22ValidationResult state = .ok none ↔ state = .valid := by
  cases state <;> simp [BIP22ValidationResult]

theorem BIP22ValidationResult_eq_error {state : CValidationState} {e : JSONRPCError} :
    BIP22ValidationResult state = .error e ↔
      ∃ msg, state = .error msg ∧ e = ⟨.RPC_VERIFY_ERROR, msg⟩ := by
  cases state <;> simp [BIP22ValidationResult, eq_comm]

/-- `submitblock` throws for a `hexdata` that is not a string, or does not decode to a block
with a coinbase first, and then leaves the node as it was; past that it throws only an
`RPC_VERIFY_ERROR`, with the message of an error state that the last `BlockChecked`
notification carried for the block it processed: the block `hexdata` decodes to, with its
uncommitted structures filled in. -/
theorem submitblock_throws (hexdata : UniValue) {e : JSONRPCError}
    (h : (submitblock H V s hexdata).2 = .error e) :
    ((submitblock H V s hexdata).1 = s ∧
      (hexdata.get_str = .error e ∨ e.code = .RPC_DESERIALIZATION_ERROR)) ∨
    (e.code = .RPC_VERIFY_ERROR ∧ ∃ hex block n, hexdata = .str hex ∧
      V.DecodeHexBlk hex = some block ∧
      (checkedFor (H.GetHash (uncommittedBlock V s block).toCBlockHeader)
        (V.ProcessNewBlock s (uncommittedBlock V s block)).2.checked).getLast? = some n ∧
      n.2 = .error e.message ∧
      (submitblock H V s hexdata).1 = (V.ProcessNewBlock s (uncommittedBlock V s block)).1) := by
  obtain ⟨hs, herr, -⟩ | ⟨hex, block, rfl, hdec, hcb, hidx⟩ := submitblock_cases H V s hexdata
  · exact .inl ⟨hs, herr e h⟩
  rw [submitblock_processed H V s hex block hdec hcb hidx] at h ⊢
  dsimp only at h ⊢
  refine .inr ?_
  split at h
  · cases h
  · split at h
    · cases h
    · obtain ⟨msg, hn, rfl⟩ := BIP22ValidationResult_eq_error.mp h
      exact ⟨rfl, hex, block, _, rfl, hdec, ‹_›, hn, rfl⟩

/-- Submitting a block twice answers `duplicate` the second time, when the first submission was
accepted (answered null) and the node behaves as `validation.cpp` does: the block is checked
valid only once it is connected and stored with valid scripts, and filling in the uncommitted
structures (the witness commitment of the coinbase) leaves the header alone. -/
theorem submitblock_duplicate (hex : String)
    (hupd : ∀ b p, (V.UpdateUncommittedBlockStructures b p).toCBlockHeader = b.toCBlockHeader)
    (hstore : ∀ s b n, (checkedFor (H.GetHash b.toCBlockHeader)
        (V.ProcessNewBlock s b).2.checked).getLast? = some n → n.2 = .valid →
      ∃ pindex, V.LookupBlockIndex (V.ProcessNewBlock s b).1 (H.GetHash b.toCBlockHeader) =
        some pindex ∧ V.IsValidScripts pindex)
    (h1 : (submitblock H V s (.str hex)).2 = .ok none) :
    submitblock H V (submitblock H V s (.str hex)).1 (.str hex) =
      ((submitblock H V s (.str hex)).1, .ok (some "duplicate")) := by
  obtain ⟨-, -, hne⟩ | ⟨_, block, hv, hdec, hcb, hidx⟩ := submitblock_cases H V s (.str hex)
  · exact absurd h1 hne
  cases hv
  -- the first submission went through `ProcessNewBlock` on the updated block `b`
  have hhash : (uncommittedBlock V s block).toCBlockHeader = block.toCBlockHeader := by
    unfold uncommittedBlock
    split
    · exact hupd _ _
    · rfl
  rw [submitblock_processed H V s hex block hdec hcb hidx] at h1 ⊢
  generalize uncommittedBlock V s block = b at h1 hhash ⊢
  dsimp only at h1 ⊢
  -- a null answer is a valid last notification for the block
  obtain ⟨n, hn, hvalid⟩ : ∃ n, (checkedFor (H.GetHash b.toCBlockHeader)
      (V.ProcessNewBlock s b).2.checked).getLast? = some n ∧ n.2 = .valid := by
    split at h1
    · cases h1
    · split at h1
      · cases h1
      · exact ⟨_, ‹_›, BIP22ValidationResult_eq_null.mp h1⟩
  obtain ⟨pindex, hlook, hscripts⟩ := hstore s b n hn hvalid
  rw [hhash] at hlook
  have hidx' : indexAnswer V (V.ProcessNewBlock s b).1 (H.GetHash block.toCBlockHeader) =
      some "duplicate" := by
    simp [indexAnswer, hlook, hscripts]
  simp [submitblock, UniValue.get_str, hdec, hcb, hidx']

/-- While the catcher is registered, blocks that other threads process are checked too, and their
`BlockChecked` notifications reach it among those of the submitted block. They change neither the
node nor the answer: a `ProcessNewBlock` that sends the notifications of `V.ProcessNewBlock` with
notifications about other blocks merged in anywhere gives the same call. -/
theorem submitblock_interleaved (P : S → CBlock → S × ProcessResult)
    (hP : ∀ b, ∃ others seen, (∀ n ∈ others, n.1 ≠ H.GetHash b.toCBlockHeader) ∧
      Interleaving (V.ProcessNewBlock s b).2.checked others seen ∧
      P s b = ((V.ProcessNewBlock s b).1, { (V.ProcessNewBlock s b).2 with checked := seen }))
    (hexdata : UniValue) :
    submitblock H { V with ProcessNewBlock := P } s hexdata = submitblock H V s hexdata := by
  unfold submitblock
  dsimp only
  cases hexdata.get_str with
  | error e => rfl
  | ok hex =>
    dsimp only
    cases V.DecodeHexBlk hex with
    | none => rfl
    | some block =>
      dsimp only
      split_ifs
      · rfl
      · -- only the processing reads `ProcessNewBlock`
        rw [show indexAnswer { V with ProcessNewBlock := P } s = indexAnswer V s from rfl,
          show uncommittedBlock { V with ProcessNewBlock := P } s = uncommittedBlock V s from rfl]
        cases indexAnswer V s (H.GetHash block.toCBlockHeader) with
        | some answer => rfl
        | none =>
          obtain ⟨others, seen, hothers, hseen, hPb⟩ := hP (uncommittedBlock V s block)
          simp only [hPb, catchState_eq, checkedFor_interleaving hseen hothers, processedAnswer]

end Submit

/-- A node that stores every block it is given with valid scripts and reports `state` for it:
its state is the list of the hashes it has stored. -/
def storingNode (state : CValidationState) : Validation (List Uint256) where
  DecodeHexBlk _ := some sampleTemplate.block
  DecodeHexBlockHeader _ := none
  LookupBlockIndex s hash := if hash ∈ s then some ⟨hash, 0, 0, 0, 0, 0, 0, 0⟩ else none
  IsValidScripts _ := true
  BLOCK_FAILED_MASK := 0
  UpdateUncommittedBlockStructures b _ := b
  ProcessNewBlock s b :=
    (samplePowHashes.GetHash b.toCBlockHeader :: s,
      ⟨true, true, [(samplePowHashes.GetHash b.toCBlockHeader, state)]⟩)
  ProcessNewBlockHeaders s _ := (s, .valid)
  PrioritiseTransaction s _ _ := s

theorem submitblock_duplicate_storingNode :
    (submitblock samplePowHashes (storingNode .valid) [] (.str "")).2 = .ok none ∧
    submitblock samplePowHashes (storingNode .valid)
        (submitblock samplePowHashes (storingNode .valid) [] (.str "")).1 (.str "") =
      ((submitblock samplePowHashes (storingNode .valid) [] (.str "")).1,
        .ok (some "duplicate")) :=
  ⟨rfl, submitblock_duplicate samplePowHashes (storingNode .valid) [] "" (fun _ _ => rfl)
    (fun _ _ _ _ _ => ⟨_, if_pos (List.mem_cons_self _ _), rfl⟩) rfl⟩

theorem submitblock_throws_storingNode :
    (submitblock samplePowHashes (storingNode (.error "disk full")) [] (.str "")).2 =
      .error ⟨.RPC_VERIFY_ERROR, "disk full"⟩ ∧
    (((submitblock samplePowHashes (storingNode (.error "disk full")) [] (.str "")).1 = [] ∧
      ((UniValue.str "").get_str = .error ⟨.RPC_VERIFY_ERROR, "disk full"⟩ ∨
        RPCErrorCode.RPC_VERIFY_ERROR = .RPC_DESERIALIZATION_ERROR)) ∨
    (RPCErrorCode.RPC_VERIFY_ERROR = .RPC_VERIFY_ERROR ∧ ∃ hex block n, UniValue.str "" = .str hex ∧
      (storingNode (.error "disk full")).DecodeHexBlk hex = some block ∧
      (checkedFor (samplePowHashes.GetHash
          (uncommittedBlock (storingNode (.error "disk full")) [] block).toCBlockHeader)
        ((storingNode (.error "disk full")).ProcessNewBlock []
          (uncommittedBlock (storingNode (.error "disk full")) [] block)).2.checked).getLast? =
        some n ∧
      n.2 = .error "disk full" ∧
      (submitblock samplePowHashes (storingNode (.error "disk full")) [] (.str "")).1 =
        ((storingNode (.error "disk full")).ProcessNewBlock []
          (uncommittedBlock (storingNode (.error "disk full")) [] block)).1)) :=
  ⟨rfl, submitblock_throws samplePowHashes (storingNode (.error "disk full")) [] (.str "") rfl⟩

/-- `storingNode .valid` while another thread's block, with the next hash, fails its checks: that
block's notification reaches the catcher first. -/
def otherBlockFailing (s : List Uint256) (b : CBlock) : List Uint256 × ProcessResult :=
  (((storingNode .valid).ProcessNewBlock s b).1,
    { ((storingNode .valid).ProcessNewBlock s b).2 with
      checked := (samplePowHashes.GetHash b.toCBlockHeader + 1, .invalid "bad-prevblk") ::
        ((storingNode .valid).ProcessNewBlock s b).2.checked })

theorem submitblock_interleaved_otherBlockFailing :
    (∀ b, ∃ others seen, (∀ n ∈ others, n.1 ≠ samplePowHashes.GetHash b.toCBlockHeader) ∧
      Interleaving ((storingNode .valid).ProcessNewBlock [] b).2.checked others seen ∧
      otherBlockFailing [] b = (((storingNode .valid).ProcessNewBlock [] b).1,
        { ((storingNode .valid).ProcessNewBlock [] b).2 with checked := seen })) ∧
    submitblock samplePowHashes { storingNode .valid with ProcessNewBlock := otherBlockFailing } []
        (.str "") = submitblock samplePowHashes (storingNode .valid) [] (.str "") :=
  have hP : ∀ b, ∃ others seen, (∀ n ∈ others, n.1 ≠ samplePowHashes.GetHash b.toCBlockHeader) ∧
      Interleaving ((storingNode .valid).ProcessNewBlock [] b).2.checked others seen ∧
      otherBlockFailing [] b = (((storingNode .valid).ProcessNewBlock [] b).1,
        { ((storingNode .valid).ProcessNewBlock [] b).2 with checked := seen }) :=
    fun b => ⟨_, _, by simp only [List.mem_singleton, forall_eq]; bv_omega, .right (.left .nil), rfl⟩
  ⟨hP, submitblock_interleaved samplePowHashes (storingNode .valid) [] otherBlockFailing hP (.str "")⟩

/-! ### `submitheader` -/

/-- `submitheader(hexdata)`: a header whose previous header the node does not know is refused;
any other goes to `ProcessNewBlockHeaders`, and a state that is not valid is thrown as an
`RPC_VERIFY_ERROR` (`FormatStateMessage` for an error, the reject reason for an invalid
header). -/
def submitheader {S : Type} (V : Validation S) (s : S) (hexdata : UniValue) :
    S × Except JSONRPCError Unit :=
  match hexdata.get_str with
  | .error e => (s, .error e)
  | .ok hex =>
    match V.DecodeHexBlockHeader hex with
    | none => (s, .error ⟨.RPC_DESERIALIZATION_ERROR, "Block header decode failed"⟩)
    | some h =>
      if V.LookupBlockIndex s h.hashPrevBlock = none then
        (s, .error ⟨.RPC_VERIFY_ERROR,
          "Must submit previous header (" ++ GetHex h.hashPrevBlock ++ ") first"⟩)
      else
        let r := V.ProcessNewBlockHeaders s h
        (r.1, match r.2 with
          | .valid => .ok ()
          | .error strMessage => .error ⟨.RPC_VERIFY_ERROR, strMessage⟩
          | .invalid strRejectReason => .error ⟨.RPC_VERIFY_ERROR, strRejectReason⟩)

theorem submitheader_refused {S : Type} (V : Validation S) (s : S) (hexdata : UniValue) :
    (submitheader V s hexdata).1 = s ∨
      ∃ hex h, hexdata = .str hex ∧ V.DecodeHexBlockHeader hex = some h ∧
        V.LookupBlockIndex s h.hashPrevBlock ≠ none ∧
        (submitheader V s hexdata).1 = (V.ProcessNewBlockHeaders s h).1 := by
  unfold submitheader
  split
  · exact .inl rfl
  · rename_i hex hstr
    have hv := UniValue.get_str_eq_ok.mp hstr
    split
    · exact .inl rfl
    · rename_i h hdec
      split
      · exact .inl rfl
      · exact .inr ⟨hex, h, hv, hdec, ‹_›, rfl⟩

/-! ### `prioritisetransaction` -/

/-- `ParseHashV(v, strName)` on a request parameter: its string, read by `ParseHashV`. -/
def ParseHashVParam (v : UniValue) (strName : String) : Except JSONRPCError Uint256 :=
  v.get_str >>= fun strHex => ParseHashV strHex strName

/-- The `dummy` parameter must be null or `0`. -/
def checkDummy (dummy : UniValue) : Except JSONRPCError Unit :=
  match dummy with
  | .null => .ok ()
  | v => v.get_real >>= fun priority =>
    if priority = 0 then .ok ()
    else .error ⟨.RPC_INVALID_PARAMETER,
      "Priority is no longer supported, dummy argument to prioritisetransaction must be 0."⟩

theorem checkDummy_eq_ok {dummy : UniValue} :
    checkDummy dummy = .ok () ↔ dummy = .null ∨ dummy = .num 0 := by
  cases dummy <;> simp [checkDummy, UniValue.get_real, bind, Except.bind]

/-- What `prioritisetransaction` reads from its request: the txid, the fee delta, and a null or
zero `dummy`, in this order. -/
def prioritisationRequest (txid dummy fee_delta : UniValue) : Except JSONRPCError (Uint256 × Int) :=
  ParseHashVParam txid "txid" >>= fun hash =>
    fee_delta.get_int64 >>= fun nAmount =>
      checkDummy dummy >>= fun _ => .ok (hash, nAmount)

/-- `prioritisetransaction(txid, dummy, fee_delta)`. -/
def prioritisetransaction {S : Type} (V : Validation S) (s : S) (txid dummy fee_delta : UniValue) :
    S × Except JSONRPCError Bool :=
  match prioritisationRequest txid dummy fee_delta with
  | .error e => (s, .error e)
  | .ok (hash, nAmount) => (V.PrioritiseTransaction s hash nAmount, .ok true)

theorem prioritisetransaction_spec {S : Type} (V : Validation S) (s : S)
    (txid dummy fee_delta : UniValue) :
    (∃ e, prioritisetransaction V s txid dummy fee_delta = (s, .error e)) ∨
    ∃ hex hash nAmount, txid = .str hex ∧ ParseHashV hex "txid" = .ok hash ∧
      fee_delta = .num nAmount ∧ -2 ^ 63 ≤ nAmount ∧ nAmount < 2 ^ 63 ∧
      (dummy = .null ∨ dummy = .num 0) ∧
      prioritisetransaction V s txid dummy fee_delta =
        (V.PrioritiseTransaction s hash nAmount, .ok true) := by
  unfold prioritisetransaction
  cases hreq : prioritisationRequest txid dummy fee_delta with
  | error e => exact .inl ⟨e, rfl⟩
  | ok p =>
    obtain ⟨hash, hh, hreq⟩ := bind_eq_ok hreq
    obtain ⟨nAmount, hn, hreq⟩ := bind_eq_ok hreq
    obtain ⟨_, hd, hreq⟩ := bind_eq_ok hreq
    cases hreq
    obtain ⟨hex, hhex, hh⟩ := bind_eq_ok hh
    obtain ⟨hfee, hlo, hhi⟩ := UniValue.get_int64_eq_ok.mp hn
    exact .inr ⟨hex, hash, nAmount, UniValue.get_str_eq_ok.mp hhex, hh, hfee, hlo, hhi,
      checkDummy_eq_ok.mp hd, rfl⟩

end VelesMining
