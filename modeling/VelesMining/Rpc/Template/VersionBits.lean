import VelesMining.Basic

/-!
# The version-bits deployments of a block template

`getblocktemplate` walks the version-bits deployments (BIP 9) with the state each has at the
template's parent. A `LOCKED_IN` deployment has its bit set in the block version; a `STARTED` or
`LOCKED_IN` one is offered in `vbavailable`, and its bit is cleared when the client does not
name it and the deployment is not `gbt_force`; an `ACTIVE` one is listed in `rules`, and the
request fails when the client does not name a non-force one. The loop writes `pblock->nVersion`
in place, so a request that fails keeps the edits of the deployments before the failing one.

`versionBitsLoop` is the loop; `versionBitsLoop_nVersion` says that the version it leaves is the
fold of the per-deployment edit `vbVersionStep` over the deployments it got through, all of them
when it does not throw. Bit by bit, an edit changes only its deployment's bit
(`getLsbD_vbVersionStep`), so with distinct bits the fold leaves each deployment's bit as its own
edit made it (`getLsbD_foldl_vbVersionStep_owner`) and every other bit alone
(`getLsbD_foldl_vbVersionStep_of_ne`). One pass of the loop either throws or writes `vbEntry`
(`versionBitsLoop_cons`); so the loop throws exactly when an active deployment is not supported,
naming one (`versionBitsLoop_error`), and otherwise lists the active and the pending deployments
in order (`versionBitsLoop_lists`).
-/

namespace VelesMining

/-- `ThresholdState`. -/
inductive ThresholdState where
  | DEFINED
  | STARTED
  | LOCKED_IN
  | ACTIVE
  | FAILED
  deriving DecidableEq, Repr

/-- A deployment: its `VBDeploymentInfo` (`name`, `gbt_force`) and its `bit` in the consensus
parameters. -/
structure VBDeployment where
  name : String
  gbt_force : Bool
  bit : Nat
  deriving DecidableEq, Repr

/-- `VersionBitsMask(params, pos)`: `((uint32_t)1) << bit`. -/
def VersionBitsMask (d : VBDeployment) : BitVec 32 := 1 <<< d.bit

/-- `gbt_vb_name(pos)`: the name, with a `!` in front for a deployment that is not
`gbt_force`. -/
def gbt_vb_name (d : VBDeployment) : String := if d.gbt_force then d.name else "!" ++ d.name

/-- What the deployment loop writes: the block version, the `rules` array and the `vbavailable`
object. -/
structure VBLoopState where
  nVersion : BitVec 32
  aRules : List String
  vbavailable : List (String × Nat)
  deriving DecidableEq, Repr

/-- The edit a deployment makes to the version for a client with rules `setClientRules`. -/
def vbVersionStep (setClientRules : List String) (nVersion : BitVec 32)
    (ds : VBDeployment × ThresholdState) : BitVec 32 :=
  let v := if ds.2 = .LOCKED_IN then nVersion ||| VersionBitsMask ds.1 else nVersion
  if (ds.2 = .STARTED ∨ ds.2 = .LOCKED_IN) ∧ ds.1.name ∉ setClientRules ∧ ds.1.gbt_force = false
  then v &&& ~~~VersionBitsMask ds.1 else v

/-- The `STARTED` case, which `LOCKED_IN` falls through to: offer the deployment, and clear its
bit for a client that does not name a non-force one. -/
def vbStarted (setClientRules : List String) (s : VBLoopState) (d : VBDeployment) : VBLoopState :=
  let s := { s with vbavailable := s.vbavailable ++ [(gbt_vb_name d, d.bit)] }
  if d.name ∉ setClientRules ∧ d.gbt_force = false
  then { s with nVersion := s.nVersion &&& ~~~VersionBitsMask d } else s

/-- The loop over the deployments, with the state of each at `pindexPrev`. It returns what it
wrote and the error it threw, if any. -/
def versionBitsLoop (setClientRules : List String) :
    VBLoopState → List (VBDeployment × ThresholdState) → VBLoopState × Option JSONRPCError
  | s, [] => (s, none)
  | s, (d, st) :: ds =>
    match st with
    | .DEFINED | .FAILED => versionBitsLoop setClientRules s ds
    | .LOCKED_IN =>
      versionBitsLoop setClientRules
        (vbStarted setClientRules { s with nVersion := s.nVersion ||| VersionBitsMask d } d) ds
    | .STARTED => versionBitsLoop setClientRules (vbStarted setClientRules s d) ds
    | .ACTIVE =>
      let s := { s with aRules := s.aRules ++ [gbt_vb_name d] }
      if d.name ∉ setClientRules ∧ d.gbt_force = false then
        (s, some ⟨.RPC_INVALID_PARAMETER,
          "Support for '" ++ d.name ++ "' rule requires explicit client support"⟩)
      else versionBitsLoop setClientRules s ds

theorem versionBitsLoop_nVersion (setClientRules : List String) :
    ∀ (deps : List (VBDeployment × ThresholdState)) (s : VBLoopState), ∃ n,
      (versionBitsLoop setClientRules s deps).1.nVersion =
        (deps.take n).foldl (vbVersionStep setClientRules) s.nVersion ∧
      ((versionBitsLoop setClientRules s deps).2 = none → n = deps.length) := by
  intro deps
  induction deps with
  | nil => exact fun s => ⟨0, rfl, fun _ => rfl⟩
  | cons ds deps ih =>
    intro s
    obtain ⟨d, st⟩ := ds
    -- the deployments the loop goes on after `d`
    have hnext : ∀ s', s'.nVersion = vbVersionStep setClientRules s.nVersion (d, st) →
        ∃ n, (versionBitsLoop setClientRules s' deps).1.nVersion =
            (((d, st) :: deps).take n).foldl (vbVersionStep setClientRules) s.nVersion ∧
          ((versionBitsLoop setClientRules s' deps).2 = none → n = deps.length + 1) := by
      intro s' hs'
      obtain ⟨n, hn, hlen⟩ := ih s'
      exact ⟨n + 1, by rw [hn, hs']; rfl, fun h => by rw [hlen h]⟩
    cases st with
    | DEFINED => exact hnext s (by simp [vbVersionStep])
    | FAILED => exact hnext s (by simp [vbVersionStep])
    | LOCKED_IN =>
      refine hnext _ ?_
      by_cases h1 : d.name ∈ setClientRules <;> cases hf : d.gbt_force <;>
        simp [vbStarted, vbVersionStep, h1, hf]
    | STARTED =>
      refine hnext _ ?_
      by_cases h1 : d.name ∈ setClientRules <;> cases hf : d.gbt_force <;>
        simp [vbStarted, vbVersionStep, h1, hf]
    | ACTIVE =>
      by_cases h : d.name ∉ setClientRules ∧ d.gbt_force = false
      · -- the request fails here, before any edit of its own
        exact ⟨0, by simp [versionBitsLoop, h], fun h' => by simp [versionBitsLoop, h] at h'⟩
      · have hgo : versionBitsLoop setClientRules s ((d, .ACTIVE) :: deps) =
            versionBitsLoop setClientRules { s with aRules := s.aRules ++ [gbt_vb_name d] } deps := by
          simp only [versionBitsLoop, if_neg h]
        rw [hgo]
        exact hnext _ (by simp [vbVersionStep])

/-! ### Bit by bit -/

theorem getLsbD_VersionBitsMask (d : VBDeployment) (i : Nat) :
    (VersionBitsMask d).getLsbD i = (decide (i = d.bit) && decide (i < 32)) := by
  show (BitVec.ofNat 32 (1 <<< d.bit)).getLsbD i = _
  rw [BitVec.getLsbD_ofNat, Nat.one_shiftLeft, Nat.testBit_two_pow, Bool.and_comm]
  simp only [eq_comm]

/-- Whether the client names a deployment or the deployment is forced on it. -/
def vbSupported (setClientRules : List String) (d : VBDeployment) : Prop :=
  d.name ∈ setClientRules ∨ d.gbt_force = true

instance (setClientRules : List String) (d : VBDeployment) :
    Decidable (vbSupported setClientRules d) :=
  inferInstanceAs (Decidable (_ ∨ _))

/-- What a deployment's edit leaves in its own bit, which held `b`: cleared for a started or
locked-in deployment the client does not support, set for a supported locked-in one, and kept
otherwise. -/
def vbSignal (setClientRules : List String) (ds : VBDeployment × ThresholdState) (b : Bool) :
    Bool :=
  if (ds.2 = .STARTED ∨ ds.2 = .LOCKED_IN) ∧ ¬vbSupported setClientRules ds.1 then false
  else if ds.2 = .LOCKED_IN then true else b

theorem getLsbD_vbVersionStep (setClientRules : List String) (v : BitVec 32)
    (ds : VBDeployment × ThresholdState) (i : Nat) :
    (vbVersionStep setClientRules v ds).getLsbD i =
      if i = ds.1.bit ∧ i < 32 then vbSignal setClientRules ds (v.getLsbD i) else v.getLsbD i := by
  by_cases hi : i = ds.1.bit ∧ i < 32
  · obtain ⟨rfl, hlt⟩ := hi
    simp only [vbVersionStep, vbSignal, hlt, and_self, if_true]
    split_ifs <;> simp_all [getLsbD_VersionBitsMask, vbSupported]
  · have hmask : (VersionBitsMask ds.1).getLsbD i = false := by
      simpa [getLsbD_VersionBitsMask] using hi
    simp only [vbVersionStep, if_neg hi]
    split_ifs <;> simp [hmask] <;> exact BitVec.lt_of_getLsbD

theorem getLsbD_foldl_vbVersionStep_of_ne (setClientRules : List String) (i : Nat) :
    ∀ (deps : List (VBDeployment × ThresholdState)) (v : BitVec 32), (∀ ds ∈ deps, ds.1.bit ≠ i) →
      (deps.foldl (vbVersionStep setClientRules) v).getLsbD i = v.getLsbD i
  | [], _, _ => rfl
  | ds :: deps, v, h => by
    rw [List.foldl_cons, getLsbD_foldl_vbVersionStep_of_ne setClientRules i deps _
      (fun x hx => h x (List.mem_cons_of_mem _ hx)), getLsbD_vbVersionStep,
      if_neg (fun hi => h ds (List.mem_cons_self _ _) hi.1.symm)]

theorem getLsbD_foldl_vbVersionStep_owner (setClientRules : List String) :
    ∀ (deps : List (VBDeployment × ThresholdState)) (v : BitVec 32)
      (ds : VBDeployment × ThresholdState), ds ∈ deps → (deps.map fun x => x.1.bit).Nodup →
      ds.1.bit < 32 → (deps.foldl (vbVersionStep setClientRules) v).getLsbD ds.1.bit =
        vbSignal setClientRules ds (v.getLsbD ds.1.bit)
  | [], _, _, hmem, _, _ => absurd hmem (List.not_mem_nil _)
  | x :: deps, v, ds, hmem, hnd, hlt => by
    rw [List.map_cons, List.nodup_cons, List.mem_map] at hnd
    obtain ⟨hx, hnd⟩ := hnd
    rw [List.foldl_cons]
    rcases List.mem_cons.mp hmem with rfl | hmem
    · rw [getLsbD_foldl_vbVersionStep_of_ne _ _ deps _ (fun y hy he => hx ⟨y, hy, he⟩),
        getLsbD_vbVersionStep, if_pos ⟨rfl, hlt⟩]
    · rw [getLsbD_foldl_vbVersionStep_owner setClientRules deps _ ds hmem hnd hlt,
        getLsbD_vbVersionStep, if_neg (fun hi => hx ⟨ds, hmem, hi.1⟩)]

/-! ### The loop -/

/-- What the loop writes for one deployment when it goes on past it. -/
def vbEntry (setClientRules : List String) (s : VBLoopState)
    (ds : VBDeployment × ThresholdState) : VBLoopState :=
  ⟨vbVersionStep setClientRules s.nVersion ds,
    s.aRules ++ (if ds.2 = .ACTIVE then [gbt_vb_name ds.1] else []),
    s.vbavailable ++
      (if ds.2 = .STARTED ∨ ds.2 = .LOCKED_IN then [(gbt_vb_name ds.1, ds.1.bit)] else [])⟩

theorem versionBitsLoop_cons (setClientRules : List String) (s : VBLoopState)
    (ds : VBDeployment × ThresholdState) (deps : List (VBDeployment × ThresholdState)) :
    versionBitsLoop setClientRules s (ds :: deps) =
      if ds.2 = .ACTIVE ∧ ¬vbSupported setClientRules ds.1 then
        ({ s with aRules := s.aRules ++ [gbt_vb_name ds.1] }, some ⟨.RPC_INVALID_PARAMETER,
          "Support for '" ++ ds.1.name ++ "' rule requires explicit client support"⟩)
      else versionBitsLoop setClientRules (vbEntry setClientRules s ds) deps := by
  obtain ⟨d, st⟩ := ds
  cases st <;> by_cases h1 : d.name ∈ setClientRules <;> cases hf : d.gbt_force <;>
    simp [versionBitsLoop, vbEntry, vbStarted, vbVersionStep, vbSupported, h1, hf]

theorem versionBitsLoop_lists (setClientRules : List String) :
    ∀ (deps : List (VBDeployment × ThresholdState)) (s : VBLoopState),
      (versionBitsLoop setClientRules s deps).2 = none →
      (versionBitsLoop setClientRules s deps).1.aRules =
          s.aRules ++ (deps.filter (·.2 = .ACTIVE)).map (gbt_vb_name ·.1) ∧
        (versionBitsLoop setClientRules s deps).1.vbavailable = s.vbavailable ++
          (deps.filter fun ds => ds.2 = .STARTED ∨ ds.2 = .LOCKED_IN).map
            fun ds => (gbt_vb_name ds.1, ds.1.bit)
  | [], s, _ => by simp [versionBitsLoop]
  | ds :: deps, s, h => by
    rw [versionBitsLoop_cons] at h ⊢
    split_ifs at h ⊢
    obtain ⟨h1, h2⟩ := versionBitsLoop_lists setClientRules deps _ h
    refine ⟨?_, ?_⟩
    · rw [h1]; by_cases hst : ds.2 = .ACTIVE <;> simp [vbEntry, List.filter_cons, hst]
    · rw [h2]; by_cases hst : ds.2 = .STARTED ∨ ds.2 = .LOCKED_IN <;>
        simp [vbEntry, List.filter_cons, hst]

/-- The loop throws only at an active deployment the client does not support, naming it, and it
throws whenever there is one. -/
theorem versionBitsLoop_error (setClientRules : List String) :
    ∀ (deps : List (VBDeployment × ThresholdState)) (s : VBLoopState),
      ((versionBitsLoop setClientRules s deps).2 = none ↔
        ∀ ds ∈ deps, ds.2 = .ACTIVE → vbSupported setClientRules ds.1) ∧
      ∀ e, (versionBitsLoop setClientRules s deps).2 = some e → ∃ d, (d, .ACTIVE) ∈ deps ∧
        ¬vbSupported setClientRules d ∧ e = ⟨.RPC_INVALID_PARAMETER,
          "Support for '" ++ d.name ++ "' rule requires explicit client support"⟩
  | [], s => by simp [versionBitsLoop]
  | ds :: deps, s => by
    obtain ⟨hiff, herr⟩ := versionBitsLoop_error setClientRules deps (vbEntry setClientRules s ds)
    rw [versionBitsLoop_cons]
    split_ifs with hthrow
    · have hmem : (ds.1, ThresholdState.ACTIVE) ∈ ds :: deps := hthrow.1 ▸ List.mem_cons_self _ _
      refine ⟨?_, ?_⟩
      · simp only [Option.some_ne_none, false_iff, not_forall]
        exact ⟨_, hmem, rfl, hthrow.2⟩
      · rintro e ⟨⟩
        exact ⟨ds.1, hmem, hthrow.2, rfl⟩
    · refine ⟨?_, ?_⟩
      · rw [hiff, List.forall_mem_cons, and_iff_right (not_and_not_right.mp hthrow)]
      · intro e he
        obtain ⟨d, hd, hns, rfl⟩ := herr e he
        exact ⟨d, List.mem_cons_of_mem _ hd, hns, rfl⟩

end VelesMining
