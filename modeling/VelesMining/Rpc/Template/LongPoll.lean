import VelesMining.Rpc.Template.GetBlockTemplate

/-!
# The long-poll wait of `getblocktemplate`

A call with a `longpollid` watches a best block and a mempool counter: those the id encodes, or,
for a value that is not a string, the current tip and the counter of the cached template
(`watchedState`). It releases `cs_main` and waits on `g_best_block_cv` with a deadline a minute
ahead:

    while (g_best_block == hashWatchedChain && IsRPCRunning())
        if (wait_until(lock, checktxtime) == timeout) {
            if (mempool.GetTransactionsUpdated() != nTransactionsUpdatedLastLP) break;
            checktxtime += 10 s;
        }

The thread is driven by its wakeups: each return of `wait_until`, by a notification, spuriously
or at the deadline, is a snapshot of what the thread then reads (`LpSnapshot`), and `waitLoop`
runs the loop over a list of them. A list that ends with the thread still inside the loop gives
`none`; so a statement over every list is a statement over every finite prefix of every
schedule.

The deadline starts a minute after the wait begins, and each wakeup at or after it is a timeout
that moves it ten seconds on: `lpDeadline` is that schedule, and after `k` wakeups at their
deadlines it is `k` times ten seconds past the first (`lpDeadline_timeouts`).

Main facts:
* `longPollWait_quiet`: while the block, the server and the counter stay as watched, the call
  never returns, however many wakeups come, and it holds the deadline `lpDeadline`: a later
  wakeup that sees a new counter ends the wait exactly when it comes at or after it;
* `longPollWait_prompt`: the call returns at the first wakeup that sees another best block or a
  stopping server;
* `longPollWait_transactionsUpdated_late`: a return for new transactions comes at a wakeup at
  least a minute after the wait began, since the deadline only moves forward.
-/

namespace VelesMining

/-- What a long poll watches: the block and counter a string `longpollid` encodes, and for any
other value the current tip and the counter of the cached template. -/
def watchedState (view : ChainView) (cache : TemplateCache) :
    UniValue → Except JSONRPCError (Uint256 × BitVec 32)
  | .str lpstr => decodeLongPollId lpstr
  | _ => .ok (view.tip.hash, cache.nTransactionsUpdatedLast)

/-- What the waiting thread reads when it evaluates the loop: the steady clock (in seconds), the
best block, whether the server runs, and the mempool counter. -/
structure LpSnapshot where
  now : Int
  g_best_block : Uint256
  IsRPCRunning : Bool
  GetTransactionsUpdated : BitVec 32
  deriving DecidableEq, Repr

/-- Why the wait ended. -/
inductive LpExit where
  | bestBlockChanged
  | shuttingDown
  | transactionsUpdated
  deriving DecidableEq, Repr

/-- The wait loop with deadline `checktxtime`: `st` is what the loop condition reads now, `ws`
the wakeups still to come. A wakeup at or after the deadline is a timeout of `wait_until`. The
result is the reason and the clock of the exit. -/
def waitLoop (hashWatchedChain : Uint256) (nTransactionsUpdatedLastLP : BitVec 32) :
    Int → LpSnapshot → List LpSnapshot → Option (LpExit × Int)
  | checktxtime, st, ws =>
    if st.g_best_block ≠ hashWatchedChain then some (.bestBlockChanged, st.now)
    else if !st.IsRPCRunning then some (.shuttingDown, st.now)
    else match ws with
      | [] => none
      | w :: ws =>
        if checktxtime ≤ w.now then
          if w.GetTransactionsUpdated ≠ nTransactionsUpdatedLastLP then
            some (.transactionsUpdated, w.now)
          else waitLoop hashWatchedChain nTransactionsUpdatedLastLP (checktxtime + 10) w ws
        else waitLoop hashWatchedChain nTransactionsUpdatedLastLP checktxtime w ws

/-- The wait of a call watching `watched`, entered at snapshot `st`: the deadline is a minute
after `st.now`. -/
def longPollWait (watched : Uint256 × BitVec 32) (st : LpSnapshot) (ws : List LpSnapshot) :
    Option (LpExit × Int) :=
  waitLoop watched.1 watched.2 (st.now + 60) st ws

/-- A snapshot in which nothing the wait watches has moved. -/
def Quiet (watched : Uint256 × BitVec 32) (st : LpSnapshot) : Prop :=
  st.g_best_block = watched.1 ∧ st.IsRPCRunning = true ∧ st.GetTransactionsUpdated = watched.2

/-- The deadline schedule of the wait, from deadline `c`, over wakeups `ws`: a wakeup at or after
the deadline is a timeout and moves it ten seconds on, an earlier one leaves it. -/
def lpDeadline (c : Int) : List LpSnapshot → Int
  | [] => c
  | w :: ws => lpDeadline (if c ≤ w.now then c + 10 else c) ws

/-- After `k` wakeups each at or after the deadline then held, the deadline is `10 * k` seconds
past the first. -/
theorem lpDeadline_timeouts (c : Int) (ws : List LpSnapshot)
    (h : ∀ j (hj : j < ws.length), c + 10 * j ≤ (ws.get ⟨j, hj⟩).now) :
    lpDeadline c ws = c + 10 * ws.length := by
  induction ws generalizing c with
  | nil => simp [lpDeadline]
  | cons w ws ih =>
    have h0 : c ≤ w.now := by simpa using h 0 (by simp)
    have hrest : ∀ j (hj : j < ws.length), c + 10 + 10 * j ≤ (ws.get ⟨j, hj⟩).now := fun j hj => by
      have := h (j + 1) (by simp; omega)
      simp only [List.get_eq_getElem, List.getElem_cons_succ] at this ⊢
      omega
    rw [lpDeadline, if_pos h0, ih (c + 10) hrest, List.length_cons]
    push_cast
    ring

example : lpDeadline 60 [⟨30, 5, true, 7⟩, ⟨60, 5, true, 7⟩, ⟨75, 5, true, 7⟩] = 80 := by decide

section Loop

variable (hashWatchedChain : Uint256) (nTransactionsUpdatedLastLP : BitVec 32)

theorem waitLoop_cons_of_quiet {c : Int} {st w : LpSnapshot} {ws : List LpSnapshot}
    (hb : st.g_best_block = hashWatchedChain) (hr : st.IsRPCRunning = true) :
    waitLoop hashWatchedChain nTransactionsUpdatedLastLP c st (w :: ws) =
      if c ≤ w.now then
        if w.GetTransactionsUpdated ≠ nTransactionsUpdatedLastLP then
          some (.transactionsUpdated, w.now)
        else waitLoop hashWatchedChain nTransactionsUpdatedLastLP (c + 10) w ws
      else waitLoop hashWatchedChain nTransactionsUpdatedLastLP c w ws := by
  rw [waitLoop]
  simp [hb, hr]

theorem waitLoop_cons_quiet {c : Int} {st w : LpSnapshot} {ws : List LpSnapshot}
    (hst : Quiet (hashWatchedChain, nTransactionsUpdatedLastLP) st)
    (hw : w.GetTransactionsUpdated = nTransactionsUpdatedLastLP) :
    waitLoop hashWatchedChain nTransactionsUpdatedLastLP c st (w :: ws) =
      waitLoop hashWatchedChain nTransactionsUpdatedLastLP (if c ≤ w.now then c + 10 else c) w
        ws := by
  rw [waitLoop_cons_of_quiet _ _ hst.1 hst.2.1]
  split_ifs with hc hn
  · exact absurd hw hn
  · rfl
  · rfl

theorem waitLoop_quiet_append (c : Int) (st : LpSnapshot) (ws post : List LpSnapshot)
    (h : ∀ x ∈ st :: ws, Quiet (hashWatchedChain, nTransactionsUpdatedLastLP) x) :
    waitLoop hashWatchedChain nTransactionsUpdatedLastLP c st (ws ++ post) =
      waitLoop hashWatchedChain nTransactionsUpdatedLastLP (lpDeadline c ws)
        ((st :: ws).getLast (List.cons_ne_nil _ _)) post := by
  induction ws generalizing c st with
  | nil => rfl
  | cons w ws ih =>
    rw [List.cons_append,
      waitLoop_cons_quiet _ _ (h st (List.mem_cons_self _ _)) (h w (by simp)).2.2,
      ih _ _ fun x hx => h x (List.mem_cons_of_mem _ hx), lpDeadline, List.getLast_cons_cons]

theorem waitLoop_nil_of_quiet (c : Int) (st : LpSnapshot)
    (hb : st.g_best_block = hashWatchedChain) (hr : st.IsRPCRunning = true) :
    waitLoop hashWatchedChain nTransactionsUpdatedLastLP c st [] = none := by
  simp [waitLoop, hb, hr]

theorem waitLoop_quiet (c : Int) (st : LpSnapshot) (ws : List LpSnapshot)
    (h : ∀ x ∈ st :: ws, Quiet (hashWatchedChain, nTransactionsUpdatedLastLP) x) :
    waitLoop hashWatchedChain nTransactionsUpdatedLastLP c st ws = none := by
  obtain ⟨hb, hr, -⟩ := h _ (List.getLast_mem (List.cons_ne_nil st ws))
  rw [← List.append_nil ws, waitLoop_quiet_append _ _ c st ws [] h]
  exact waitLoop_nil_of_quiet _ _ _ _ hb hr

theorem waitLoop_prompt (c : Int) (st : LpSnapshot) (pre post : List LpSnapshot) (x : LpSnapshot)
    (hpre : ∀ y ∈ st :: pre, Quiet (hashWatchedChain, nTransactionsUpdatedLastLP) y)
    (hx : x.g_best_block ≠ hashWatchedChain ∨ x.IsRPCRunning = false) :
    ∃ reason, waitLoop hashWatchedChain nTransactionsUpdatedLastLP c st (pre ++ x :: post) =
      some (reason, x.now) := by
  obtain ⟨hb, hr, -⟩ := hpre _ (List.getLast_mem (List.cons_ne_nil st pre))
  rw [waitLoop_quiet_append _ _ c st pre (x :: post) hpre, waitLoop_cons_of_quiet _ _ hb hr]
  -- the wakeup that sees the change ends the wait, by the counter or by the condition
  have hend : ∀ c, ∃ reason,
      waitLoop hashWatchedChain nTransactionsUpdatedLastLP c x post = some (reason, x.now) := by
    intro c
    rw [waitLoop.eq_def]
    rcases hx with hx | hx
    · exact ⟨.bestBlockChanged, by simp [hx]⟩
    · by_cases hb' : x.g_best_block = hashWatchedChain
      · exact ⟨.shuttingDown, by simp [hb', hx]⟩
      · exact ⟨.bestBlockChanged, by simp [hb']⟩
  split_ifs
  · exact ⟨_, rfl⟩
  · exact hend _
  · exact hend _

theorem waitLoop_transactionsUpdated_late (c : Int) (st : LpSnapshot) (ws : List LpSnapshot)
    {t : Int}
    (h : waitLoop hashWatchedChain nTransactionsUpdatedLastLP c st ws =
      some (.transactionsUpdated, t)) :
    c ≤ t := by
  induction ws generalizing c st with
  | nil =>
    rw [waitLoop] at h
    split_ifs at h <;> cases h
  | cons w ws ih =>
    rw [waitLoop] at h
    split_ifs at h with hb hr hc hn
    · cases h
    · cases h
    · cases h
      exact hc
    · exact le_trans (by omega) (ih _ _ h)
    · exact ih _ _ h

end Loop

/-- While the best block, the server and the mempool counter stay as the call watches them, the
wait never returns, however many wakeups come. It then holds the deadline `lpDeadline`, a minute
after the wait began plus ten seconds per timeout: a next wakeup that sees a new counter, with the
block and the server unchanged, ends the wait exactly when it comes at or after that deadline. -/
theorem longPollWait_quiet (watched : Uint256 × BitVec 32) (st : LpSnapshot)
    (ws : List LpSnapshot) (h : ∀ x ∈ st :: ws, Quiet watched x) :
    longPollWait watched st ws = none ∧
      ∀ w : LpSnapshot, w.g_best_block = watched.1 → w.IsRPCRunning = true →
        w.GetTransactionsUpdated ≠ watched.2 →
        longPollWait watched st (ws ++ [w]) =
          if lpDeadline (st.now + 60) ws ≤ w.now then some (.transactionsUpdated, w.now)
          else none := by
  refine ⟨waitLoop_quiet watched.1 watched.2 _ st ws h, fun w hb hr hn => ?_⟩
  obtain ⟨hb', hr', -⟩ := h _ (List.getLast_mem (List.cons_ne_nil st ws))
  have hnil : ∀ c, waitLoop watched.1 watched.2 c w [] = none :=
    fun c => waitLoop_nil_of_quiet _ _ c w hb hr
  rw [longPollWait, waitLoop_quiet_append watched.1 watched.2 _ st ws [w] h,
    waitLoop_cons_of_quiet _ _ hb' hr']
  simp only [ne_eq, hn, not_false_eq_true, if_true, hnil]

theorem longPollWait_quiet_threeTimeouts :
    (∀ x ∈ [(⟨0, 5, true, 7⟩ : LpSnapshot), ⟨60, 5, true, 7⟩, ⟨70, 5, true, 7⟩,
        ⟨80, 5, true, 7⟩], Quiet (5, 7) x) ∧
      longPollWait (5, 7) ⟨0, 5, true, 7⟩
        [⟨60, 5, true, 7⟩, ⟨70, 5, true, 7⟩, ⟨80, 5, true, 7⟩] = none ∧
      ∀ w : LpSnapshot, w.g_best_block = (5, 7).1 → w.IsRPCRunning = true →
        w.GetTransactionsUpdated ≠ (5, 7).2 →
        longPollWait (5, 7) ⟨0, 5, true, 7⟩
            ([⟨60, 5, true, 7⟩, ⟨70, 5, true, 7⟩, ⟨80, 5, true, 7⟩] ++ [w]) =
          if lpDeadline ((⟨0, 5, true, 7⟩ : LpSnapshot).now + 60)
              [⟨60, 5, true, 7⟩, ⟨70, 5, true, 7⟩, ⟨80, 5, true, 7⟩] ≤ w.now
          then some (.transactionsUpdated, w.now) else none := by
  have h : ∀ x ∈ [(⟨0, 5, true, 7⟩ : LpSnapshot), ⟨60, 5, true, 7⟩, ⟨70, 5, true, 7⟩,
      ⟨80, 5, true, 7⟩], Quiet (5, 7) x := by
    simp [Quiet]
  exact ⟨h, longPollWait_quiet (5, 7) _ _ h⟩

/-- The call returns at the first wakeup that sees another best block or a stopping server, when
nothing changed before it. -/
theorem longPollWait_prompt (watched : Uint256 × BitVec 32) (st : LpSnapshot)
    (pre post : List LpSnapshot) (x : LpSnapshot) (hpre : ∀ y ∈ st :: pre, Quiet watched y)
    (hx : x.g_best_block ≠ watched.1 ∨ x.IsRPCRunning = false) :
    ∃ reason, longPollWait watched st (pre ++ x :: post) = some (reason, x.now) :=
  waitLoop_prompt watched.1 watched.2 _ st pre post x hpre hx

theorem longPollWait_prompt_newBlock :
    (∀ y ∈ [(⟨0, 5, true, 7⟩ : LpSnapshot), ⟨30, 5, true, 7⟩], Quiet (5, 7) y) ∧
      ((⟨45, 6, true, 7⟩ : LpSnapshot).g_best_block ≠ (5 : Uint256) ∨
        (⟨45, 6, true, 7⟩ : LpSnapshot).IsRPCRunning = false) ∧
      ∃ reason, longPollWait (5, 7) ⟨0, 5, true, 7⟩ ([⟨30, 5, true, 7⟩] ++ [⟨45, 6, true, 7⟩]) =
        some (reason, 45) := by
  have hpre : ∀ y ∈ [(⟨0, 5, true, 7⟩ : LpSnapshot), ⟨30, 5, true, 7⟩], Quiet (5, 7) y := by
    simp [Quiet]
  have hx : (⟨45, 6, true, 7⟩ : LpSnapshot).g_best_block ≠ (5 : Uint256) ∨
      (⟨45, 6, true, 7⟩ : LpSnapshot).IsRPCRunning = false := .inl (by decide)
  exact ⟨hpre, hx, longPollWait_prompt (5, 7) _ [⟨30, 5, true, 7⟩] [] _ hpre hx⟩

/-- A return for new transactions comes at least a minute after the wait began. -/
theorem longPollWait_transactionsUpdated_late (watched : Uint256 × BitVec 32) (st : LpSnapshot)
    (ws : List LpSnapshot) {t : Int}
    (h : longPollWait watched st ws = some (.transactionsUpdated, t)) :
    st.now + 60 ≤ t :=
  waitLoop_transactionsUpdated_late watched.1 watched.2 _ st ws h

theorem longPollWait_transactionsUpdated_late_bump :
    longPollWait (5, 7) ⟨0, 5, true, 7⟩ [⟨30, 5, true, 8⟩, ⟨60, 5, true, 8⟩] =
        some (.transactionsUpdated, 60) ∧ (0 : Int) + 60 ≤ 60 :=
  ⟨rfl, longPollWait_transactionsUpdated_late (5, 7) ⟨0, 5, true, 7⟩
    [⟨30, 5, true, 8⟩, ⟨60, 5, true, 8⟩] rfl⟩

end VelesMining
