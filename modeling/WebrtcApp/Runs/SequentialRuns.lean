import WebrtcApp.Runs.Interleaving

/-!
# Sequential runs as interleaved runs

The handlers of `App.Poll` run from their first step to their last, the `World` takes their steps
one at a time.  Every state that calls reach one after the other is reached by a run of the `World`
(`sequential_simulated`): a handler's steps are taken with nothing in between but the callbacks of
its own session, and a handler that is stuck with `appConfigurationObjLock` is one that waits for
the read lock.

    exec_receive     a message
    exec_poll        an iteration of `pollApp`
    exec_mediaEos, exec_mediaFrame
    Simulated.step   any call
-/

namespace WebrtcApp

/-- The state of the `World` where the calls so far have left `c`. -/
structure Simulated (c : AppConfiguration) (w : World) : Prop where
  app : w.app = { c with blocked := false }
  hook : w.hook = none
  statsAdds : w.statsAdds = []
  idle : c.blocked = false → w.holder = .idle
  stuck : c.blocked = true → w.waits = true ∧ c.readLockHeld = true

section
variable {c : AppConfiguration} {w : World} {env : Env} {p : PStreamingSession}

theorem Simulated.eq (h : Simulated c w) (hb : c.blocked = false) : w = ⟨c, .idle, none, []⟩ := by
  obtain ⟨app, holder, hook, adds⟩ := w
  obtain rfl : hook = none := h.hook
  obtain rfl : adds = [] := h.statsAdds
  obtain rfl : holder = .idle := h.idle hb
  obtain rfl : app = { c with blocked := false } := h.app
  rw [← hb]

/-- Between two calls. -/
theorem Simulated.idle_of_eq (hb : c.blocked = false) : Simulated c ⟨c, .idle, none, []⟩ := by
  refine ⟨?_, rfl, rfl, fun _ => rfl, fun h => ?_⟩
  · rw [← hb]
  · rw [hb] at h
    cases h

/-- A call that returned. -/
theorem Simulated.settled {st : Status} (hb : c.blocked = false) :
    Simulated (settle (some st, c)) ⟨c, .idle, none, []⟩ := Simulated.idle_of_eq hb

/-- A call that waits for the read lock. -/
theorem Simulated.stuck_of_eq {holder : Holder} (hb : c.blocked = false)
    (hl : c.readLockHeld = true) (hwaits : World.waits ⟨c, holder, none, []⟩ = true) :
    Simulated (settle (none, c)) ⟨c, holder, none, []⟩ := by
  refine ⟨?_, rfl, rfl, fun h => ?_, fun _ => ⟨hwaits, hl⟩⟩
  · show c = { c with blocked := false }
    rw [← hb]
  · cases h

/-! ## Messages -/

theorem exec_connectionStateChanges (states : List RtcPeerConnectionState) {holder : Holder}
    (hp : c.sessions.live p = true) :
    Run.exec World.step ⟨c, holder, none, []⟩ (states.map (.connectionStateChange p)) =
      ⟨onConnectionStateChanges p states c, holder, none, []⟩ := by
  induction states generalizing c with
  | nil => rfl
  | cons st states ih =>
    have hstep : World.step ⟨c, holder, none, []⟩ (.connectionStateChange p st) =
        ⟨onConnectionStateChange p st c, holder, none, []⟩ := if_pos hp
    rw [List.map_cons, Run.exec_cons, hstep]
    exact ih (((onConnectionStateChange_kept st hp).live p).trans hp)

/-- The steps of an OFFER from `handleOffer` on are `acceptOffer`. -/
theorem advance_offerListed {c0 : AppConfiguration} (key : UInt64)
    (hc : c = onConnectionStateChanges p env.stateChanges c0) :
    (World.advance ⟨c, .offerListed env key p, none, []⟩).advance.advance.addStats =
      ⟨(acceptOffer env key p c0).2, .idle, none, []⟩ := by
  have hlisted : World.advance ⟨c, .offerListed env key p, none, []⟩ =
      ⟨(handleOffer env p c).2, if (handleOffer env p c).1.failed then .idle
        else .offerAnswered env key p, none, []⟩ := rfl
  rw [hlisted, acceptOffer, ← hc]
  generalize handleOffer env p c = r
  obtain ⟨st, c1⟩ := r
  cases hf : st.failed with
  | true =>
    simp only [hf, if_true]
    rfl
  | false =>
    simp only [hf, Bool.false_eq_true, if_false]
    by_cases hput : env.ok .appHashTablePut = true
    · have hanswered : World.advance ⟨c1, .offerAnswered env key p, none, []⟩ =
          ⟨c1.setEntry key p, .offerEntered env key p, none, []⟩ := if_neg (by simp [hput])
      rw [hanswered, if_neg (by simp [hput])]
      simp only [World.advance]
      generalize drainPending env key p (c1.setEntry key p) = d
      obtain ⟨st, c2⟩ := d
      -- the add that follows the unlock is `startStats`
      cases hd : st.failed <;> cases ht : c2.iceCandidatePairStatsTimerId == maxUInt32 <;>
        simp [World.addStats, startStats, ht]
    · have hanswered : World.advance ⟨c1, .offerAnswered env key p, none, []⟩ =
          ⟨c1, .idle, none, []⟩ := if_pos (by simp [hput])
      rw [hanswered, if_pos (by simp [hput])]
      rfl

/-- A message leaves nobody stuck that it does not report as stuck. -/
theorem blocked_receiveOffer (h : SessionsOk c) (key : UInt64) (m : SignalingMessage) :
    (receiveOffer env key m c).2.blocked = c.blocked := by
  obtain ⟨leaked, ho, -⟩ := h.owned
  rcases receiveOffer_cases env key m ho with
    ⟨-, hr⟩ | ⟨-, hu, -⟩ | ⟨-, -, -, c1, hlist, ⟨-, st, -, hr⟩ | ⟨-, -, hr⟩⟩
  · rw [hr]
  · exact congrArg Tables.blocked hu.tables
  · rw [hr]
    exact congrArg Tables.blocked hlist.tables
  · obtain ⟨s, ms, hd⟩ := @drainPending_eq (c1.setEntry key c.sessions.next) c.sessions.next env key
      ((hlist.owned ho).live List.mem_cons_self)
    have hdrain : (drainPending env key c.sessions.next
        (c1.setEntry key c.sessions.next)).2.blocked = c.blocked := by
      rw [hd]
      exact congrArg Tables.blocked hlist.tables
    rw [hr]
    show (if _ then _ else startStats env _ : AppConfiguration).blocked = _
    split
    · exact hdrain
    · exact (congrArg Tables.blocked (startStats_eq env).2).trans hdrain

theorem blocked_onSignalingMessageReceived (h : SessionsOk c) (env : Env)
    (msg : ReceivedSignalingMessage) :
    (onSignalingMessageReceived env msg c).2.blocked = c.blocked := by
  rcases @onSignalingMessageReceived_cases c env msg with ⟨st, hr⟩ | ⟨-, -, -, hr⟩ | ⟨-, -, hr⟩
  · rw [hr]
  · rw [hr]
    exact blocked_receiveOffer h _ _
  · rw [hr]
    cases he : c.pRemoteRtcPeerConnections (clientIdHashKey msg.signalingMessage.peerClientId) with
    | none =>
      rw [receiveIceCandidate_of_none env _ msg he]
      rfl
    | some p =>
      rw [receiveIceCandidate_of_entry env _ msg he (h.entry_live he)]
      rfl

/-- An OFFER that gets to the creation of its session. -/
theorem exec_receiveOffer (h : SessionsOk c) (hb : c.blocked = false)
    {msg : ReceivedSignalingMessage}
    (hoffer : msg.signalingMessage.messageType = .offer ∧ env.ok .appHashTableContains = true ∧
      c.pRemoteRtcPeerConnections (clientIdHashKey msg.signalingMessage.peerClientId) = none ∧
      c.streamingSessionList.length ≠ appMaxConcurrentStreamingSession) :
    ∃ as, Simulated (settle (onSignalingMessageReceived env msg c))
      (Run.exec World.step ⟨c, .idle, none, []⟩ (.receive env msg :: as)) := by
  have hblocked := (blocked_onSignalingMessageReceived h env msg).trans hb
  have hunnamed := (createStreamingSession_unnamed env msg.signalingMessage.peerClientId h).2.2
  have htables := @tables_createStreamingSession c env msg.signalingMessage.peerClientId
  have hreceive : World.step ⟨c, .idle, none, []⟩ (.receive env msg) = _ := if_pos hoffer
  obtain ⟨hm, hc, hnone, hfree⟩ := hoffer
  rw [onSignalingMessageReceived_offer hm hc hnone, receiveOffer, if_neg hfree] at hblocked ⊢
  simp only [Run.exec_cons, hreceive]
  generalize clientIdHashKey msg.signalingMessage.peerClientId = key at *
  generalize createStreamingSession env msg.signalingMessage.peerClientId c = r at *
  obtain ⟨st, o, c1⟩ := r
  cases o with
  | none => exact ⟨[], Simulated.settled hblocked⟩
  | some p =>
    cases hl : c1.readLockHeld with
    | true =>
      have hb1 : c1.blocked = false := (congrArg Tables.blocked htables).trans hb
      simp only [hl, if_true]
      have hwaits : World.waits ⟨c1, .offerCreated env key p, none, []⟩ = true := by
        simp [World.waits, World.readLockFree, hl]
      exact ⟨[], Simulated.stuck_of_eq hb1 hl hwaits⟩
    | false =>
      simp only [hl, Bool.false_eq_true, if_false] at hblocked ⊢
      have hlock : World.readLockFree ⟨c1, .offerCreated env key p, none, []⟩ = true := by
        simp [World.readLockFree, hl]
      have hlisted : World.advance ⟨c1, .offerCreated env key p, none, []⟩ =
          ⟨listSession env p c1, .offerListed env key p, none, []⟩ := if_pos hlock
      have hlive : (listSession env p c1).sessions.live p = true :=
        (Arena.live_modify ..).trans (hunnamed p rfl).1.live
      refine ⟨.advance :: (env.stateChanges.map (.connectionStateChange p) ++
        [.advance, .advance, .advance, .addStats]), ?_⟩
      rw [Run.exec_cons, Run.exec_append]
      show Simulated _ (Run.exec World.step (Run.exec World.step
        (World.advance ⟨c1, .offerCreated env key p, none, []⟩) _) _)
      rw [hlisted, exec_connectionStateChanges env.stateChanges hlive]
      show Simulated _ (World.advance ⟨_, .offerListed env key p, none, []⟩).advance.advance.addStats
      rw [advance_offerListed key rfl]
      exact Simulated.settled hblocked

/-- A message with nothing in between its steps but the callbacks of its own session. -/
theorem exec_receive (h : SessionsOk c) (hb : c.blocked = false) (env : Env)
    (msg : ReceivedSignalingMessage) :
    ∃ as, Simulated (step c (.message env msg))
      (Run.exec World.step ⟨c, .idle, none, []⟩ (.receive env msg :: as)) := by
  have hseq : step c (.message env msg) = settle (onSignalingMessageReceived env msg c) :=
    if_neg (by rw [hb]; exact Bool.false_ne_true)
  rw [hseq]
  by_cases hoffer : msg.signalingMessage.messageType = .offer ∧
      env.ok .appHashTableContains = true ∧
      c.pRemoteRtcPeerConnections (clientIdHashKey msg.signalingMessage.peerClientId) = none ∧
      c.streamingSessionList.length ≠ appMaxConcurrentStreamingSession
  · exact exec_receiveOffer h hb hoffer
  · have hreceive : World.step ⟨c, .idle, none, []⟩ (.receive env msg) =
        ⟨(onSignalingMessageReceived env msg c).2, .idle, none, []⟩ := if_neg hoffer
    have hret : ∃ st, (onSignalingMessageReceived env msg c).1 = some st := by
      rcases @onSignalingMessageReceived_cases c env msg with
        ⟨st, hr⟩ | ⟨hm, hc, hnone, hr⟩ | ⟨-, -, hr⟩
      · exact ⟨st, congrArg Prod.fst hr⟩
      · have hfull : c.streamingSessionList.length = appMaxConcurrentStreamingSession :=
          not_not.mp fun hfree => hoffer ⟨hm, hc, hnone, hfree⟩
        refine ⟨(getPendingMsgQByHashVal env
          (clientIdHashKey msg.signalingMessage.peerClientId) true
          c.pRemotePeerPendingSignalingMessages).1, ?_⟩
        rw [hr, receiveOffer, if_pos hfull]
      · exact ⟨_, congrArg Prod.fst hr⟩
    have hblocked := (blocked_onSignalingMessageReceived h env msg).trans hb
    obtain ⟨st, hst⟩ := hret
    refine ⟨[], ?_⟩
    rw [Run.exec_cons, hreceive]
    generalize onSignalingMessageReceived env msg c = r at hst hblocked
    obtain ⟨o, c1⟩ := r
    obtain rfl : o = some st := hst
    exact Simulated.settled hblocked

/-! ## Iterations of `pollApp` -/

/-- The state after the scan: the rest of the iteration where it ended, and as it was where it
stopped or is stuck. -/
def afterSweep (env : Env) : Option Status × AppConfiguration → AppConfiguration
  | (some .success, c) => (pollSignaling env c).2
  | r => r.2

theorem exec_advance (w : World) (k : Nat) :
    Run.exec World.step w (List.replicate (k + 1) .advance) =
      Run.exec World.step w.advance (List.replicate k .advance) := rfl

theorem exec_sweepEnd (env : Env) (n : Nat) {i : UInt32}
    (hi : ¬ i.toNat < c.streamingSessionList.length) :
    Run.exec World.step ⟨c, .sweepScan env n i, none, []⟩ (List.replicate 1 .advance) =
      ⟨afterSweep env (some .success, c), .idle, none, []⟩ := by
  rw [exec_advance]
  exact if_neg hi

/-- The steps of a scan, with `left` rounds left for it. -/
theorem exec_sweepScan (env : Env) (left n : Nat) (i : UInt32) (h : SessionsOk c)
    (hlen : c.streamingSessionList.length ≤ i.toNat + left) :
    ∃ k holder, Run.exec World.step ⟨c, .sweepScan env n i, none, []⟩
        (List.replicate k .advance) =
      ⟨afterSweep env (sweepLoop env left n i c), holder, none, []⟩ ∧
      ((sweepLoop env left n i c).1 ≠ none → holder = .idle) ∧
      ((sweepLoop env left n i c).1 = none → World.waits
        ⟨afterSweep env (sweepLoop env left n i c), holder, none, []⟩ = true) := by
  induction left generalizing n i c with
  | zero => exact ⟨1, .idle, exec_sweepEnd env n (by omega), fun _ => rfl,
      fun e => absurd e (Option.some_ne_none _)⟩
  | succ left ih =>
    unfold sweepLoop
    by_cases hi : i.toNat < c.streamingSessionList.length
    swap
    · rw [if_neg hi]
      exact ⟨1, .idle, exec_sweepEnd env n hi, fun _ => rfl,
        fun e => absurd e (Option.some_ne_none _)⟩
    have hsucc : (i + 1).toNat = i.toNat + 1 := h.toNat_succ hi
    obtain ⟨hmem, hlive⟩ := h.getD_live hi
    have hscan : World.advance ⟨c, .sweepScan env n i, none, []⟩ = ⟨c,
        if (c.session (c.streamingSessionList.getD i.toNat 0)).terminateFlag then
          .sweepFound env n i (c.streamingSessionList.getD i.toNat 0)
        else .sweepScan env (n + 1) (i + 1), none, []⟩ := by
      refine (if_pos hi).trans ?_
      simp only [touchSession_of_live hlive]
    simp only [hi, if_true, touchSession_of_live hlive]
    generalize hget : c.streamingSessionList.getD i.toNat 0 = p at hscan hmem hlive
    by_cases hflag : (c.session p).terminateFlag = true
    swap
    · obtain ⟨k, holder, hk, hholder⟩ := ih (n + 1) (i + 1) h (by omega)
      refine ⟨k + 1, holder, ?_, ?_⟩
      · rw [if_neg hflag] at hscan ⊢
        rw [exec_advance, hscan, hk]
      · rw [if_neg hflag]
        exact hholder
    rw [if_pos hflag] at hscan ⊢
    cases hl : c.readLockHeld with
    | true =>
      -- the scan waits for the lock it finds held
      refine ⟨1, .sweepFound env n i p, ?_, fun hne => absurd rfl hne, fun _ => ?_⟩
      · rw [exec_advance, hscan]
        rfl
      · show World.waits ⟨c, .sweepFound env n i p, none, []⟩ = true
        simp [World.waits, World.readLockFree, hl]
    | false =>
    have hlock : World.readLockFree ⟨c, .sweepFound env n i p, none, []⟩ = true := by
      simp [World.readLockFree, hl]
    have hfound : World.advance ⟨c, .sweepFound env n i p, none, []⟩ =
        ⟨{ c with streamingSessionList := swapWithLast i.toNat c.streamingSessionList },
          .sweepUnlinked env n i p, none, []⟩ := if_pos hlock
    have hremove : World.advance ⟨{ c with
        streamingSessionList := swapWithLast i.toNat c.streamingSessionList },
          .sweepUnlinked env n i p, none, []⟩ =
        ⟨(sweepUnlink env n i.toNat p c).2,
          if (sweepUnlink env n i.toNat p c).1.failed then .idle else .sweepRemoved env n i p,
          none, []⟩ := rfl
    have hcases := sweepUnlink_cases env n hi hget hlive (h.app _ hmem) hflag
    simp only [Bool.false_eq_true, if_false]
    generalize sweepUnlink env n i.toNat p c = r at hremove hcases
    obtain ⟨st, c1⟩ := r
    rcases hcases with ⟨hst, hlist, hu⟩ | ⟨hst, -⟩
    swap
    · have hf : st.failed = true := Status.failed_eq_true.mpr hst
      refine ⟨3, .idle, ?_, ?_⟩
      · rw [exec_advance, exec_advance, exec_advance, hscan, hfound, hremove]
        simp only [hf, if_true]
        cases st <;> first | exact absurd rfl hst | rfl
      · simp only [hf, if_true]
        exact ⟨fun _ => trivial, fun e => absurd e (Option.some_ne_none st)⟩
    have hf : st.failed = false := Status.failed_eq_false.mpr hst
    have hlen' : (freeStreamingSession p c1).2.streamingSessionList.length + 1 =
        c.streamingSessionList.length := hu.list.length_eq
    have hlist' : (freeStreamingSession p c1).2.streamingSessionList = c1.streamingSessionList :=
      congrArg Tables.streamingSessionList tables_freeStreamingSession
    simp only [hf, Bool.false_eq_true, if_false]
    have hroom : (freeStreamingSession p c1).2.streamingSessionList.length ≤
        ((if c1.streamingSessionList.length > 0 then i - 1 else i) + 1).toNat + left := by
      split
      · rw [sub_add_cancel]
        omega
      · next hnil =>
        rw [hlist', Nat.eq_zero_of_not_pos hnil]
        exact Nat.zero_le _
    obtain ⟨k, holder, hk, hholder⟩ := ih (n + 1) _ (h.of_unlinked hu) hroom
    refine ⟨k + 4, holder, ?_, hholder⟩
    rw [exec_advance, exec_advance, exec_advance, exec_advance, hscan, hfound, hremove]
    simp only [hf, Bool.false_eq_true, if_false]
    exact hk

/-- An iteration of `pollApp` with nothing in between its steps. -/
theorem exec_poll (h : SessionsOk c) (hb : c.blocked = false) (env : Env) :
    ∃ k, Simulated (step c (.poll env))
      (Run.exec World.step ⟨c, .idle, none, []⟩ (.poll env :: List.replicate k .advance)) := by
  obtain ⟨k, holder, hk, hdone, hstuck⟩ :=
    exec_sweepScan env c.streamingSessionList.length 0 0 h (Nat.le_add_left ..)
  have hexec : Run.exec World.step ⟨c, .idle, none, []⟩ (.poll env :: List.replicate k .advance) =
      ⟨afterSweep env (sweep env c), holder, none, []⟩ := hk
  have hseq : step c (.poll env) = settle (pollApp env c) :=
    if_neg (by rw [hb]; exact Bool.false_ne_true)
  refine ⟨k, ?_⟩
  rw [hseq, hexec]
  obtain ⟨c1, hsw, hr⟩ := sweepLoop_cases env c.streamingSessionList.length 0 0 h
  have hb1 : c1.blocked = false :=
    (hsw.invariant (I := fun c => c.blocked = false) (fun _ hi hu => hu.blocked.trans hi) h hb).2
  rcases hr with hr | ⟨hheld, hr⟩ | ⟨p, st, hst, hr, hdropped⟩
  · obtain rfl : holder = .idle := hdone (by rw [hr]; exact Option.some_ne_none _)
    have hafter : afterSweep env (sweep env c) = (pollSignaling env c1).2 := by rw [sweep, hr]; rfl
    have hb2 : (pollSignaling env c1).2.blocked = false :=
      (congrArg Tables.blocked (pollSignaling_eq env).2.1).trans hb1
    rw [pollApp_of_success hr, hafter]
    exact Simulated.settled hb2
  · have hwaits : World.waits ⟨afterSweep env (sweep env c), holder, none, []⟩ = true :=
      hstuck (congrArg Prod.fst hr)
    have hstop : (sweep env c).1 ≠ some .success := by
      rw [show (sweep env c).1 = none from congrArg Prod.fst hr]
      exact (Option.some_ne_none _).symm
    have hafter : afterSweep env (sweep env c) = c1 := by rw [sweep, hr]; rfl
    rw [hafter] at hwaits
    rw [pollApp_of_stopped hstop, hafter, sweep, hr]
    exact Simulated.stuck_of_eq hb1 hheld hwaits
  · obtain rfl : holder = .idle := hdone (by rw [hr]; exact Option.some_ne_none _)
    have hstop : (sweep env c).1 ≠ some .success := by
      rw [show (sweep env c).1 = some st from hr]
      exact fun e => hst (Option.some.inj e)
    have hb2 : (sweep env c).2.blocked = false := hdropped.blocked.trans hb1
    rw [pollApp_of_stopped hstop]
    rcases hres : sweep env c with ⟨o, c2⟩
    rw [hres] at hb2
    obtain rfl : o = some st := (congrArg Prod.fst hres).symm.trans hr
    have hafter : afterSweep env (some st, c2) = c2 := by
      cases st <;> first | exact absurd rfl hst | rfl
    rw [hafter]
    exact Simulated.settled hb2

/-! ## The hooks -/

theorem exec_mediaEos (c : AppConfiguration) :
    ∃ k, Run.exec World.step ⟨c, .idle, none, []⟩ (.mediaEos :: List.replicate k .advance) =
      ⟨onMediaEosHook c, .idle, none, []⟩ := by
  have hround : ∀ (c : AppConfiguration) i (hi : i < c.streamingSessionList.length),
      World.step ⟨c, .eosHook i, none, []⟩ .advance =
        ⟨terminateSession c.streamingSessionList[i] c, .eosHook (i + 1), none, []⟩ := by
    intro c i hi
    refine (if_pos hi).trans ?_
    rw [List.getD_eq_getElem _ 0 hi]
  have hend : ∀ (c : AppConfiguration) i, c.streamingSessionList.length ≤ i →
      World.step ⟨c, .eosHook i, none, []⟩ .advance = ⟨c, .idle, none, []⟩ :=
    fun c i hi => if_neg (Nat.not_lt.mpr hi)
  refine ⟨c.streamingSessionList.length + 1, ?_⟩
  rw [Run.exec_cons]
  exact Run.exec_forEach (f := fun c p => terminateSession p c) (fun _ _ => rfl) hround hend c

theorem exec_mediaFrame (hl : c.readLockHeld = false) (frame : Frame) :
    ∃ k, Run.exec World.step ⟨c, .idle, none, []⟩
        (.mediaFrame frame :: List.replicate k .advanceHook) =
      ⟨onMediaSinkHook frame c, .idle, none, []⟩ := by
  have hlist : ∀ (c : AppConfiguration) p,
      (sinkFrame frame p c).streamingSessionList = c.streamingSessionList := by
    intro c p
    unfold sinkFrame
    simp only
    split <;> rfl
  have hround : ∀ (c : AppConfiguration) i (hi : i < c.streamingSessionList.length),
      World.step ⟨c, .idle, some (frame, i), []⟩ .advanceHook =
        ⟨sinkFrame frame c.streamingSessionList[i] c, .idle, some (frame, i + 1), []⟩ := by
    intro c i hi
    refine (if_pos hi).trans ?_
    rw [List.getD_eq_getElem _ 0 hi]
  have hend : ∀ (c : AppConfiguration) i, c.streamingSessionList.length ≤ i →
      World.step ⟨c, .idle, some (frame, i), []⟩ .advanceHook = ⟨c, .idle, none, []⟩ :=
    fun c i hi => if_neg (Nat.not_lt.mpr hi)
  have hlock : World.readLockFree ⟨c, .idle, none, []⟩ = true := by
    simp [World.readLockFree, hl]
  have hstart : World.step ⟨c, .idle, none, []⟩ (.mediaFrame frame) =
      ⟨c, .idle, some (frame, 0), []⟩ := if_pos hlock
  refine ⟨c.streamingSessionList.length + 1, ?_⟩
  rw [Run.exec_cons, hstart]
  exact Run.exec_forEach (f := fun c p => sinkFrame frame p c) hlist hround hend c

/-! ## Any call -/

/-- A callback that the calls before it do not keep from running. -/
theorem Simulated.callback {c' : AppConfiguration} {a : Action} (h : Simulated c w)
    (hstep : w.step a = { w with app := { c' with blocked := false } })
    (hblocked : c'.blocked = c.blocked) (hheld : c'.readLockHeld = c.readLockHeld) :
    Simulated c' (w.step a) := by
  have happ : ({ c' with blocked := false } : AppConfiguration).readLockHeld =
      w.app.readLockHeld := by
    rw [h.app]
    exact hheld
  have hwaits : World.waits { w with app := { c' with blocked := false } } = w.waits := by
    unfold World.waits World.readLockFree
    rw [happ]
  rw [hstep]
  refine ⟨rfl, h.hook, h.statsAdds, fun hb => h.idle (hblocked ▸ hb), fun hb => ?_⟩
  rw [hblocked] at hb
  obtain ⟨hstuck, hlock⟩ := h.stuck hb
  exact ⟨hwaits.trans hstuck, hheld.trans hlock⟩

theorem Simulated.of_returned (hb : c.blocked = false) {r : World}
    (h : r = ⟨c, .idle, none, []⟩) : Simulated c r := h ▸ Simulated.idle_of_eq hb

theorem onConnectionStateChange_setBlocked (newState : RtcPeerConnectionState)
    (c : AppConfiguration) (b : Bool) :
    onConnectionStateChange p newState { c with blocked := b } =
      { onConnectionStateChange p newState c with blocked := b } := by
  cases newState <;> rfl

/-- A call is a run from the state that the calls before it left. -/
theorem Simulated.step (h : Simulated c w) (ho : SessionsOk c) (e : Event) :
    ∃ as, Simulated (step c e) (Run.exec World.step w as) := by
  have hsame : ∃ as, Simulated c (Run.exec World.step w as) := ⟨[], h⟩
  have hlisted : ∀ p ∈ c.streamingSessionList, c.sessions.live p = true :=
    fun p hp => ho.listed_live hp
  cases e with
  | message env msg =>
    cases hb : c.blocked with
    | true => rwa [show WebrtcApp.step c (.message env msg) = c from if_pos hb]
    | false =>
      rw [h.eq hb]
      obtain ⟨as, has⟩ := exec_receive ho hb env msg
      exact ⟨.receive env msg :: as, has⟩
  | poll env =>
    cases hb : c.blocked with
    | true => rwa [show WebrtcApp.step c (.poll env) = c from if_pos hb]
    | false =>
      rw [h.eq hb]
      obtain ⟨k, hk⟩ := exec_poll ho hb env
      exact ⟨.poll env :: List.replicate k .advance, hk⟩
  | connectionStateChange p st =>
    by_cases hp : c.sessions.live p = true
    · have hk := onConnectionStateChange_kept st hp
      have hseq : WebrtcApp.step c (.connectionStateChange p st) =
          onConnectionStateChange p st c := if_pos hp
      have hlive : w.app.sessions.live p = true := by rw [h.app]; exact hp
      have hstep : w.step (.connectionStateChange p st) =
          { w with app := { onConnectionStateChange p st c with blocked := false } } := by
        rw [← onConnectionStateChange_setBlocked, ← h.app]
        exact if_pos hlive
      rw [hseq]
      exact ⟨[.connectionStateChange p st], h.callback hstep
        (congrArg Tables.blocked hk.tables) (congrArg Tables.readLockHeld hk.tables)⟩
    · rwa [show WebrtcApp.step c (.connectionStateChange p st) = c from if_neg hp]
  | mediaEos =>
    cases hb : c.blocked with
    | true => rwa [show WebrtcApp.step c .mediaEos = c from if_pos hb]
    | false =>
      have hseq : WebrtcApp.step c .mediaEos = onMediaEosHook c :=
        if_neg (by rw [hb]; exact Bool.false_ne_true)
      have hb' : (onMediaEosHook c).blocked = false :=
        (congrArg Tables.blocked (onMediaEosHook_kept hlisted).tables).trans hb
      rw [h.eq hb, hseq]
      obtain ⟨k, hk⟩ := exec_mediaEos c
      exact ⟨.mediaEos :: List.replicate k .advance, Simulated.of_returned hb' hk⟩
  | mediaFrame frame =>
    cases hl : c.readLockHeld with
    | true => rwa [show WebrtcApp.step c (.mediaFrame frame) = c from if_pos hl]
    | false =>
      have hb : c.blocked = false := by
        by_contra hne
        exact absurd (hl.symm.trans (h.stuck (Bool.not_eq_false _ ▸ hne)).2) (by decide)
      have hseq : WebrtcApp.step c (.mediaFrame frame) = onMediaSinkHook frame c :=
        if_neg (by rw [hl]; exact Bool.false_ne_true)
      have hb' : (onMediaSinkHook frame c).blocked = false :=
        (congrArg Tables.blocked (onMediaSinkHook_kept frame hlisted).tables).trans hb
      rw [h.eq hb, hseq]
      obtain ⟨k, hk⟩ := exec_mediaFrame hl frame
      exact ⟨.mediaFrame frame :: List.replicate k .advanceHook, Simulated.of_returned hb' hk⟩
  | mediaSenderDone =>
    have hstep : w.step .mediaSenderDone = { w with app :=
        { WebrtcApp.step c .mediaSenderDone with blocked := false } } := by
      show ({ w with app := { w.app with mediaThreadStarted := false } } : World) = _
      rw [h.app]
      rfl
    exact ⟨[.mediaSenderDone], h.callback hstep rfl rfl⟩
  | restartRequested =>
    have hstep : w.step .restartRequested = { w with app :=
        { WebrtcApp.step c .restartRequested with blocked := false } } := by
      show ({ w with app := { w.app with restartSignalingClient := true } } : World) = _
      rw [h.app]
      rfl
    exact ⟨[.restartRequested], h.callback hstep rfl rfl⟩
  | pregenerateCert env =>
    cases hb : c.blocked with
    | true => rwa [show WebrtcApp.step c (.pregenerateCert env) = c from if_pos hb]
    | false =>
      have hseq : WebrtcApp.step c (.pregenerateCert env) =
          { c with appCredential := (generateCertRoutine env c.appCredential).2 } :=
        if_neg (by rw [hb]; exact Bool.false_ne_true)
      have hb' : ({ c with appCredential := (generateCertRoutine env c.appCredential).2 } :
          AppConfiguration).blocked = false := hb
      rw [h.eq hb, hseq]
      exact ⟨[.pregenerateCert env], Simulated.of_returned hb' rfl⟩

/-- Every run of calls one after the other is a run of the interleaved system: it reaches the same
state of the application, with no handler under way unless the last call that took the lock is
stuck with it: then its handler waits for the read lock. -/
theorem sequential_simulated (latched : Bool) (es : List Event) :
    ∃ as, Simulated (Run.exec WebrtcApp.step (AppConfiguration.initApp latched) es)
      (Run.exec World.step (World.start latched) as) := by
  induction es using List.reverseRecOn with
  | nil => exact ⟨[], Simulated.idle_of_eq rfl⟩
  | append_singleton es e ih =>
    obtain ⟨as, has⟩ := ih
    have ho : SessionsOk (Run.exec WebrtcApp.step (AppConfiguration.initApp latched) es) :=
      sessionsOk_of_reachable ⟨es, rfl⟩
    obtain ⟨bs, hbs⟩ := has.step ho e
    refine ⟨as ++ bs, ?_⟩
    rw [Run.exec_append, Run.exec_append]
    exact hbs

end

end WebrtcApp
