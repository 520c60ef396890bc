import WebrtcApp.Runs.Interleaving

/-!
# The flag the media sender waits for

`mediaSenderRoutine` waits for `peerConnectionConnected`, one flag for all the sessions.  The
callbacks of every session write it, so it says whether the last report of any session was
`RTC_PEER_CONNECTION_STATE_CONNECTED` (`flag_eq_lastReport`).  It says that some session is
connected after every report of a run exactly where no report is made over the head of another
session (`flag_agrees_iff`).
-/

namespace WebrtcApp

/-- `reported p` is what `p` reported last, and `lastReport` what any session did. -/
structure ConnectionWorld where
  world : World
  reported : PStreamingSession → Option RtcPeerConnectionState
  lastReport : Option RtcPeerConnectionState

namespace ConnectionWorld

def start (latched : Bool) : ConnectionWorld := ⟨World.start latched, fun _ => none, none⟩

abbrev app (s : ConnectionWorld) : AppConfiguration := s.world.app

/-- The callback of `p` gets past its `CHK`. -/
def reports (s : ConnectionWorld) (p : PStreamingSession) : Bool :=
  s.app.sessions.live p && (s.app.session p).pAppConfiguration

def step (s : ConnectionWorld) : Action → ConnectionWorld
  | .connectionStateChange p newState =>
    if s.reports p then
      ⟨s.world.step (.connectionStateChange p newState),
        Function.update s.reported p (some newState), some newState⟩
    else s
  | a => { s with world := s.world.step a }

/-- `q` is listed, not terminated, and `CONNECTED` is what it reported last. -/
def Connected (s : ConnectionWorld) (q : PStreamingSession) : Prop :=
  (s.app.session q).terminateFlag = false ∧ s.reported q = some .connected

instance (s : ConnectionWorld) (q : PStreamingSession) : Decidable (s.Connected q) :=
  inferInstanceAs (Decidable (_ ∧ _))

/-- The flag says that some listed session is connected. -/
def FlagAgrees (s : ConnectionWorld) : Prop :=
  s.app.peerConnectionConnected = true ↔ ∃ q ∈ s.app.streamingSessionList, s.Connected q

instance (s : ConnectionWorld) : Decidable s.FlagAgrees := inferInstanceAs (Decidable (_ ↔ _))

/-- The flag agrees after a callback. -/
def FlagAgreesAfter (s : ConnectionWorld) : Action → Prop
  | .connectionStateChange p newState =>
    s.reports p = true → (s.step (.connectionStateChange p newState)).FlagAgrees
  | _ => True

instance (s : ConnectionWorld) : ∀ a, Decidable (s.FlagAgreesAfter a)
  | .connectionStateChange _ _ => inferInstanceAs (Decidable (_ → _))
  | .receive .. | .poll _ | .mediaEos | .advance | .addStats | .mediaFrame _ | .advanceHook
  | .mediaSenderDone | .restartRequested | .pregenerateCert _ => isTrue trivial

/-- A listed session other than `p` is connected. -/
def OtherConnected (s : ConnectionWorld) (p : PStreamingSession) : Prop :=
  ∃ q ∈ s.app.streamingSessionList, q ≠ p ∧ s.Connected q

/-- A session that reports `CONNECTED` is listed and not terminated, or another one is connected,
and with any other report no other one is. -/
def ReportAgrees (s : ConnectionWorld) : Action → Prop
  | .connectionStateChange p newState =>
    s.reports p = true →
      if newState = .connected then
        (p ∈ s.app.streamingSessionList ∧ (s.app.session p).terminateFlag = false) ∨ s.OtherConnected p
      else ¬ s.OtherConnected p
  | _ => True

/-! ## One report -/

section
variable {s : ConnectionWorld} {p q : PStreamingSession} {newState : RtcPeerConnectionState}

theorem reports_live (h : s.reports p = true) : s.app.sessions.live p = true :=
  ((Bool.and_eq_true _ _).mp h).1

theorem step_of_reports (h : s.reports p = true) :
    s.step (.connectionStateChange p newState) =
      ⟨{ s.world with app := onConnectionStateChange p newState s.app },
        Function.update s.reported p (some newState), some newState⟩ := by
  unfold step
  simp only
  rw [if_pos h]
  unfold World.step
  simp only
  rw [if_pos (reports_live h)]

theorem list_report (h : s.reports p = true) :
    (s.step (.connectionStateChange p newState)).app.streamingSessionList =
      s.app.streamingSessionList := by
  rw [step_of_reports h]
  exact (onConnectionStateChange_kept newState (reports_live h)).list

theorem peerConnectionConnected_report (h : s.reports p = true) :
    (s.step (.connectionStateChange p newState)).app.peerConnectionConnected =
      decide (newState = .connected) := by
  rw [step_of_reports h]
  cases newState <;> rfl

/-- Of the other sessions a report changes nothing. -/
theorem connected_report_of_ne (h : s.reports p = true) (hq : q ≠ p) :
    (s.step (.connectionStateChange p newState)).Connected q ↔ s.Connected q := by
  have hflag := (onConnectionStateChange_kept newState (reports_live h)).flag q hq
  rw [step_of_reports h]
  unfold Connected
  simp only [Function.update_of_ne hq]
  rw [hflag]

/-- The session that reports is connected if that is what it reports and it was not terminated. -/
theorem connected_report_self (h : s.reports p = true) :
    (s.step (.connectionStateChange p newState)).Connected p ↔
      newState = .connected ∧ (s.app.session p).terminateFlag = false := by
  rw [step_of_reports h]
  unfold Connected
  simp only [Function.update_self, Option.some.injEq]
  constructor
  · rintro ⟨hflag, rfl⟩
    simp only [onConnectionStateChange, touchSession_of_live (reports_live h)] at hflag
    exact ⟨rfl, hflag⟩
  · rintro ⟨rfl, hflag⟩
    simp only [onConnectionStateChange, touchSession_of_live (reports_live h)]
    exact ⟨hflag, trivial⟩

theorem exists_connected_report (h : s.reports p = true) :
    (∃ q ∈ (s.step (.connectionStateChange p newState)).app.streamingSessionList,
        (s.step (.connectionStateChange p newState)).Connected q) ↔
      (newState = .connected ∧ p ∈ s.app.streamingSessionList ∧
          (s.app.session p).terminateFlag = false) ∨ s.OtherConnected p := by
  rw [list_report h]
  constructor
  · rintro ⟨q, hq, hc⟩
    by_cases hqp : q = p
    · subst hqp
      obtain ⟨hst, hflag⟩ := (connected_report_self h).mp hc
      exact Or.inl ⟨hst, hq, hflag⟩
    · exact Or.inr ⟨q, hq, hqp, (connected_report_of_ne h hqp).mp hc⟩
  · rintro (⟨hst, hp, hflag⟩ | ⟨q, hq, hqp, hc⟩)
    · exact ⟨p, hp, (connected_report_self h).mpr ⟨hst, hflag⟩⟩
    · exact ⟨q, hq, (connected_report_of_ne h hqp).mpr hc⟩

theorem flagAgreesAfter_iff (a : Action) : s.FlagAgreesAfter a ↔ s.ReportAgrees a := by
  cases a
  case connectionStateChange p newState =>
    refine imp_congr_right fun h => ?_
    unfold FlagAgrees
    rw [peerConnectionConnected_report h, exists_connected_report h, decide_eq_true_iff]
    by_cases hst : newState = .connected
    · rw [if_pos hst]
      simp only [hst, true_and, true_iff]
    · rw [if_neg hst]
      simp only [hst, false_and, false_or, false_iff]
  all_goals exact Iff.rfl

end

end ConnectionWorld

/-! ## Nobody else writes the flag -/

section
variable {c : AppConfiguration} {p : PStreamingSession}

theorem connectedFlag_freeStreamingSession :
    (freeStreamingSession p c).2.peerConnectionConnected = c.peerConnectionConnected := by
  have hcancel : ∀ c : AppConfiguration,
      (cancelStatsTimer c).peerConnectionConnected = c.peerConnectionConnected := by
    intro c
    unfold cancelStatsTimer
    split <;> rfl
  unfold freeStreamingSession
  simp only
  split
  · rfl
  · exact hcancel _

theorem connectedFlag_createStreamingSession (env : Env) (peerId : ClientId) :
    (createStreamingSession env peerId c).2.2.peerConnectionConnected = c.peerConnectionConnected := by
  have hinit : ∀ c : AppConfiguration,
      (initializePeerConnection env c).2.2.peerConnectionConnected = c.peerConnectionConnected := by
    intro c
    unfold initializePeerConnection
    simp only
    split_ifs <;> rfl
  have hset : ∀ (p : PStreamingSession) (c : AppConfiguration),
      (setUpStreamingSession env peerId p c).2.peerConnectionConnected = c.peerConnectionConnected := by
    intro p c
    unfold setUpStreamingSession
    simp only
    split
    · rfl
    · exact hinit _
  unfold createStreamingSession
  simp only
  split
  · rfl
  · split
    · exact connectedFlag_freeStreamingSession.trans (hset _ _)
    · exact hset _ _

theorem connectedFlag_handleOffer (env : Env) :
    (handleOffer env p c).2.peerConnectionConnected = c.peerConnectionConnected := by
  have hanswer : ∀ c : AppConfiguration, (respondWithAnswer env p c).2.peerConnectionConnected =
      c.peerConnectionConnected := by
    intro c
    unfold respondWithAnswer
    split <;> rfl
  unfold handleOffer
  simp only
  split_ifs <;> first | rfl | exact hanswer _

theorem connectedFlag_drainPending (env : Env) (key : UInt64) :
    (drainPending env key p c).2.peerConnectionConnected = c.peerConnectionConnected := by
  unfold drainPending
  simp only
  split <;> rfl

theorem connectedFlag_sweepRemove (env : Env) (n : Nat) :
    (sweepRemove env n p c).2.peerConnectionConnected = c.peerConnectionConnected := by
  unfold sweepRemove
  simp only
  split_ifs <;> rfl

theorem connectedFlag_pollSignaling (env : Env) :
    (pollSignaling env c).2.peerConnectionConnected = c.peerConnectionConnected := by
  unfold pollSignaling
  simp only
  split_ifs <;> rfl

theorem connectedFlag_sinkFrame (frame : Frame) :
    (sinkFrame frame p c).peerConnectionConnected = c.peerConnectionConnected := by
  unfold sinkFrame
  simp only
  split <;> rfl

variable {w : World}

theorem World.connectedFlag_receive (env : Env) (msg : ReceivedSignalingMessage) :
    (w.receive env msg).app.peerConnectionConnected = w.app.peerConnectionConnected := by
  refine World.receive_elim
    (P := fun c => c.peerConnectionConnected = w.app.peerConnectionConnected) ?_ fun hno => ?_
  · exact connectedFlag_createStreamingSession env msg.signalingMessage.peerClientId
  · rcases @onSignalingMessageReceived_cases w.app env msg with
      ⟨st, hr⟩ | ⟨hm, hc, hnone, hr⟩ | ⟨-, -, hr⟩
    · rw [hr]
    · have hlen : w.app.streamingSessionList.length = appMaxConcurrentStreamingSession :=
        not_not.mp fun hfree => hno ⟨hm, hc, hnone, hfree⟩
      rw [hr, receiveOffer, if_pos hlen]
    · rw [hr]
      unfold receiveIceCandidate
      split <;> rfl

theorem World.connectedFlag_advance :
    w.advance.app.peerConnectionConnected = w.app.peerConnectionConnected := by
  obtain ⟨c, holder, hook, adds⟩ := w
  cases holder with
  | idle => rfl
  | offerCreated env key p =>
    simp only [World.advance]
    split <;> rfl
  | offerListed env key p => exact connectedFlag_handleOffer env
  | offerAnswered env key p =>
    simp only [World.advance]
    split <;> rfl
  | offerEntered env key p => exact connectedFlag_drainPending env key
  | sweepScan env n i =>
    simp only [World.advance]
    split
    · rfl
    · exact connectedFlag_pollSignaling env
  | sweepFound env n i p =>
    simp only [World.advance]
    split <;> rfl
  | sweepUnlinked env n i p => exact connectedFlag_sweepRemove env n
  | sweepRemoved env n i p => exact connectedFlag_freeStreamingSession
  | eosHook i =>
    simp only [World.advance]
    split <;> rfl

theorem World.connectedFlag_step {a : Action} (ha : ∀ p st, a ≠ .connectionStateChange p st) :
    (w.step a).app.peerConnectionConnected = w.app.peerConnectionConnected := by
  have hwhen : ∀ w' : World, w'.app.peerConnectionConnected = w.app.peerConnectionConnected →
      (w.whenIdle w').app.peerConnectionConnected = w.app.peerConnectionConnected := fun w' hw =>
    World.whenIdle_elim (P := fun x => x.app.peerConnectionConnected = w.app.peerConnectionConnected)
      rfl fun _ => hw
  cases a with
  | receive env msg => exact hwhen _ (World.connectedFlag_receive env msg)
  | poll env => exact hwhen _ rfl
  | mediaEos => exact hwhen _ rfl
  | advance => exact World.connectedFlag_advance
  | addStats =>
    obtain ⟨id, happ⟩ := w.app_addStats
    show w.addStats.app.peerConnectionConnected = _
    rw [happ]
  | mediaFrame frame =>
    show (if w.readLockFree then _ else w).app.peerConnectionConnected = _
    split <;> rfl
  | advanceHook =>
    show w.advanceHook.app.peerConnectionConnected = _
    unfold World.advanceHook
    split
    · rfl
    · split
      · exact connectedFlag_sinkFrame _
      · rfl
  | connectionStateChange p st => exact absurd rfl (ha p st)
  | mediaSenderDone => rfl
  | restartRequested => rfl
  | pregenerateCert env => exact hwhen _ rfl

end

namespace ConnectionWorld

theorem flag_step (s : ConnectionWorld) (a : Action)
    (h : s.app.peerConnectionConnected = true ↔ s.lastReport = some .connected) :
    (s.step a).app.peerConnectionConnected = true ↔ (s.step a).lastReport = some .connected := by
  cases a
  case connectionStateChange p newState =>
    by_cases hr : s.reports p = true
    · rw [peerConnectionConnected_report hr, step_of_reports hr, decide_eq_true_iff]
      exact (Option.some.injEq ..).symm ▸ Iff.rfl
    · rwa [show s.step (.connectionStateChange p newState) = s from if_neg hr]
  all_goals
    refine Iff.trans ?_ h
    exact Eq.to_iff (congrArg (· = true) (World.connectedFlag_step fun _ _ => Action.noConfusion))

/-- In every run the flag is the last report of any session. -/
theorem flag_eq_lastReport (latched : Bool) (as : List Action) :
    let s := Run.exec step (start latched) as
    s.app.peerConnectionConnected = true ↔ s.lastReport = some .connected :=
  Run.Reachable.invariant (I := fun s : ConnectionWorld => s.app.peerConnectionConnected = true ↔
      s.lastReport = some .connected)
    (iff_of_false Bool.false_ne_true (Option.some_ne_none _).symm) (fun s a h => s.flag_step a h) ⟨as, rfl⟩

end ConnectionWorld

/-- In a run the flag agrees after every callback exactly where every report agrees. -/
theorem flag_agrees_iff (latched : Bool) (as : List Action) :
    Run.Along ConnectionWorld.step ConnectionWorld.FlagAgreesAfter (ConnectionWorld.start latched) as ↔
      Run.Along ConnectionWorld.step ConnectionWorld.ReportAgrees (ConnectionWorld.start latched) as :=
  ⟨fun h => h.mono fun _ a => (ConnectionWorld.flagAgreesAfter_iff a).mp,
    fun h => h.mono fun _ a => (ConnectionWorld.flagAgreesAfter_iff a).mpr⟩

/-- The OFFER of `d`, up to its end. -/
def offerSteps (d : ClientId) : List Action :=
  [.receive Env.allOk (offerOf d), .advance, .advance, .advance, .advance, .addStats]

/-- `A` and `B` connect, and `B` closes: `A` is connected, and the flag is down. -/
theorem flag_disagrees : ¬ ∀ (latched : Bool) (as : List Action),
    Run.Along ConnectionWorld.step ConnectionWorld.FlagAgreesAfter (ConnectionWorld.start latched) as := by
  intro h
  exact absurd (h true (offerSteps clientA ++ offerSteps clientB ++
    [.connectionStateChange 0 .connected, .connectionStateChange 1 .connected,
      .connectionStateChange 1 .closed])) (by decide +kernel)

end WebrtcApp
