import WebrtcApp.Runs.Interleaving
import WebrtcApp.Runs.Sweep

/-!
# What a step does to the sessions

Of the steps of the handlers, the hooks and the callbacks, the handler of a message creates a
session and may latch the codecs on the way, and the sweep frees the session it took out of the
list.  The others leave both as they are (`World.sessions_step`).
-/

namespace WebrtcApp

/-! ## The functions -/

/-- No session is created or freed, and no codec latched. -/
structure SessionsKept (c c' : AppConfiguration) : Prop where
  next : c'.sessions.next = c.sessions.next
  owned : ∀ {ps}, c.sessions.Owned ps → c'.sessions.Owned ps
  latched : c'.media.codecConfigLatched = c.media.codecConfigLatched

section
variable {c : AppConfiguration} {p : PStreamingSession} {w : World}

theorem SessionsKept.of_kept {P : PStreamingSession → Prop} {c' : AppConfiguration}
    (h : Kept P c c') (hm : c'.media = c.media) : SessionsKept c c' :=
  ⟨h.next, h.owned, by rw [hm]⟩

theorem SessionsKept.of_same {c' : AppConfiguration} (hs : c'.sessions = c.sessions)
    (hl : c'.media.codecConfigLatched = c.media.codecConfigLatched) : SessionsKept c c' :=
  ⟨congrArg Arena.next hs, fun ho => hs ▸ ho, hl⟩

theorem media_handleOffer (env : Env) : (handleOffer env p c).2.media = c.media := by
  have hanswer : ∀ c : AppConfiguration, (respondWithAnswer env p c).2.media = c.media := by
    intro c
    unfold respondWithAnswer
    split <;> rfl
  unfold handleOffer
  simp only
  split
  · rfl
  split
  · rfl
  split
  · rfl
  split
  · rfl
  split
  · rfl
  split <;> exact hanswer _

theorem media_drainPending (env : Env) (key : UInt64) :
    (drainPending env key p c).2.media = c.media := by
  unfold drainPending
  simp only
  split <;> rfl

theorem media_pollSignaling (env : Env) : (pollSignaling env c).2.media = c.media := by
  unfold pollSignaling
  simp only
  split_ifs <;> rfl

theorem media_onConnectionStateChange (newState : RtcPeerConnectionState) :
    (onConnectionStateChange p newState c).media = c.media := by
  cases newState <;> rfl

theorem media_sinkFrame (frame : Frame) : (sinkFrame frame p c).media = c.media := by
  unfold sinkFrame
  simp only
  split <;> rfl

theorem latched_sweepRemove (env : Env) (n : Nat) :
    (sweepRemove env n p c).2.media.codecConfigLatched = c.media.codecConfigLatched := by
  unfold sweepRemove
  simp only
  split
  · rfl
  split
  · rfl
  split <;> split <;> rfl

theorem media_initializePeerConnection (env : Env) :
    (initializePeerConnection env c).2.2.media = c.media := by
  unfold initializePeerConnection
  simp only
  split_ifs <;> rfl

/-- The discovery in `createStreamingSession`. -/
theorem media_createStreamingSession (env : Env) (peerId : ClientId) :
    (createStreamingSession env peerId c).2.2.media =
      if env.ok .sessionCalloc then (isMediaSourceReady env c.media).2 else c.media := by
  have hset : ∀ (p : PStreamingSession) (c : AppConfiguration),
      (setUpStreamingSession env peerId p c).2.media = (isMediaSourceReady env c.media).2 := by
    intro p c
    unfold setUpStreamingSession
    simp only
    split
    · rfl
    · exact media_initializePeerConnection env
  unfold createStreamingSession
  cases env.ok .sessionCalloc with
  | false => rfl
  | true =>
    simp only [Bool.not_true, Bool.false_eq_true, if_false, if_true]
    have h := hset c.sessions.next (c.setSessions (c.sessions.alloc default))
    split
    · rw [media_freeStreamingSession]
      exact h
    · exact h

/-- A message that creates no session. -/
theorem sessionsKept_message (env : Env) (msg : ReceivedSignalingMessage) (h : SessionsOk c)
    (hno : ¬ (msg.signalingMessage.messageType = .offer ∧ env.ok .appHashTableContains = true ∧
      c.pRemoteRtcPeerConnections (clientIdHashKey msg.signalingMessage.peerClientId) = none ∧
      c.streamingSessionList.length ≠ appMaxConcurrentStreamingSession)) :
    SessionsKept c (onSignalingMessageReceived env msg c).2 := by
  refine SessionsKept.of_same (unlisted_onSignalingMessageReceived env msg h hno).1 ?_
  rcases onSignalingMessageReceived_cases env msg with ⟨st, hr⟩ | ⟨hm, hc, hnone, hr⟩ | ⟨-, -, hr⟩
  · rw [hr]
  · have hlen : c.streamingSessionList.length = appMaxConcurrentStreamingSession :=
      not_not.mp fun hfree => hno ⟨hm, hc, hnone, hfree⟩
    rw [hr, receiveOffer, if_pos hlen]
  · rw [hr]
    unfold receiveIceCandidate
    split <;> rfl

/-! ## The steps -/

/-- The step of the sweep that frees the session it unlinked. -/
def World.frees (w : World) (q : PStreamingSession) : Action → Prop
  | .advance => ∃ env n i, w.holder = .sweepRemoved env n i q
  | _ => False

theorem World.advance_sweepRemoved {env : Env} {n : Nat} {i : UInt32}
    (hw : w.holder = .sweepRemoved env n i p) :
    w.advance.app = (freeStreamingSession p w.app).2 := by
  unfold World.advance
  rw [hw]

theorem World.sessions_advance (h : WorldOk w) :
    SessionsKept w.app w.advance.app ∨ ∃ q, w.frees q .advance := by
  obtain ⟨c, holder, hook, adds⟩ := w
  cases holder with
  | idle => exact Or.inl (SessionsKept.of_same rfl rfl)
  | offerCreated env key p =>
    left
    have hk : Kept (fun _ => False) c
        (c.modifySession p fun s => { s with offerReceiveTime := env.now }) :=
      Kept.modify _ h.holder.2.1.live (fun _ => rfl) (fun _ => rfl) (fun _ _ => rfl) fun _ h => h
    simp only [World.advance]
    split
    · exact ⟨hk.next, hk.owned, rfl⟩
    · exact SessionsKept.of_same rfl rfl
  | offerListed env key p =>
    have hk : Kept (fun _ => False) c (handleOffer env p c).2 :=
      handleOffer_kept env (h.sessions.listed_live h.holder.1)
    exact Or.inl (SessionsKept.of_kept hk (media_handleOffer env))
  | offerAnswered env key p =>
    left
    simp only [World.advance]
    split <;> exact SessionsKept.of_same rfl rfl
  | offerEntered env key p =>
    left
    have hmedia := congrArg MediaContext.codecConfigLatched (@media_drainPending c p env key)
    refine SessionsKept.of_same ?_ hmedia
    obtain ⟨s, ms, hd⟩ := drainPending_eq env key (h.sessions.listed_live h.holder.1)
    show (drainPending env key p c).2.sessions = c.sessions
    rw [hd]
    rfl
  | sweepScan env n i =>
    left
    simp only [World.advance]
    split
    · next hi => exact SessionsKept.of_same (Arena.touch_of_live (h.getD_live hi).2) rfl
    · exact SessionsKept.of_same (@pollSignaling_eq c env).1
        (congrArg MediaContext.codecConfigLatched (media_pollSignaling env))
  | sweepFound env n i p =>
    left
    simp only [World.advance]
    split <;> exact SessionsKept.of_same rfl rfl
  | sweepUnlinked env n i p =>
    exact Or.inl (SessionsKept.of_same (@sweepRemove_cases c p env n).1 (latched_sweepRemove env n))
  | sweepRemoved env n i p => exact Or.inr ⟨p, env, n, i, rfl⟩
  | eosHook i =>
    left
    simp only [World.advance]
    split
    · next hi => exact SessionsKept.of_kept (terminateSession_kept (h.getD_live hi).2) rfl
    · exact SessionsKept.of_same rfl rfl

/-- Only the handler of a message creates sessions or discovers, and only the sweep frees them. -/
theorem World.sessions_step (h : WorldOk w) {a : Action} (ha : ∀ env msg, a ≠ .receive env msg) :
    SessionsKept w.app (w.step a).app ∨ ∃ q, w.frees q a := by
  have hrefl : SessionsKept w.app w.app := SessionsKept.of_same rfl rfl
  have hwhen : ∀ w' : World, SessionsKept w.app w'.app → SessionsKept w.app (w.whenIdle w').app :=
    fun w' hw => World.whenIdle_elim (P := fun x => SessionsKept w.app x.app) hrefl fun _ => hw
  cases a with
  | receive env msg => exact absurd rfl (ha env msg)
  | advance => exact World.sessions_advance h
  | poll env => exact Or.inl (hwhen _ hrefl)
  | mediaEos => exact Or.inl (hwhen _ hrefl)
  | addStats =>
    obtain ⟨id, happ⟩ := w.app_addStats
    left
    show SessionsKept w.app w.addStats.app
    rw [happ]
    exact SessionsKept.of_same rfl rfl
  | mediaFrame frame =>
    left
    show SessionsKept w.app (if w.readLockFree then _ else w).app
    split <;> exact hrefl
  | advanceHook =>
    left
    show SessionsKept w.app w.advanceHook.app
    unfold World.advanceHook
    split
    · exact hrefl
    · next frame i _ =>
      split
      · next hi =>
        exact SessionsKept.of_kept (sinkFrame_kept frame (h.getD_live hi).2) (media_sinkFrame frame)
      · exact hrefl
  | connectionStateChange p st =>
    left
    show SessionsKept w.app (if w.app.sessions.live p then _ else w).app
    split
    · next hp =>
      exact SessionsKept.of_kept (onConnectionStateChange_kept st hp)
        (media_onConnectionStateChange st)
    · exact hrefl
  | mediaSenderDone => exact Or.inl (SessionsKept.of_same rfl rfl)
  | restartRequested => exact Or.inl (SessionsKept.of_same rfl rfl)
  | pregenerateCert env => exact Or.inl (hwhen _ (SessionsKept.of_same rfl rfl))

/-- So only a message raises the number of sessions or latches the codecs. -/
theorem World.latched_step (h : WorldOk w) {a : Action} (ha : ∀ env msg, a ≠ .receive env msg) :
    (w.step a).app.sessions.next = w.app.sessions.next ∧
      (w.step a).app.media.codecConfigLatched = w.app.media.codecConfigLatched := by
  rcases World.sessions_step h ha with hkept | ⟨q, hq⟩
  · exact ⟨hkept.next, hkept.latched⟩
  · cases a with
    | advance =>
      obtain ⟨env, n, i, hholder⟩ := hq
      show w.advance.app.sessions.next = _ ∧ w.advance.app.media.codecConfigLatched = _
      rw [World.advance_sweepRemoved hholder]
      exact ⟨next_freeStreamingSession,
        congrArg MediaContext.codecConfigLatched media_freeStreamingSession⟩
    | _ => exact hq.elim

end

end WebrtcApp
