import WebrtcApp.Runs.Interleaving

/-!
# The media thread

`mediaSenderRoutine`, `runMediaSource` and the sample callbacks of its pipeline, beside the
handlers of `Runs/Interleaving`.  `terminateApp` is down, no stream ends or fails, and the
GStreamer calls and the thread creations succeed.

The last sweep of the list only sets `shutdownRtspSrc`.  The pipeline is closed by the next
sample callback that reads the flag, and `mediaThreadStarted` falls when the sender has ended.
An OFFER in between finds the flag up and starts no thread: its session is left without media
(`session_left_without_media`).  Where no OFFER is answered in between, no session is
(`media_serves_accepted`).
-/

namespace WebrtcApp

/-! ## The machine -/

/-- Where `mediaSenderRoutine` is, with `runMediaSource` in the thread it joins.  In `playing`
the main loop does not run yet.  `closed`: the calls of `shutdownMediaSource` up to the one that
the pipeline was closed for. -/
inductive MediaSender
  | absent
  | waiting
  | starting
  | playing
  | running (closed : Option Nat)
  | stopping (closed : Nat)
  | stopped (closed : Nat)
  deriving DecidableEq

namespace MediaSender

def present : MediaSender → Bool
  | .absent => false
  | _ => true

/-- Samples come from the pipeline. -/
def streams : MediaSender → Bool
  | .playing | .running _ | .stopping _ => true
  | _ => false

def closedBy : MediaSender → Option Nat
  | .running closed => closed
  | .stopping closed | .stopped closed => some closed
  | _ => none

end MediaSender

/-- A callback in `closing` has read that `shutdownRtspSrc` is set, after that many calls of
`shutdownMediaSource`, and will call `closeGstRtspSrc`.  `accepted` are the listed sessions whose
OFFER was handled successfully, with the calls of `shutdownMediaSource` before that. -/
structure MediaWorld where
  world : World
  sender : MediaSender
  closing : TrackId → Option Nat
  shutdowns : Nat
  accepted : List (PStreamingSession × Nat)

inductive MediaAction
  | app (a : Action)
  -- mediaSenderRoutine and runMediaSource
  | senderWake
  | pipelinePlay
  | mainLoopRun
  | mainLoopQuit
  | pipelineNull
  | senderDone
  -- onNewSampleFromAppSink
  | sampleRead (t : TrackId)
  | sampleClose (t : TrackId)

/-- The steps that this machine takes itself, or that are assumed not to come. -/
def Action.ofMedia : Action → Bool
  | .mediaEos | .mediaSenderDone => true
  | _ => false

def Holder.isIdle : Holder → Bool
  | .idle => true
  | _ => false

/-- An OFFER handler is in progress. -/
def Holder.inOffer : Holder → Bool
  | .offerCreated .. | .offerListed .. | .offerAnswered .. | .offerEntered .. => true
  | _ => false

/-- The session whose OFFER succeeds with this step. -/
def World.accepts (w : World) : Action → Option PStreamingSession
  | .advance =>
    match w.holder with
    | .offerEntered env key p => if (drainPending env key p w.app).1.failed then none else some p
    | _ => none
  | _ => none

/-- This step calls `shutdownMediaSource`. -/
def World.shutsDown (w : World) : Action → Bool
  | .advance =>
    match w.holder with
    | .sweepUnlinked env n _ p =>
      !(sweepRemove env n p w.app).1.failed && w.app.streamingSessionList.length == 0
    | _ => false
  | _ => false

namespace MediaWorld

def start (latched : Bool) : MediaWorld := ⟨World.start latched, .absent, fun _ => none, 0, []⟩

/-- A step of the application; with `mediaThreadStarted` set by it, the sender starts. -/
def appStep (a : Action) (m : MediaWorld) : MediaWorld :=
  let w := m.world.step a
  { m with
    world := w
    sender :=
      if !m.world.app.mediaThreadStarted && w.app.mediaThreadStarted then .waiting else m.sender
    shutdowns := if m.world.shutsDown a then m.shutdowns + 1 else m.shutdowns
    accepted := (m.accepted ++ ((m.world.accepts a).map fun p => (p, m.shutdowns)).toList).filter
      fun e => decide (e.1 ∈ w.app.streamingSessionList) }

/-- `closeGstRtspSrc`: a main loop that does not run yet is not ended by it. -/
def closeGstRtspSrc (closed : Nat) (m : MediaWorld) : MediaWorld :=
  let c := m.world.app
  { m with
    world := { m.world with app := c.setMedia { c.media with shutdownRtspSrc := false } }
    sender :=
      match m.sender with
      | .running none => .running (some closed)
      | s => s }

def step (m : MediaWorld) : MediaAction → MediaWorld
  | .app a => if a.ofMedia then m else m.appStep a
  | .senderWake =>
    if m.sender = .waiting ∧ m.world.holder.isIdle = true ∧
        m.world.app.peerConnectionConnected = true then { m with sender := .starting }
    else m
  | .pipelinePlay => if m.sender = .starting then { m with sender := .playing } else m
  | .mainLoopRun => if m.sender = .playing then { m with sender := .running none } else m
  | .mainLoopQuit =>
    match m.sender with
    | .running (some closed) => { m with sender := .stopping closed }
    | _ => m
  | .pipelineNull =>
    -- the state change waits for the callbacks
    match m.sender, m.closing .video, m.closing .audio with
    | .stopping closed, none, none => { m with sender := .stopped closed }
    | _, _, _ => m
  | .senderDone =>
    match m.sender with
    | .stopped _ =>
      { m with
        world := { m.world with app := { m.world.app with mediaThreadStarted := false } }
        sender := .absent }
    | _ => m
  | .sampleRead t =>
    if m.sender.streams = true ∧ m.closing t = none ∧ m.world.app.media.shutdownRtspSrc = true then
      { m with closing := Function.update m.closing t (some m.shutdowns) }
    else m
  | .sampleClose t =>
    match m.closing t with
    | some closed => { m.closeGstRtspSrc closed with closing := Function.update m.closing t none }
    | none => m

/-! ## What a session is left with -/

/-- With no OFFER in progress, an accepted session whose flag is down is listed, and there is no
media thread or its pipeline was closed for a call of `shutdownMediaSource` before the session
was accepted. -/
def LeftWithoutMedia (m : MediaWorld) : Prop :=
  m.world.holder.inOffer = false ∧
    ∃ e ∈ m.accepted, e.1 ∈ m.world.app.streamingSessionList ∧
      (m.world.app.session e.1).terminateFlag = false ∧
      (m.world.app.mediaThreadStarted = false ∨ ∃ closed ∈ m.sender.closedBy, closed ≤ e.2)

instance (m : MediaWorld) : Decidable m.LeftWithoutMedia :=
  inferInstanceAs (Decidable (_ ∧ _))

/-- A call of `shutdownMediaSource` has not been acted on, or its media thread has not ended. -/
def shutdownStands (m : MediaWorld) : Bool :=
  m.world.app.media.shutdownRtspSrc || (m.closing .video).isSome || (m.closing .audio).isSome ||
    m.sender.closedBy.isSome

end MediaWorld

/-- The next step of the holder is `handleOffer`, and it succeeds, and so does the insertion into
the table. -/
def Holder.answers : Holder → Bool
  | .offerListed env _ _ => decide env.OfferAnswered && env.ok .appHashTablePut
  | _ => false

def MediaAction.isAdvance : MediaAction → Bool
  | .app .advance => true
  | _ => false

/-- No OFFER is answered while a shutdown of the media source stands. -/
def OfferFindsMedia (m : MediaWorld) (a : MediaAction) : Prop :=
  a.isAdvance = true ∧ m.world.holder.answers = true → m.shutdownStands = false

instance (m : MediaWorld) (a : MediaAction) : Decidable (OfferFindsMedia m a) :=
  inferInstanceAs (Decidable (_ → _))

/-! ## The flags of the media thread -/

/-- `mediaThreadStarted` is as it was, and `shutdownRtspSrc` was not set. -/
structure MediaQuiet (c c' : AppConfiguration) : Prop where
  started : c'.mediaThreadStarted = c.mediaThreadStarted
  shutdown : c'.media.shutdownRtspSrc = true → c.media.shutdownRtspSrc = true

namespace MediaQuiet

variable {c c' c'' : AppConfiguration} {p : PStreamingSession}

theorem of_eq (hs : c'.mediaThreadStarted = c.mediaThreadStarted) (hm : c'.media = c.media) :
    MediaQuiet c c' :=
  ⟨hs, fun h => hm ▸ h⟩

theorem refl (c : AppConfiguration) : MediaQuiet c c := of_eq rfl rfl

theorem trans (h : MediaQuiet c c') (h' : MediaQuiet c' c'') : MediaQuiet c c'' :=
  ⟨h'.started.trans h.started, fun hs => h.shutdown (h'.shutdown hs)⟩

theorem free : MediaQuiet c (freeStreamingSession p c).2 := by
  have hcancel : ∀ c : AppConfiguration, MediaQuiet c (cancelStatsTimer c) := by
    intro c
    unfold cancelStatsTimer
    split <;> exact of_eq rfl rfl
  unfold freeStreamingSession
  simp only
  split
  · exact of_eq rfl rfl
  · have h := hcancel ((c.touchSession p).modifySession p fun s => { s with terminateFlag := true })
    exact ⟨h.started, h.shutdown⟩

theorem ready (env : Env) : MediaQuiet c (c.setMedia (isMediaSourceReady env c.media).2) := by
  refine ⟨rfl, ?_⟩
  show (isMediaSourceReady env c.media).2.shutdownRtspSrc = true → _
  unfold isMediaSourceReady
  cases hl : c.media.codecConfigLatched <;> cases env.mediaDiscovered <;> simp [hl] <;>
    exact fun h _ => h

theorem setUp (env : Env) (peerId : ClientId) :
    MediaQuiet c (setUpStreamingSession env peerId p c).2 := by
  have hinit : ∀ c : AppConfiguration, MediaQuiet c (initializePeerConnection env c).2.2 := by
    intro c
    unfold initializePeerConnection
    simp only
    split_ifs <;> exact of_eq rfl rfl
  unfold setUpStreamingSession
  simp only
  split
  · exact ready env
  · have hr := @ready c env
    have h := hinit ((c.setMedia (isMediaSourceReady env c.media).2).modifySession p fun s => { s with
      peerId := peerId
      peerIdReceived := true
      pAppConfiguration := true
      remoteCanTrickleIce := false
      terminateFlag := false })
    exact ⟨h.started.trans hr.started, fun hs => hr.shutdown (h.shutdown hs)⟩

theorem create (env : Env) (peerId : ClientId) :
    MediaQuiet c (createStreamingSession env peerId c).2.2 := by
  unfold createStreamingSession
  simp only
  split
  · exact refl c
  · have hs := @setUp (c.setSessions (c.sessions.alloc default)) c.sessions.next env peerId
    have h : MediaQuiet c (setUpStreamingSession env peerId c.sessions.next
      (c.setSessions (c.sessions.alloc default))).2 := ⟨hs.started, hs.shutdown⟩
    split
    · exact h.trans free
    · exact h

/-- A message whose session is not created. -/
theorem message (env : Env) (msg : ReceivedSignalingMessage)
    (hfull : ¬ (msg.signalingMessage.messageType = .offer ∧ env.ok .appHashTableContains = true ∧
      c.pRemoteRtcPeerConnections (clientIdHashKey msg.signalingMessage.peerClientId) = none ∧
      c.streamingSessionList.length ≠ appMaxConcurrentStreamingSession)) :
    MediaQuiet c (onSignalingMessageReceived env msg c).2 := by
  rcases onSignalingMessageReceived_cases env msg with ⟨st, hr⟩ | ⟨hm, hc, hnone, hr⟩ | ⟨-, -, hr⟩
  · rw [hr]
    exact refl c
  · have hlen : c.streamingSessionList.length = appMaxConcurrentStreamingSession :=
      not_not.mp fun hfree => hfull ⟨hm, hc, hnone, hfree⟩
    rw [hr, receiveOffer, if_pos hlen]
    generalize getPendingMsgQByHashVal env _ true c.pRemotePeerPendingSignalingMessages = r
    exact of_eq rfl rfl
  · rw [hr]
    unfold receiveIceCandidate
    split <;> exact of_eq rfl rfl

theorem drain (env : Env) (key : UInt64) : MediaQuiet c (drainPending env key p c).2 := by
  unfold drainPending
  simp only
  split <;> exact of_eq rfl rfl

theorem signaling (env : Env) : MediaQuiet c (pollSignaling env c).2 := by
  unfold pollSignaling
  simp only
  split_ifs <;> exact of_eq rfl rfl

theorem connectionState (newState : RtcPeerConnectionState) :
    MediaQuiet c (onConnectionStateChange p newState c) := by
  cases newState <;> exact of_eq rfl rfl

theorem frame (frame : Frame) : MediaQuiet c (sinkFrame frame p c) := by
  unfold sinkFrame
  simp only
  split <;> exact of_eq rfl rfl

/-- An offer that fails starts no thread, one that succeeds leaves one started. -/
theorem handleOffer_cases (env : Env) :
    let r := handleOffer env p c
    (r.1 ≠ .success ∧ MediaQuiet c r.2) ∨
      (r.1 = .success ∧ r.2.mediaThreadStarted = true ∧ r.2.media = c.media) := by
  have hne : ∀ {call : Call}, ¬ env.ok call = true → env.status call ≠ .success :=
    fun h e => h (Env.ok_eq_true.mpr e)
  have hanswer : ∀ c : AppConfiguration, (respondWithAnswer env p c).2.media = c.media ∧
      (respondWithAnswer env p c).2.mediaThreadStarted = c.mediaThreadStarted := by
    intro c
    unfold respondWithAnswer
    split <;> exact ⟨rfl, rfl⟩
  unfold handleOffer
  by_cases h1 : env.ok .deserializeSessionDescriptionInit = true
  swap
  · simp only [h1, Bool.not_false, if_true]
    exact Or.inl ⟨hne h1, of_eq rfl rfl⟩
  by_cases h2 : env.ok .setRemoteDescription = true
  swap
  · simp only [h1, h2, Bool.not_true, Bool.not_false, Bool.false_eq_true, if_false, if_true]
    exact Or.inl ⟨hne h2, of_eq rfl rfl⟩
  by_cases h3 : env.ok .setLocalDescription = true
  swap
  · simp only [h1, h2, h3, Bool.not_true, Bool.not_false, Bool.false_eq_true, if_false, if_true]
    exact Or.inl ⟨hne h3, of_eq rfl rfl⟩
  simp only [h1, h2, h3, Bool.not_true, Bool.false_eq_true, if_false]
  split
  · exact Or.inr ⟨rfl, rfl, rfl⟩
  split
  · next h4 => exact Or.inl ⟨hne (by simpa using h4), of_eq rfl rfl⟩
  split
  · next h5 => exact Or.inl ⟨Status.failed_eq_true.mp h5, of_eq (hanswer _).2 (hanswer _).1⟩
  · exact Or.inr ⟨rfl, rfl, (hanswer _).1⟩

end MediaQuiet

/-- The OFFER of the holder has been answered and will have its table entry. -/
def Holder.answered : Holder → Bool
  | .offerAnswered env _ _ => env.ok .appHashTablePut
  | .offerEntered .. => true
  | _ => false

section
variable {c : AppConfiguration} {p : PStreamingSession} {w : World}

/-- The flag is set only with the list empty. -/
theorem sweepRemove_media (env : Env) (n : Nat) :
    (sweepRemove env n p c).2.mediaThreadStarted = c.mediaThreadStarted ∧
      (c.streamingSessionList ≠ [] → MediaQuiet c (sweepRemove env n p c).2) := by
  unfold sweepRemove
  simp only
  split
  · exact ⟨rfl, fun _ => MediaQuiet.of_eq rfl rfl⟩
  split
  · exact ⟨rfl, fun _ => MediaQuiet.of_eq rfl rfl⟩
  generalize clientIdHashKey (c.session p).peerId = key
  let c1 := if (c.pRemoteRtcPeerConnections key).isSome then c.removeEntry key else c
  have h1 : c1.mediaThreadStarted = c.mediaThreadStarted ∧ c1.media = c.media ∧
      c1.streamingSessionList = c.streamingSessionList := by
    simp only [c1]
    split <;> exact ⟨rfl, rfl, rfl⟩
  show (if c1.streamingSessionList.length = 0 then shutdownMediaSource c1 else c1).mediaThreadStarted = _ ∧
    (_ → MediaQuiet c (if c1.streamingSessionList.length = 0 then shutdownMediaSource c1 else c1))
  split
  · next hnil =>
    rw [h1.2.2] at hnil
    exact ⟨h1.1, fun hne => absurd (List.length_eq_zero_iff.mp hnil) hne⟩
  · exact ⟨h1.1, fun _ => MediaQuiet.of_eq h1.1 h1.2.1⟩

/-- What a step of the application does to the flags: nothing, an OFFER that leaves the sender
started, or a sweep of the last session. -/
theorem World.media_cases (h : WorldOk w) (a : Action) (ha : a.ofMedia = false) :
    (MediaQuiet w.app (w.step a).app ∧
        ((w.step a).holder.answered = true → w.holder.answered = true)) ∨
      (∃ env key p, a = .advance ∧ w.holder = .offerListed env key p ∧ env.OfferAnswered ∧
        (w.step a).holder = .offerAnswered env key p ∧
        (w.step a).app.mediaThreadStarted = true ∧ (w.step a).app.media = w.app.media) ∨
      ((w.step a).app.streamingSessionList = [] ∧ (w.step a).holder.answered = false ∧
        (w.step a).app.mediaThreadStarted = w.app.mediaThreadStarted) := by
  have hidle : ∀ w', (w.holder = .idle → MediaQuiet w.app w'.app ∧ w'.holder.answered = false) →
      MediaQuiet w.app (w.whenIdle w').app ∧
        ((w.whenIdle w').holder.answered = true → w.holder.answered = true) := by
    intro w' hw'
    refine World.whenIdle_elim (P := fun x => MediaQuiet w.app x.app ∧
      (x.holder.answered = true → w.holder.answered = true)) ⟨MediaQuiet.refl _, id⟩ fun hi => ?_
    exact ⟨(hw' hi).1, fun e => absurd (e.symm.trans (hw' hi).2) Bool.noConfusion⟩
  obtain ⟨c, holder, hook, adds⟩ := w
  cases a with
  | mediaEos => cases ha
  | mediaSenderDone => cases ha
  | receive env msg =>
    refine Or.inl (hidle _ fun hi => ?_)
    obtain rfl : holder = .idle := hi
    unfold World.receive
    simp only
    split
    · have hq := @MediaQuiet.create c env msg.signalingMessage.peerClientId
      generalize createStreamingSession env msg.signalingMessage.peerClientId c = r at hq
      obtain ⟨st, o, c1⟩ := r
      cases o <;> exact ⟨hq, rfl⟩
    · next hfull => exact ⟨MediaQuiet.message env msg hfull, rfl⟩
  | poll env => exact Or.inl (hidle _ fun _ => ⟨MediaQuiet.refl c, rfl⟩)
  | pregenerateCert env => 
    exact Or.inl (hidle _ fun hi => ⟨MediaQuiet.of_eq rfl rfl, by rw [show holder = .idle from hi]; rfl⟩)
  | addStats =>
    left
    cases adds with
    | nil => exact ⟨MediaQuiet.refl c, id⟩
    | cons env envs =>
      refine ⟨?_, id⟩
      show MediaQuiet c (if _ then _ else c)
      split <;> exact MediaQuiet.of_eq rfl rfl
  | mediaFrame frame =>
    left
    simp only [World.step]
    split <;> exact ⟨MediaQuiet.refl c, id⟩
  | advanceHook =>
    left
    cases hook with
    | none => exact ⟨MediaQuiet.refl c, id⟩
    | some r =>
      simp only [World.step, World.advanceHook]
      split
      · exact ⟨MediaQuiet.frame _, id⟩
      · exact ⟨MediaQuiet.refl c, id⟩
  | connectionStateChange p st =>
    left
    simp only [World.step]
    split
    · exact ⟨MediaQuiet.connectionState st, id⟩
    · exact ⟨MediaQuiet.refl c, id⟩
  | restartRequested => exact Or.inl ⟨MediaQuiet.of_eq rfl rfl, id⟩
  | advance =>
    cases holder with
    | idle => exact Or.inl ⟨MediaQuiet.refl c, id⟩
    | offerCreated env key p =>
      left
      simp only [World.step, World.advance]
      split
      · exact ⟨MediaQuiet.of_eq rfl rfl, fun e => absurd e Bool.noConfusion⟩
      · exact ⟨MediaQuiet.refl c, id⟩
    | offerListed env key p =>
      have hlive : c.sessions.live p = true := h.sessions.listed_live h.holder.1
      have hsucc := @handleOffer_eq_success c p env hlive
      have hcases := @MediaQuiet.handleOffer_cases c p env
      simp only [World.step, World.advance]
      generalize handleOffer env p c = r at hsucc hcases
      obtain ⟨st, c1⟩ := r
      rcases hcases with ⟨hst, hq⟩ | ⟨hst, hstarted, hm⟩
      · rw [Status.failed_eq_true.mpr hst]
        exact Or.inl ⟨hq, fun e => absurd e Bool.noConfusion⟩
      · rw [Status.failed_eq_false.mpr hst]
        exact Or.inr (Or.inl ⟨env, key, p, trivial, rfl, hsucc.mp hst, rfl, hstarted, hm⟩)
    | offerAnswered env key p =>
      left
      simp only [World.step, World.advance]
      split
      · exact ⟨MediaQuiet.refl c, fun e => absurd e Bool.noConfusion⟩
      · next hput => exact ⟨MediaQuiet.of_eq rfl rfl, fun _ => by simpa [Holder.answered] using hput⟩
    | offerEntered env key p =>
      exact Or.inl ⟨MediaQuiet.drain env key, fun e => absurd e Bool.noConfusion⟩
    | sweepScan env n i =>
      left
      simp only [World.step, World.advance]
      split
      · refine ⟨MediaQuiet.of_eq rfl rfl, ?_⟩
        simp only
        split <;> exact fun e => absurd e Bool.noConfusion
      · exact ⟨MediaQuiet.signaling env, fun e => absurd e Bool.noConfusion⟩
    | sweepFound env n i p =>
      left
      simp only [World.step, World.advance]
      split
      · exact ⟨MediaQuiet.of_eq rfl rfl, fun e => absurd e Bool.noConfusion⟩
      · exact ⟨MediaQuiet.refl c, id⟩
    | sweepUnlinked env n i p =>
      have hans : (World.step ⟨c, .sweepUnlinked env n i p, hook, adds⟩ .advance).holder.answered =
          false := by
        simp only [World.step, World.advance]
        split <;> rfl
      have hl : (sweepRemove env n p c).2.streamingSessionList = c.streamingSessionList := by
        obtain ⟨-, ⟨-, ht⟩ | ⟨-, ht⟩⟩ := @sweepRemove_cases c p env n <;>
          exact congrArg Tables.streamingSessionList ht
      obtain ⟨hstarted, hq⟩ := @sweepRemove_media c p env n
      by_cases hnil : c.streamingSessionList = []
      · exact Or.inr (Or.inr ⟨hl.trans hnil, hans, hstarted⟩)
      · exact Or.inl ⟨hq hnil, fun e => absurd (e.symm.trans hans) Bool.noConfusion⟩
    | sweepRemoved env n i p => exact Or.inl ⟨MediaQuiet.free, fun e => absurd e Bool.noConfusion⟩
    | eosHook i =>
      left
      simp only [World.step, World.advance]
      split
      · exact ⟨MediaQuiet.of_eq rfl rfl, fun e => absurd e Bool.noConfusion⟩
      · exact ⟨MediaQuiet.refl c, fun e => absurd e Bool.noConfusion⟩

/-- Only an OFFER that was answered is accepted. -/
theorem World.accepts_answered {a : Action} (h : w.accepts a ≠ none) : w.holder.answered = true := by
  unfold World.accepts at h
  split at h
  · split at h
    · next hholder => rw [hholder]; rfl
    · exact absurd rfl h
  · exact absurd rfl h

end

/-! ## The invariant -/

/-- There is a media thread, and nothing will end it. -/
structure MediaOn (m : MediaWorld) : Prop where
  present : m.sender.present = true
  open_ : m.shutdownStands = false

/-- The flag is up exactly while there is a sender, and the media is on as soon as a session is
accepted, or will be. -/
structure MediaOk (m : MediaWorld) : Prop where
  world : WorldOk m.world
  started : m.world.app.mediaThreadStarted = m.sender.present
  listed : ∀ e ∈ m.accepted, e.1 ∈ m.world.app.streamingSessionList
  accepted : m.accepted ≠ [] → MediaOn m
  offer : m.world.holder.answered = true → MediaOn m

namespace MediaOk

variable {m m' : MediaWorld}

theorem start (latched : Bool) : MediaOk (MediaWorld.start latched) :=
  ⟨WorldOk.start latched, rfl, fun _ h => absurd h List.not_mem_nil, fun h => absurd rfl h,
    fun h => absurd h Bool.noConfusion⟩

theorem not_left (h : MediaOk m) : ¬ m.LeftWithoutMedia := by
  rintro ⟨-, e, he, -, -, hleft⟩
  obtain ⟨hpresent, hopen⟩ := h.accepted (List.ne_nil_of_mem he)
  rcases hleft with hstopped | ⟨closed, hclosed, -⟩
  · rw [h.started, hpresent] at hstopped
    cases hstopped
  · unfold MediaWorld.shutdownStands at hopen
    rw [Option.mem_def.mp hclosed] at hopen
    simp at hopen

theorem shutdownStands_congr (hm : m'.world.app.media.shutdownRtspSrc = true →
      m.world.app.media.shutdownRtspSrc = true) (hc : m'.closing = m.closing)
    (hs : m.sender.closedBy = none → m'.sender.closedBy = none) (h : m.shutdownStands = false) :
    m'.shutdownStands = false := by
  unfold MediaWorld.shutdownStands at h ⊢
  simp only [Bool.or_eq_false_iff, Option.isSome_eq_false_iff, Option.isNone_iff_eq_none] at h ⊢
  obtain ⟨⟨⟨hf, hv⟩, ha⟩, hb⟩ := h
  exact ⟨⟨⟨Bool.eq_false_iff.mpr fun e => Bool.eq_false_iff.mp hf (hm e), hc ▸ hv⟩, hc ▸ ha⟩, hs hb⟩

/-- A step of the sender. -/
theorem setSender (h : MediaOk m) (s : MediaSender) (hp : s.present = m.sender.present)
    (hs : m.sender.closedBy = none → s.closedBy = none) : MediaOk { m with sender := s } := by
  have hon : MediaOn m → MediaOn { m with sender := s } := fun ho =>
    ⟨hp.trans ho.present, shutdownStands_congr (m := m) id rfl hs ho.open_⟩
  exact ⟨h.world, h.started.trans hp.symm, h.listed, fun ha => hon (h.accepted ha),
    fun ha => hon (h.offer ha)⟩

/-- With a shutdown standing no session is accepted, so nothing depends on the media. -/
theorem of_stands (h : MediaOk m) (hst : m.shutdownStands = true) (hw : WorldOk m'.world)
    (hstarted : m'.world.app.mediaThreadStarted = m'.sender.present)
    (ha : m'.accepted = m.accepted) (hh : m'.world.holder = m.world.holder) : MediaOk m' := by
  have hoff : ¬ MediaOn m := fun ho => absurd (hst.symm.trans ho.open_) Bool.noConfusion
  have hnil : m'.accepted = [] := ha.trans (not_not.mp fun hne => hoff (h.accepted hne))
  refine ⟨hw, hstarted, fun e he => ?_, fun hne => absurd hnil hne, fun hans => ?_⟩
  · rw [hnil] at he
    exact absurd he List.not_mem_nil
  · exact absurd (h.offer (hh ▸ hans)) hoff

theorem appStep (h : MediaOk m) {a : Action} (ha : a.ofMedia = false)
    (hfinds : OfferFindsMedia m (.app a)) : MediaOk (m.appStep a) := by
  have hw : WorldOk (m.appStep a).world := h.world.step a
  have hlisted : ∀ e ∈ (m.appStep a).accepted, e.1 ∈ (m.appStep a).world.app.streamingSessionList :=
    fun e he => of_decide_eq_true (List.mem_filter.mp he).2
  -- before the step the media is on, if a session is accepted after it
  have hacc : (m.appStep a).accepted ≠ [] → MediaOn m := by
    intro hne
    by_cases hm : m.accepted = []
    · refine h.offer (World.accepts_answered (a := a) fun hnone => hne ?_)
      show List.filter _ (m.accepted ++ Option.toList (Option.map _ (m.world.accepts a))) = []
      rw [hm, hnone]
      rfl
    · exact h.accepted hm
  have hsame : (m.appStep a).world.app.mediaThreadStarted = m.world.app.mediaThreadStarted →
      (m.appStep a).sender = m.sender := by
    intro hs
    apply if_neg
    rw [show (m.world.step a).app.mediaThreadStarted = m.world.app.mediaThreadStarted from hs]
    simp
  rcases m.world.media_cases h.world a ha with ⟨hq, hans⟩ | ⟨env, key, p, rfl, hl, ho, hh, hs, hm⟩ |
    ⟨hnil, hans, hs⟩
  · have hsender := hsame hq.started
    have hon : MediaOn m → MediaOn (m.appStep a) := fun ho =>
      ⟨(congrArg MediaSender.present hsender).trans ho.present,
        shutdownStands_congr hq.shutdown rfl (fun e => hsender.symm ▸ e) ho.open_⟩
    exact ⟨hw, hq.started.trans (h.started.trans (congrArg _ hsender.symm)), hlisted,
      fun hne => hon (hacc hne), fun e => hon (h.offer (hans e))⟩
  · -- the OFFER finds a sender, or starts one
    have hpresent : (m.appStep .advance).sender.present = true := by
      show MediaSender.present (if _ then _ else _) = true
      split
      · rfl
      · next hn =>
        rw [← h.started]
        simpa [hs] using hn
    have hon : m.shutdownStands = false → MediaOn (m.appStep .advance) := by
      refine fun hopen => ⟨hpresent, shutdownStands_congr (m := m) (fun e => ?_) rfl (fun e => ?_) hopen⟩
      · rwa [show (m.appStep .advance).world.app.media = m.world.app.media from hm] at e
      · show MediaSender.closedBy (if _ then _ else _) = none
        split
        · rfl
        · exact e
    refine ⟨hw, hs.trans hpresent.symm, hlisted, fun hne => hon (hacc hne).open_, fun hans => hon ?_⟩
    have hput : env.ok .appHashTablePut = true := by
      rw [show (m.appStep .advance).world.holder = .offerAnswered env key p from hh] at hans
      exact hans
    refine hfinds ⟨rfl, ?_⟩
    rw [hl]
    simp [Holder.answers, ho, hput]
  · have hsender := hsame hs
    refine ⟨hw, hs.trans (h.started.trans (congrArg _ hsender.symm)), hlisted, fun hne => ?_,
      fun e => absurd (e.symm.trans hans) Bool.noConfusion⟩
    obtain ⟨e, he⟩ := List.exists_mem_of_ne_nil _ hne
    have hmem := hlisted e he
    rw [show (m.appStep a).world.app.streamingSessionList = [] from hnil] at hmem
    exact absurd hmem List.not_mem_nil

theorem step (h : MediaOk m) {a : MediaAction} (hfinds : OfferFindsMedia m a) : MediaOk (m.step a) := by
  cases a with
  | app a =>
    show MediaOk (if a.ofMedia then m else m.appStep a)
    split
    · exact h
    · next ha => exact h.appStep (by simpa using ha) hfinds
  | senderWake =>
    simp only [MediaWorld.step]
    split
    · next hw => exact h.setSender .starting (by rw [hw.1]; rfl) fun _ => rfl
    · exact h
  | pipelinePlay =>
    simp only [MediaWorld.step]
    split
    · next hs => exact h.setSender .playing (by rw [hs]; rfl) fun _ => rfl
    · exact h
  | mainLoopRun =>
    simp only [MediaWorld.step]
    split
    · next hs => exact h.setSender (.running none) (by rw [hs]; rfl) fun _ => rfl
    · exact h
  | mainLoopQuit =>
    simp only [MediaWorld.step]
    split
    · next closed hs =>
      apply h.setSender (.stopping closed) (by rw [hs]; rfl)
      intro e
      rw [hs] at e
      cases e
    · exact h
  | pipelineNull =>
    simp only [MediaWorld.step]
    split
    · next closed hs _ _ =>
      apply h.setSender (.stopped closed) (by rw [hs]; rfl)
      intro e
      rw [hs] at e
      cases e
    · exact h
  | senderDone =>
    simp only [MediaWorld.step]
    split
    · next closed hs =>
      refine h.of_stands ?_ (h.world.of_same rfl rfl) rfl rfl rfl
      simp [MediaWorld.shutdownStands, hs, MediaSender.closedBy]
    · exact h
  | sampleRead t =>
    simp only [MediaWorld.step]
    split
    · next hr =>
      refine h.of_stands ?_ h.world h.started rfl rfl
      simp [MediaWorld.shutdownStands, hr.2.2]
    · exact h
  | sampleClose t =>
    simp only [MediaWorld.step]
    split
    · next closed hc =>
      refine h.of_stands ?_ (h.world.of_same rfl rfl) ?_ rfl rfl
      · cases t <;> simp [MediaWorld.shutdownStands, hc]
      · show m.world.app.mediaThreadStarted = MediaSender.present (match m.sender with
          | .running none => .running (some closed)
          | s => s)
        rw [h.started]
        split
        · next hs => rw [hs]; rfl
        · rfl
    · exact h

end MediaOk

/-! ## No session is left without media -/

/-- In every run in which no OFFER is answered while a shutdown of the media source stands. -/
theorem media_serves_accepted (latched : Bool) (as : List MediaAction)
    (hfinds : Run.Along MediaWorld.step OfferFindsMedia (MediaWorld.start latched) as) :
    ¬ (Run.exec MediaWorld.step (MediaWorld.start latched) as).LeftWithoutMedia :=
  (hfinds.invariant (MediaOk.start latched) fun _ _ h ha => h.step ha).not_left

/-- A candidate of `d`, and its OFFER up to its end. -/
def offerRun (d : ClientId) (payload : List UInt8) : List MediaAction :=
  [Action.receive Env.allOk (candidateOf d payload), .receive Env.allOk (offerOf d), .advance, .advance,
    .advance, .advance].map .app

/-- The first session connects, its media runs, it leaves, and a sweep takes it out. -/
def leaveRun : List MediaAction :=
  .app (.connectionStateChange 0 .connected) :: .senderWake :: .pipelinePlay :: .mainLoopRun ::
    [Action.connectionStateChange 0 .closed, .poll Env.allOk, .advance, .advance, .advance, .advance,
      .advance].map .app

def sampleRun : List MediaAction := [.sampleRead .video, .sampleClose .video]

/-- `A` leaves, a sample closes the pipeline, and `B` comes when the sender is done. -/
theorem media_serves_accepted_of_two_clients :
    ¬ (Run.exec MediaWorld.step (MediaWorld.start true)
      (offerRun clientA [1] ++ leaveRun ++ sampleRun ++ [.mainLoopQuit, .pipelineNull, .senderDone] ++
        offerRun clientB [2] ++ sampleRun)).LeftWithoutMedia :=
  media_serves_accepted true _ (by decide +kernel)

/-- `B` comes when `A` has left and no sample has come since: the next sample closes the pipeline. -/
theorem session_left_without_media : ¬ ∀ (latched : Bool) (as : List MediaAction),
    ¬ (Run.exec MediaWorld.step (MediaWorld.start latched) as).LeftWithoutMedia := by
  intro h
  exact h true (offerRun clientA [1] ++ leaveRun ++ offerRun clientB [2] ++ sampleRun)
    (by decide +kernel)

end WebrtcApp
