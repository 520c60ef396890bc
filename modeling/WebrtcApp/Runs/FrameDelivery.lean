import WebrtcApp.Runs.Interleaving

/-!
# The frames of each session

`onMediaSinkHook` under any interleaving with the sessions' joins and leaves and any results of
`writeFrame`.  Calls of the hook are numbered in the order in which they get
`streamingSessionListReadLock`.  `Delivery.given p` are the calls that found `p` listed, and
`Delivery.offers p` the frames written to `p`.

A session is offered every audio frame given while it is listed, every video frame from the first
key frame on, in order and under the next index (`frames_delivered`).  The round of a session reads
and writes that session's `frameIndex` and `firstKeyFrame` and nobody else does
(`World.gate_step`), and the list stays as it is while the hook is in its loop (`World.list_of_hook`).
-/

namespace WebrtcApp

/-! ## What a session is owed -/

/-- A frame as the call `number` of the hook got it. -/
structure FrameCall where
  number : Nat
  trackId : TrackId
  keyFrame : Bool
  deriving DecidableEq

def FrameCall.opens (f : FrameCall) : Bool := decide (f.trackId = .video) && f.keyFrame

/-- `offered` is what is due of `given`: all the audio, and the video from its first key frame on. -/
structure Delivered (given offered : List FrameCall) : Prop where
  audio : offered.filter (·.trackId = .audio) = given.filter (·.trackId = .audio)
  video : offered.filter (·.trackId = .video) =
    (given.filter (·.trackId = .video)).dropWhile (!·.keyFrame)
  order : offered.Sublist given

namespace Delivered

variable {given offered : List FrameCall} {f : FrameCall}

theorem nil : Delivered [] [] := ⟨rfl, rfl, List.Sublist.refl []⟩

/-- The video given so far has no key frame exactly where nothing of it is due. -/
theorem dropWhile_eq_nil : (given.filter (·.trackId = .video)).dropWhile (!·.keyFrame) = [] ↔
    given.any FrameCall.opens = false := by
  simp only [List.dropWhile_eq_nil_iff, List.mem_filter, decide_eq_true_eq, Bool.not_eq_true',
    List.any_eq_false, FrameCall.opens, Bool.and_eq_true, not_and, Bool.not_eq_true, and_imp]

theorem audio_snoc (h : Delivered given offered) (hf : f.trackId = .audio) :
    Delivered (given ++ [f]) (offered ++ [f]) := by
  refine ⟨?_, ?_, h.order.append (List.Sublist.refl [f])⟩
  · rw [List.filter_append, List.filter_append, h.audio]
  · have hv : [f].filter (·.trackId = .video) = [] := by simp [hf]
    rw [List.filter_append, List.filter_append, hv, List.append_nil, List.append_nil, h.video]

theorem video_snoc (h : Delivered given offered) (hf : f.trackId = .video)
    (hopen : given.any FrameCall.opens = true ∨ f.keyFrame = true) :
    Delivered (given ++ [f]) (offered ++ [f]) := by
  refine ⟨?_, ?_, h.order.append (List.Sublist.refl [f])⟩
  · have ha : [f].filter (·.trackId = .audio) = [] := by simp [hf]
    rw [List.filter_append, List.filter_append, ha, List.append_nil, List.append_nil, h.audio]
  · have hv : [f].filter (·.trackId = .video) = [f] := by simp [hf]
    rw [List.filter_append, List.filter_append, hv, h.video, List.dropWhile_append]
    by_cases hnil : (given.filter (·.trackId = .video)).dropWhile (!·.keyFrame) = []
    · -- the first key frame
      have hkey := hopen.resolve_left (by rw [dropWhile_eq_nil.mp hnil]; exact Bool.false_ne_true)
      simp [hnil, hkey]
    · rw [if_neg (by rwa [List.isEmpty_iff])]

/-- A video frame in front of the first key frame is not due. -/
theorem skip (h : Delivered given offered) (hf : f.trackId = .video) (hkey : f.keyFrame = false)
    (hopen : given.any FrameCall.opens = false) : Delivered (given ++ [f]) offered := by
  refine ⟨?_, ?_, h.order.trans (List.sublist_append_left given [f])⟩
  · have ha : [f].filter (·.trackId = .audio) = [] := by simp [hf]
    rw [List.filter_append, ha, List.append_nil, h.audio]
  · have hv : [f].filter (·.trackId = .video) = [f] := by simp [hf]
    have hnil := dropWhile_eq_nil.mpr hopen
    rw [List.filter_append, hv, h.video, List.dropWhile_append, hnil]
    simp [hkey]

end Delivered

/-! ## The machine -/

/-- A session's `pVideoRtcRtpTransceiver` or `pAudioRtcRtpTransceiver`. -/
structure RtcRtpTransceiver where
  session : PStreamingSession
  trackId : TrackId
  deriving DecidableEq

/-- A call of `writeFrame` during the call `number` of the hook. -/
structure WriteFrame where
  transceiver : RtcRtpTransceiver
  number : Nat
  frame : Frame
  status : Status

def WriteFrame.given (w : WriteFrame) : FrameCall := ⟨w.number, w.frame.trackId, w.frame.keyFrame⟩

/-- One round of the loop of `onMediaSinkHook`, with what its `writeFrame` returns: `retStatus`
behind it, what it wrote, and the configuration. -/
def sinkRound (writeFrame : Status) (frame : Frame) (p : PStreamingSession) (c : AppConfiguration) :
    Status × Option (RtcRtpTransceiver × Frame) × AppConfiguration :=
  if frame.trackId = .video ∧ (c.session p).firstKeyFrame = false ∧ frame.keyFrame = false then
    (.success, none, c)
  else
    let frame := { frame with index := UInt32.ofNat (c.session p).frameIndex }
    let c := c.modifySession p fun s => { s with
      firstKeyFrame := s.firstKeyFrame || decide (frame.trackId = .video)
      frameIndex := s.frameIndex + 1 }
    let transceiver := if frame.trackId = .audio then ⟨p, .audio⟩ else ⟨p, .video⟩
    let retStatus := writeFrame
    let retStatus := if retStatus != .success then .success else retStatus
    (retStatus, some (transceiver, frame), c)

/-- `calls` counts the calls of the hook that got the lock, and `retStatus` is that of the last. -/
structure Delivery where
  world : World
  calls : Nat
  given : PStreamingSession → List FrameCall
  writes : List WriteFrame
  retStatus : Status

namespace Delivery

def start (latched : Bool) : Delivery := ⟨World.start latched, 0, fun _ => [], [], .success⟩

/-- The hook gets the lock. -/
def takeFrame (frame : Frame) (d : Delivery) : Delivery :=
  { d with
    calls := d.calls + 1
    given := fun p =>
      if p ∈ d.world.app.streamingSessionList then
        d.given p ++ [⟨d.calls + 1, frame.trackId, frame.keyFrame⟩]
      else d.given p
    retStatus := .success }

/-- The hook's round with the session at `p`. -/
def writeRound (writeFrame : Status) (frame : Frame) (p : PStreamingSession) (d : Delivery) :
    Delivery :=
  let r := sinkRound writeFrame frame p d.world.app
  { d with
    writes := d.writes ++ r.2.1.toList.map fun x => ⟨x.1, d.calls, x.2, writeFrame⟩
    retStatus := r.1 }

/-- A step of the application, with what `writeFrame` returns if the step gets there. -/
def step (d : Delivery) (a : Action × Status) : Delivery :=
  let d' : Delivery :=
    match a.1 with
    | .mediaFrame frame => if d.world.readLockFree then d.takeFrame frame else d
    | .advanceHook =>
      match d.world.hook with
      | some (frame, i) =>
        if i < d.world.app.streamingSessionList.length then
          d.writeRound a.2 frame (d.world.app.streamingSessionList.getD i 0)
        else d
      | none => d
    | _ => d
  { d' with world := d.world.step a.1 }

/-- The hook is in its loop, with the round of `p` to come. -/
def pending (d : Delivery) (p : PStreamingSession) : Bool :=
  match d.world.hook with
  | some (_, i) => decide (p ∈ d.world.app.streamingSessionList.drop i)
  | none => false

/-- The frames given to `p`, less the one whose round with `p` is to come. -/
def settled (d : Delivery) (p : PStreamingSession) : List FrameCall :=
  if d.pending p then (d.given p).dropLast else d.given p

/-- The frames offered to `p`. -/
def offers (d : Delivery) (p : PStreamingSession) : List WriteFrame :=
  d.writes.filter (·.transceiver.session = p)

end Delivery

/-- What `p` has been offered is what was due, each frame once and in order, under consecutive
indexes, and on its own transceivers. -/
structure FramesDelivered (d : Delivery) (p : PStreamingSession) : Prop where
  delivered : Delivered (d.settled p) ((d.offers p).map WriteFrame.given)
  once : (d.given p).Pairwise (·.number < ·.number)
  indexes : (d.offers p).map (·.frame.index) =
    (List.range (d.offers p).length).map UInt32.ofNat
  transceivers : ∀ w ∈ d.offers p, w.transceiver = ⟨p, w.frame.trackId⟩

/-! ## The gate and the index of a session -/

/-- The fields of a session that the hook reads and writes. -/
def AppConfiguration.gate (c : AppConfiguration) (p : PStreamingSession) : Nat × Bool :=
  ((c.session p).frameIndex, (c.session p).firstKeyFrame)

section
variable {c c' : AppConfiguration} {p q : PStreamingSession}

theorem gate_of_sessions (h : c'.sessions = c.sessions) : c'.gate q = c.gate q :=
  congrArg (fun a : Arena StreamingSession => ((a.read q).frameIndex, (a.read q).firstKeyFrame)) h

theorem gate_modifySession (f : StreamingSession → StreamingSession)
    (hindex : ∀ s, (f s).frameIndex = s.frameIndex)
    (hkey : ∀ s, (f s).firstKeyFrame = s.firstKeyFrame) : (c.modifySession p f).gate q = c.gate q := by
  rcases Arena.read_modify_cases c.sessions p f q with h | h
  · have hq : (c.modifySession p f).session q = c.session q := h
    rw [AppConfiguration.gate, hq]
    rfl
  · have hq : (c.modifySession p f).session q = f (c.session q) := h
    rw [AppConfiguration.gate, hq, hindex, hkey]
    rfl

theorem gate_freeStreamingSession : (freeStreamingSession p c).2.gate q = c.gate q := by
  have hfree : ∀ c : AppConfiguration, (c.setSessions (c.sessions.free p)).gate q = c.gate q := by
    intro c
    have hq : (c.setSessions (c.sessions.free p)).session q = c.session q := Arena.read_free ..
    rw [AppConfiguration.gate, hq]
    rfl
  unfold freeStreamingSession
  simp only
  split
  · rfl
  · rw [hfree, gate_modifySession, gate_of_sessions sessions_cancelStatsTimer, gate_modifySession]
    all_goals intros; rfl

theorem gate_setUpStreamingSession (env : Env) (peerId : ClientId) :
    (setUpStreamingSession env peerId p c).2.gate q = c.gate q := by
  unfold setUpStreamingSession
  simp only
  split
  · rfl
  · simp only
    rw [gate_modifySession, gate_of_sessions (sessions_initializePeerConnection env),
      gate_modifySession]
    all_goals intros; rfl

/-- A new session starts at index 0 with its gate closed, as the memory of no session reads. -/
theorem gate_createStreamingSession (env : Env) (peerId : ClientId) :
    (createStreamingSession env peerId c).2.2.gate q = c.gate q := by
  have halloc : (c.setSessions (c.sessions.alloc default)).gate q = c.gate q := by
    have hq : (c.setSessions (c.sessions.alloc default)).session q = c.session q :=
      Arena.read_alloc_default ..
    rw [AppConfiguration.gate, hq]
    rfl
  unfold createStreamingSession
  simp only
  split
  · rfl
  · split
    · exact gate_freeStreamingSession.trans ((gate_setUpStreamingSession env peerId).trans halloc)
    · exact (gate_setUpStreamingSession env peerId).trans halloc

theorem gate_handleOffer (env : Env) : (handleOffer env p c).2.gate q = c.gate q := by
  have hanswer : ∀ c : AppConfiguration, (respondWithAnswer env p c).2.gate q = c.gate q := by
    intro c
    unfold respondWithAnswer
    split <;> rfl
  have hmod : ((c.touchSession p).modifySession p fun s =>
      { s with remoteCanTrickleIce := env.canTrickle }).gate q = c.gate q :=
    gate_modifySession _ (fun _ => rfl) fun _ => rfl
  unfold handleOffer
  simp only
  split
  · rfl
  split
  · rfl
  split
  · exact hmod
  split
  · exact hmod
  split
  · exact hmod
  split
  · exact (hanswer _).trans hmod
  · exact (hanswer _).trans hmod

theorem gate_onConnectionStateChange (newState : RtcPeerConnectionState) :
    (onConnectionStateChange p newState c).gate q = c.gate q := by
  have hmod : ((c.touchSession p).modifySession p fun s => { s with terminateFlag := true }).gate q =
      c.gate q := gate_modifySession _ (fun _ => rfl) fun _ => rfl
  unfold onConnectionStateChange
  cases newState
  case connected => rfl
  case other => rfl
  all_goals exact hmod

variable {w : World}

theorem World.gate_advance (h : WorldOk w) : w.advance.app.gate q = w.app.gate q := by
  obtain ⟨c, holder, hook, adds⟩ := w
  cases holder with
  | idle => rfl
  | offerCreated env key p =>
    have hmod : (listSession env p c).gate q = c.gate q :=
      gate_modifySession (c := c) (q := q) _ (by intros; rfl) (by intros; rfl)
    simp only [World.advance]
    split
    · exact hmod
    · rfl
  | offerListed env key p => exact gate_handleOffer env
  | offerAnswered env key p =>
    simp only [World.advance]
    split <;> rfl
  | offerEntered env key p =>
    obtain ⟨s, ms, hd⟩ := drainPending_eq env key (h.sessions.listed_live h.holder.1)
    show (drainPending env key p c).2.gate q = c.gate q
    rw [hd]
    rfl
  | sweepScan env n i =>
    simp only [World.advance]
    split
    · rfl
    · exact gate_of_sessions (pollSignaling_eq env).1
  | sweepFound env n i p =>
    simp only [World.advance]
    split <;> rfl
  | sweepUnlinked env n i p => exact gate_of_sessions (sweepRemove_cases env n).1
  | sweepRemoved env n i p => exact gate_freeStreamingSession
  | eosHook i =>
    simp only [World.advance]
    split
    · exact gate_modifySession _ (by intros; rfl) (by intros; rfl)
    · rfl

/-- Only a round of the hook changes a gate or an index. -/
theorem World.gate_step (h : WorldOk w) {a : Action} (ha : a ≠ .advanceHook) :
    (w.step a).app.gate q = w.app.gate q := by
  have hwhen : ∀ w' : World, w'.app.gate q = w.app.gate q → (w.whenIdle w').app.gate q = w.app.gate q :=
    fun w' hw => World.whenIdle_elim (P := fun x => x.app.gate q = w.app.gate q) rfl fun _ => hw
  cases a with
  | receive env msg =>
    apply hwhen
    refine World.receive_elim (P := fun c => c.gate q = w.app.gate q) ?_ fun hno => ?_
    · exact gate_createStreamingSession env msg.signalingMessage.peerClientId
    · exact gate_of_sessions (unlisted_onSignalingMessageReceived env msg h.sessions hno).1
  | poll env => exact hwhen _ rfl
  | mediaEos => exact hwhen _ rfl
  | advance => exact World.gate_advance h
  | addStats =>
    obtain ⟨id, happ⟩ := w.app_addStats
    show w.addStats.app.gate q = _
    rw [happ]
    rfl
  | mediaFrame frame =>
    show (if w.readLockFree then _ else w).app.gate q = w.app.gate q
    split <;> rfl
  | advanceHook => exact absurd rfl ha
  | connectionStateChange p st =>
    show (if w.app.sessions.live p then _ else w).app.gate q = w.app.gate q
    split
    · exact gate_onConnectionStateChange st
    · rfl
  | mediaSenderDone => rfl
  | restartRequested => rfl
  | pregenerateCert env => exact hwhen _ rfl

/-! ## The list and the hook -/

theorem World.readLockFree_of_hook {x : Frame × Nat} (hx : w.hook = some x) :
    w.readLockFree = false := by
  simp [World.readLockFree, hx]

/-- The list is not changed while the hook is in its loop. -/
theorem World.list_of_hook (h : WorldOk w) {x : Frame × Nat} (hx : w.hook = some x) (a : Action) :
    (w.step a).app.streamingSessionList = w.app.streamingSessionList := by
  have hlock := World.readLockFree_of_hook hx
  cases a
  case advance =>
    apply (World.list_advance h).trans
    unfold World.nextList
    rw [hlock]
    split <;> rfl
  all_goals exact World.list_step h Action.noConfusion

theorem World.hook_advance : w.advance.hook = w.hook := by
  obtain ⟨c, holder, hook, adds⟩ := w
  cases holder <;> simp only [World.advance] <;> split_ifs <;> rfl

theorem World.hook_step {a : Action} (ha : a ≠ .advanceHook) (hf : ∀ frame, a ≠ .mediaFrame frame) :
    (w.step a).hook = w.hook := by
  have hwhen : ∀ w' : World, w'.hook = w.hook → (w.whenIdle w').hook = w.hook := fun w' hw =>
    World.whenIdle_elim (P := fun x => x.hook = w.hook) rfl fun _ => hw
  cases a with
  | receive env msg =>
    apply hwhen
    unfold World.receive
    simp only
    split
    · split <;> rfl
    · rfl
  | poll env => exact hwhen _ rfl
  | mediaEos => exact hwhen _ rfl
  | advance => exact World.hook_advance
  | addStats =>
    show w.addStats.hook = w.hook
    unfold World.addStats
    split <;> rfl
  | mediaFrame frame => exact absurd rfl (hf frame)
  | advanceHook => exact absurd rfl ha
  | connectionStateChange p st =>
    show (if w.app.sessions.live p then _ else w).hook = w.hook
    split <;> rfl
  | mediaSenderDone => rfl
  | restartRequested => rfl
  | pregenerateCert env => exact hwhen _ rfl

end

/-! ## A round of the hook -/

section
variable {c : AppConfiguration} {p q : PStreamingSession} {frame : Frame} {st : Status}

/-- `sinkFrame` is the round, whatever its `writeFrame` returns. -/
theorem sinkFrame_eq (st : Status) (hp : c.sessions.live p = true) :
    sinkFrame frame p c = { (sinkRound st frame p c).2.2 with
      frames := c.frames ++ ((sinkRound st frame p c).2.1.map fun x => (p, x.2)).toList } := by
  unfold sinkFrame sinkRound
  simp only [touchSession_of_live hp]
  split
  · simp
  · rfl

/-- A failed `writeFrame` is gone from `retStatus` when the round ends. -/
theorem sinkRound_status : (sinkRound st frame p c).1 = .success := by
  unfold sinkRound
  split
  · rfl
  · simp only
    split
    · rfl
    · next h => simpa using h

/-- A round offers the frame under the session's index, or the session waits for a key frame. -/
theorem sinkRound_cases (st : Status) (frame : Frame) (hp : c.sessions.live p = true) :
    (frame.trackId = .video ∧ (c.gate p).2 = false ∧ frame.keyFrame = false ∧
        (sinkRound st frame p c).2 = (none, c)) ∨
      ((frame.trackId = .audio ∨ (c.gate p).2 = true ∨ frame.keyFrame = true) ∧
        (sinkRound st frame p c).2.1 = some (⟨p, frame.trackId⟩,
          { frame with index := UInt32.ofNat (c.gate p).1 }) ∧
        (sinkRound st frame p c).2.2.gate p =
          ((c.gate p).1 + 1, (c.gate p).2 || decide (frame.trackId = .video))) := by
  unfold sinkRound
  split
  · next h => exact Or.inl ⟨h.1, h.2.1, h.2.2, rfl⟩
  · next h =>
    refine Or.inr ⟨?_, ?_, ?_⟩
    · cases ht : frame.trackId with
      | audio => exact Or.inl rfl
      | video =>
        cases hg : (c.session p).firstKeyFrame with
        | true => exact Or.inr (Or.inl hg)
        | false => exact Or.inr (Or.inr ((Bool.not_eq_false _).mp fun hk => h ⟨ht, hg, hk⟩))
    · cases frame.trackId <;> simp [AppConfiguration.gate]
    · simp only [AppConfiguration.gate, session_modifySession_self _ hp]

theorem gate_sinkFrame (st : Status) (hp : c.sessions.live p = true) :
    (sinkFrame frame p c).gate q = (sinkRound st frame p c).2.2.gate q := by
  rw [sinkFrame_eq st hp]
  rfl

theorem gate_sinkFrame_of_ne (hne : p ≠ q) : (sinkFrame frame p c).gate q = c.gate q := by
  unfold sinkFrame
  simp only
  split
  · rfl
  · have hq : ∀ f, ((c.touchSession p).modifySession p f).session q = c.session q :=
      fun f => session_modifySession_of_ne f hne
    simp only [AppConfiguration.gate]
    exact Prod.ext (congrArg StreamingSession.frameIndex (hq _))
      (congrArg StreamingSession.firstKeyFrame (hq _))

end

/-- What one session has been offered agrees with its two fields. -/
structure SessionOk (given : List FrameCall) (offers : List WriteFrame) (gate : Nat × Bool)
    (p : PStreamingSession) : Prop where
  delivered : Delivered given (offers.map WriteFrame.given)
  indexes : offers.map (·.frame.index) = (List.range offers.length).map UInt32.ofNat
  transceivers : ∀ w ∈ offers, w.transceiver = ⟨p, w.frame.trackId⟩
  gate : gate = (offers.length, given.any FrameCall.opens)

namespace SessionOk

variable {given : List FrameCall} {offers : List WriteFrame} {gate : Nat × Bool}
  {p : PStreamingSession} {frame : Frame} {number : Nat}

theorem nil (p : PStreamingSession) : SessionOk [] [] (0, false) p :=
  ⟨Delivered.nil, rfl, fun _ h => absurd h List.not_mem_nil, rfl⟩

theorem skip (h : SessionOk given offers gate p) (ht : frame.trackId = .video)
    (hg : gate.2 = false) (hk : frame.keyFrame = false) :
    SessionOk (given ++ [⟨number, frame.trackId, frame.keyFrame⟩]) offers gate p := by
  have hclosed : given.any FrameCall.opens = false := (congrArg Prod.snd h.gate).symm.trans hg
  refine ⟨h.delivered.skip ht hk hclosed, h.indexes, h.transceivers, ?_⟩
  rw [h.gate, List.any_append]
  simp [FrameCall.opens, hk]

theorem offer (h : SessionOk given offers gate p) (st : Status)
    (hdue : frame.trackId = .audio ∨ gate.2 = true ∨ frame.keyFrame = true) :
    SessionOk (given ++ [⟨number, frame.trackId, frame.keyFrame⟩])
      (offers ++ [⟨⟨p, frame.trackId⟩, number, { frame with index := UInt32.ofNat gate.1 }, st⟩])
      (gate.1 + 1, gate.2 || decide (frame.trackId = .video)) p := by
  have hopen : gate.2 = given.any FrameCall.opens := congrArg Prod.snd h.gate
  have hlen : gate.1 = offers.length := congrArg Prod.fst h.gate
  refine ⟨?_, ?_, fun w hw => ?_, ?_⟩
  · rw [List.map_append]
    cases ht : frame.trackId with
    | audio => exact h.delivered.audio_snoc rfl
    | video =>
      apply h.delivered.video_snoc rfl
      rw [← hopen]
      exact hdue.resolve_left (by rw [ht]; exact TrackId.noConfusion)
  · rw [List.map_append, h.indexes, List.length_append, List.length_singleton, List.range_succ,
      List.map_append, hlen]
    rfl
  · rcases List.mem_append.mp hw with hw | hw
    · exact h.transceivers w hw
    · rw [List.mem_singleton.mp hw]
  · rw [List.length_append, List.length_singleton, List.any_append, ← hopen, hlen]
    refine Prod.ext rfl ?_
    cases ht : frame.trackId with
    | audio => simp [FrameCall.opens]
    | video =>
      -- the gate was open, or this key frame opens it
      rcases hdue.resolve_left (by rw [ht]; exact TrackId.noConfusion) with hg | hk
      · simp [hg]
      · simp [FrameCall.opens, hk]

end SessionOk

/-! ## Every step keeps the invariant -/

structure DeliveryOk (d : Delivery) : Prop where
  world : WorldOk d.world
  sessions : ∀ p, SessionOk (d.settled p) (d.offers p) (d.world.app.gate p) p
  numbers : ∀ p, ∀ f ∈ d.given p, f.number ≤ d.calls
  once : ∀ p, (d.given p).Pairwise (·.number < ·.number)
  current : ∀ frame i, d.world.hook = some (frame, i) → ∀ p ∈ d.world.app.streamingSessionList,
    ∃ l, d.given p = l ++ [⟨d.calls, frame.trackId, frame.keyFrame⟩]
  retStatus : d.retStatus = .success

section
variable {d : Delivery} {w' : World} {p q : PStreamingSession} {frame : Frame} {i : Nat}

theorem Delivery.settled_of_none (h : d.world.hook = none) : d.settled p = d.given p := by
  simp [Delivery.settled, Delivery.pending, h]

theorem Delivery.settled_of_hook (h : d.world.hook = some (frame, i)) :
    d.settled p = if p ∈ d.world.app.streamingSessionList.drop i then (d.given p).dropLast
      else d.given p := by
  simp [Delivery.settled, Delivery.pending, h]

namespace DeliveryOk

theorem start (latched : Bool) : DeliveryOk (Delivery.start latched) where
  world := WorldOk.start latched
  sessions p := SessionOk.nil p
  numbers _ _ h := absurd h List.not_mem_nil
  once _ := List.Pairwise.nil
  current _ _ _ _ h := absurd h List.not_mem_nil
  retStatus := rfl

/-- A step that the hook's loop does not see. -/
theorem quiet (h : DeliveryOk d) (hw : WorldOk w') (hhook : w'.hook = d.world.hook)
    (hlist : ∀ x, d.world.hook = some x → w'.app.streamingSessionList = d.world.app.streamingSessionList)
    (hgate : ∀ q, w'.app.gate q = d.world.app.gate q) : DeliveryOk { d with world := w' } := by
  have hsettled : ∀ p, ({ d with world := w' } : Delivery).settled p = d.settled p := by
    intro p
    cases hh : d.world.hook with
    | none => rw [Delivery.settled_of_none hh, Delivery.settled_of_none (hhook.trans hh)]
    | some x =>
      rw [Delivery.settled_of_hook hh, Delivery.settled_of_hook (hhook.trans hh), hlist x hh]
  refine { h with world := hw, sessions := fun p => ?_, current := fun frame i hx q hq => ?_ }
  · rw [hsettled, hgate]
    exact h.sessions p
  · rw [hhook] at hx
    rw [hlist _ hx] at hq
    exact h.current frame i hx q hq

/-- The hook gets the lock, and no round has been made with the frame. -/
theorem takeFrame (h : DeliveryOk d) (hw : WorldOk w') (hnone : d.world.hook = none)
    (hhook : w'.hook = some (frame, 0)) (happ : w'.app = d.world.app) :
    DeliveryOk { d.takeFrame frame with world := w' } := by
  have hin : ∀ {q}, q ∈ d.world.app.streamingSessionList → (d.takeFrame frame).given q =
      d.given q ++ [⟨d.calls + 1, frame.trackId, frame.keyFrame⟩] := fun hq => if_pos hq
  have hout : ∀ {q}, q ∉ d.world.app.streamingSessionList → (d.takeFrame frame).given q = d.given q :=
    fun hq => if_neg hq
  refine ⟨hw, fun p => ?_, fun p f hf => ?_, fun p => ?_, fun fr i hx q hq => ?_, rfl⟩
  · have hsettled : ({ d.takeFrame frame with world := w' } : Delivery).settled p = d.settled p := by
      rw [Delivery.settled_of_none hnone, Delivery.settled_of_hook hhook, happ, List.drop_zero]
      split
      · next hq => rw [hin hq, List.dropLast_concat]
      · next hq => exact hout hq
    rw [hsettled]
    show SessionOk _ (d.offers p) (w'.app.gate p) p
    rw [happ]
    exact h.sessions p
  · show f.number ≤ d.calls + 1
    by_cases hq : p ∈ d.world.app.streamingSessionList
    · rcases List.mem_append.mp (hin hq ▸ hf) with hf | hf
      · exact Nat.le_succ_of_le (h.numbers p f hf)
      · rw [List.mem_singleton.mp hf]
    · exact Nat.le_succ_of_le (h.numbers p f (hout hq ▸ hf))
  · by_cases hq : p ∈ d.world.app.streamingSessionList
    · show ((d.takeFrame frame).given p).Pairwise _
      rw [hin hq]
      refine List.pairwise_append.mpr ⟨h.once p, List.pairwise_singleton _ _, fun f hf g hg => ?_⟩
      rw [List.mem_singleton.mp hg]
      exact Nat.lt_succ_of_le (h.numbers p f hf)
    · show ((d.takeFrame frame).given p).Pairwise _
      rw [hout hq]
      exact h.once p
  · obtain ⟨rfl, rfl⟩ := Prod.mk.inj (Option.some.inj (hhook.symm.trans hx))
    exact ⟨d.given q, hin (happ ▸ hq)⟩

/-- Of the rounds to come only the one with `p` is made. -/
theorem mem_drop_getD {l : List PStreamingSession} (hnd : l.Nodup) (hi : i < l.length) :
    (q ∈ l.drop i ↔ q = l.getD i 0 ∨ q ∈ l.drop (i + 1)) ∧ l.getD i 0 ∉ l.drop (i + 1) := by
  have hdrop : l.drop i = l.getD i 0 :: l.drop (i + 1) := by
    rw [List.getD_eq_getElem _ _ hi]
    exact List.drop_eq_getElem_cons hi
  refine ⟨by rw [hdrop, List.mem_cons], ?_⟩
  have hcons : (l.getD i 0 :: l.drop (i + 1)).Nodup := hdrop ▸ hnd.sublist (List.drop_sublist i l)
  exact (List.nodup_cons.mp hcons).1

/-- The round of one session. -/
theorem writeRound (h : DeliveryOk d) (st : Status) (hx : d.world.hook = some (frame, i))
    (hi : i < d.world.app.streamingSessionList.length) (hw : WorldOk w')
    (hhook : w'.hook = some (frame, i + 1))
    (happ : w'.app = sinkFrame frame (d.world.app.streamingSessionList.getD i 0) d.world.app) :
    DeliveryOk { d.writeRound st frame (d.world.app.streamingSessionList.getD i 0) with
      world := w' } := by
  obtain ⟨hmem, hlive⟩ := h.world.getD_live hi
  have hdrop := fun q => @mem_drop_getD q i _ h.world.sessions.nodup hi
  generalize d.world.app.streamingSessionList.getD i 0 = p at *
  have hlist : w'.app.streamingSessionList = d.world.app.streamingSessionList := by
    rw [happ]
    exact (sinkFrame_kept frame hlive).list
  obtain ⟨l, hl⟩ := h.current frame i hx p hmem
  -- what the round writes is `p`'s
  have hwrites : ∃ new : List WriteFrame, (∀ w ∈ new, w.transceiver.session = p) ∧
      (d.writeRound st frame p).writes = d.writes ++ new ∧
      SessionOk (l ++ [⟨d.calls, frame.trackId, frame.keyFrame⟩]) (d.offers p ++ new)
        (w'.app.gate p) p := by
    have hok : SessionOk l (d.offers p) (d.world.app.gate p) p := by
      have := h.sessions p
      rwa [Delivery.settled_of_hook hx, if_pos ((hdrop p).1.mpr (Or.inl rfl)), hl,
        List.dropLast_concat] at this
    rw [happ, gate_sinkFrame st hlive]
    rcases sinkRound_cases st frame hlive with ⟨ht, hg, hk, hr⟩ | ⟨hdue, hwrite, hgate⟩
    · refine ⟨[], fun _ hm => absurd hm List.not_mem_nil, ?_, ?_⟩
      · simp [Delivery.writeRound, hr]
      · rw [List.append_nil, hr]
        exact hok.skip ht hg hk
    · refine ⟨[⟨⟨p, frame.trackId⟩, d.calls,
        { frame with index := UInt32.ofNat (d.world.app.gate p).1 }, st⟩], fun w hm => ?_, ?_, ?_⟩
      · rw [List.mem_singleton.mp hm]
      · simp [Delivery.writeRound, hwrite]
      · rw [hgate]
        exact hok.offer st hdue
  obtain ⟨new, hnew, hwr, hok⟩ := hwrites
  refine ⟨hw, fun q => ?_, h.numbers, h.once, fun fr k hk q hq => ?_, sinkRound_status⟩
  · have hsettled : ({ d.writeRound st frame p with world := w' } : Delivery).settled q =
        if q ∈ d.world.app.streamingSessionList.drop (i + 1) then (d.given q).dropLast
        else d.given q := by
      rw [Delivery.settled_of_hook hhook, hlist]
      rfl
    have hoffers : ({ d.writeRound st frame p with world := w' } : Delivery).offers q =
        d.offers q ++ new.filter (·.transceiver.session = q) := by
      show ((d.writeRound st frame p).writes).filter _ = _
      rw [hwr, List.filter_append]
      rfl
    rw [hsettled, hoffers]
    by_cases hqp : q = p
    · subst hqp
      have hall : new.filter (·.transceiver.session = q) = new :=
        List.filter_eq_self.mpr fun w hm => decide_eq_true (hnew w hm)
      rw [if_neg (hdrop q).2, hl, hall]
      exact hok
    · have hnone : new.filter (·.transceiver.session = q) = [] := by
        refine List.filter_eq_nil_iff.mpr fun w hm e => hqp ?_
        exact (of_decide_eq_true e).symm.trans (hnew w hm)
      have hsame := h.sessions q
      rw [Delivery.settled_of_hook hx] at hsame
      rw [hnone, List.append_nil, show w'.app.gate q = d.world.app.gate q by
        rw [happ]; exact gate_sinkFrame_of_ne (Ne.symm hqp)]
      by_cases hq : q ∈ d.world.app.streamingSessionList.drop (i + 1)
      · rw [if_pos hq]
        rwa [if_pos ((hdrop q).1.mpr (Or.inr hq))] at hsame
      · rw [if_neg hq]
        rwa [if_neg fun e => ((hdrop q).1.mp e).elim hqp hq] at hsame
  · obtain ⟨rfl, -⟩ := Prod.mk.inj (Option.some.inj (hhook.symm.trans hk))
    exact h.current frame i hx q (hlist ▸ hq)

/-- The hook leaves its loop, with every round made. -/
theorem hookDone (h : DeliveryOk d) (hx : d.world.hook = some (frame, i))
    (hi : ¬ i < d.world.app.streamingSessionList.length) (hw : WorldOk w') (hhook : w'.hook = none)
    (happ : w'.app = d.world.app) : DeliveryOk { d with world := w' } := by
  refine { h with
    world := hw
    sessions := fun p => ?_
    current := fun fr k hk => absurd (hhook.symm.trans hk) (Option.some_ne_none _).symm }
  have hnil : d.world.app.streamingSessionList.drop i = [] :=
    List.drop_eq_nil_of_le (Nat.le_of_not_lt hi)
  have hsame := h.sessions p
  rw [Delivery.settled_of_hook hx, hnil, if_neg List.not_mem_nil] at hsame
  rw [Delivery.settled_of_none (p := p) (d := { d with world := w' }) hhook]
  show SessionOk _ _ (w'.app.gate p) p
  rw [happ]
  exact hsame

theorem step (h : DeliveryOk d) (a : Action × Status) : DeliveryOk (d.step a) := by
  obtain ⟨a, st⟩ := a
  have hw := h.world.step a
  have hquiet : a ≠ .advanceHook → (∀ frame, a ≠ .mediaFrame frame) →
      DeliveryOk { d with world := d.world.step a } := fun ha hf =>
    h.quiet hw (World.hook_step ha hf) (fun _ hx => World.list_of_hook h.world hx a)
      fun _ => World.gate_step h.world ha
  cases a
  case mediaFrame frame =>
    show DeliveryOk { (if d.world.readLockFree then d.takeFrame frame else d) with
      world := if d.world.readLockFree then { d.world with hook := some (frame, 0) } else d.world }
    split
    · next hfree =>
      refine h.takeFrame ⟨h.world.sessions, h.world.holder⟩ ?_ rfl rfl
      cases hx : d.world.hook with
      | none => rfl
      | some x => exact absurd ((World.readLockFree_of_hook hx).symm.trans hfree) Bool.noConfusion
    · exact h
  case advanceHook =>
    have hw' : WorldOk d.world.advanceHook := hw
    show DeliveryOk { (match d.world.hook with
      | some (frame, i) =>
        if i < d.world.app.streamingSessionList.length then
          d.writeRound st frame (d.world.app.streamingSessionList.getD i 0)
        else d
      | none => d) with world := d.world.advanceHook }
    unfold World.advanceHook at hw' ⊢
    cases hx : d.world.hook with
    | none =>
      simp only
      exact h
    | some x =>
      obtain ⟨frame, i⟩ := x
      rw [hx] at hw'
      simp only at hw' ⊢
      split
      · next hi =>
        rw [if_pos hi] at hw'
        exact h.writeRound st hx hi hw' rfl rfl
      · next hi =>
        rw [if_neg hi] at hw'
        exact h.hookDone hx hi hw' rfl rfl
  all_goals exact hquiet Action.noConfusion fun _ => Action.noConfusion

theorem framesDelivered (h : DeliveryOk d) (p : PStreamingSession) : FramesDelivered d p :=
  ⟨(h.sessions p).delivered, h.once p, (h.sessions p).indexes, (h.sessions p).transceivers⟩

end DeliveryOk

/-- Nothing keeps the hook in its loop. -/
theorem World.hook_ends {w : World} (h : WorldOk w) :
    ∃ k, (Run.exec World.step w (List.replicate k .advanceHook)).hook = none := by
  cases hx : w.hook with
  | none => exact ⟨0, hx⟩
  | some x =>
    obtain ⟨frame, i⟩ := x
    generalize hm : w.app.streamingSessionList.length - i = m
    induction m generalizing w i with
    | zero =>
      refine ⟨1, ?_⟩
      show w.advanceHook.hook = none
      unfold World.advanceHook
      rw [hx]
      simp only
      rw [if_neg (by omega)]
    | succ m ih =>
      have hi : i < w.app.streamingSessionList.length := by omega
      have hstep : w.advanceHook = { w with
          app := sinkFrame frame (w.app.streamingSessionList.getD i 0) w.app
          hook := some (frame, i + 1) } := by
        unfold World.advanceHook
        rw [hx]
        exact if_pos hi
      have hlist := (sinkFrame_kept frame (h.getD_live hi).2).list
      obtain ⟨k, hk⟩ := ih h.advanceHook (i + 1) (by rw [hstep]) (by rw [hstep, hlist]; omega)
      exact ⟨k + 1, hk⟩

/-! ## Failed writes -/

/-- The call as it was made. -/
def WriteFrame.call (w : WriteFrame) : RtcRtpTransceiver × Nat × Frame :=
  (w.transceiver, w.number, w.frame)

/-- The two agree on everything but on what `writeFrame` returned. -/
structure SameDelivery (d d' : Delivery) : Prop where
  world : d'.world = d.world
  calls : d'.calls = d.calls
  given : d'.given = d.given
  writes : d'.writes.map WriteFrame.call = d.writes.map WriteFrame.call
  retStatus : d'.retStatus = d.retStatus

namespace SameDelivery

variable {d' : Delivery}

theorem refl (d : Delivery) : SameDelivery d d := ⟨rfl, rfl, rfl, rfl, rfl⟩

theorem writeRound (h : SameDelivery d d') (st st' : Status) :
    SameDelivery (d.writeRound st frame p) (d'.writeRound st' frame p) := by
  have hround : (sinkRound st' frame p d'.world.app).2 = (sinkRound st frame p d.world.app).2 := by
    rw [h.world]
    unfold sinkRound
    split <;> rfl
  refine ⟨h.world, h.calls, h.given, ?_, sinkRound_status.trans sinkRound_status.symm⟩
  simp only [Delivery.writeRound, hround, h.calls, List.map_append, h.writes, List.map_map]
  rfl

theorem step (h : SameDelivery d d') (a : Action) (st st' : Status) :
    SameDelivery (d.step (a, st)) (d'.step (a, st')) := by
  have hquiet : ∀ w : World, SameDelivery { d with world := w } { d' with world := w } :=
    fun w => { h with world := rfl }
  cases a
  case mediaFrame frame =>
    unfold Delivery.step
    simp only [h.world]
    split
    · exact ⟨rfl, congrArg (· + 1) h.calls, by simp only [Delivery.takeFrame, h.world, h.given, h.calls],
        h.writes, rfl⟩
    · exact hquiet _
  case advanceHook =>
    unfold Delivery.step
    simp only [h.world]
    split
    · split
      · exact { h.writeRound st st' with world := rfl }
      · exact hquiet _
    · exact hquiet _
  all_goals
    unfold Delivery.step
    simp only [h.world]
    exact hquiet _

theorem exec (h : SameDelivery d d') (as : List (Action × Status)) (other : Nat → Status) :
    SameDelivery (Run.exec Delivery.step d as)
      (Run.exec Delivery.step d' (as.mapIdx fun n a => (a.1, other n))) := by
  induction as generalizing d d' other with
  | nil => exact h
  | cons a as ih =>
    rw [List.mapIdx_cons]
    exact ih (h.step a.1 a.2 (other 0)) fun n => other (n + 1)

end SameDelivery

end

/-- In every run each session has been offered what it was due, and other results of `writeFrame`
would have changed nothing. -/
theorem frames_delivered (latched : Bool) (as : List (Action × Status)) (other : Nat → Status) :
    let d := Run.exec Delivery.step (Delivery.start latched) as
    (∀ p, FramesDelivered d p) ∧ d.retStatus = .success ∧
      SameDelivery d (Run.exec Delivery.step (Delivery.start latched)
        (as.mapIdx fun n a => (a.1, other n))) := by
  have h : DeliveryOk (Run.exec Delivery.step (Delivery.start latched) as) :=
    Run.Reachable.invariant (DeliveryOk.start latched) (fun _ a h => h.step a) ⟨as, rfl⟩
  exact ⟨h.framesDelivered, h.retStatus, (SameDelivery.refl _).exec as other⟩

end WebrtcApp
