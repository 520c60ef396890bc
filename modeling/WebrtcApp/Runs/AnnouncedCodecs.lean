import WebrtcApp.Runs.Discovery
import WebrtcApp.Runs.MediaThread
import WebrtcApp.Runs.PadSinks
import WebrtcApp.Runs.SessionSteps

/-!
# The codecs of the sessions and of the sinks

`createStreamingSession` asks the media source for the codecs of its two tracks, and
`onRtspSrcPadAdded` chooses the depayloaders by them.  The source stores them while it discovers,
in the handler of an OFFER or in `initApp`; the pipeline runs in another thread.

    announced_codecs       a session announces the two codecs by which every sink is chosen
    one_stream_unserved    a camera that offers one stream only has no session

Both rest on one invariant (`CodecsOk`): a session exists only with both codecs latched, and what
is latched stays (`sameConfig_isMediaSourceReady`).
-/

namespace WebrtcApp

open RtspSrc (Media RtcCodec RtspSrcContext Attempt Callback Sink SameConfig)

/-! ## The media source -/

namespace RtspSrc

/-- The codecs of both streams are latched. -/
structure BothStreams (ctx : RtspSrcContext) : Prop where
  latched : ctx.codecConfigLatched = true
  codec : ∀ m, (ctx.stream m).codec ≠ .invalid

theorem SameConfig.both {ctx ctx' : RtspSrcContext} (h : SameConfig ctx ctx')
    (hb : BothStreams ctx) : BothStreams ctx' :=
  ⟨h.latched.trans hb.latched, fun m => by rw [h.stream]; exact hb.codec m⟩

theorem queryMediaCap_success {m : Media} {ctx : RtspSrcContext}
    (h : (queryMediaCap m ctx).1 = .success) :
    ctx.codecConfigLatched = true ∧ (ctx.stream m).codec ≠ .invalid := by
  unfold queryMediaCap at h
  split at h
  · cases h
  · next hl =>
    split at h
    · cases h
    · next hc => exact ⟨by simpa using hl, hc⟩

theorem BothStreams.queryMediaCap {ctx : RtspSrcContext} (h : BothStreams ctx) (m : Media) :
    queryMediaCap m ctx = (.success, some (ctx.stream m).codec) := by
  unfold RtspSrc.queryMediaCap
  rw [h.latched, if_neg (by decide), if_neg (h.codec m)]

/-- Once the codecs are latched, `isMediaSourceReady` does nothing. -/
theorem isMediaSourceReady_of_latched {ctx : RtspSrcContext} (a : Attempt)
    (h : ctx.codecConfigLatched = true) : (isMediaSourceReady a ctx).2 = ctx := by
  rw [isMediaSourceReady_snd, if_pos h]

/-- The callbacks of the second pipeline do not write the configuration. -/
theorem sameConfig_call {cb : Callback} (hcb : cb.connected false = true) (ctx : RtspSrcContext) :
    SameConfig ctx (cb.call ctx) := by
  refine ⟨fun m => ?_, ?_⟩
  · rw [stream_call]
    cases cb <;> first | rfl | cases hcb
  · rw [latched_call]
    cases cb <;> first | exact Bool.or_false _ | cases hcb

/-- A sink is chosen by the codec stored for its stream. -/
def RtspSrcContext.Plays (ctx : RtspSrcContext) (sink : Sink) : Prop :=
  sink = .dummy ∨ ∃ m, sink = ctx.sink m

theorem SameConfig.plays {ctx ctx' : RtspSrcContext} (h : SameConfig ctx ctx') {sink : Sink}
    (hs : ctx.Plays sink) : ctx'.Plays sink := by
  refine hs.imp_right fun ⟨m, hm⟩ => ⟨m, ?_⟩
  rw [hm]
  cases m with
  | video => exact congrArg (Sink.video ∘ CodecStreamConf.codec) (h.stream .video).symm
  | audio => exact congrArg (Sink.audio ∘ CodecStreamConf.codec) (h.stream .audio).symm

theorem plays_connectStructure {ctx : RtspSrcContext} {l l' : PadLocals} {s : GstStructure}
    (h : connectStructure ctx l s = some l') {sink : Sink} (hs : l'.nextElement = some sink) :
    ctx.Plays sink := by
  obtain ⟨m, hm⟩ := kind_of_connectStructure h
  rw [connectStructure_of_kind hm] at h
  cases h
  cases hs
  split
  · exact Or.inr ⟨.video, rfl⟩
  · split
    · exact Or.inr ⟨.audio, rfl⟩
    · exact Or.inl rfl

theorem plays_padChoices {ctx : RtspSrcContext} {sinkFault : Option Nat}
    (caps : List GstStructure) (n : Nat) (l : PadLocals) {sink : Sink}
    (h : some sink ∈ padChoices sinkFault ctx n l caps) : ctx.Plays sink := by
  induction caps generalizing n l with
  | nil => cases h
  | cons s caps ih =>
    rw [padChoices] at h
    split at h
    · exact ih n l ((List.mem_cons.mp h).resolve_left (Option.some_ne_none sink))
    · next l' hl =>
      split at h
      · exact plays_connectStructure hl (List.mem_singleton.mp h).symm
      · rcases List.mem_cons.mp h with h | h
        · exact plays_connectStructure hl h.symm
        · exact ih (n + 1) l' h

/-- The sinks that a callback chooses. -/
def Callback.sinks (ctx : RtspSrcContext) : Callback → List Sink
  | .padAdded pad => (padSinks pad ctx).filterMap id
  | _ => []

theorem Callback.plays_sinks {ctx : RtspSrcContext} {cb : Callback} {sink : Sink}
    (h : sink ∈ cb.sinks ctx) : ctx.Plays sink := by
  cases cb with
  | padAdded pad =>
    obtain ⟨o, ho, rfl⟩ := List.mem_filterMap.mp h
    exact plays_padChoices _ _ _ ho
  | msgError | msgEos | newSample | padAddedDiscovery | noMorePads | padRemoved => cases h

end RtspSrc

/-! ## The machine -/

/-- A track that `addTransceiver` adds to the peer connection of a session. -/
structure RtcMediaStreamTrack where
  pStreamingSession : PStreamingSession
  kind : Media
  codec : RtcCodec
  deriving DecidableEq

/-- The codecs that `createStreamingSession` asks the media source for, at the calls that add the
tracks. -/
def RtcMediaStreamTrack.ofCall (ctx : RtspSrcContext) (p : PStreamingSession) :
    Call → Option RtcMediaStreamTrack
  | .addVideoTransceiver => (RtspSrc.queryMediaVideoCap ctx).2.map (⟨p, .video, ·⟩)
  | .addAudioTransceiver => (RtspSrc.queryMediaAudioCap ctx).2.map (⟨p, .audio, ·⟩)
  | _ => none

/-- What the calls return that are answered by the media source in `ctx`, after the discovery `a`
if one was made. -/
def Env.ofSource (env : Env) (ctx : RtspSrcContext) (a : Attempt) : Env :=
  { env with
    status := fun
      | .queryMediaVideoCap => (RtspSrc.queryMediaVideoCap ctx).1
      | .queryMediaAudioCap => (RtspSrc.queryMediaAudioCap ctx).1
      | call => env.status call
    mediaDiscovered := a.latches
    mediaClosed := a.closes }

/-- The application with its media source.  `tracks` are those of all sessions created so far,
and `sinks` those of all pads. -/
structure StreamingApp where
  world : World
  source : RtspSrcContext
  tracks : List RtcMediaStreamTrack
  sinks : List Sink

namespace StreamingApp

/-- After `initApp`, with its discovery. -/
def start (a : Attempt) : StreamingApp :=
  let ctx := (RtspSrc.discoverMediaSource a .initial).2
  ⟨World.start ctx.codecConfigLatched, ctx, [], []⟩

/-- The context of the media source: its flags are those that the application reads and sets. -/
def ctx (s : StreamingApp) : RtspSrcContext :=
  { s.source with
    shutdownRtspSrc := s.world.app.media.shutdownRtspSrc
    codecConfigLatched := s.world.app.media.codecConfigLatched }

/-- The tracks of one session. -/
def tracksOf (s : StreamingApp) (p : PStreamingSession) : List RtcMediaStreamTrack :=
  s.tracks.filter (·.pStreamingSession = p)

/-- A message.  An OFFER that gets to `isMediaSourceReady` discovers with `a`, if the codecs are
not latched. -/
def receive (env : Env) (a : Attempt) (msg : ReceivedSignalingMessage) (s : StreamingApp) :
    StreamingApp :=
  let ctx := (RtspSrc.isMediaSourceReady a s.ctx).2
  let env := env.ofSource ctx a
  let c := s.world.app
  let m := msg.signalingMessage
  if m.messageType = .offer ∧ env.ok .appHashTableContains = true ∧
      c.pRemoteRtcPeerConnections (clientIdHashKey m.peerClientId) = none ∧
      c.streamingSessionList.length ≠ appMaxConcurrentStreamingSession then
    { s with
      world := s.world.receive env msg
      source := if env.ok .sessionCalloc then ctx else s.ctx
      tracks := s.tracks ++
        match (createStreamingSession env m.peerClientId c).2.1 with
        | some p => createStreamingSessionCalls.filterMap (RtcMediaStreamTrack.ofCall ctx p)
        | none => [] }
  else { s with world := s.world.receive env msg }

end StreamingApp

/-- `discovery` is what a discovery of the handler would find. -/
inductive StreamingEvent
  | app (a : Action) (discovery : Attempt)
  | callback (cb : Callback)

/-- The pipeline has its callbacks while its thread is started. -/
def StreamingApp.step (s : StreamingApp) : StreamingEvent → StreamingApp
  | .app (.receive env msg) discovery =>
    match s.world.holder with
    | .idle => s.receive env discovery msg
    | _ => s
  | .app a _ => { s with world := s.world.step a }
  | .callback cb =>
    if s.world.app.mediaThreadStarted && cb.connected false then
      let ctx := cb.call s.ctx
      { s with
        world := { s.world with app := s.world.app.setMedia ctx.flags }
        source := ctx
        sinks := s.sinks ++ cb.sinks s.ctx }
    else s

/-! ## What the application does to the source -/

section
variable {w : World}

/-- The sender is started by the handler of an OFFER. -/
theorem World.started_step (h : WorldOk w) {a : Action}
    (hs : (w.step a).app.mediaThreadStarted = true) :
    w.app.mediaThreadStarted = true ∨ ∃ p, w.HasSession p := by
  by_cases ha : a.ofMedia = false
  · rcases World.media_cases h a ha with ⟨hq, -⟩ | ⟨env, key, p, -, hholder, -⟩ | ⟨-, -, hsame⟩
    · exact Or.inl (hq.started.symm.trans hs)
    · exact Or.inr ⟨p, Or.inr (by rw [hholder]; rfl)⟩
    · exact Or.inl (hsame.symm.trans hs)
  · cases a with
    | mediaEos =>
      have hs' : (w.whenIdle { w with holder := .eosHook 0 }).app.mediaThreadStarted = true := hs
      refine Or.inl (World.whenIdle_elim (P := fun x => x.app.mediaThreadStarted = true →
        w.app.mediaThreadStarted = true) id (fun _ => ?_) hs')
      exact id
    | mediaSenderDone => cases hs
    | _ => exact absurd rfl ha

end

/-! ## The invariant -/

/-- The tracks that a session gets from a source with both streams. -/
def RtspSrc.RtspSrcContext.tracks (ctx : RtspSrcContext) (p : PStreamingSession) :
    List RtcMediaStreamTrack :=
  [⟨p, .video, ctx.videoStream.codec⟩, ⟨p, .audio, ctx.audioStream.codec⟩]

theorem RtspSrc.SameConfig.tracks {ctx ctx' : RtspSrcContext} (h : SameConfig ctx ctx')
    (p : PStreamingSession) : ctx'.tracks p = ctx.tracks p := by
  have hv : ctx'.videoStream = ctx.videoStream := h.stream .video
  have ha : ctx'.audioStream = ctx.audioStream := h.stream .audio
  rw [RtspSrcContext.tracks, RtspSrcContext.tracks, hv, ha]

theorem RtspSrc.BothStreams.tracks {ctx : RtspSrcContext} (h : RtspSrc.BothStreams ctx)
    (p : PStreamingSession) :
    createStreamingSessionCalls.filterMap (RtcMediaStreamTrack.ofCall ctx p) =
      ctx.tracks p := by
  simp only [createStreamingSessionCalls, List.filterMap, RtcMediaStreamTrack.ofCall,
    RtspSrc.queryMediaVideoCap, RtspSrc.queryMediaAudioCap, h.queryMediaCap, Option.map_some]
  rfl

/-- A session that the source let be created has both streams. -/
theorem both_of_created {env : Env} {a : Attempt} {ctx : RtspSrcContext} {c : AppConfiguration}
    {peerId : ClientId}
    (h : (createStreamingSession (env.ofSource ctx a) peerId c).1 = .success) :
    RtspSrc.BothStreams ctx := by
  obtain ⟨-, -, -, -, -, hcalls⟩ := createStreamingSession_eq_success.mp h
  have hvideo := RtspSrc.queryMediaCap_success
    (Env.ok_eq_true.mp (hcalls .queryMediaVideoCap (by decide)))
  have haudio := RtspSrc.queryMediaCap_success
    (Env.ok_eq_true.mp (hcalls .queryMediaAudioCap (by decide)))
  refine ⟨hvideo.1, fun m => ?_⟩
  cases m
  · exact hvideo.2
  · exact haudio.2

/-- A session exists with both streams only, and so does the thread that makes the sinks. -/
structure CodecsOk (s : StreamingApp) : Prop where
  world : WorldOk s.world
  fresh : ∀ t ∈ s.tracks, t.pStreamingSession < s.world.app.sessions.next
  session : ∀ p, s.world.HasSession p →
    RtspSrc.BothStreams s.ctx ∧ s.tracksOf p = s.ctx.tracks p
  started : s.world.app.mediaThreadStarted = true → RtspSrc.BothStreams s.ctx
  sinks : ∀ sink ∈ s.sinks, RtspSrc.BothStreams s.ctx ∧ s.ctx.Plays sink

/-- A step keeps the invariant, and what is latched. -/
structure Latching (s s' : StreamingApp) : Prop where
  ok : CodecsOk s'
  stays : s.ctx.codecConfigLatched = true → SameConfig s.ctx s'.ctx

namespace CodecsOk

variable {s s' : StreamingApp}

theorem start (a : Attempt) : CodecsOk (StreamingApp.start a) where
  world := WorldOk.start _
  fresh := fun _ ht => by cases ht
  session := fun _ hp => hp.elim (fun hp => by cases hp) fun hp => by cases hp
  started := fun h => by cases h
  sinks := fun _ h => by cases h

/-- A step that creates no session. -/
theorem keep (h : CodecsOk s) (hw : WorldOk s'.world)
    (hnext : s.world.app.sessions.next ≤ s'.world.app.sessions.next)
    (hctx : s.ctx.codecConfigLatched = true → SameConfig s.ctx s'.ctx)
    (ht : s'.tracks = s.tracks)
    (hsession : ∀ p, s'.world.HasSession p → s.world.HasSession p)
    (hstarted : s'.world.app.mediaThreadStarted = true →
      s.world.app.mediaThreadStarted = true ∨ ∃ p, s.world.HasSession p)
    (hsinks : ∀ sink ∈ s'.sinks, sink ∈ s.sinks ∨ RtspSrc.BothStreams s.ctx ∧ s.ctx.Plays sink) :
    Latching s s' := by
  refine ⟨⟨hw, fun t hmem => ?_, fun p hp => ?_, fun hs => ?_, fun sink hmem => ?_⟩, hctx⟩
  · exact Nat.lt_of_lt_of_le (h.fresh t (ht ▸ hmem)) hnext
  · obtain ⟨hb, htr⟩ := h.session p (hsession p hp)
    have hsame := hctx hb.latched
    refine ⟨hsame.both hb, ?_⟩
    rw [hsame.tracks, ← htr, StreamingApp.tracksOf, ht]
    rfl
  · have hb : RtspSrc.BothStreams s.ctx := by
      rcases hstarted hs with hs | ⟨p, hp⟩
      · exact h.started hs
      · exact (h.session p hp).1
    exact (hctx hb.latched).both hb
  · obtain ⟨hb, hplays⟩ := (hsinks sink hmem).elim (h.sinks sink) id
    exact ⟨(hctx hb.latched).both hb, (hctx hb.latched).plays hplays⟩

theorem app (h : CodecsOk s) {a : Action} (ha : ∀ env msg, a ≠ .receive env msg) :
    Latching s { s with world := s.world.step a } := by
  have hkept := World.latched_step h.world ha
  refine h.keep (h.world.step a) hkept.1.ge (fun _ => ⟨fun m => ?_, hkept.2⟩) rfl
    (fun p => World.hasSession_step h.world ha) (World.started_step h.world) fun _ => Or.inl
  cases m <;> rfl

theorem callback (h : CodecsOk s) {cb : Callback} (hs : s.world.app.mediaThreadStarted = true)
    (hcb : cb.connected false = true) :
    Latching s { s with
      world := { s.world with app := s.world.app.setMedia (cb.call s.ctx).flags }
      source := cb.call s.ctx
      sinks := s.sinks ++ cb.sinks s.ctx } := by
  have hkept : Kept (fun _ => False) s.world.app (s.world.app.setMedia (cb.call s.ctx).flags) :=
    Kept.of_eq rfl rfl
  have hsame := RtspSrc.sameConfig_call hcb s.ctx
  refine h.keep (h.world.of_kept hkept _ _) (Nat.le_refl _) (fun _ => ⟨fun m => ?_, hsame.latched⟩)
    rfl (fun p => id) Or.inl fun sink hmem => ?_
  · rw [← hsame.stream]
    cases m <;> rfl
  · rcases List.mem_append.mp hmem with hmem | hmem
    · exact Or.inl hmem
    · exact Or.inr ⟨h.started hs, RtspSrc.Callback.plays_sinks hmem⟩

/-- A message that creates no session. -/
theorem message (h : CodecsOk s) {env : Env} {msg : ReceivedSignalingMessage}
    (hw : WorldOk (s.world.receive env msg))
    (hno : ¬ (msg.signalingMessage.messageType = .offer ∧ env.ok .appHashTableContains = true ∧
      s.world.app.pRemoteRtcPeerConnections
        (clientIdHashKey msg.signalingMessage.peerClientId) = none ∧
      s.world.app.streamingSessionList.length ≠ appMaxConcurrentStreamingSession)) :
    Latching s { s with world := s.world.receive env msg } := by
  have hlist := World.list_receive h.world env msg
  have hreceive : s.world.receive env msg =
      { s.world with app := (onSignalingMessageReceived env msg s.world.app).2 } := if_neg hno
  rw [hreceive] at hw hlist ⊢
  have hkept := sessionsKept_message env msg h.world.sessions hno
  refine h.keep hw hkept.next.ge (fun _ => ⟨fun m => ?_, hkept.latched⟩) rfl (fun p hp => ?_)
    (fun hs => Or.inl ((MediaQuiet.message env msg hno).started.symm.trans hs)) fun _ => Or.inl
  · cases m <;> rfl
  · exact hp.imp (fun hmem => hlist ▸ hmem) id

/-- The session `p` is created, with the codecs of the source in `ctx`. -/
theorem created (h : CodecsOk s) {c : AppConfiguration} {holder : Holder} {ctx : RtspSrcContext}
    (hw : WorldOk { s.world with app := c, holder := holder })
    (hholder : holder.offerSession = some s.world.app.sessions.next)
    (hnext : s.world.app.sessions.next ≤ c.sessions.next)
    (hlist : c.streamingSessionList = s.world.app.streamingSessionList)
    (hflags : c.media = ctx.flags) (hb : RtspSrc.BothStreams ctx)
    (hsame : s.ctx.codecConfigLatched = true → ctx = s.ctx) :
    Latching s { s with
      world := { s.world with app := c, holder := holder }
      source := ctx
      tracks := s.tracks ++ ctx.tracks s.world.app.sessions.next } := by
  let s' : StreamingApp := { s with
    world := { s.world with app := c, holder := holder }
    source := ctx
    tracks := s.tracks ++ ctx.tracks s.world.app.sessions.next }
  have hctx : s'.ctx = ctx := by
    show ({ ctx with
      shutdownRtspSrc := c.media.shutdownRtspSrc
      codecConfigLatched := c.media.codecConfigLatched } : RtspSrcContext) = ctx
    rw [hflags]
    rfl
  have hof : ∀ p, s'.tracksOf p = s.tracksOf p ++
      (ctx.tracks s.world.app.sessions.next).filter (·.pStreamingSession = p) := fun p =>
    List.filter_append ..
  refine ⟨⟨hw, fun t ht => ?_, fun p hp => ?_, fun _ => hctx ▸ hb, fun sink hsink => ?_⟩,
    fun hl => ?_⟩
  · have hlt : s.world.app.sessions.next < c.sessions.next := hw.offerSession_lt hholder
    rcases List.mem_append.mp ht with ht | ht
    · exact Nat.lt_of_lt_of_le (h.fresh t ht) hnext
    · have heq : t.pStreamingSession = s.world.app.sessions.next := by
        rcases List.mem_pair.mp ht with rfl | rfl <;> rfl
      exact heq ▸ hlt
  · refine ⟨hctx ▸ hb, ?_⟩
    rw [hof, hctx]
    rcases hp with hp | hp
    · -- a session from before, which the new tracks are not of
      have hmem : p ∈ s.world.app.streamingSessionList := hlist ▸ hp
      have hlt : p < s.world.app.sessions.next := h.world.hasSession_lt (Or.inl hmem)
      obtain ⟨hold, htr⟩ := h.session p (Or.inl hmem)
      rw [htr, hsame hold.latched]
      simp [RtspSrc.RtspSrcContext.tracks, Nat.ne_of_gt hlt]
    · have heq : s.world.app.sessions.next = p := Option.some.inj (hholder.symm.trans hp)
      have hnone : s.tracksOf p = [] :=
        List.filter_eq_nil_iff.mpr fun t ht => by
          simpa [← heq] using Nat.ne_of_lt (h.fresh t ht)
      rw [hnone]
      simp [RtspSrc.RtspSrcContext.tracks, heq]
  · obtain ⟨hold, hplays⟩ := h.sinks sink hsink
    rw [hctx, hsame hold.latched]
    exact ⟨hold, hplays⟩
  · rw [hctx, hsame hl]
    exact ⟨fun _ => rfl, rfl⟩

theorem receive (h : CodecsOk s) (env : Env) (a : Attempt) (msg : ReceivedSignalingMessage)
    (hidle : s.world.holder = .idle) : Latching s (s.receive env a msg) := by
  obtain ⟨ctx, hready⟩ : ∃ ctx, ctx = (RtspSrc.isMediaSourceReady a s.ctx).2 := ⟨_, rfl⟩
  obtain ⟨env', henv⟩ : ∃ env', env' = env.ofSource ctx a := ⟨_, rfl⟩
  have hsame : s.ctx.codecConfigLatched = true → ctx = s.ctx := fun hl =>
    hready.trans (RtspSrc.isMediaSourceReady_of_latched a hl)
  have hw : WorldOk (s.world.receive env' msg) := by
    have hstep := h.world.step (.receive env' msg)
    rwa [World.step, World.whenIdle, hidle] at hstep
  have hlist := World.list_receive h.world env' msg
  unfold StreamingApp.receive
  simp only [← hready, ← henv]
  split
  swap
  · next hno => exact h.message hw hno
  next hguard =>
  obtain ⟨leaked, ho, -⟩ := h.world.sessions.owned
  have hreceive : s.world.receive env' msg = _ := if_pos hguard
  rw [hreceive] at hw hlist ⊢
  obtain ⟨-, hnext, hcases⟩ :=
    createStreamingSession_owned env' msg.signalingMessage.peerClientId ho
  have hstarted := (@MediaQuiet.create s.world.app env' msg.signalingMessage.peerClientId).started
  have hsuccess := @createStreamingSession_eq_success s.world.app env'
    msg.signalingMessage.peerClientId
  have hboth := @both_of_created env a ctx s.world.app msg.signalingMessage.peerClientId
  rw [← henv] at hboth
  -- the flags of the source are those that the application sees
  have hflags : (createStreamingSession env' msg.signalingMessage.peerClientId
      s.world.app).2.2.media = (if env'.ok .sessionCalloc then ctx else s.ctx).flags := by
    rw [media_createStreamingSession]
    split
    · rw [hready, henv]
      exact congrArg Prod.snd (RtspSrc.isMediaSourceReady_flags rfl rfl s.ctx)
    · rfl
  generalize createStreamingSession env' msg.signalingMessage.peerClientId s.world.app = r
    at hw hlist hnext hcases hstarted hsuccess hboth hflags ⊢
  obtain ⟨st, o, c⟩ := r
  cases o with
  | none =>
    have hsource : s.ctx.codecConfigLatched = true →
        (if env'.ok .sessionCalloc then ctx else s.ctx) = s.ctx := by
      intro hl
      split
      · exact hsame hl
      · rfl
    refine h.keep hw hnext (fun hl => ?_) (List.append_nil _) (fun p hp => ?_)
      (fun hs => Or.inl (hstarted.symm.trans hs)) fun _ => Or.inl
    · rw [hsource hl] at hflags ⊢
      refine ⟨fun m => ?_, congrArg MediaContext.codecConfigLatched hflags⟩
      cases m <;> rfl
    · exact hp.imp (fun hmem => hlist ▸ hmem) id
  | some p =>
    rcases hcases with ⟨hst, hp, -⟩ | ⟨-, hnone, -⟩
    · obtain rfl : p = s.world.app.sessions.next := Option.some.inj hp
      have hb := hboth hst
      have hcalloc : env'.ok .sessionCalloc = true := (hsuccess.mp hst).1
      rw [if_pos hcalloc] at hflags ⊢
      have hcreated := h.created hw rfl hnext hlist hflags hb hsame
      rwa [← hb.tracks] at hcreated
    · cases hnone

theorem step (h : CodecsOk s) (e : StreamingEvent) : Latching s (s.step e) := by
  have hrefl : Latching s s := ⟨h, fun _ => ⟨fun _ => rfl, rfl⟩⟩
  cases e with
  | callback cb =>
    show Latching s (if _ then _ else s)
    split
    · next hcb =>
      rw [Bool.and_eq_true] at hcb
      exact h.callback hcb.1 hcb.2
    · exact hrefl
  | app a discovery =>
    cases a with
    | receive env msg =>
      show Latching s (match s.world.holder with
        | .idle => s.receive env discovery msg
        | _ => s)
      split
      · next hidle => exact h.receive env discovery msg hidle
      · exact hrefl
    | poll | mediaEos | advance | addStats | mediaFrame | advanceHook | connectionStateChange
    | mediaSenderDone | restartRequested | pregenerateCert => exact h.app nofun

theorem exec (a : Attempt) (es : List StreamingEvent) :
    CodecsOk (Run.exec StreamingApp.step (StreamingApp.start a) es) :=
  Run.Reachable.invariant (start a) (fun _ e h => (h.step e).ok) ⟨es, rfl⟩

end CodecsOk

/-! ## Runs -/

/-- In every state of every run the sessions have one video and one audio track, with the codecs
that are stored, and every sink made so far was chosen by the same two. -/
theorem announced_codecs (a : Attempt) (es : List StreamingEvent) :
    let s := Run.exec StreamingApp.step (StreamingApp.start a) es
    (∀ p ∈ s.world.app.streamingSessionList, s.tracksOf p =
        [⟨p, .video, s.source.videoStream.codec⟩, ⟨p, .audio, s.source.audioStream.codec⟩] ∧
          s.source.videoStream.codec ≠ .invalid ∧ s.source.audioStream.codec ≠ .invalid) ∧
      ∀ sink ∈ s.sinks, sink = .dummy ∨ sink = .video s.source.videoStream.codec ∨
        sink = .audio s.source.audioStream.codec := by
  intro s
  have h : CodecsOk s := CodecsOk.exec a es
  refine ⟨fun p hp => ?_, fun sink hsink => ?_⟩
  · obtain ⟨hb, htracks⟩ := h.session p (Or.inl hp)
    exact ⟨htracks, hb.codec .video, hb.codec .audio⟩
  rcases (h.sinks sink hsink).2 with hdummy | ⟨m, hm⟩
  · exact Or.inl hdummy
  · cases m with
    | video => exact Or.inr (Or.inl hm)
    | audio => exact Or.inr (Or.inr hm)

/-- A camera with an H.264 and a PCMU stream. -/
def videoAndAudio : Attempt :=
  .plays [⟨[⟨some "video", some "H264", some 96, some 90000⟩], none, true, true⟩,
    ⟨[⟨some "audio", some "PCMU", some 0, some 8000⟩], none, true, true⟩] .noMorePads

example :
    (Run.exec StreamingApp.step (StreamingApp.start videoAndAudio)
      [.app (.receive Env.allOk (offerOf clientA)) videoAndAudio]).tracks =
        [⟨0, .video, .h264⟩, ⟨0, .audio, .mulaw⟩] := by decide +kernel

/-- A configuration that was latched without one of the streams stays as it is, and with it no
session is ever listed, no sender started and no sink made. -/
theorem one_stream_unserved (a : Attempt) (es fs : List StreamingEvent) (m : Media)
    (hl : (Run.exec StreamingApp.step (StreamingApp.start a) es).ctx.codecConfigLatched = true)
    (hm : ((Run.exec StreamingApp.step (StreamingApp.start a) es).ctx.stream m).codec = .invalid) :
    let before := Run.exec StreamingApp.step (StreamingApp.start a) es
    let s := Run.exec StreamingApp.step (StreamingApp.start a) (es ++ fs)
    s.ctx.codecConfigLatched = true ∧ (s.ctx.stream m).codec = .invalid ∧
      (∀ n, (s.ctx.stream n).codec = (before.ctx.stream n).codec) ∧
      s.world.app.streamingSessionList = [] ∧ s.world.app.mediaThreadStarted = false ∧
      s.sinks = [] := by
  intro before s
  have hexec : s = Run.exec StreamingApp.step before fs := Run.exec_append _ _ _
  have hlater : CodecsOk s ∧ s.ctx.codecConfigLatched = true ∧
      ∀ n, (s.ctx.stream n).codec = (before.ctx.stream n).codec := by
    rw [hexec]
    refine Run.exec_invariant (I := fun s => CodecsOk s ∧ s.ctx.codecConfigLatched = true ∧
      ∀ n, (s.ctx.stream n).codec = (before.ctx.stream n).codec) (fun s e hs => ?_)
      ⟨CodecsOk.exec a es, hl, fun _ => rfl⟩ fs
    have hstep := hs.1.step e
    have hsame := hstep.stays hs.2.1
    exact ⟨hstep.ok, hsame.latched.trans hs.2.1, fun n => by rw [hsame.stream]; exact hs.2.2 n⟩
  obtain ⟨h, hlatched, hcodecs⟩ := hlater
  have hinvalid : (s.ctx.stream m).codec = .invalid := (hcodecs m).trans hm
  have hnot : ¬ RtspSrc.BothStreams s.ctx := fun hb => hb.codec m hinvalid
  refine ⟨hlatched, hinvalid, hcodecs, ?_, ?_, ?_⟩
  · exact List.eq_nil_iff_forall_not_mem.mpr fun p hp => hnot (h.session p (Or.inl hp)).1
  · exact Bool.eq_false_iff.mpr fun hs => hnot (h.started hs)
  · exact List.eq_nil_iff_forall_not_mem.mpr fun sink hsink => hnot (h.sinks sink hsink).1

/-- The camera offers video only: the OFFER of a viewer is not accepted. -/
theorem one_stream_unserved_videoOnly :
    let before := StreamingApp.start RtspSrc.videoOnly
    let s := Run.exec StreamingApp.step (StreamingApp.start RtspSrc.videoOnly)
      ([] ++ [.app (.receive Env.allOk (offerOf clientA)) RtspSrc.videoOnly])
    s.ctx.codecConfigLatched = true ∧ (s.ctx.stream .audio).codec = .invalid ∧
      (∀ n, (s.ctx.stream n).codec = (before.ctx.stream n).codec) ∧
      s.world.app.streamingSessionList = [] ∧ s.world.app.mediaThreadStarted = false ∧
      s.sinks = [] :=
  one_stream_unserved RtspSrc.videoOnly [] _ .audio (by decide +kernel) (by decide +kernel)

end WebrtcApp
