import WebrtcApp.App.Sessions

/-!
# Interleaved handlers

The handlers one step at a time, with the hooks and callbacks of other threads in between.
`Holder` is where the holder of `appConfigurationObjLock` is, and `World.hook` the sink hook
in its loop, with `streamingSessionListReadLock` held.  The steps of a handler end where it
waits for the read lock or releases it, and where another thread may see what it did:

    OFFER    create, list, answer, put, drain
    sweep    scan, unlink, remove the key, free
    EOS      one session at a time

In every state of every run no session is freed twice and no pointer to a freed session is
listed or in the table (`no_dangling_sessions`).  The steps of a handler with nothing in between are
the sequential handler (`Runs.SequentialRuns`).
-/

namespace WebrtcApp

/-! ## The machine -/

inductive Holder
  | idle
  | offerCreated (env : Env) (key : UInt64) (p : PStreamingSession)
  | offerListed (env : Env) (key : UInt64) (p : PStreamingSession)
  | offerAnswered (env : Env) (key : UInt64) (p : PStreamingSession)
  | offerEntered (env : Env) (key : UInt64) (p : PStreamingSession)
  | sweepScan (env : Env) (n : Nat) (i : UInt32)
  | sweepFound (env : Env) (n : Nat) (i : UInt32) (p : PStreamingSession)
  | sweepUnlinked (env : Env) (n : Nat) (i : UInt32) (p : PStreamingSession)
  | sweepRemoved (env : Env) (n : Nat) (i : UInt32) (p : PStreamingSession)
  | eosHook (i : Nat)

/-- `statsAdds` are the handlers that have released the lock and will add the stats timer. -/
structure World where
  app : AppConfiguration
  holder : Holder
  hook : Option (Frame × Nat)
  statsAdds : List Env

namespace World

def start (latched : Bool) : World := ⟨AppConfiguration.initApp latched, .idle, none, []⟩

/-- `streamingSessionListReadLock` can be taken. -/
def readLockFree (w : World) : Bool :=
  w.hook.isNone && !w.app.readLockHeld &&
    match w.holder with
    | .sweepUnlinked .. => false
    | _ => true

/-- The holder of the lock waits for `streamingSessionListReadLock`. -/
def waits (w : World) : Bool :=
  match w.holder with
  | .offerCreated .. | .sweepFound .. => !w.readLockFree
  | _ => false

/-- A message, up to the insertion into the session list where it is an OFFER that gets there. -/
def receive (env : Env) (msg : ReceivedSignalingMessage) (w : World) : World :=
  let c := w.app
  let m := msg.signalingMessage
  let key := clientIdHashKey m.peerClientId
  if m.messageType = .offer ∧ env.ok .appHashTableContains = true ∧
      c.pRemoteRtcPeerConnections key = none ∧
      c.streamingSessionList.length ≠ appMaxConcurrentStreamingSession then
    match createStreamingSession env m.peerClientId c with
    | (_, none, c) => { w with app := c }
    | (_, some p, c) => { w with app := c, holder := .offerCreated env key p }
  else { w with app := (onSignalingMessageReceived env msg c).2 }

/-- The next step of the holder of `appConfigurationObjLock`. -/
def advance (w : World) : World :=
  let c := w.app
  match w.holder with
  | .idle => w
  | .offerCreated env key p =>
    if w.readLockFree then { w with app := listSession env p c, holder := .offerListed env key p }
    else w
  | .offerListed env key p =>
    match handleOffer env p c with
    | (st, c) =>
      { w with app := c, holder := if st.failed then .idle else .offerAnswered env key p }
  | .offerAnswered env key p =>
    if !env.ok .appHashTablePut then { w with holder := .idle }
    else { w with app := c.setEntry key p, holder := .offerEntered env key p }
  | .offerEntered env key p =>
    match drainPending env key p c with
    | (st, c) =>
      { w with
        app := c
        holder := .idle
        statsAdds :=
          if !st.failed && c.iceCandidatePairStatsTimerId == maxUInt32 then w.statsAdds ++ [env]
          else w.statsAdds }
  | .sweepScan env n i =>
    if i.toNat < c.streamingSessionList.length then
      let p := c.streamingSessionList.getD i.toNat 0
      let c := c.touchSession p
      { w with
        app := c
        holder :=
          if (c.session p).terminateFlag then .sweepFound env n i p
          else .sweepScan env (n + 1) (i + 1) }
    else { w with app := (pollSignaling env c).2, holder := .idle }
  | .sweepFound env n i p =>
    if w.readLockFree then
      { w with
        app := { c with streamingSessionList := swapWithLast i.toNat c.streamingSessionList }
        holder := .sweepUnlinked env n i p }
    else w
  | .sweepUnlinked env n i p =>
    match sweepRemove env n p c with
    | (st, c) => { w with app := c, holder := if st.failed then .idle else .sweepRemoved env n i p }
  | .sweepRemoved env n i p =>
    let i := if c.streamingSessionList.length > 0 then i - 1 else i
    { w with app := (freeStreamingSession p c).2, holder := .sweepScan env (n + 1) (i + 1) }
  | .eosHook i =>
    if i < c.streamingSessionList.length then
      { w with app := terminateSession (c.streamingSessionList.getD i 0) c, holder := .eosHook (i + 1) }
    else { w with holder := .idle }

/-- The next round of the sink hook. -/
def advanceHook (w : World) : World :=
  match w.hook with
  | none => w
  | some (frame, i) =>
    if i < w.app.streamingSessionList.length then
      { w with
        app := sinkFrame frame (w.app.streamingSessionList.getD i 0) w.app
        hook := some (frame, i + 1) }
    else { w with hook := none }

/-- `appTimeQueueAdd` by the first of the handlers that will call it. -/
def addStats (w : World) : World :=
  match w.statsAdds with
  | [] => w
  | env :: envs =>
    { w with
      app :=
        if env.ok .appTimeQueueAdd then { w.app with iceCandidatePairStatsTimerId := env.timerId }
        else w.app
      statsAdds := envs }

end World

/-- What can happen next. -/
inductive Action
  | receive (env : Env) (msg : ReceivedSignalingMessage)
  | poll (env : Env)
  | mediaEos
  | advance
  | addStats
  | mediaFrame (frame : Frame)
  | advanceHook
  | connectionStateChange (p : PStreamingSession) (newState : RtcPeerConnectionState)
  | mediaSenderDone
  | restartRequested
  | pregenerateCert (env : Env)

/-- A call that takes `appConfigurationObjLock` starts when nobody holds it. -/
def World.whenIdle (w w' : World) : World :=
  match w.holder with
  | .idle => w'
  | _ => w

theorem World.whenIdle_elim {P : World → Prop} {w w' : World} (h : P w)
    (h' : w.holder = .idle → P w') : P (w.whenIdle w') := by
  unfold World.whenIdle
  split
  · next hidle => exact h' hidle
  · exact h

/-- A message creates a session, or all of it is handled at once. -/
theorem World.receive_elim {P : AppConfiguration → Prop} {w : World} {env : Env}
    {msg : ReceivedSignalingMessage}
    (hcreate : P (createStreamingSession env msg.signalingMessage.peerClientId w.app).2.2)
    (hrest : ¬ (msg.signalingMessage.messageType = .offer ∧ env.ok .appHashTableContains = true ∧
        w.app.pRemoteRtcPeerConnections (clientIdHashKey msg.signalingMessage.peerClientId) = none ∧
        w.app.streamingSessionList.length ≠ appMaxConcurrentStreamingSession) →
      P (onSignalingMessageReceived env msg w.app).2) : P (w.receive env msg).app := by
  unfold World.receive
  simp only
  split
  · generalize createStreamingSession env msg.signalingMessage.peerClientId w.app = r at hcreate
    obtain ⟨st, o, c⟩ := r
    cases o <;> exact hcreate
  · next hno => exact hrest hno

/-- The handler that waits sets the id of the timer. -/
theorem World.app_addStats (w : World) :
    ∃ id, w.addStats.app = { w.app with iceCandidatePairStatsTimerId := id } := by
  unfold World.addStats
  split
  · exact ⟨_, rfl⟩
  · simp only
    split
    · exact ⟨_, rfl⟩
    · exact ⟨_, rfl⟩

def World.step (w : World) : Action → World
  | .receive env msg => w.whenIdle (w.receive env msg)
  | .poll env => w.whenIdle { w with holder := .sweepScan env 0 0 }
  | .mediaEos => w.whenIdle { w with holder := .eosHook 0 }
  | .advance => w.advance
  | .addStats => w.addStats
  | .mediaFrame frame => if w.readLockFree then { w with hook := some (frame, 0) } else w
  | .advanceHook => w.advanceHook
  | .connectionStateChange p newState =>
    if w.app.sessions.live p then { w with app := onConnectionStateChange p newState w.app } else w
  | .mediaSenderDone => { w with app := { w.app with mediaThreadStarted := false } }
  | .restartRequested => { w with app := { w.app with restartSignalingClient := true } }
  | .pregenerateCert env => w.whenIdle
      { w with app := { w.app with appCredential := (generateCertRoutine env w.app.appCredential).2 } }

/-! ## The session a handler holds -/

/-- A live session that no list names. -/
structure Unlisted (c : AppConfiguration) (p : PStreamingSession) : Prop where
  live : c.sessions.live p = true
  not_mem : p ∉ c.streamingSessionList
  app : (c.session p).pAppConfiguration = true

/-- And that stands under no key. -/
structure Unnamed (c : AppConfiguration) (p : PStreamingSession) : Prop extends Unlisted c p where
  no_entry : ∀ k, c.pRemoteRtcPeerConnections k ≠ some p

/-- What the holder of the lock knows of its session. -/
def Holder.Ok (c : AppConfiguration) : Holder → Prop
  | .idle | .sweepScan .. | .eosHook _ => True
  | .offerCreated _ key p =>
    c.streamingSessionList.length < appMaxConcurrentStreamingSession ∧ Unnamed c p ∧
      clientIdHashKey (c.session p).peerId = key
  | .offerListed _ key p | .offerAnswered _ key p | .offerEntered _ key p =>
    p ∈ c.streamingSessionList ∧ clientIdHashKey (c.session p).peerId = key
  | .sweepFound _ _ i p =>
    i.toNat < c.streamingSessionList.length ∧ c.streamingSessionList.getD i.toNat 0 = p
  | .sweepUnlinked _ _ _ p => Unlisted c p
  | .sweepRemoved _ _ _ p => Unnamed c p

section
variable {c c' : AppConfiguration} {p : PStreamingSession} {P : PStreamingSession → Prop}

theorem Unlisted.of_kept (h : Unlisted c p) (hk : Kept P c c') : Unlisted c' p :=
  ⟨(hk.live p).trans h.live, hk.list.symm ▸ h.not_mem, (hk.app p).trans h.app⟩

theorem Unnamed.of_kept (h : Unnamed c p) (hk : Kept P c c') : Unnamed c' p :=
  ⟨h.toUnlisted.of_kept hk, fun k => by rw [hk.table]; exact h.no_entry k⟩

/-- What the holder knows survives what the other threads do. -/
theorem Holder.Ok.of_kept {holder : Holder} (h : holder.Ok c) (hk : Kept P c c') : holder.Ok c' := by
  cases holder with
  | idle => trivial
  | sweepScan => trivial
  | eosHook => trivial
  | offerCreated _ key p =>
    obtain ⟨hlen, hp, hkey⟩ := h
    exact ⟨hk.list.symm ▸ hlen, hp.of_kept hk, hk.peerId p ▸ hkey⟩
  | offerListed _ key p => exact ⟨hk.list.symm ▸ h.1, hk.peerId p ▸ h.2⟩
  | offerAnswered _ key p => exact ⟨hk.list.symm ▸ h.1, hk.peerId p ▸ h.2⟩
  | offerEntered _ key p => exact ⟨hk.list.symm ▸ h.1, hk.peerId p ▸ h.2⟩
  | sweepFound _ _ i p => exact ⟨hk.list.symm ▸ h.1, hk.list.symm ▸ h.2⟩
  | sweepUnlinked _ _ _ p => exact Unlisted.of_kept h hk
  | sweepRemoved _ _ _ p => exact Unnamed.of_kept h hk

namespace SessionsOk

/-- A session no list names is one of the leaked ones. -/
theorem split_unlisted (h : SessionsOk c) (hp : Unlisted c p) :
    ∃ rest, c.sessions.Owned (c.streamingSessionList ++ p :: rest) ∧
      ∀ k q, c.pRemoteRtcPeerConnections k = some q → q ∈ c.streamingSessionList ++ p :: rest := by
  obtain ⟨leaked, ho, hv⟩ := h.owned
  have hmem : p ∈ leaked :=
    (List.mem_append.mp ((ho.live_iff p).mp hp.live)).resolve_left hp.not_mem
  have hperm := (List.perm_cons_erase hmem).append_left c.streamingSessionList
  exact ⟨leaked.erase p, ho.perm hperm, fun k q hq => hperm.mem_iff.mp (hv k q hq)⟩

/-- The insertion into the session list. -/
theorem insert (h : SessionsOk c) (hp : Unlisted c p)
    (hlen : c.streamingSessionList.length < appMaxConcurrentStreamingSession) :
    SessionsOk { c with streamingSessionList := c.streamingSessionList ++ [p] } := by
  obtain ⟨rest, ho, hv⟩ := h.split_unlisted hp
  refine ⟨⟨rest, ?_, fun k q hq => ?_⟩, ?_, fun q hq => ?_, h.key⟩
  · rw [List.append_assoc]
    exact ho
  · rw [List.append_assoc]
    exact hv k q hq
  · rw [List.length_append, List.length_singleton]
    omega
  · rcases List.mem_append.mp hq with hq | hq
    · exact h.app q hq
    · rw [List.mem_singleton.mp hq]
      exact hp.app

/-- The removal of a key. -/
theorem removeKey {k : UInt64} (h : SessionsOk c) (hs : c'.sessions = c.sessions)
    (hl : c'.streamingSessionList = c.streamingSessionList)
    (ht : c'.pRemoteRtcPeerConnections = Function.update c.pRemoteRtcPeerConnections k none) :
    SessionsOk c' := by
  have hread : ∀ q, c'.session q = c.session q := fun q => congrArg (Arena.read · q) hs
  have hold : ∀ k' q, c'.pRemoteRtcPeerConnections k' = some q →
      c.pRemoteRtcPeerConnections k' = some q := by
    intro k' q hq
    rw [ht] at hq
    by_cases hk : k' = k
    · rw [hk, Function.update_self] at hq
      cases hq
    · rwa [Function.update_of_ne hk] at hq
  obtain ⟨leaked, ho, hv⟩ := h.owned
  refine ⟨⟨leaked, ?_, fun k' q hq => ?_⟩, hl.symm ▸ h.count, fun q hq => ?_, fun k' q hq => ?_⟩
  · rw [hs, hl]
    exact ho
  · rw [hl]
    exact hv k' q (hold k' q hq)
  · rw [hread]
    exact h.app q (hl ▸ hq)
  · rw [hread]
    exact h.key k' q (hold k' q hq)

/-- The free of a session that nothing names. -/
theorem free (h : SessionsOk c) (hp : Unnamed c p) : SessionsOk (freeStreamingSession p c).2 := by
  obtain ⟨rest, ho, hv⟩ := h.split_unlisted hp.toUnlisted
  have ht := @tables_freeStreamingSession c p
  have hl : (freeStreamingSession p c).2.streamingSessionList = c.streamingSessionList :=
    congrArg Tables.streamingSessionList ht
  have hid : ∀ q, _ := fun q => @identity_freeStreamingSession c p q hp.live
  have hentry : ∀ k q, (freeStreamingSession p c).2.pRemoteRtcPeerConnections k = some q →
      c.pRemoteRtcPeerConnections k = some q := by
    intro k q hq
    rwa [show (freeStreamingSession p c).2.pRemoteRtcPeerConnections = c.pRemoteRtcPeerConnections from
      congrArg Tables.pRemoteRtcPeerConnections ht] at hq
  refine ⟨⟨rest, ?_, fun k q hq => ?_⟩, hl.symm ▸ h.count, fun q hq => ?_, fun k q hq => ?_⟩
  · rw [hl]
    rcases freeStreamingSession_owned (ho.perm List.perm_middle) with ⟨-, hfree⟩ | ⟨happ, -⟩
    · exact hfree
    · rw [hp.app] at happ
      exact absurd happ.symm Bool.false_ne_true
  · have hq' := hentry k q hq
    rw [hl]
    rcases List.mem_append.mp (hv k q hq') with hm | hm
    · exact List.mem_append_left _ hm
    · rcases List.mem_cons.mp hm with rfl | hm
      · exact absurd hq' (hp.no_entry k)
      · exact List.mem_append_right _ hm
  · rw [(hid q).2]
    exact h.app q (hl ▸ hq)
  · rw [(hid q).1]
    exact h.key k q (hentry k q hq)

end SessionsOk

/-- A new session that is not in the list yet. -/
theorem createStreamingSession_unnamed (env : Env) (peerId : ClientId) (h : SessionsOk c) :
    let r := createStreamingSession env peerId c
    SessionsOk r.2.2 ∧ r.2.2.streamingSessionList = c.streamingSessionList ∧
      ∀ p, r.2.1 = some p → Unnamed r.2.2 p ∧ (r.2.2.session p).peerId = peerId := by
  obtain ⟨leaked, ho, hv⟩ := h.owned
  have hu := offerUnlisted env peerId ho
  refine ⟨h.of_unlisted hu, hu.list, fun p hp => ?_⟩
  obtain ⟨-, -, ⟨-, hsome, ho', hid, -, happ⟩ | ⟨-, hnone, -⟩⟩ :=
    createStreamingSession_owned env peerId ho
  · obtain rfl := Option.some.inj (hsome.symm.trans hp)
    refine ⟨⟨⟨ho'.live List.mem_cons_self, ?_, happ⟩, fun k => ?_⟩, hid⟩
    · rw [hu.list]
      exact fun hm => ho.next_not_mem (List.mem_append_left _ hm)
    · rw [hu.table]
      exact fun hk => ho.next_not_mem (hv k _ hk)
  · rw [hnone] at hp
    cases hp

/-- A message that lists no session. -/
theorem unlisted_onSignalingMessageReceived (env : Env) (msg : ReceivedSignalingMessage)
    (h : SessionsOk c)
    (hno : ¬ (msg.signalingMessage.messageType = .offer ∧ env.ok .appHashTableContains = true ∧
      c.pRemoteRtcPeerConnections (clientIdHashKey msg.signalingMessage.peerClientId) = none ∧
      c.streamingSessionList.length ≠ appMaxConcurrentStreamingSession)) :
    let c' := (onSignalingMessageReceived env msg c).2
    c'.sessions = c.sessions ∧ c'.streamingSessionList = c.streamingSessionList := by
  intro c'
  show (onSignalingMessageReceived env msg c).2.sessions = _ ∧
    (onSignalingMessageReceived env msg c).2.streamingSessionList = _
  rcases @onSignalingMessageReceived_cases c env msg with
    ⟨st, hr⟩ | ⟨hm, hc, hnone, hr⟩ | ⟨-, -, hr⟩
  · rw [hr]
    exact ⟨rfl, rfl⟩
  · have hlen : c.streamingSessionList.length = appMaxConcurrentStreamingSession :=
      not_not.mp fun hfree => hno ⟨hm, hc, hnone, hfree⟩
    rw [hr, receiveOffer, if_pos hlen]
    exact ⟨rfl, rfl⟩
  · rw [hr]
    cases he : c.pRemoteRtcPeerConnections (clientIdHashKey msg.signalingMessage.peerClientId) with
    | none => exact ⟨by rw [receiveIceCandidate_of_none env _ msg he]; rfl,
        by rw [receiveIceCandidate_of_none env _ msg he]; rfl⟩
    | some p =>
      have hlive := h.entry_live he
      exact ⟨by rw [receiveIceCandidate_of_entry env _ msg he hlive]; rfl,
        by rw [receiveIceCandidate_of_entry env _ msg he hlive]; rfl⟩

end

/-! ## Every step keeps the invariant -/

structure WorldOk (w : World) : Prop where
  sessions : SessionsOk w.app
  holder : w.holder.Ok w.app

namespace WorldOk

variable {w : World} {c' : AppConfiguration} {P : PStreamingSession → Prop}

theorem start (latched : Bool) : WorldOk (World.start latched) :=
  ⟨SessionsOk.initApp latched, trivial⟩

theorem of_kept (h : WorldOk w) (hk : Kept P w.app c') (hook : Option (Frame × Nat))
    (adds : List Env) : WorldOk ⟨c', w.holder, hook, adds⟩ :=
  ⟨h.sessions.of_kept hk, h.holder.of_kept hk⟩

theorem of_same (h : WorldOk w) (ht : c'.tables = w.app.tables) (hs : c'.sessions = w.app.sessions) :
    WorldOk { w with app := c' } :=
  h.of_kept (P := fun _ => False) (Kept.of_eq ht hs) w.hook w.statsAdds

theorem getD_live (h : WorldOk w) {i : Nat} (hi : i < w.app.streamingSessionList.length) :
    w.app.streamingSessionList.getD i 0 ∈ w.app.streamingSessionList ∧
      w.app.sessions.live (w.app.streamingSessionList.getD i 0) = true :=
  h.sessions.getD_live hi

theorem receive (h : WorldOk w) (hidle : w.holder = .idle) (env : Env)
    (msg : ReceivedSignalingMessage) : WorldOk (w.receive env msg) := by
  obtain ⟨hs, hl, hp⟩ := createStreamingSession_unnamed env msg.signalingMessage.peerClientId h.sessions
  unfold World.receive
  simp only
  split
  · next hoffer =>
    have hlen : w.app.streamingSessionList.length < appMaxConcurrentStreamingSession :=
      Nat.lt_of_le_of_ne h.sessions.count hoffer.2.2.2
    generalize createStreamingSession env msg.signalingMessage.peerClientId w.app = r at hs hl hp
    obtain ⟨st, o, c⟩ := r
    cases o with
    | none => exact ⟨hs, hidle ▸ trivial⟩
    | some p =>
      obtain ⟨hun, hid⟩ := hp p rfl
      exact ⟨hs, hl.symm ▸ hlen, hun, congrArg clientIdHashKey hid⟩
  · exact ⟨h.sessions.message env msg, hidle ▸ trivial⟩

theorem advance (h : WorldOk w) : WorldOk w.advance := by
  obtain ⟨c, holder, hook, adds⟩ := w
  have hs : SessionsOk c := h.sessions
  cases holder with
  | idle => exact h
  | offerCreated env key p =>
    obtain ⟨hlen, hp, hkey⟩ := h.holder
    simp only [World.advance]
    split
    · have hk : Kept (fun _ => False) c
          (c.modifySession p fun s => { s with offerReceiveTime := env.now }) :=
        Kept.modify _ hp.live (fun _ => rfl) (fun _ => rfl) (fun _ _ => rfl) fun _ h => h
      exact ⟨(hs.of_kept hk).insert (hp.of_kept hk).toUnlisted hlen,
        List.mem_append_right _ List.mem_cons_self, (congrArg clientIdHashKey (hk.peerId p)).trans hkey⟩
    · exact h
  | offerListed env key p =>
    have hp : p ∈ c.streamingSessionList := h.holder.1
    have hk : Kept (fun _ => False) c (handleOffer env p c).2 :=
      handleOffer_kept env (hs.listed_live hp)
    refine ⟨hs.of_kept hk, ?_⟩
    have hok := h.holder.of_kept hk
    show Holder.Ok _ (if (handleOffer env p c).1.failed then _ else _)
    split
    · trivial
    · exact hok
  | offerAnswered env key p =>
    obtain ⟨hp, hkey⟩ : p ∈ c.streamingSessionList ∧ clientIdHashKey (c.session p).peerId = key :=
      h.holder
    simp only [World.advance]
    split
    · exact ⟨hs, trivial⟩
    · exact ⟨hkey ▸ hs.setEntry hp, hp, hkey⟩
  | offerEntered env key p =>
    have hp : p ∈ c.streamingSessionList := h.holder.1
    obtain ⟨s, ms, hd⟩ := drainPending_eq env key (hs.listed_live hp)
    refine ⟨?_, trivial⟩
    show SessionsOk (drainPending env key p c).2
    rw [hd]
    exact hs.setPending s _ rfl
  | sweepScan env n i =>
    simp only [World.advance]
    split
    · next hi =>
      have hlive := (h.getD_live hi).2
      rw [touchSession_of_live hlive]
      refine ⟨hs, ?_⟩
      show Holder.Ok c (if _ then _ else _)
      split
      · exact ⟨hi, rfl⟩
      · trivial
    · obtain ⟨hst, ht, -⟩ := @pollSignaling_eq c env
      exact ⟨hs.congr hst (congrArg Tables.streamingSessionList ht)
        (congrArg Tables.pRemoteRtcPeerConnections ht), trivial⟩
  | sweepFound env n i p =>
    obtain ⟨hi, hp⟩ : i.toNat < c.streamingSessionList.length ∧
      c.streamingSessionList.getD i.toNat 0 = p := h.holder
    simp only [World.advance]
    split
    · have hperm : (p :: swapWithLast i.toNat c.streamingSessionList).Perm c.streamingSessionList :=
        hp ▸ swapWithLast_perm hi
      have hmem : p ∈ c.streamingSessionList := hperm.mem_iff.mp List.mem_cons_self
      have hnd := List.nodup_cons.mp (hperm.nodup_iff.mpr hs.nodup)
      exact ⟨hs.unlist hperm rfl rfl, hs.listed_live hmem, hnd.1, hs.app p hmem⟩
    · exact h
  | sweepUnlinked env n i p =>
    have hp : Unlisted c p := h.holder
    obtain ⟨hss, hr⟩ := @sweepRemove_cases c p env n
    simp only [World.advance]
    generalize sweepRemove env n p c = r at hss hr
    obtain ⟨st, c1⟩ := r
    have hread : ∀ q, c1.session q = c.session q := fun q => congrArg (Arena.read · q) hss
    rcases hr with ⟨hst, ht⟩ | ⟨hst, ht⟩
    · have hl : c1.streamingSessionList = c.streamingSessionList :=
        congrArg Tables.streamingSessionList ht
      have htab := congrArg Tables.pRemoteRtcPeerConnections ht
      rw [Status.failed_eq_false.mpr hst]
      refine ⟨hs.removeKey hss hl htab, ⟨?_, hl.symm ▸ hp.not_mem, ?_⟩, fun k hk => ?_⟩
      · show c1.sessions.live p = true
        rw [hss]
        exact hp.live
      · show (c1.session p).pAppConfiguration = true
        rw [hread]
        exact hp.app
      · -- the key of `p` is the only one that could name it
        have hk' := (congrFun htab k).symm.trans hk
        simp only at hk'
        by_cases he : k = clientIdHashKey (c.session p).peerId
        · rw [he, Function.update_self] at hk'
          cases hk'
        · rw [Function.update_of_ne he] at hk'
          exact he (hs.key k p hk').symm
    · rw [Status.failed_eq_true.mpr hst]
      exact ⟨hs.congr hss (congrArg Tables.streamingSessionList ht)
        (congrArg Tables.pRemoteRtcPeerConnections ht), trivial⟩
  | sweepRemoved env n i p => exact ⟨hs.free h.holder, trivial⟩
  | eosHook i =>
    simp only [World.advance]
    split
    · next hi =>
      have hk := terminateSession_kept (h.getD_live hi).2
      exact ⟨hs.of_kept hk, trivial⟩
    · exact ⟨hs, trivial⟩

theorem advanceHook (h : WorldOk w) : WorldOk w.advanceHook := by
  unfold World.advanceHook
  split
  · exact h
  · next frame i _ =>
    split
    · next hi => exact h.of_kept (sinkFrame_kept frame (h.getD_live hi).2) _ _
    · exact ⟨h.sessions, h.holder⟩

theorem addStats (h : WorldOk w) : WorldOk w.addStats := by
  unfold World.addStats
  split
  · exact h
  · refine h.of_kept (P := fun _ => False) (Kept.of_eq ?_ ?_) _ _ <;> split <;> rfl

theorem step (h : WorldOk w) (a : Action) : WorldOk (w.step a) := by
  cases a with
  | receive env msg => exact World.whenIdle_elim h fun hidle => h.receive hidle env msg
  | poll env => exact World.whenIdle_elim h fun _ => ⟨h.sessions, trivial⟩
  | mediaEos => exact World.whenIdle_elim h fun _ => ⟨h.sessions, trivial⟩
  | advance => exact h.advance
  | addStats => exact h.addStats
  | mediaFrame frame =>
    show WorldOk (if w.readLockFree then _ else w)
    split
    · exact ⟨h.sessions, h.holder⟩
    · exact h
  | advanceHook => exact h.advanceHook
  | connectionStateChange p st =>
    show WorldOk (if w.app.sessions.live p then _ else w)
    split
    · next hp => exact h.of_kept (onConnectionStateChange_kept st hp) _ _
    · exact h
  | mediaSenderDone => exact h.of_same rfl rfl
  | restartRequested => exact h.of_same rfl rfl
  | pregenerateCert env => exact World.whenIdle_elim h fun _ => h.of_same rfl rfl

end WorldOk

/-! ## The list under a step -/

/-- The session list behind the next step of the holder of the lock. -/
def World.nextList (w : World) : List PStreamingSession :=
  match w.holder with
  | .offerCreated _ _ p =>
    if w.readLockFree then w.app.streamingSessionList ++ [p] else w.app.streamingSessionList
  | .sweepFound _ _ i _ =>
    if w.readLockFree then swapWithLast i.toNat w.app.streamingSessionList
    else w.app.streamingSessionList
  | _ => w.app.streamingSessionList

section
variable {w : World}

theorem World.list_receive (h : WorldOk w) (env : Env) (msg : ReceivedSignalingMessage) :
    (w.receive env msg).app.streamingSessionList = w.app.streamingSessionList := by
  refine World.receive_elim
    (P := fun c => c.streamingSessionList = w.app.streamingSessionList) ?_ fun hno => ?_
  · exact (createStreamingSession_unnamed env msg.signalingMessage.peerClientId h.sessions).2.1
  · exact (unlisted_onSignalingMessageReceived env msg h.sessions hno).2

theorem World.list_advance (h : WorldOk w) :
    w.advance.app.streamingSessionList = w.nextList := by
  obtain ⟨c, holder, hook, adds⟩ := w
  unfold World.nextList
  cases holder with
  | idle => rfl
  | offerCreated env key p =>
    simp only [World.advance]
    split <;> rfl
  | offerListed env key p =>
    have hk : Kept (fun _ => False) c (handleOffer env p c).2 :=
      handleOffer_kept env (h.sessions.listed_live h.holder.1)
    exact hk.list
  | offerAnswered env key p =>
    simp only [World.advance]
    split <;> rfl
  | offerEntered env key p =>
    obtain ⟨s, ms, hd⟩ := drainPending_eq env key (h.sessions.listed_live h.holder.1)
    show (drainPending env key p c).2.streamingSessionList = c.streamingSessionList
    rw [hd]
    rfl
  | sweepScan env n i =>
    simp only [World.advance]
    split
    · rfl
    · exact congrArg Tables.streamingSessionList (@pollSignaling_eq c env).2.1
  | sweepFound env n i p =>
    simp only [World.advance]
    split <;> rfl
  | sweepUnlinked env n i p =>
    show (sweepRemove env n p c).2.streamingSessionList = c.streamingSessionList
    rcases (@sweepRemove_cases c p env n).2 with ⟨-, ht⟩ | ⟨-, ht⟩ <;>
      exact congrArg Tables.streamingSessionList ht
  | sweepRemoved env n i p => exact congrArg Tables.streamingSessionList tables_freeStreamingSession
  | eosHook i =>
    simp only [World.advance]
    split <;> rfl

/-- Only the holder of the lock changes the list. -/
theorem World.list_step (h : WorldOk w) {a : Action} (ha : a ≠ .advance) :
    (w.step a).app.streamingSessionList = w.app.streamingSessionList := by
  have hwhen : ∀ w' : World, w'.app.streamingSessionList = w.app.streamingSessionList →
      (w.whenIdle w').app.streamingSessionList = w.app.streamingSessionList := fun w' hw =>
    World.whenIdle_elim (P := fun x => x.app.streamingSessionList = w.app.streamingSessionList) rfl
      fun _ => hw
  cases a with
  | receive env msg => exact hwhen _ (World.list_receive h env msg)
  | poll env => exact hwhen _ rfl
  | mediaEos => exact hwhen _ rfl
  | advance => exact absurd rfl ha
  | addStats =>
    obtain ⟨id, happ⟩ := w.app_addStats
    show w.addStats.app.streamingSessionList = _
    rw [happ]
  | mediaFrame frame =>
    show (if w.readLockFree then _ else w).app.streamingSessionList = _
    split <;> rfl
  | advanceHook =>
    show w.advanceHook.app.streamingSessionList = _
    unfold World.advanceHook
    split
    · rfl
    · next frame i _ =>
      split
      · next hi => exact (sinkFrame_kept frame (h.getD_live hi).2).list
      · rfl
  | connectionStateChange p st =>
    show (if w.app.sessions.live p then _ else w).app.streamingSessionList = _
    split
    · next hp => exact (onConnectionStateChange_kept st hp).list
    · rfl
  | mediaSenderDone => rfl
  | restartRequested => rfl
  | pregenerateCert env => exact hwhen _ rfl

end

/-! ## The sessions of the OFFERs -/

/-- The session that the handler of an OFFER holds. -/
def Holder.offerSession : Holder → Option PStreamingSession
  | .offerCreated _ _ p | .offerListed _ _ p | .offerAnswered _ _ p | .offerEntered _ _ p => some p
  | .idle | .sweepScan .. | .sweepFound .. | .sweepUnlinked .. | .sweepRemoved .. | .eosHook _ => none

section
variable {w : World} {q : PStreamingSession}

theorem WorldOk.offerSession_lt (h : WorldOk w) (hq : w.holder.offerSession = some q) :
    q < w.app.sessions.next := by
  obtain ⟨c, holder, hook, adds⟩ := w
  have hok := h.holder
  cases holder with
  | offerCreated env key p =>
    cases hq
    exact Arena.live_lt hok.2.1.live
  | offerListed env key p | offerAnswered env key p | offerEntered env key p =>
    cases hq
    exact Arena.live_lt (h.sessions.listed_live hok.1)
  | idle | sweepScan | sweepFound | sweepUnlinked | sweepRemoved | eosHook => cases hq

/-- The handler's session stays its session. -/
theorem World.offerSession_advance (hq : w.advance.holder.offerSession = some q) :
    w.holder.offerSession = some q := by
  obtain ⟨c, holder, hook, adds⟩ := w
  cases holder with
  | idle => exact hq
  | offerCreated env key p =>
    simp only [World.advance] at hq
    split at hq <;> exact hq
  | offerListed env key p =>
    have hq' : (if (handleOffer env p c).1.failed then Holder.idle
        else .offerAnswered env key p).offerSession = some q := hq
    split at hq'
    · cases hq'
    · exact hq'
  | offerAnswered env key p =>
    simp only [World.advance] at hq
    split at hq
    · cases hq
    · exact hq
  | offerEntered env key p => cases hq
  | sweepScan env n i =>
    simp only [World.advance] at hq
    split at hq
    · have hq' : (if ((c.touchSession (c.streamingSessionList.getD i.toNat 0)).session
            (c.streamingSessionList.getD i.toNat 0)).terminateFlag = true
          then Holder.sweepFound env n i (c.streamingSessionList.getD i.toNat 0)
          else .sweepScan env (n + 1) (i + 1)).offerSession = some q := hq
      split at hq' <;> cases hq'
    · cases hq
  | sweepFound env n i p =>
    simp only [World.advance] at hq
    split at hq <;> cases hq
  | sweepUnlinked env n i p =>
    have hq' : (if (sweepRemove env n p c).1.failed then Holder.idle
        else .sweepRemoved env n i p).offerSession = some q := hq
    split at hq' <;> cases hq'
  | sweepRemoved env n i p => cases hq
  | eosHook i =>
    simp only [World.advance] at hq
    split at hq <;> cases hq

/-- A session that is listed, or that the handler of its OFFER has not listed yet. -/
def World.HasSession (w : World) (q : PStreamingSession) : Prop :=
  q ∈ w.app.streamingSessionList ∨ w.holder.offerSession = some q

theorem WorldOk.hasSession_lt (h : WorldOk w) (hq : w.HasSession q) : q < w.app.sessions.next :=
  hq.elim (fun hmem => Arena.live_lt (h.sessions.listed_live hmem)) h.offerSession_lt

theorem World.hasSession_advance (h : WorldOk w) (hq : w.advance.HasSession q) : w.HasSession q := by
  rcases hq with hq | hq
  · rw [World.list_advance h] at hq
    obtain ⟨c, holder, hook, adds⟩ := w
    cases holder with
    | offerCreated env key p =>
      simp only [World.nextList] at hq
      split at hq
      · rcases List.mem_append.mp hq with hq | hq
        · exact Or.inl hq
        · rw [List.mem_singleton.mp hq]
          exact Or.inr rfl
      · exact Or.inl hq
    | sweepFound env n i p =>
      simp only [World.nextList] at hq
      split at hq
      · exact Or.inl ((swapWithLast_perm h.holder.1).mem_iff.mp (List.mem_cons_of_mem _ hq))
      · exact Or.inl hq
    | idle | offerListed | offerAnswered | offerEntered | sweepScan | sweepUnlinked | sweepRemoved
    | eosHook => exact Or.inl hq
  · exact Or.inr (World.offerSession_advance hq)

/-- Sessions come with messages only. -/
theorem World.hasSession_step (h : WorldOk w) {a : Action} (ha : ∀ env msg, a ≠ .receive env msg)
    (hq : (w.step a).HasSession q) : w.HasSession q := by
  by_cases hadv : a = .advance
  · subst hadv
    exact World.hasSession_advance h hq
  · have hholder : (w.step a).holder.offerSession = some q → w.holder.offerSession = some q := by
      have hwhen : ∀ w' : World, w'.holder.offerSession ≠ some q ∨ w'.holder = w.holder →
          (w.whenIdle w').holder.offerSession = some q → w.holder.offerSession = some q :=
        fun w' hw' => World.whenIdle_elim (P := fun x => x.holder.offerSession = some q →
          w.holder.offerSession = some q) id
          fun _ hx => hw'.elim (fun hne => absurd hx hne) fun heq => heq ▸ hx
      cases a with
      | receive env msg => exact absurd rfl (ha env msg)
      | advance => exact absurd rfl hadv
      | poll env => exact hwhen _ (Or.inl fun e => by cases e)
      | mediaEos => exact hwhen _ (Or.inl fun e => by cases e)
      | pregenerateCert env => exact hwhen _ (Or.inr rfl)
      | addStats =>
        show w.addStats.holder.offerSession = _ → _
        unfold World.addStats
        split <;> exact id
      | mediaFrame frame =>
        show (if w.readLockFree then _ else w).holder.offerSession = _ → _
        split <;> exact id
      | advanceHook =>
        show w.advanceHook.holder.offerSession = _ → _
        unfold World.advanceHook
        split
        · exact id
        · split <;> exact id
      | connectionStateChange p st =>
        show (if w.app.sessions.live p then _ else w).holder.offerSession = _ → _
        split <;> exact id
      | mediaSenderDone => exact id
      | restartRequested => exact id
    rcases hq with hq | hq
    · rw [World.list_step h hadv] at hq
      exact Or.inl hq
    · exact Or.inr (hholder hq)

end

/-! ## No dangling pointer -/

/-- The pointers of the list and the table are to distinct, created and not freed sessions, and
no session was freed twice or used after it was freed. -/
structure NoDangling (c : AppConfiguration) : Prop where
  count : c.streamingSessionList.length ≤ appMaxConcurrentStreamingSession
  distinct : c.streamingSessionList.Nodup
  listed : ∀ p ∈ c.streamingSessionList, p < c.sessions.next ∧ c.sessions.frees p = 0
  entries : ∀ k p, c.pRemoteRtcPeerConnections k = some p →
    p < c.sessions.next ∧ c.sessions.frees p = 0
  freedOnce : ∀ p, c.sessions.frees p ≤ 1
  unmisused : c.sessions.misused = false

theorem SessionsOk.noDangling {c : AppConfiguration} (h : SessionsOk c) : NoDangling c := by
  obtain ⟨leaked, ho, -⟩ := h.owned
  have hlive : ∀ p, c.sessions.live p = true → p < c.sessions.next ∧ c.sessions.frees p = 0 :=
    fun p hp => ⟨Arena.live_lt hp, Arena.frees_of_live hp⟩
  exact ⟨h.count, h.nodup, fun p hp => hlive p (h.listed_live hp),
    fun k p hp => hlive p (h.entry_live hp), ho.once, ho.unmisused⟩

/-- In every state that any interleaving reaches. -/
theorem no_dangling_sessions (latched : Bool) (as : List Action) :
    NoDangling (Run.exec World.step (World.start latched) as).app :=
  (Run.exec_invariant (I := WorldOk) (fun _ a h => h.step a)
    (WorldOk.start latched) as).sessions.noDangling

end WebrtcApp
