import WebrtcApp.App.Sessions

/-!
# Ownership of pending messages over runs

Every pending queue and every stored message is freed exactly once by the end of a run, and
none is used after that, on runs in which no step breaks the ownership (`KeepsOwnership`).
Two kinds of OFFER break it:

    one that gets as far as the drain, with queues in the store but none of its key:
      the last queue is freed and stays in the store
    one that finds the session list full and a queue of its key in the store:
      the queue is taken out and not freed

Everything else keeps it, whatever its calls return: candidates queued, whichever queue they
go to, drains cut short by a failed candidate, and expiry as long as it can put back the
queues it keeps.
-/

namespace WebrtcApp

/-- A lookup that removes takes the queue of the key out of the store. -/
def ConnectionMsgQ.Unlinks (s : ConnectionMsgQ) (env : Env) (key : UInt64) : Prop :=
  ∃ pre p post, s.pMsqQueue = pre ++ p :: post ∧ (∀ q ∈ pre, s.key q ≠ key) ∧ s.key p = key ∧
    env.IteratorOk (pre.length + 1) ∧ env.ok .lookupRemoveItem = true

/-- What an OFFER must not do: drain another client's queue, or take out its own queue with the
session list full. -/
def KeepsOwnership (c : AppConfiguration) : Event → Prop
  | .message env msg =>
    let key := clientIdHashKey msg.signalingMessage.peerClientId
    let s := c.pRemotePeerPendingSignalingMessages
    msg.signalingMessage.messageType = .offer → env.ok .appHashTableContains = true →
      c.pRemoteRtcPeerConnections key = none →
      if c.streamingSessionList.length = appMaxConcurrentStreamingSession then ¬ s.Unlinks env key
      else
        env.SessionCreated c.media → c.readLockHeld = false → env.OfferAnswered →
          env.ok .appHashTablePut = true → env.IteratorOk s.pMsqQueue.length → s.UsesOwnQueue key
  | _ => True

/-- The expiry pass can put back the queues it keeps. -/
def Event.ReenqueueOk : Event → Prop
  | .poll env => ∀ n, env.ok (.expireEnqueue n) = true
  | _ => True

/-- Everything that was allocated has been freed once, and nothing was used after that. -/
structure AllFreedOnce (s : ConnectionMsgQ) : Prop where
  queues : ∀ p < s.queues.next, s.queues.frees p = 1
  messages : ∀ m < s.messages.next, s.messages.frees m = 1
  queuesUnmisused : s.queues.misused = false
  messagesUnmisused : s.messages.misused = false

/-- The queues and messages that are alive are those in the store, and nothing was misused. -/
structure OwnershipInv (c : AppConfiguration) : Prop where
  sessions : SessionsOk c
  store : c.pRemotePeerPendingSignalingMessages.Owned [] []

namespace OwnershipInv

variable {c c' : AppConfiguration}

theorem initApp (latched : Bool) : OwnershipInv (AppConfiguration.initApp latched) :=
  ⟨SessionsOk.initApp latched, ConnectionMsgQ.Owned.create⟩

theorem offer (h : OwnershipInv c) {env : Env} {msg : ReceivedSignalingMessage}
    (hm : msg.signalingMessage.messageType = .offer) (hc : env.ok .appHashTableContains = true)
    (hnone : c.pRemoteRtcPeerConnections (clientIdHashKey msg.signalingMessage.peerClientId) = none)
    (hk : KeepsOwnership c (.message env msg)) :
    (receiveOffer env (clientIdHashKey msg.signalingMessage.peerClientId) msg.signalingMessage
      c).2.pRemotePeerPendingSignalingMessages.Owned [] [] := by
  have hk := hk hm hc hnone
  obtain ⟨leaked, ho, -⟩ := h.sessions.owned
  rcases receiveOffer_cases env (clientIdHashKey msg.signalingMessage.peerClientId)
    msg.signalingMessage ho with
    ⟨hfull, hr⟩ | ⟨-, hu, -⟩ | ⟨hfree, hcr, hlock, c1, hl, hrest⟩
  · rw [if_pos hfull] at hk
    rw [hr]
    rcases getPendingMsgQByHashVal_cases env
      (clientIdHashKey msg.signalingMessage.peerClientId) true h.store with
      ⟨-, hs⟩ | ⟨-, -, he⟩ | ⟨pre, p, post, hsplit, hpre, hp, hit, hrm, -⟩
    · simp only [hs]
      exact h.store
    · simp only [he]
      exact h.store
    · exact absurd ⟨pre, p, post, hsplit, hpre, hp, hit, hrm rfl⟩ hk
  · rw [show (receiveOffer env _ _ c).2.pRemotePeerPendingSignalingMessages = _ from
      hu.pending]
    exact h.store
  · rw [if_neg hfree] at hk
    have hp : c1.pRemotePeerPendingSignalingMessages = c.pRemotePeerPendingSignalingMessages :=
      hl.pending
    rcases hrest with ⟨-, st, -, hr⟩ | ⟨hans, hput, hr⟩
    · rw [hr, hp]
      exact h.store
    · have hown := hk hcr hlock hans hput
      rw [← hp] at hown
      have hd : (drainPending env (clientIdHashKey msg.signalingMessage.peerClientId)
          c.sessions.next (c1.setEntry (clientIdHashKey msg.signalingMessage.peerClientId)
            c.sessions.next)).2.pRemotePeerPendingSignalingMessages.Owned [] [] := by
        have hs1 : c1.pRemotePeerPendingSignalingMessages.Owned [] [] := hp ▸ h.store
        rcases drainPending_cases (p := c.sessions.next) env
          (clientIdHashKey msg.signalingMessage.peerClientId)
          (c := c1.setEntry _ c.sessions.next) hs1 with
          ⟨-, hd, -⟩ | ⟨hno, hne, hit⟩ | ⟨s', b, ho', -, -, -, hd⟩
        · rw [hd]
          exact hs1
        · rcases hown hit with hnil | hmem
          · exact absurd hnil hne
          · exact absurd (mem_keys_boxes.mpr hmem) hno
        · rw [hd]
          exact ho'
      rw [hr]
      simp only
      split
      · exact hd
      · rw [pending_startStats]
        exact hd

theorem message (h : OwnershipInv c) {env : Env} {msg : ReceivedSignalingMessage}
    (hk : KeepsOwnership c (.message env msg)) :
    (onSignalingMessageReceived env msg c).2.pRemotePeerPendingSignalingMessages.Owned [] [] := by
  rcases onSignalingMessageReceived_cases env msg with ⟨st, hr⟩ | ⟨hm, hc, hnone, hr⟩ | ⟨-, -, hr⟩
  · rw [hr]
    exact h.store
  · rw [hr]
    exact h.offer hm hc hnone hk
  · rw [hr]
    cases he : c.pRemoteRtcPeerConnections (clientIdHashKey msg.signalingMessage.peerClientId) with
    | none =>
      rw [receiveIceCandidate_of_none env _ msg he]
      exact queueCandidate_owned env _ msg h.store
    | some p =>
      rw [receiveIceCandidate_of_entry env _ msg he (h.sessions.entry_live he)]
      exact h.store

theorem poll (h : OwnershipInv c) {env : Env} (hk : ∀ n, env.ok (.expireEnqueue n) = true) :
    (pollApp env c).2.pRemotePeerPendingSignalingMessages.Owned [] [] := by
  have hswept : ∀ {c1}, Swept c c1 → c1.pRemotePeerPendingSignalingMessages.Owned [] [] :=
    fun hsw => (hsw.invariant (I := fun c => c.pRemotePeerPendingSignalingMessages.Owned [] [])
      (fun _ ho hu => hu.pending.symm ▸ ho) h.sessions h.store).2
  obtain ⟨c1, hsw, hr | ⟨-, hr⟩ | ⟨p, hd⟩⟩ := pollApp_cases env h.sessions
  · obtain ⟨-, -, hp | hp⟩ := @pollSignaling_eq c1 env
    · rw [hr, hp]
      exact hswept hsw
    · obtain ⟨⟨lost, ho, hlost⟩, -⟩ := removeExpiredPendingMsgQ_spec env
        appPendingMessageCleanupDuration (hswept hsw)
      rw [hr, hp]
      rw [hlost hk] at ho
      exact ho
  · rw [hr]
    exact hswept hsw
  · rw [hd.pending]
    exact hswept hsw

theorem step (h : OwnershipInv c) (e : Event) (hk : KeepsOwnership c e) (hr : e.ReenqueueOk) :
    OwnershipInv (step c e) := by
  refine ⟨h.sessions.step e, ?_⟩
  rcases step_cases h.sessions e with ⟨env, msg, rfl, -, hs⟩ | ⟨env, rfl, hs⟩ | ⟨P, hkept⟩
  · rw [hs, settle_eq]
    exact h.message hk
  · rw [hs, settle_eq]
    exact h.poll hr
  · exact hkept.pending ▸ h.store

end OwnershipInv

/-- With the whole store freed at the end, nothing is left and nothing was freed twice. -/
theorem allFreedOnce_of_owned {s : ConnectionMsgQ} (h : s.Owned [] []) :
    AllFreedOnce (freeConnectionMsgQ s) := by
  obtain ⟨ho, hnil⟩ := freeConnectionMsgQ_spec h
  have hq := ho.queues
  have hm := ho.messages
  rw [hnil] at hq hm
  exact ⟨fun _ hp => hq.frees_eq_one hp, fun _ hp => hm.frees_eq_one hp, hq.unmisused, hm.unmisused⟩

/-- On every run whose steps keep the ownership, and a final `freeConnectionMsgQ`. -/
theorem pending_freed_once (latched : Bool) (es : List Event)
    (hexpiry : Run.Along step (fun _ e => e.ReenqueueOk) (AppConfiguration.initApp latched) es)
    (hkeep : Run.Along step KeepsOwnership (AppConfiguration.initApp latched) es) :
    AllFreedOnce (freeConnectionMsgQ
      (Run.exec step (AppConfiguration.initApp latched) es).pRemotePeerPendingSignalingMessages) :=
  allFreedOnce_of_owned ((hexpiry.and hkeep).invariant (OwnershipInv.initApp latched)
    fun _ e h hp => h.step e hp.2 hp.1).store

/-- A candidate of `A` waits, `A` sends its OFFER, and the candidate is refused. -/
theorem pending_freed_once_of_refused :
    let env : Env := { Env.allOk with
      status := fun call => if call = .addIceCandidate 0 (candidateOf clientA [1]).signalingMessage
        then .sdk 1 else .success }
    let es := [Event.message Env.allOk (candidateOf clientA [1]),
      Event.message env (offerOf clientA)]
    AllFreedOnce (freeConnectionMsgQ
      (Run.exec step (AppConfiguration.initApp true) es).pRemotePeerPendingSignalingMessages) := by
  refine pending_freed_once true _ ⟨trivial, trivial, trivial⟩ ⟨fun h => ?_, fun _ _ _ => ?_, trivial⟩
  · cases h
  · exact fun _ _ _ _ _ => Or.inr (by decide +kernel)

/-- A candidate of `A` waits and `B` sends an OFFER: the queue of `A` is freed twice. -/
theorem freed_twice : ¬ ∀ (latched : Bool) (es : List Event),
    Run.Along step (fun _ e => e.ReenqueueOk) (AppConfiguration.initApp latched) es →
    AllFreedOnce (freeConnectionMsgQ
      (Run.exec step (AppConfiguration.initApp latched) es).pRemotePeerPendingSignalingMessages) := by
  intro h
  have hfrees := (h true [Event.message Env.allOk (candidateOf clientA [1]),
    Event.message Env.allOk (offerOf clientB)] ⟨trivial, trivial, trivial⟩).queues 0
    (by decide +kernel)
  exact absurd hfrees (by decide +kernel)

end WebrtcApp
