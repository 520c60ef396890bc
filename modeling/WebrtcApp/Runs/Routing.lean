import WebrtcApp.App.Sessions

/-!
# Candidate routing over runs

Where a client's candidates go, from their arrival to `addIceCandidate` or to the expiry of
their queue, on runs whose queue, hash table and allocation calls succeed.

A lookup for a key that has no queue returns the last queue of the store, so routing is right
only on runs in which that result is never used (`OwnQueueUsed`): then each candidate is
submitted at most once, in the order sent, to a session of its client, waits in no other
client's queue, and no message touches another client's queue (`candidates_routed`).
`misrouted` is a run of two clients where a candidate of the one ends at the other's session.

The invariant `RouteInv` joins the pending store, the hash table and the session list: a key
with a queue has no session, and the ledger of `Lib/Mailbox` balances what was received under
a key with what was submitted and what waits.
-/

namespace WebrtcApp

/-! ## What was received and what was submitted -/

/-- The client a message comes from. -/
def Event.client : Event → Option ClientId
  | .message _ msg => some msg.signalingMessage.peerClientId
  | _ => none

def Event.candidate : Event → Option ReceivedSignalingMessage
  | .message _ msg =>
    if msg.signalingMessage.messageType = .iceCandidate then some msg else none
  | _ => none

theorem Event.client_of_candidate {e : Event} {x : ReceivedSignalingMessage}
    (h : e.candidate = some x) : e.client = some x.signalingMessage.peerClientId := by
  cases e <;> simp only [Event.candidate] at h <;> try cases h
  split at h
  · rw [Option.some.inj h]
    rfl
  · cases h

def clients (es : List Event) : List ClientId := es.filterMap Event.client

/-- No two clients of the run share a CRC-32. -/
def KeysDistinct (es : List Event) : Prop :=
  ∀ d ∈ clients es, ∀ d' ∈ clients es, clientIdHashKey d = clientIdHashKey d' → d = d'

/-- The candidates received from `d`, oldest first. -/
def candidatesFrom (d : ClientId) (es : List Event) : List SignalingMessage :=
  ((es.filterMap Event.candidate).map ReceivedSignalingMessage.signalingMessage).filter
    fun m => m.peerClientId = d

/-- The candidates of `d` that were submitted, oldest first. -/
def submittedFrom (d : ClientId) (c : AppConfiguration) : List SignalingMessage :=
  (c.peers.submissions.map Prod.snd).filter fun m => m.peerClientId = d

structure CandidatesRouted (es : List Event) (c : AppConfiguration) : Prop where
  /-- A candidate is submitted to a session of its client. -/
  session : ∀ p m, (p, m) ∈ c.peers.submissions → (c.session p).peerId = m.peerClientId
  /-- At most once, and in the order sent. -/
  order : ∀ d, (submittedFrom d c).Sublist (candidatesFrom d es)
  /-- It waits in the queue of its client. -/
  queued : ∀ b ∈ c.pRemotePeerPendingSignalingMessages.boxes, ∀ x ∈ b.items,
    clientIdHashKey x.signalingMessage.peerClientId = b.key

/-- A message leaves the queues of the other clients as they are. -/
def OthersUntouched (c : AppConfiguration) : Event → Prop
  | .message env msg =>
    let key := clientIdHashKey msg.signalingMessage.peerClientId
    Mailbox.others key (step c (.message env msg)).pRemotePeerPendingSignalingMessages.boxes =
      Mailbox.others key c.pRemotePeerPendingSignalingMessages.boxes
  | _ => True

/-- The queue, hash table and allocation calls of the step succeed. -/
def Event.StorageOk : Event → Prop
  | .message env _ | .poll env => env.StorageOk
  | _ => True

/-- Where the step uses the result of a lookup, the store is empty or has a queue of the key: a
candidate of a client without a session, and an OFFER that gets as far as the drain. -/
def OwnQueueUsed (c : AppConfiguration) : Event → Prop
  | .message env msg =>
    let key := clientIdHashKey msg.signalingMessage.peerClientId
    c.pRemoteRtcPeerConnections key = none →
      (msg.signalingMessage.messageType = .iceCandidate ∨
        (msg.signalingMessage.messageType = .offer ∧
          c.streamingSessionList.length ≠ appMaxConcurrentStreamingSession ∧
          env.SessionCreated c.media ∧ env.OfferAnswered)) →
      c.pRemotePeerPendingSignalingMessages.UsesOwnQueue key
  | _ => True

/-! ## The ledger by key -/

/-- The candidates received under each key. -/
def sentUnder (es : List Event) (k : UInt64) : List ReceivedSignalingMessage :=
  (es.filterMap Event.candidate).filter fun x =>
    clientIdHashKey x.signalingMessage.peerClientId = k

/-- The candidates submitted under each key. -/
def deliveredUnder (submissions : List (PStreamingSession × SignalingMessage)) (k : UInt64) :
    List ReceivedSignalingMessage :=
  (submissions.map fun s => ⟨s.2⟩).filter fun x =>
    clientIdHashKey x.signalingMessage.peerClientId = k

theorem sentUnder_append_none {es : List Event} {e : Event} (h : e.candidate = none) :
    sentUnder (es ++ [e]) = sentUnder es := by
  funext k
  simp [sentUnder, h]

theorem sentUnder_append_some {es : List Event} {e : Event} {x : ReceivedSignalingMessage}
    (h : e.candidate = some x) : sentUnder (es ++ [e]) =
      Mailbox.record (sentUnder es) (clientIdHashKey x.signalingMessage.peerClientId) [x] := by
  funext k
  unfold sentUnder Mailbox.record
  simp only [List.filterMap_append, List.filterMap_cons, h, List.filterMap_nil,
    List.filter_append]
  by_cases hk : k = clientIdHashKey x.signalingMessage.peerClientId
  · simp [hk]
  · simp [hk, Ne.symm hk]

theorem deliveredUnder_submit {u : Peers} {p : PStreamingSession} {ms : List SignalingMessage}
    {k : UInt64} (h : ∀ m ∈ ms, clientIdHashKey m.peerClientId = k) :
    deliveredUnder (u.submit p ms).submissions =
      Mailbox.record (deliveredUnder u.submissions) k
        (ms.map fun m => (⟨m⟩ : ReceivedSignalingMessage)) := by
  funext k'
  unfold deliveredUnder Mailbox.record Peers.submit
  rw [List.map_append, List.filter_append, List.map_map]
  split
  · next hk =>
    congr 1
    apply List.filter_eq_self.mpr
    intro x hx
    obtain ⟨m, hm, rfl⟩ := List.mem_map.mp hx
    simpa [hk] using h m hm
  · next hk =>
    refine (congrArg _ (List.filter_eq_nil_iff.mpr fun x hx => ?_)).trans (List.append_nil _)
    obtain ⟨m, hm, rfl⟩ := List.mem_map.mp hx
    simpa [h m hm] using Ne.symm hk

/-! ## The invariant -/

structure RouteInv (past : List Event) (c : AppConfiguration) : Prop where
  sessions : SessionsOk c
  store : ∃ held, c.pRemotePeerPendingSignalingMessages.Owned held []
  keys : (Mailbox.keys c.pRemotePeerPendingSignalingMessages.boxes).Nodup
  own : ∀ b ∈ c.pRemotePeerPendingSignalingMessages.boxes, ∀ x ∈ b.items,
    clientIdHashKey x.signalingMessage.peerClientId = b.key
  apart : ∀ k ∈ Mailbox.keys c.pRemotePeerPendingSignalingMessages.boxes,
    c.pRemoteRtcPeerConnections k = none
  ledger : Mailbox.Routed (sentUnder past) (deliveredUnder c.peers.submissions)
    c.pRemotePeerPendingSignalingMessages.boxes
  entries : ∀ k p, c.pRemoteRtcPeerConnections k = some p → (c.session p).peerId ∈ clients past
  submitted : ∀ p m, (p, m) ∈ c.peers.submissions → p < c.sessions.next ∧
    clientIdHashKey (c.session p).peerId = clientIdHashKey m.peerClientId ∧
    (c.session p).peerId ∈ clients past

namespace RouteInv

variable {past : List Event} {c c' : AppConfiguration}

theorem initApp (latched : Bool) : RouteInv [] (AppConfiguration.initApp latched) where
  sessions := SessionsOk.initApp latched
  store := ⟨[], ConnectionMsgQ.Owned.create⟩
  keys := List.nodup_nil
  own := fun _ hb => absurd hb List.not_mem_nil
  apart := fun _ hk => absurd hk List.not_mem_nil
  ledger := Mailbox.Routed.start
  entries := fun _ _ h => absurd h (by simp [AppConfiguration.initApp])
  submitted := fun _ _ h => absurd h List.not_mem_nil

/-- One more event is received, and nothing changes. -/
theorem skip (h : RouteInv past c) (e : Event) : RouteInv (past ++ [e]) c := by
  have hmono : ∀ {d}, d ∈ clients past → d ∈ clients (past ++ [e]) := by
    intro d hd
    rw [clients, List.filterMap_append]
    exact List.mem_append_left _ hd
  refine { h with
    ledger := ?_
    entries := fun k p hp => hmono (h.entries k p hp)
    submitted := fun p m hm => ?_ }
  · cases he : e.candidate with
    | none =>
      rw [sentUnder_append_none he]
      exact h.ledger
    | some x =>
      rw [sentUnder_append_some he]
      exact h.ledger.drop _ x
  · obtain ⟨h1, h2, h3⟩ := h.submitted p m hm
    exact ⟨h1, h2, hmono h3⟩

/-- The sessions change, and the tables lose entries at most. -/
theorem of_sessions (h : RouteInv past c) (hs : SessionsOk c')
    (hp : c'.pRemotePeerPendingSignalingMessages = c.pRemotePeerPendingSignalingMessages)
    (hsub : c'.peers.submissions = c.peers.submissions)
    (ht : ∀ k p, c'.pRemoteRtcPeerConnections k = some p → c.pRemoteRtcPeerConnections k = some p)
    (hn : c.sessions.next ≤ c'.sessions.next)
    (hid : ∀ p < c.sessions.next, (c'.session p).peerId = (c.session p).peerId) :
    RouteInv past c' := by
  refine ⟨hs, hp.symm ▸ h.store, hp.symm ▸ h.keys, hp.symm ▸ h.own, fun k hk => ?_,
    hp.symm ▸ hsub.symm ▸ h.ledger, fun k p hk => ?_, fun p m hm => ?_⟩
  · cases he : c'.pRemoteRtcPeerConnections k with
    | none => rfl
    | some p =>
      have := (ht k p he).symm.trans (h.apart k (hp ▸ hk))
      cases this
  · rw [hid p (Arena.live_lt (h.sessions.entry_live (ht k p hk)))]
    exact h.entries k p (ht k p hk)
  · obtain ⟨h1, h2, h3⟩ := h.submitted p m (hsub ▸ hm)
    rw [hid p h1]
    exact ⟨Nat.lt_of_lt_of_le h1 hn, h2, h3⟩

/-- The invariant is about the sessions, the tables and the submissions only. -/
theorem congr (h : RouteInv past c) (hs : c'.sessions = c.sessions)
    (hl : c'.streamingSessionList = c.streamingSessionList)
    (ht : c'.pRemoteRtcPeerConnections = c.pRemoteRtcPeerConnections)
    (hp : c'.pRemotePeerPendingSignalingMessages = c.pRemotePeerPendingSignalingMessages)
    (hsub : c'.peers.submissions = c.peers.submissions) : RouteInv past c' :=
  h.of_sessions (h.sessions.congr hs hl ht) hp hsub (fun k _ hq => (congrFun ht k).symm.trans hq)
    (Nat.le_of_eq (congrArg Arena.next hs.symm)) fun q _ =>
      congrArg StreamingSession.peerId (congrArg (Arena.read · q) hs)

theorem of_kept {P : PStreamingSession → Prop} (h : RouteInv past c) (hk : Kept P c c') :
    RouteInv past c' :=
  h.of_sessions (h.sessions.of_kept hk)
    hk.pending
    hk.submissions
    (fun k _ hp => (congrFun hk.table k).symm.trans hp)
    (Nat.le_of_eq hk.next.symm) fun p _ => hk.peerId p

/-- The store loses boxes, in order. -/
theorem of_sublist (h : RouteInv past c) {s : ConnectionMsgQ} {held : List PPendingMessageQueue}
    (ho : s.Owned held []) (hs : s.boxes.Sublist c.pRemotePeerPendingSignalingMessages.boxes) :
    RouteInv past (c.setPending s c.peers) where
  sessions := h.sessions.setPending s _ rfl
  store := ⟨held, ho⟩
  keys := Mailbox.nodup_keys_sublist h.keys hs
  own := fun b hb => h.own b (hs.subset hb)
  apart := fun k hk => h.apart k ((hs.map Mailbox.key).subset hk)
  ledger := h.ledger.expire hs
  entries := h.entries
  submitted := h.submitted

/-! ### A candidate -/

theorem candidate_queued (h : RouteInv past c) {env : Env} {msg : ReceivedSignalingMessage}
    (hm : msg.signalingMessage.messageType = .iceCandidate) (henv : env.StorageOk)
    (he : c.pRemoteRtcPeerConnections (clientIdHashKey msg.signalingMessage.peerClientId) = none)
    (hown : c.pRemotePeerPendingSignalingMessages.UsesOwnQueue
      (clientIdHashKey msg.signalingMessage.peerClientId)) :
    RouteInv (past ++ [.message env msg]) (c.setPending
      (queueCandidate env (clientIdHashKey msg.signalingMessage.peerClientId) msg
        c.pRemotePeerPendingSignalingMessages).2 c.peers) := by
  obtain ⟨held, ho⟩ := h.store
  have hb := (queueCandidate_boxes env _ msg ho henv hown).2
  have hcand : (Event.message env msg).candidate = some msg := if_pos hm
  refine ⟨h.sessions.setPending _ _ rfl, ⟨held, queueCandidate_owned env _ msg ho⟩,
    ?_, ?_, ?_, ?_, (h.skip _).entries, (h.skip _).submitted⟩
  all_goals
    simp only [AppConfiguration.setPending, hb]
  · exact Mailbox.nodup_keys_deposit _ _ _ h.keys
  · intro b hb x hx
    rcases Mailbox.mem_items_deposit hb hx with ⟨rfl, hk⟩ | ⟨b', hb', hk, hx⟩
    · exact hk.symm
    · exact (h.own b' hb' x hx).trans hk
  · intro k hk
    rcases Mailbox.mem_keys_deposit hk with rfl | hk
    · exact he
    · exact h.apart k hk
  · rw [sentUnder_append_some hcand]
    exact h.ledger.deposit h.keys _ _ _

theorem candidate_submitted (h : RouteInv past c) {env : Env} {msg : ReceivedSignalingMessage}
    (hm : msg.signalingMessage.messageType = .iceCandidate) {p : PStreamingSession}
    (he : c.pRemoteRtcPeerConnections (clientIdHashKey msg.signalingMessage.peerClientId) = some p) :
    RouteInv (past ++ [.message env msg]) (c.setPending c.pRemotePeerPendingSignalingMessages
      (c.peers.submit p [msg.signalingMessage])) := by
  have hcand : (Event.message env msg).candidate = some msg := if_pos hm
  have hskip := h.skip (.message env msg)
  -- nothing of this client waits: its key has a session
  have hnone : Mailbox.contents (clientIdHashKey msg.signalingMessage.peerClientId)
      c.pRemotePeerPendingSignalingMessages.boxes = [] :=
    Mailbox.contents_of_not_mem fun hk => by
      have := he.symm.trans (h.apart _ hk)
      cases this
  refine ⟨h.sessions.setPending _ _ rfl, h.store, h.keys, h.own, h.apart, ?_, hskip.entries,
    fun q m hq => ?_⟩
  · have hd := @deliveredUnder_submit c.peers p [msg.signalingMessage]
      (clientIdHashKey msg.signalingMessage.peerClientId) (by simp)
    rw [sentUnder_append_some hcand]
    show Mailbox.Routed _ (deliveredUnder (c.peers.submit p _).submissions) _
    rw [hd]
    exact h.ledger.direct hnone msg
  · rcases List.mem_append.mp hq with hq | hq
    · exact hskip.submitted q m hq
    · obtain ⟨rfl, rfl⟩ := Prod.mk.inj (List.mem_singleton.mp hq)
      exact ⟨Arena.live_lt (h.sessions.entry_live he), h.sessions.key _ _ he, hskip.entries _ _ he⟩

/-! ### An OFFER -/

theorem startStats (h : RouteInv past c) (env : Env) : RouteInv past (startStats env c) := by
  obtain ⟨hs, ht⟩ := @startStats_eq c env
  exact h.congr hs (congrArg Tables.streamingSessionList ht)
    (congrArg Tables.pRemoteRtcPeerConnections ht)
    (congrArg Tables.pRemotePeerPendingSignalingMessages ht) (congrArg Tables.submissions ht)

/-- The new session is entered in the table while its own queue may still be in the store; the
drain takes the queue out. -/
theorem drained (h : RouteInv past c) {env : Env} {p : PStreamingSession} {key : UInt64}
    (henv : env.StorageOk) (hp : p ∈ c.streamingSessionList)
    (hkey : key = clientIdHashKey (c.session p).peerId) (hid : (c.session p).peerId ∈ clients past)
    (hown : c.pRemotePeerPendingSignalingMessages.UsesOwnQueue key) :
    RouteInv past (drainPending env key p (c.setEntry key p)).2 ∧
      Mailbox.others key
          (drainPending env key p (c.setEntry key p)).2.pRemotePeerPendingSignalingMessages.boxes =
        Mailbox.others key c.pRemotePeerPendingSignalingMessages.boxes := by
  obtain ⟨held, ho⟩ := h.store
  have hlive : c.sessions.live p = true := h.sessions.listed_live hp
  have hsetEntry : SessionsOk (c.setEntry key p) := hkey ▸ h.sessions.setEntry hp
  have hentries : ∀ k q, (c.setEntry key p).pRemoteRtcPeerConnections k = some q →
      (c.session q).peerId ∈ clients past := by
    intro k q hq
    rw [table_setEntry] at hq
    split at hq
    · exact Option.some.inj hq ▸ hid
    · exact h.entries k q hq
  rcases @drainPending_cases (c.setEntry key p) held p env key ho with
    ⟨-, hd, hnil⟩ | ⟨hno, hne, -⟩ | ⟨s', b, ho', hb, hbk, hboxes, hd⟩
  · -- an empty store
    have hempty : c.pRemotePeerPendingSignalingMessages.boxes = [] := by
      rw [ConnectionMsgQ.boxes, show c.pRemotePeerPendingSignalingMessages.pMsqQueue = [] from
        hnil fun _ hq => henv.queue hq]
      rfl
    rw [hd]
    refine ⟨⟨hsetEntry, h.store, h.keys, h.own, fun k hk => ?_, h.ledger, hentries,
      h.submitted⟩, rfl⟩
    have hk' : k ∈ Mailbox.keys c.pRemotePeerPendingSignalingMessages.boxes := hk
    rw [hempty] at hk'
    exact absurd hk' List.not_mem_nil
  · -- another client's queue: excluded
    rcases hown with hnil | hmem
    · exact absurd hnil hne
    · exact absurd (mem_keys_boxes.mpr hmem) hno
  · obtain ⟨ds, hds, hsub⟩ := drain_submits env 0 b.items (c.setEntry key p).peers hlive
    have hdskey : ∀ m ∈ ds, clientIdHashKey m.peerClientId = key := by
      intro m hm
      obtain ⟨x, hx, rfl⟩ := List.mem_map.mp (hsub.subset hm)
      exact (h.own b hb x hx).trans hbk
    have hsubx : (ds.map fun m => (⟨m⟩ : ReceivedSignalingMessage)).Sublist b.items := by
      have := hsub.map fun m => (⟨m⟩ : ReceivedSignalingMessage)
      rwa [List.map_map, show (fun m => (⟨m⟩ : ReceivedSignalingMessage)) ∘
        ReceivedSignalingMessage.signalingMessage = id from rfl, List.map_id] at this
    have hstore : c.pRemotePeerPendingSignalingMessages.boxes =
      (c.setEntry key p).pRemotePeerPendingSignalingMessages.boxes := rfl
    rw [hd]
    simp only [hds]
    refine ⟨⟨hsetEntry.setPending _ _ rfl, ⟨held, ho'⟩, ?_, ?_, fun k hk => ?_, ?_, hentries,
      fun q m hq => ?_⟩, ?_⟩
    · show (Mailbox.keys s'.boxes).Nodup
      rw [hboxes]
      exact Mailbox.nodup_keys_sublist h.keys (Mailbox.remove_sublist _ _)
    · show ∀ b ∈ s'.boxes, _
      rw [hboxes]
      exact fun b hb => h.own b ((Mailbox.remove_sublist _ _).subset hb)
    · have hk' : k ∈ Mailbox.keys (Mailbox.remove key c.pRemotePeerPendingSignalingMessages.boxes) := by
        rw [← hstore] at hboxes
        exact hboxes ▸ hk
      have hne : k ≠ key := fun e => Mailbox.not_mem_keys_remove key h.keys (e ▸ hk')
      show (c.setEntry key p).pRemoteRtcPeerConnections k = none
      rw [table_setEntry, if_neg hne]
      exact h.apart k (((Mailbox.remove_sublist _ _).map Mailbox.key).subset hk')
    · show Mailbox.Routed _ (deliveredUnder (c.peers.submit p ds).submissions) s'.boxes
      rw [deliveredUnder_submit hdskey, hboxes]
      exact h.ledger.take h.keys (hsubx.trans (Mailbox.items_sublist_contents hb hbk))
    · rcases List.mem_append.mp hq with hq | hq
      · exact h.submitted q m hq
      · obtain ⟨m', hm', he⟩ := List.mem_map.mp hq
        obtain ⟨rfl, rfl⟩ := Prod.mk.inj he
        exact ⟨Arena.live_lt hlive, hkey.symm.trans (hdskey _ hm').symm, hid⟩
    · show Mailbox.others key s'.boxes = _
      rw [hboxes]
      exact Mailbox.others_remove _ _

theorem offer (h : RouteInv past c) {env : Env} {msg : ReceivedSignalingMessage}
    (hm : msg.signalingMessage.messageType = .offer) (henv : env.StorageOk)
    (hnone : c.pRemoteRtcPeerConnections (clientIdHashKey msg.signalingMessage.peerClientId) = none)
    (hown : OwnQueueUsed c (.message env msg)) :
    let key := clientIdHashKey msg.signalingMessage.peerClientId
    let r := receiveOffer env key msg.signalingMessage c
    RouteInv (past ++ [.message env msg]) r.2 ∧
      Mailbox.others key r.2.pRemotePeerPendingSignalingMessages.boxes =
        Mailbox.others key c.pRemotePeerPendingSignalingMessages.boxes := by
  intro key r
  have hskip := h.skip (.message env msg)
  have hclient : msg.signalingMessage.peerClientId ∈ clients (past ++ [.message env msg]) := by
    rw [clients, List.filterMap_append]
    exact List.mem_append_right _ List.mem_cons_self
  obtain ⟨leaked, ho, -⟩ := h.sessions.owned
  obtain ⟨held, hst⟩ := h.store
  rcases receiveOffer_cases env key msg.signalingMessage ho with
    ⟨-, hr⟩ | ⟨-, hu, -⟩ | ⟨hfree, hcr, -, c1, hl, hrest⟩
  · rw [show r = _ from hr]
    rcases lookupRemove_cases env key hst with hs | ⟨p, -, -, hs, hb⟩
    · rw [hs]
      exact ⟨hskip, rfl⟩
    · refine ⟨hskip.of_sublist hs ?_, ?_⟩
      · rw [hb]
        exact Mailbox.remove_sublist _ _
      · show Mailbox.others key (ConnectionMsgQ.boxes _) = _
        rw [hb]
        exact Mailbox.others_remove _ _
  · have hp : r.2.pRemotePeerPendingSignalingMessages = c.pRemotePeerPendingSignalingMessages :=
      hu.pending
    refine ⟨hskip.of_sessions (h.sessions.of_unlisted hu) hp hu.submissions
      (fun k _ hq => (congrFun hu.table k).symm.trans hq)
      hu.next fun q hq => congrArg StreamingSession.peerId (hu.session q hq), by rw [hp]⟩
  · have hp : c1.pRemotePeerPendingSignalingMessages = c.pRemotePeerPendingSignalingMessages :=
      hl.pending
    have h1 : RouteInv (past ++ [.message env msg]) c1 :=
      hskip.of_sessions (h.sessions.of_listed hfree hl) hp hl.submissions
        (fun k _ hq => (congrFun hl.table k).symm.trans hq)
        hl.next hl.peerId
    rcases hrest with ⟨-, st, -, hr⟩ | ⟨hans, -, hr⟩
    · rw [show r = _ from hr]
      exact ⟨h1, by rw [hp]⟩
    · have hq : c1.pRemotePeerPendingSignalingMessages.UsesOwnQueue key :=
        hp ▸ hown hnone (Or.inr ⟨hm, hfree, hcr, hans⟩)
      obtain ⟨hd, hothers⟩ := h1.drained henv hl.mem (congrArg clientIdHashKey hl.newPeerId.symm)
        (hl.newPeerId ▸ hclient) hq
      rw [hp] at hothers
      rw [show r = _ from hr]
      simp only
      split
      · exact ⟨hd, hothers⟩
      · refine ⟨hd.startStats env, ?_⟩
        rw [pending_startStats]
        exact hothers

theorem message (h : RouteInv past c) {env : Env} {msg : ReceivedSignalingMessage}
    (henv : env.StorageOk) (hown : OwnQueueUsed c (.message env msg)) :
    RouteInv (past ++ [.message env msg]) (onSignalingMessageReceived env msg c).2 ∧
      Mailbox.others (clientIdHashKey msg.signalingMessage.peerClientId)
          (onSignalingMessageReceived env msg c).2.pRemotePeerPendingSignalingMessages.boxes =
        Mailbox.others (clientIdHashKey msg.signalingMessage.peerClientId)
          c.pRemotePeerPendingSignalingMessages.boxes := by
  rcases onSignalingMessageReceived_cases env msg with ⟨st, hr⟩ | ⟨hm, -, hnone, hr⟩ | ⟨hm, -, hr⟩
  · rw [hr]
    exact ⟨h.skip _, rfl⟩
  · rw [hr]
    exact h.offer hm henv hnone hown
  · rw [hr]
    cases he : c.pRemoteRtcPeerConnections (clientIdHashKey msg.signalingMessage.peerClientId) with
    | none =>
      have hq := hown he (Or.inl hm)
      obtain ⟨held, ho⟩ := h.store
      rw [receiveIceCandidate_of_none env _ msg he]
      refine ⟨h.candidate_queued hm henv he hq, ?_⟩
      show Mailbox.others _ (queueCandidate env _ msg c.pRemotePeerPendingSignalingMessages).2.boxes = _
      rw [(queueCandidate_boxes env _ msg ho henv hq).2]
      exact Mailbox.others_deposit _ _ _ _
    | some p =>
      rw [receiveIceCandidate_of_entry env _ msg he (h.sessions.entry_live he)]
      refine ⟨?_, rfl⟩
      split
      · exact h.candidate_submitted hm he
      · rw [Peers.submit_nil]
        exact h.skip _

/-! ### A poll -/

theorem swept (h : RouteInv past c) (hs : Swept c c') : RouteInv past c' := by
  refine (hs.invariant (I := RouteInv past) ?_ h.sessions h).2
  intro c c' p hs h hu
  refine h.of_sessions (hs.of_unlinked hu) hu.pending hu.submissions (fun k q hq => ?_)
    (Nat.le_of_eq hu.next.symm) fun q _ => hu.peerId q
  rw [hu.table, Function.update_apply] at hq
  split at hq
  · cases hq
  · exact hq

theorem poll (h : RouteInv past c) {env : Env} (henv : env.StorageOk) :
    RouteInv past (pollApp env c).2 := by
  obtain ⟨c1, hsw, hr | ⟨-, hr⟩ | ⟨p, hd⟩⟩ := pollApp_cases env h.sessions
  · have h1 := h.swept hsw
    rw [hr]
    obtain ⟨hs, ht, hpend⟩ := @pollSignaling_eq c1 env
    have h2 : RouteInv past (c1.setPending
        (pollSignaling env c1).2.pRemotePeerPendingSignalingMessages c1.peers) := by
      obtain ⟨held, ho⟩ := h1.store
      rcases hpend with hp | hp
      · rw [hp]
        exact h1
      · obtain ⟨-, hsucc, hok⟩ := removeExpiredPendingMsgQ_spec env appPendingMessageCleanupDuration ho
        obtain ⟨ho', hb⟩ := hsucc (hok fun _ hq => henv.queue hq)
        rw [hp]
        apply h1.of_sublist ho'
        rw [hb]
        exact List.filter_sublist
    exact h2.congr hs (congrArg Tables.streamingSessionList ht)
      (congrArg Tables.pRemoteRtcPeerConnections ht) rfl (congrArg Tables.submissions ht)
  · rw [hr]
    exact h.swept hsw
  · have h1 := h.swept hsw
    exact h1.of_sessions (h1.sessions.of_dropped hd) hd.pending hd.submissions
      (fun k _ hq => (congrFun hd.table k).symm.trans hq) (Nat.le_of_eq (by rw [hd.sessions]))
      fun q _ => congrArg StreamingSession.peerId (congrArg (Arena.read · q) hd.sessions)

theorem step (h : RouteInv past c) (e : Event) (hs : e.StorageOk) (hown : OwnQueueUsed c e) :
    RouteInv (past ++ [e]) (step c e) := by
  have hsettle : ∀ {r}, RouteInv (past ++ [e]) r.2 → RouteInv (past ++ [e]) (settle r) := by
    intro r h
    rw [settle_eq]
    exact h.congr rfl rfl rfl rfl rfl
  rcases step_cases h.sessions e with ⟨env, msg, rfl, -, hst⟩ | ⟨env, rfl, hst⟩ | ⟨P, hk⟩
  · rw [hst]
    exact hsettle (h.message hs hown).1
  · rw [hst]
    exact hsettle ((h.skip _).poll hs)
  · exact (h.skip _).of_kept hk

theorem othersUntouched (h : RouteInv past c) (e : Event) (hs : e.StorageOk)
    (hown : OwnQueueUsed c e) : OthersUntouched c e := by
  cases e with
  | message env msg =>
    show Mailbox.others _ (AppConfiguration.pRemotePeerPendingSignalingMessages
      (if c.blocked then c else _)).boxes = _
    split
    · rfl
    · rw [settle_eq]
      exact (h.message hs hown).2
  | _ => trivial

/-- The ledger and the distinct keys give the routing by client. -/
theorem routed (h : RouteInv past c) (hkeys : KeysDistinct past) : CandidatesRouted past c := by
  have hfilter : ∀ (d : ClientId) (l : List ReceivedSignalingMessage),
      ((l.filter fun x => clientIdHashKey x.signalingMessage.peerClientId = clientIdHashKey d).map
        ReceivedSignalingMessage.signalingMessage).filter (fun m => m.peerClientId = d) =
      (l.map ReceivedSignalingMessage.signalingMessage).filter fun m => m.peerClientId = d := by
    intro d l
    rw [List.filter_map, List.filter_filter, List.filter_map]
    congr 1
    apply List.filter_congr
    intro x _
    by_cases hx : x.signalingMessage.peerClientId = d <;> simp [hx]
  have hdelivered : ∀ d, (deliveredUnder c.peers.submissions (clientIdHashKey d)).Sublist
      (sentUnder past (clientIdHashKey d)) :=
    fun d => (List.sublist_append_left _ _).trans (h.ledger _)
  refine ⟨fun p m hm => ?_, fun d => ?_, h.own⟩
  · obtain ⟨-, hk, hid⟩ := h.submitted p m hm
    have hmem : (⟨m⟩ : ReceivedSignalingMessage) ∈
        deliveredUnder c.peers.submissions (clientIdHashKey m.peerClientId) :=
      List.mem_filter.mpr ⟨List.mem_map.mpr ⟨(p, m), hm, rfl⟩, by simp⟩
    obtain ⟨e, he, hc⟩ := List.mem_filterMap.mp
      (List.mem_filter.mp ((hdelivered _).subset hmem)).1
    exact hkeys _ hid _ (List.mem_filterMap.mpr ⟨e, he, Event.client_of_candidate hc⟩) hk
  · have := ((hdelivered d).map ReceivedSignalingMessage.signalingMessage).filter
      fun m => m.peerClientId = d
    unfold deliveredUnder sentUnder at this
    rw [hfilter, hfilter, List.map_map] at this
    exact this

end RouteInv

/-! ## The result -/

/-- On every run of clients with distinct keys whose storage calls succeed and which never uses
another client's queue, candidates are routed to their clients, and at every message of the run
the queues of the other clients are left alone. -/
theorem candidates_routed (latched : Bool) (es : List Event) (hkeys : KeysDistinct es)
    (hstorage : Run.Along step (fun _ e => e.StorageOk) (AppConfiguration.initApp latched) es)
    (hown : Run.Along step OwnQueueUsed (AppConfiguration.initApp latched) es) :
    CandidatesRouted es (Run.exec step (AppConfiguration.initApp latched) es) ∧
      Run.Along step OthersUntouched (AppConfiguration.initApp latched) es := by
  have hboth := hstorage.and hown
  have hinv := hboth.history (RouteInv.initApp latched) fun past c e h hp => h.step e hp.1 hp.2
  refine ⟨hinv.routed hkeys, ?_⟩
  exact (hboth.along_history (RouteInv.initApp latched) fun past c e h hp => h.step e hp.1 hp.2).mono
    fun c e ⟨past, h, hp⟩ => h.othersUntouched e hp.1 hp.2

/-! ## Two clients -/

/-- `A` sends a candidate before its OFFER, and then `A` sends its OFFER. -/
theorem candidates_routed_of_one_client :
    let es := [Event.message Env.allOk (candidateOf clientA [1]),
      Event.message Env.allOk (offerOf clientA)]
    CandidatesRouted es (Run.exec step (AppConfiguration.initApp true) es) ∧
      Run.Along step OthersUntouched (AppConfiguration.initApp true) es := by
  refine candidates_routed true _ ?_ ⟨Env.allOk_storageOk, Env.allOk_storageOk, trivial⟩
    ⟨fun _ _ => Or.inl rfl, fun _ _ => ?_, trivial⟩
  · intro d hd d' hd' _
    have hA : ∀ d ∈ [clientA, clientA], d = clientA := by simp
    exact (hA d hd).trans (hA d' hd').symm
  · exact Or.inr (by decide +kernel)

/-- `A` sends a candidate, and then `B` an OFFER: the candidate goes to the session of `B`. -/
theorem misrouted : ¬ ∀ (latched : Bool) (es : List Event), KeysDistinct es →
    Run.Along step (fun _ e => e.StorageOk) (AppConfiguration.initApp latched) es →
    CandidatesRouted es (Run.exec step (AppConfiguration.initApp latched) es) := by
  intro h
  let es := [Event.message Env.allOk (candidateOf clientA [1]),
    Event.message Env.allOk (offerOf clientB)]
  have hkeys : KeysDistinct es := by
    have hAB : clientIdHashKey clientA ≠ clientIdHashKey clientB := by decide +kernel
    intro d hd d' hd' he
    have hcases : ∀ d ∈ [clientA, clientB], d = clientA ∨ d = clientB := by simp
    rcases hcases d hd with rfl | rfl <;> rcases hcases d' hd' with rfl | rfl
    · rfl
    · exact absurd he hAB
    · exact absurd he.symm hAB
    · rfl
  have hroute := (h true es hkeys ⟨Env.allOk_storageOk, Env.allOk_storageOk, trivial⟩).session 0
    (candidateOf clientA [1]).signalingMessage (by decide +kernel)
  exact absurd hroute (by decide +kernel)

end WebrtcApp
