import WebrtcApp.App.Sessions

/-!
# Candidates before and after their OFFER

The same candidates of one client are received before its OFFER in one run and after it in
the other.  A drain submits its candidates up to the first one that fails (`drained`), the live
path submits every one that deserializes, and the two agree when no candidate that
deserializes comes after a failed one (`drained_eq_filter_iff`, `queued_eq_live`).

Where the OFFER lists no session the two runs submit the same whatever fails.
-/

namespace WebrtcApp

/-! ## What fails -/

/-- The calls that take one candidate apart and submit it. -/
def Call.isCandidate : Call → Bool
  | .deserializeRtcIceCandidateInit _ _ | .addIceCandidate _ _ => true
  | _ => false

/-- Whether a candidate deserializes, and whether it is added, is a function of its message. -/
structure CandidateCalls where
  deserialize : SignalingMessage → Status
  add : SignalingMessage → Status

/-- Every call but those of `calls` succeeds. -/
structure Env.Follows (env : Env) (calls : CandidateCalls) : Prop where
  deserialize : ∀ n m, env.status (.deserializeRtcIceCandidateInit n m) = calls.deserialize m
  add : ∀ n m, env.status (.addIceCandidate n m) = calls.add m
  others : ∀ call : Call, call.isCandidate = false → env.ok call = true
  discovered : env.mediaDiscovered = true

namespace CandidateCalls

/-- The candidates a drain submits. -/
def drained (calls : CandidateCalls) : List SignalingMessage → List SignalingMessage
  | [] => []
  | m :: ms =>
    if calls.deserialize m = .success then
      m :: if calls.add m = .success then calls.drained ms else []
    else []

/-- The candidates the live path submits. -/
def live (calls : CandidateCalls) (ms : List SignalingMessage) : List SignalingMessage :=
  ms.filter fun m => calls.deserialize m = .success

/-- No candidate that deserializes comes after one that fails. -/
def NoneLost (calls : CandidateCalls) (ms : List SignalingMessage) : Prop :=
  ms.Pairwise fun m m' => calls.deserialize m' = .success →
    calls.deserialize m = .success ∧ calls.add m = .success

instance (calls : CandidateCalls) (ms : List SignalingMessage) : Decidable (calls.NoneLost ms) :=
  inferInstanceAs (Decidable (List.Pairwise _ _))

/-- An environment with these calls. -/
def env (calls : CandidateCalls) : Env :=
  { Env.allOk with
    status := fun call =>
      match call with
      | .deserializeRtcIceCandidateInit _ m => calls.deserialize m
      | .addIceCandidate _ m => calls.add m
      | _ => .success }

theorem env_follows (calls : CandidateCalls) : calls.env.Follows calls := by
  refine ⟨fun _ _ => rfl, fun _ _ => rfl, fun call hc => ?_, rfl⟩
  cases call <;> first | rfl | cases hc

theorem live_eq_nil {calls : CandidateCalls} {ms : List SignalingMessage} :
    calls.live ms = [] ↔ ∀ m ∈ ms, calls.deserialize m ≠ .success := by
  rw [live, List.filter_eq_nil_iff]
  simp only [decide_eq_true_eq, ne_eq]

theorem drained_eq_live_iff (calls : CandidateCalls) (ms : List SignalingMessage) :
    calls.drained ms = calls.live ms ↔ calls.NoneLost ms := by
  induction ms with
  | nil => exact iff_of_true rfl List.Pairwise.nil
  | cons m ms ih =>
    unfold NoneLost
    rw [List.pairwise_cons, drained]
    by_cases hd : calls.deserialize m = .success
    · have hlive : calls.live (m :: ms) = m :: calls.live ms :=
        List.filter_cons_of_pos (decide_eq_true hd)
      rw [if_pos hd, hlive, List.cons_inj_right]
      by_cases ha : calls.add m = .success
      · rw [if_pos ha, ih]
        exact (and_iff_right fun _ _ _ => ⟨hd, ha⟩).symm
      · rw [if_neg ha, eq_comm, live_eq_nil]
        constructor
        · exact fun hn => ⟨fun m' hm h' => absurd h' (hn m' hm),
            List.pairwise_of_forall_mem_list fun _ _ m' hm h' => absurd h' (hn m' hm)⟩
        · exact fun hp m' hm h' => ha (hp.1 m' hm h').2
    · have hlive : calls.live (m :: ms) = calls.live ms :=
        List.filter_cons_of_neg (by simpa using hd)
      rw [if_neg hd, hlive, eq_comm, live_eq_nil]
      constructor
      · exact fun hn => ⟨fun m' hm h' => absurd h' (hn m' hm),
          List.pairwise_of_forall_mem_list fun _ _ m' hm h' => absurd h' (hn m' hm)⟩
      · exact fun hp m' hm h' => hd (hp.1 m' hm h').1

end CandidateCalls

/-! ## One message -/

/-- The store is empty, and nothing of it is in use. -/
structure StoreEmpty (s : ConnectionMsgQ) : Prop where
  empty : s.pMsqQueue = []
  owned : ∃ held, s.Owned held []

/-- The messages waiting under the key are `ms`, and there are no others. -/
def Waiting (key : UInt64) (ms : List SignalingMessage) (s : ConnectionMsgQ) : Prop :=
  (s.boxes = [] ∧ ms = []) ∨ ∃ t xs, s.boxes = [⟨key, t, xs⟩] ∧
    ms = xs.map ReceivedSignalingMessage.signalingMessage

/-- An OFFER of the client gets as far as the session list. -/
def Listable (c : AppConfiguration) (d : ClientId) : Prop :=
  c.blocked = false ∧ c.readLockHeld = false ∧
    c.pRemoteRtcPeerConnections (clientIdHashKey d) = none ∧
    c.streamingSessionList.length ≠ appMaxConcurrentStreamingSession

instance (c : AppConfiguration) (d : ClientId) : Decidable (Listable c d) :=
  inferInstanceAs (Decidable (_ ∧ _))

/-- The candidates of `d` with the given payloads, each handled in its environment. -/
def receives (d : ClientId) (ms : List (Env × List UInt8)) : List Event :=
  ms.map fun x => .message x.1 (candidateOf d x.2)

def messagesOf (d : ClientId) (ms : List (Env × List UInt8)) : List SignalingMessage :=
  ms.map fun x => (candidateOf d x.2).signalingMessage

section
variable {c : AppConfiguration} {calls : CandidateCalls} {env : Env} {d : ClientId}
  {p : PStreamingSession} {held : List PPendingMessageQueue}

namespace Env.Follows

theorem storageOk (h : env.Follows calls) : env.StorageOk := by
  intro call hc
  apply h.others call
  cases call <;> first | rfl | simp [Call.isQueue, Call.isHash, Call.isAlloc] at hc

theorem sessionCreated (h : env.Follows calls) (m : MediaContext) : env.SessionCreated m :=
  ⟨h.others _ rfl, Or.inr h.discovered, h.others _ rfl, Or.inl (Env.ok_eq_true.mp (h.others _ rfl)),
    h.others _ rfl, fun call hc => h.others call (by revert call; decide)⟩

theorem offerAnswered (h : env.Follows calls) : env.OfferAnswered :=
  ⟨h.others _ rfl, h.others _ rfl, h.others _ rfl,
    fun _ => ⟨h.others _ rfl, h.others _ rfl, h.others _ rfl⟩⟩

end Env.Follows

theorem drain_follows (h : env.Follows calls) (n : Nat) (ms : List ReceivedSignalingMessage)
    (u : Peers) (hp : u.sessions.live p = true) :
    (drain env (some (handleRemoteCandidate env (some p))) n ms u).2 =
      u.submit p (calls.drained (ms.map ReceivedSignalingMessage.signalingMessage)) := by
  induction ms generalizing n u with
  | nil =>
    unfold drain
    split <;> exact (Peers.submit_nil u).symm
  | cons m ms ih =>
    have he : env.ok (.handleIsEmpty n) = true := h.others _ rfl
    have hq : env.ok (.handleDequeue n) = true := h.others _ rfl
    rw [List.map_cons, CandidateCalls.drained]
    unfold drain
    simp only [he, hq, Bool.not_true, Bool.false_eq_true, if_false, callHook,
      handleRemoteCandidate_eq env n m.signalingMessage hp]
    by_cases hd : calls.deserialize m.signalingMessage = .success
    · have hd' : env.ok (.deserializeRtcIceCandidateInit n m.signalingMessage) = true := by
        rw [Env.ok_eq_true, h.deserialize, hd]
      simp only [hd, hd', if_true, h.add]
      by_cases ha : calls.add m.signalingMessage = .success
      · simp only [ha, if_true]
        rw [ih (n + 1) (u.submit p [m.signalingMessage]) hp, Peers.submit_submit]
        rfl
      · rw [if_neg ha]
        split
        · next e => exact absurd (Prod.mk.inj e).1 ha
        · next e => exact (Prod.mk.inj e).2.symm
    · have hd' : ¬ env.ok (.deserializeRtcIceCandidateInit n m.signalingMessage) = true := by
        rw [Env.ok_eq_true, h.deserialize]
        exact hd
      rw [if_neg hd, if_neg hd', Peers.submit_nil, h.deserialize]
      split
      · next e => exact absurd (Prod.mk.inj e).1 hd
      · next e => exact (Prod.mk.inj e).2.symm

theorem step_candidate_of_entry (h : env.Follows calls) (hb : c.blocked = false)
    (he : c.pRemoteRtcPeerConnections (clientIdHashKey d) = some p)
    (hp : c.sessions.live p = true) (payload : List UInt8) :
    step c (.message env (candidateOf d payload)) =
      c.setPending c.pRemotePeerPendingSignalingMessages
        (c.peers.submit p (calls.live [(candidateOf d payload).signalingMessage])) := by
  have hst : step c (.message env (candidateOf d payload)) =
      settle (onSignalingMessageReceived env (candidateOf d payload) c) :=
    if_neg (by rw [hb]; exact Bool.false_ne_true)
  have hlive : calls.live [(candidateOf d payload).signalingMessage] =
      if env.ok (.deserializeRtcIceCandidateInit 0 (candidateOf d payload).signalingMessage) then
        [(candidateOf d payload).signalingMessage] else [] := by
    rw [CandidateCalls.live, Env.ok, h.deserialize]
    by_cases hd : calls.deserialize (candidateOf d payload).signalingMessage = .success <;> simp [hd]
  rw [hst, onSignalingMessageReceived_candidate rfl (h.others _ rfl) (h.others _ rfl), hlive,
    ← receiveIceCandidate_of_entry env _ (candidateOf d payload) he hp]
  rfl

theorem step_candidate_of_none (h : env.Follows calls) (hb : c.blocked = false)
    (he : c.pRemoteRtcPeerConnections (clientIdHashKey d) = none) (payload : List UInt8) :
    step c (.message env (candidateOf d payload)) = c.setPending
      (queueCandidate env (clientIdHashKey d) (candidateOf d payload)
        c.pRemotePeerPendingSignalingMessages).2 c.peers := by
  have hst : step c (.message env (candidateOf d payload)) =
      settle (onSignalingMessageReceived env (candidateOf d payload) c) :=
    if_neg (by rw [hb]; exact Bool.false_ne_true)
  rw [hst, onSignalingMessageReceived_candidate rfl (h.others _ rfl) (h.others _ rfl),
    ← receiveIceCandidate_of_none env _ (candidateOf d payload) he]
  rfl

/-- One more candidate waits. -/
theorem waiting_queueCandidate (h : env.Follows calls) {s : ConnectionMsgQ}
    {ms : List SignalingMessage} (ho : s.Owned held []) (hw : Waiting (clientIdHashKey d) ms s)
    (payload : List UInt8) :
    Waiting (clientIdHashKey d) (ms ++ [(candidateOf d payload).signalingMessage])
      (queueCandidate env (clientIdHashKey d) (candidateOf d payload) s).2 := by
  have hown : s.UsesOwnQueue (clientIdHashKey d) := by
    rw [usesOwnQueue_iff]
    rcases hw with ⟨hb, -⟩ | ⟨t, xs, hb, -⟩
    · exact Or.inl hb
    · right
      rw [hb]
      exact List.mem_singleton.mpr rfl
  obtain ⟨-, hq⟩ := queueCandidate_boxes env _ (candidateOf d payload) ho h.storageOk hown
  rcases hw with ⟨hb, rfl⟩ | ⟨t, xs, hb, rfl⟩
  · rw [hb] at hq
    exact Or.inr ⟨_, _, hq, rfl⟩
  · rw [hb, Mailbox.deposit_cons_self (b := ⟨clientIdHashKey d, t, xs⟩) rfl] at hq
    exact Or.inr ⟨_, _, hq, by rw [List.map_append]; rfl⟩

/-- The OFFER of a client with no entry. -/
theorem step_offer (h : env.Follows calls) (hb : c.blocked = false)
    (he : c.pRemoteRtcPeerConnections (clientIdHashKey d) = none) (sdp : List UInt8) :
    step c (.message env ⟨⟨.offer, d, sdp⟩⟩) =
      settle (receiveOffer env (clientIdHashKey d) ⟨.offer, d, sdp⟩ c) := by
  have hst : step c (.message env ⟨⟨.offer, d, sdp⟩⟩) =
      settle (onSignalingMessageReceived env ⟨⟨.offer, d, sdp⟩⟩ c) :=
    if_neg (by rw [hb]; exact Bool.false_ne_true)
  rw [hst, @onSignalingMessageReceived_offer c env ⟨⟨.offer, d, sdp⟩⟩ rfl (h.others _ rfl) he]

/-- The OFFER of a client with an entry changes nothing. -/
theorem step_offer_of_entry (h : env.Follows calls)
    (he : c.pRemoteRtcPeerConnections (clientIdHashKey d) = some p) (sdp : List UInt8) :
    step c (.message env ⟨⟨.offer, d, sdp⟩⟩) = c := by
  show (if c.blocked then c else _) = c
  rw [@onSignalingMessageReceived_offer_of_entry c p env ⟨⟨.offer, d, sdp⟩⟩ rfl (h.others _ rfl)
    (h.others _ rfl) he]
  split <;> rfl

theorem step_offer_listed (h : SessionsOk c) (hf : env.Follows calls) (hl : Listable c d)
    {ms : List SignalingMessage} (ho : c.pRemotePeerPendingSignalingMessages.Owned held [])
    (hw : Waiting (clientIdHashKey d) ms c.pRemotePeerPendingSignalingMessages) (sdp : List UInt8) :
    let c' := step c (.message env ⟨⟨.offer, d, sdp⟩⟩)
    c'.blocked = false ∧ c'.pRemoteRtcPeerConnections (clientIdHashKey d) = some c.sessions.next ∧
      c'.peers.submissions =
        c.peers.submissions ++ (calls.drained ms).map fun m => (c.sessions.next, m) := by
  obtain ⟨hb, hlock, hnone, hfree⟩ := hl
  obtain ⟨leaked, hown, -⟩ := h.owned
  intro c'
  have hc' : c' = settle (receiveOffer env (clientIdHashKey d) ⟨.offer, d, sdp⟩ c) :=
    step_offer hf hb hnone sdp
  rcases receiveOffer_cases env (clientIdHashKey d) ⟨.offer, d, sdp⟩ hown with
    ⟨hfull, -⟩ | ⟨-, -, ⟨hcr, -⟩ | ⟨-, hlock', -⟩⟩ | ⟨-, -, -, c1, hlist, ⟨hbad, -⟩ | ⟨-, -, hr⟩⟩
  · exact absurd hfull hfree
  · exact absurd (hf.sessionCreated c.media) hcr
  · exact absurd (hlock'.symm.trans hlock) (by decide)
  · exact absurd ⟨hf.offerAnswered, hf.others _ rfl⟩ hbad
  let c2 := c1.setEntry (clientIdHashKey d) c.sessions.next
  have hlive : c2.sessions.live c.sessions.next = true :=
    (h.of_listed hfree hlist).listed_live hlist.mem
  have hpend : c2.pRemotePeerPendingSignalingMessages = c.pRemotePeerPendingSignalingMessages :=
    hlist.pending
  have hsub : c2.peers.submissions = c.peers.submissions := hlist.submissions
  have hd : ∃ s, (drainPending env (clientIdHashKey d) c.sessions.next c2).2 =
      c2.setPending s (c2.peers.submit c.sessions.next (calls.drained ms)) := by
    rcases drainPending_cases (p := c.sessions.next) env (clientIdHashKey d) (c := c2)
      (hpend.symm ▸ ho) with ⟨-, hd, hq⟩ | ⟨hno, hne, -⟩ | ⟨s', b, -, hmem, -, -, hd⟩
    · have hnil := hq fun call hcall => hf.storageOk.queue hcall
      rw [hpend] at hnil
      have hms : ms = [] := by
        rcases hw with ⟨-, hms⟩ | ⟨t, xs, hbox, -⟩
        · exact hms
        · rw [ConnectionMsgQ.boxes, hnil] at hbox
          cases hbox
      refine ⟨c2.pRemotePeerPendingSignalingMessages, hd.trans ?_⟩
      rw [hms, CandidateCalls.drained, Peers.submit_nil]
      rfl
    · rw [hpend] at hno hne
      rcases hw with ⟨hbox, -⟩ | ⟨t, xs, hbox, -⟩
      · exact absurd (List.map_eq_nil_iff.mp hbox) hne
      · rw [hbox] at hno
        exact absurd (List.mem_singleton.mpr rfl) hno
    · rw [hpend] at hmem
      rcases hw with ⟨hbox, -⟩ | ⟨t, xs, hbox, rfl⟩
      · rw [hbox] at hmem
        cases hmem
      · rw [hbox] at hmem
        obtain rfl := List.mem_singleton.mp hmem
        refine ⟨s', ?_⟩
        rw [hd]
        exact congrArg (c2.setPending s') (drain_follows hf 0 xs c2.peers hlive)
  obtain ⟨s, hd⟩ := hd
  have hblock : c1.blocked = false := (congrArg Tables.blocked hlist.tables).trans hb
  have hentry : c2.pRemoteRtcPeerConnections (clientIdHashKey d) = some c.sessions.next := by
    rw [table_setEntry, if_pos rfl]
  rw [hc', hr]
  show (AppConfiguration.blocked (if _ then _ else _)) = false ∧ _
  simp only [settle]
  rw [hd]
  have hsubmit : (c2.peers.submit c.sessions.next (calls.drained ms)).submissions =
      c.peers.submissions ++ (calls.drained ms).map fun m => (c.sessions.next, m) := by
    rw [Peers.submit, hsub]
  split
  · exact ⟨hblock, hentry, hsubmit⟩
  · obtain ⟨hs, ht⟩ := @startStats_eq
      (c2.setPending s (c2.peers.submit c.sessions.next (calls.drained ms))) env
    exact ⟨(congrArg Tables.blocked ht).trans hblock,
      (congrFun (congrArg Tables.pRemoteRtcPeerConnections ht) _).trans hentry,
      (congrArg Tables.submissions ht).trans hsubmit⟩

/-- An OFFER that is not listed submits nothing and leaves the table. -/
theorem step_offer_unlisted (h : SessionsOk c) (hf : env.Follows calls) (hb : c.blocked = false)
    (hnone : c.pRemoteRtcPeerConnections (clientIdHashKey d) = none) (hl : ¬ Listable c d)
    (sdp : List UInt8) :
    let c' := step c (.message env ⟨⟨.offer, d, sdp⟩⟩)
    c'.pRemoteRtcPeerConnections = c.pRemoteRtcPeerConnections ∧
      c'.peers.submissions = c.peers.submissions := by
  obtain ⟨leaked, hown, -⟩ := h.owned
  intro c'
  have hc' : c' = settle (receiveOffer env (clientIdHashKey d) ⟨.offer, d, sdp⟩ c) :=
    step_offer hf hb hnone sdp
  rw [hc', settle_eq]
  rcases receiveOffer_cases env (clientIdHashKey d) ⟨.offer, d, sdp⟩ hown with
    ⟨-, hr⟩ | ⟨-, hu, -⟩ | ⟨hfree, -, hlock, -⟩
  · rw [hr]
    exact ⟨rfl, rfl⟩
  · exact ⟨hu.table, hu.submissions⟩
  · exact absurd ⟨hb, hlock, hnone, hfree⟩ hl

/-! ## Many candidates -/

theorem exec_receives_of_blocked (hb : c.blocked = true) (ms : List (Env × List UInt8)) :
    Run.exec step c (receives d ms) = c := by
  induction ms with
  | nil => rfl
  | cons x ms ih =>
    show Run.exec step (step c (.message x.1 (candidateOf d x.2))) (receives d ms) = c
    rw [show step c (.message x.1 (candidateOf d x.2)) = c from if_pos hb, ih]

theorem exec_receives_of_entry (hb : c.blocked = false)
    (he : c.pRemoteRtcPeerConnections (clientIdHashKey d) = some p) (hp : c.sessions.live p = true)
    (ms : List (Env × List UInt8)) (hf : ∀ x ∈ ms, x.1.Follows calls) :
    Run.exec step c (receives d ms) = c.setPending c.pRemotePeerPendingSignalingMessages
      (c.peers.submit p (calls.live (messagesOf d ms))) := by
  induction ms generalizing c with
  | nil =>
    show c = c.setPending _ (c.peers.submit p [])
    rw [Peers.submit_nil]
    rfl
  | cons x ms ih =>
    obtain ⟨hx, hf⟩ := List.forall_mem_cons.mp hf
    show Run.exec step (step c (.message x.1 (candidateOf d x.2))) (receives d ms) = _
    rw [step_candidate_of_entry hx hb he hp x.2]
    refine (ih (c := c.setPending _ (c.peers.submit p _)) hb he hp hf).trans
      (congrArg (c.setPending _) ?_)
    show (c.peers.submit p _).submit p _ = _
    rw [Peers.submit_submit]
    exact congrArg (c.peers.submit p) (List.filter_append _ _).symm

theorem exec_receives_of_none (hb : c.blocked = false)
    (he : c.pRemoteRtcPeerConnections (clientIdHashKey d) = none)
    (ho : c.pRemotePeerPendingSignalingMessages.Owned held []) {past : List SignalingMessage}
    (hw : Waiting (clientIdHashKey d) past c.pRemotePeerPendingSignalingMessages)
    (ms : List (Env × List UInt8)) (hf : ∀ x ∈ ms, x.1.Follows calls) :
    ∃ s, Run.exec step c (receives d ms) = c.setPending s c.peers ∧ s.Owned held [] ∧
      Waiting (clientIdHashKey d) (past ++ messagesOf d ms) s := by
  induction ms generalizing c past with
  | nil => exact ⟨_, rfl, ho, by rwa [messagesOf, List.map_nil, List.append_nil]⟩
  | cons x ms ih =>
    obtain ⟨hx, hf⟩ := List.forall_mem_cons.mp hf
    have hstep := step_candidate_of_none hx hb he x.2
    obtain ⟨s, hs, hso, hsw⟩ := ih
      (c := c.setPending (queueCandidate x.1 _ (candidateOf d x.2)
        c.pRemotePeerPendingSignalingMessages).2 c.peers) hb he
      (queueCandidate_owned x.1 _ (candidateOf d x.2) ho) (waiting_queueCandidate hx ho hw x.2) hf
    refine ⟨s, ?_, hso, ?_⟩
    · show Run.exec step (step c (.message x.1 (candidateOf d x.2))) (receives d ms) = _
      rw [hstep, hs]
      rfl
    · rwa [List.append_assoc] at hsw

/-- Without an entry no candidate is submitted. -/
theorem submissions_receives_of_none
    (he : c.pRemoteRtcPeerConnections (clientIdHashKey d) = none) (ms : List (Env × List UInt8))
    (hf : ∀ x ∈ ms, x.1.Follows calls) :
    (Run.exec step c (receives d ms)).peers.submissions = c.peers.submissions := by
  cases hb : c.blocked with
  | true => rw [exec_receives_of_blocked hb]
  | false =>
    induction ms generalizing c with
    | nil => rfl
    | cons x ms ih =>
      obtain ⟨hx, hf⟩ := List.forall_mem_cons.mp hf
      show (Run.exec step (step c (.message x.1 (candidateOf d x.2))) (receives d ms)).peers.submissions
        = _
      rw [step_candidate_of_none hx hb he x.2]
      exact ih he hf hb

/-! ## The two runs -/

/-- The candidates, and then the OFFER. -/
def queuedRun (d : ClientId) (sdp : List UInt8) (ms : List (Env × List UInt8)) (env : Env) :
    List Event :=
  receives d ms ++ [.message env ⟨⟨.offer, d, sdp⟩⟩]

/-- The OFFER, and then the candidates. -/
def liveRun (d : ClientId) (sdp : List UInt8) (ms : List (Env × List UInt8)) (env : Env) :
    List Event :=
  .message env ⟨⟨.offer, d, sdp⟩⟩ :: receives d ms

theorem exec_queuedRun (sdp : List UInt8) (ms : List (Env × List UInt8)) :
    Run.exec step c (queuedRun d sdp ms env) =
      step (Run.exec step c (receives d ms)) (.message env ⟨⟨.offer, d, sdp⟩⟩) :=
  Run.exec_append ..

/-- The OFFER is listed: the queued run drains its candidates. -/
theorem submissions_queuedRun (h : SessionsOk c) (hl : Listable c d)
    (hs : StoreEmpty c.pRemotePeerPendingSignalingMessages) (sdp : List UInt8)
    (ms : List (Env × List UInt8)) (hf : ∀ x ∈ ms, x.1.Follows calls) (henv : env.Follows calls) :
    (Run.exec step c (queuedRun d sdp ms env)).peers.submissions =
      c.peers.submissions ++ (calls.drained (messagesOf d ms)).map fun m => (c.sessions.next, m) := by
  obtain ⟨held, ho⟩ := hs.owned
  have hw : Waiting (clientIdHashKey d) [] c.pRemotePeerPendingSignalingMessages :=
    Or.inl ⟨by rw [ConnectionMsgQ.boxes, hs.empty]; rfl, rfl⟩
  obtain ⟨s, hrun, hso, hsw⟩ := exec_receives_of_none hl.1 hl.2.2.1 ho hw ms hf
  rw [exec_queuedRun, hrun]
  obtain ⟨-, -, hsub⟩ := step_offer_listed (c := c.setPending s c.peers) (h.setPending s _ rfl)
    henv hl hso hsw sdp
  exact hsub

/-- The OFFER is listed: in the live run every candidate finds the session. -/
theorem submissions_liveRun (h : SessionsOk c) (hl : Listable c d)
    (hs : StoreEmpty c.pRemotePeerPendingSignalingMessages) (sdp : List UInt8)
    (ms : List (Env × List UInt8)) (hf : ∀ x ∈ ms, x.1.Follows calls) (henv : env.Follows calls) :
    (Run.exec step c (liveRun d sdp ms env)).peers.submissions =
      c.peers.submissions ++ (calls.live (messagesOf d ms)).map fun m => (c.sessions.next, m) := by
  obtain ⟨held, ho⟩ := hs.owned
  have hw : Waiting (clientIdHashKey d) [] c.pRemotePeerPendingSignalingMessages :=
    Or.inl ⟨by rw [ConnectionMsgQ.boxes, hs.empty]; rfl, rfl⟩
  obtain ⟨hb, he, hsub⟩ := step_offer_listed h henv hl ho hw sdp
  have hp := (h.step (.message env ⟨⟨.offer, d, sdp⟩⟩)).entry_live he
  rw [liveRun, Run.exec_cons, exec_receives_of_entry hb he hp ms hf]
  show (AppConfiguration.peers _).submissions ++ _ = _
  rw [hsub, CandidateCalls.drained, List.map_nil, List.append_nil]

/-- The OFFER is not listed: the same candidates are submitted in both runs. -/
theorem submissions_of_not_listable (h : SessionsOk c) (hl : ¬ Listable c d)
    (hs : StoreEmpty c.pRemotePeerPendingSignalingMessages) (sdp : List UInt8)
    {qs ls : List (Env × List UInt8)} {envQ envL : Env} (hsame : messagesOf d qs = messagesOf d ls)
    (hq : ∀ x ∈ qs, x.1.Follows calls) (hls : ∀ x ∈ ls, x.1.Follows calls)
    (henvQ : envQ.Follows calls) (henvL : envL.Follows calls) :
    (Run.exec step c (queuedRun d sdp qs envQ)).peers.submissions =
      (Run.exec step c (liveRun d sdp ls envL)).peers.submissions := by
  rw [exec_queuedRun, liveRun, Run.exec_cons]
  cases hb : c.blocked with
  | true =>
    have hoff : ∀ env : Env, step c (.message env ⟨⟨.offer, d, sdp⟩⟩) = c := fun _ => if_pos hb
    rw [exec_receives_of_blocked hb, hoff, hoff, exec_receives_of_blocked hb]
  | false =>
    cases he : c.pRemoteRtcPeerConnections (clientIdHashKey d) with
    | some p =>
      have hp := h.entry_live he
      rw [step_offer_of_entry henvL he sdp, exec_receives_of_entry hb he hp qs hq,
        exec_receives_of_entry hb he hp ls hls, hsame]
      exact congrArg (fun c => c.peers.submissions)
        (step_offer_of_entry (c := c.setPending _ (c.peers.submit p _)) henvQ he sdp)
    | none =>
      obtain ⟨held, ho⟩ := hs.owned
      have hw : Waiting (clientIdHashKey d) [] c.pRemotePeerPendingSignalingMessages :=
        Or.inl ⟨by rw [ConnectionMsgQ.boxes, hs.empty]; rfl, rfl⟩
      obtain ⟨s, hrun, -⟩ := exec_receives_of_none hb he ho hw qs hq
      obtain ⟨-, hsubQ⟩ := step_offer_unlisted (c := c.setPending s c.peers) (h.setPending s _ rfl)
        henvQ hb he hl sdp
      obtain ⟨ht, hsubL⟩ := step_offer_unlisted h henvL hb he hl sdp
      rw [hrun, hsubQ, submissions_receives_of_none ((congrFun ht _).trans he) ls hls, hsubL]
      rfl

end

/-- From every reachable state with an empty store, the run that queues the candidates and the
run that does not submit the same, exactly when the OFFER is not listed or no candidate is lost. -/
theorem queued_eq_live (latched : Bool) (c : AppConfiguration)
    (hc : Run.Reachable step (AppConfiguration.initApp latched) c)
    (hs : StoreEmpty c.pRemotePeerPendingSignalingMessages) (calls : CandidateCalls) (d : ClientId)
    (sdp : List UInt8) (qs ls : List (Env × List UInt8)) (envQ envL : Env)
    (hsame : qs.map Prod.snd = ls.map Prod.snd) (hq : ∀ x ∈ qs, x.1.Follows calls)
    (hl : ∀ x ∈ ls, x.1.Follows calls) (henvQ : envQ.Follows calls) (henvL : envL.Follows calls) :
    (Run.exec step c (queuedRun d sdp qs envQ)).peers.submissions =
        (Run.exec step c (liveRun d sdp ls envL)).peers.submissions ↔
      (Listable c d → calls.NoneLost (messagesOf d qs)) := by
  have h := sessionsOk_of_reachable hc
  have hms : messagesOf d qs = messagesOf d ls := by
    have hmap : ∀ ms : List (Env × List UInt8), messagesOf d ms =
        (ms.map Prod.snd).map fun payload => (candidateOf d payload).signalingMessage := by
      intro ms
      rw [List.map_map]
      rfl
    rw [hmap, hmap, hsame]
  by_cases hlist : Listable c d
  · rw [submissions_queuedRun h hlist hs sdp qs hq henvQ,
      submissions_liveRun h hlist hs sdp ls hl henvL, ← hms, List.append_cancel_left_eq,
      (List.map_injective_iff.mpr fun _ _ e => (Prod.mk.inj e).2).eq_iff,
      CandidateCalls.drained_eq_live_iff]
    exact (imp_iff_right hlist).symm
  · exact iff_of_true (submissions_of_not_listable h hlist hs sdp hms hq hl henvQ henvL)
      fun hl' => absurd hl' hlist

/-! ## Two candidates -/

/-- Every candidate deserializes, and the one with payload `[n]` is not added. -/
def CandidateCalls.refusing (n : UInt8) : CandidateCalls :=
  ⟨fun _ => .success, fun m => if m.payload = [n] then .sdk 1 else .success⟩

/-- The last of the two candidates is refused. -/
theorem queued_eq_live_of_last_refused :
    let calls := CandidateCalls.refusing 2
    let ms : List (Env × List UInt8) := [(calls.env, [1]), (calls.env, [2])]
    let c := AppConfiguration.initApp true
    (Run.exec step c (queuedRun clientA [] ms calls.env)).peers.submissions =
      (Run.exec step c (liveRun clientA [] ms calls.env)).peers.submissions := by
  intro calls ms c
  have hms : ∀ x ∈ ms, x.1.Follows calls := by
    simp only [ms, List.forall_mem_cons]
    exact ⟨calls.env_follows, calls.env_follows, fun _ h => absurd h List.not_mem_nil⟩
  exact (queued_eq_live true c ⟨[], rfl⟩ ⟨rfl, [], ConnectionMsgQ.Owned.create⟩ calls clientA [] ms ms
    calls.env calls.env rfl hms hms calls.env_follows calls.env_follows).mpr
      fun _ => by decide +kernel

/-- The first of the two candidates is refused: the queued run never submits the second. -/
theorem queued_candidate_lost : ¬ ∀ (latched : Bool) (c : AppConfiguration),
    Run.Reachable step (AppConfiguration.initApp latched) c →
    StoreEmpty c.pRemotePeerPendingSignalingMessages → ∀ (calls : CandidateCalls) (d : ClientId),
    c.streamingSessionList.length < appMaxConcurrentStreamingSession →
    c.pRemoteRtcPeerConnections (clientIdHashKey d) = none →
    ∀ (sdp : List UInt8) (qs ls : List (Env × List UInt8)) (envQ envL : Env),
    qs.map Prod.snd = ls.map Prod.snd → (∀ x ∈ qs, x.1.Follows calls) →
    (∀ x ∈ ls, x.1.Follows calls) → envQ.Follows calls → envL.Follows calls →
    (Run.exec step c (queuedRun d sdp qs envQ)).peers.submissions =
      (Run.exec step c (liveRun d sdp ls envL)).peers.submissions := by
  intro h
  let calls := CandidateCalls.refusing 1
  let ms : List (Env × List UInt8) := [(calls.env, [1]), (calls.env, [2])]
  have hms : ∀ x ∈ ms, x.1.Follows calls := by
    simp only [ms, List.forall_mem_cons]
    exact ⟨calls.env_follows, calls.env_follows, fun _ h => absurd h List.not_mem_nil⟩
  have hsub := h true _ ⟨[], rfl⟩ ⟨rfl, [], ConnectionMsgQ.Owned.create⟩ calls clientA (by decide) rfl []
    ms ms calls.env calls.env rfl hms hms calls.env_follows calls.env_follows
  exact absurd hsub (by decide +kernel)

end WebrtcApp
