import WebrtcApp.Lib.Crc
import WebrtcApp.Runs.Interleaving

/-!
# Clients with numbered ids

Sessions stand under the CRC-32 of a client id, which is not compared afterwards.  A CRC-32 tells
two inputs of one length apart if they differ within four bytes in a row (`computeCrc32_burst`,
from `Lib/Crc`).  So with clients that are named by a pattern with up to four characters of their
own, as `viewer-0000` to `viewer-9999`, no message reaches another client's session, under any
interleaving of the handlers (`numbered_clients`).

That needs every session to be one of a client that sent a message, which the steps of the
handlers keep (`KnownPeers.step`).
-/

namespace WebrtcApp

/-! ## The checksum of the source -/

/-- The polynomial of `COMPUTE_CRC32`, reflected. -/
def crc32Poly : BitVec 32 := 0xEDB88320#32

theorem toBitVec_crc32Bit (c : UInt32) :
    (crc32Bit c).toBitVec = Crc.shift crc32Poly c.toBitVec := by
  have hlow : c &&& 1 = 1 ↔ c.toBitVec.getLsbD 0 = true := by
    rw [← UInt32.toBitVec_inj, UInt32.toBitVec_and]
    show c.toBitVec &&& 1#32 = 1#32 ↔ _
    rw [BitVec.and_one_eq_setWidth_ofBool_getLsbD]
    cases c.toBitVec.getLsbD 0 <;> decide
  unfold crc32Bit Crc.shift
  by_cases h : c.toBitVec.getLsbD 0 = true
  · rw [if_pos h, if_pos (hlow.mpr h)]
    rfl
  · rw [if_neg h, if_neg fun e => h (hlow.mp e)]
    rfl

theorem toBitVec_crc32Byte (c : UInt32) (b : UInt8) :
    (crc32Byte c b).toBitVec = Crc.shifts crc32Poly 8 (c.toBitVec ^^^ b.toUInt32.toBitVec) := by
  have hbits : ∀ n (c : UInt32), (crc32Bit^[n] c).toBitVec = Crc.shifts crc32Poly n c.toBitVec := by
    intro n
    induction n with
    | zero => exact fun _ => rfl
    | succ n ih =>
      intro c
      rw [Function.iterate_succ_apply, ih, toBitVec_crc32Bit]
      rfl
  rw [crc32Byte, hbits, UInt32.toBitVec_xor]

theorem toBitVec_foldl_crc32Byte (bs : List UInt8) (c : UInt32) :
    (bs.foldl crc32Byte c).toBitVec =
      Crc.feed crc32Poly 8 c.toBitVec (bs.map (·.toUInt32.toBitVec)) := by
  induction bs generalizing c with
  | nil => rfl
  | cons b bs ih =>
    rw [List.foldl_cons, ih, toBitVec_crc32Byte]
    rfl

theorem fits_byte (b : UInt8) : Crc.Fits 8 b.toUInt32.toBitVec := by
  intro i hi
  rw [UInt8.toBitVec_toUInt32, BitVec.getLsbD_setWidth, BitVec.getLsbD_of_ge _ _ hi, Bool.and_false]

/-- A CRC-32 tells apart what differs in up to four bytes in a row. -/
theorem computeCrc32_burst {front back m m' : List UInt8} (hlen : m.length = m'.length)
    (hfour : m.length ≤ 4)
    (h : computeCrc32 (front ++ m ++ back) = computeCrc32 (front ++ m' ++ back)) : m = m' := by
  have hfold : (front ++ m ++ back).foldl crc32Byte 0xFFFFFFFF =
      (front ++ m' ++ back).foldl crc32Byte 0xFFFFFFFF := UInt32.xor_left_inj _ |>.mp h
  have hfeed := congrArg UInt32.toBitVec hfold
  simp only [toBitVec_foldl_crc32Byte, List.map_append] at hfeed
  have hfits : ∀ l : List UInt8, ∀ b ∈ l.map (·.toUInt32.toBitVec), Crc.Fits 8 b := by
    intro l b hb
    obtain ⟨x, -, rfl⟩ := List.mem_map.mp hb
    exact fits_byte x
  have hmap := Crc.feed_burst (by decide) (by rw [List.length_map, List.length_map, hlen])
    (hfits m) (hfits m') (by rw [List.length_map]; omega) hfeed
  refine List.map_injective_iff.mpr (fun a b hab => ?_) hmap
  have := UInt32.toBitVec_inj.mp hab
  exact UInt8.toUInt32_inj.mp this

/-- Five bytes are too many. -/
example : computeCrc32 [97, 97, 97, 97, 97] = computeCrc32 [32, 103, 16, 186, 96] := by
  decide +kernel

/-- The ids follow one pattern, with up to four characters that differ. -/
def Numbered (ds : List ClientId) : Prop :=
  ∃ front back : List UInt8, ∃ n ≤ 4, ∀ d ∈ ds,
    ∃ m, m.length = n ∧ d.chars = front ++ m ++ back

theorem Numbered.keys {ds : List ClientId} (h : Numbered ds) {d d' : ClientId} (hd : d ∈ ds)
    (hd' : d' ∈ ds) (hkey : clientIdHashKey d = clientIdHashKey d') : d = d' := by
  obtain ⟨front, back, n, hn, hall⟩ := h
  obtain ⟨m, hm, hchars⟩ := hall d hd
  obtain ⟨m', hm', hchars'⟩ := hall d' hd'
  have hcrc := clientIdHashKey_inj.mp hkey
  rw [hchars, hchars'] at hcrc
  have heq := computeCrc32_burst (hm.trans hm'.symm) (hm ▸ hn) hcrc
  obtain ⟨chars, _, _⟩ := d
  obtain ⟨chars', _, _⟩ := d'
  simp only at hchars hchars'
  subst hchars hchars' heq
  rfl

/-! ## Whose sessions there are -/

/-- The client whose message is received. -/
def Action.client : Action → Option ClientId
  | .receive _ msg => some msg.signalingMessage.peerClientId
  | _ => none

section
variable {w : World} {q : PStreamingSession}

/-- A message that creates no session leaves the sessions and the table. -/
theorem table_unlisted (env : Env) (msg : ReceivedSignalingMessage) (h : WorldOk w)
    (hno : ¬ (msg.signalingMessage.messageType = .offer ∧ env.ok .appHashTableContains = true ∧
      w.app.pRemoteRtcPeerConnections (clientIdHashKey msg.signalingMessage.peerClientId) = none ∧
      w.app.streamingSessionList.length ≠ appMaxConcurrentStreamingSession)) :
    (onSignalingMessageReceived env msg w.app).2.pRemoteRtcPeerConnections =
      w.app.pRemoteRtcPeerConnections := by
  rcases @onSignalingMessageReceived_cases w.app env msg with
    ⟨st, hr⟩ | ⟨hm, hc, hnone, hr⟩ | ⟨-, -, hr⟩
  · rw [hr]
  · have hlen : w.app.streamingSessionList.length = appMaxConcurrentStreamingSession :=
      not_not.mp fun hfree => hno ⟨hm, hc, hnone, hfree⟩
    rw [hr, receiveOffer, if_pos hlen]
  · rw [hr]
    cases he : w.app.pRemoteRtcPeerConnections
        (clientIdHashKey msg.signalingMessage.peerClientId) with
    | none =>
      rw [receiveIceCandidate_of_none env _ msg he]
      rfl
    | some p =>
      rw [receiveIceCandidate_of_entry env _ msg he (h.sessions.entry_live he)]
      rfl

/-- The holder's step leaves the peer ids. -/
theorem World.peerId_advance (h : WorldOk w) :
    (w.advance.app.session q).peerId = (w.app.session q).peerId := by
  obtain ⟨c, holder, hook, adds⟩ := w
  have hs : SessionsOk c := h.sessions
  have hsame : ∀ {c' : AppConfiguration}, c'.sessions = c.sessions →
      (c'.session q).peerId = (c.session q).peerId := fun e =>
    congrArg (fun a : Arena StreamingSession => (a.read q).peerId) e
  cases holder with
  | idle => rfl
  | offerCreated env key p =>
    have hk : Kept (fun _ => False) c
        (c.modifySession p fun s => { s with offerReceiveTime := env.now }) :=
      Kept.modify _ h.holder.2.1.live (fun _ => rfl) (fun _ => rfl) (fun _ _ => rfl) fun _ h => h
    simp only [World.advance]
    split
    · exact hk.peerId q
    · rfl
  | offerListed env key p =>
    have hk : Kept (fun _ => False) c (handleOffer env p c).2 :=
      handleOffer_kept env (hs.listed_live h.holder.1)
    exact hk.peerId q
  | offerAnswered env key p =>
    simp only [World.advance]
    split <;> rfl
  | offerEntered env key p =>
    obtain ⟨s, ms, hd⟩ := drainPending_eq env key (hs.listed_live h.holder.1)
    show ((drainPending env key p c).2.session q).peerId = _
    rw [hd]
    rfl
  | sweepScan env n i =>
    simp only [World.advance]
    split
    · rfl
    · exact hsame (@pollSignaling_eq c env).1
  | sweepFound env n i p =>
    simp only [World.advance]
    split <;> rfl
  | sweepUnlinked env n i p => exact hsame (@sweepRemove_cases c p env n).1
  | sweepRemoved env n i p => exact (identity_freeStreamingSession h.holder.live).1
  | eosHook i =>
    simp only [World.advance]
    split
    · next hi => exact (terminateSession_kept (h.getD_live hi).2).peerId q
    · rfl

/-- No step changes the peer id of a session that exists. -/
theorem World.peerId_step (h : WorldOk w) (a : Action) (hq : q < w.app.sessions.next) :
    ((w.step a).app.session q).peerId = (w.app.session q).peerId := by
  have hwhen : ∀ w' : World, (w'.app.session q).peerId = (w.app.session q).peerId →
      ((w.whenIdle w').app.session q).peerId = (w.app.session q).peerId := fun w' hw =>
    World.whenIdle_elim (P := fun x => (x.app.session q).peerId = (w.app.session q).peerId) rfl
      fun _ => hw
  cases a with
  | receive env msg =>
    apply hwhen
    refine World.receive_elim (P := fun c => (c.session q).peerId = (w.app.session q).peerId) ?_
      fun hno => ?_
    · obtain ⟨leaked, ho, -⟩ := h.sessions.owned
      rw [(createStreamingSession_owned env msg.signalingMessage.peerClientId ho).1 q hq]
    · exact congrArg (fun a : Arena StreamingSession => (a.read q).peerId)
        (unlisted_onSignalingMessageReceived env msg h.sessions hno).1
  | poll env => exact hwhen _ rfl
  | mediaEos => exact hwhen _ rfl
  | advance => exact World.peerId_advance h
  | addStats =>
    obtain ⟨id, happ⟩ := w.app_addStats
    show (w.addStats.app.session q).peerId = _
    rw [happ]
    rfl
  | mediaFrame frame =>
    show ((if w.readLockFree then _ else w).app.session q).peerId = _
    split <;> rfl
  | advanceHook =>
    show (w.advanceHook.app.session q).peerId = _
    unfold World.advanceHook
    split
    · rfl
    · next frame i _ =>
      split
      · next hi => exact (sinkFrame_kept frame (h.getD_live hi).2).peerId q
      · rfl
  | connectionStateChange p st =>
    show ((if w.app.sessions.live p then _ else w).app.session q).peerId = _
    split
    · next hp => exact (onConnectionStateChange_kept st hp).peerId q
    · rfl
  | mediaSenderDone => rfl
  | restartRequested => rfl
  | pregenerateCert env => exact hwhen _ rfl

/-- An entry of the table is the one of the handler that makes the step, or was there before. -/
theorem World.entry_advance (h : WorldOk w) {k : UInt64}
    (hk : w.advance.app.pRemoteRtcPeerConnections k = some q) :
    w.app.pRemoteRtcPeerConnections k = some q ∨ w.holder.offerSession = some q := by
  obtain ⟨c, holder, hook, adds⟩ := w
  have hs : SessionsOk c := h.sessions
  have hsame : ∀ {c' : AppConfiguration}, c'.tables.pRemoteRtcPeerConnections =
      c.pRemoteRtcPeerConnections → c'.pRemoteRtcPeerConnections k = some q →
        c.pRemoteRtcPeerConnections k = some q := fun e hk => (congrFun e k).symm.trans hk
  cases holder with
  | idle => exact Or.inl hk
  | offerCreated env key p =>
    simp only [World.advance] at hk
    split at hk <;> exact Or.inl hk
  | offerListed env key p =>
    have hkept : Kept (fun _ => False) c (handleOffer env p c).2 :=
      handleOffer_kept env (hs.listed_live h.holder.1)
    exact Or.inl ((congrFun hkept.table k).symm.trans hk)
  | offerAnswered env key p =>
    simp only [World.advance] at hk
    split at hk
    · exact Or.inl hk
    · have hset : (c.setEntry key p).pRemoteRtcPeerConnections k = some q := hk
      rw [table_setEntry] at hset
      split at hset
      · exact Or.inr hset
      · exact Or.inl hset
  | offerEntered env key p =>
    obtain ⟨s, ms, hd⟩ := drainPending_eq env key (hs.listed_live h.holder.1)
    have hdrain : (drainPending env key p c).2.pRemoteRtcPeerConnections k = some q := hk
    rw [hd] at hdrain
    exact Or.inl hdrain
  | sweepScan env n i =>
    simp only [World.advance] at hk
    split at hk
    · exact Or.inl hk
    · exact Or.inl (hsame (congrArg Tables.pRemoteRtcPeerConnections (@pollSignaling_eq c env).2.1) hk)
  | sweepFound env n i p =>
    simp only [World.advance] at hk
    split at hk <;> exact Or.inl hk
  | sweepUnlinked env n i p =>
    rcases (@sweepRemove_cases c p env n).2 with ⟨-, ht⟩ | ⟨-, ht⟩
    · have hk' := (congrFun (congrArg Tables.pRemoteRtcPeerConnections ht) k).symm.trans hk
      simp only at hk'
      by_cases he : k = clientIdHashKey (c.session p).peerId
      · rw [he, Function.update_self] at hk'
        cases hk'
      · rw [Function.update_of_ne he] at hk'
        exact Or.inl hk'
    · exact Or.inl (hsame (congrArg Tables.pRemoteRtcPeerConnections ht) hk)
  | sweepRemoved env n i p =>
    exact Or.inl (hsame (congrArg Tables.pRemoteRtcPeerConnections tables_freeStreamingSession) hk)
  | eosHook i =>
    simp only [World.advance] at hk
    split at hk <;> exact Or.inl hk

/-- Nobody but the holder of the lock changes the table, and a session is created for the client
whose OFFER is received. -/
theorem World.entry_step (h : WorldOk w) {a : Action} (ha : a ≠ .advance) :
    (w.step a).app.pRemoteRtcPeerConnections = w.app.pRemoteRtcPeerConnections ∧
      ((w.step a).holder.offerSession = some q → w.holder.offerSession = some q ∨
        ∃ d, a.client = some d ∧ ((w.step a).app.session q).peerId = d) := by
  have hwhen : ∀ w' : World,
      (w'.app.pRemoteRtcPeerConnections = w.app.pRemoteRtcPeerConnections ∧
        (w'.holder.offerSession = some q → w.holder.offerSession = some q ∨
          ∃ d, a.client = some d ∧ (w'.app.session q).peerId = d)) →
      ((w.whenIdle w').app.pRemoteRtcPeerConnections = w.app.pRemoteRtcPeerConnections ∧
        ((w.whenIdle w').holder.offerSession = some q → w.holder.offerSession = some q ∨
          ∃ d, a.client = some d ∧ ((w.whenIdle w').app.session q).peerId = d)) := fun w' hw =>
    World.whenIdle_elim (P := fun x => x.app.pRemoteRtcPeerConnections =
      w.app.pRemoteRtcPeerConnections ∧ (x.holder.offerSession = some q →
        w.holder.offerSession = some q ∨ ∃ d, a.client = some d ∧ (x.app.session q).peerId = d))
      ⟨rfl, Or.inl⟩ fun _ => hw
  cases a with
  | receive env msg =>
    apply hwhen
    obtain ⟨-, -, hnew⟩ :=
      createStreamingSession_unnamed env msg.signalingMessage.peerClientId h.sessions
    have htab := tables_createStreamingSession (c := w.app) env msg.signalingMessage.peerClientId
    unfold World.receive
    simp only
    split
    · generalize createStreamingSession env msg.signalingMessage.peerClientId w.app = r at hnew htab
      obtain ⟨st, o, c⟩ := r
      cases o with
      | none => exact ⟨congrArg Tables.pRemoteRtcPeerConnections htab, Or.inl⟩
      | some p =>
        refine ⟨congrArg Tables.pRemoteRtcPeerConnections htab, fun hq => Or.inr ?_⟩
        cases hq
        exact ⟨_, rfl, (hnew q rfl).2⟩
    · next hno => exact ⟨table_unlisted env msg h hno, Or.inl⟩
  | poll env => exact hwhen _ ⟨rfl, fun hq => by cases hq⟩
  | mediaEos => exact hwhen _ ⟨rfl, fun hq => by cases hq⟩
  | advance => exact absurd rfl ha
  | addStats =>
    have hadd : w.addStats.holder = w.holder ∧
        w.addStats.app.pRemoteRtcPeerConnections = w.app.pRemoteRtcPeerConnections := by
      obtain ⟨id, happ⟩ := w.app_addStats
      refine ⟨?_, by rw [happ]⟩
      unfold World.addStats
      split <;> rfl
    refine ⟨hadd.2, fun hq => Or.inl ?_⟩
    rw [← hadd.1]
    exact hq
  | mediaFrame frame =>
    show (if w.readLockFree then _ else w).app.pRemoteRtcPeerConnections = _ ∧
      ((if w.readLockFree then _ else w).holder.offerSession = some q → _)
    split <;> exact ⟨rfl, Or.inl⟩
  | advanceHook =>
    show w.advanceHook.app.pRemoteRtcPeerConnections = _ ∧
      (w.advanceHook.holder.offerSession = some q → _)
    unfold World.advanceHook
    split
    · exact ⟨rfl, Or.inl⟩
    · next frame i _ =>
      split
      · next hi => exact ⟨(sinkFrame_kept frame (h.getD_live hi).2).table, Or.inl⟩
      · exact ⟨rfl, Or.inl⟩
  | connectionStateChange p st =>
    show (if w.app.sessions.live p then _ else w).app.pRemoteRtcPeerConnections = _ ∧
      ((if w.app.sessions.live p then _ else w).holder.offerSession = some q → _)
    split
    · next hp => exact ⟨(onConnectionStateChange_kept st hp).table, Or.inl⟩
    · exact ⟨rfl, Or.inl⟩
  | mediaSenderDone => exact ⟨rfl, Or.inl⟩
  | restartRequested => exact ⟨rfl, Or.inl⟩
  | pregenerateCert env => exact hwhen _ ⟨rfl, Or.inl⟩

end

/-- The sessions that can be reached under a key are those of clients that sent a message. -/
structure KnownPeers (past : List Action) (w : World) : Prop where
  world : WorldOk w
  entries : ∀ k p, w.app.pRemoteRtcPeerConnections k = some p →
    (w.app.session p).peerId ∈ past.filterMap Action.client
  holder : ∀ p, w.holder.offerSession = some p →
    (w.app.session p).peerId ∈ past.filterMap Action.client

theorem KnownPeers.step {past : List Action} {w : World} (h : KnownPeers past w) (a : Action) :
    KnownPeers (past ++ [a]) (w.step a) := by
  have hmono : ∀ {d}, d ∈ past.filterMap Action.client →
      d ∈ (past ++ [a]).filterMap Action.client := by
    intro d hd
    rw [List.filterMap_append]
    exact List.mem_append_left _ hd
  have hnew : ∀ {d}, a.client = some d → d ∈ (past ++ [a]).filterMap Action.client := by
    intro d hd
    rw [List.filterMap_append]
    exact List.mem_append_right _ (List.mem_filterMap.mpr ⟨a, List.mem_singleton_self a, hd⟩)
  have hentry : ∀ {k p}, w.app.pRemoteRtcPeerConnections k = some p →
      ((w.step a).app.session p).peerId ∈ (past ++ [a]).filterMap Action.client := by
    intro k p hk
    rw [World.peerId_step h.world a (Arena.live_lt (h.world.sessions.entry_live hk))]
    exact hmono (h.entries k p hk)
  have hholder : ∀ {p}, w.holder.offerSession = some p →
      ((w.step a).app.session p).peerId ∈ (past ++ [a]).filterMap Action.client := by
    intro p hp
    rw [World.peerId_step h.world a (h.world.offerSession_lt hp)]
    exact hmono (h.holder p hp)
  by_cases ha : a = .advance
  · subst ha
    refine ⟨h.world.step _, fun k p hk => ?_, fun p hp => hholder (World.offerSession_advance hp)⟩
    exact (World.entry_advance h.world hk).elim hentry hholder
  · refine ⟨h.world.step a, fun k p hk => ?_, fun p hp => ?_⟩
    · exact hentry ((congrFun (World.entry_step (q := p) h.world ha).1 k).symm.trans hk)
    · rcases (World.entry_step (q := p) h.world ha).2 hp with hp | ⟨d, hd, hid⟩
      · exact hholder hp
      · rw [hid]
        exact hnew hd

/-- Numbered clients have keys of their own, and in every state of every run the session that stands
under the key of a client, to which its messages go, is the client's own. -/
theorem numbered_clients (latched : Bool) (as : List Action)
    (hnum : Numbered (as.filterMap Action.client)) :
    (∀ d ∈ as.filterMap Action.client, ∀ d' ∈ as.filterMap Action.client, d ≠ d' →
      clientIdHashKey d ≠ clientIdHashKey d') ∧
    ∀ d ∈ as.filterMap Action.client, ∀ p,
      let w := Run.exec World.step (World.start latched) as
      w.app.pRemoteRtcPeerConnections (clientIdHashKey d) = some p →
        (w.app.session p).peerId = d ∧ w.app.sessions.live p = true := by
  refine ⟨fun d hd d' hd' hne hkey => hne (hnum.keys hd hd' hkey), ?_⟩
  intro d hd p w hp
  have h : KnownPeers as w := by
    refine (Run.Along.of_forall (P := fun _ _ => True) (fun _ _ => trivial)
      (World.start latched) as).history (I := KnownPeers) ⟨WorldOk.start latched, ?_, ?_⟩ ?_
    · intro k p hk
      cases hk
    · intro p hp
      cases hp
    · exact fun past w a h _ => h.step a
  have hkey := h.world.sessions.key _ p hp
  exact ⟨hnum.keys (h.entries _ p hp) hd hkey, h.world.sessions.entry_live hp⟩

/-- An OFFER of the one and a candidate of the other. -/
def offerAndCandidate : List Action :=
  [.receive Env.allOk (offerOf clientA), .advance, .advance, .advance, .advance,
    .receive Env.allOk (candidateOf clientB [])]

def offerAndCandidateWorld : World := Run.exec World.step (World.start true) offerAndCandidate

theorem numbered_clients_two :
    clientIdHashKey clientA ≠ clientIdHashKey clientB ∧
    offerAndCandidateWorld.app.pRemoteRtcPeerConnections (clientIdHashKey clientA) = some 0 ∧
      (offerAndCandidateWorld.app.session 0).peerId = clientA ∧
      offerAndCandidateWorld.app.sessions.live 0 = true := by
  have hnum : Numbered (offerAndCandidate.filterMap Action.client) := by
    refine ⟨[], [], 1, by decide, fun d hd => ?_⟩
    have hcases : d = clientA ∨ clientB = d := by
      simpa [offerAndCandidate, Action.client, offerOf, candidateOf] using hd
    rcases hcases with rfl | rfl
    · exact ⟨[65], rfl, rfl⟩
    · exact ⟨[66], rfl, rfl⟩
  have hentry : offerAndCandidateWorld.app.pRemoteRtcPeerConnections
      (clientIdHashKey clientA) = some 0 := by decide +kernel
  have hsentA : clientA ∈ offerAndCandidate.filterMap Action.client := by
    simp [offerAndCandidate, Action.client, offerOf, candidateOf]
  have hsentB : clientB ∈ offerAndCandidate.filterMap Action.client := by
    simp [offerAndCandidate, Action.client, offerOf, candidateOf]
  obtain ⟨hkeys, hsession⟩ := numbered_clients true offerAndCandidate hnum
  exact ⟨hkeys clientA hsentA clientB hsentB (by decide), hentry, hsession clientA hsentA 0 hentry⟩

end WebrtcApp
