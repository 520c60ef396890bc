import WebrtcApp.App.Sessions

/-!
# The hash table and the session list over runs

`TableAgrees` says that the hash table names exactly the listed sessions, each under the key
of its peer id.  It holds on every run in which each OFFER that lists its session also enters
it in the table (`table_agrees`); a session is listed before the fallible steps of
`handleOffer` and `appHashTablePut`, and a failure there leaves it listed without an entry.

The same failure is what a rejected OFFER costs: the session stays listed, and no sweep takes
it out, unless its connection reports a state that raises its flag (`rejected_offer_cost`).
-/

namespace WebrtcApp

/-! ## Agreement -/

structure TableAgrees (c : AppConfiguration) : Prop where
  /-- A key maps to a session exactly when it is listed and has that key. -/
  entry : ∀ k p, c.pRemoteRtcPeerConnections k = some p ↔
    p ∈ c.streamingSessionList ∧ clientIdHashKey (c.session p).peerId = k
  /-- No two listed sessions have the same peer id. -/
  distinct : ∀ p ∈ c.streamingSessionList, ∀ q ∈ c.streamingSessionList,
    (c.session p).peerId = (c.session q).peerId → p = q

/-- The hash operations of the step's sweep succeed. -/
def Event.SweepOk : Event → Prop
  | .poll env => env.SweepOk
  | _ => True

/-- The event is an OFFER that gets as far as the session list. -/
def ListsSession (c : AppConfiguration) : Event → Prop
  | .message env msg =>
    c.blocked = false ∧ msg.signalingMessage.messageType = .offer ∧
      env.ok .appHashTableContains = true ∧
      c.pRemoteRtcPeerConnections (clientIdHashKey msg.signalingMessage.peerClientId) = none ∧
      c.streamingSessionList.length ≠ appMaxConcurrentStreamingSession ∧
      env.SessionCreated c.media ∧ c.readLockHeld = false
  | _ => False

/-- The steps of an OFFER between the list and the table succeed. -/
def Event.Entered : Event → Prop
  | .message env _ => env.OfferAnswered ∧ env.ok .appHashTablePut = true
  | _ => True

/-- An OFFER that lists its session is answered and entered in the table. -/
def OfferEntered (c : AppConfiguration) (e : Event) : Prop := ListsSession c e → e.Entered

/-- The agreement, without the distinctness that follows from it. -/
structure TableInv (c : AppConfiguration) : Prop where
  sessions : SessionsOk c
  entry : ∀ k p, c.pRemoteRtcPeerConnections k = some p ↔
    p ∈ c.streamingSessionList ∧ clientIdHashKey (c.session p).peerId = k

namespace TableInv

variable {c c' : AppConfiguration}

theorem initApp (latched : Bool) : TableInv (AppConfiguration.initApp latched) :=
  ⟨SessionsOk.initApp latched, fun _ _ => by simp [AppConfiguration.initApp]⟩

/-- Two listed sessions with one key are both the value under it. -/
theorem agrees (h : TableInv c) : TableAgrees c := by
  refine ⟨h.entry, fun p hp q hq he => ?_⟩
  have hp' := (h.entry _ p).mpr ⟨hp, rfl⟩
  have hq' := (h.entry _ q).mpr ⟨hq, rfl⟩
  rw [← he] at hq'
  exact Option.some.inj (hp'.symm.trans hq')

/-- The list and the table stay, and so do the peer ids. -/
theorem congr (h : TableInv c) (hs : SessionsOk c')
    (hl : c'.streamingSessionList = c.streamingSessionList)
    (ht : c'.pRemoteRtcPeerConnections = c.pRemoteRtcPeerConnections)
    (hid : ∀ p ∈ c.streamingSessionList, (c'.session p).peerId = (c.session p).peerId) :
    TableInv c' := by
  refine ⟨hs, fun k p => ?_⟩
  rw [ht, hl, h.entry k p]
  exact and_congr_right fun hp => by rw [hid p hp]

theorem of_kept {P : PStreamingSession → Prop} (h : TableInv c) (hk : Kept P c c') : TableInv c' :=
  h.congr (h.sessions.of_kept hk) hk.list hk.table fun p _ => hk.peerId p

theorem of_tables (h : TableInv c) (hs : c'.sessions = c.sessions)
    (hl : c'.streamingSessionList = c.streamingSessionList)
    (ht : c'.pRemoteRtcPeerConnections = c.pRemoteRtcPeerConnections) : TableInv c' :=
  h.congr (h.sessions.congr hs hl ht) hl ht fun p _ =>
    congrArg StreamingSession.peerId (congrArg (Arena.read · p) hs)

/-- A session entered under its key, where that key was free, right after it was listed. -/
theorem entered (h : TableInv c) {env : Env} {id : ClientId}
    (hfree : c.streamingSessionList.length ≠ appMaxConcurrentStreamingSession)
    (hnone : c.pRemoteRtcPeerConnections (clientIdHashKey id) = none)
    (hl : OfferListed env id c c.sessions.next c') :
    TableInv (c'.setEntry (clientIdHashKey id) c.sessions.next) := by
  have hlisted := h.sessions.of_listed hfree hl
  refine ⟨hl.newPeerId ▸ hlisted.setEntry hl.mem, fun k p => ?_⟩
  have hold : ∀ q ∈ c.streamingSessionList, (c'.session q).peerId = (c.session q).peerId :=
    fun q hq => hl.peerId q (Arena.live_lt (h.sessions.listed_live hq))
  have hlist : (c'.setEntry (clientIdHashKey id) c.sessions.next).streamingSessionList =
      c.streamingSessionList ++ [c.sessions.next] := hl.list
  rw [table_setEntry, hl.table, hlist, List.mem_append, List.mem_singleton]
  constructor
  · intro hp
    split at hp
    · next hk =>
      obtain rfl := Option.some.inj hp
      exact ⟨Or.inr rfl, hk ▸ congrArg clientIdHashKey hl.newPeerId⟩
    · obtain ⟨hp, hk⟩ := (h.entry k p).mp hp
      exact ⟨Or.inl hp, (congrArg clientIdHashKey (hold p hp)).trans hk⟩
  · rintro ⟨hp | rfl, hk⟩
    · have hk' : clientIdHashKey (c.session p).peerId = k :=
        (congrArg clientIdHashKey (hold p hp)).symm.trans hk
      have hsome := (h.entry k p).mpr ⟨hp, hk'⟩
      rw [if_neg, hsome]
      rintro rfl
      rw [hnone] at hsome
      cases hsome
    · have hk' : k = clientIdHashKey id := hk.symm.trans (congrArg clientIdHashKey hl.newPeerId)
      rw [if_pos hk']

theorem of_unlinked {p : PStreamingSession} (h : TableInv c) (hu : Unlinked p c c') : TableInv c' := by
  have hmem : ∀ q, q ∈ c'.streamingSessionList ↔ q ∈ c.streamingSessionList ∧ q ≠ p := by
    have hnd := hu.list.nodup_iff.mpr h.sessions.nodup
    intro q
    rw [← hu.list.mem_iff, List.mem_cons]
    constructor
    · exact fun hq => ⟨Or.inr hq, fun e => (List.nodup_cons.mp hnd).1 (e ▸ hq)⟩
    · exact fun ⟨hq, hne⟩ => hq.resolve_left hne
  have hp : p ∈ c.streamingSessionList := hu.list.mem_iff.mp List.mem_cons_self
  have hentry := (h.entry _ p).mpr ⟨hp, rfl⟩
  refine ⟨h.sessions.of_unlinked hu, fun k q => ?_⟩
  rw [hu.table, Function.update_apply, hu.peerId, hmem, and_right_comm]
  by_cases hk : k = clientIdHashKey (c.session p).peerId
  · -- the key of `p` had no other session
    rw [if_pos hk]
    refine iff_of_false (fun e => by cases e) ?_
    rintro ⟨hq, hne⟩
    have := (h.entry k q).mpr hq
    rw [hk, hentry] at this
    exact hne (Option.some.inj this).symm
  · rw [if_neg hk, h.entry k q]
    refine (and_iff_left_of_imp ?_).symm
    rintro ⟨-, hq⟩ rfl
    exact hk hq.symm

theorem message (h : TableInv c) {env : Env} {msg : ReceivedSignalingMessage}
    (hb : c.blocked = false) (hl : c.readLockHeld = false)
    (he : OfferEntered c (.message env msg)) :
    TableInv (onSignalingMessageReceived env msg c).2 ∧
      (onSignalingMessageReceived env msg c).2.readLockHeld = false := by
  rcases onSignalingMessageReceived_cases env msg with ⟨st, hr⟩ | ⟨hm, hc, hnone, hr⟩ | ⟨-, -, hr⟩
  · rw [hr]
    exact ⟨h, hl⟩
  · obtain ⟨leaked, ho, -⟩ := h.sessions.owned
    rw [hr]
    rcases receiveOffer_cases env (clientIdHashKey msg.signalingMessage.peerClientId)
      msg.signalingMessage ho with
      ⟨-, hr⟩ | ⟨-, hu, -⟩ | ⟨hfree, hcr, -, c1, hlisted, ⟨hbad, -⟩ | ⟨-, -, hr⟩⟩
    · rw [hr]
      exact ⟨h.of_tables rfl rfl rfl, hl⟩
    · refine ⟨h.congr (h.sessions.of_unlisted hu) hu.list hu.table fun p hp => ?_,
        (congrArg Tables.readLockHeld hu.tables).trans hl⟩
      exact congrArg StreamingSession.peerId
        (hu.session p (Arena.live_lt (h.sessions.listed_live hp)))
    · exact absurd (he ⟨hb, hm, hc, hnone, hfree, hcr, hl⟩) hbad
    · have h1 := h.entered hfree hnone hlisted
      have hlive : (c1.setEntry (clientIdHashKey msg.signalingMessage.peerClientId)
          c.sessions.next).sessions.live c.sessions.next = true := h1.sessions.listed_live hlisted.mem
      obtain ⟨s, ms, hd⟩ := drainPending_eq env
        (clientIdHashKey msg.signalingMessage.peerClientId) hlive
      have hlock : c1.readLockHeld = false :=
        (congrArg Tables.readLockHeld hlisted.tables).trans hl
      rw [hr]
      simp only
      rw [hd]
      split
      · exact ⟨h1.of_tables rfl rfl rfl, hlock⟩
      · obtain ⟨hs, ht⟩ := @startStats_eq ((c1.setEntry _ _).setPending s _) env
        exact ⟨h1.of_tables hs (congrArg Tables.streamingSessionList ht)
          (congrArg Tables.pRemoteRtcPeerConnections ht),
          (congrArg Tables.readLockHeld ht).trans hlock⟩
  · rw [hr]
    cases hentry : c.pRemoteRtcPeerConnections
        (clientIdHashKey msg.signalingMessage.peerClientId) with
    | none =>
      rw [receiveIceCandidate_of_none env _ msg hentry]
      exact ⟨h.of_tables rfl rfl rfl, hl⟩
    | some p =>
      rw [receiveIceCandidate_of_entry env _ msg hentry (h.sessions.entry_live hentry)]
      exact ⟨h.of_tables rfl rfl rfl, hl⟩

theorem poll (h : TableInv c) {env : Env} (hl : c.readLockHeld = false) (henv : env.SweepOk) :
    TableInv (pollApp env c).2 ∧ (pollApp env c).2.readLockHeld = false := by
  obtain ⟨c1, hsw, hret, -⟩ := sweep_done env h.sessions
    (sweepLoop_success env henv _ 0 0 h.sessions hl)
  obtain ⟨-, h1, hl1⟩ := hsw.invariant
    (I := fun c => TableInv c ∧ c.readLockHeld = false)
    (fun _ hi hu => ⟨hi.1.of_unlinked hu, hu.readLockHeld.trans hi.2⟩) h.sessions ⟨h, hl⟩
  have hpoll : pollApp env c = (some (pollSignaling env c1).1, (pollSignaling env c1).2) := by
    rw [pollApp, hret]
  obtain ⟨hs, ht, -⟩ := @pollSignaling_eq c1 env
  rw [hpoll]
  exact ⟨h1.of_tables hs (congrArg Tables.streamingSessionList ht)
    (congrArg Tables.pRemoteRtcPeerConnections ht), (congrArg Tables.readLockHeld ht).trans hl1⟩

theorem step (h : TableInv c) (hl : c.readLockHeld = false) (e : Event) (hs : e.SweepOk)
    (he : OfferEntered c e) : TableInv (step c e) ∧ (step c e).readLockHeld = false := by
  rcases step_cases h.sessions e with ⟨env, msg, rfl, hb, hst⟩ | ⟨env, rfl, hst⟩ | ⟨P, hk⟩
  · obtain ⟨h', hl'⟩ := h.message hb hl he
    rw [hst, settle_eq]
    exact ⟨h'.of_tables rfl rfl rfl, hl'⟩
  · obtain ⟨h', hl'⟩ := h.poll hl hs
    rw [hst, settle_eq]
    exact ⟨h'.of_tables rfl rfl rfl, hl'⟩
  · exact ⟨h.of_kept hk, (congrArg Tables.readLockHeld hk.tables).trans hl⟩

end TableInv

/-- On every run whose sweeps succeed and whose OFFERs, once listed, are entered in the table. -/
theorem table_agrees (latched : Bool) (es : List Event)
    (hsweep : Run.Along step (fun _ e => e.SweepOk) (AppConfiguration.initApp latched) es)
    (hentered : Run.Along step OfferEntered (AppConfiguration.initApp latched) es) :
    TableAgrees (Run.exec step (AppConfiguration.initApp latched) es) :=
  ((hsweep.and hentered).invariant (I := fun c => TableInv c ∧ c.readLockHeld = false)
    ⟨TableInv.initApp latched, rfl⟩ fun _ e h hp => h.1.step h.2 e hp.1 hp.2).1.agrees

/-- `A` sends its OFFER. -/
theorem table_agrees_of_one_client :
    TableAgrees (Run.exec step (AppConfiguration.initApp true) [.message Env.allOk (offerOf clientA)]) :=
  table_agrees true _ ⟨trivial, trivial⟩ ⟨fun _ =>
    show Env.allOk.OfferAnswered ∧ Env.allOk.ok .appHashTablePut = true by decide +kernel, trivial⟩

/-- The remote description is refused. -/
def Env.descriptionRefused : Env :=
  { Env.allOk with status := fun call => if call = .setRemoteDescription then .sdk 1 else .success }

/-- The first OFFER of `A` fails in `handleOffer` and the second one does not: two sessions of `A`
are listed. -/
theorem table_disagrees : ¬ ∀ (latched : Bool) (es : List Event),
    Run.Along step (fun _ e => e.SweepOk) (AppConfiguration.initApp latched) es →
    TableAgrees (Run.exec step (AppConfiguration.initApp latched) es) := by
  intro h
  have hd := (h true [.message Env.descriptionRefused (offerOf clientA),
    .message Env.allOk (offerOf clientA)] ⟨trivial, trivial, trivial⟩).distinct
  exact absurd (hd 0 (by decide +kernel) 1 (by decide +kernel) (by decide +kernel)) (by decide)

/-! ## The cost of a rejected OFFER -/

/-- The connection of the new session closes while the OFFER is handled. -/
def Event.Closes : Event → Prop
  | .message env _ => ∃ st ∈ env.stateChanges, st.closes = true
  | _ => False

/-- The OFFER fails in `createStreamingSession`, in `handleOffer` or in `appHashTablePut`. -/
def OfferFails (c : AppConfiguration) : Event → Prop
  | .message env msg =>
    c.blocked = false ∧ msg.signalingMessage.messageType = .offer ∧
      env.ok .appHashTableContains = true ∧
      c.pRemoteRtcPeerConnections (clientIdHashKey msg.signalingMessage.peerClientId) = none ∧
      c.streamingSessionList.length ≠ appMaxConcurrentStreamingSession ∧
      (¬ env.SessionCreated c.media ∨
        (c.readLockHeld = false ∧ ¬ (env.OfferAnswered ∧ env.ok .appHashTablePut = true)))
  | _ => False

/-- The event is an OFFER, and it is not accepted. -/
def OfferRefused (c : AppConfiguration) (e : Event) : Prop :=
  (∃ env msg, e = .message env msg ∧ msg.signalingMessage.messageType = .offer) ∧
    (ListsSession c e → ¬ e.Entered)

/-- The handler returns a failure. -/
def ReturnsFailure (c : AppConfiguration) : Event → Prop
  | .message env msg => ∃ st, st ≠ .success ∧ (onSignalingMessageReceived env msg c).1 = some st
  | _ => False

/-- From `c` to `c'` the list, its sessions and the table stay, or one session is added to the
list that the next sweep removes. -/
def CostsNothing (c c' : AppConfiguration) : Prop :=
  c'.pRemoteRtcPeerConnections = c.pRemoteRtcPeerConnections ∧
    ((c'.streamingSessionList = c.streamingSessionList ∧
        ∀ p ∈ c.streamingSessionList, c'.session p = c.session p) ∨
      ∃ p, c'.streamingSessionList = c.streamingSessionList ++ [p] ∧
        (c'.session p).terminateFlag = true)

/-- A refused OFFER is harmless when it does not get as far as the list, or its connection
closes. -/
def RefusalHarmless (c : AppConfiguration) (e : Event) : Prop := ListsSession c e → e.Closes

/-- The number of sessions that can be accepted. -/
def AppConfiguration.freeSlots (c : AppConfiguration) : Nat :=
  appMaxConcurrentStreamingSession - c.streamingSessionList.length

/-- The number of listed sessions that a sweep leaves. -/
def AppConfiguration.standing (c : AppConfiguration) : Nat :=
  (c.streamingSessionList.filter fun p => !(c.session p).terminateFlag).length

section
variable {c c' : AppConfiguration} {env : Env} {msg : ReceivedSignalingMessage}

/-! ### One OFFER -/

/-- What a refused OFFER leaves: everything as it was, or one more session in the list. -/
theorem offerRefused_cases (h : SessionsOk c) (e : Event) (hr : OfferRefused c e) :
    (step c e).pRemoteRtcPeerConnections = c.pRemoteRtcPeerConnections ∧
      ((¬ ListsSession c e ∧ (step c e).streamingSessionList = c.streamingSessionList ∧
          ∀ p ∈ c.streamingSessionList, (step c e).session p = c.session p) ∨
        (ListsSession c e ∧ ∃ p, (step c e).streamingSessionList = c.streamingSessionList ++ [p] ∧
          (∀ q ∈ c.streamingSessionList,
            ((step c e).session q).terminateFlag = (c.session q).terminateFlag) ∧
          (((step c e).session p).terminateFlag = true ↔ e.Closes))) := by
  obtain ⟨⟨env, msg, rfl, hm⟩, hre⟩ := hr
  cases hb : c.blocked with
  | true =>
    rw [show step c (.message env msg) = c from if_pos hb]
    exact ⟨rfl, Or.inl ⟨fun hl => Bool.false_ne_true (hl.1.symm.trans hb), rfl, fun _ _ => rfl⟩⟩
  | false =>
    have hst : step c (.message env msg) = settle (onSignalingMessageReceived env msg c) :=
      if_neg (by rw [hb]; exact Bool.false_ne_true)
    rw [hst, settle_eq]
    by_cases hon : env.ok .appHashTableContains = true ∧
      c.pRemoteRtcPeerConnections (clientIdHashKey msg.signalingMessage.peerClientId) = none
    · obtain ⟨hc, hnone⟩ := hon
      obtain ⟨leaked, ho, -⟩ := h.owned
      have hlt : ∀ p ∈ c.streamingSessionList, p < c.sessions.next :=
        fun p hp => Arena.live_lt (h.listed_live hp)
      rw [onSignalingMessageReceived_offer hm hc hnone]
      rcases receiveOffer_cases env (clientIdHashKey msg.signalingMessage.peerClientId)
        msg.signalingMessage ho with
        ⟨hfull, hr⟩ | ⟨-, hu, hend⟩ | ⟨hfree, hcr, hlock, c1, hl, hend⟩
      · rw [hr]
        exact ⟨rfl, Or.inl ⟨fun hl => hl.2.2.2.2.1 hfull, rfl, fun _ _ => rfl⟩⟩
      · refine ⟨hu.table, Or.inl ⟨fun hl => ?_, hu.list, fun p hp => hu.session p (hlt p hp)⟩⟩
        rcases hend with ⟨hncr, -⟩ | ⟨-, hlock, -⟩
        · exact hncr hl.2.2.2.2.2.1
        · exact absurd (hlock.symm.trans hl.2.2.2.2.2.2) (by decide)
      · have hlists : ListsSession c (.message env msg) := ⟨hb, hm, hc, hnone, hfree, hcr, hlock⟩
        rcases hend with ⟨-, st, -, hr⟩ | ⟨hans, hput, -⟩
        · rw [hr]
          exact ⟨hl.table, Or.inr ⟨hlists, _, hl.list, fun q hq => hl.flag q (hlt q hq), hl.newFlag⟩⟩
        · exact absurd ⟨hans, hput⟩ (hre hlists)
    · have hr : (onSignalingMessageReceived env msg c).2 = c := by
        rcases @onSignalingMessageReceived_cases c env msg with
          ⟨st, hr⟩ | ⟨-, hc, hnone, -⟩ | ⟨hm', -, -⟩
        · rw [hr]
        · exact absurd ⟨hc, hnone⟩ hon
        · rw [hm] at hm'
          cases hm'
      rw [hr]
      exact ⟨rfl, Or.inl ⟨fun hl => hon ⟨hl.2.2.1, hl.2.2.2.1⟩, rfl, fun _ _ => rfl⟩⟩

theorem OfferFails.refused {e : Event} (hf : OfferFails c e) : OfferRefused c e := by
  cases e with
  | message env msg =>
    refine ⟨⟨env, msg, rfl, hf.2.1⟩, fun hl hen => ?_⟩
    rcases hf.2.2.2.2.2 with hcr | ⟨-, hn⟩
    · exact hcr hl.2.2.2.2.2.1
    · exact hn hen
  | _ => exact hf.elim

theorem OfferFails.returnsFailure {e : Event} (h : SessionsOk c) (hf : OfferFails c e) :
    ReturnsFailure c e := by
  cases e with
  | message env msg =>
    obtain ⟨-, hm, hc, hnone, hfree, hbad⟩ := hf
    obtain ⟨leaked, ho, -⟩ := h.owned
    show ∃ st, st ≠ .success ∧ (onSignalingMessageReceived env msg c).1 = some st
    rw [onSignalingMessageReceived_offer hm hc hnone]
    rcases receiveOffer_cases env (clientIdHashKey msg.signalingMessage.peerClientId)
      msg.signalingMessage ho with
      ⟨hfull, -⟩ | ⟨-, -, ⟨-, hst⟩ | ⟨hcr, hlock, -⟩⟩ |
        ⟨-, hcr, -, c1, -, ⟨-, st, hst, hr⟩ | ⟨hans, hput, -⟩⟩
    · exact absurd hfull hfree
    · exact hst
    · rcases hbad with hncr | ⟨hlock', -⟩
      · exact absurd hcr hncr
      · exact absurd (hlock.symm.trans hlock') (by decide)
    · exact ⟨st, hst, congrArg Prod.fst hr⟩
    · rcases hbad with hncr | ⟨-, hn⟩
      · exact absurd hcr hncr
      · exact absurd ⟨hans, hput⟩ hn
  | _ => exact hf.elim

theorem costsNothing_iff (h : SessionsOk c) (e : Event) (hr : OfferRefused c e) :
    CostsNothing c (step c e) ↔ RefusalHarmless c e := by
  rcases offerRefused_cases h e hr with ⟨ht, ⟨hl, hlist, hs⟩ | ⟨hl, p, hlist, -, hflag⟩⟩
  · exact iff_of_true ⟨ht, Or.inl ⟨hlist, hs⟩⟩ fun hl' => absurd hl' hl
  · constructor
    · rintro ⟨-, ⟨hlist', -⟩ | ⟨q, hlist', hq⟩⟩ -
      · have hlen := congrArg List.length (hlist.symm.trans hlist')
        rw [List.length_append, List.length_singleton] at hlen
        omega
      · obtain rfl : p = q := List.singleton_inj.mp
          (List.append_cancel_left (hlist.symm.trans hlist'))
        exact hflag.mp hq
    · exact fun hc => ⟨ht, Or.inr ⟨p, hlist, hflag.mpr (hc hl)⟩⟩

/-! ### Many OFFERs and a sweep -/

open Classical in
/-- A refused OFFER adds a session that no sweep removes, unless it is harmless. -/
theorem standing_refused (h : SessionsOk c) (e : Event) (hr : OfferRefused c e) :
    (step c e).standing = c.standing + if RefusalHarmless c e then 0 else 1 := by
  unfold AppConfiguration.standing
  rcases offerRefused_cases h e hr with ⟨-, ⟨hl, hlist, hs⟩ | ⟨hl, p, hlist, hs, hflag⟩⟩
  · have hh : RefusalHarmless c e := fun hl' => absurd hl' hl
    rw [if_pos hh, hlist]
    exact congrArg List.length (List.filter_congr fun q hq => by rw [hs q hq])
  · rw [hlist, List.filter_append, List.length_append]
    rw [List.filter_congr fun q hq => by rw [hs q hq]]
    congr 1
    split
    · next hc =>
      rw [List.filter_singleton, hflag.mpr (hc hl)]
      rfl
    · next hc =>
      have hn : ((step c e).session p).terminateFlag = false :=
        Bool.eq_false_iff.mpr fun ht => hc fun _ => hflag.mp ht
      rw [List.filter_singleton, hn]
      rfl

theorem standing_unlinked {p : PStreamingSession} (h : SessionsOk c) (hu : Unlinked p c c') :
    c'.standing = c.standing :=
  (hu.standing_perm h.nodup).length_eq

/-- A sweep that ends leaves the standing sessions. -/
theorem length_sweep (h : SessionsOk c) (hret : (sweep env c).1 = some .success) :
    (sweep env c).2.streamingSessionList.length = c.standing := by
  obtain ⟨c1, hsw, he, hflags⟩ := sweep_done env h hret
  obtain ⟨-, hst⟩ := hsw.invariant (I := fun c' => c'.standing = c.standing)
    (fun hs hi hu => (standing_unlinked hs hu).trans hi) h rfl
  rw [he, ← hst, AppConfiguration.standing, List.filter_eq_self.mpr]
  exact fun q hq => by rw [hflags q hq]; rfl

theorem standing_run (h : SessionsOk c) (es : List Event) (hr : Run.Along step OfferRefused c es) :
    c.standing ≤ (Run.exec step c es).standing ∧
      ((Run.exec step c es).standing = c.standing ↔ Run.Along step RefusalHarmless c es) := by
  induction es generalizing c with
  | nil => exact ⟨Nat.le_refl _, iff_of_true rfl trivial⟩
  | cons e es ih =>
    obtain ⟨hle, heq⟩ := ih (h.step e) hr.2
    have hst := standing_refused h e hr.1
    rw [Run.exec_cons]
    by_cases hh : RefusalHarmless c e
    · rw [if_pos hh] at hst
      rw [hst] at hle heq
      exact ⟨hle, heq.trans (and_iff_right hh).symm⟩
    · rw [if_neg hh] at hst
      exact ⟨by omega, iff_of_false (by omega) fun ha => hh ha.1⟩

end

/-- From every reachable state, a failed OFFER costs nothing exactly when it is harmless; and a
run of refused OFFERs leaves as many free slots after a sweep as there would have been without
it exactly when each of them is harmless. -/
theorem rejected_offer_cost (latched : Bool) (c : AppConfiguration)
    (hc : Run.Reachable step (AppConfiguration.initApp latched) c) :
    (∀ e, OfferFails c e → ReturnsFailure c e ∧ (CostsNothing c (step c e) ↔ RefusalHarmless c e)) ∧
      ∀ env env' es, Run.Along step OfferRefused c es → (sweep env c).1 = some .success →
        (sweep env' (Run.exec step c es)).1 = some .success →
        ((sweep env c).2.freeSlots ≤ (sweep env' (Run.exec step c es)).2.freeSlots ↔
          Run.Along step RefusalHarmless c es) := by
  have h := sessionsOk_of_reachable hc
  refine ⟨fun e hf => ⟨hf.returnsFailure h, costsNothing_iff h e hf.refused⟩, ?_⟩
  intro env env' es hes hret hret'
  have h' : SessionsOk (Run.exec step c es) :=
    hes.invariant h fun _ e hs _ => hs.step e
  obtain ⟨hle, heq⟩ := standing_run h es hes
  have hcount : (Run.exec step c es).standing ≤ appMaxConcurrentStreamingSession :=
    (List.length_filter_le ..).trans h'.count
  unfold AppConfiguration.freeSlots
  rw [length_sweep h hret, length_sweep h' hret', ← heq]
  omega

theorem descriptionRefused_fails : OfferFails (AppConfiguration.initApp true)
    (.message Env.descriptionRefused (offerOf clientA)) :=
  ⟨rfl, rfl, rfl, rfl, by decide, Or.inr ⟨rfl, by decide +kernel⟩⟩

/-- The remote description of `A` is refused. -/
theorem rejected_offer_cost_of_one_client :
    let c := AppConfiguration.initApp true
    let e := Event.message Env.descriptionRefused (offerOf clientA)
    (ReturnsFailure c e ∧ (CostsNothing c (step c e) ↔ RefusalHarmless c e)) ∧
      ((sweep Env.allOk c).2.freeSlots ≤ (sweep Env.allOk (Run.exec step c [e])).2.freeSlots ↔
        Run.Along step RefusalHarmless c [e]) := by
  obtain ⟨hone, hrun⟩ := rejected_offer_cost true _ ⟨[], rfl⟩
  exact ⟨hone _ descriptionRefused_fails, hrun Env.allOk Env.allOk [_]
    ⟨descriptionRefused_fails.refused, trivial⟩ rfl (by decide +kernel)⟩

/-- The session of the refused OFFER stays in the list. -/
theorem rejected_offer_costs_a_slot : ¬ ∀ (latched : Bool) (c : AppConfiguration),
    Run.Reachable step (AppConfiguration.initApp latched) c →
    (∀ e, OfferFails c e → CostsNothing c (step c e)) ∧
      ∀ env env' es, Run.Along step OfferRefused c es → (sweep env c).1 = some .success →
        (sweep env' (Run.exec step c es)).1 = some .success →
        (sweep env c).2.freeSlots ≤ (sweep env' (Run.exec step c es)).2.freeSlots := by
  intro h
  obtain ⟨-, hrun⟩ := h true _ ⟨[], rfl⟩
  have hslots := hrun Env.allOk Env.allOk [.message Env.descriptionRefused (offerOf clientA)]
    ⟨descriptionRefused_fails.refused, trivial⟩ rfl (by decide +kernel)
  exact absurd hslots (by decide +kernel)

end WebrtcApp
