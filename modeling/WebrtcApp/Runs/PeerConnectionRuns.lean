import WebrtcApp.Runs.SessionCreation
import WebrtcApp.Runs.SessionSteps
import WebrtcApp.Runs.Teardown

/-!
# The peer connections in a run

A peer connection is created with its session and released with it, by whichever thread frees the
session.  A session is lost on the way when the media source is not ready or when an operation on
the hash table fails in the sweep; only the second one has a peer connection yet.

    peer_connections_owned       each is open and in one session, or was closed and freed, once
    peer_connections_released    `freeApp` leaves open those the sweep failed to remove
-/

namespace WebrtcApp

/-! ## The machine -/

/-- The handlers and callbacks with the peer connections behind the sessions. -/
structure PeerRun where
  world : World
  rtcPeerConnections : Arena Nat
  pPeerConnection : PStreamingSession → Option Nat

namespace PeerRun

def start (latched : Bool) : PeerRun := ⟨World.start latched, Arena.empty, fun _ => none⟩

/-- The application, as `createStreamingSession` and `freeStreamingSession` take it. -/
def heap (s : PeerRun) : PeerHeap := ⟨s.world.app, s.rtcPeerConnections, s.pPeerConnection⟩

/-- The calls on peer connections that a step makes. -/
def peers (s : PeerRun) (a : Action) : PeerHeap :=
  match a, s.world.holder with
  | .receive env msg, .idle =>
    let m := msg.signalingMessage
    if m.messageType = .offer ∧ env.ok .appHashTableContains = true ∧
        s.world.app.pRemoteRtcPeerConnections (clientIdHashKey m.peerClientId) = none ∧
        s.world.app.streamingSessionList.length ≠ appMaxConcurrentStreamingSession then
      (s.heap.createStreamingSession env m.peerClientId).2.2
    else s.heap
  | .advance, .sweepRemoved _ _ _ p => (s.heap.freeStreamingSession p).2
  | _, _ => s.heap

def step (s : PeerRun) (a : Action) : PeerRun :=
  let u := s.peers a
  ⟨s.world.step a, u.rtcPeerConnections, u.pPeerConnection⟩

/-- The loop over the list in `freeApp`. -/
def freeSessions (s : PeerRun) : PeerHeap :=
  s.world.app.streamingSessionList.foldl (fun u p => (u.freeStreamingSession p).2) s.heap

end PeerRun

/-- The sweep gives up a session that it took out of the list. -/
def World.failsRemoval (w : World) (a : Action) : Bool :=
  match a, w.holder with
  | .advance, .sweepUnlinked env n _ p => (sweepRemove env n p w.app).1.failed
  | _, _ => false

/-- How often it does, in a run. -/
def World.failedRemovals (w : World) : List Action → Nat
  | [] => 0
  | a :: as => (w.failsRemoval a).toNat + failedRemovals (w.step a) as

/-- The sessions in the list, and the one that only the holder of the lock knows. -/
def World.named (w : World) : List PStreamingSession :=
  w.app.streamingSessionList ++ w.holder.held

/-! ## What the functions do -/

/-- `hs` are the peer connections that are open; the others were closed once and freed once. -/
structure ConnectionsOwned (a : Arena Nat) (hs : List Nat) : Prop where
  owned : a.Owned hs
  opened : ∀ h, a.live h = true → a.read h = 0
  closed : ∀ h < a.next, a.live h = false → a.read h = 1

namespace ConnectionsOwned

variable {a : Arena Nat} {hs : List Nat} {k : Nat}

/-- `createPeerConnection`. -/
theorem alloc (h : ConnectionsOwned a hs) : ConnectionsOwned (a.alloc 0) (a.next :: hs) := by
  have hold : ∀ k, k < a.next → (a.alloc 0).read k = a.read k := fun k hk =>
    Arena.read_alloc_of_lt a 0 hk
  have hnew : (a.alloc 0).read a.next = 0 := Arena.read_alloc_next a 0
  refine ⟨h.owned.alloc 0, fun k hk => ?_, fun k hlt hk => ?_⟩
  · rcases (Arena.live_alloc a 0 k).mp hk with hk | rfl
    · rw [hold k (Arena.live_lt hk)]
      exact h.opened k hk
    · exact hnew
  · rw [Arena.next_alloc] at hlt
    have hdead : a.live k = false := Bool.eq_false_iff.mpr fun hl =>
      Bool.eq_false_iff.mp hk ((Arena.live_alloc a 0 k).mpr (Or.inl hl))
    have hne : k ≠ a.next := fun e =>
      Bool.eq_false_iff.mp hk ((Arena.live_alloc a 0 k).mpr (Or.inr e))
    have hlt' : k < a.next := by omega
    rw [hold k hlt']
    exact h.closed k hlt' hdead

/-- `closePeerConnection` and `freePeerConnection`. -/
theorem release (h : ConnectionsOwned a (k :: hs)) :
    ConnectionsOwned ((a.modify k (· + 1)).free k) hs := by
  have hlive : a.live k = true := h.owned.live List.mem_cons_self
  refine ⟨(h.owned.modify List.mem_cons_self _).free, fun j hj => ?_, fun j hlt hj => ?_⟩
  · obtain ⟨hj, hne⟩ := (Arena.live_free _ _ _).mp hj
    rw [Arena.live_modify] at hj
    rw [Arena.read_free, Arena.read_modify_of_ne _ _ hne.symm]
    exact h.opened j hj
  · rw [Arena.next_free, Arena.next_modify] at hlt
    rw [Arena.read_free]
    by_cases hne : j = k
    · rw [hne, Arena.read_modify_self _ _ hlive, h.opened k hlive]
    · rw [Arena.read_modify_of_ne _ _ (Ne.symm hne)]
      refine h.closed j hlt (Bool.eq_false_iff.mpr fun hl => Bool.eq_false_iff.mp hj ?_)
      rw [Arena.live_free, Arena.live_modify]
      exact ⟨hl, hne⟩

end ConnectionsOwned

namespace PeerHeap

/-- The sessions that are alive are `ps`, and they hold the peer connections that are open. -/
structure PeersOwned (u : PeerHeap) (ps : List PStreamingSession) : Prop where
  sessions : u.app.sessions.Owned ps
  connections : ConnectionsOwned u.rtcPeerConnections (ps.filterMap u.pPeerConnection)

variable {u : PeerHeap} {p q : PStreamingSession} {ps : List PStreamingSession} {env : Env}
  {peerId : ClientId}

/-- The set-up and the release of a session leave the pointers in the others. -/
theorem pPeerConnection_setUpStreamingSession (hq : q ≠ p) :
    (u.setUpStreamingSession env peerId p).2.pPeerConnection q = u.pPeerConnection q := by
  unfold setUpStreamingSession
  simp only
  split
  · rfl
  · unfold initializePeerConnection
    simp only
    split
    · rfl
    · exact Function.update_of_ne hq ..

theorem pPeerConnection_freeStreamingSession (hq : q ≠ p) :
    (u.freeStreamingSession p).2.pPeerConnection q = u.pPeerConnection q := by
  have hclose : ∀ v : PeerHeap, (v.closePeerConnection p).pPeerConnection = v.pPeerConnection := by
    intro v
    unfold closePeerConnection
    split <;> rfl
  have hfree : ∀ v : PeerHeap,
      (v.freePeerConnection p).pPeerConnection q = v.pPeerConnection q := by
    intro v
    unfold freePeerConnection
    simp only
    split
    · rfl
    · exact Function.update_of_ne hq ..
  unfold freeStreamingSession
  simp only
  split
  · rfl
  · show ((closePeerConnection p _).freePeerConnection p).pPeerConnection q = _
    rw [hfree, hclose]
    rfl

/-- The pointers that a new session leaves. -/
theorem pPeerConnection_createStreamingSession (hq : q ≠ u.app.sessions.next) :
    (u.createStreamingSession env peerId).2.2.pPeerConnection q = u.pPeerConnection q := by
  have halloc : u.allocSession.pPeerConnection q = u.pPeerConnection q :=
    Function.update_of_ne hq ..
  unfold createStreamingSession
  split
  · rfl
  · simp only
    split
    · rw [pPeerConnection_freeStreamingSession hq, pPeerConnection_setUpStreamingSession hq, halloc]
    · rw [pPeerConnection_setUpStreamingSession hq, halloc]

/-- Before the media source is ready no peer connection is made. -/
theorem pPeerConnection_setUp_unready (hready : env.mediaReady u.app.media = false) :
    (u.setUpStreamingSession env peerId p).2.pPeerConnection = u.pPeerConnection := by
  have hfail : (isMediaSourceReady env u.app.media).1.failed = true := by
    rw [isMediaSourceReady_failed, hready]
    rfl
  unfold setUpStreamingSession
  simp only [hfail, if_true]
  rfl

theorem isSome_initializePeerConnection
    (hst : (u.initializePeerConnection env p).1.failed = false) :
    ((u.initializePeerConnection env p).2.pPeerConnection p).isSome := by
  have hsome : (WebrtcApp.initializePeerConnection env u.app).1.failed = false →
      (WebrtcApp.initializePeerConnection env u.app).2.1 ≠ none := by
    intro hok
    obtain ⟨hq, hcert, hcreate⟩ :=
      initializePeerConnection_eq_success.mp (Status.failed_eq_false.mp hok)
    have hpop : (popGeneratedCert env u.app.appCredential).1.failed = false :=
      Status.failed_eq_false.mpr (popGeneratedCert_eq_success.mpr hcert)
    simp [WebrtcApp.initializePeerConnection, hq, hpop, hcreate]
  unfold initializePeerConnection at hst ⊢
  generalize WebrtcApp.initializePeerConnection env u.app = r at hsome hst ⊢
  obtain ⟨st, pc, c⟩ := r
  cases pc with
  | none => exact absurd rfl (hsome hst)
  | some pc =>
    show (Function.update u.pPeerConnection p _ p).isSome
    rw [Function.update_self]
    rfl

/-- A session that was set up has one. -/
theorem isSome_setUpStreamingSession
    (hst : (u.setUpStreamingSession env peerId p).1.failed = false) :
    ((u.setUpStreamingSession env peerId p).2.pPeerConnection p).isSome := by
  unfold setUpStreamingSession at hst ⊢
  simp only at hst ⊢
  split at hst
  · next hfail => exact absurd (hfail.symm.trans hst) Bool.noConfusion
  · next hready =>
    rw [if_neg hready]
    refine isSome_initializePeerConnection ?_
    split at hst
    · next hfail => exact absurd (hfail.symm.trans hst) Bool.noConfusion
    · next hok => exact Bool.eq_false_iff.mpr hok

theorem createStreamingSession_of_calloc (hc : env.ok .sessionCalloc = true) :
    u.createStreamingSession env peerId =
      let r := u.allocSession.setUpStreamingSession env peerId u.app.sessions.next
      if r.1.failed then (r.1, none, (r.2.freeStreamingSession u.app.sessions.next).2)
      else (r.1, some u.app.sessions.next, r.2) := by
  unfold createStreamingSession
  simp only [hc, Bool.not_true, Bool.false_eq_true, if_false]

/-- The cleanup keeps a session that does not know its application. -/
theorem freeStreamingSession_unready (hp : u.app.sessions.live p = true)
    (happ : (u.app.session p).pAppConfiguration = false) : (u.freeStreamingSession p).2 = u := by
  unfold freeStreamingSession
  rw [touchSession_of_live hp]
  simp only [app_setApp, happ, Bool.not_false, if_true]
  rfl

namespace PeersOwned

theorem perm {qs : List PStreamingSession} (h : PeersOwned u ps) (hp : ps.Perm qs) :
    PeersOwned u qs :=
  ⟨h.sessions.perm hp, h.connections.owned.perm (hp.filterMap _), h.connections.opened,
    h.connections.closed⟩

theorem allocSession (h : PeersOwned u ps) :
    PeersOwned u.allocSession (u.app.sessions.next :: ps) := by
  have hold : ∀ q ∈ ps, u.allocSession.pPeerConnection q = u.pPeerConnection q := by
    intro q hq
    have hne : q ≠ u.app.sessions.next := fun e => h.sessions.next_not_mem (e ▸ hq)
    exact Function.update_of_ne hne ..
  have hnew : u.allocSession.pPeerConnection u.app.sessions.next = none := Function.update_self ..
  refine ⟨h.sessions.alloc default, ?_⟩
  rw [List.filterMap_cons_none hnew, List.filterMap_congr hold]
  exact h.connections

/-- The set-up of the session `p`, which has no peer connection yet. -/
theorem setUp (h : PeersOwned u (p :: ps)) (hnone : u.pPeerConnection p = none) (env : Env)
    (peerId : ClientId) : PeersOwned (u.setUpStreamingSession env peerId p).2 (p :: ps) := by
  have hnot : p ∉ ps := (List.nodup_cons.mp h.sessions.nodup).1
  have hsessions : (u.setUpStreamingSession env peerId p).2.app.sessions.Owned (p :: ps) := by
    rw [app_setUpStreamingSession.2]
    exact (setUpStreamingSession_owned env peerId h.sessions).1
  refine ⟨hsessions, ?_⟩
  have hothers : ps.filterMap (u.setUpStreamingSession env peerId p).2.pPeerConnection =
      ps.filterMap u.pPeerConnection := by
    refine List.filterMap_congr fun q hq => ?_
    have hne : q ≠ p := fun e => hnot (e ▸ hq)
    exact pPeerConnection_setUpStreamingSession hne
  have hown := h.connections
  rw [List.filterMap_cons_none hnone] at hown
  rcases @setUpStreamingSession_connections u p env peerId with ⟨hc, hp⟩ | ⟨hc, hp⟩
  · rw [hc, List.filterMap_cons_none (hp.trans hnone), hothers]
    exact hown
  · rw [hc, List.filterMap_cons_some hp, hothers]
    exact hown.alloc

/-- A session that knows its application is freed, with its peer connection. -/
theorem free (h : PeersOwned u (p :: ps)) (happ : (u.app.session p).pAppConfiguration = true) :
    PeersOwned (u.freeStreamingSession p).2 ps := by
  have hp : u.app.sessions.live p = true := h.sessions.live List.mem_cons_self
  have hnot : p ∉ ps := (List.nodup_cons.mp h.sessions.nodup).1
  have hothers : ps.filterMap (u.freeStreamingSession p).2.pPeerConnection =
      ps.filterMap u.pPeerConnection := by
    refine List.filterMap_congr fun q hq => ?_
    have hne : q ≠ p := fun e => hnot (e ▸ hq)
    exact pPeerConnection_freeStreamingSession hne
  refine ⟨?_, ?_⟩
  · rw [app_freeStreamingSession.2]
    rcases freeStreamingSession_owned h.sessions with ⟨-, hfree⟩ | ⟨hfalse, -⟩
    · exact hfree
    · exact absurd (happ.symm.trans hfalse) Bool.noConfusion
  · rw [connections_freeStreamingSession hp, if_pos happ, hothers]
    have hown := h.connections
    cases hc : u.pPeerConnection p with
    | none =>
      rw [List.filterMap_cons_none hc] at hown
      exact hown
    | some k =>
      rw [List.filterMap_cons_some hc] at hown
      exact hown.release

/-- A session is created with its peer connection, or it is not created and holds none. -/
theorem create (h : PeersOwned u ps) (env : Env) (peerId : ClientId) :
    let r := u.createStreamingSession env peerId
    (r.2.1 = some u.app.sessions.next ∧ PeersOwned r.2.2 (u.app.sessions.next :: ps) ∧
        (r.2.2.pPeerConnection u.app.sessions.next).isSome) ∨
      (r.2.1 = none ∧ (PeersOwned r.2.2 ps ∨ (PeersOwned r.2.2 (u.app.sessions.next :: ps) ∧
        r.2.2.pPeerConnection u.app.sessions.next = none))) := by
  intro r
  cases hc : env.ok .sessionCalloc with
  | false =>
    have hr : r = (.notEnoughMemory, none, u) := by
      show u.createStreamingSession env peerId = _
      unfold createStreamingSession
      rw [hc]
      rfl
    exact hr ▸ Or.inr ⟨rfl, Or.inl h⟩
  | true =>
    have hset := h.allocSession.setUp (Function.update_self ..) env peerId
    obtain ⟨-, hlive, happ, -⟩ := allocSession_setUp u env peerId
    have hr : r = _ := createStreamingSession_of_calloc hc
    rw [hr]
    cases hst : (u.allocSession.setUpStreamingSession env peerId u.app.sessions.next).1.failed with
    | false =>
      simp only [hst, Bool.false_eq_true, if_false]
      exact Or.inl ⟨trivial, hset, isSome_setUpStreamingSession hst⟩
    | true =>
      simp only [hst, if_true]
      refine Or.inr ⟨trivial, ?_⟩
      cases hready : env.mediaReady u.app.media with
      | true => exact Or.inl (hset.free (happ.trans hready))
      | false =>
        rw [freeStreamingSession_unready hlive (happ.trans hready)]
        refine Or.inr ⟨hset, ?_⟩
        have hsame : (u.allocSession.setUpStreamingSession env peerId
            u.app.sessions.next).2.pPeerConnection = u.allocSession.pPeerConnection :=
          pPeerConnection_setUp_unready hready
        rw [hsame]
        exact Function.update_self ..

/-- The loop of `freeApp` over sessions that know their application. -/
theorem freeAll {qs : List PStreamingSession} (h : PeersOwned u (qs ++ ps))
    (happ : ∀ p ∈ qs, (u.app.session p).pAppConfiguration = true) :
    let v := qs.foldl (fun u p => (u.freeStreamingSession p).2) u
    PeersOwned v ps ∧ ∀ p ∈ ps, v.pPeerConnection p = u.pPeerConnection p := by
  induction qs generalizing u with
  | nil => exact ⟨h, fun _ _ => rfl⟩
  | cons q qs ih =>
    have hq : u.app.sessions.live q = true := h.sessions.live List.mem_cons_self
    have hnot : q ∉ qs ++ ps := (List.nodup_cons.mp h.sessions.nodup).1
    have hrest : ∀ p ∈ qs,
        ((u.freeStreamingSession q).2.app.session p).pAppConfiguration = true := by
      intro p hp
      rw [app_freeStreamingSession.2, (identity_freeStreamingSession hq).2]
      exact happ p (List.mem_cons_of_mem _ hp)
    obtain ⟨hown, hsame⟩ := ih (h.free (happ q List.mem_cons_self)) hrest
    refine ⟨hown, fun p hp => (hsame p hp).trans ?_⟩
    have hne : p ≠ q := fun e => hnot (e ▸ List.mem_append_right _ hp)
    exact pPeerConnection_freeStreamingSession hne

end PeersOwned

end PeerHeap

/-! ## The steps -/

section
variable {w : World}

/-- A step of the holder leaves the named sessions, but for one that the sweep gives up. -/
theorem World.named_advance (h : WorldOk w) (hfrees : ¬ ∃ q, w.frees q .advance) :
    ∃ ls, w.named.Perm (w.advance.named ++ ls) ∧ ls.length = (w.failsRemoval .advance).toNat := by
  have hlist := World.list_advance h
  have hkeep : ∀ ls, w.named.Perm (w.nextList ++ w.advance.holder.held ++ ls) →
      ls.length = (w.failsRemoval .advance).toNat →
      ∃ ls, w.named.Perm (w.advance.named ++ ls) ∧
        ls.length = (w.failsRemoval .advance).toNat := by
    intro ls hn hf
    refine ⟨ls, ?_, hf⟩
    unfold World.named at hn ⊢
    rw [hlist]
    exact hn
  have hsame : w.nextList ++ w.advance.holder.held = w.named → w.failsRemoval .advance = false →
      ∃ ls, w.named.Perm (w.advance.named ++ ls) ∧
        ls.length = (w.failsRemoval .advance).toNat := by
    intro hn hf
    refine hkeep [] ?_ (by rw [hf]; rfl)
    rw [hn, List.append_nil]
  obtain ⟨c, holder, hook, adds⟩ := w
  cases holder with
  | idle => exact hsame rfl rfl
  | offerCreated env key p =>
    refine hsame ?_ rfl
    simp only [World.nextList, World.advance]
    split
    · exact List.append_nil _
    · rfl
  | offerListed env key p =>
    refine hsame ?_ rfl
    show c.streamingSessionList ++
      Holder.held (if (handleOffer env p c).1.failed then _ else _) = c.streamingSessionList ++ []
    split <;> rfl
  | offerAnswered env key p =>
    refine hsame ?_ rfl
    simp only [World.nextList, World.advance]
    split <;> rfl
  | offerEntered env key p => exact hsame rfl rfl
  | sweepScan env n i =>
    refine hsame ?_ rfl
    simp only [World.nextList, World.advance]
    split
    · simp only
      split <;> rfl
    · rfl
  | sweepFound env n i p =>
    obtain ⟨hi, hp⟩ : i.toNat < c.streamingSessionList.length ∧
      c.streamingSessionList.getD i.toNat 0 = p := h.holder
    refine hkeep [] ?_ rfl
    rw [List.append_nil]
    simp only [World.nextList, World.advance]
    split
    · have hperm := swapWithLast_perm hi
      rw [hp] at hperm
      unfold World.named
      rw [show Holder.held (.sweepFound env n i p) = [] from rfl, List.append_nil]
      exact hperm.symm.trans (List.perm_append_singleton p _).symm
    · exact List.Perm.refl _
  | sweepUnlinked env n i p =>
    cases hst : (sweepRemove env n p c).1.failed with
    | false =>
      refine hsame ?_ hst
      simp only [World.nextList, World.advance, hst]
      rfl
    | true =>
      have hfails : World.failsRemoval ⟨c, .sweepUnlinked env n i p, hook, adds⟩ .advance = true :=
        hst
      refine hkeep [p] ?_ (by rw [hfails]; rfl)
      simp only [World.nextList, World.advance, hst]
      show List.Perm (_ ++ [p]) (_ ++ [] ++ [p])
      rw [List.append_nil]
  | sweepRemoved env n i p => exact absurd ⟨p, env, n, i, rfl⟩ hfrees
  | eosHook i =>
    refine hsame ?_ rfl
    simp only [World.nextList, World.advance]
    split <;> rfl

/-- The other steps leave them, but for a message. -/
theorem World.named_step (h : WorldOk w) {a : Action} (ha : ∀ env msg, a ≠ .receive env msg)
    (hfrees : ¬ ∃ q, w.frees q a) :
    ∃ ls, w.named.Perm ((w.step a).named ++ ls) ∧ ls.length = (w.failsRemoval a).toNat := by
  have hsame : a ≠ .advance → (w.step a).holder.held = w.holder.held →
      ∃ ls, w.named.Perm ((w.step a).named ++ ls) ∧ ls.length = (w.failsRemoval a).toNat := by
    intro hne hheld
    have hf : w.failsRemoval a = false := by
      unfold World.failsRemoval
      split
      · exact absurd rfl hne
      · rfl
    refine ⟨[], ?_, by rw [hf]; rfl⟩
    unfold World.named
    rw [World.list_step h hne, hheld, List.append_nil]
  have hidle : ∀ w' : World, w'.holder.held = [] → (w.whenIdle w').holder.held = w.holder.held := by
    intro w' hw
    refine World.whenIdle_elim (P := fun x => x.holder.held = w.holder.held) rfl fun hh => ?_
    rw [hw, hh]
    rfl
  cases a with
  | receive env msg => exact absurd rfl (ha env msg)
  | advance => exact World.named_advance h hfrees
  | poll env => exact hsame nofun (hidle _ rfl)
  | mediaEos => exact hsame nofun (hidle _ rfl)
  | addStats =>
    refine hsame nofun ?_
    show w.addStats.holder.held = _
    unfold World.addStats
    split <;> rfl
  | mediaFrame frame =>
    refine hsame nofun ?_
    show (if w.readLockFree then _ else w).holder.held = _
    split <;> rfl
  | advanceHook =>
    refine hsame nofun ?_
    show w.advanceHook.holder.held = _
    unfold World.advanceHook
    split
    · rfl
    · split <;> rfl
  | connectionStateChange p st =>
    refine hsame nofun ?_
    show (if w.app.sessions.live p then _ else w).holder.held = _
    split <;> rfl
  | mediaSenderDone => exact hsame nofun rfl
  | restartRequested => exact hsame nofun rfl
  | pregenerateCert env =>
    refine hsame nofun (World.whenIdle_elim (P := fun x => x.holder.held = w.holder.held) rfl ?_)
    exact fun _ => rfl

end

/-- The named sessions and the lost ones have a peer connection each, the other live ones none. -/
structure PeerRunOk (s : PeerRun) (failed : Nat) : Prop where
  world : WorldOk s.world
  owned : ∃ lost bare, s.heap.PeersOwned (s.world.named ++ lost ++ bare) ∧ lost.length = failed ∧
    (∀ p ∈ s.world.named ++ lost, (s.pPeerConnection p).isSome) ∧
    ∀ p ∈ bare, s.pPeerConnection p = none

namespace PeerRunOk

variable {s : PeerRun} {n : Nat}

theorem start (latched : Bool) : PeerRunOk (PeerRun.start latched) 0 where
  world := WorldOk.start latched
  owned := ⟨[], [], ⟨Arena.Owned.empty,
    ⟨Arena.Owned.empty, nofun, fun _ h => absurd h (Nat.not_lt_zero _)⟩⟩, rfl, nofun, nofun⟩

/-- A step that makes no calls on peer connections. -/
theorem keep (h : PeerRunOk s n) {a : Action} (hp : s.peers a = s.heap)
    (hk : SessionsKept s.world.app (s.world.step a).app) {m : Nat}
    (hn : ∃ ls, s.world.named.Perm ((s.world.step a).named ++ ls) ∧ ls.length = m) :
    PeerRunOk (s.step a) (n + m) := by
  obtain ⟨lost, bare, hps, hlen, hsome, hnone⟩ := h.owned
  obtain ⟨ls, hperm, hm⟩ := hn
  have hheap : (s.step a).heap = s.heap.setApp (s.world.step a).app := by
    unfold PeerRun.step PeerRun.heap
    rw [hp]
    rfl
  have hptr : (s.step a).pPeerConnection = s.pPeerConnection :=
    congrArg PeerHeap.pPeerConnection hheap
  have hall : (s.world.named ++ lost).Perm ((s.step a).world.named ++ (lost ++ ls)) := by
    refine (hperm.append_right lost).trans ?_
    rw [List.append_assoc]
    exact List.perm_append_comm.append_left _
  refine ⟨h.world.step a, lost ++ ls, bare, ?_, ?_, ?_, ?_⟩
  · have hown := hps.perm (hall.append_right bare)
    rw [hheap]
    exact ⟨hk.owned hown.sessions, hown.connections⟩
  · rw [List.length_append, hlen, hm]
  · intro p hp
    rw [hptr]
    exact hsome p (hall.mem_iff.mpr hp)
  · rw [hptr]
    exact hnone

/-- A step that is a call of one of the two functions. -/
theorem heap_step {a : Action} (happ : (s.world.step a).app = (s.peers a).app) :
    (s.step a).heap = s.peers a := by
  show PeerHeap.mk (s.world.step a).app (s.peers a).rtcPeerConnections
    (s.peers a).pPeerConnection = s.peers a
  rw [happ]

/-- A message that creates a session, or fails to. -/
theorem offer (h : PeerRunOk s n) {env : Env} {msg : ReceivedSignalingMessage}
    (hidle : s.world.holder = .idle)
    (hoffer : msg.signalingMessage.messageType = .offer ∧ env.ok .appHashTableContains = true ∧
      s.world.app.pRemoteRtcPeerConnections
        (clientIdHashKey msg.signalingMessage.peerClientId) = none ∧
      s.world.app.streamingSessionList.length ≠ appMaxConcurrentStreamingSession) :
    PeerRunOk (s.step (.receive env msg)) n := by
  obtain ⟨lost, bare, hps, hlen, hsome, hnone⟩ := h.owned
  have hpeers : s.peers (.receive env msg) =
      (s.heap.createStreamingSession env msg.signalingMessage.peerClientId).2.2 := by
    unfold PeerRun.peers
    rw [hidle]
    exact if_pos hoffer
  have hstep : s.world.step (.receive env msg) = s.world.receive env msg := by
    unfold World.step World.whenIdle
    rw [hidle]
  have happ := @PeerHeap.app_createStreamingSession s.heap env msg.signalingMessage.peerClientId
  have hworld : (s.world.step (.receive env msg)).app = (s.peers (.receive env msg)).app ∧
      (s.world.step (.receive env msg)).holder.held =
        (s.heap.createStreamingSession env msg.signalingMessage.peerClientId).2.1.toList := by
    rw [hstep, hpeers, happ.2.2, happ.2.1]
    unfold World.receive
    simp only [if_pos hoffer]
    split
    · next heq => exact ⟨(congrArg (fun r => r.2.2) heq).symm, by
        rw [show s.heap.app = s.world.app from rfl, heq, hidle]; rfl⟩
    · next heq => exact ⟨(congrArg (fun r => r.2.2) heq).symm, by
        rw [show s.heap.app = s.world.app from rfl, heq]; rfl⟩
  have hheap := heap_step hworld.1
  have hnamed : (s.step (.receive env msg)).world.named = s.world.named ++
      (s.heap.createStreamingSession env msg.signalingMessage.peerClientId).2.1.toList := by
    have hlist := World.list_receive h.world env msg
    rw [← hstep] at hlist
    show (s.world.step _).app.streamingSessionList ++ (s.world.step _).holder.held =
      s.world.app.streamingSessionList ++ s.world.holder.held ++ _
    rw [hlist, hworld.2, hidle]
    exact congrArg (· ++ _) (List.append_nil _).symm
  have hothers : ∀ q ∈ s.world.named ++ lost ++ bare,
      (s.step (.receive env msg)).pPeerConnection q = s.pPeerConnection q := by
    intro q hq
    have hne : q ≠ s.heap.app.sessions.next := fun e => hps.sessions.next_not_mem (e ▸ hq)
    show (s.step (.receive env msg)).heap.pPeerConnection q = _
    rw [hheap, hpeers]
    exact PeerHeap.pPeerConnection_createStreamingSession hne
  have hsome' : ∀ q ∈ s.world.named ++ lost,
      ((s.step (.receive env msg)).pPeerConnection q).isSome := fun q hq => by
    rw [hothers q (List.mem_append_left _ hq)]
    exact hsome q hq
  have hnone' : ∀ q ∈ bare, (s.step (.receive env msg)).pPeerConnection q = none := fun q hq => by
    rw [hothers q (List.mem_append_right _ hq)]
    exact hnone q hq
  have hcreate := hps.create env msg.signalingMessage.peerClientId
  have hu : (s.heap.createStreamingSession env msg.signalingMessage.peerClientId).2.2 =
      (s.step (.receive env msg)).heap := hpeers.symm.trans hheap.symm
  simp only [hu] at hcreate
  generalize s.heap.app.sessions.next = p at hcreate
  have hworldOk : WorldOk (s.step (.receive env msg)).world :=
    h.world.step (.receive env msg)
  rcases hcreate with ⟨ho, hown, hp⟩ | ⟨ho, hown | ⟨hown, hp⟩⟩
  · have hperm : (p :: (s.world.named ++ lost)).Perm
        ((s.step (.receive env msg)).world.named ++ lost) := by
      rw [hnamed, ho]
      exact ((List.perm_append_singleton p _).append_right lost).symm
    refine ⟨hworldOk, lost, bare, hown.perm (hperm.append_right bare), hlen, fun q hq => ?_, hnone'⟩
    rcases List.mem_cons.mp (hperm.mem_iff.mpr hq) with rfl | hq
    · exact hp
    · exact hsome' q hq
  · rw [ho, Option.toList_none, List.append_nil] at hnamed
    exact ⟨hworldOk, lost, bare, hnamed.symm ▸ hown, hlen, hnamed.symm ▸ hsome', hnone'⟩
  · rw [ho, Option.toList_none, List.append_nil] at hnamed
    have hown' : (s.step (.receive env msg)).heap.PeersOwned
        ((s.step (.receive env msg)).world.named ++ lost ++ p :: bare) := by
      rw [hnamed]
      exact hown.perm List.perm_middle.symm
    refine ⟨hworldOk, lost, p :: bare, hown', hlen, hnamed.symm ▸ hsome', fun q hq => ?_⟩
    rcases List.mem_cons.mp hq with rfl | hq
    · exact hp
    · exact hnone' q hq

theorem receive (h : PeerRunOk s n) (env : Env) (msg : ReceivedSignalingMessage)
    (hidle : s.world.holder = .idle) : PeerRunOk (s.step (.receive env msg)) n := by
  by_cases hoffer : msg.signalingMessage.messageType = .offer ∧
      env.ok .appHashTableContains = true ∧
      s.world.app.pRemoteRtcPeerConnections
        (clientIdHashKey msg.signalingMessage.peerClientId) = none ∧
      s.world.app.streamingSessionList.length ≠ appMaxConcurrentStreamingSession
  · exact h.offer hidle hoffer
  have hpeers : s.peers (.receive env msg) = s.heap := by
    unfold PeerRun.peers
    rw [hidle]
    exact if_neg hoffer
  have hstep : s.world.step (.receive env msg) =
      { s.world with app := (onSignalingMessageReceived env msg s.world.app).2 } := by
    unfold World.step World.whenIdle
    rw [hidle]
    exact if_neg hoffer
  obtain ⟨-, hlist⟩ := unlisted_onSignalingMessageReceived env msg h.world.sessions hoffer
  have hk : SessionsKept s.world.app (s.world.step (.receive env msg)).app := by
    rw [hstep]
    exact sessionsKept_message env msg h.world.sessions hoffer
  refine h.keep hpeers hk ⟨[], ?_, rfl⟩
  rw [hstep, List.append_nil]
  unfold World.named
  rw [hlist]

/-- The sweep frees the session that it holds. -/
theorem free (h : PeerRunOk s n) {env : Env} {k : Nat} {i : UInt32} {p : PStreamingSession}
    (hholder : s.world.holder = .sweepRemoved env k i p) : PeerRunOk (s.step .advance) n := by
  obtain ⟨lost, bare, hps, hlen, hsome, hnone⟩ := h.owned
  have hun : Unnamed s.world.app p := by
    have hok := h.world.holder
    rwa [hholder] at hok
  have hpeers : s.peers .advance = (s.heap.freeStreamingSession p).2 := by
    unfold PeerRun.peers
    rw [hholder]
  have happ : (s.world.step .advance).app = (s.peers .advance).app := by
    rw [hpeers, PeerHeap.app_freeStreamingSession.2]
    exact World.advance_sweepRemoved hholder
  have hheap := heap_step happ
  have hnamed : s.world.named = s.world.app.streamingSessionList ++ [p] := by
    unfold World.named
    rw [hholder]
    rfl
  have hnext : (s.step .advance).world.named = s.world.app.streamingSessionList := by
    have hlist := World.list_advance h.world
    have hheld : (s.world.step .advance).holder.held = [] := by
      show s.world.advance.holder.held = []
      unfold World.advance
      rw [hholder]
      rfl
    unfold World.nextList at hlist
    rw [hholder] at hlist
    show s.world.advance.app.streamingSessionList ++ (s.world.step .advance).holder.held = _
    rw [hlist, hheld, List.append_nil]
  have hperm : (s.world.named ++ lost ++ bare).Perm
      (p :: (s.world.app.streamingSessionList ++ lost ++ bare)) := by
    rw [hnamed]
    exact ((List.perm_append_singleton p _).append_right lost).append_right bare
  have hown := hps.perm hperm
  have hfree : (s.step .advance).heap.PeersOwned
      (s.world.app.streamingSessionList ++ lost ++ bare) := by
    rw [hheap, hpeers]
    exact hown.free hun.app
  have hothers : ∀ q ∈ s.world.app.streamingSessionList ++ lost ++ bare,
      (s.step .advance).pPeerConnection q = s.pPeerConnection q := by
    intro q hq
    have hne : q ≠ p := fun e => (List.nodup_cons.mp hown.sessions.nodup).1 (e ▸ hq)
    show (s.step .advance).heap.pPeerConnection q = _
    rw [hheap, hpeers]
    exact PeerHeap.pPeerConnection_freeStreamingSession hne
  refine ⟨h.world.step .advance, lost, bare, ?_, hlen, fun q hq => ?_, fun q hq => ?_⟩
  · rw [hnext]
    exact hfree
  · rw [hnext] at hq
    rw [hothers q (List.mem_append_left _ hq)]
    refine hsome q ?_
    rw [hnamed]
    rcases List.mem_append.mp hq with hq | hq
    · exact List.mem_append_left _ (List.mem_append_left _ hq)
    · exact List.mem_append_right _ hq
  · rw [hothers q (List.mem_append_right _ hq)]
    exact hnone q hq

theorem step (h : PeerRunOk s n) (a : Action) :
    PeerRunOk (s.step a) (n + (s.world.failsRemoval a).toNat) := by
  by_cases hfrees : ∃ q, s.world.frees q a
  · obtain ⟨p, hp⟩ := hfrees
    cases a with
    | advance =>
      obtain ⟨env, k, i, hholder⟩ := hp
      have hnot : s.world.failsRemoval .advance = false := by
        unfold World.failsRemoval
        rw [hholder]
      rw [hnot]
      exact h.free hholder
    | _ => exact hp.elim
  · have hkept : (∀ env msg, a ≠ .receive env msg) → s.peers a = s.heap →
        PeerRunOk (s.step a) (n + (s.world.failsRemoval a).toNat) := fun ha hp =>
      h.keep hp ((World.sessions_step h.world ha).resolve_right hfrees)
        (World.named_step h.world ha hfrees)
    cases a with
    | receive env msg =>
      show PeerRunOk (s.step (.receive env msg)) n
      by_cases hidle : s.world.holder = .idle
      · exact h.receive env msg hidle
      · have hstep : s.world.step (.receive env msg) = s.world := by
          show s.world.whenIdle _ = s.world
          unfold World.whenIdle
          split
          · next hh => exact absurd hh hidle
          · rfl
        have hpeers : s.peers (.receive env msg) = s.heap := by
          unfold PeerRun.peers
          split
          · next hh => exact absurd hh hidle
          · next heq _ => cases heq
          · rfl
        refine h.keep hpeers (by rw [hstep]; exact SessionsKept.of_same rfl rfl) ⟨[], ?_, rfl⟩
        rw [hstep, List.append_nil]
    | advance =>
      refine hkept nofun ?_
      unfold PeerRun.peers
      split
      · next heq _ => cases heq
      · next hh => exact absurd ⟨_, _, _, _, hh⟩ hfrees
      · rfl
    | poll | mediaEos | addStats | mediaFrame | advanceHook | connectionStateChange
    | mediaSenderDone | restartRequested | pregenerateCert => exact hkept nofun rfl

theorem exec (h : PeerRunOk s n) (as : List Action) :
    PeerRunOk (Run.exec PeerRun.step s as) (n + s.world.failedRemovals as) := by
  induction as generalizing s n with
  | nil => exact h
  | cons a as ih =>
    have hstep := ih (h.step a)
    rw [Nat.add_assoc] at hstep
    exact hstep

end PeerRunOk

/-! ## Runs -/

/-- In every state of a run each peer connection that was made is in exactly one live session and
open, or in none, and then it was closed once and freed once. -/
theorem peer_connections_owned (latched : Bool) (as : List Action) :
    let s := Run.exec PeerRun.step (PeerRun.start latched) as
    s.rtcPeerConnections.misused = false ∧
      ∀ k < s.rtcPeerConnections.next,
        ((∃! p, s.world.app.sessions.live p = true ∧ s.pPeerConnection p = some k) ∧
            s.rtcPeerConnections.read k = 0 ∧ s.rtcPeerConnections.frees k = 0) ∨
          ((∀ p, s.world.app.sessions.live p = true → s.pPeerConnection p ≠ some k) ∧
            s.rtcPeerConnections.read k = 1 ∧ s.rtcPeerConnections.frees k = 1) := by
  intro s
  obtain ⟨lost, bare, hps, -⟩ := ((PeerRunOk.start latched).exec as).owned
  obtain ⟨hsessions, hown, hopen, hclosed⟩ := hps
  refine ⟨hown.unmisused, fun k hk => ?_⟩
  have hlive : ∀ p, s.world.app.sessions.live p = true ↔ p ∈ s.world.named ++ lost ++ bare :=
    hsessions.live_iff
  by_cases hmem : k ∈ (s.world.named ++ lost ++ bare).filterMap s.pPeerConnection
  · obtain ⟨p, hp, hpk⟩ := List.mem_filterMap.mp hmem
    refine Or.inl ⟨⟨p, ⟨(hlive p).mpr hp, hpk⟩, ?_⟩, hopen k (hown.live hmem),
      hown.frees_eq_zero hmem⟩
    rintro q ⟨hq, hqk⟩
    exact hown.holder_unique ((hlive q).mp hq) hp hqk hpk
  · have hnone : ∀ p, s.world.app.sessions.live p = true → s.pPeerConnection p ≠ some k :=
      fun p hp e => hmem (List.mem_filterMap.mpr ⟨p, (hlive p).mp hp, e⟩)
    have hdead : s.rtcPeerConnections.live k = false :=
      Bool.eq_false_iff.mpr fun hl => hmem ((hown.live_iff k).mp hl)
    exact Or.inr ⟨hnone, hclosed k hk hdead, hown.frees_of_not_mem hk hmem⟩

/-- When `freeApp` is through with the list, the peer connections that are still open are as many
as the sessions that the sweep failed to remove, and the one of a handler that is not done; the
others were closed once and freed once. -/
theorem peer_connections_released (latched : Bool) (as : List Action) :
    let s := Run.exec PeerRun.step (PeerRun.start latched) as
    let a := s.freeSessions.rtcPeerConnections
    a.misused = false ∧
      (∀ k < a.next, (a.live k = true ∧ a.read k = 0 ∧ a.frees k = 0) ∨
        (a.live k = false ∧ a.read k = 1 ∧ a.frees k = 1)) ∧
      ((List.range a.next).filter a.live).length =
        (World.start latched).failedRemovals as + s.world.holder.held.length := by
  intro s a
  have h : PeerRunOk s _ := (PeerRunOk.start latched).exec as
  obtain ⟨lost, bare, hps, hlen, hsome, hnone⟩ := h.owned
  rw [World.named, List.append_assoc, List.append_assoc] at hps
  obtain ⟨hfreed, hsame⟩ := hps.freeAll fun p hp => h.world.sessions.app p hp
  obtain ⟨-, hown, hopen, hclosed⟩ := hfreed
  refine ⟨hown.unmisused, fun k hk => ?_, ?_⟩
  · cases hl : a.live k with
    | true => exact Or.inl ⟨rfl, hopen k hl, Arena.frees_of_live hl⟩
    | false =>
      have hnot : k ∉ _ := fun hm => Bool.false_ne_true (hl.symm.trans (hown.live hm))
      exact Or.inr ⟨rfl, hclosed k hk hl, hown.frees_of_not_mem hk hnot⟩
  · refine hown.length_live.trans ?_
    have hheld : (s.world.holder.held.filterMap s.heap.pPeerConnection).length =
        s.world.holder.held.length := List.filterMap_length_eq_length.mpr fun p hp =>
      hsome p (List.mem_append_left _ (List.mem_append_right _ hp))
    have hlost : (lost.filterMap s.heap.pPeerConnection).length = lost.length :=
      List.filterMap_length_eq_length.mpr fun p hp => hsome p (List.mem_append_right _ hp)
    have hbare : bare.filterMap s.heap.pPeerConnection = [] :=
      List.filterMap_eq_nil_iff.mpr hnone
    have hcount : lost.length = (World.start latched).failedRemovals as :=
      hlen.trans (Nat.zero_add _)
    rw [List.filterMap_congr hsame, List.filterMap_append, List.filterMap_append, hbare,
      List.append_nil, List.length_append]
    rw [hheld, hlost, hcount, Nat.add_comm]

end WebrtcApp
