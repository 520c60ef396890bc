import WebrtcApp.App.Poll
import WebrtcApp.App.Candidates

/-!
# The session tables over runs

`SessionsOk` is the invariant of the session heap, the session list and the hash table that
holds whatever fails: it is kept by every function that moves a session in or out, and so by
every step (`SessionsOk.step`).

The sweep is described without its index arithmetic.  `Unlinked p c c'` is one round, from
the test of the flag to `freeStreamingSession`, and `Swept c c'` any number of them; a sweep
ends, or waits for the read lock, or drops a session at a failed hash operation
(`sweepLoop_cases`).  When it ends no session it leaves in the list is terminated
(`sweep_done`), and it ends when the hash operations succeed (`sweepLoop_success`).
-/

namespace WebrtcApp

/-! ## One round of the sweep -/

/-- An index of the list names an element of it. -/
theorem getD_mem {list : List PStreamingSession} {i : Nat} (h : i < list.length) :
    list.getD i 0 ∈ list := by
  rw [List.getD_eq_getElem _ _ h]
  exact List.getElem_mem h

/-- The swap takes the element at `i` out, and nothing else. -/
theorem swapWithLast_perm {i : Nat} {list : List PStreamingSession} (h : i < list.length) :
    (list.getD i 0 :: swapWithLast i list).Perm list := by
  obtain ⟨init, last, rfl⟩ : ∃ init last, list = init ++ [last] :=
    ⟨list.dropLast, list.getLast (List.ne_nil_of_length_pos (by omega)),
      (List.dropLast_append_getLast _).symm⟩
  have hcount : (init ++ [last]).length - 1 = init.length := by simp
  have hlast : (init ++ [last]).getD init.length 0 = last := by simp
  have hswap : swapWithLast i (init ++ [last]) = ((init ++ [last]).set i last).take init.length := by
    unfold swapWithLast
    simp only [hcount, hlast]
    split
    · rfl
    · have hnil : init.length = 0 := by omega
      rw [hnil, List.take_zero, List.take_zero]
  rw [hswap]
  rw [List.length_append, List.length_singleton] at h
  rcases Nat.lt_or_ge i init.length with hi | hi
  · rw [List.set_append_left _ _ hi, List.take_left' (List.length_set ..),
      List.getD_append _ _ _ _ hi, List.set_eq_take_append_cons_drop, if_pos hi]
    have hinit : init = init.take i ++ init.getD i 0 :: init.drop (i + 1) := by
      rw [List.getD_eq_getElem _ _ hi, List.getElem_cons_drop, List.take_append_drop]
    generalize init.getD i 0 = x at *
    conv_rhs => rw [hinit]
    rw [List.append_assoc, List.cons_append]
    refine List.Perm.trans (List.Perm.cons x ?_) List.perm_middle.symm
    exact (List.perm_append_singleton last _).symm.append_left _
  · obtain rfl : i = init.length := by omega
    rw [hlast, List.set_append_right _ _ (Nat.le_refl _), Nat.sub_self, List.set_cons_zero,
      List.take_left' rfl]
    exact (List.perm_append_singleton last init).symm

/-- `c'` is `c` after the sweep took the terminated session `p` out and freed it. -/
structure Unlinked (p : PStreamingSession) (c c' : AppConfiguration) : Prop where
  terminated : (c.session p).terminateFlag = true
  list : (p :: c'.streamingSessionList).Perm c.streamingSessionList
  table : c'.pRemoteRtcPeerConnections =
    Function.update c.pRemoteRtcPeerConnections (clientIdHashKey (c.session p).peerId) none
  pending : c'.pRemotePeerPendingSignalingMessages = c.pRemotePeerPendingSignalingMessages
  submissions : c'.peers.submissions = c.peers.submissions
  readLockHeld : c'.readLockHeld = c.readLockHeld
  blocked : c'.blocked = c.blocked
  owned : ∀ {ps}, c.sessions.Owned (p :: ps) → c'.sessions.Owned ps
  next : c'.sessions.next = c.sessions.next
  peerId : ∀ q, (c'.session q).peerId = (c.session q).peerId
  app : ∀ q, (c'.session q).pAppConfiguration = (c.session q).pAppConfiguration
  session : ∀ q, p ≠ q → c'.session q = c.session q

/-- `c'` is `c` after a hash operation of the sweep failed on `p`: out of the list, not freed, and
the lock left locked. -/
structure Dropped (p : PStreamingSession) (c c' : AppConfiguration) : Prop where
  list : (p :: c'.streamingSessionList).Perm c.streamingSessionList
  sessions : c'.sessions = c.sessions
  table : c'.pRemoteRtcPeerConnections = c.pRemoteRtcPeerConnections
  pending : c'.pRemotePeerPendingSignalingMessages = c.pRemotePeerPendingSignalingMessages
  submissions : c'.peers.submissions = c.peers.submissions
  readLockHeld : c'.readLockHeld = true
  blocked : c'.blocked = c.blocked

section
variable {c : AppConfiguration} {p : PStreamingSession} {ps : List PStreamingSession}

theorem Unlinked.of_free {c1 : AppConfiguration} (hflag : (c.session p).terminateFlag = true)
    (hlive : c.sessions.live p = true) (happ : (c.session p).pAppConfiguration = true)
    (hlist : (p :: c1.streamingSessionList).Perm c.streamingSessionList)
    (hs : c1.sessions = c.sessions)
    (ht : c1.tables = { c.tables with
      streamingSessionList := c1.streamingSessionList
      pRemoteRtcPeerConnections := Function.update c.pRemoteRtcPeerConnections
        (clientIdHashKey (c.session p).peerId) none }) :
    Unlinked p c (freeStreamingSession p c1).2 := by
  have hread : ∀ q, c1.session q = c.session q := fun q => congrArg (Arena.read · q) hs
  have hid : ∀ q, _ := fun q => @identity_freeStreamingSession c1 p q (hs ▸ hlive)
  have htab := (@tables_freeStreamingSession c1 p).trans ht
  have hl : (freeStreamingSession p c1).2.streamingSessionList = c1.streamingSessionList :=
    congrArg Tables.streamingSessionList htab
  refine ⟨hflag, hl.symm ▸ hlist, congrArg Tables.pRemoteRtcPeerConnections htab,
    congrArg Tables.pRemotePeerPendingSignalingMessages htab, congrArg Tables.submissions htab,
    congrArg Tables.readLockHeld htab, congrArg Tables.blocked htab, fun ho => ?_, ?_,
    fun q => ?_, fun q => ?_, fun q hq => ?_⟩
  · rcases freeStreamingSession_owned (hs.symm ▸ ho) with ⟨-, h⟩ | ⟨h, -⟩
    · exact h
    · rw [hread, happ] at h
      exact absurd h.symm Bool.false_ne_true
  · rw [next_freeStreamingSession, hs]
  · rw [(hid q).1, hread]
  · rw [(hid q).2, hread]
  · rw [session_freeStreamingSession hq, hread]

/-- The removal of a key, or a failure that leaves the lock locked. -/
theorem sweepRemove_cases (env : Env) (n : Nat) :
    let r := sweepRemove env n p c
    r.2.sessions = c.sessions ∧
      ((r.1 = .success ∧ r.2.tables = { c.tables with
          pRemoteRtcPeerConnections := Function.update c.pRemoteRtcPeerConnections
            (clientIdHashKey (c.session p).peerId) none }) ∨
        (r.1 ≠ .success ∧ r.2.tables = { c.tables with readLockHeld := true })) := by
  unfold sweepRemove
  simp only
  split
  · next hc =>
    refine ⟨rfl, Or.inr ⟨fun e => ?_, rfl⟩⟩
    rw [Env.ok_eq_true.mpr e] at hc
    exact absurd hc Bool.false_ne_true
  split
  · next hc =>
    refine ⟨rfl, Or.inr ⟨fun e => ?_, rfl⟩⟩
    rw [Env.ok_eq_true.mpr e, Bool.not_true, Bool.and_false] at hc
    exact absurd hc Bool.false_ne_true
  generalize clientIdHashKey (c.session p).peerId = key
  let c1 := if (c.pRemoteRtcPeerConnections key).isSome then c.removeEntry key else c
  have h1 : c1.sessions = c.sessions ∧ c1.tables = { c.tables with
      pRemoteRtcPeerConnections := Function.update c.pRemoteRtcPeerConnections key none } := by
    simp only [c1]
    split
    · exact ⟨rfl, rfl⟩
    · next h =>
      -- without an entry under the key the table is as before
      rw [Bool.not_eq_true, Option.isSome_eq_false_iff, Option.isNone_iff_eq_none] at h
      rw [Function.update_eq_self_iff.mpr h.symm]
      exact ⟨rfl, rfl⟩
  have h2 : ∀ c2 : AppConfiguration, c2 = c1 ∨ c2 = shutdownMediaSource c1 →
      c2.sessions = c1.sessions ∧ c2.tables = c1.tables := by
    rintro c2 (rfl | rfl) <;> exact ⟨rfl, rfl⟩
  obtain ⟨hs, ht⟩ := h2 (if c1.streamingSessionList.length = 0 then shutdownMediaSource c1 else c1)
    (by split <;> simp)
  exact ⟨hs.trans h1.1, Or.inl ⟨rfl, ht.trans h1.2⟩⟩

/-- A round that succeeds is followed by `freeStreamingSession`; one that fails drops the session. -/
theorem sweepUnlink_cases (env : Env) (n : Nat) {i : Nat} (hi : i < c.streamingSessionList.length)
    (hp : c.streamingSessionList.getD i 0 = p) (hlive : c.sessions.live p = true)
    (happ : (c.session p).pAppConfiguration = true) (hflag : (c.session p).terminateFlag = true) :
    let r := sweepUnlink env n i p c
    (r.1 = .success ∧ r.2.streamingSessionList = swapWithLast i c.streamingSessionList ∧
        Unlinked p c (freeStreamingSession p r.2).2) ∨
      (r.1 ≠ .success ∧ Dropped p c r.2) := by
  have hperm : (p :: swapWithLast i c.streamingSessionList).Perm c.streamingSessionList :=
    hp ▸ swapWithLast_perm hi
  intro r
  obtain ⟨hs, hr⟩ : r.2.sessions = c.sessions ∧ _ := @sweepRemove_cases
    { c with streamingSessionList := swapWithLast i c.streamingSessionList } p env n
  have hl : r.2.streamingSessionList = swapWithLast i c.streamingSessionList := by
    rcases hr with ⟨-, ht⟩ | ⟨-, ht⟩ <;> exact congrArg Tables.streamingSessionList ht
  rw [← hl] at hperm
  rcases hr with ⟨hst, ht⟩ | ⟨hst, ht⟩
  · refine Or.inl ⟨hst, hl, Unlinked.of_free hflag hlive happ hperm hs ?_⟩
    rw [hl]
    exact ht
  · exact Or.inr ⟨hst, hperm, hs, congrArg Tables.pRemoteRtcPeerConnections ht,
      congrArg Tables.pRemotePeerPendingSignalingMessages ht, congrArg Tables.submissions ht,
      congrArg Tables.readLockHeld ht, congrArg Tables.blocked ht⟩

end

/-! ## The invariant of the session tables -/

/-- The listed sessions are distinct, alive, at most ten, and will be freed; each value of the
hash table is alive and stands under the key of its peer id.  `leaked` are the live sessions
that no list names. -/
structure SessionsOk (c : AppConfiguration) : Prop where
  owned : ∃ leaked, c.sessions.Owned (c.streamingSessionList ++ leaked) ∧
    ∀ k p, c.pRemoteRtcPeerConnections k = some p → p ∈ c.streamingSessionList ++ leaked
  count : c.streamingSessionList.length ≤ appMaxConcurrentStreamingSession
  app : ∀ p ∈ c.streamingSessionList, (c.session p).pAppConfiguration = true
  key : ∀ k p, c.pRemoteRtcPeerConnections k = some p → clientIdHashKey (c.session p).peerId = k

namespace SessionsOk

variable {c c' : AppConfiguration} {p : PStreamingSession}

theorem initApp (latched : Bool) : SessionsOk (AppConfiguration.initApp latched) :=
  ⟨⟨[], Arena.Owned.empty, fun _ _ h => absurd h (by simp [AppConfiguration.initApp])⟩,
    Nat.zero_le _, fun _ h => absurd h List.not_mem_nil,
    fun _ _ h => absurd h (by simp [AppConfiguration.initApp])⟩

theorem listed_live (h : SessionsOk c) (hp : p ∈ c.streamingSessionList) :
    c.sessions.live p = true := by
  obtain ⟨leaked, ho, -⟩ := h.owned
  exact ho.live (List.mem_append_left _ hp)

theorem getD_live (h : SessionsOk c) {i : Nat} (hi : i < c.streamingSessionList.length) :
    c.streamingSessionList.getD i 0 ∈ c.streamingSessionList ∧
      c.sessions.live (c.streamingSessionList.getD i 0) = true :=
  ⟨getD_mem hi, h.listed_live (getD_mem hi)⟩

/-- The list is short enough for a 32-bit index. -/
theorem toNat_succ (h : SessionsOk c) {i : UInt32} (hi : i.toNat < c.streamingSessionList.length) :
    (i + 1).toNat = i.toNat + 1 := by
  have hi10 : i.toNat < 10 := Nat.lt_of_lt_of_le hi h.count
  rw [UInt32.toNat_add, show (1 : UInt32).toNat = 1 from rfl, Nat.mod_eq_of_lt (by omega)]

theorem entry_live (h : SessionsOk c) {k : UInt64} (hp : c.pRemoteRtcPeerConnections k = some p) :
    c.sessions.live p = true := by
  obtain ⟨leaked, ho, ht⟩ := h.owned
  exact ho.live (ht k p hp)

theorem nodup (h : SessionsOk c) : c.streamingSessionList.Nodup := by
  obtain ⟨leaked, ho, -⟩ := h.owned
  exact (List.nodup_append.mp ho.nodup).1

/-- The invariant is about the sessions and the two tables only. -/
theorem congr (h : SessionsOk c) (hs : c'.sessions = c.sessions)
    (hl : c'.streamingSessionList = c.streamingSessionList)
    (ht : c'.pRemoteRtcPeerConnections = c.pRemoteRtcPeerConnections) : SessionsOk c' := by
  have hread : ∀ q, c'.session q = c.session q := fun q => congrArg (Arena.read · q) hs
  refine ⟨?_, hl.symm ▸ h.count, fun p hp => ?_, fun k p hp => ?_⟩
  · rw [hs, hl, ht]
    exact h.owned
  · rw [hread]
    exact h.app p (hl ▸ hp)
  · rw [hread]
    exact h.key k p (ht ▸ hp)

theorem of_kept {P : PStreamingSession → Prop} (h : SessionsOk c) (hk : Kept P c c') :
    SessionsOk c' := by
  have hl : c'.streamingSessionList = c.streamingSessionList :=
    hk.list
  have ht : c'.pRemoteRtcPeerConnections = c.pRemoteRtcPeerConnections :=
    hk.table
  obtain ⟨leaked, ho, hv⟩ := h.owned
  refine ⟨⟨leaked, hl.symm ▸ hk.owned ho, fun k p hp => hl.symm ▸ hv k p (ht ▸ hp)⟩,
    hl.symm ▸ h.count, fun p hp => ?_, fun k p hp => ?_⟩
  · rw [hk.app]
    exact h.app p (hl ▸ hp)
  · rw [hk.peerId]
    exact h.key k p (ht ▸ hp)

theorem of_unlisted (h : SessionsOk c) (hu : OfferUnlisted c c') : SessionsOk c' := by
  have hl : c'.streamingSessionList = c.streamingSessionList :=
    hu.list
  have ht : c'.pRemoteRtcPeerConnections = c.pRemoteRtcPeerConnections :=
    hu.table
  obtain ⟨leaked, ho, hv⟩ := h.owned
  have hread : ∀ q ∈ c.streamingSessionList ++ leaked, c'.session q = c.session q :=
    fun q hq => hu.session q (ho.lt_next hq)
  refine ⟨?_, hl.symm ▸ h.count, fun p hp => ?_, fun k p hp => ?_⟩
  · rw [hl, ht]
    rcases hu.owned ho with ho' | ho'
    · exact ⟨leaked, ho', hv⟩
    · refine ⟨c.sessions.next :: leaked, ho'.perm List.perm_middle.symm, fun k p hp => ?_⟩
      exact List.perm_middle.mem_iff.mpr (List.mem_cons_of_mem _ (hv k p hp))
  · rw [hl] at hp
    rw [hread p (List.mem_append_left _ hp)]
    exact h.app p hp
  · rw [ht] at hp
    rw [hread p (hv k p hp)]
    exact h.key k p hp

theorem of_listed {env : Env} {id : ClientId} (h : SessionsOk c)
    (hfree : c.streamingSessionList.length ≠ appMaxConcurrentStreamingSession)
    (hl : OfferListed env id c p c') : SessionsOk c' := by
  have hlist : c'.streamingSessionList = c.streamingSessionList ++ [p] :=
    hl.list
  have ht : c'.pRemoteRtcPeerConnections = c.pRemoteRtcPeerConnections :=
    hl.table
  obtain ⟨leaked, ho, hv⟩ := h.owned
  refine ⟨⟨leaked, ?_, fun k q hq => ?_⟩, ?_, fun q hq => ?_, fun k q hq => ?_⟩
  · rw [hlist, List.append_assoc]
    exact (hl.owned ho).perm List.perm_middle.symm
  · rw [ht] at hq
    rw [hlist, List.append_assoc]
    exact List.perm_middle.mem_iff.mpr (List.mem_cons_of_mem _ (hv k q hq))
  · have := h.count
    rw [hlist, List.length_append, List.length_singleton]
    omega
  · rw [hlist] at hq
    rcases List.mem_append.mp hq with hq | hq
    · rw [hl.app q (ho.lt_next (List.mem_append_left _ hq))]
      exact h.app q hq
    · rw [List.mem_singleton.mp hq]
      exact hl.newApp
  · rw [ht] at hq
    rw [hl.peerId q (ho.lt_next (hv k q hq))]
    exact h.key k q hq

theorem setEntry (h : SessionsOk c) (hp : p ∈ c.streamingSessionList) :
    SessionsOk (c.setEntry (clientIdHashKey (c.session p).peerId) p) := by
  have hcases : ∀ k q, (c.setEntry (clientIdHashKey (c.session p).peerId) p).pRemoteRtcPeerConnections k
      = some q → (k = clientIdHashKey (c.session p).peerId ∧ q = p) ∨
        c.pRemoteRtcPeerConnections k = some q := by
    intro k q hq
    rw [table_setEntry] at hq
    split at hq
    · next hk => exact Or.inl ⟨hk, (Option.some.inj hq).symm⟩
    · exact Or.inr hq
  obtain ⟨leaked, ho, hv⟩ := h.owned
  refine ⟨⟨leaked, ho, fun k q hq => ?_⟩, h.count, h.app, fun k q hq => ?_⟩
  · rcases hcases k q hq with ⟨-, rfl⟩ | hq
    · exact List.mem_append_left _ hp
    · exact hv k q hq
  · rcases hcases k q hq with ⟨rfl, rfl⟩ | hq
    · rfl
    · exact h.key k q hq

theorem of_unlinked (h : SessionsOk c) (hu : Unlinked p c c') : SessionsOk c' := by
  obtain ⟨leaked, ho, hv⟩ := h.owned
  have hperm : (c.streamingSessionList ++ leaked).Perm
      (p :: (c'.streamingSessionList ++ leaked)) := (hu.list.append_right leaked).symm
  have htable : ∀ k q, c'.pRemoteRtcPeerConnections k = some q →
      c.pRemoteRtcPeerConnections k = some q ∧ q ≠ p := by
    intro k q hq
    rw [hu.table] at hq
    by_cases hk : k = clientIdHashKey (c.session p).peerId
    · rw [hk, Function.update_self] at hq
      cases hq
    · rw [Function.update_of_ne hk] at hq
      exact ⟨hq, fun e => hk (e ▸ (h.key k q hq).symm)⟩
  refine ⟨⟨leaked, hu.owned (ho.perm hperm), fun k q hq => ?_⟩, ?_, fun q hq => ?_, fun k q hq => ?_⟩
  · obtain ⟨hq, hne⟩ := htable k q hq
    exact (List.mem_cons.mp (hperm.mem_iff.mp (hv k q hq))).resolve_left hne
  · have hlen := hu.list.length_eq
    have := h.count
    rw [List.length_cons] at hlen
    omega
  · rw [hu.app]
    exact h.app q (hu.list.mem_iff.mp (List.mem_cons_of_mem _ hq))
  · rw [hu.peerId]
    exact h.key k q (htable k q hq).1

/-- A session that leaves the list, and no more than that. -/
theorem unlist (h : SessionsOk c) (hl : (p :: c'.streamingSessionList).Perm c.streamingSessionList)
    (hs : c'.sessions = c.sessions)
    (ht : c'.pRemoteRtcPeerConnections = c.pRemoteRtcPeerConnections) : SessionsOk c' := by
  have hread : ∀ q, c'.session q = c.session q := fun q => congrArg (Arena.read · q) hs
  obtain ⟨leaked, ho, hv⟩ := h.owned
  have hperm : (c.streamingSessionList ++ leaked).Perm
      (c'.streamingSessionList ++ p :: leaked) :=
    (hl.append_right leaked).symm.trans List.perm_middle.symm
  refine ⟨⟨p :: leaked, ?_, fun k q hq => ?_⟩, ?_, fun q hq => ?_, fun k q hq => ?_⟩
  · rw [hs]
    exact ho.perm hperm
  · rw [ht] at hq
    exact hperm.mem_iff.mp (hv k q hq)
  · have hlen := hl.length_eq
    have := h.count
    rw [List.length_cons] at hlen
    omega
  · rw [hread]
    exact h.app q (hl.mem_iff.mp (List.mem_cons_of_mem _ hq))
  · rw [hread]
    exact h.key k q (ht ▸ hq)

theorem of_dropped (h : SessionsOk c) (hd : Dropped p c c') : SessionsOk c' :=
  h.unlist hd.list hd.sessions hd.table

end SessionsOk

/-! ## The whole sweep -/

/-- Any number of rounds, each taking out and freeing a terminated session. -/
inductive Swept : AppConfiguration → AppConfiguration → Prop
  | refl (c : AppConfiguration) : Swept c c
  | step {c c' c'' : AppConfiguration} {p : PStreamingSession} :
    Unlinked p c c' → Swept c' c'' → Swept c c''

theorem Swept.invariant {I : AppConfiguration → Prop}
    (hI : ∀ {c c' p}, SessionsOk c → I c → Unlinked p c c' → I c') {c c' : AppConfiguration}
    (h : Swept c c') (hs : SessionsOk c) (hc : I c) : SessionsOk c' ∧ I c' := by
  induction h with
  | refl => exact ⟨hs, hc⟩
  | step hu _ ih => exact ih (hs.of_unlinked hu) (hI hs hc hu)

/-- The sessions that are not terminated stay in the list, as they were. -/
theorem Unlinked.standing_perm {c c' : AppConfiguration} {p : PStreamingSession}
    (hu : Unlinked p c c') (hnd : c.streamingSessionList.Nodup) :
    (c'.streamingSessionList.filter fun q => !(c'.session q).terminateFlag).Perm
      (c.streamingSessionList.filter fun q => !(c.session q).terminateFlag) := by
  have hnot := (List.nodup_cons.mp (hu.list.nodup_iff.mpr hnd)).1
  have hp : (!(c.session p).terminateFlag) = false := by rw [hu.terminated]; rfl
  have hsame : c'.streamingSessionList.filter (fun q => !(c'.session q).terminateFlag) =
      c'.streamingSessionList.filter fun q => !(c.session q).terminateFlag :=
    List.filter_congr fun q hq => by rw [hu.session q fun e => hnot (e ▸ hq)]
  rw [hsame]
  refine List.Perm.trans ?_ (hu.list.filter _)
  rw [List.filter_cons_of_neg (by rw [hp]; exact Bool.false_ne_true)]

section
variable {c : AppConfiguration}

/-- Everything the scan can do: it ends, it waits for a lock that is never released, or a hash
operation fails. -/
theorem sweepLoop_cases (env : Env) (left n : Nat) (i : UInt32) (h : SessionsOk c) :
    ∃ c1, Swept c c1 ∧
      (sweepLoop env left n i c = (some .success, c1) ∨
        (c1.readLockHeld = true ∧ sweepLoop env left n i c = (none, c1)) ∨
        ∃ p st, st ≠ .success ∧ (sweepLoop env left n i c).1 = some st ∧
          Dropped p c1 (sweepLoop env left n i c).2) := by
  induction left generalizing n i c with
  | zero => exact ⟨c, Swept.refl c, Or.inl rfl⟩
  | succ left ih =>
    unfold sweepLoop
    split
    swap
    · exact ⟨c, Swept.refl c, Or.inl rfl⟩
    next hi =>
    obtain ⟨hmem, hlive⟩ := h.getD_live hi
    simp only [touchSession_of_live hlive]
    split
    swap
    · exact ih (n + 1) (i + 1) h
    next hflag =>
    split
    · next hl => exact ⟨c, Swept.refl c, Or.inr (Or.inl ⟨hl, rfl⟩)⟩
    rcases sweepUnlink_cases env n hi rfl hlive (h.app _ hmem) hflag with
      ⟨hst, -, hu⟩ | ⟨hst, hd⟩
    · rw [if_neg (by rw [Status.failed_eq_true]; exact not_not.mpr hst)]
      obtain ⟨c1, hsw, hr⟩ := ih (n + 1) _ (h.of_unlinked hu)
      exact ⟨c1, Swept.step hu hsw, hr⟩
    · rw [if_pos (Status.failed_eq_true.mpr hst)]
      exact ⟨c, Swept.refl c, Or.inr (Or.inr ⟨_, _, hst, rfl, hd⟩)⟩

/-- The elements before the one taken out stay where they are. -/
theorem take_swapWithLast {i : Nat} {list : List PStreamingSession} (h : i < list.length) :
    (swapWithLast i list).take i = list.take i := by
  have hle : i ≤ list.length - 1 := by omega
  unfold swapWithLast
  simp only
  split
  · rw [List.take_take, Nat.min_eq_left hle, List.take_set_of_le (Nat.le_refl i)]
  · rw [List.take_take, Nat.min_eq_left hle]

/-- A scan that ends leaves no terminated session in the list.  Before index `i` there is none. -/
theorem sweepLoop_done (env : Env) (left n : Nat) (i : UInt32) (h : SessionsOk c)
    (hlen : c.streamingSessionList.length = i.toNat + left)
    (hprev : ∀ q ∈ c.streamingSessionList.take i.toNat, (c.session q).terminateFlag = false)
    (hret : (sweepLoop env left n i c).1 = some .success) :
    ∃ c1, Swept c c1 ∧ sweepLoop env left n i c = (some .success, c1) ∧
      ∀ q ∈ c1.streamingSessionList, (c1.session q).terminateFlag = false := by
  induction left generalizing n i c with
  | zero =>
    refine ⟨c, Swept.refl c, rfl, fun q hq => hprev q ?_⟩
    rwa [List.take_of_length_le (by omega)]
  | succ left ih =>
    have hi : i.toNat < c.streamingSessionList.length := by omega
    have hsucc : (i + 1).toNat = i.toNat + 1 := h.toNat_succ hi
    have hget := List.getD_eq_getElem _ 0 hi
    obtain ⟨hmem, hlive⟩ := h.getD_live hi
    unfold sweepLoop at hret ⊢
    simp only [hi, if_true, touchSession_of_live hlive] at hret ⊢
    split at hret
    swap
    · next hflag =>
      rw [if_neg hflag]
      rw [Bool.not_eq_true] at hflag
      refine ih (n + 1) (i + 1) h (by omega) (fun q hq => ?_) hret
      rw [hsucc, List.take_succ_eq_append_getElem hi] at hq
      rcases List.mem_append.mp hq with hq | hq
      · exact hprev q hq
      · rw [List.mem_singleton.mp hq, ← hget]
        exact hflag
    next hflag =>
    rw [if_pos hflag]
    split at hret
    · cases hret
    next hlock =>
    rw [if_neg hlock]
    rcases sweepUnlink_cases env n hi rfl hlive (h.app _ hmem) hflag with
      ⟨hst, hswap, hu⟩ | ⟨hst, -⟩
    swap
    · rw [if_pos (Status.failed_eq_true.mpr hst)] at hret
      exact absurd (Option.some.inj hret) hst
    have hneg : ¬ (sweepUnlink env n i.toNat (c.streamingSessionList.getD i.toNat 0) c).1.failed =
        true := by
      rw [Status.failed_eq_true]
      exact not_not.mpr hst
    rw [if_neg hneg, hswap] at hret ⊢
    generalize hc' : (freeStreamingSession _ (sweepUnlink env n i.toNat _ c).2).2 = c' at hu hret ⊢
    have hlist : c'.streamingSessionList = swapWithLast i.toNat c.streamingSessionList := by
      rw [← hc', ← hswap]
      exact congrArg Tables.streamingSessionList tables_freeStreamingSession
    have hlen' := hu.list.length_eq
    rw [List.length_cons] at hlen'
    split at hret
    · next hpos =>
      rw [if_pos hpos]
      rw [sub_add_cancel] at hret ⊢
      obtain ⟨c1, hsw, hr⟩ := ih (n + 1) i (h.of_unlinked hu) (by omega)
        (fun q hq => by
          rw [hlist, take_swapWithLast hi] at hq
          have hq' := hprev q hq
          rw [hu.session q]
          · exact hq'
          · rintro rfl
            rw [hflag] at hq'
            exact absurd hq'.symm Bool.false_ne_true) hret
      exact ⟨c1, Swept.step hu hsw, hr⟩
    · next hpos =>
      rw [if_neg hpos]
      rw [← hlist] at hpos
      obtain rfl : left = 0 := by omega
      refine ⟨c', Swept.step hu (Swept.refl c'), rfl, fun q hq => ?_⟩
      exact absurd (List.length_pos_of_mem hq) hpos

/-- The hash operations of the sweep succeed. -/
def Env.SweepOk (env : Env) : Prop :=
  ∀ n, env.ok (.sweepHashTableContains n) = true ∧ env.ok (.sweepHashTableRemove n) = true

/-- With the hash operations succeeding and the lock free, a sweep ends. -/
theorem sweepLoop_success (env : Env) (henv : env.SweepOk) (left n : Nat) (i : UInt32)
    (h : SessionsOk c) (hl : c.readLockHeld = false) :
    (sweepLoop env left n i c).1 = some .success := by
  induction left generalizing n i c with
  | zero => rfl
  | succ left ih =>
    unfold sweepLoop
    split
    swap
    · rfl
    next hi =>
    obtain ⟨hmem, hlive⟩ := h.getD_live hi
    simp only [touchSession_of_live hlive]
    split
    swap
    · exact ih (n + 1) (i + 1) h hl
    next hflag =>
    have hret : (sweepUnlink env n i.toNat (c.streamingSessionList.getD i.toNat 0) c).1 = .success := by
      unfold sweepUnlink sweepRemove
      simp [(henv n).1, (henv n).2]
    rcases sweepUnlink_cases env n hi rfl hlive (h.app _ hmem) hflag with ⟨hst, -, hu⟩ | ⟨hst, -⟩
    · simp only [hl, Bool.false_eq_true, if_false]
      rw [if_neg (by rw [Status.failed_eq_true]; exact not_not.mpr hst)]
      exact ih (n + 1) _ (h.of_unlinked hu) (hu.readLockHeld.trans hl)
    · exact absurd hret hst

theorem sweep_done (env : Env) (h : SessionsOk c) (hret : (sweep env c).1 = some .success) :
    ∃ c1, Swept c c1 ∧ sweep env c = (some .success, c1) ∧
      ∀ q ∈ c1.streamingSessionList, (c1.session q).terminateFlag = false :=
  sweepLoop_done env _ 0 0 h (Nat.zero_add _).symm (fun _ hq => absurd hq List.not_mem_nil) hret

/-! ## Every step keeps the invariant -/

theorem startStats_eq (env : Env) : (startStats env c).sessions = c.sessions ∧
    (startStats env c).tables = c.tables := by
  unfold startStats
  split <;> exact ⟨rfl, rfl⟩

theorem pending_startStats (env : Env) : (startStats env c).pRemotePeerPendingSignalingMessages =
    c.pRemotePeerPendingSignalingMessages :=
  congrArg Tables.pRemotePeerPendingSignalingMessages (startStats_eq env).2

theorem SessionsOk.setPending (h : SessionsOk c) (s : ConnectionMsgQ) (u : Peers)
    (hu : u.sessions = c.sessions) : SessionsOk (c.setPending s u) :=
  h.congr hu rfl rfl

/-- The OFFER put under its key, drained and with its stats timer started. -/
theorem SessionsOk.accepted {env : Env} {p : PStreamingSession} (h : SessionsOk c)
    (hp : p ∈ c.streamingSessionList) :
    let d := drainPending env (clientIdHashKey (c.session p).peerId) p
      (c.setEntry (clientIdHashKey (c.session p).peerId) p)
    SessionsOk (if d.1.failed then d.2 else startStats env d.2) := by
  intro d
  have hlive : (c.setEntry (clientIdHashKey (c.session p).peerId) p).sessions.live p = true :=
    h.listed_live hp
  obtain ⟨s, ms, hd⟩ := drainPending_eq env (clientIdHashKey (c.session p).peerId) hlive
  have hd2 : SessionsOk d.2 := by
    show SessionsOk (drainPending env _ p _).2
    rw [hd]
    exact (h.setEntry hp).setPending s _ rfl
  split
  · exact hd2
  · obtain ⟨hs, ht⟩ := @startStats_eq d.2 env
    exact hd2.congr hs (congrArg Tables.streamingSessionList ht)
      (congrArg Tables.pRemoteRtcPeerConnections ht)

theorem SessionsOk.receiveOffer (h : SessionsOk c) (env : Env) (m : SignalingMessage) :
    SessionsOk (receiveOffer env (clientIdHashKey m.peerClientId) m c).2 := by
  obtain ⟨leaked, ho, -⟩ := h.owned
  rcases receiveOffer_cases env (clientIdHashKey m.peerClientId) m ho with
    ⟨-, hr⟩ | ⟨-, hu, -⟩ | ⟨hfree, -, -, c1, hl, ⟨-, st, -, hr⟩ | ⟨-, -, hr⟩⟩
  · rw [hr]
    exact h.congr rfl rfl rfl
  · exact h.of_unlisted hu
  · rw [hr]
    exact h.of_listed hfree hl
  · have h1 := h.of_listed hfree hl
    rw [hr, ← hl.newPeerId]
    exact h1.accepted hl.mem

theorem SessionsOk.message (h : SessionsOk c) (env : Env) (msg : ReceivedSignalingMessage) :
    SessionsOk (onSignalingMessageReceived env msg c).2 := by
  rcases onSignalingMessageReceived_cases env msg with ⟨st, hr⟩ | ⟨-, -, -, hr⟩ | ⟨-, -, hr⟩
  · rw [hr]
    exact h
  · rw [hr]
    exact h.receiveOffer env _
  · rw [hr]
    cases he : c.pRemoteRtcPeerConnections (clientIdHashKey msg.signalingMessage.peerClientId) with
    | none =>
      rw [receiveIceCandidate_of_none env _ msg he]
      exact h.setPending _ _ rfl
    | some p =>
      rw [receiveIceCandidate_of_entry env _ msg he (h.entry_live he)]
      exact h.setPending _ _ rfl

/-- After the sweep only the expiry changes a table, and only the pending store. -/
theorem pollSignaling_eq (env : Env) : (pollSignaling env c).2.sessions = c.sessions ∧
    (pollSignaling env c).2.tables = { c.tables with
      pRemotePeerPendingSignalingMessages :=
        (pollSignaling env c).2.pRemotePeerPendingSignalingMessages } ∧
    ((pollSignaling env c).2.pRemotePeerPendingSignalingMessages =
        c.pRemotePeerPendingSignalingMessages ∨
      (pollSignaling env c).2.pRemotePeerPendingSignalingMessages =
        (removeExpiredPendingMsgQ env appPendingMessageCleanupDuration
          c.pRemotePeerPendingSignalingMessages).2) := by
  unfold pollSignaling
  simp only
  split_ifs
  · exact ⟨rfl, rfl, Or.inl rfl⟩
  · exact ⟨rfl, rfl, Or.inl rfl⟩
  · exact ⟨rfl, rfl, Or.inr rfl⟩
  · exact ⟨rfl, rfl, Or.inr rfl⟩

theorem pollApp_of_success {env : Env} {c1 : AppConfiguration}
    (h : sweep env c = (some .success, c1)) :
    pollApp env c = (some (pollSignaling env c1).1, (pollSignaling env c1).2) := by
  unfold pollApp
  rw [h]

/-- A sweep that fails, or does not return, ends the iteration. -/
theorem pollApp_of_stopped {env : Env} (h : (sweep env c).1 ≠ some .success) :
    pollApp env c = sweep env c := by
  unfold pollApp
  split
  · next hsw =>
    rw [hsw] at h
    exact absurd rfl h
  · rfl

/-- Everything an iteration of `pollApp` can do. -/
theorem pollApp_cases (env : Env) (h : SessionsOk c) :
    ∃ c1, Swept c c1 ∧
      (pollApp env c = (some (pollSignaling env c1).1, (pollSignaling env c1).2) ∨
        (c1.readLockHeld = true ∧ pollApp env c = (none, c1)) ∨
        ∃ p, Dropped p c1 (pollApp env c).2) := by
  obtain ⟨c1, hsw, hr⟩ := sweepLoop_cases env c.streamingSessionList.length 0 0 h
  refine ⟨c1, hsw, ?_⟩
  rcases hr with hr | ⟨hl, hr⟩ | ⟨p, st, hst, hr, hd⟩
  · exact Or.inl (pollApp_of_success hr)
  · refine Or.inr (Or.inl ⟨hl, ?_⟩)
    rw [pollApp_of_stopped fun e => ?_]
    · exact hr
    · rw [show (sweep env c).1 = none from congrArg Prod.fst hr] at e
      cases e
  · refine Or.inr (Or.inr ⟨p, ?_⟩)
    rw [pollApp_of_stopped fun e => ?_]
    · exact hd
    · rw [show (sweep env c).1 = some st from hr] at e
      exact hst (Option.some.inj e)

theorem SessionsOk.of_swept {c1 : AppConfiguration} (h : SessionsOk c) (hsw : Swept c c1) :
    SessionsOk c1 :=
  (hsw.invariant (fun _ _ _ => trivial) h trivial).1

theorem SessionsOk.poll (h : SessionsOk c) (env : Env) : SessionsOk (pollApp env c).2 := by
  obtain ⟨c1, hsw, hr | ⟨-, hr⟩ | ⟨p, hd⟩⟩ := pollApp_cases env h
  · obtain ⟨hs, ht, -⟩ := @pollSignaling_eq c1 env
    rw [hr]
    exact (h.of_swept hsw).congr hs (congrArg Tables.streamingSessionList ht)
      (congrArg Tables.pRemoteRtcPeerConnections ht)
  · rw [hr]
    exact h.of_swept hsw
  · exact (h.of_swept hsw).of_dropped hd

theorem settle_eq (r : Option Status × AppConfiguration) :
    settle r = { r.2 with blocked := (settle r).blocked } := by
  obtain ⟨o, c⟩ := r
  cases o <;> rfl

theorem SessionsOk.settle {r : Option Status × AppConfiguration} (h : SessionsOk r.2) :
    SessionsOk (settle r) := by
  rw [settle_eq]
  exact h.congr rfl rfl rfl

/-- Everything an event can do: a message, an iteration of `pollApp`, or nothing that the tables
see. -/
theorem step_cases (h : SessionsOk c) (e : Event) :
    (∃ env msg, e = .message env msg ∧ c.blocked = false ∧
        step c e = settle (onSignalingMessageReceived env msg c)) ∨
      (∃ env, e = .poll env ∧ step c e = settle (pollApp env c)) ∨ ∃ P, Kept P c (step c e) := by
  have hkept : ∀ {P : PStreamingSession → Prop} (b : Bool) (c' : AppConfiguration),
      (b = false → Kept P c c') → Kept P c (if b = true then c else c') := by
    intro P b c' hk
    split
    · exact Kept.refl c
    · next hb => exact hk (Bool.not_eq_true b ▸ hb)
  cases e with
  | message env msg =>
    cases hb : c.blocked with
    | true =>
      refine Or.inr (Or.inr ⟨fun _ => False, ?_⟩)
      rw [show step c (.message env msg) = c from if_pos hb]
      exact Kept.refl c
    | false => exact Or.inl ⟨env, msg, rfl, rfl, if_neg (by rw [hb]; exact Bool.false_ne_true)⟩
  | poll env =>
    cases hb : c.blocked with
    | true =>
      refine Or.inr (Or.inr ⟨fun _ => False, ?_⟩)
      rw [show step c (.poll env) = c from if_pos hb]
      exact Kept.refl c
    | false => exact Or.inr (Or.inl ⟨env, rfl, if_neg (by rw [hb]; exact Bool.false_ne_true)⟩)
  | connectionStateChange p st =>
    refine Or.inr (Or.inr ⟨(· = p), ?_⟩)
    show Kept _ c (if c.sessions.live p then _ else c)
    split
    · next hp => exact onConnectionStateChange_kept st hp
    · exact Kept.refl c
  | mediaEos =>
    exact Or.inr (Or.inr ⟨_, hkept _ _ fun _ => onMediaEosHook_kept fun _ hp => h.listed_live hp⟩)
  | mediaFrame frame =>
    exact Or.inr (Or.inr ⟨_, hkept _ _ fun _ =>
      onMediaSinkHook_kept frame fun _ hp => h.listed_live hp⟩)
  | mediaSenderDone => exact Or.inr (Or.inr ⟨fun _ => False, Kept.of_eq rfl rfl⟩)
  | restartRequested => exact Or.inr (Or.inr ⟨fun _ => False, Kept.of_eq rfl rfl⟩)
  | pregenerateCert env =>
    exact Or.inr (Or.inr ⟨fun _ => False, hkept _ _ fun _ => Kept.of_eq rfl rfl⟩)

theorem SessionsOk.step (h : SessionsOk c) (e : Event) : SessionsOk (step c e) := by
  rcases step_cases h e with ⟨env, msg, -, -, hs⟩ | ⟨env, -, hs⟩ | ⟨P, hk⟩
  · rw [hs]
    exact (h.message env msg).settle
  · rw [hs]
    exact (h.poll env).settle
  · exact h.of_kept hk

/-- Whatever fails, on every run. -/
theorem sessionsOk_of_reachable {latched : Bool}
    (h : Run.Reachable step (AppConfiguration.initApp latched) c) : SessionsOk c :=
  h.invariant (SessionsOk.initApp latched) fun _ e hs => hs.step e

end

end WebrtcApp
