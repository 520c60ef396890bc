import WebrtcApp.App.Sessions

/-!
# What one sweep of `pollApp` does

With the hash operations succeeding and the read lock free, a sweep ends, whatever the number
of rounds it is given beyond one for each session (`sweepLoop_fuel`); it leaves the sessions
that are not terminated, each once, frees the others once, takes their keys out of the hash
table, and stops the media source exactly when it empties a list that was not
(`sweep_removes_terminated`).

The loop index is a `UInt32`: the decrement at 0 wraps and the increment of the loop brings it
back, so the next round looks at the same place, where the last session has been put.
-/

namespace WebrtcApp

section
variable {c : AppConfiguration}

/-- Rounds beyond one for each session still to visit change nothing: the loop has ended. -/
theorem sweepLoop_fuel (env : Env) (more left n : Nat) (i : UInt32) (h : SessionsOk c)
    (hleft : c.streamingSessionList.length ≤ i.toNat + left) :
    sweepLoop env (left + more) n i c = sweepLoop env left n i c := by
  induction left generalizing n i c with
  | zero =>
    cases more with
    | zero => rfl
    | succ more =>
      unfold sweepLoop
      rw [if_neg (by omega)]
  | succ left ih =>
    rw [Nat.add_right_comm]
    unfold sweepLoop
    by_cases hi : i.toNat < c.streamingSessionList.length
    swap
    · rw [if_neg hi, if_neg hi]
    obtain ⟨hmem, hlive⟩ := h.getD_live hi
    have hsucc : (i + 1).toNat = i.toNat + 1 := h.toNat_succ hi
    simp only [hi, if_true, touchSession_of_live hlive]
    by_cases hflag : (c.session (c.streamingSessionList.getD i.toNat 0)).terminateFlag = true
    swap
    · rw [if_neg hflag, if_neg hflag]
      exact ih (n + 1) (i + 1) h (by omega)
    rw [if_pos hflag, if_pos hflag]
    by_cases hl : c.readLockHeld = true
    · rw [if_pos hl, if_pos hl]
    rw [if_neg hl, if_neg hl]
    rcases sweepUnlink_cases env n hi rfl hlive (h.app _ hmem) hflag with
      ⟨hst, hswap, hu⟩ | ⟨hst, -⟩
    swap
    · simp only [Status.failed_eq_true.mpr hst, if_true]
    simp only [Status.failed_eq_false.mpr hst, Bool.false_eq_true, if_false]
    have hlist : (freeStreamingSession (c.streamingSessionList.getD i.toNat 0) (sweepUnlink env n
        i.toNat (c.streamingSessionList.getD i.toNat 0) c).2).2.streamingSessionList =
          swapWithLast i.toNat c.streamingSessionList := by
      rw [← hswap]
      exact congrArg Tables.streamingSessionList tables_freeStreamingSession
    have hlen := hu.list.length_eq
    rw [List.length_cons] at hlen
    rw [hswap]
    apply ih (n + 1) _ (h.of_unlinked hu)
    split
    · rw [sub_add_cancel]
      omega
    · next hempty =>
      rw [hlist]
      omega

theorem media_freeStreamingSession {p : PStreamingSession} :
    (freeStreamingSession p c).2.media = c.media := by
  unfold freeStreamingSession cancelStatsTimer
  simp only
  split
  · rfl
  · show (if _ then _ else _ : AppConfiguration).media = _
    split <;> rfl

/-- The media source as `shutdownMediaSource` leaves it. -/
def MediaContext.stopped (m : MediaContext) : MediaContext := { m with shutdownRtspSrc := true }

/-- A round stops the media source where it takes the last session out. -/
theorem media_sweepUnlink (env : Env) (henv : env.SweepOk) (n i : Nat) (p : PStreamingSession) :
    (sweepUnlink env n i p c).2.media =
      if swapWithLast i c.streamingSessionList = [] then c.media.stopped else c.media := by
  unfold sweepUnlink sweepRemove
  simp only [(henv n).1, (henv n).2, Bool.not_true, Bool.and_false, Bool.false_eq_true, if_false]
  generalize clientIdHashKey _ = key
  have hempty : ∀ c1 : AppConfiguration,
      c1.streamingSessionList = swapWithLast i c.streamingSessionList → c1.media = c.media →
      (if c1.streamingSessionList.length = 0 then shutdownMediaSource c1 else c1).media =
        if swapWithLast i c.streamingSessionList = [] then c.media.stopped else c.media := by
    intro c1 hlist hmedia
    simp only [hlist, List.length_eq_zero_iff]
    split
    · show c1.media.stopped = _
      rw [hmedia]
    · exact hmedia
  refine hempty _ ?_ ?_ <;> split <;> rfl

/-- From any point of the loop on, the media source is stopped exactly if the list is not empty yet
and is emptied. -/
theorem media_sweepLoop (env : Env) (henv : env.SweepOk) (left n : Nat) (i : UInt32)
    (h : SessionsOk c) (hl : c.readLockHeld = false) :
    (sweepLoop env left n i c).2.media =
      if c.streamingSessionList ≠ [] ∧ (sweepLoop env left n i c).2.streamingSessionList = []
      then c.media.stopped else c.media := by
  induction left generalizing n i c with
  | zero =>
    rw [if_neg]
    · rfl
    · rintro ⟨hne, hnil⟩
      exact hne hnil
  | succ left ih =>
    unfold sweepLoop
    by_cases hi : i.toNat < c.streamingSessionList.length
    swap
    · simp only [hi, if_false]
      rw [if_neg]
      rintro ⟨hne, hnil⟩
      exact hne hnil
    obtain ⟨hmem, hlive⟩ := h.getD_live hi
    have hne : c.streamingSessionList ≠ [] := List.ne_nil_of_mem hmem
    simp only [hi, if_true, touchSession_of_live hlive]
    by_cases hflag : (c.session (c.streamingSessionList.getD i.toNat 0)).terminateFlag = true
    swap
    · simp only [hflag, Bool.false_eq_true, if_false]
      exact ih (n + 1) (i + 1) h hl
    simp only [hflag, hl, Bool.false_eq_true, if_true, if_false]
    have hmedia := media_sweepUnlink env henv n i.toNat (c.streamingSessionList.getD i.toNat 0)
      (c := c)
    have hret : (sweepUnlink env n i.toNat (c.streamingSessionList.getD i.toNat 0) c).1 =
        .success := by
      unfold sweepUnlink sweepRemove
      simp [(henv n).1, (henv n).2]
    rcases sweepUnlink_cases env n hi rfl hlive (h.app _ hmem) hflag with ⟨-, hswap, hu⟩ | ⟨hst, -⟩
    swap
    · exact absurd hret hst
    simp only [Status.failed_eq_false.mpr hret, Bool.false_eq_true, if_false]
    generalize hc' : (freeStreamingSession (c.streamingSessionList.getD i.toNat 0)
      (sweepUnlink env n i.toNat (c.streamingSessionList.getD i.toNat 0) c).2).2 = c' at hu
    have hmedia' : c'.media = if c'.streamingSessionList = [] then c.media.stopped else c.media := by
      have hlist : c'.streamingSessionList = swapWithLast i.toNat c.streamingSessionList := by
        rw [← hc', ← hswap]
        exact congrArg Tables.streamingSessionList tables_freeStreamingSession
      rw [hlist, ← hmedia, ← hc', media_freeStreamingSession]
    generalize hj : (if (sweepUnlink env n i.toNat (c.streamingSessionList.getD i.toNat 0)
      c).2.streamingSessionList.length > 0 then i - 1 else i) + 1 = j
    rw [ih (n + 1) j (h.of_unlinked hu) (hu.readLockHeld.trans hl), hmedia']
    by_cases hnil : c'.streamingSessionList = []
    · -- emptied in this round: the loop has nothing left to do
      have hend : (sweepLoop env left (n + 1) j c').2.streamingSessionList = [] := by
        cases left with
        | zero => exact hnil
        | succ left =>
          unfold sweepLoop
          rw [if_neg (by rw [hnil]; exact Nat.not_lt_zero _)]
          exact hnil
      simp [hnil, hend, hne]
    · simp [hnil, hne]

/-- What the rounds of a sweep do with the sessions and the hash table. -/
structure SweptOut (c c1 : AppConfiguration) : Prop where
  standing : (c1.streamingSessionList.filter fun q => !(c1.session q).terminateFlag).Perm
    (c.streamingSessionList.filter fun q => !(c.session q).terminateFlag)
  next : c1.sessions.next = c.sessions.next
  owned : ∀ {ps}, c.sessions.Owned (c.streamingSessionList ++ ps) →
    c1.sessions.Owned (c1.streamingSessionList ++ ps)
  peerId : ∀ q, (c1.session q).peerId = (c.session q).peerId
  noneStays : ∀ k, c.pRemoteRtcPeerConnections k = none → c1.pRemoteRtcPeerConnections k = none
  noEntry : ∀ q ∈ c.streamingSessionList, q ∉ c1.streamingSessionList →
    c1.pRemoteRtcPeerConnections (clientIdHashKey (c.session q).peerId) = none

theorem sweptOut {c1 : AppConfiguration} (h : SessionsOk c) (hsw : Swept c c1) : SweptOut c c1 := by
  induction hsw with
  | refl c =>
    exact ⟨List.Perm.refl _, rfl, id, fun _ => rfl, fun _ hk => hk, fun q hq hnot => absurd hq hnot⟩
  | @step c c' c1 p hu _ ih =>
    have hrest := ih (h.of_unlinked hu)
    have hself : c'.pRemoteRtcPeerConnections (clientIdHashKey (c.session p).peerId) = none := by
      rw [hu.table]
      exact Function.update_self ..
    constructor
    · exact hrest.standing.trans (hu.standing_perm h.nodup)
    · exact hrest.next.trans hu.next
    · intro ps ho
      exact hrest.owned (hu.owned (ho.perm (hu.list.symm.append_right _)))
    · intro q
      exact (hrest.peerId q).trans (hu.peerId q)
    · intro k hk
      apply hrest.noneStays k
      rw [hu.table, Function.update_apply, hk, ite_self]
    · intro q hq hnot
      rcases List.mem_cons.mp (hu.list.mem_iff.mpr hq) with rfl | hq'
      · exact hrest.noneStays _ hself
      · have hkey := hrest.noEntry q hq' hnot
        rwa [hu.peerId] at hkey

/-- One sweep removes exactly the terminated sessions. -/
theorem sweep_removes_terminated (env : Env) (h : SessionsOk c) (hl : c.readLockHeld = false)
    (henv : env.SweepOk) :
    let r := sweep env c
    r.1 = some .success ∧
      (∀ more, sweepLoop env (c.streamingSessionList.length + more) 0 0 c = r) ∧
      r.2.streamingSessionList.Perm
        (c.streamingSessionList.filter fun q => !(c.session q).terminateFlag) ∧
      (∀ p ∈ c.streamingSessionList, c.sessions.frees p = 0 ∧
        r.2.sessions.frees p = if (c.session p).terminateFlag then 1 else 0) ∧
      r.2.sessions.misused = false ∧
      (∀ p ∈ c.streamingSessionList, (c.session p).terminateFlag = true →
        r.2.pRemoteRtcPeerConnections (clientIdHashKey (c.session p).peerId) = none) ∧
      r.2.media = if c.streamingSessionList ≠ [] ∧ r.2.streamingSessionList = []
        then c.media.stopped else c.media := by
  intro r
  have hret : r.1 = some .success := sweepLoop_success env henv _ 0 0 h hl
  obtain ⟨c1, hsw, hr, hflags⟩ := sweep_done env h hret
  have hout := sweptOut h hsw
  have hr2 : r.2 = c1 := congrArg Prod.snd hr
  have hperm : r.2.streamingSessionList.Perm
      (c.streamingSessionList.filter fun q => !(c.session q).terminateFlag) := by
    have hall : c1.streamingSessionList.filter (fun q => !(c1.session q).terminateFlag) =
        c1.streamingSessionList := List.filter_eq_self.mpr fun q hq => by rw [hflags q hq]; rfl
    rw [hr2, ← hall]
    exact hout.standing
  have hmem : ∀ p, p ∈ r.2.streamingSessionList ↔
      p ∈ c.streamingSessionList ∧ (c.session p).terminateFlag = false := by
    intro p
    rw [hperm.mem_iff, List.mem_filter, Bool.not_eq_true']
  obtain ⟨leaked, ho, -⟩ := h.owned
  have ho1 : r.2.sessions.Owned (r.2.streamingSessionList ++ leaked) := hr2 ▸ hout.owned ho
  refine ⟨hret, fun more => sweepLoop_fuel env more _ 0 0 h (Nat.le_add_left _ _), hperm,
    fun p hp => ⟨ho.frees_eq_zero (List.mem_append_left _ hp), ?_⟩, ho1.unmisused,
    fun p hp hflag => ?_, media_sweepLoop env henv _ 0 0 h hl⟩
  · cases hflag : (c.session p).terminateFlag with
    | false =>
      exact ho1.frees_eq_zero (List.mem_append_left _ ((hmem p).mpr ⟨hp, hflag⟩))
    | true =>
      refine ho1.frees_of_not_mem ?_ fun hin => ?_
      · rw [hr2, hout.next]
        exact ho.lt_next (List.mem_append_left _ hp)
      · rcases List.mem_append.mp hin with hin | hleaked
        · exact Bool.false_ne_true (((hmem p).mp hin).2.symm.trans hflag)
        · exact (List.nodup_append.mp ho.nodup).2.2 p hp p hleaked rfl
  · rw [hr2]
    apply hout.noEntry p hp
    intro hin
    rw [← hr2] at hin
    exact Bool.false_ne_true (((hmem p).mp hin).2.symm.trans hflag)

/-- Two clients connect and the connection of the first is closed.  Its session is at index 0: the
second takes its place, and the index wraps to look there again. -/
def closedAndLive : AppConfiguration :=
  Run.exec step (AppConfiguration.initApp true)
    [.message Env.allOk (offerOf clientA), .message Env.allOk (offerOf clientB),
      .connectionStateChange 0 .closed]

/-- The sweep frees the first session only, and the media source goes on. -/
theorem sweep_removes_terminated_closed :
    closedAndLive.streamingSessionList = [0, 1] ∧ (sweep Env.allOk closedAndLive).1 = some .success ∧
      (sweep Env.allOk closedAndLive).2.streamingSessionList = [1] ∧
      (sweep Env.allOk closedAndLive).2.sessions.frees 0 = 1 ∧
      (sweep Env.allOk closedAndLive).2.sessions.frees 1 = 0 ∧
      (sweep Env.allOk closedAndLive).2.pRemoteRtcPeerConnections (clientIdHashKey clientA) = none ∧
      (sweep Env.allOk closedAndLive).2.media = closedAndLive.media := by
  obtain ⟨hret, -, hstays, hfrees, -, htable, hmedia⟩ :=
    sweep_removes_terminated (c := closedAndLive) Env.allOk (sessionsOk_of_reachable ⟨_, rfl⟩)
      (by decide +kernel) fun _ => ⟨rfl, rfl⟩
  have hlisted : closedAndLive.streamingSessionList = [0, 1] := by decide +kernel
  have hclosed : (closedAndLive.session 0).terminateFlag = true := by decide +kernel
  have hlive : (closedAndLive.session 1).terminateFlag = false := by decide +kernel
  have hpeer : (closedAndLive.session 0).peerId = clientA := by decide +kernel
  have hone : (sweep Env.allOk closedAndLive).2.streamingSessionList = [1] := by
    rw [hlisted, List.filter_cons_of_neg (by simp [hclosed]),
      List.filter_cons_of_pos (by simp [hlive]), List.filter_nil] at hstays
    exact List.perm_singleton.mp hstays
  have hfree := (hfrees 0 (by simp [hlisted])).2
  have hkept := (hfrees 1 (by simp [hlisted])).2
  rw [hclosed] at hfree
  rw [hlive] at hkept
  rw [hone] at hmedia
  exact ⟨hlisted, hret, hone, hfree, hkept, hpeer ▸ htable 0 (by simp [hlisted]) hclosed,
    hmedia.trans (by simp)⟩

end

end WebrtcApp
