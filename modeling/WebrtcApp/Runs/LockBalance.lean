import WebrtcApp.App.Locks
import WebrtcApp.Runs.Sweep

/-!
# The locks at every return, and the sessions at an error of `pollApp`

Every call gives back the locks it took, but for one exit: when a hash operation fails in the
sweep, `pollApp` returns with `streamingSessionListReadLock` locked and with a session that is
neither freed nor listed.

    sweepOrder              the sessions in the order in which a sweep looks at them
    Env.RoundFails          a hash operation fails in a round of the sweep
    sweepLoop_fails_iff     a sweep that returns fails exactly if one of its rounds does
    Entry.safe_iff          what a call leaves, for every call that returns

A session can be out of the list before `pollApp` runs, since `createStreamingSession` does not
free one whose media source is not ready; so the condition for the exits after the sweep is that
no session was.
-/

namespace WebrtcApp

/-! ## When a sweep fails -/

/-- The order in which `left` rounds from index `i` on look at the sessions. -/
def sweepOrder (terminated : PStreamingSession → Bool) :
    Nat → Nat → List PStreamingSession → List PStreamingSession
  | 0, _, _ => []
  | left + 1, i, list =>
    let p := list.getD i 0
    p :: if terminated p then sweepOrder terminated left i (swapWithLast i list)
      else sweepOrder terminated left (i + 1) list

def AppConfiguration.terminated (c : AppConfiguration) (p : PStreamingSession) : Bool :=
  (c.session p).terminateFlag

def AppConfiguration.hashKey (c : AppConfiguration) (p : PStreamingSession) : UInt64 :=
  clientIdHashKey (c.session p).peerId

/-- In round `n + k` the terminated session `p` is looked at, and `appHashTableContains` fails, or
`appHashTableRemove` of a key that no round before has removed. -/
def Env.RoundFails (env : Env) (n : Nat) (c : AppConfiguration) (order : List PStreamingSession)
    (k : Nat) (p : PStreamingSession) : Prop :=
  order[k]? = some p ∧ c.terminated p = true ∧
    (env.ok (.sweepHashTableContains (n + k)) = false ∨
      ((c.pRemoteRtcPeerConnections (c.hashKey p)).isSome = true ∧
        (∀ m q, m < k → order[m]? = some q → c.terminated q = true → c.hashKey q ≠ c.hashKey p) ∧
        env.ok (.sweepHashTableRemove (n + k)) = false))

/-- A hash operation of the sweep fails. -/
def Env.SweepFails (env : Env) (c : AppConfiguration) : Prop :=
  ∃ k p, env.RoundFails 0 c
    (sweepOrder c.terminated c.streamingSessionList.length 0 c.streamingSessionList) k p

section
variable {c c' : AppConfiguration} {env : Env} {n k : Nat} {p q : PStreamingSession}
  {order : List PStreamingSession}

theorem roundFails_zero :
    env.RoundFails n c (q :: order) 0 p ↔ q = p ∧ c.terminated p = true ∧
      (env.ok (.sweepHashTableContains n) = false ∨
        ((c.pRemoteRtcPeerConnections (c.hashKey p)).isSome = true ∧
          env.ok (.sweepHashTableRemove n) = false)) := by
  unfold Env.RoundFails
  rw [List.getElem?_cons_zero, Option.some_inj, Nat.add_zero]
  have hnone : (∀ m r, m < 0 → (q :: order)[m]? = some r → c.terminated r = true →
      c.hashKey r ≠ c.hashKey p) ↔ True :=
    iff_true_intro fun m _ hm => absurd hm (Nat.not_lt_zero m)
  rw [hnone, true_and]

/-- The rounds after the first are those of the sweep from there on. -/
theorem roundFails_succ (hflag : ∀ r, c'.terminated r = c.terminated r)
    (hkey : ∀ r, c'.hashKey r = c.hashKey r)
    (htable : ∀ k, (c'.pRemoteRtcPeerConnections k).isSome = true ↔
      (c.pRemoteRtcPeerConnections k).isSome = true ∧ (c.terminated q = true → c.hashKey q ≠ k)) :
    env.RoundFails n c (q :: order) (k + 1) p ↔ env.RoundFails (n + 1) c' order k p := by
  have hround : n + (k + 1) = n + 1 + k := by omega
  unfold Env.RoundFails
  simp only [List.getElem?_cons_succ, hround, hflag, hkey, htable]
  have hbefore : (∀ m r, m < k + 1 → (q :: order)[m]? = some r → c.terminated r = true →
      c.hashKey r ≠ c.hashKey p) ↔ (c.terminated q = true → c.hashKey q ≠ c.hashKey p) ∧
        ∀ m r, m < k → order[m]? = some r → c.terminated r = true →
          c.hashKey r ≠ c.hashKey p := by
    constructor
    · intro h
      refine ⟨h 0 q (Nat.zero_lt_succ k) rfl, fun m r hm hr => ?_⟩
      exact h (m + 1) r (Nat.succ_lt_succ hm) hr
    · rintro ⟨hq, h⟩ m r hm hr
      cases m with
      | zero =>
        obtain rfl : q = r := Option.some.inj hr
        exact hq
      | succ m => exact h m r (Nat.lt_of_succ_lt_succ hm) hr
  rw [hbefore, and_assoc, and_assoc]

theorem roundFails_cons (hflag : ∀ r, c'.terminated r = c.terminated r)
    (hkey : ∀ r, c'.hashKey r = c.hashKey r)
    (htable : ∀ k, (c'.pRemoteRtcPeerConnections k).isSome = true ↔
      (c.pRemoteRtcPeerConnections k).isSome = true ∧ (c.terminated q = true → c.hashKey q ≠ k)) :
    (∃ k p, env.RoundFails n c (q :: order) k p) ↔
      (∃ p, env.RoundFails n c (q :: order) 0 p) ∨ ∃ k p, env.RoundFails (n + 1) c' order k p := by
  constructor
  · rintro ⟨k, p, h⟩
    cases k with
    | zero => exact Or.inl ⟨p, h⟩
    | succ k => exact Or.inr ⟨k, p, (roundFails_succ hflag hkey htable).mp h⟩
  · rintro (⟨p, h⟩ | ⟨k, p, h⟩)
    · exact ⟨0, p, h⟩
    · exact ⟨k + 1, p, (roundFails_succ hflag hkey htable).mpr h⟩

theorem flag_freeStreamingSession (hp : c.sessions.live p = true) (hflag : c.terminated p = true)
    (q : PStreamingSession) : (freeStreamingSession p c).2.terminated q = c.terminated q := by
  unfold AppConfiguration.terminated at hflag ⊢
  by_cases hq : p = q
  swap
  · rw [session_freeStreamingSession hq]
  subst hq
  unfold freeStreamingSession
  simp only [touchSession_of_live hp]
  split
  · rfl
  · simp only [AppConfiguration.session, sessions_setSessions, sessions_modifySession,
      sessions_cancelStatsTimer, Arena.read_free]
    rw [Arena.read_modify_self _ _ (by rw [Arena.live_modify]; exact hp),
      Arena.read_modify_self _ _ hp]
    exact hflag.symm

/-- The removal fails exactly where one of its two hash operations does. -/
theorem sweepUnlink_fails_iff {i : Nat} : (sweepUnlink env n i p c).1 ≠ .success ↔
    env.ok (.sweepHashTableContains n) = false ∨
      ((c.pRemoteRtcPeerConnections (c.hashKey p)).isSome = true ∧
        env.ok (.sweepHashTableRemove n) = false) := by
  have hfails : ∀ call : Call, env.ok call = false → env.status call ≠ .success := by
    intro call hf e
    rw [Env.ok_eq_true.mpr e] at hf
    cases hf
  have hkey : clientIdHashKey (AppConfiguration.session
      { c with streamingSessionList := swapWithLast i c.streamingSessionList } p).peerId =
        c.hashKey p := rfl
  unfold sweepUnlink sweepRemove
  simp only [hkey]
  cases hc : env.ok (.sweepHashTableContains n) with
  | false =>
    rw [if_pos (by rfl)]
    exact iff_of_true (hfails _ hc) (Or.inl rfl)
  | true =>
    rw [if_neg (by simp)]
    cases hr : env.ok (.sweepHashTableRemove n) with
    | true => simp
    | false =>
      cases hs : (c.pRemoteRtcPeerConnections (c.hashKey p)).isSome with
      | true => simpa using hfails _ hr
      | false => simp

theorem Unlinked.entry_iff (hu : Unlinked p c c') (k : UInt64) :
    (c'.pRemoteRtcPeerConnections k).isSome = true ↔
      (c.pRemoteRtcPeerConnections k).isSome = true ∧ c.hashKey p ≠ k := by
  have htable : c'.pRemoteRtcPeerConnections =
      Function.update c.pRemoteRtcPeerConnections (c.hashKey p) none := hu.table
  rw [htable, Function.update_apply]
  by_cases hk : k = c.hashKey p
  · rw [if_pos hk]
    exact iff_of_false Bool.false_ne_true fun e => e.2 hk.symm
  · rw [if_neg hk]
    exact (and_iff_left fun e => hk e.symm).symm

/-- A sweep that returns fails exactly where one of its rounds does. -/
theorem sweepLoop_fails_iff (env : Env) (left n : Nat) (i : UInt32) (h : SessionsOk c)
    (hlen : c.streamingSessionList.length = i.toNat + left) {st : Status}
    (hret : (sweepLoop env left n i c).1 = some st) :
    st ≠ .success ↔ ∃ k p, env.RoundFails n c
      (sweepOrder c.terminated left i.toNat c.streamingSessionList) k p := by
  induction left generalizing n i c with
  | zero =>
    obtain rfl : Status.success = st := Option.some.inj hret
    apply iff_of_false (fun hne => hne rfl)
    rintro ⟨k, p, hk, -⟩
    cases hk
  | succ left ih =>
    have hi : i.toNat < c.streamingSessionList.length := by omega
    have hsucc : (i + 1).toNat = i.toNat + 1 := h.toNat_succ hi
    obtain ⟨hmem, hlive⟩ := h.getD_live hi
    unfold sweepLoop at hret
    unfold sweepOrder
    simp only [hi, if_true, touchSession_of_live hlive] at hret ⊢
    generalize hp0 : c.streamingSessionList.getD i.toNat 0 = p0 at hmem hlive hret ⊢
    by_cases hflag : c.terminated p0 = true
    swap
    · -- the round looks at a session that stays
      rw [if_neg hflag]
      rw [if_neg (show ¬ (c.session p0).terminateFlag = true from hflag)] at hret
      rw [roundFails_cons (fun _ => rfl) (fun _ => rfl)
        (fun k => (and_iff_left fun e => absurd e hflag).symm)]
      have hnot : ¬ ∃ p, env.RoundFails n c
          (p0 :: sweepOrder c.terminated left (i.toNat + 1) c.streamingSessionList) 0 p := by
        rintro ⟨p, hf⟩
        obtain ⟨rfl, hp, -⟩ := roundFails_zero.mp hf
        exact hflag hp
      rw [or_iff_right hnot, ih (n + 1) (i + 1) h (by omega) hret, hsucc]
    rw [if_pos hflag]
    rw [if_pos (show (c.session p0).terminateFlag = true from hflag)] at hret
    split at hret
    · cases hret
    have hround : (∃ p, env.RoundFails n c
        (p0 :: sweepOrder c.terminated left i.toNat (swapWithLast i.toNat c.streamingSessionList)) 0 p) ↔
          (sweepUnlink env n i.toNat p0 c).1 ≠ .success := by
      rw [sweepUnlink_fails_iff]
      constructor
      · rintro ⟨p, hf⟩
        obtain ⟨rfl, -, hf⟩ := roundFails_zero.mp hf
        exact hf
      · intro hf
        exact ⟨p0, roundFails_zero.mpr ⟨rfl, hflag, hf⟩⟩
    rcases sweepUnlink_cases env n hi hp0 hlive (h.app _ hmem) hflag with
      ⟨hst, hswap, hu⟩ | ⟨hst, -⟩
    swap
    · rw [if_pos (Status.failed_eq_true.mpr hst)] at hret
      apply iff_of_true (fun e => hst (Option.some.inj (hret.trans (congrArg some e))))
      obtain ⟨p, hf⟩ := hround.mpr hst
      exact ⟨0, p, hf⟩
    rw [if_neg (by rw [Status.failed_eq_true]; exact not_not.mpr hst)] at hret
    have hsame : (sweepUnlink env n i.toNat p0 c).2.sessions = c.sessions :=
      (@sweepRemove_cases { c with streamingSessionList := swapWithLast i.toNat c.streamingSessionList }
        p0 env n).1
    have hlist : (freeStreamingSession p0 (sweepUnlink env n i.toNat p0 c).2).2.streamingSessionList =
        swapWithLast i.toNat c.streamingSessionList :=
      (congrArg Tables.streamingSessionList tables_freeStreamingSession).trans hswap
    have hterm : ∀ q, (freeStreamingSession p0 (sweepUnlink env n i.toNat p0 c).2).2.terminated q =
        c.terminated q := by
      intro q
      have hread : ∀ r, (sweepUnlink env n i.toNat p0 c).2.terminated r = c.terminated r :=
        fun r => congrArg (fun a => (Arena.read a r).terminateFlag) hsame
      rw [flag_freeStreamingSession (hsame ▸ hlive) (by rw [hread]; exact hflag), hread]
    generalize (freeStreamingSession p0 (sweepUnlink env n i.toNat p0 c).2).2 = c' at *
    have hnot : ¬ ∃ p, env.RoundFails n c (p0 :: sweepOrder c.terminated left i.toNat
        (swapWithLast i.toNat c.streamingSessionList)) 0 p := fun hf => hround.mp hf hst
    have hkey : ∀ q, c'.hashKey q = c.hashKey q := fun q => congrArg clientIdHashKey (hu.peerId q)
    have htable : ∀ k, (c'.pRemoteRtcPeerConnections k).isSome = true ↔
        (c.pRemoteRtcPeerConnections k).isSome = true ∧
          (c.terminated p0 = true → c.hashKey p0 ≠ k) := by
      intro k
      rw [hu.entry_iff, forall_prop_of_true hflag]
    rw [roundFails_cons hterm hkey htable, or_iff_right hnot]
    have hlen' := hu.list.length_eq
    rw [List.length_cons] at hlen'
    rw [hswap, ← hlist] at hret
    rw [← hlist, ← show c'.terminated = c.terminated from funext hterm]
    split at hret
    · rw [sub_add_cancel] at hret
      exact ih (n + 1) i (h.of_unlinked hu) (by omega) hret
    · obtain rfl : left = 0 := by omega
      obtain rfl : Status.success = st := Option.some.inj hret
      apply iff_of_false (fun hne => hne rfl)
      rintro ⟨k, p, hk, -⟩
      cases hk

/-! ## The sessions at the return -/

/-- Every session created and not freed is in the list. -/
def AllListed (c : AppConfiguration) : Prop :=
  ∀ p, c.sessions.live p = true → p ∈ c.streamingSessionList

theorem allListed_iff_of_owned {leaked : List PStreamingSession}
    (ho : c.sessions.Owned (c.streamingSessionList ++ leaked)) : AllListed c ↔ leaked = [] := by
  constructor
  · intro hall
    apply List.eq_nil_iff_forall_not_mem.mpr
    intro p hp
    have hlisted := hall p (ho.live (List.mem_append_right _ hp))
    exact (List.nodup_append.mp ho.nodup).2.2 p hlisted p hp rfl
  · rintro rfl p hp
    have hmem := (ho.live_iff p).mp hp
    rwa [List.append_nil] at hmem

/-- A sweep that does not fail puts no session out of the list without freeing it. -/
theorem allListed_swept (h : SessionsOk c) (hsw : Swept c c') : AllListed c' ↔ AllListed c := by
  obtain ⟨leaked, ho, -⟩ := h.owned
  rw [allListed_iff_of_owned ho, allListed_iff_of_owned ((sweptOut h hsw).owned ho)]

theorem pending_swept (h : SessionsOk c) (hsw : Swept c c') :
    c'.pRemotePeerPendingSignalingMessages = c.pRemotePeerPendingSignalingMessages :=
  (hsw.invariant (I := fun d => d.pRemotePeerPendingSignalingMessages =
    c.pRemotePeerPendingSignalingMessages) (fun _ hd hu => hu.pending.trans hd) h rfl).2

/-- `checkAppSignaling` or `removeExpiredPendingMsgQ` fails. -/
def Env.SignalingFails (env : Env) (s : ConnectionMsgQ) : Prop :=
  env.ok .checkAppSignaling = false ∨
    (removeExpiredPendingMsgQ env appPendingMessageCleanupDuration s).1.failed = true

theorem pollSignaling_fails_iff : (pollSignaling env c).1.failed = true ↔
    env.SignalingFails c.pRemotePeerPendingSignalingMessages := by
  have hpending : ∀ b : Bool, AppConfiguration.pRemotePeerPendingSignalingMessages
      (if b = true then { c with restartSignalingClient := false } else c) =
        c.pRemotePeerPendingSignalingMessages := by
    intro b
    split <;> rfl
  unfold pollSignaling Env.SignalingFails
  simp only [hpending]
  cases hc : env.ok .checkAppSignaling with
  | false =>
    refine iff_of_true ?_ (Or.inl rfl)
    exact Status.failed_eq_true.mpr fun e => Bool.false_ne_true (hc.symm.trans (Env.ok_eq_true.mpr e))
  | true =>
    exact (or_iff_right fun e => Bool.false_ne_true e.symm).symm

/-- What every iteration of a `pollApp` meets: no hash operation of its sweep fails, and where the
signaling fails after the sweep, no session was out of the list when the iteration began. -/
def PollKeeps : List Thread.PollRound → AppConfiguration → Prop
  | [], _ => True
  | r :: rounds, c =>
    let c := Run.exec step c r.events
    ¬ r.env.SweepFails c ∧
      (r.env.SignalingFails c.pRemotePeerPendingSignalingMessages → AllListed c) ∧
      (¬ r.env.SignalingFails c.pRemotePeerPendingSignalingMessages →
        PollKeeps rounds (pollApp r.env c).2)

theorem pollApp_safe_iff {t t' : Thread} {st : Status} (rounds : List Thread.PollRound)
    (h : SessionsOk t.app) (hret : Thread.pollApp rounds t = some (st, t')) :
    (t'.appConfigurationObjLock = t.appConfigurationObjLock ∧
      t'.streamingSessionListReadLock = t.streamingSessionListReadLock ∧
      (st ≠ .success → AllListed t'.app)) ↔ PollKeeps rounds t.app := by
  induction rounds generalizing t with
  | nil =>
    obtain ⟨rfl, rfl⟩ := Prod.mk.inj (Option.some.inj hret)
    exact iff_of_true ⟨rfl, rfl, fun hne => absurd rfl hne⟩ trivial
  | cons r rounds ih =>
    unfold Thread.pollApp at hret
    obtain ⟨⟨st1, t1⟩, hround, hret⟩ := Option.bind_eq_some_iff.mp hret
    obtain ⟨hpoll, hobj, hread⟩ := Thread.pollRound_of_some hround
    unfold PollKeeps
    rw [Thread.app_setApp] at hpoll hread
    simp only at hret ⊢
    have hc : SessionsOk (Run.exec step t.app r.events) :=
      Run.exec_invariant (fun _ e hs => hs.step e) h r.events
    generalize Run.exec step t.app r.events = c at hpoll hobj hread hc ⊢
    obtain ⟨s, hs⟩ : ∃ s, (sweep r.env c).1 = some s := by
      by_cases hs : (sweep r.env c).1 = some .success
      · exact ⟨_, hs⟩
      · rw [pollApp_of_stopped hs] at hpoll
        exact ⟨st1, congrArg Prod.fst hpoll⟩
    have hfails : s ≠ .success ↔ r.env.SweepFails c :=
      sweepLoop_fails_iff r.env _ 0 0 hc (Nat.zero_add _).symm hs
    have hobj' : t1.appConfigurationObjLock = t.appConfigurationObjLock := hobj
    by_cases hsweep : s = .success
    swap
    · -- the read lock stays locked
      have hne : (sweep r.env c).1 ≠ some .success := fun e => hsweep (Option.some.inj (hs ▸ e))
      rw [if_neg hne] at hread
      have hst : st1 = s := by
        rw [pollApp_of_stopped hne] at hpoll
        exact Option.some.inj ((congrArg Prod.fst hpoll).symm.trans hs)
      rw [if_pos (show st1.failed = true from Status.failed_eq_true.mpr (hst ▸ hsweep))] at hret
      obtain ⟨-, rfl⟩ := Prod.mk.inj (Option.some.inj hret)
      refine iff_of_false (fun hsafe => ?_) fun hkeeps => hkeeps.1 (hfails.mp hsweep)
      have hlocked : t1.streamingSessionListReadLock = t.streamingSessionListReadLock + 1 := hread
      omega
    subst hsweep
    rw [if_pos hs] at hread
    have hread' : t1.streamingSessionListReadLock = t.streamingSessionListReadLock := hread
    have hnot : ¬ r.env.SweepFails c := fun hf => hfails.mpr hf rfl
    obtain ⟨c1, hsw, hr, -⟩ := sweep_done r.env hc hs
    rw [pollApp_of_success hr] at hpoll
    obtain ⟨hst, happ⟩ := Prod.mk.inj hpoll
    have hst1 : (pollSignaling r.env c1).1 = st1 := Option.some.inj hst
    have hsignal := @pollSignaling_fails_iff c1 r.env
    rw [pending_swept hc hsw, hst1] at hsignal
    rw [← hsignal, pollApp_of_success hr, happ]
    by_cases hf : st1.failed = true
    · rw [if_pos hf] at hret
      obtain ⟨rfl, rfl⟩ := Prod.mk.inj (Option.some.inj hret)
      obtain ⟨hsame, htab, -⟩ := @pollSignaling_eq c1 r.env
      have hlisted : AllListed t1.app ↔ AllListed c := by
        rw [← allListed_swept hc hsw, ← happ]
        unfold AllListed
        rw [hsame, show (pollSignaling r.env c1).2.streamingSessionList = c1.streamingSessionList from
          congrArg Tables.streamingSessionList htab]
      rw [hlisted]
      constructor
      · rintro ⟨-, -, hall⟩
        exact ⟨hnot, fun _ => hall (Status.failed_eq_true.mp hf), fun hnf => absurd hf hnf⟩
      · rintro ⟨-, hall, -⟩
        exact ⟨hobj', hread', fun _ => hall hf⟩
    · rw [if_neg hf] at hret
      have hc1 : SessionsOk t1.app := by
        have hpolled := hc.poll r.env
        rw [pollApp_of_success hr, happ] at hpolled
        exact hpolled
      rw [← hobj', ← hread', ih hc1 hret]
      exact ⟨fun hk => ⟨hnot, fun e => absurd e hf, fun _ => hk⟩, fun hk => hk.2.2 hf⟩

end

/-! ## Every call -/

/-- A call by one thread of the functions that lock. -/
inductive Entry
  | pollApp (rounds : List Thread.PollRound)
  | onSignalingMessageReceived (env : Env) (msg : ReceivedSignalingMessage)
  | onMediaSinkHook (frame : Frame) (terminateApp : Bool)
  | onMediaEosHook
  | freeStreamingSession (p : PStreamingSession)

namespace Entry

def run : Entry → Thread → Option (Status × Thread)
  | .pollApp rounds, t => Thread.pollApp rounds t
  | .onSignalingMessageReceived env msg, t => t.onSignalingMessageReceived env msg
  | .onMediaSinkHook frame terminateApp, t => t.onMediaSinkHook frame terminateApp
  | .onMediaEosHook, t => t.onMediaEosHook
  | .freeStreamingSession p, t => t.freeStreamingSession p

/-- The condition under which a call gives back its locks and, if it is a `pollApp`, loses no
session. -/
def Keeps : Entry → AppConfiguration → Prop
  | .pollApp rounds, c => PollKeeps rounds c
  | _, _ => True

def isPoll : Entry → Bool
  | .pollApp _ => true
  | _ => false

variable {call : Entry} {t t' : Thread} {st : Status}

/-- Any other call than `pollApp` changes the configuration only. -/
theorem setApp_of_some (hpoll : call.isPoll = false) (hret : call.run t = some (st, t')) :
    t' = t.setApp t'.app := by
  cases call with
  | pollApp rounds => cases hpoll
  | onSignalingMessageReceived env msg => exact (Thread.onSignalingMessageReceived_of_some hret).2
  | onMediaSinkHook frame terminateApp =>
    rw [Thread.onMediaSinkHook_of_some hret]
    rfl
  | onMediaEosHook =>
    rw [Thread.onMediaEosHook_of_some hret]
    rfl
  | freeStreamingSession p =>
    rw [(Thread.freeStreamingSession_of_some hret).2]
    rfl

/-- At a return the thread holds the locks as at the entry, and an error of `pollApp` leaves every
session in the list, exactly if the call keeps to its condition. -/
theorem safe_iff (h : SessionsOk t.app) (hret : call.run t = some (st, t')) :
    (t'.appConfigurationObjLock = t.appConfigurationObjLock ∧
      t'.streamingSessionListReadLock = t.streamingSessionListReadLock ∧
      (call.isPoll = true → st ≠ .success → AllListed t'.app)) ↔ call.Keeps t.app := by
  cases hpoll : call.isPoll with
  | true =>
    cases call with
    | pollApp rounds =>
      rw [forall_prop_of_true rfl]
      exact pollApp_safe_iff rounds h hret
    | _ => cases hpoll
  | false =>
    have hsame := setApp_of_some hpoll hret
    refine iff_of_true ⟨?_, ?_, fun hp => absurd hp Bool.false_ne_true⟩ ?_
    · rw [hsame]
      rfl
    · rw [hsame]
      rfl
    · cases call with
      | pollApp rounds => cases hpoll
      | _ => trivial

/-- One client connected, and its connection was closed. -/
def closedOnce : Thread where
  app := Run.exec step (AppConfiguration.initApp true)
    [.message Env.allOk (candidateOf clientA [1]), .message Env.allOk (offerOf clientA),
      .connectionStateChange 0 .closed]
  appConfigurationObjLock := 0
  streamingSessionListReadLock := 0

theorem safe_iff_closedOnce : ∃ st t',
    (Entry.pollApp [⟨[], Env.allOk⟩]).run closedOnce = some (st, t') ∧
      ((t'.appConfigurationObjLock = 0 ∧ t'.streamingSessionListReadLock = 0 ∧
        ((Entry.pollApp [⟨[], Env.allOk⟩]).isPoll = true → st ≠ .success → AllListed t'.app)) ↔
          PollKeeps [⟨[], Env.allOk⟩] closedOnce.app) := by
  obtain ⟨⟨st, t'⟩, hret⟩ := Option.isSome_iff_exists.mp
    (show ((Entry.pollApp [⟨[], Env.allOk⟩]).run closedOnce).isSome = true by decide +kernel)
  exact ⟨st, t', hret, safe_iff (sessionsOk_of_reachable ⟨_, rfl⟩) hret⟩

/-- `appHashTableContains` fails in the first round of the sweep. -/
def containsFails : Env :=
  { Env.allOk with
    status := fun call => if call = .sweepHashTableContains 0 then .sdk 1 else .success }

/-- `pollApp` returns with the read lock held once more, and the session is lost. -/
theorem not_safe_containsFails : ∃ st t',
    (Entry.pollApp [⟨[], containsFails⟩]).run closedOnce = some (st, t') ∧
      st ≠ .success ∧ t'.streamingSessionListReadLock = 1 ∧
      t'.app.sessions.live 0 = true ∧ 0 ∉ t'.app.streamingSessionList ∧
      ¬ (t'.appConfigurationObjLock = closedOnce.appConfigurationObjLock ∧
        t'.streamingSessionListReadLock = closedOnce.streamingSessionListReadLock ∧
        (st ≠ .success → AllListed t'.app)) := by
  have hrun : ((Entry.pollApp [⟨[], containsFails⟩]).run closedOnce).map
      (fun r => (r.1, r.2.streamingSessionListReadLock, r.2.app.sessions.live 0,
        decide (0 ∈ r.2.app.streamingSessionList))) = some (.sdk 1, 1, true, false) := by
    decide +kernel
  obtain ⟨⟨st, t'⟩, hret, heq⟩ := Option.map_eq_some_iff.mp hrun
  simp only [Prod.mk.injEq, decide_eq_false_iff_not] at heq
  obtain ⟨rfl, hread, hlive, hnot⟩ := heq
  refine ⟨_, t', hret, Status.noConfusion, hread, hlive, hnot, ?_⟩
  rintro ⟨-, hsame, -⟩
  rw [hread] at hsame
  exact absurd hsame (by decide)

end Entry

end WebrtcApp
