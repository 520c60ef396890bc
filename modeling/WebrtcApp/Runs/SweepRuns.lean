import WebrtcApp.Runs.LockBalance
import WebrtcApp.Runs.Sweep
import WebrtcApp.Runs.Teardown

/-!
# A sweep among the other threads

The callbacks of the other threads raise terminate flags while `pollApp` sweeps.  A flag that was
up when the sweep began is honoured by it; one that goes up on the way may wait for the next one.

    terminated_swept    what a sweep takes out, whatever the other threads do
    sweep_ends          the steps it takes, but for those that wait for the read lock
-/

namespace WebrtcApp

/-! ## What a sweep has done so far -/

/-- From `c0` to `c` sessions were only taken out, and only terminated ones: `taken` are the ones
that are not freed yet, and in `ahead` are those that the sweep must still come to. -/
structure SweptSince (c0 c : AppConfiguration) (taken ahead : List PStreamingSession) : Prop where
  next : c.sessions.next = c0.sessions.next
  peerId : ∀ p, (c.session p).peerId = (c0.session p).peerId
  raised : ∀ p, (c0.session p).terminateFlag = true → (c.session p).terminateFlag = true
  subset : ∀ p ∈ c.streamingSessionList, p ∈ c0.streamingSessionList
  list : ∀ p ∈ c0.streamingSessionList, p ∈ c.streamingSessionList ∨
    (c.session p).terminateFlag = true ∧ (p ∈ taken ∨ c.sessions.live p = false ∧
      c.pRemoteRtcPeerConnections (clientIdHashKey (c.session p).peerId) = none)
  ahead : ∀ p ∈ c0.streamingSessionList, (c0.session p).terminateFlag = true →
    c.sessions.live p = true → p ∈ ahead

namespace SweptSince

variable {c0 c c' : AppConfiguration} {p : PStreamingSession}
  {taken ahead ahead' : List PStreamingSession}

theorem start (c : AppConfiguration) : SweptSince c c [] c.streamingSessionList :=
  ⟨rfl, fun _ => rfl, fun _ h => h, fun _ h => h, fun _ h => Or.inl h, fun _ h _ _ => h⟩

/-- What the other threads do. -/
theorem of_kept {P : PStreamingSession → Prop} (h : SweptSince c0 c taken ahead) (hk : Kept P c c') :
    SweptSince c0 c' taken ahead where
  next := hk.next.trans h.next
  peerId p := (hk.peerId p).trans (h.peerId p)
  raised p hp := hk.raised p (h.raised p hp)
  subset p hp := h.subset p (hk.list ▸ hp)
  list p hp := by
    rw [hk.list, hk.live, hk.table, hk.peerId]
    exact (h.list p hp).imp_right fun hout => ⟨hk.raised p hout.1, hout.2⟩
  ahead p hp hflag hlive := h.ahead p hp hflag (hk.live p ▸ hlive)

/-- The sweep passes sessions that are not terminated. -/
theorem pass (h : SweptSince c0 c taken ahead)
    (hpass : ∀ p ∈ ahead, p ∈ ahead' ∨ (c.session p).terminateFlag = false) :
    SweptSince c0 c taken ahead' where
  next := h.next
  peerId := h.peerId
  raised := h.raised
  subset := h.subset
  list := h.list
  ahead p hp hflag hlive := by
    rcases hpass p (h.ahead p hp hflag hlive) with hp' | hdown
    · exact hp'
    · exact absurd ((h.raised p hflag).symm.trans hdown) Bool.noConfusion

/-- A terminated session leaves the list. -/
theorem unlink (h : SweptSince c0 c [] ahead) {list : List PStreamingSession}
    (hlist : (p :: list).Perm c.streamingSessionList)
    (hflag : (c.session p).terminateFlag = true) :
    SweptSince c0 { c with streamingSessionList := list } [p] ahead where
  next := h.next
  peerId := h.peerId
  raised := h.raised
  subset q hq := h.subset q (hlist.mem_iff.mp (List.mem_cons_of_mem _ hq))
  list q hq := by
    rcases h.list q hq with hq | ⟨hup, hq | hq⟩
    · rcases List.mem_cons.mp (hlist.mem_iff.mpr hq) with rfl | hq
      · exact Or.inr ⟨hflag, Or.inl List.mem_cons_self⟩
      · exact Or.inl hq
    · exact absurd hq List.not_mem_nil
    · exact Or.inr ⟨hup, Or.inr hq⟩
  ahead := h.ahead

/-- Keys leave the hash table. -/
theorem removeKey (h : SweptSince c0 c taken ahead) (hs : c'.sessions = c.sessions)
    (hl : c'.streamingSessionList = c.streamingSessionList)
    (ht : ∀ k, c.pRemoteRtcPeerConnections k = none → c'.pRemoteRtcPeerConnections k = none) :
    SweptSince c0 c' taken ahead := by
  have hread : ∀ q, c'.session q = c.session q := fun q => congrArg (Arena.read · q) hs
  refine ⟨hs ▸ h.next, fun q => by rw [hread]; exact h.peerId q,
    fun q hq => by rw [hread]; exact h.raised q hq, fun q hq => h.subset q (hl ▸ hq),
    fun q hq => ?_, fun q hq hflag hlive => h.ahead q hq hflag (hs ▸ hlive)⟩
  rw [hl, hread, hs]
  exact (h.list q hq).imp_right fun hout =>
    ⟨hout.1, hout.2.imp_right fun hdead => ⟨hdead.1, ht _ hdead.2⟩⟩

/-- And it is freed. -/
theorem free (h : SweptSince c0 c [p] (p :: ahead)) (hs : SessionsOk c) (hp : Unnamed c p)
    (hkey : c.pRemoteRtcPeerConnections (clientIdHashKey (c.session p).peerId) = none) :
    SweptSince c0 (freeStreamingSession p c).2 [] ahead := by
  obtain ⟨rest, ho, -⟩ := hs.split_unlisted hp.toUnlisted
  have hown : c.sessions.Owned (p :: (c.streamingSessionList ++ rest)) := ho.perm List.perm_middle
  have hfreed : (freeStreamingSession p c).2.sessions.Owned (c.streamingSessionList ++ rest) := by
    rcases freeStreamingSession_owned hown with ⟨-, hfreed⟩ | ⟨hfalse, -⟩
    · exact hfreed
    · exact absurd (hp.app.symm.trans hfalse) Bool.noConfusion
  have hdead : (freeStreamingSession p c).2.sessions.live p = false :=
    Bool.eq_false_iff.mpr fun hl =>
      (List.nodup_cons.mp hown.nodup).1 ((hfreed.live_iff p).mp hl)
  have hlive : ∀ q, q ≠ p →
      (freeStreamingSession p c).2.sessions.live q = c.sessions.live q := by
    intro q hne
    rw [Bool.eq_iff_iff, hfreed.live_iff, hown.live_iff, List.mem_cons, or_iff_right hne]
  have hup : ∀ q, (c.session q).terminateFlag = true →
      ((freeStreamingSession p c).2.session q).terminateFlag = true := by
    intro q hq
    by_cases hne : p = q
    · subst hne
      exact (flag_freeStreamingSession hp.live hq p).trans hq
    · rw [session_freeStreamingSession hne]
      exact hq
  have hid : ∀ q, ((freeStreamingSession p c).2.session q).peerId = (c.session q).peerId :=
    fun q => (identity_freeStreamingSession hp.live).1
  have ht := @tables_freeStreamingSession c p
  have hlist : (freeStreamingSession p c).2.streamingSessionList = c.streamingSessionList :=
    congrArg Tables.streamingSessionList ht
  have htable : (freeStreamingSession p c).2.pRemoteRtcPeerConnections =
      c.pRemoteRtcPeerConnections := congrArg Tables.pRemoteRtcPeerConnections ht
  refine ⟨next_freeStreamingSession.trans h.next, fun q => (hid q).trans (h.peerId q),
    fun q hq => hup q (h.raised q hq), fun q hq => h.subset q (hlist ▸ hq), fun q hq => ?_,
    fun q hq hflag hl => ?_⟩
  · rw [hlist, htable, hid]
    rcases h.list q hq with hq | ⟨hflag, hq | ⟨hq, hnone⟩⟩
    · exact Or.inl hq
    · obtain rfl := List.mem_singleton.mp hq
      exact Or.inr ⟨hup q hflag, Or.inr ⟨hdead, hkey⟩⟩
    · have hne : q ≠ p := fun e => Bool.false_ne_true (hq.symm.trans (e ▸ hp.live))
      exact Or.inr ⟨hup q hflag, Or.inr ⟨(hlive q hne).trans hq, hnone⟩⟩
  · have hne : q ≠ p := fun e => Bool.false_ne_true (hdead.symm.trans (e ▸ hl))
    exact (List.mem_cons.mp (h.ahead q hq hflag (hlive q hne ▸ hl))).resolve_left hne

end SweptSince

/-! ## The steps -/

namespace Holder

/-- The holder sweeps, with the results of calls in `env`. -/
def Sweeps (env : Env) (c : AppConfiguration) : Holder → Prop
  | .sweepScan e _ _ => e = env
  | .sweepFound e _ _ p | .sweepUnlinked e _ _ p =>
    e = env ∧ (c.session p).terminateFlag = true
  | .sweepRemoved e _ _ p =>
    e = env ∧ c.pRemoteRtcPeerConnections (clientIdHashKey (c.session p).peerId) = none
  | _ => False

/-- What the sweep must still come to. -/
def ahead (list : List PStreamingSession) : Holder → List PStreamingSession
  | .sweepScan _ _ i | .sweepFound _ _ i _ => list.drop i.toNat
  | .sweepUnlinked _ _ i p | .sweepRemoved _ _ i p => p :: list.drop i.toNat
  | _ => []

end Holder

/-- A sweep that began with `c0`. -/
structure Sweeping (env : Env) (c0 : AppConfiguration) (w : World) : Prop where
  world : WorldOk w
  holder : w.holder.Sweeps env w.app
  since : SweptSince c0 w.app w.holder.held (w.holder.ahead w.app.streamingSessionList)

/-- The sweep is over. -/
structure SweepDone (c0 : AppConfiguration) (w : World) : Prop where
  world : WorldOk w
  idle : w.holder = .idle
  since : SweptSince c0 w.app [] []

section
variable {w : World} {env : Env} {c0 : AppConfiguration}

theorem Holder.Sweeps.of_kept {P : PStreamingSession → Prop} {c c' : AppConfiguration}
    {holder : Holder} (h : holder.Sweeps env c) (hk : Kept P c c') : holder.Sweeps env c' := by
  cases holder with
  | sweepScan => exact h
  | sweepFound _ _ _ p => exact ⟨h.1, hk.raised p h.2⟩
  | sweepUnlinked _ _ _ p => exact ⟨h.1, hk.raised p h.2⟩
  | sweepRemoved _ _ _ p =>
    refine ⟨h.1, ?_⟩
    rw [hk.table, hk.peerId]
    exact h.2
  | _ => exact h.elim

theorem Sweeping.busy (h : Sweeping env c0 w) : w.holder ≠ .idle := by
  intro hidle
  have hs := h.holder
  rw [hidle] at hs
  exact hs

/-- What the other threads do while the lock is held. -/
theorem World.kept_step (h : WorldOk w) (hbusy : w.holder ≠ .idle) {a : Action} (ha : a ≠ .advance) :
    (∃ P, Kept P w.app (w.step a).app) ∧ (w.step a).holder = w.holder := by
  have hsame : ∀ w' : World, w'.app.tables = w.app.tables → w'.app.sessions = w.app.sessions →
      w'.holder = w.holder → (∃ P, Kept P w.app w'.app) ∧ w'.holder = w.holder :=
    fun w' ht hs hh => ⟨⟨fun _ => False, Kept.of_eq ht hs⟩, hh⟩
  have hrefl := hsame w rfl rfl rfl
  have hwhen : ∀ w' : World,
      (∃ P, Kept P w.app (w.whenIdle w').app) ∧ (w.whenIdle w').holder = w.holder := fun w' =>
    World.whenIdle_elim (P := fun x => (∃ P, Kept P w.app x.app) ∧ x.holder = w.holder) hrefl
      fun hidle => absurd hidle hbusy
  cases a with
  | receive env msg => exact hwhen _
  | poll env => exact hwhen _
  | mediaEos => exact hwhen _
  | pregenerateCert env => exact hwhen _
  | advance => exact absurd rfl ha
  | addStats =>
    obtain ⟨id, happ⟩ := w.app_addStats
    refine hsame w.addStats (by rw [happ]; rfl) (by rw [happ]) ?_
    unfold World.addStats
    split <;> rfl
  | mediaFrame frame =>
    show (∃ P, Kept P w.app (if w.readLockFree then _ else w).app) ∧
      (if w.readLockFree then _ else w).holder = _
    split <;> exact hrefl
  | advanceHook =>
    show (∃ P, Kept P w.app w.advanceHook.app) ∧ w.advanceHook.holder = _
    unfold World.advanceHook
    split
    · exact hrefl
    · next frame i _ =>
      split
      · next hi => exact ⟨⟨_, sinkFrame_kept frame (h.getD_live hi).2⟩, rfl⟩
      · exact hrefl
  | connectionStateChange p st =>
    show (∃ P, Kept P w.app (if w.app.sessions.live p then _ else w).app) ∧
      (if w.app.sessions.live p then _ else w).holder = _
    split
    · next hp => exact ⟨⟨_, onConnectionStateChange_kept st hp⟩, rfl⟩
    · exact hrefl
  | mediaSenderDone => exact hsame _ rfl rfl rfl
  | restartRequested => exact hsame _ rfl rfl rfl

/-- A round of the scan that finds a session. -/
theorem World.advance_sweepScan {c : AppConfiguration} {n : Nat} {i : UInt32}
    {hook : Option (Frame × Nat)} {adds : List Env} (h : SessionsOk c)
    (hi : i.toNat < c.streamingSessionList.length) :
    World.advance ⟨c, .sweepScan env n i, hook, adds⟩ = ⟨c,
      if (c.session (c.streamingSessionList.getD i.toNat 0)).terminateFlag then
        .sweepFound env n i (c.streamingSessionList.getD i.toNat 0)
      else .sweepScan env (n + 1) (i + 1), hook, adds⟩ := by
  refine (if_pos hi).trans ?_
  simp only [touchSession_of_live (h.getD_live hi).2]

theorem drop_swapWithLast_perm {i : Nat} {list : List PStreamingSession} (h : i < list.length) :
    (list.getD i 0 :: (swapWithLast i list).drop i).Perm (list.drop i) := by
  have hperm := swapWithLast_perm h
  rw [← List.take_append_drop i (swapWithLast i list), take_swapWithLast h] at hperm
  have hall := List.perm_middle.trans hperm
  conv_rhs at hall => rw [← List.take_append_drop i list]
  exact (List.perm_append_left_iff _).mp hall

namespace Sweeping

theorem poll (h : WorldOk w) (hidle : w.holder = .idle) (env : Env) :
    Sweeping env w.app (w.step (.poll env)) := by
  have hstep : w.step (.poll env) = { w with holder := .sweepScan env 0 0 } := by
    show w.whenIdle _ = _
    unfold World.whenIdle
    rw [hidle]
  have hworld := h.step (.poll env)
  rw [hstep] at hworld ⊢
  exact ⟨hworld, rfl, SweptSince.start w.app⟩

/-- A step of `pollApp`, which ends the sweep or goes on with it. -/
theorem advance (h : Sweeping env c0 w) (henv : env.SweepOk) :
    Sweeping env c0 w.advance ∨ SweepDone c0 w.advance := by
  have hworld : WorldOk w.advance := h.world.step .advance
  have hsweeps := h.holder
  have hsince := h.since
  have hok := h.world
  obtain ⟨c, holder, hook, adds⟩ := w
  cases holder with
  | sweepScan e n i =>
    obtain rfl : e = env := hsweeps
    by_cases hi : i.toNat < c.streamingSessionList.length
    · have hstep := @World.advance_sweepScan e c n i hook adds hok.sessions hi
      left
      cases hflag : (c.session (c.streamingSessionList.getD i.toNat 0)).terminateFlag with
      | true =>
        rw [hflag, if_pos rfl] at hstep
        rw [hstep] at hworld ⊢
        exact ⟨hworld, ⟨rfl, hflag⟩, hsince⟩
      | false =>
        rw [hflag, if_neg Bool.false_ne_true] at hstep
        rw [hstep] at hworld ⊢
        refine ⟨hworld, rfl, hsince.pass fun p hp => ?_⟩
        have hp : p ∈ c.streamingSessionList.drop i.toNat := hp
        rw [List.drop_eq_getElem_cons hi] at hp
        rw [List.getD_eq_getElem _ 0 hi] at hflag
        rcases List.mem_cons.mp hp with rfl | hp
        · exact Or.inr hflag
        · left
          show p ∈ c.streamingSessionList.drop (i + 1).toNat
          rw [hok.sessions.toNat_succ hi]
          exact hp
    · have hstep : World.advance ⟨c, .sweepScan e n i, hook, adds⟩ =
          ⟨(pollSignaling e c).2, .idle, hook, adds⟩ := if_neg hi
      have hend : c.streamingSessionList.drop i.toNat = [] :=
        List.drop_eq_nil_of_le (Nat.le_of_not_lt hi)
      obtain ⟨hs, ht, -⟩ := @pollSignaling_eq c e
      have hdone : SweptSince c0 (pollSignaling e c).2 [] [] := by
        have hc : SweptSince c0 c [] (c.streamingSessionList.drop i.toNat) := hsince
        rw [hend] at hc
        refine hc.removeKey hs (congrArg Tables.streamingSessionList ht) fun k hk => ?_
        exact (congrFun (congrArg Tables.pRemoteRtcPeerConnections ht) k).trans hk
      right
      rw [hstep] at hworld ⊢
      exact ⟨hworld, rfl, hdone⟩
  | sweepFound e n i p =>
    obtain ⟨rfl, hflag⟩ : e = env ∧ _ := hsweeps
    obtain ⟨hi, hp⟩ : i.toNat < c.streamingSessionList.length ∧
      c.streamingSessionList.getD i.toNat 0 = p := hok.holder
    left
    by_cases hlock : World.readLockFree ⟨c, .sweepFound e n i p, hook, adds⟩ = true
    · have hstep : World.advance ⟨c, .sweepFound e n i p, hook, adds⟩ =
          ⟨{ c with streamingSessionList := swapWithLast i.toNat c.streamingSessionList },
            .sweepUnlinked e n i p, hook, adds⟩ := if_pos hlock
      rw [hstep] at hworld ⊢
      have hperm := swapWithLast_perm hi
      have hdrop := drop_swapWithLast_perm hi
      rw [hp] at hperm hdrop
      refine ⟨hworld, ⟨rfl, hflag⟩, (hsince.unlink hperm hflag).pass fun q hq => Or.inl ?_⟩
      exact hdrop.mem_iff.mpr hq
    · have hstep : World.advance ⟨c, .sweepFound e n i p, hook, adds⟩ = _ := if_neg hlock
      rw [hstep]
      exact h
  | sweepUnlinked e n i p =>
    obtain ⟨rfl, hflag⟩ : e = env ∧ _ := hsweeps
    have hret : (sweepRemove e n p c).1.failed = false := by
      unfold sweepRemove
      simp [(henv n).1, (henv n).2]
    have hstep : World.advance ⟨c, .sweepUnlinked e n i p, hook, adds⟩ =
        ⟨(sweepRemove e n p c).2, .sweepRemoved e n i p, hook, adds⟩ := by
      show World.mk _ (if (sweepRemove e n p c).1.failed then _ else _) _ _ = _
      rw [hret]
      rfl
    obtain ⟨hs, ⟨-, ht⟩ | ⟨hbad, -⟩⟩ := @sweepRemove_cases c p e n
    swap
    · exact absurd (Status.failed_eq_false.mp hret) hbad
    have htable : (sweepRemove e n p c).2.pRemoteRtcPeerConnections =
        Function.update c.pRemoteRtcPeerConnections (clientIdHashKey (c.session p).peerId) none :=
      congrArg Tables.pRemoteRtcPeerConnections ht
    have hlist : (sweepRemove e n p c).2.streamingSessionList = c.streamingSessionList :=
      congrArg Tables.streamingSessionList ht
    left
    rw [hstep] at hworld ⊢
    refine ⟨hworld, ⟨rfl, ?_⟩, ?_⟩
    · have hread : (sweepRemove e n p c).2.session p = c.session p := congrArg (Arena.read · p) hs
      rw [hread, htable]
      exact Function.update_self ..
    · have hahead : Holder.ahead (sweepRemove e n p c).2.streamingSessionList
          (.sweepRemoved e n i p) = p :: c.streamingSessionList.drop i.toNat := by
        rw [hlist]
        rfl
      rw [hahead]
      refine hsince.removeKey hs hlist fun k hk => ?_
      rw [htable, Function.update_apply, hk, ite_self]
  | sweepRemoved e n i p =>
    obtain ⟨rfl, hkey⟩ : e = env ∧ _ := hsweeps
    have hp : Unnamed c p := hok.holder
    have hfree : SweptSince c0 (freeStreamingSession p c).2 []
        (c.streamingSessionList.drop i.toNat) := hsince.free hok.sessions hp hkey
    have hlist : (freeStreamingSession p c).2.streamingSessionList = c.streamingSessionList :=
      congrArg Tables.streamingSessionList tables_freeStreamingSession
    refine Or.inl ⟨hworld, rfl, hfree.pass fun q hq => Or.inl ?_⟩
    show q ∈ (freeStreamingSession p c).2.streamingSessionList.drop
      ((if c.streamingSessionList.length > 0 then i - 1 else i) + 1).toNat
    rw [hlist]
    split
    · rw [sub_add_cancel]
      exact hq
    · next hnil =>
      rw [List.length_eq_zero_iff.mp (Nat.eq_zero_of_not_pos hnil), List.drop_nil] at hq
      exact absurd hq List.not_mem_nil
  | _ => exact hsweeps.elim

theorem step (h : Sweeping env c0 w) (henv : env.SweepOk) (a : Action) :
    Sweeping env c0 (w.step a) ∨ SweepDone c0 (w.step a) := by
  by_cases ha : a = .advance
  · subst ha
    exact h.advance henv
  · obtain ⟨⟨P, hk⟩, hholder⟩ := World.kept_step h.world h.busy ha
    refine Or.inl ⟨h.world.step a, ?_, ?_⟩
    · rw [hholder]
      exact h.holder.of_kept hk
    · rw [hholder, hk.list]
      exact h.since.of_kept hk

/-- The sweep is over when its lock is free again. -/
theorem exec (h : Sweeping env c0 w) (henv : env.SweepOk) {as : List Action}
    (has : Run.Along World.step (fun w _ => w.holder ≠ .idle) w as)
    (hidle : (Run.exec World.step w as).holder = .idle) :
    SweepDone c0 (Run.exec World.step w as) := by
  induction as generalizing w with
  | nil => exact absurd hidle h.busy
  | cons a as ih =>
    rcases h.step henv a with hstep | hdone
    · exact ih hstep has.2 hidle
    · cases as with
      | nil => exact hdone
      | cons b as => exact absurd hdone.idle has.2.1

end Sweeping

end

/-! ## The number of steps -/

/-- The steps of the sweep that are left, at most. -/
def World.sweepRank (w : World) : Nat :=
  let count := w.app.streamingSessionList.length
  match w.holder with
  | .sweepScan _ _ i => 4 * (count - i.toNat) + 1
  | .sweepFound _ _ i _ => 4 * (count - i.toNat)
  | .sweepUnlinked _ _ i _ => 4 * (count - i.toNat) + 3
  | .sweepRemoved _ _ i _ => 4 * (count - i.toNat) + 2
  | _ => 0

/-- The holder is at a step of the sweep. -/
def Holder.InSweep : Holder → Prop
  | .sweepScan .. | .sweepFound .. | .sweepUnlinked .. | .sweepRemoved .. => True
  | _ => False

/-- A step of the holder that does not wait. -/
def World.takes (w : World) : Action → Nat
  | .advance => (!w.waits).toNat
  | _ => 0

/-- The steps of a run that the holder of the lock takes. -/
def World.ownSteps (w : World) : List Action → Nat
  | [] => 0
  | a :: as => w.takes a + ownSteps (w.step a) as

section
variable {w : World}

theorem World.advance_of_waits (h : w.waits = true) : w.advance = w := by
  have hlock : ∀ {b : Bool}, (!b) = true → ¬ b = true := by decide
  unfold World.waits at h
  unfold World.advance
  split at h
  · next hh =>
    simp only [hh, if_neg (hlock h)]
  · next hh =>
    simp only [hh, if_neg (hlock h)]
  · cases h

/-- A step of the sweep, whatever its calls return, goes on with it or ends it. -/
theorem World.inSweep_advance (hok : WorldOk w) (h : w.holder.InSweep) :
    w.advance.holder.InSweep ∨ w.advance.holder = .idle := by
  obtain ⟨c, holder, hook, adds⟩ := w
  cases holder with
  | sweepScan e n i =>
    by_cases hi : i.toNat < c.streamingSessionList.length
    · have hstep : World.advance ⟨c, .sweepScan e n i, hook, adds⟩ = _ :=
        World.advance_sweepScan hok.sessions hi
      rw [hstep]
      left
      simp only
      split <;> trivial
    · have hstep : World.advance ⟨c, .sweepScan e n i, hook, adds⟩ = _ := if_neg hi
      rw [hstep]
      exact Or.inr rfl
  | sweepFound e n i p =>
    by_cases hlock : World.readLockFree ⟨c, .sweepFound e n i p, hook, adds⟩ = true
    · have hstep : World.advance ⟨c, .sweepFound e n i p, hook, adds⟩ = _ := if_pos hlock
      rw [hstep]
      exact Or.inl trivial
    · have hstep : World.advance ⟨c, .sweepFound e n i p, hook, adds⟩ = _ := if_neg hlock
      rw [hstep]
      exact Or.inl trivial
  | sweepUnlinked e n i p =>
    show Holder.InSweep (if (sweepRemove e n p c).1.failed then .idle else .sweepRemoved e n i p) ∨
      (if (sweepRemove e n p c).1.failed then .idle else .sweepRemoved e n i p) = Holder.idle
    split
    · exact Or.inr rfl
    · exact Or.inl trivial
  | sweepRemoved e n i p => exact Or.inl trivial
  | _ => exact h.elim

theorem World.sweepRank_advance (hok : WorldOk w) (h : w.holder.InSweep) (hwaits : w.waits = false) :
    w.advance.sweepRank < w.sweepRank := by
  obtain ⟨c, holder, hook, adds⟩ := w
  cases holder with
  | sweepScan e n i =>
    by_cases hi : i.toNat < c.streamingSessionList.length
    · have hstep : World.advance ⟨c, .sweepScan e n i, hook, adds⟩ = _ :=
        World.advance_sweepScan hok.sessions hi
      rw [hstep]
      unfold World.sweepRank
      split
      · exact Nat.lt_succ_self _
      · show 4 * (c.streamingSessionList.length - (i + 1).toNat) + 1 <
          4 * (c.streamingSessionList.length - i.toNat) + 1
        rw [hok.sessions.toNat_succ hi]
        omega
    · have hstep : World.advance ⟨c, .sweepScan e n i, hook, adds⟩ = _ := if_neg hi
      rw [hstep]
      exact Nat.succ_pos _
  | sweepFound e n i p =>
    have hi : i.toNat < c.streamingSessionList.length := hok.holder.1
    have hlock : World.readLockFree ⟨c, .sweepFound e n i p, hook, adds⟩ = true :=
      by simpa [World.waits] using hwaits
    have hstep : World.advance ⟨c, .sweepFound e n i p, hook, adds⟩ = _ := if_pos hlock
    have hlen := (swapWithLast_perm hi).length_eq
    rw [List.length_cons] at hlen
    rw [hstep]
    show 4 * ((swapWithLast i.toNat c.streamingSessionList).length - i.toNat) + 3 <
      4 * (c.streamingSessionList.length - i.toNat)
    omega
  | sweepUnlinked e n i p =>
    have hlist : (sweepRemove e n p c).2.streamingSessionList = c.streamingSessionList := by
      rcases (@sweepRemove_cases c p e n).2 with ⟨-, ht⟩ | ⟨-, ht⟩ <;>
        exact congrArg Tables.streamingSessionList ht
    show World.sweepRank ⟨(sweepRemove e n p c).2,
      if (sweepRemove e n p c).1.failed then .idle else .sweepRemoved e n i p, hook, adds⟩ < _
    unfold World.sweepRank
    split
    · exact Nat.succ_pos _
    · show 4 * ((sweepRemove e n p c).2.streamingSessionList.length - i.toNat) + 2 <
        4 * (c.streamingSessionList.length - i.toNat) + 3
      rw [hlist]
      exact Nat.lt_succ_self _
  | sweepRemoved e n i p =>
    have hlist : (freeStreamingSession p c).2.streamingSessionList = c.streamingSessionList :=
      congrArg Tables.streamingSessionList tables_freeStreamingSession
    show 4 * ((freeStreamingSession p c).2.streamingSessionList.length -
        ((if c.streamingSessionList.length > 0 then i - 1 else i) + 1).toNat) + 1 <
      4 * (c.streamingSessionList.length - i.toNat) + 2
    rw [hlist]
    split
    · rw [sub_add_cancel]
      exact Nat.lt_succ_self _
    · omega
  | _ => exact h.elim

/-- The steps that the other threads take, and those that wait, leave it. -/
theorem World.sweepRank_step (hok : WorldOk w) (h : w.holder.InSweep) (a : Action) :
    w.takes a + (w.step a).sweepRank ≤ w.sweepRank := by
  by_cases ha : a = .advance
  · subst ha
    show (!w.waits).toNat + w.advance.sweepRank ≤ _
    cases hwaits : w.waits with
    | true =>
      rw [World.advance_of_waits hwaits]
      exact (Nat.zero_add _).le
    | false =>
      have hlt := World.sweepRank_advance hok h hwaits
      show 1 + w.advance.sweepRank ≤ _
      omega
  · have hbusy : w.holder ≠ .idle := by
      intro hidle
      rw [hidle] at h
      exact h
    obtain ⟨⟨P, hk⟩, hholder⟩ := World.kept_step hok hbusy ha
    have hsame : (w.step a).sweepRank = w.sweepRank := by
      unfold World.sweepRank
      rw [hholder, hk.list]
    have hnone : w.takes a = 0 := by
      cases a with
      | advance => exact absurd rfl ha
      | _ => rfl
    rw [hsame, hnone, Nat.zero_add]

/-- While the sweep is not over, its steps so far and those left are at most what was left. -/
theorem World.ownSteps_le (hok : WorldOk w) (h : w.holder.InSweep) {as : List Action}
    (has : Run.Along World.step (fun w _ => w.holder ≠ .idle) w as) :
    w.ownSteps as ≤ w.sweepRank := by
  induction as generalizing w with
  | nil => exact Nat.zero_le _
  | cons a as ih =>
    have hstep := World.sweepRank_step hok h a
    have hnext : (w.step a).holder.InSweep ∨ (w.step a).holder = .idle := by
      by_cases ha : a = .advance
      · subst ha
        exact World.inSweep_advance hok h
      · rw [(World.kept_step hok has.1 ha).2]
        exact Or.inl h
    have hrest : (w.step a).ownSteps as ≤ (w.step a).sweepRank := by
      rcases hnext with hnext | hidle
      · exact ih (hok.step a) hnext has.2
      · cases as with
        | nil => exact Nat.zero_le _
        | cons b as => exact absurd hidle has.2.1
    show w.takes a + (w.step a).ownSteps as ≤ _
    omega

end

/-! ## Runs -/

instance : (holder : Holder) → Decidable (holder = .idle)
  | .idle => isTrue rfl
  | .offerCreated .. | .offerListed .. | .offerAnswered .. | .offerEntered .. | .sweepScan ..
  | .sweepFound .. | .sweepUnlinked .. | .sweepRemoved .. | .eosHook _ => isFalse nofun

/-- Whatever the other threads do while `pollApp` sweeps, and with the hash table's calls succeeding:
the sessions that were terminated when it began are freed, once, and their keys are out of the hash
table; the others are still listed, or they were terminated on the way and are freed as well. -/
theorem terminated_swept {latched : Bool} {w : World}
    (hw : Run.Reachable World.step (World.start latched) w) (hidle : w.holder = .idle) {env : Env}
    (henv : env.SweepOk) {as : List Action}
    (hbusy : Run.Along World.step (fun w _ => w.holder ≠ .idle) (w.step (.poll env)) as)
    (hdone : (Run.exec World.step (w.step (.poll env)) as).holder = .idle) :
    let c := w.app
    let c' := (Run.exec World.step (w.step (.poll env)) as).app
    (∀ p ∈ c'.streamingSessionList, p ∈ c.streamingSessionList) ∧
      ∀ p ∈ c.streamingSessionList,
        ((c.session p).terminateFlag = true → p ∉ c'.streamingSessionList) ∧
          (p ∈ c'.streamingSessionList ∨
            (c'.session p).terminateFlag = true ∧ c'.sessions.frees p = 1 ∧
              c'.pRemoteRtcPeerConnections (clientIdHashKey (c'.session p).peerId) = none) := by
  intro c c'
  have hworld : WorldOk w := hw.invariant (WorldOk.start latched) fun w a h => h.step a
  obtain ⟨hworld', -, hend⟩ := (Sweeping.poll hworld hidle env).exec henv hbusy hdone
  obtain ⟨leaked, hown, -⟩ := hworld.sessions.owned
  obtain ⟨leaked', hown', -⟩ := hworld'.sessions.owned
  refine ⟨hend.subset, fun p hp => ⟨fun hflag hin => ?_, ?_⟩⟩
  · exact absurd (hend.ahead p hp hflag (hworld'.sessions.listed_live hin)) List.not_mem_nil
  · refine (hend.list p hp).imp_right fun ⟨hflag, hout⟩ => ?_
    obtain ⟨hdead, hkey⟩ := hout.resolve_left List.not_mem_nil
    have hlt : p < c'.sessions.next := by
      rw [hend.next]
      exact hown.lt_next (List.mem_append_left _ hp)
    have hnot : p ∉ c'.streamingSessionList ++ leaked' := fun hin =>
      Bool.false_ne_true (hdead.symm.trans (hown'.live hin))
    exact ⟨hflag, hown'.frees_of_not_mem hlt hnot, hkey⟩

/-- A viewer has left. -/
def viewerLeft : World := Run.exec World.step (World.start true)
  [.receive Env.allOk (offerOf clientA), .advance, .advance, .advance, .advance, .addStats,
    .connectionStateChange 0 .closed]

/-- While its session is swept, a frame arrives and the media sender returns. -/
def sweepSteps : List Action :=
  [.advance, .mediaFrame ⟨.video, true, 0⟩, .advance, .advanceHook, .advanceHook, .advance,
    .mediaSenderDone, .advance, .advance, .advance]

theorem terminated_swept_viewerLeft :
    (0 : PStreamingSession) ∈ viewerLeft.app.streamingSessionList ∧
      (Run.exec World.step (viewerLeft.step (.poll Env.allOk)) sweepSteps).app.sessions.frees 0 =
        1 := by
  have hlisted : (0 : PStreamingSession) ∈ viewerLeft.app.streamingSessionList := by decide +kernel
  have hswept := @terminated_swept true viewerLeft ⟨_, rfl⟩ (by decide +kernel) Env.allOk
    (fun _ => ⟨rfl, rfl⟩) sweepSteps (by decide +kernel) (by decide +kernel)
  obtain ⟨hout, hcases⟩ := hswept.2 0 hlisted
  exact ⟨hlisted, (hcases.resolve_left (hout (by decide +kernel))).2.1⟩

/-- A sweep takes at most four steps for each session and one more, but for the steps that wait for
the read lock, whatever its calls return. -/
theorem sweep_ends {latched : Bool} {w : World}
    (hw : Run.Reachable World.step (World.start latched) w) (hidle : w.holder = .idle) (env : Env)
    {as : List Action}
    (hbusy : Run.Along World.step (fun w _ => w.holder ≠ .idle) (w.step (.poll env)) as) :
    (w.step (.poll env)).ownSteps as ≤ 4 * w.app.streamingSessionList.length + 1 := by
  have hworld : WorldOk w := hw.invariant (WorldOk.start latched) fun w a h => h.step a
  have hstep : w.step (.poll env) = { w with holder := .sweepScan env 0 0 } := by
    show w.whenIdle _ = _
    unfold World.whenIdle
    rw [hidle]
  have hworld' := hworld.step (.poll env)
  rw [hstep] at hworld' hbusy ⊢
  exact World.ownSteps_le hworld' trivial hbusy

theorem sweep_ends_viewerLeft : (viewerLeft.step (.poll Env.allOk)).ownSteps sweepSteps ≤
    4 * viewerLeft.app.streamingSessionList.length + 1 :=
  sweep_ends (w := viewerLeft) ⟨_, rfl⟩ (by decide +kernel) Env.allOk (by decide +kernel)

end WebrtcApp
