import WebrtcApp.App.Signaling

/-!
# What happens to candidates

The two paths of an ICE candidate on an owned store.  With no session for its client,
`queueCandidate` puts it in the pending queue of the client's key, which is `deposit` where
that queue exists or the store is empty (`queueCandidate_spec`).  The OFFER takes the queue
out and hands its candidates to the new session one after the other, up to the first failure
(`drainPending_cases`, `drain_submits`).

With other queues in the store and none of its own, a client's candidate goes to the last
queue, and its OFFER drains that queue; `UsesOwnQueue` says that this does not happen.
-/

namespace WebrtcApp

/-- A lookup for the key, run to its end, cannot return another client's queue. -/
def ConnectionMsgQ.UsesOwnQueue (s : ConnectionMsgQ) (key : UInt64) : Prop :=
  s.pMsqQueue = [] ∨ ∃ p ∈ s.pMsqQueue, s.key p = key

instance (s : ConnectionMsgQ) (key : UInt64) : Decidable (s.UsesOwnQueue key) :=
  inferInstanceAs (Decidable (_ ∨ _))

section
variable {s : ConnectionMsgQ} {held : List PPendingMessageQueue} {key : UInt64}

theorem usesOwnQueue_iff : s.UsesOwnQueue key ↔ s.boxes = [] ∨ key ∈ Mailbox.keys s.boxes := by
  rw [mem_keys_boxes, ConnectionMsgQ.boxes, List.map_eq_nil_iff]
  rfl

/-! ## Queued -/

/-- Queueing keeps the ownership of the store, whichever queue it finds. -/
theorem queueCandidate_owned (env : Env) (key : UInt64) (msg : ReceivedSignalingMessage)
    (h : s.Owned held []) : (queueCandidate env key msg s).2.Owned held [] := by
  have hpush : ∀ {s : ConnectionMsgQ} {p}, s.Owned held [] → p ∈ s.pMsqQueue →
      (pushMsqIntoPendingMsgQ env (some p) msg s).2.Owned held [] :=
    fun h hp => (pushMsqIntoPendingMsgQ_spec env msg h hp).1
  unfold queueCandidate
  rcases getPendingMsgQByHashVal_cases env key false h with
    ⟨hst, hs⟩ | ⟨-, -, he⟩ | ⟨pre, p, post, hsplit, -, -, -, -, he⟩
  · simp only [Status.failed_eq_true.mpr hst, if_true, hs]
    exact h
  · simp only [he, Status.failed, bne_self_eq_false, Bool.false_eq_true, if_false]
    cases hlast : s.pMsqQueue.getLast? with
    | some p => exact hpush h (List.mem_of_getLast? hlast)
    | none =>
      obtain ⟨ho, ⟨hst, hp, hq, -⟩ | ⟨hst, -, -⟩⟩ := createPendingMsgQ_spec env key h
      · simp only [hst, bne_self_eq_false, Bool.false_eq_true, if_false, hp]
        apply hpush ho
        rw [hq]
        exact List.mem_append_right _ List.mem_cons_self
      · have hf : ((createPendingMsgQ env key s).1 != .success) = true := bne_iff_ne.mpr hst
        simp only [hf, if_true]
        exact ho
  · simp only [he, Status.failed, bne_self_eq_false, Bool.false_eq_true, if_false]
    exact hpush h (hsplit ▸ List.mem_append_right _ List.mem_cons_self)

/-- With its own queue to go to, a candidate is deposited under its key. -/
theorem queueCandidate_boxes (env : Env) (key : UInt64) (msg : ReceivedSignalingMessage)
    (h : s.Owned held []) (henv : env.StorageOk) (hown : s.UsesOwnQueue key) :
    (queueCandidate env key msg s).1 = .success ∧
      (queueCandidate env key msg s).2.boxes = Mailbox.deposit key env.now msg s.boxes := by
  have hlookup := @getPendingMsgQByHashVal_success s env key false fun _ hc => henv.queue hc
  have hpush : ∀ {s : ConnectionMsgQ} {p pre post} (t : UInt64), s.Owned held [] →
      s.pMsqQueue = pre ++ p :: post → (∀ q ∈ pre, s.key q ≠ key) → s.key p = key →
      (pushMsqIntoPendingMsgQ env (some p) msg s).1 = .success ∧
        (pushMsqIntoPendingMsgQ env (some p) msg s).2.boxes = Mailbox.deposit key t msg s.boxes := by
    intro s p pre post t h hsplit hpre hk
    have hsucc : (pushMsqIntoPendingMsgQ env (some p) msg s).1 = .success := by
      have ha : env.ok .messageCalloc = true := henv.alloc rfl
      have hq : env.ok .messageEnqueue = true := henv.queue rfl
      simp [pushMsqIntoPendingMsgQ, ha, hq]
    have hp : p ∈ s.pMsqQueue := hsplit ▸ List.mem_append_right _ List.mem_cons_self
    obtain ⟨-, hq, ⟨-, hrest, hself⟩ | ⟨hbad, -⟩⟩ := pushMsqIntoPendingMsgQ_spec env msg h hp
    · exact ⟨hsucc, boxes_eq_deposit hsplit hq (List.nodup_append.mp h.queues.nodup).1 hpre hk
        hrest hself⟩
    · exact absurd hsucc hbad
  unfold queueCandidate
  rcases getPendingMsgQByHashVal_cases env key false h with
    ⟨hst, -⟩ | ⟨hno, -, he⟩ | ⟨pre, p, post, hsplit, hpre, hp, -, -, he⟩
  · exact absurd hlookup hst
  · -- no queue of its own: the store is empty and a new one is made
    have hnil : s.pMsqQueue = [] := hown.resolve_right (mt mem_keys_boxes.mpr hno)
    have hbnil : s.boxes = [] := by rw [ConnectionMsgQ.boxes, hnil]; rfl
    simp only [he, Status.failed, bne_self_eq_false, Bool.false_eq_true, if_false, hnil,
      List.getLast?_nil]
    have hsucc : (createPendingMsgQ env key s).1 = .success := by
      have ha : env.ok .pendingMsgQCalloc = true := henv.alloc rfl
      have hc : env.ok .pendingMsgQQueueCreate = true := henv.queue rfl
      have hq : env.ok .pendingMsgQEnqueue = true := henv.queue rfl
      simp [createPendingMsgQ, ha, hc, hq]
    obtain ⟨ho, ⟨hst, hp, hq, hb⟩ | ⟨hst, -, -⟩⟩ := createPendingMsgQ_spec env key h
    · rw [hnil] at hq
      have hkey : (createPendingMsgQ env key s).2.2.key s.queues.next = key := by
        rw [ConnectionMsgQ.boxes, hq, hbnil] at hb
        exact congrArg Mailbox.key (List.cons.inj hb).1
      simp only [hst, bne_self_eq_false, Bool.false_eq_true, if_false, hp]
      obtain ⟨h1, h2⟩ := hpush env.now ho hq (fun q hq => absurd hq List.not_mem_nil) hkey
      refine ⟨h1, ?_⟩
      rw [h2, hb, hbnil]
      exact Mailbox.deposit_cons_self rfl _ _ _
    · exact absurd hsucc hst
  · simp only [he, Status.failed, bne_self_eq_false, Bool.false_eq_true, if_false]
    exact hpush env.now h hsplit hpre hp

end

/-! ## Taken out -/

/-- What a lookup that removes does to the store: nothing, or the queue of the key is taken out. -/
theorem lookupRemove_cases {s : ConnectionMsgQ} {held : List PPendingMessageQueue} (env : Env)
    (key : UInt64) (h : s.Owned held []) :
    (getPendingMsgQByHashVal env key true s).2.2 = s ∨
      (∃ p ∈ s.pMsqQueue, s.key p = key ∧
        (getPendingMsgQByHashVal env key true s).2.2.Owned (p :: held) [] ∧
        (getPendingMsgQByHashVal env key true s).2.2.boxes = Mailbox.remove key s.boxes) := by
  rcases getPendingMsgQByHashVal_cases env key true h with
    ⟨-, hs⟩ | ⟨-, -, he⟩ | ⟨pre, p, post, hsplit, hpre, hp, -, -, he⟩
  · exact Or.inl hs
  · exact Or.inl (by rw [he])
  · refine Or.inr ⟨p, hsplit ▸ List.mem_append_right _ List.mem_cons_self, hp, ?_⟩
    rw [he]
    exact ⟨h.take hsplit, boxes_eq_remove hsplit hpre hp⟩

/-! ## Drained -/

section
variable {c : AppConfiguration} {held : List PPendingMessageQueue} {key : UInt64}
  {p : PStreamingSession}

/-- The candidates of a drain are submitted in order, up to some point. -/
theorem drain_submits (env : Env) (n : Nat) (ms : List ReceivedSignalingMessage) (u : Peers)
    (hp : u.sessions.live p = true) :
    ∃ ds, (drain env (some (handleRemoteCandidate env (some p))) n ms u).2 = u.submit p ds ∧
      ds.Sublist (ms.map ReceivedSignalingMessage.signalingMessage) := by
  induction ms generalizing n u with
  | nil =>
    refine ⟨[], ?_, List.Sublist.refl _⟩
    unfold drain
    split <;> exact (Peers.submit_nil u).symm
  | cons m ms ih =>
    have hstop : ∃ ds, u = u.submit p ds ∧
        ds.Sublist ((m :: ms).map ReceivedSignalingMessage.signalingMessage) :=
      ⟨[], (Peers.submit_nil u).symm, List.nil_sublist _⟩
    unfold drain
    split
    · exact hstop
    split
    · exact hstop
    simp only [callHook, handleRemoteCandidate_eq env n m.signalingMessage hp]
    by_cases hd : env.ok (.deserializeRtcIceCandidateInit n m.signalingMessage) = true
    · obtain ⟨ds, hds, hsub⟩ := ih (n + 1) (u.submit p [m.signalingMessage]) hp
      rw [if_pos hd]
      split
      · next e =>
        refine ⟨m.signalingMessage :: ds, ?_, hsub.cons_cons _⟩
        rw [← (Prod.mk.inj e).2, hds, Peers.submit_submit]
        rfl
      · next e =>
        refine ⟨[m.signalingMessage], (Prod.mk.inj e).2.symm, ?_⟩
        exact (List.nil_sublist _).cons_cons _
    · have hne : env.status (.deserializeRtcIceCandidateInit n m.signalingMessage) ≠ .success :=
        fun e => hd (Env.ok_eq_true.mpr e)
      rw [if_neg hd]
      split
      · next e => exact absurd (Prod.mk.inj e).1 hne
      · next e =>
        rw [← (Prod.mk.inj e).2]
        exact hstop

/-- Everything `drainPending` can do on an owned store. -/
theorem drainPending_cases (env : Env) (key : UInt64)
    (h : c.pRemotePeerPendingSignalingMessages.Owned held []) :
    let s := c.pRemotePeerPendingSignalingMessages
    ((drainPending env key p c).1 ≠ .success ∧ (drainPending env key p c).2 = c ∧
        ((∀ call : Call, call.isQueue = true → env.ok call = true) → s.pMsqQueue = [])) ∨
      (key ∉ Mailbox.keys s.boxes ∧ s.pMsqQueue ≠ [] ∧ env.IteratorOk s.pMsqQueue.length) ∨
      ∃ s' b, s'.Owned held [] ∧ b ∈ s.boxes ∧ b.key = key ∧
        s'.boxes = Mailbox.remove key s.boxes ∧
        drainPending env key p c =
          let d := drain env (some (handleRemoteCandidate env (some p))) 0 b.items c.peers
          (d.1, c.setPending s' d.2) := by
  intro s
  unfold drainPending
  rcases getPendingMsgQByHashVal_cases env key true h with
    ⟨hst, hs⟩ | ⟨hno, hok, he⟩ | ⟨pre, q, post, hsplit, hpre, hq, -, -, he⟩
  · left
    have hok := @getPendingMsgQByHashVal_success c.pRemotePeerPendingSignalingMessages env key true
    simp only [Status.failed_eq_true.mpr hst, if_true, hs]
    exact ⟨hst, trivial, fun hq => absurd (hok hq) hst⟩
  · by_cases hnil : s.pMsqQueue = []
    · left
      simp only [he, show c.pRemotePeerPendingSignalingMessages.pMsqQueue = [] from hnil]
      exact ⟨by simp [Status.failed, handlePendingMsgQ], rfl, fun _ => hnil⟩
    · exact Or.inr (Or.inl ⟨hno, hnil, hok⟩)
  · refine Or.inr (Or.inr ?_)
    have htake := h.take hsplit
    obtain ⟨ho, hqueue, hboxes, hd⟩ := handlePendingMsgQ_spec env
      (some (handleRemoteCandidate env (some p))) c.peers htake
    simp only [he, Status.failed, bne_self_eq_false, Bool.false_eq_true, if_false, if_true]
    refine ⟨_, s.box q, ho, ?_, hq, hboxes.trans (boxes_eq_remove hsplit hpre hq), ?_⟩
    · rw [ConnectionMsgQ.boxes, hsplit]
      exact List.mem_map_of_mem (List.mem_append_right _ List.mem_cons_self)
    · have hd' := Prod.mk.inj (hd.trans (Prod.eta _).symm)
      exact Prod.ext hd'.1 (congrArg (c.setPending _) hd'.2)

end

end WebrtcApp
