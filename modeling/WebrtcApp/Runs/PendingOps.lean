import WebrtcApp.App.PendingStore

/-!
# The operations of the pending store, one by one

    getPendingMsgQByHashVal     an exact lookup where some queue has the key, or none exists
                                (`getPendingMsgQByHashVal_exact_iff`)
    removeExpiredPendingMsgQ    a stable filter that frees what it takes out
                                (`removeExpiredPendingMsgQ_filter`)
    handlePendingMsgQ           the messages in order up to the first failure, then everything
                                freed once (`handlePendingMsgQ_drains`)
    all four that can fail      nothing is lost, except by a failed re-enqueue
                                (`StoreOp.losesNothing_iff`)
-/

namespace WebrtcApp

variable {s : ConnectionMsgQ} {held : List PPendingMessageQueue}
  {loose : List PReceivedSignalingMessage} {p : PPendingMessageQueue}

/-! ## getPendingMsgQByHashVal -/

/-- `clientHash == pPendingMsgQ->hashValue`. -/
def ConnectionMsgQ.hasKey (s : ConnectionMsgQ) (clientHash : UInt64)
    (p : PPendingMessageQueue) : Bool :=
  s.key p == clientHash

theorem hasKey_iff {k : UInt64} : s.hasKey k p = true ↔ s.key p = k := beq_iff_eq

/-- What a lookup is for: the first queue of the key, taken out where `remove` is set. -/
def ExactLookup (s : ConnectionMsgQ) (clientHash : UInt64) (remove : Bool)
    (r : Status × Option PPendingMessageQueue × ConnectionMsgQ) : Prop :=
  r.1 = .success ∧ r.2.1 = s.pMsqQueue.find? (s.hasKey clientHash) ∧
    r.2.2 = if remove then { s with pMsqQueue := s.pMsqQueue.eraseP (s.hasKey clientHash) }
      else s

/-- Where the queue operations succeed, a lookup is exact if and only if the store is empty or
has a queue of the key. -/
theorem getPendingMsgQByHashVal_exact_iff (env : Env) (clientHash : UInt64) (remove : Bool)
    (h : s.Owned held loose) (hq : ∀ call : Call, call.isQueue = true → env.ok call = true) :
    ExactLookup s clientHash remove (getPendingMsgQByHashVal env clientHash remove s) ↔
      s.pMsqQueue = [] ∨ ∃ p ∈ s.pMsqQueue, s.key p = clientHash := by
  rcases getPendingMsgQByHashVal_cases env clientHash remove h with
    ⟨hf, -⟩ | ⟨hno, -, hr⟩ | ⟨pre, p, post, hs, hpre, hp, -, -, hr⟩
  · exact absurd (getPendingMsgQByHashVal_success env clientHash remove hq) hf
  · -- no queue has the key: the loop variable is left at the last queue
    have hnone : ∀ p ∈ s.pMsqQueue, ¬ s.hasKey clientHash p = true := fun p hp hk =>
      hno (mem_keys_boxes.mpr ⟨p, hp, hasKey_iff.mp hk⟩)
    rw [hr, ExactLookup, List.find?_eq_none.mpr hnone, List.eraseP_of_forall_not hnone]
    constructor
    · rintro ⟨-, hlast, -⟩
      exact Or.inl (List.getLast?_eq_none_iff.mp hlast)
    · rintro (hnil | ⟨p, hp, hk⟩)
      · refine ⟨rfl, List.getLast?_eq_none_iff.mpr hnil, ?_⟩
        cases remove <;> rfl
      · exact absurd (hasKey_iff.mpr hk) (hnone p hp)
  · have hbefore : ∀ q ∈ pre, ¬ s.hasKey clientHash q = true := fun q hq hk =>
      hpre q hq (hasKey_iff.mp hk)
    have hself : s.hasKey clientHash p = true := hasKey_iff.mpr hp
    have hfind : s.pMsqQueue.find? (s.hasKey clientHash) = some p := by
      rw [hs, List.find?_append, List.find?_eq_none.mpr hbefore, List.find?_cons_of_pos hself]
      rfl
    have herase : (s.pMsqQueue.eraseP (s.hasKey clientHash)) = pre ++ post := by
      rw [hs, List.eraseP_append_right _ hbefore, List.eraseP_cons_of_pos hself]
    rw [hr, ExactLookup, hfind, herase]
    constructor
    · intro _
      exact Or.inr ⟨p, hs ▸ List.mem_append_right _ List.mem_cons_self, hp⟩
    · intro _
      exact ⟨rfl, rfl, rfl⟩

/-- A store with one queue. -/
def oneQueue (hashValue : UInt64) : ConnectionMsgQ :=
  (createPendingMsgQ Env.allOk hashValue createConnectionMsqQ).2.2

theorem oneQueue_owned (k : UInt64) : (oneQueue k).Owned [] [] :=
  (createPendingMsgQ_spec Env.allOk k ConnectionMsgQ.Owned.create).1

/-- A queue with a message made at time 0, and a queue made at time 100. -/
def agedStore : ConnectionMsgQ :=
  let s := (pushMsqIntoPendingMsgQ Env.allOk (some 0) (candidateOf clientA [1]) (oneQueue 1)).2
  (createPendingMsgQ { Env.allOk with now := 100 } 2 s).2.2

theorem agedStore_owned : agedStore.Owned [] [] :=
  (createPendingMsgQ_spec _ 2 (pushMsqIntoPendingMsgQ_spec Env.allOk (candidateOf clientA [1])
    (oneQueue_owned 1) (by decide)).1).1

/-- The second queue is found and taken out. -/
theorem getPendingMsgQByHashVal_exact_iff_second :
    ExactLookup agedStore 2 true (getPendingMsgQByHashVal Env.allOk 2 true agedStore) ↔
      agedStore.pMsqQueue = [] ∨ ∃ p ∈ agedStore.pMsqQueue, agedStore.key p = 2 :=
  getPendingMsgQByHashVal_exact_iff Env.allOk 2 true agedStore_owned fun _ _ => rfl

/-- Looking up key 2 in a store whose only queue has key 1 returns that queue. -/
theorem getPendingMsgQByHashVal_miss :
    (getPendingMsgQByHashVal Env.allOk 2 false (oneQueue 1)).2.1 = some 0 ∧
      (oneQueue 1).key 0 = 1 ∧
      ¬ ExactLookup (oneQueue 1) 2 false (getPendingMsgQByHashVal Env.allOk 2 false (oneQueue 1)) :=
  ⟨by decide, by decide, fun h => absurd h.2.1 (by decide)⟩

/-! ## What is released -/

namespace ConnectionMsgQ.Owned

variable {s' : ConnectionMsgQ} {held' : List PPendingMessageQueue}
  {loose' : List PReceivedSignalingMessage} {q : PPendingMessageQueue}

/-- A message is in one queue. -/
theorem items_unique (h : s.Owned held loose) (hp : p ∈ s.pMsqQueue ++ held)
    (hq : q ∈ s.pMsqQueue ++ held) {m : PReceivedSignalingMessage} (hmp : m ∈ s.items p)
    (hmq : m ∈ s.items q) : p = q := by
  by_contra hne
  have hflat := (List.nodup_append.mp h.messages.nodup).2.1
  have hdisj := (List.nodup_flatMap.mp hflat).2
  have hsymm : Std.Symm (Function.onFun List.Disjoint s.items) :=
    ⟨fun _ _ hd => List.Disjoint.symm hd⟩
  exact hdisj.forall hp hq hne hmp hmq

theorem item_not_loose (h : s.Owned held loose) (hp : p ∈ s.pMsqQueue ++ held)
    {m : PReceivedSignalingMessage} (hm : m ∈ s.items p) : m ∉ loose := by
  intro hl
  have hdisj := (List.nodup_append.mp h.messages.nodup).2.2
  exact hdisj m hl m (List.mem_flatMap.mpr ⟨p, hp, hm⟩) rfl

/-- A queue that is owned before and not after has been freed once, and so has each of its
messages, if the queues owned after are among the others and as they were. -/
theorem released (h : s.Owned held loose) (h' : s'.Owned held' loose)
    (hqueues : s'.queues.next = s.queues.next) (hmessages : s'.messages.next = s.messages.next)
    (hp : p ∈ s.pMsqQueue ++ held) (hgone : p ∉ s'.pMsqQueue ++ held')
    (hrest : ∀ q ∈ s'.pMsqQueue ++ held', q ∈ s.pMsqQueue ++ held ∧ s'.items q = s.items q) :
    s'.queues.frees p = 1 ∧ ∀ m ∈ s.items p, s'.messages.frees m = 1 := by
  constructor
  · refine h'.queues.frees_of_not_mem ?_ hgone
    rw [hqueues]
    exact h.queues.lt_next hp
  · intro m hm
    refine h'.messages.frees_of_not_mem ?_ ?_
    · rw [hmessages]
      exact Arena.live_lt (h.message_live hp hm)
    · intro hmem
      rcases List.mem_append.mp hmem with hl | hitem
      · exact h.item_not_loose hp hm hl
      · obtain ⟨q, hq, hmq⟩ := List.mem_flatMap.mp hitem
        obtain ⟨hqs, hitems⟩ := hrest q hq
        rw [hitems] at hmq
        obtain rfl := h.items_unique hp hqs hm hmq
        exact hgone hq

end ConnectionMsgQ.Owned

/-! ## removeExpiredPendingMsgQ -/

/-- Where nothing wraps, a queue is fresh exactly if its time is not over. -/
theorem fresh_iff {interval now : UInt64} {b : PendingBox}
    (hwrap : b.time.toNat + interval.toNat < 2 ^ 64) :
    b.fresh interval now = true ↔ now.toNat ≤ b.time.toNat + interval.toNat := by
  have hadd : (b.time + interval).toNat = b.time.toNat + interval.toNat := by
    rw [UInt64.toNat_add, Nat.mod_eq_of_lt hwrap]
  rw [PendingBox.fresh, Bool.not_eq_true', decide_eq_false_iff_not, UInt64.lt_iff_toNat_lt, hadd,
    Nat.not_lt]

/-- `createTime + interval >= now`, without a wrap. -/
def ConnectionMsgQ.unexpired (s : ConnectionMsgQ) (interval now : UInt64)
    (p : PPendingMessageQueue) : Bool :=
  decide (now.toNat ≤ (s.queues.read p).createTime.toNat + interval.toNat)

/-- A pass whose queue operations succeed is the stable filter; it frees what it takes out, with
the messages, once, and nothing that it keeps. -/
theorem removeExpiredPendingMsgQ_filter (env : Env) (interval : UInt64) (h : s.Owned held loose)
    (hq : ∀ call : Call, call.isQueue = true → env.ok call = true)
    (hwrap : ∀ p ∈ s.pMsqQueue, (s.queues.read p).createTime.toNat + interval.toNat < 2 ^ 64) :
    let r := removeExpiredPendingMsgQ env interval s
    r.1 = .success ∧ r.2.pMsqQueue = s.pMsqQueue.filter (s.unexpired interval env.now) ∧
      (∀ p ∈ s.pMsqQueue, s.unexpired interval env.now p = false →
        r.2.queues.frees p = 1 ∧ ∀ m ∈ s.items p, r.2.messages.frees m = 1) ∧
      (∀ p ∈ s.pMsqQueue, s.unexpired interval env.now p = true →
        r.2.queues.frees p = 0 ∧ r.2.box p = s.box p ∧ ∀ m ∈ s.items p, r.2.messages.frees m = 0) ∧
      r.2.queues.misused = false ∧ r.2.messages.misused = false := by
  intro r
  have hfilter : s.pMsqQueue.filter (fun q => (s.box q).fresh interval env.now) =
      s.pMsqQueue.filter (s.unexpired interval env.now) := by
    apply List.filter_congr
    intro p hp
    rw [Bool.eq_iff_iff, fresh_iff (hwrap p hp), ConnectionMsgQ.unexpired, decide_eq_true_iff]
    rfl
  obtain ⟨hsame, hsub, ⟨hok, hr, ho, -⟩ | ⟨-, -, -, -, call, hcall, hfail⟩ |
    ⟨p, -, -, -, -, -, i, hfail⟩⟩ := removeExpiredPendingMsgQ_cases env interval h
  · rw [hfilter] at hr
    refine ⟨hok, hr, fun p hp hold => ?_, fun p hp hnew => ?_, ho.queues.unmisused,
      ho.messages.unmisused⟩
    · refine h.released ho hsame.nextQueue hsame.nextMessage (List.mem_append_left _ hp) ?_ ?_
      · intro hmem
        rcases List.mem_append.mp hmem with hmem | hheld
        · rw [hr, List.mem_filter, hold] at hmem
          exact absurd hmem.2 (by simp)
        · exact (List.nodup_append.mp h.queues.nodup).2.2 p hp p hheld rfl
      · intro q hmem
        refine ⟨?_, congrFun hsame.items q⟩
        rcases List.mem_append.mp hmem with hmem | hheld
        · exact List.mem_append_left _ (hsub q hmem)
        · exact List.mem_append_right _ hheld
    · have hmem : p ∈ r.2.pMsqQueue ++ held :=
        List.mem_append_left _ (hr ▸ List.mem_filter.mpr ⟨hp, hnew⟩)
      refine ⟨ho.queues.frees_eq_zero hmem, congrFun hsame.box p, fun m hm => ?_⟩
      have hitems := congrFun hsame.items p
      exact Arena.frees_of_live (ho.message_live hmem (hitems ▸ hm))
  · exact absurd (hq call hcall) hfail
  · exact absurd (hq (.expireEnqueue i) rfl) hfail

/-- At time 50 with an interval of 5 the first queue goes and the second stays. -/
theorem removeExpiredPendingMsgQ_filter_aged :
    let r := removeExpiredPendingMsgQ { Env.allOk with now := 50 } 5 agedStore
    r.2.pMsqQueue = [1] ∧ r.2.queues.frees 0 = 1 ∧ r.2.queues.frees 1 = 0 := by
  obtain ⟨-, hqueue, hold, hnew, -⟩ :=
    removeExpiredPendingMsgQ_filter { Env.allOk with now := 50 } 5 agedStore_owned
      (fun _ _ => rfl) (by decide)
  exact ⟨hqueue, (hold 0 (by decide) (by decide)).1, (hnew 1 (by decide) (by decide)).1⟩

/-! ## Failures -/

/-- The operations of the store that make calls that can fail. -/
inductive StoreOp
  | create (hashValue : UInt64)
  | push (pPendingMsgQ : Option PPendingMessageQueue) (msg : ReceivedSignalingMessage)
  | removeExpired (interval : UInt64)
  | getByHashVal (clientHash : UInt64) (remove : Bool)

namespace StoreOp

/-- The status, the queue written to the caller's pointer and the store after. -/
def run (env : Env) : StoreOp → ConnectionMsgQ →
    Status × Option PPendingMessageQueue × ConnectionMsgQ
  | .create k, s => createPendingMsgQ env k s
  | .push p msg, s =>
    let r := pushMsqIntoPendingMsgQ env p msg s
    (r.1, none, r.2)
  | .removeExpired interval, s =>
    let r := removeExpiredPendingMsgQ env interval s
    (r.1, none, r.2)
  | .getByHashVal k remove, s => getPendingMsgQByHashVal env k remove s

/-- A message is pushed into a queue of the store, or into `NULL`. -/
def Target (s : ConnectionMsgQ) : StoreOp → Prop
  | .push (some p) _ => p ∈ s.pMsqQueue
  | _ => True

/-- The queues that have not expired; only one of the operations looks at the time. -/
def fresh (env : Env) (s : ConnectionMsgQ) : StoreOp → PPendingMessageQueue → Bool
  | .removeExpired interval, p => (s.box p).fresh interval env.now
  | _, _ => true

/-- An unexpired queue has been dequeued and its re-enqueue fails. -/
def LosesQueue (env : Env) (s : ConnectionMsgQ) : StoreOp → Prop
  | .removeExpired interval =>
    env.ReenqueueFails (fun q => (s.box q).fresh interval env.now) s.pMsqQueue
  | _ => False

end StoreOp

/-- The fresh queues of `s` are in the store after or in the caller's hands, alive and with their
messages; what the store holds is alive; what was allocated on the way has been freed. -/
structure LosesNothing (fresh : PPendingMessageQueue → Bool) (s : ConnectionMsgQ)
    (r : Status × Option PPendingMessageQueue × ConnectionMsgQ) : Prop where
  kept : ∀ p ∈ s.pMsqQueue, fresh p = true → p ∈ r.2.2.pMsqQueue ∨ r.2.1 = some p
  contents : ∀ p ∈ s.pMsqQueue, fresh p = true → r.2.2.queues.read p = s.queues.read p ∧
    ∀ m ∈ s.items p, r.2.2.messages.read m = s.messages.read m
  alive : ∀ p, p ∈ r.2.2.pMsqQueue ∨ r.2.1 = some p → r.2.2.queues.live p = true ∧
    ∀ m ∈ r.2.2.items p, r.2.2.messages.live m = true
  queuesFreed : ∀ p, s.queues.next ≤ p → p < r.2.2.queues.next → r.2.2.queues.frees p = 1
  messagesFreed : ∀ m, s.messages.next ≤ m → m < r.2.2.messages.next →
    r.2.2.messages.frees m = 1

/-- Enough for that: the objects there were are untouched, and owned as before. -/
theorem LosesNothing.of_owned {fresh : PPendingMessageQueue → Bool}
    {r : Status × Option PPendingMessageQueue × ConnectionMsgQ} (h : s.Owned held loose)
    (h' : r.2.2.Owned held loose)
    (hkeep : ∀ p ∈ s.pMsqQueue, fresh p = true → p ∈ r.2.2.pMsqQueue)
    (hsub : ∀ p ∈ r.2.2.pMsqQueue, p ∈ s.pMsqQueue)
    (hqueue : ∀ p ∈ s.pMsqQueue ++ held, r.2.2.queues.read p = s.queues.read p)
    (hmessage : ∀ m, s.messages.live m = true → r.2.2.messages.read m = s.messages.read m)
    (hret : ∀ p, r.2.1 = some p → p ∈ r.2.2.pMsqQueue) : LosesNothing fresh s r := by
  have hmem : ∀ p ∈ r.2.2.pMsqQueue ++ held, p ∈ s.pMsqQueue ++ held := by
    intro p hp
    rcases List.mem_append.mp hp with hp | hp
    · exact List.mem_append_left _ (hsub p hp)
    · exact List.mem_append_right _ hp
  constructor
  · intro p hp hf
    exact Or.inl (hkeep p hp hf)
  · intro p hp _
    refine ⟨hqueue p (List.mem_append_left _ hp), fun m hm => hmessage m ?_⟩
    exact h.message_live (List.mem_append_left _ hp) hm
  · intro p hp
    have hlive : p ∈ r.2.2.pMsqQueue ++ held := List.mem_append_left _ (hp.elim id (hret p))
    exact ⟨h'.live hlive, fun m hm => h'.message_live hlive hm⟩
  · intro p hold hnew
    apply h'.queues.frees_of_not_mem hnew
    intro hp
    have := h.queues.lt_next (hmem p hp)
    omega
  · intro m hold hnew
    apply h'.messages.frees_of_not_mem hnew
    intro hm
    have hlt : m < s.messages.next := by
      rcases List.mem_append.mp hm with hl | hitem
      · exact h.messages.lt_next (List.mem_append_left _ hl)
      · obtain ⟨p, hp, hmp⟩ := List.mem_flatMap.mp hitem
        have hitems : r.2.2.items p = s.items p := by
          rw [ConnectionMsgQ.items, hqueue p (hmem p hp), ConnectionMsgQ.items]
        rw [hitems] at hmp
        exact Arena.live_lt (h.message_live (hmem p hp) hmp)
    omega

/-- A failed `createPendingMsgQ` leaves the old queues and the messages as they were. -/
theorem createPendingMsgQ_failed (env : Env) (k : UInt64) (s : ConnectionMsgQ)
    (hf : (createPendingMsgQ env k s).1 ≠ .success) :
    let r := createPendingMsgQ env k s
    r.2.1 = none ∧ r.2.2.pMsqQueue = s.pMsqQueue ∧ r.2.2.messages.read = s.messages.read ∧
      ∀ p, s.queues.live p = true → r.2.2.queues.read p = s.queues.read p := by
  have hold : ∀ p, s.queues.live p = true →
      (s.queues.alloc ⟨k, env.now, none⟩).read p = s.queues.read p := fun p hp =>
    Arena.read_alloc_of_lt _ _ (Arena.live_lt hp)
  intro r
  have hr : r = createPendingMsgQ env k s := rfl
  clear_value r
  unfold createPendingMsgQ at hr hf
  by_cases hc : env.ok .pendingMsgQCalloc = true
  swap
  · simp only [hc, Bool.not_false, if_true] at hr
    rw [hr]
    exact ⟨rfl, rfl, rfl, fun _ _ => rfl⟩
  by_cases hqc : env.ok .pendingMsgQQueueCreate = true
  swap
  · simp only [hc, hqc, Bool.not_true, Bool.not_false, Bool.false_eq_true, if_true, if_false] at hr
    rw [hr]
    have hsame := SameObjects.free { s with queues := s.queues.alloc ⟨k, env.now, none⟩ }
      s.queues.next
    exact ⟨rfl, rfl, hsame.messages, fun p hp => (congrFun hsame.queues p).trans (hold p hp)⟩
  by_cases he : env.ok .pendingMsgQEnqueue = true
  · simp [hc, hqc, he] at hf
  · simp only [hc, hqc, he, Bool.not_true, Bool.not_false, Bool.false_eq_true, if_true,
      if_false] at hr
    rw [hr]
    have hsame := SameObjects.free { s with
      queues := (s.queues.alloc ⟨k, env.now, none⟩).modify s.queues.next
        (fun q => { q with messageQueue := some [] }) } s.queues.next
    refine ⟨rfl, rfl, hsame.messages, fun p hp => (congrFun hsame.queues p).trans ?_⟩
    have hne : s.queues.next ≠ p := (Arena.live_lt hp).ne'
    exact (Arena.read_modify_of_ne _ _ hne).trans (hold p hp)

/-- A failed `pushMsqIntoPendingMsgQ` leaves the queues and the old messages as they were. -/
theorem pushMsqIntoPendingMsgQ_failed (env : Env) (o : Option PPendingMessageQueue)
    (msg : ReceivedSignalingMessage) (s : ConnectionMsgQ)
    (hf : (pushMsqIntoPendingMsgQ env o msg s).1 ≠ .success) :
    let r := pushMsqIntoPendingMsgQ env o msg s
    r.2.pMsqQueue = s.pMsqQueue ∧ r.2.queues.read = s.queues.read ∧
      ∀ m, s.messages.live m = true → r.2.messages.read m = s.messages.read m := by
  cases o with
  | none => exact ⟨rfl, rfl, fun _ _ => rfl⟩
  | some p =>
    intro r
    have hr : r = pushMsqIntoPendingMsgQ env (some p) msg s := rfl
    clear_value r
    unfold pushMsqIntoPendingMsgQ at hr hf
    by_cases hc : env.ok .messageCalloc = true
    swap
    · simp only [hc, Bool.not_false, if_true] at hr
      rw [hr]
      exact ⟨rfl, rfl, fun _ _ => rfl⟩
    by_cases he : env.ok .messageEnqueue = true
    · simp [hc, he] at hf
    · simp only [hc, he, Bool.not_true, Bool.not_false, Bool.false_eq_true, if_true,
        if_false] at hr
      rw [hr]
      refine ⟨rfl, rfl, fun m hm => ?_⟩
      exact (Arena.read_free _ _ _).trans (Arena.read_alloc_of_lt _ _ (Arena.live_lt hm))

/-- A lookup writes a queue it has visited, or what was there. -/
theorem lookupLoop_mem (env : Env) (k : UInt64) (remove : Bool) (ps : List PPendingMessageQueue)
    (n : Nat) (cur : Option PPendingMessageQueue) (s : ConnectionMsgQ)
    (hr : (lookupLoop env k remove n ps cur s).2.1 = some p) : p ∈ ps ∨ cur = some p := by
  induction ps generalizing n cur s with
  | nil => exact Or.inr hr
  | cons q ps ih =>
    unfold lookupLoop at hr
    split at hr
    · exact Or.inr hr
    split at hr
    · exact Or.inr hr
    have hself : q = p → p ∈ q :: ps ∨ cur = some p := fun e => Or.inl (e ▸ List.mem_cons_self)
    simp only at hr
    split at hr
    · split at hr
      · split at hr <;> exact hself (Option.some.inj hr)
      · exact hself (Option.some.inj hr)
    · rcases ih _ _ _ hr with hmem | hq
      · exact Or.inl (List.mem_cons_of_mem q hmem)
      · exact hself (Option.some.inj hq)

/-! ## What each operation leaves when it fails -/

theorem createPendingMsgQ_losesNothing (env : Env) (k : UInt64) (h : s.Owned held loose)
    (hf : ((StoreOp.create k).run env s).1 ≠ .success) :
    LosesNothing ((StoreOp.create k).fresh env s) s ((StoreOp.create k).run env s) := by
  obtain ⟨hnone, hqueue, hmsgs, hread⟩ := createPendingMsgQ_failed env k s hf
  refine LosesNothing.of_owned h (createPendingMsgQ_spec env k h).1 ?_ ?_ ?_ ?_ ?_
  · intro p hp _
    exact hqueue.symm ▸ hp
  · intro p hp
    exact hqueue ▸ hp
  · intro p hp
    exact hread p (h.live hp)
  · intro m _
    exact congrFun hmsgs m
  · intro p hp
    exact absurd (hnone.symm.trans hp) (by simp)

theorem pushMsqIntoPendingMsgQ_losesNothing (env : Env) (o : Option PPendingMessageQueue)
    (msg : ReceivedSignalingMessage) (h : s.Owned held loose) (hop : (StoreOp.push o msg).Target s)
    (hf : ((StoreOp.push o msg).run env s).1 ≠ .success) :
    LosesNothing ((StoreOp.push o msg).fresh env s) s ((StoreOp.push o msg).run env s) := by
  obtain ⟨hqueue, hread, hmsgs⟩ := pushMsqIntoPendingMsgQ_failed env o msg s hf
  have ho : (pushMsqIntoPendingMsgQ env o msg s).2.Owned held loose := by
    cases o with
    | none => exact h
    | some p => exact (pushMsqIntoPendingMsgQ_spec env msg h hop).1
  refine LosesNothing.of_owned h ho ?_ ?_ ?_ hmsgs ?_
  · intro p hp _
    exact hqueue.symm ▸ hp
  · intro p hp
    exact hqueue ▸ hp
  · intro p _
    exact congrFun hread p
  · intro p hp
    cases hp

theorem getPendingMsgQByHashVal_losesNothing (env : Env) (k : UInt64) (remove : Bool)
    (h : s.Owned held loose) (hf : ((StoreOp.getByHashVal k remove).run env s).1 ≠ .success) :
    LosesNothing ((StoreOp.getByHashVal k remove).fresh env s) s
      ((StoreOp.getByHashVal k remove).run env s) := by
  rcases getPendingMsgQByHashVal_cases env k remove h with
    ⟨-, hs⟩ | ⟨-, -, hr⟩ | ⟨pre, p, post, -, -, -, -, -, hr⟩
  · have hret : ∀ p, (getPendingMsgQByHashVal env k remove s).2.1 = some p → p ∈ s.pMsqQueue := by
      intro p hp
      unfold getPendingMsgQByHashVal at hp
      split at hp
      · cases hp
      · exact (lookupLoop_mem env k remove _ 0 none s hp).resolve_right (by simp)
    refine LosesNothing.of_owned h (hs.symm ▸ h) ?_ ?_ ?_ ?_ ?_
    · intro p hp _
      exact hs.symm ▸ hp
    · intro p hp
      exact hs ▸ hp
    · intro p _
      exact congrArg (fun s : ConnectionMsgQ => s.queues.read p) hs
    · intro m _
      exact congrArg (fun s : ConnectionMsgQ => s.messages.read m) hs
    · intro p hp
      exact hs.symm ▸ hret p hp
  · exact absurd (congrArg Prod.fst hr) hf
  · exact absurd (congrArg Prod.fst hr) hf

theorem removeExpiredPendingMsgQ_losesNothing_iff (env : Env) (interval : UInt64)
    (h : s.Owned held loose) (hf : ((StoreOp.removeExpired interval).run env s).1 ≠ .success) :
    LosesNothing ((StoreOp.removeExpired interval).fresh env s) s
        ((StoreOp.removeExpired interval).run env s) ↔
      ¬ (StoreOp.removeExpired interval).LosesQueue env s := by
  obtain ⟨hsame, hsub, ⟨hok, -⟩ | ⟨-, hkeep, ho, hno, -⟩ | ⟨p, hp, -, hfresh, ho, hlose, -⟩⟩ :=
    removeExpiredPendingMsgQ_cases env interval h
  · exact absurd hok hf
  · refine ⟨fun _ => hno, fun _ => LosesNothing.of_owned h ho hkeep hsub ?_ ?_ ?_⟩
    · intro p _
      exact congrFun hsame.queues p
    · intro m _
      exact congrFun hsame.messages m
    · intro p hp
      cases hp
  · -- the queue in hand is neither in the store nor returned
    refine ⟨fun hl => ?_, fun hno => absurd hlose hno⟩
    rcases hl.kept p hp hfresh with hmem | hret
    · exact absurd rfl ((List.nodup_append.mp ho.queues.nodup).2.2 p hmem p List.mem_cons_self)
    · cases hret

/-- An operation that fails loses nothing, except exactly where an unexpired queue could not be
put back. -/
theorem StoreOp.losesNothing_iff (env : Env) (op : StoreOp) (h : s.Owned held loose)
    (hop : op.Target s) (hf : (op.run env s).1 ≠ .success) :
    LosesNothing (op.fresh env s) s (op.run env s) ↔ ¬ op.LosesQueue env s := by
  cases op with
  | create k =>
    exact ⟨fun _ hl => hl, fun _ => createPendingMsgQ_losesNothing env k h hf⟩
  | push o msg =>
    exact ⟨fun _ hl => hl, fun _ => pushMsqIntoPendingMsgQ_losesNothing env o msg h hop hf⟩
  | getByHashVal k remove =>
    exact ⟨fun _ hl => hl, fun _ => getPendingMsgQByHashVal_losesNothing env k remove h hf⟩
  | removeExpired interval => exact removeExpiredPendingMsgQ_losesNothing_iff env interval h hf

/-- The first re-enqueue of a pass fails. -/
def reenqueueFailing : Env :=
  { Env.allOk with status := fun call => if call = .expireEnqueue 0 then .sdk 1 else .success }

theorem StoreOp.losesNothing_iff_one :
    LosesNothing ((StoreOp.removeExpired 5).fresh reenqueueFailing (oneQueue 1)) (oneQueue 1)
        ((StoreOp.removeExpired 5).run reenqueueFailing (oneQueue 1)) ↔
      ¬ (StoreOp.removeExpired 5).LosesQueue reenqueueFailing (oneQueue 1) :=
  StoreOp.losesNothing_iff reenqueueFailing (.removeExpired 5) (oneQueue_owned 1) trivial (by decide)

/-- The queue is alive, not expired, and not in the store. -/
theorem StoreOp.loses_queue :
    let r := (StoreOp.removeExpired 5).run reenqueueFailing (oneQueue 1)
    (StoreOp.removeExpired 5).fresh reenqueueFailing (oneQueue 1) 0 = true ∧
      0 ∈ (oneQueue 1).pMsqQueue ∧ r.1 = .sdk 1 ∧ r.2.2.pMsqQueue = [] ∧ r.2.1 = none ∧
      r.2.2.queues.live 0 = true ∧
      ¬ LosesNothing ((StoreOp.removeExpired 5).fresh reenqueueFailing (oneQueue 1)) (oneQueue 1) r := by
  refine ⟨by decide, by decide, by decide, by decide, by decide, by decide, fun hl => ?_⟩
  rcases hl.kept 0 (by decide) (by decide) with hmem | hret
  · exact absurd hmem (by decide)
  · cases hret

/-! ## handlePendingMsgQ -/

section
variable {η : Type}

/-- The hook, with a record of its calls and of what they returned. -/
def recorded (hook : MsgHandleHook η) : MsgHandleHook (List (SignalingMessage × Status) × η) :=
  fun n m u =>
    match hook n m u.2 with
    | (st, v) => (st, (u.1 ++ [(m, st)], v))

/-- What the calls of a hook on `ms` are: in order, once each, up to and including the first
failure, be it one of `appQueueIsEmpty`, of `appQueueDequeue` or of the hook. -/
structure HookCalls (env : Env) (n : Nat) (ms : List SignalingMessage) (st : Status)
    (calls : List (SignalingMessage × Status)) : Prop where
  fifo : calls.map Prod.fst <+: ms
  upTo : ∀ e ∈ calls.dropLast, e.2 = .success
  reached : ∀ i < calls.length,
    env.ok (.handleIsEmpty (n + i)) = true ∧ env.ok (.handleDequeue (n + i)) = true
  stops : calls.length = ms.length ∨ env.ok (.handleIsEmpty (n + calls.length)) ≠ true ∨
    env.ok (.handleDequeue (n + calls.length)) ≠ true ∨ ∃ e ∈ calls, e.2 ≠ .success
  success_iff : st = .success ↔ (∀ i ≤ ms.length, env.ok (.handleIsEmpty (n + i)) = true) ∧
    (∀ i < ms.length, env.ok (.handleDequeue (n + i)) = true) ∧ ∀ e ∈ calls, e.2 = .success

namespace HookCalls

variable {env : Env} {n : Nat} {m : SignalingMessage} {ms : List SignalingMessage} {st : Status}
  {calls : List (SignalingMessage × Status)}

/-- The test for emptiness or the dequeue fails before a call. -/
theorem none_of_failed (hst : st ≠ .success)
    (hf : env.ok (.handleIsEmpty n) ≠ true ∨ (ms ≠ [] ∧ env.ok (.handleDequeue n) ≠ true)) :
    HookCalls env n ms st [] where
  fifo := List.nil_prefix
  upTo := by simp
  reached := by simp
  stops := by
    rcases hf with he | ⟨-, hd⟩
    · exact Or.inr (Or.inl he)
    · exact Or.inr (Or.inr (Or.inl hd))
  success_iff := by
    refine ⟨fun e => absurd e hst, ?_⟩
    rintro ⟨hempty, hdequeue, -⟩
    rcases hf with he | ⟨hne, hd⟩
    · exact absurd (hempty 0 (Nat.zero_le _)) he
    · exact absurd (hdequeue 0 (List.length_pos_of_ne_nil hne)) hd

theorem nil (he : env.ok (.handleIsEmpty n) = true) : HookCalls env n [] .success [] where
  fifo := List.nil_prefix
  upTo := by simp
  reached := by simp
  stops := Or.inl rfl
  success_iff := by simpa using he

/-- The hook fails. -/
theorem failed (he : env.ok (.handleIsEmpty n) = true) (hd : env.ok (.handleDequeue n) = true)
    {hst : Status} (hfail : hst ≠ .success) (hne : st ≠ .success) :
    HookCalls env n (m :: ms) st [(m, hst)] where
  fifo := List.cons_prefix_cons.mpr ⟨rfl, List.nil_prefix⟩
  upTo := by simp
  reached := by
    intro i hi
    obtain rfl : i = 0 := by simpa using hi
    exact ⟨he, hd⟩
  stops := Or.inr (Or.inr (Or.inr ⟨_, List.mem_singleton_self _, hfail⟩))
  success_iff := by
    refine ⟨fun e => absurd e hne, ?_⟩
    rintro ⟨-, -, hall⟩
    exact absurd (hall _ (List.mem_singleton_self _)) hfail

/-- The hook succeeds and the loop goes on. -/
theorem cons (h : HookCalls env (n + 1) ms st calls) (he : env.ok (.handleIsEmpty n) = true)
    (hd : env.ok (.handleDequeue n) = true) :
    HookCalls env n (m :: ms) st ((m, .success) :: calls) where
  fifo := List.cons_prefix_cons.mpr ⟨rfl, h.fifo⟩
  upTo := by
    intro e hmem
    cases calls with
    | nil => simp at hmem
    | cons c cs =>
      rw [List.dropLast_cons_of_ne_nil (List.cons_ne_nil c cs)] at hmem
      rcases List.mem_cons.mp hmem with rfl | hmem
      · rfl
      · exact h.upTo e hmem
  reached := by
    intro i hi
    cases i with
    | zero => exact ⟨he, hd⟩
    | succ i =>
      rw [← Nat.add_assoc, Nat.add_right_comm]
      exact h.reached i (by simpa using hi)
  stops := by
    rw [List.length_cons, List.length_cons, ← Nat.add_assoc, Nat.add_right_comm]
    rcases h.stops with hall | hempty | hdequeue | ⟨e, hmem, hfail⟩
    · exact Or.inl (congrArg (· + 1) hall)
    · exact Or.inr (Or.inl hempty)
    · exact Or.inr (Or.inr (Or.inl hdequeue))
    · exact Or.inr (Or.inr (Or.inr ⟨e, List.mem_cons_of_mem _ hmem, hfail⟩))
  success_iff := by
    rw [h.success_iff, List.forall_mem_cons]
    have hshift : ∀ {P : Nat → Prop} {k : Nat}, P n → ((∀ i < k, P (n + 1 + i)) ↔
        ∀ i < k + 1, P (n + i)) := by
      intro P k h0
      rw [Nat.forall_lt_succ_left]
      simp only [Nat.add_zero, h0, true_and, ← Nat.add_assoc, Nat.add_right_comm]
    have hempty := @hshift (fun i => env.ok (.handleIsEmpty i) = true) (ms.length + 1) he
    have hdequeue := @hshift (fun i => env.ok (.handleDequeue i) = true) ms.length hd
    simp only [← Nat.lt_succ_iff, Nat.succ_eq_add_one, List.length_cons, true_and, hempty,
      hdequeue]

end HookCalls

/-- The calls a drain makes. -/
theorem drain_calls (env : Env) (hook : MsgHandleHook η) (ms : List ReceivedSignalingMessage)
    (n : Nat) (log : List (SignalingMessage × Status)) (u : η) :
    let r := drain env (some (recorded hook)) n ms (log, u)
    ∃ calls, r.2.1 = log ++ calls ∧
      HookCalls env n (ms.map ReceivedSignalingMessage.signalingMessage) r.1 calls := by
  induction ms generalizing n log u with
  | nil =>
    unfold drain
    by_cases he : env.ok (.handleIsEmpty n) = true
    · simp only [he, Bool.not_true, Bool.false_eq_true, if_false]
      exact ⟨[], (List.append_nil log).symm, HookCalls.nil he⟩
    · simp only [he, Bool.not_false, if_true]
      exact ⟨[], (List.append_nil log).symm, HookCalls.none_of_failed (by simp) (Or.inl he)⟩
  | cons m ms ih =>
    unfold drain
    by_cases he : env.ok (.handleIsEmpty n) = true
    swap
    · simp only [he, Bool.not_false, if_true]
      exact ⟨[], (List.append_nil log).symm, HookCalls.none_of_failed (by simp) (Or.inl he)⟩
    by_cases hd : env.ok (.handleDequeue n) = true
    swap
    · simp only [he, hd, Bool.not_true, Bool.not_false, Bool.false_eq_true, if_true, if_false]
      exact ⟨[], (List.append_nil log).symm,
        HookCalls.none_of_failed (by simp) (Or.inr ⟨by simp, hd⟩)⟩
    simp only [he, hd, Bool.not_true, Bool.false_eq_true, if_false, callHook, recorded]
    rcases hc : hook n m.signalingMessage u with ⟨st, v⟩
    by_cases hst : st = .success
    · subst hst
      obtain ⟨calls, hlog, hcalls⟩ := ih (n + 1) (log ++ [(m.signalingMessage, .success)]) v
      refine ⟨(m.signalingMessage, .success) :: calls, ?_, hcalls.cons he hd⟩
      rw [hlog, List.append_assoc]
      rfl
    · refine ⟨[(m.signalingMessage, st)], ?_, ?_⟩
      · cases st <;> first | exact absurd rfl hst | rfl
      · cases st <;> first | exact absurd rfl hst | exact HookCalls.failed he hd hst (by simp)

/-- The loop does not look at the store, only at the queue it was given. -/
theorem handleLoop_setQueue (env : Env) (p : PPendingMessageQueue)
    (hook : Option (MsgHandleHook η)) (ps ms : List Nat) (n : Nat) (s : ConnectionMsgQ) (u : η) :
    handleLoop env p hook n ms { s with pMsqQueue := ps } u =
      let r := handleLoop env p hook n ms s u
      (r.1, r.2.1, { r.2.2.1 with pMsqQueue := ps }, r.2.2.2) := by
  induction ms generalizing n s u with
  | nil =>
    unfold handleLoop
    split <;> rfl
  | cons m ms ih =>
    unfold handleLoop
    split
    · rfl
    split
    · rfl
    simp only
    split
    · exact ih (n + 1) { s with
        queues := s.queues.modify p fun q => { q with messageQueue := some ms }
        messages := (s.messages.touch m).free m } _
    · rfl

/-- The loop allocates nothing and writes to no other queue. -/
theorem handleLoop_frame (env : Env) (p : PPendingMessageQueue)
    (hook : Option (MsgHandleHook η)) (ms : List PReceivedSignalingMessage) (n : Nat)
    (s : ConnectionMsgQ) (u : η) :
    let r := handleLoop env p hook n ms s u
    r.2.2.1.queues.next = s.queues.next ∧ r.2.2.1.messages.next = s.messages.next ∧
      ∀ q, p ≠ q → r.2.2.1.queues.read q = s.queues.read q := by
  induction ms generalizing n s u with
  | nil =>
    unfold handleLoop
    split <;> exact ⟨rfl, rfl, fun _ _ => rfl⟩
  | cons m ms ih =>
    unfold handleLoop
    split
    · exact ⟨rfl, rfl, fun _ _ => rfl⟩
    split
    · exact ⟨rfl, rfl, fun _ _ => rfl⟩
    simp only
    split
    · obtain ⟨hq, hm, hread⟩ := ih (n + 1) { s with
        queues := s.queues.modify p fun q => { q with messageQueue := some ms }
        messages := (s.messages.touch m).free m } _
      refine ⟨hq.trans (Arena.next_modify ..), hm.trans (Arena.next_free _ m), fun q hne => ?_⟩
      exact (hread q hne).trans (Arena.read_modify_of_ne _ _ hne)
    · exact ⟨Arena.next_modify .., rfl, fun q hne => Arena.read_modify_of_ne _ _ hne⟩

theorem handlePendingMsgQ_setQueue (env : Env) (p : PPendingMessageQueue)
    (hook : Option (MsgHandleHook η)) (ps : List PPendingMessageQueue) (s : ConnectionMsgQ) (u : η) :
    handlePendingMsgQ env (some p) hook { s with pMsqQueue := ps } u =
      let r := handlePendingMsgQ env (some p) hook s u
      (r.1, { r.2.1 with pMsqQueue := ps }, r.2.2) := by
  have hloop := handleLoop_setQueue env p hook ps (s.items p) 0
    { s with queues := s.queues.touch p } u
  exact congrArg (fun r : Status × Option PReceivedSignalingMessage × ConnectionMsgQ × η =>
    let s := (freePendingMsgQ (some p) r.2.2.1).2
    (r.1, { s with messages := s.messages.freeAll r.2.1.toList }, r.2.2.2)) hloop

theorem handlePendingMsgQ_frame (env : Env) (p : PPendingMessageQueue)
    (hook : Option (MsgHandleHook η)) (s : ConnectionMsgQ) (u : η) :
    let r := handlePendingMsgQ env (some p) hook s u
    r.2.1.queues.next = s.queues.next ∧ r.2.1.messages.next = s.messages.next ∧
      ∀ q, p ≠ q → r.2.1.items q = s.items q := by
  obtain ⟨hq, hm, hread⟩ := handleLoop_frame env p hook (s.items p) 0
    { s with queues := s.queues.touch p } u
  have hsame := SameObjects.free (handleLoop env p hook 0 (s.items p)
    { s with queues := s.queues.touch p } u).2.2.1 p
  refine ⟨hsame.nextQueue.trans hq, ?_, fun q hne => ?_⟩
  · exact (Arena.next_freeAll _ _).trans (hsame.nextMessage.trans hm)
  · exact congrArg PendingMessageQueue.items ((congrFun hsame.queues q).trans (hread q hne))

/-- The queue is drained in order up to the first failure, and on every path it and the messages
it held have been freed once and not used after. -/
theorem handlePendingMsgQ_drains (env : Env) (hook : MsgHandleHook η) (u : η)
    (h : s.Owned held loose) (hp : p ∈ s.pMsqQueue ++ held) :
    let r := handlePendingMsgQ env (some p) (some (recorded hook)) s ([], u)
    HookCalls env 0 ((s.box p).items.map ReceivedSignalingMessage.signalingMessage) r.1 r.2.2.1 ∧
      s.queues.frees p = 0 ∧ r.2.1.queues.frees p = 1 ∧
      (∀ m ∈ s.items p, s.messages.frees m = 0 ∧ r.2.1.messages.frees m = 1) ∧
      r.2.1.queues.misused = false ∧ r.2.1.messages.misused = false := by
  -- the same call with all queues in hand and none in the store
  let s0 : ConnectionMsgQ := { s with pMsqQueue := [] }
  have h0 : s0.Owned (p :: (s.pMsqQueue ++ held).erase p) loose := h.perm (List.perm_cons_erase hp)
  have hr := handlePendingMsgQ_setQueue env p (some (recorded hook)) s.pMsqQueue s0 ([], u)
  obtain ⟨ho, hnil, -, hdrain⟩ :=
    handlePendingMsgQ_spec env (some (recorded hook)) ([], u) h0
  obtain ⟨hnextq, hnextm, hitems⟩ :=
    handlePendingMsgQ_frame env p (some (recorded hook)) s0 ([], u)
  obtain ⟨calls, hlog, hcalls⟩ := drain_calls env hook (s0.box p).items 0 [] u
  rw [← hdrain, List.nil_append] at hlog
  rw [← hdrain, ← hlog] at hcalls
  have hgone : p ∉ (s.pMsqQueue ++ held).erase p := (List.nodup_cons.mp h0.queues.nodup).1
  obtain ⟨hfree, hfrees⟩ := h0.released ho hnextq hnextm List.mem_cons_self
    (by rw [hnil]; exact hgone) fun q hq => by
      rw [hnil] at hq
      exact ⟨List.mem_cons_of_mem p hq, hitems q fun e => hgone (e ▸ hq)⟩
  intro r
  rw [show r = _ from hr]
  exact ⟨hcalls, h.queues.frees_eq_zero hp, hfree,
    fun m hm => ⟨Arena.frees_of_live (h.message_live hp hm), hfrees m hm⟩,
    ho.queues.unmisused, ho.messages.unmisused⟩

/-- A second message in the first of the two queues. -/
def twoMessages : ConnectionMsgQ :=
  (pushMsqIntoPendingMsgQ Env.allOk (some 0) (candidateOf clientA [2]) agedStore).2

theorem twoMessages_owned : twoMessages.Owned [] [] :=
  (pushMsqIntoPendingMsgQ_spec Env.allOk (candidateOf clientA [2]) agedStore_owned (by decide)).1

/-- A hook that takes the first message it is called with and refuses the second. -/
def refuseSecond : MsgHandleHook Unit := fun n _ u => (if n = 0 then .success else .sdk 1, u)

/-- Both messages are freed with the queue, the refused one too. -/
theorem handlePendingMsgQ_drains_refused :
    let r := handlePendingMsgQ Env.allOk (some 0) (some (recorded refuseSecond)) twoMessages ([], ())
    HookCalls Env.allOk 0 ((twoMessages.box 0).items.map ReceivedSignalingMessage.signalingMessage)
        r.1 r.2.2.1 ∧
      r.2.2.1.map Prod.snd = [.success, .sdk 1] ∧
      r.2.1.queues.frees 0 = 1 ∧ r.2.1.messages.frees 0 = 1 ∧ r.2.1.messages.frees 1 = 1 := by
  obtain ⟨hcalls, -, hqueue, hmessages, -⟩ := handlePendingMsgQ_drains (p := 0) Env.allOk
    refuseSecond () twoMessages_owned (by decide)
  exact ⟨hcalls, by decide, hqueue, (hmessages 0 (by decide)).2, (hmessages 1 (by decide)).2⟩

end

end WebrtcApp
