import WebrtcApp.Lib.Mailbox
import WebrtcApp.App.MessageQueue

/-!
# The pending store: ownership and contents

`Owned s held loose` says who owns what: the live queues are those in the store and those
in `held` (in a local variable, or lost), the live messages are `loose` and those in these
queues, and nothing was used after it was freed.  Every function of the store keeps this,
whatever its calls return; where a function moves a queue out of the store, `held` says so.

`boxes s` is the store as a list of mailboxes, without pointers.  On owned stores
the functions are the operations of `Lib/Mailbox`:

    createPendingMsgQ, pushMsqIntoPendingMsgQ    deposit
    getPendingMsgQByHashVal, remove              remove
    removeExpiredPendingMsgQ                     filter
    handlePendingMsgQ                            drain of the messages (drain)
-/

namespace WebrtcApp

/-! ## Definitions -/

abbrev PendingBox := Mailbox UInt64 UInt64 ReceivedSignalingMessage

def ConnectionMsgQ.box (s : ConnectionMsgQ) (p : PPendingMessageQueue) : PendingBox :=
  ⟨s.key p, (s.queues.read p).createTime, (s.items p).map s.messages.read⟩

def ConnectionMsgQ.boxes (s : ConnectionMsgQ) : List PendingBox := s.pMsqQueue.map s.box

structure ConnectionMsgQ.Owned (s : ConnectionMsgQ) (held : List PPendingMessageQueue)
    (loose : List PReceivedSignalingMessage) : Prop where
  queues : s.queues.Owned (s.pMsqQueue ++ held)
  messages : s.messages.Owned (loose ++ (s.pMsqQueue ++ held).flatMap s.items)

/-- What `handlePendingMsgQ` does with the messages of its queue, pointers left out. -/
def drain {η : Type} (env : Env) (hook : Option (MsgHandleHook η)) :
    Nat → List ReceivedSignalingMessage → η → Status × η
  | n, [], u => if !env.ok (.handleIsEmpty n) then (.appMsgqEmptyPendingMsq, u) else (.success, u)
  | n, m :: ms, u =>
    if !env.ok (.handleIsEmpty n) then (.appMsgqEmptyPendingMsq, u)
    else if !env.ok (.handleDequeue n) then (.appMsgqPopPendingMsq, u)
    else
      match callHook hook n m.signalingMessage u with
      | (.success, u) => drain env hook (n + 1) ms u
      | (_, u) => (.appMsgqHandlePendingMsq, u)

/-- The first `n` rounds of the iterator of `getPendingMsgQByHashVal` succeed. -/
def Env.IteratorOk (env : Env) (n : Nat) : Prop :=
  env.ok .lookupGetIterator = true ∧
    ∀ i < n, env.ok (.lookupGetItem i) = true ∧ env.ok (.lookupNext i) = true

/-- Not expired at `curTime`: what `removeExpiredPendingMsgQ` keeps. -/
def PendingBox.fresh (interval curTime : UInt64) (b : PendingBox) : Bool :=
  !decide (b.time + interval < curTime)

namespace ConnectionMsgQ.Owned

variable {s : ConnectionMsgQ} {held : List PPendingMessageQueue}
  {loose : List PReceivedSignalingMessage} {p : PPendingMessageQueue}

theorem create : (createConnectionMsqQ).Owned [] [] :=
  ⟨Arena.Owned.empty, Arena.Owned.empty⟩

/-- The store and the held queues may trade places and order. -/
theorem perm (h : s.Owned held loose) {store' held' : List PPendingMessageQueue}
    (hp : (s.pMsqQueue ++ held).Perm (store' ++ held')) :
    Owned { s with pMsqQueue := store' } held' loose :=
  ⟨h.queues.perm hp, h.messages.perm ((hp.flatMap_right s.items).append_left loose)⟩

theorem live (h : s.Owned held loose) (hp : p ∈ s.pMsqQueue ++ held) : s.queues.live p = true :=
  h.queues.live hp

theorem touch (h : s.Owned held loose) (hp : p ∈ s.pMsqQueue ++ held) :
    { s with queues := s.queues.touch p } = s := by
  rw [h.queues.touch hp]

theorem message_live (h : s.Owned held loose) (hp : p ∈ s.pMsqQueue ++ held)
    {m : PReceivedSignalingMessage} (hm : m ∈ s.items p) : s.messages.live m = true :=
  h.messages.live (List.mem_append_right _ (List.mem_flatMap.mpr ⟨p, hp, hm⟩))

/-- Freeing a held queue frees its messages with it. -/
theorem free (h : s.Owned (p :: held) loose) :
    (freePendingMsgQ (some p) s).2.Owned held loose := by
  have hmid : (s.pMsqQueue ++ p :: held).Perm (p :: (s.pMsqQueue ++ held)) := List.perm_middle
  have hq := h.queues.perm hmid
  have hm := h.messages.perm (hmid.flatMap_right s.items |>.append_left loose)
  have hm' : s.messages.Owned (s.items p ++ (loose ++ (s.pMsqQueue ++ held).flatMap s.items)) := by
    apply hm.perm
    rw [List.flatMap_cons]
    exact List.perm_append_comm_assoc ..
  have hitems : (freePendingMsgQ (some p) s).2.items = s.items := by
    funext q
    simp [freePendingMsgQ, ConnectionMsgQ.items]
  refine ⟨?_, ?_⟩
  · show ((s.queues.touch p).free p).Owned (s.pMsqQueue ++ held)
    rw [h.queues.touch (List.mem_append_right _ List.mem_cons_self)]
    exact hq.free
  · rw [hitems]
    exact hm'.freeAll

/-- The messages of an owned queue are replaced, against the loose ones. -/
theorem setItems (h : s.Owned held loose) (hp : p ∈ s.pMsqQueue ++ held)
    (f : PendingMessageQueue → PendingMessageQueue) {xs loose' : List PReceivedSignalingMessage}
    (hf : (f (s.queues.read p)).items = xs) (hperm : (loose ++ s.items p).Perm (loose' ++ xs)) :
    Owned { s with queues := s.queues.modify p f } held loose' := by
  refine ⟨h.queues.modify hp f, h.messages.perm ?_⟩
  obtain ⟨hnot, -⟩ := List.nodup_cons.mp ((List.perm_cons_erase hp).nodup_iff.mp h.queues.nodup)
  have hself : ConnectionMsgQ.items { s with queues := s.queues.modify p f } p = xs := by
    rw [ConnectionMsgQ.items, Arena.read_modify_self _ f (h.live hp), hf]
  have hrest : ∀ q ∈ (s.pMsqQueue ++ held).erase p,
      ConnectionMsgQ.items { s with queues := s.queues.modify p f } q = s.items q := by
    intro q hq
    have hne : p ≠ q := fun e => hnot (e ▸ hq)
    simp [ConnectionMsgQ.items, Arena.read_modify_of_ne _ f hne]
  have hpe := List.perm_cons_erase hp
  refine ((hpe.flatMap_right s.items).append_left loose).trans
    (List.Perm.trans ?_ ((hpe.flatMap_right _).append_left loose').symm)
  rw [List.flatMap_cons, List.flatMap_cons, hself, List.flatMap_congr hrest,
    ← List.append_assoc, ← List.append_assoc]
  exact hperm.append_right _

theorem allocMessage (h : s.Owned held loose) (m : ReceivedSignalingMessage) :
    Owned { s with messages := s.messages.alloc m } held (s.messages.next :: loose) :=
  ⟨h.queues, h.messages.alloc m⟩

theorem freeMessage {m : PReceivedSignalingMessage} (h : s.Owned held (m :: loose)) :
    Owned { s with messages := s.messages.free m } held loose :=
  ⟨h.queues, h.messages.free⟩

end ConnectionMsgQ.Owned

/-! ## What stays of a box -/

section
variable {s : ConnectionMsgQ} {held : List PPendingMessageQueue}
  {loose : List PReceivedSignalingMessage} {p q : PPendingMessageQueue}

theorem box_congr {s' : ConnectionMsgQ} (hq : s'.queues.read q = s.queues.read q)
    (hm : ∀ m ∈ s.items q, s'.messages.read m = s.messages.read m) : s'.box q = s.box q := by
  have hi : s'.items q = s.items q := by rw [ConnectionMsgQ.items, hq, ConnectionMsgQ.items]
  have hmap : (s.items q).map s'.messages.read = (s.items q).map s.messages.read :=
    List.map_congr_left hm
  rw [ConnectionMsgQ.box, ConnectionMsgQ.box, hi, hmap, ConnectionMsgQ.key, ConnectionMsgQ.key, hq]

@[simp] theorem box_freePendingMsgQ (o : Option PPendingMessageQueue) :
    (freePendingMsgQ o s).2.box q = s.box q := by
  cases o with
  | none => rfl
  | some p => exact box_congr (by simp [freePendingMsgQ]) (by simp [freePendingMsgQ])

@[simp] theorem pMsqQueue_freePendingMsgQ (o : Option PPendingMessageQueue) :
    (freePendingMsgQ o s).2.pMsqQueue = s.pMsqQueue := by
  cases o <;> rfl

/-- A new message object changes no box of an owned queue. -/
theorem box_allocMessage (h : s.Owned held loose) (hq : q ∈ s.pMsqQueue ++ held)
    (m : ReceivedSignalingMessage) :
    ConnectionMsgQ.box { s with messages := s.messages.alloc m } q = s.box q :=
  box_congr rfl fun _ hx => Arena.read_alloc_of_lt _ _ (Arena.live_lt (h.message_live hq hx))

theorem box_modify_of_ne (f : PendingMessageQueue → PendingMessageQueue) (hne : p ≠ q) :
    ConnectionMsgQ.box { s with queues := s.queues.modify p f } q = s.box q :=
  box_congr (Arena.read_modify_of_ne _ f hne) fun _ _ => rfl

theorem box_key : (s.box p).key = s.key p := rfl

theorem mem_keys_boxes {k : UInt64} :
    k ∈ Mailbox.keys s.boxes ↔ ∃ p ∈ s.pMsqQueue, s.key p = k := by
  simp [Mailbox.keys, ConnectionMsgQ.boxes, box_key]

/-! ## createPendingMsgQ and pushMsqIntoPendingMsgQ -/

/-- A new queue is owned and opens an empty box at the end of the store; on a failure the
store is as before. -/
theorem createPendingMsgQ_spec (env : Env) (k : UInt64) (h : s.Owned held loose) :
    let r := createPendingMsgQ env k s
    r.2.2.Owned held loose ∧
      ((r.1 = .success ∧ r.2.1 = some s.queues.next ∧
          r.2.2.pMsqQueue = s.pMsqQueue ++ [s.queues.next] ∧
          r.2.2.boxes = s.boxes ++ [⟨k, env.now, []⟩]) ∨
        (r.1 ≠ .success ∧ r.2.1 = none ∧ r.2.2.boxes = s.boxes)) := by
  -- the new queue, still held and without a stackQueue
  let s1 : ConnectionMsgQ := { s with queues := s.queues.alloc ⟨k, env.now, none⟩ }
  have hread : ∀ q ∈ s.pMsqQueue ++ held, s1.queues.read q = s.queues.read q := fun q hq =>
    Arena.read_alloc_of_lt _ _ (h.queues.lt_next hq)
  have hnew : s1.queues.read s.queues.next = ⟨k, env.now, none⟩ := Arena.read_alloc_next _ _
  have h1 : s1.Owned (s.queues.next :: held) loose := by
    refine ⟨(h.queues.alloc _).perm List.perm_middle.symm, ?_⟩
    have hi : s1.items s.queues.next = [] := by rw [ConnectionMsgQ.items, hnew]; rfl
    have hrest : (s.pMsqQueue ++ held).flatMap s1.items = (s.pMsqQueue ++ held).flatMap s.items :=
      List.flatMap_congr fun q hq => by rw [ConnectionMsgQ.items, hread q hq, ConnectionMsgQ.items]
    refine h.messages.perm (List.Perm.append_left loose ?_)
    refine List.Perm.trans ?_ (List.perm_middle.flatMap_right s1.items).symm
    rw [List.flatMap_cons, hi, hrest]
    exact List.Perm.refl _
  have hbox1 : ∀ q ∈ s.pMsqQueue, s1.box q = s.box q := fun q hq =>
    box_congr (hread q (List.mem_append_left _ hq)) fun _ _ => rfl
  -- with its stackQueue, empty
  let s2 : ConnectionMsgQ :=
    { s1 with queues := s1.queues.modify s.queues.next fun q => { q with messageQueue := some [] } }
  have hmem : s.queues.next ∈ s1.pMsqQueue ++ s.queues.next :: held :=
    List.mem_append_right _ List.mem_cons_self
  have h2 : s2.Owned (s.queues.next :: held) loose := by
    apply h1.setItems hmem _ rfl
    rw [ConnectionMsgQ.items, hnew]
    exact List.Perm.refl _
  have hne : ∀ q ∈ s.pMsqQueue, s.queues.next ≠ q := fun q hq e =>
    h.queues.next_not_mem (e ▸ List.mem_append_left _ hq)
  have hbox2 : ∀ q ∈ s.pMsqQueue, s2.box q = s.box q := fun q hq =>
    (box_modify_of_ne _ (hne q hq)).trans (hbox1 q hq)
  have hboxnew : s2.box s.queues.next = ⟨k, env.now, []⟩ := by
    have hr : s2.queues.read s.queues.next = ⟨k, env.now, some []⟩ := by
      show (s1.queues.modify _ _).read _ = _
      rw [Arena.read_modify_self _ _ (h1.live hmem), hnew]
    rw [ConnectionMsgQ.box, ConnectionMsgQ.key, ConnectionMsgQ.items, hr]
    rfl
  intro r
  by_cases hc : env.ok .pendingMsgQCalloc = true
  · by_cases hqc : env.ok .pendingMsgQQueueCreate = true
    · by_cases he : env.ok .pendingMsgQEnqueue = true
      · have hr : r = (.success, some s.queues.next,
            { s2 with pMsqQueue := s.pMsqQueue ++ [s.queues.next] }) := by
          show createPendingMsgQ env k s = _
          simp [createPendingMsgQ, hc, hqc, he, s2, s1]
        rw [hr]
        refine ⟨h2.perm ?_, Or.inl ⟨rfl, rfl, rfl, ?_⟩⟩
        · rw [List.append_assoc]
          exact List.Perm.refl _
        · show (s.pMsqQueue ++ [s.queues.next]).map s2.box = s.pMsqQueue.map s.box ++ _
          rw [List.map_append, List.map_congr_left hbox2, List.map_singleton, hboxnew]
      · have hr : r = (.appMsgqPushConnMsq, none, (freePendingMsgQ (some s.queues.next) s2).2) := by
          show createPendingMsgQ env k s = _
          simp [createPendingMsgQ, hc, hqc, he, s2, s1]
        rw [hr]
        refine ⟨h2.free, Or.inr ⟨by simp, rfl, ?_⟩⟩
        show s.pMsqQueue.map (freePendingMsgQ (some s.queues.next) s2).2.box = _
        exact List.map_congr_left fun q hq => (box_freePendingMsgQ _).trans (hbox2 q hq)
    · have hr : r = (.appMsgqCreatePendingMsq, none,
          (freePendingMsgQ (some s.queues.next) s1).2) := by
        show createPendingMsgQ env k s = _
        simp [createPendingMsgQ, hc, hqc, s1]
      rw [hr]
      refine ⟨h1.free, Or.inr ⟨by simp, rfl, ?_⟩⟩
      show s.pMsqQueue.map (freePendingMsgQ (some s.queues.next) s1).2.box = _
      exact List.map_congr_left fun q hq => (box_freePendingMsgQ _).trans (hbox1 q hq)
  · have hr : r = (.appMsgqNotEnoughMemory, none, s) := by
      show createPendingMsgQ env k s = _
      simp [createPendingMsgQ, hc]
    rw [hr]
    exact ⟨h, Or.inr ⟨by simp, rfl, rfl⟩⟩

/-- The queue at `p` gets a copy of the message at its end; on a failure the store is as
before. -/
theorem pushMsqIntoPendingMsgQ_spec (env : Env) (msg : ReceivedSignalingMessage)
    (h : s.Owned held loose) (hp : p ∈ s.pMsqQueue) :
    let r := pushMsqIntoPendingMsgQ env (some p) msg s
    r.2.Owned held loose ∧ r.2.pMsqQueue = s.pMsqQueue ∧
      ((r.1 = .success ∧ (∀ q ∈ s.pMsqQueue, q ≠ p → r.2.box q = s.box q) ∧
          r.2.box p = { s.box p with items := (s.box p).items ++ [msg] }) ∨
        (r.1 ≠ .success ∧ r.2.boxes = s.boxes)) := by
  have hmem : ∀ {q}, q ∈ s.pMsqQueue → q ∈ s.pMsqQueue ++ held := List.mem_append_left _
  let s1 : ConnectionMsgQ := { s with messages := s.messages.alloc msg }
  have h1 : s1.Owned held (s.messages.next :: loose) := h.allocMessage msg
  have hbox1 : ∀ q ∈ s.pMsqQueue, s1.box q = s.box q := fun q hq =>
    box_allocMessage h (hmem hq) msg
  intro r
  by_cases hc : env.ok .messageCalloc = true
  · by_cases he : env.ok .messageEnqueue = true
    · let f : PendingMessageQueue → PendingMessageQueue :=
        fun q => { q with messageQueue := some (q.items ++ [s.messages.next]) }
      have hr : r = (.success, { s1 with queues := s.queues.modify p f }) := by
        show pushMsqIntoPendingMsgQ env (some p) msg s = _
        simp [pushMsqIntoPendingMsgQ, hc, he, s1, f]
      rw [hr]
      refine ⟨h1.setItems (hmem hp) f rfl ?_, rfl, Or.inl ⟨rfl, fun q hq hne => ?_, ?_⟩⟩
      · show (s.messages.next :: loose ++ s.items p).Perm (loose ++ (s.items p ++ [s.messages.next]))
        rw [← List.append_assoc]
        exact (List.perm_append_singleton _ _).symm
      · exact (box_modify_of_ne f (Ne.symm hne)).trans (hbox1 q hq)
      · have hread : (s.queues.modify p f).read p = f (s.queues.read p) :=
          Arena.read_modify_self _ f (h.live (hmem hp))
        have hitems : (s.items p).map s1.messages.read = (s.items p).map s.messages.read :=
          congrArg Mailbox.items (hbox1 p hp)
        have hnew : s1.messages.read s.messages.next = msg := Arena.read_alloc_next _ _
        show (⟨_, _, (((s.queues.modify p f).read p).items).map s1.messages.read⟩ : PendingBox) = _
        rw [ConnectionMsgQ.key, hread]
        show (⟨_, _, (s.items p ++ [s.messages.next]).map s1.messages.read⟩ : PendingBox) = _
        rw [List.map_append, hitems, List.map_singleton, hnew]
        rfl
    · have hr : r = (.appMsgqPushPendingMsq,
          { s1 with queues := s.queues.touch p, messages := s1.messages.free s.messages.next }) := by
        show pushMsqIntoPendingMsgQ env (some p) msg s = _
        simp [pushMsqIntoPendingMsgQ, hc, he, s1]
      rw [hr, h.queues.touch (hmem hp)]
      refine ⟨h1.freeMessage, rfl, Or.inr ⟨by simp, ?_⟩⟩
      refine List.map_congr_left fun q hq => Eq.trans ?_ (hbox1 q hq)
      exact box_congr rfl fun _ _ => Arena.read_free _ _ _
  · have hr : r = (.appMsgqNotEnoughMemory, s) := by
      show pushMsqIntoPendingMsgQ env (some p) msg s = _
      simp [pushMsqIntoPendingMsgQ, hc]
    rw [hr]
    exact ⟨h, rfl, Or.inr ⟨by simp, rfl⟩⟩

theorem not_mem_keys_map {k : UInt64} {ps : List PPendingMessageQueue}
    (h : ∀ q ∈ ps, s.key q ≠ k) : k ∉ Mailbox.keys (ps.map s.box) := by
  intro hm
  obtain ⟨b, hb, hbk⟩ := List.mem_map.mp hm
  obtain ⟨q, hq, rfl⟩ := List.mem_map.mp hb
  exact h q hq hbk

/-- Pushed into the first queue of its key, a message is deposited. -/
theorem boxes_eq_deposit {s' : ConnectionMsgQ} {msg : ReceivedSignalingMessage} {k t : UInt64}
    {pre post : List PPendingMessageQueue} (hs : s.pMsqQueue = pre ++ p :: post)
    (hs' : s'.pMsqQueue = s.pMsqQueue) (hnd : s.pMsqQueue.Nodup)
    (hpre : ∀ q ∈ pre, s.key q ≠ k) (hk : s.key p = k)
    (hrest : ∀ q ∈ s.pMsqQueue, q ≠ p → s'.box q = s.box q)
    (hp : s'.box p = { s.box p with items := (s.box p).items ++ [msg] }) :
    s'.boxes = Mailbox.deposit k t msg s.boxes := by
  rw [hs] at hnd
  have hnot := List.nodup_append.mp hnd
  have hcons := List.nodup_cons.mp hnot.2.1
  have e1 : pre.map s'.box = pre.map s.box := List.map_congr_left fun q hq =>
    hrest q (hs ▸ List.mem_append_left _ hq) fun e => hnot.2.2 q hq p List.mem_cons_self e
  have e2 : post.map s'.box = post.map s.box := List.map_congr_left fun q hq =>
    hrest q (hs ▸ List.mem_append_right _ (List.mem_cons_of_mem _ hq)) fun e => hcons.1 (e ▸ hq)
  rw [ConnectionMsgQ.boxes, hs', ConnectionMsgQ.boxes, hs, List.map_append, List.map_append,
    List.map_cons, List.map_cons, Mailbox.deposit_append, Mailbox.deposit_cons_self, e1, e2, hp]
  · exact hk
  · exact not_mem_keys_map hpre

/-! ## getPendingMsgQByHashVal -/

/-- Everything a lookup can do from round `n` on: a call fails and nothing changes; no queue
has the key and the result is the last queue visited; or the first queue with the key is
found, and removed if asked. -/
theorem lookupLoop_cases (env : Env) (k : UInt64) (remove : Bool) (h : s.Owned held loose)
    (ps : List PPendingMessageQueue) (hps : ∀ q ∈ ps, q ∈ s.pMsqQueue) (n : Nat)
    (cur : Option PPendingMessageQueue) :
    ((lookupLoop env k remove n ps cur s).1 ≠ .success ∧
        (lookupLoop env k remove n ps cur s).2.2 = s) ∨
      ((∀ q ∈ ps, s.key q ≠ k) ∧
        (∀ i < ps.length, env.ok (.lookupGetItem (n + i)) = true ∧
          env.ok (.lookupNext (n + i)) = true) ∧
        lookupLoop env k remove n ps cur s = (.success, ps.getLast?.or cur, s)) ∨
      ∃ pre p post, ps = pre ++ p :: post ∧ (∀ q ∈ pre, s.key q ≠ k) ∧ s.key p = k ∧
        (∀ i < pre.length + 1, env.ok (.lookupGetItem (n + i)) = true ∧
          env.ok (.lookupNext (n + i)) = true) ∧
        (remove = true → env.ok .lookupRemoveItem = true) ∧
        lookupLoop env k remove n ps cur s = (.success, some p,
          if remove then { s with pMsqQueue := s.pMsqQueue.erase p } else s) := by
  induction ps generalizing n cur with
  | nil => exact Or.inr (Or.inl ⟨by simp, by simp, rfl⟩)
  | cons p ps ih =>
    unfold lookupLoop
    by_cases hi : env.ok (.lookupGetItem n) = true
    swap
    · have hf : env.status (.lookupGetItem n) ≠ .success := fun e => hi (Env.ok_eq_true.mpr e)
      exact Or.inl (by simp [hi, hf])
    by_cases hn : env.ok (.lookupNext n) = true
    swap
    · have hf : env.status (.lookupNext n) ≠ .success := fun e => hn (Env.ok_eq_true.mpr e)
      exact Or.inl (by simp [hi, hn, hf])
    simp only [hi, hn, Bool.not_true, Bool.false_eq_true, if_false]
    have htouch : s.queues.touch p = s.queues :=
      h.queues.touch (List.mem_append_left _ (hps p List.mem_cons_self))
    rw [htouch]
    by_cases hk : s.key p = k
    · have hkb : (k == s.key p) = true := beq_iff_eq.mpr hk.symm
      rw [if_pos hkb]
      have hround : ∀ i < ([] : List PPendingMessageQueue).length + 1,
          env.ok (.lookupGetItem (n + i)) = true ∧ env.ok (.lookupNext (n + i)) = true := by
        intro i hlt
        obtain rfl : i = 0 := by simpa using hlt
        exact ⟨hi, hn⟩
      cases remove with
      | false => exact Or.inr (Or.inr ⟨[], p, ps, rfl, by simp, hk, hround, by simp, by simp⟩)
      | true =>
        by_cases hr : env.ok .lookupRemoveItem = true
        · exact Or.inr (Or.inr ⟨[], p, ps, rfl, by simp, hk, hround, fun _ => hr, by simp [hr]⟩)
        · have hf : env.status .lookupRemoveItem ≠ .success :=
            fun e => hr (Env.ok_eq_true.mpr e)
          exact Or.inl (by simp [hr, hf])
    · have hkb : ¬ (k == s.key p) = true := fun e => hk (beq_iff_eq.mp e).symm
      rw [if_neg hkb]
      -- the rounds seen by the rest, shifted past this one
      have hshift : ∀ {m : Nat}, (∀ i < m, env.ok (.lookupGetItem (n + 1 + i)) = true ∧
          env.ok (.lookupNext (n + 1 + i)) = true) → ∀ i < m + 1,
          env.ok (.lookupGetItem (n + i)) = true ∧ env.ok (.lookupNext (n + i)) = true := by
        intro m hm i hlt
        cases i with
        | zero => exact ⟨hi, hn⟩
        | succ i =>
          have := hm i (by omega)
          rwa [show n + (i + 1) = n + 1 + i by omega]
      rcases ih (fun q hq => hps q (List.mem_cons_of_mem _ hq)) (n + 1) (some p) with
        hfail | ⟨hno, hok, he⟩ | ⟨pre, q, post, hsplit, hpre, hq, hok, hrm, he⟩
      · exact Or.inl hfail
      · refine Or.inr (Or.inl ⟨fun q hq => ?_, hshift hok, ?_⟩)
        · rcases List.mem_cons.mp hq with rfl | hq
          · exact hk
          · exact hno q hq
        · rw [he, List.getLast?_cons]
          cases ps.getLast? <;> rfl
      · refine Or.inr (Or.inr ⟨p :: pre, q, post, by rw [hsplit]; rfl, fun r hr => ?_, hq,
          hshift hok, hrm, he⟩)
        rcases List.mem_cons.mp hr with rfl | hr
        · exact hk
        · exact hpre r hr

theorem getPendingMsgQByHashVal_cases (env : Env) (k : UInt64) (remove : Bool)
    (h : s.Owned held loose) :
    ((getPendingMsgQByHashVal env k remove s).1 ≠ .success ∧
        (getPendingMsgQByHashVal env k remove s).2.2 = s) ∨
      (k ∉ Mailbox.keys s.boxes ∧ env.IteratorOk s.pMsqQueue.length ∧
        getPendingMsgQByHashVal env k remove s = (.success, s.pMsqQueue.getLast?, s)) ∨
      ∃ pre p post, s.pMsqQueue = pre ++ p :: post ∧ (∀ q ∈ pre, s.key q ≠ k) ∧ s.key p = k ∧
        env.IteratorOk (pre.length + 1) ∧ (remove = true → env.ok .lookupRemoveItem = true) ∧
        getPendingMsgQByHashVal env k remove s = (.success, some p,
          if remove then { s with pMsqQueue := pre ++ post } else s) := by
  unfold getPendingMsgQByHashVal
  by_cases hg : env.ok .lookupGetIterator = true
  swap
  · have hf : env.status .lookupGetIterator ≠ .success := fun e => hg (Env.ok_eq_true.mpr e)
    exact Or.inl (by simp [hg, hf])
  simp only [hg, Bool.not_true, Bool.false_eq_true, if_false]
  rcases lookupLoop_cases env k remove h s.pMsqQueue (fun _ hq => hq) 0 none with
    hfail | ⟨hno, hok, he⟩ | ⟨pre, p, post, hsplit, hpre, hp, hok, hrm, he⟩
  · exact Or.inl hfail
  · refine Or.inr (Or.inl ⟨not_mem_keys_map hno, ⟨hg, fun i hi => ?_⟩, ?_⟩)
    · simpa using hok i hi
    · rw [he, Option.or_none]
  · refine Or.inr (Or.inr ⟨pre, p, post, hsplit, hpre, hp, ⟨hg, fun i hi => ?_⟩, hrm, ?_⟩)
    · simpa using hok i hi
    · have hnot : p ∉ pre := fun hm => hpre p hm hp
      rw [he, hsplit, List.erase_append_right _ hnot, List.erase_cons_head]

theorem getPendingMsgQByHashVal_success (env : Env) (k : UInt64) (remove : Bool)
    (hq : ∀ call : Call, call.isQueue = true → env.ok call = true) :
    (getPendingMsgQByHashVal env k remove s).1 = .success := by
  have hloop : ∀ (ps : List PPendingMessageQueue) (n : Nat) (cur : Option PPendingMessageQueue)
      (s : ConnectionMsgQ), (lookupLoop env k remove n ps cur s).1 = .success := by
    intro ps
    induction ps with
    | nil => exact fun _ _ _ => rfl
    | cons p ps ih =>
      intro n cur s
      unfold lookupLoop
      simp only [hq (.lookupGetItem n) rfl, hq (.lookupNext n) rfl, hq .lookupRemoveItem rfl,
        Bool.not_true, Bool.false_eq_true, if_false]
      split_ifs
      · rfl
      · rfl
      · exact ih _ _ _
  unfold getPendingMsgQByHashVal
  simp only [hq .lookupGetIterator rfl, Bool.not_true, Bool.false_eq_true, if_false]
  exact hloop _ _ _ _

/-- A queue taken out of the store is held by whoever looked it up. -/
theorem ConnectionMsgQ.Owned.take (h : s.Owned held loose) {pre post : List PPendingMessageQueue}
    (hs : s.pMsqQueue = pre ++ p :: post) :
    ConnectionMsgQ.Owned { s with pMsqQueue := pre ++ post } (p :: held) loose := by
  apply h.perm
  rw [hs, List.append_assoc, List.append_assoc]
  exact (List.perm_middle.symm.append_left pre)

/-- Taking the first queue of a key out is the removal of its box. -/
theorem boxes_eq_remove {k : UInt64} {pre post : List PPendingMessageQueue}
    (hs : s.pMsqQueue = pre ++ p :: post) (hpre : ∀ q ∈ pre, s.key q ≠ k) (hk : s.key p = k) :
    ConnectionMsgQ.boxes { s with pMsqQueue := pre ++ post } = Mailbox.remove k s.boxes := by
  show (pre ++ post).map s.box = _
  rw [ConnectionMsgQ.boxes, hs, List.map_append, List.map_append, List.map_cons,
    Mailbox.remove_append (not_mem_keys_map hpre), Mailbox.remove_cons_self hk]

theorem box_freeAllMessages (s : ConnectionMsgQ) (ms : List PReceivedSignalingMessage) :
    ConnectionMsgQ.box { s with messages := s.messages.freeAll ms } q = s.box q :=
  box_congr rfl fun _ _ => Arena.read_freeAll _ _ _

/-! ## handlePendingMsgQ -/

/-- The loop on a held queue: the message in hand at `CleanUp` is the loose one, the boxes of
the store do not change, and the hook is called as `drain` says. -/
theorem handleLoop_spec {η : Type} (env : Env) (hook : Option (MsgHandleHook η))
    (ms : List PReceivedSignalingMessage) (n : Nat) (u : η)
    (h : s.Owned (p :: held) loose) (hms : s.items p = ms) :
    let r := handleLoop env p hook n ms s u
    r.2.2.1.Owned (p :: held) (r.2.1.toList ++ loose) ∧ r.2.2.1.pMsqQueue = s.pMsqQueue ∧
      r.2.2.1.boxes = s.boxes ∧
      (r.1, r.2.2.2) = drain env hook n (ms.map s.messages.read) u := by
  have hp : p ∈ s.pMsqQueue ++ p :: held := List.mem_append_right _ List.mem_cons_self
  induction ms generalizing n s u with
  | nil =>
    unfold handleLoop drain
    by_cases he : env.ok (.handleIsEmpty n) = true
    · simpa [he] using h
    · simpa [he] using h
  | cons m ms ih =>
    unfold handleLoop
    rw [List.map_cons, drain]
    by_cases he : env.ok (.handleIsEmpty n) = true
    swap
    · simpa [he] using h
    by_cases hd : env.ok (.handleDequeue n) = true
    swap
    · simpa [he, hd] using h
    simp only [he, hd, Bool.not_true, Bool.false_eq_true, if_false]
    have hlive : s.messages.live m = true := h.message_live hp (hms ▸ List.mem_cons_self)
    rw [Arena.touch_of_live hlive]
    -- the message leaves the queue
    let f : PendingMessageQueue → PendingMessageQueue := fun q => { q with messageQueue := some ms }
    let s1 : ConnectionMsgQ := { s with queues := s.queues.modify p f }
    have h1 : s1.Owned (p :: held) (m :: loose) := by
      apply h.setItems hp f rfl
      rw [hms]
      exact List.perm_middle
    have hnot : p ∉ s.pMsqQueue := fun hq =>
      (List.nodup_append.mp h.queues.nodup).2.2 p hq p List.mem_cons_self rfl
    have hbox : s1.boxes = s.boxes := List.map_congr_left fun q hq =>
      box_modify_of_ne f fun e => hnot (e ▸ hq)
    have hms1 : s1.items p = ms := by
      rw [ConnectionMsgQ.items, Arena.read_modify_self _ f (h.live hp)]
      rfl
    rcases hc : callHook hook n (s.messages.read m).signalingMessage u with ⟨st, u'⟩
    by_cases hst : st = .success
    · subst hst
      obtain ⟨ho, hq, hb, hdr⟩ := ih (n + 1) u' h1.freeMessage hms1 hp
      refine ⟨ho, hq, hb.trans (Eq.trans ?_ hbox), ?_⟩
      · exact List.map_congr_left fun q _ => box_freeAllMessages s1 [m]
      · have hread : (s.messages.free m).read = s.messages.read := funext (Arena.read_free _ m)
        rw [hread] at hdr
        exact hdr
    · cases st <;> first | exact absurd rfl hst | exact ⟨h1, rfl, hbox, rfl⟩

/-- What every call of the hook keeps, `handlePendingMsgQ` keeps, whatever it is given. -/
theorem handlePendingMsgQ_hook {η : Type} (env : Env) (o : Option PPendingMessageQueue)
    (hook : Option (MsgHandleHook η)) (I : η → Prop)
    (hI : ∀ f, hook = some f → ∀ n m u, I u → I (f n m u).2) (s : ConnectionMsgQ) (u : η)
    (hu : I u) : I (handlePendingMsgQ env o hook s u).2.2 := by
  have hcall : ∀ n m u, I u → I (callHook hook n m u).2 := by
    intro n m u hu
    cases hook with
    | none => exact hu
    | some f => exact hI f rfl n m u hu
  have hloop : ∀ (p : PPendingMessageQueue) (ms : List PReceivedSignalingMessage) (n : Nat)
      (s : ConnectionMsgQ) (u : η), I u → I (handleLoop env p hook n ms s u).2.2.2 := by
    intro p ms
    induction ms with
    | nil =>
      intro n s u hu
      unfold handleLoop
      split <;> exact hu
    | cons m ms ih =>
      intro n s u hu
      unfold handleLoop
      split
      · exact hu
      split
      · exact hu
      have hc := hcall n (s.messages.read m).signalingMessage u hu
      simp only [Arena.read_touch]
      split
      · next e =>
        rw [e] at hc
        exact ih _ _ _ hc
      · next e =>
        rw [e] at hc
        exact hc
  cases o with
  | none => exact hu
  | some p => exact hloop p _ 0 _ u hu

theorem handlePendingMsgQ_spec {η : Type} (env : Env) (hook : Option (MsgHandleHook η)) (u : η)
    (h : s.Owned (p :: held) loose) :
    let r := handlePendingMsgQ env (some p) hook s u
    r.2.1.Owned held loose ∧ r.2.1.pMsqQueue = s.pMsqQueue ∧ r.2.1.boxes = s.boxes ∧
      (r.1, r.2.2) = drain env hook 0 (s.box p).items u := by
  have hp : p ∈ s.pMsqQueue ++ p :: held := List.mem_append_right _ List.mem_cons_self
  unfold handlePendingMsgQ
  simp only
  rw [h.touch hp]
  obtain ⟨ho, hq, hb, hdr⟩ := handleLoop_spec env hook (s.items p) 0 u h rfl
  generalize handleLoop env p hook 0 (s.items p) s u = r at ho hq hb hdr
  obtain ⟨st, cur, s', u'⟩ := r
  have hfree := ho.free
  refine ⟨⟨hfree.queues, ?_⟩, (pMsqQueue_freePendingMsgQ (some p)).trans hq, ?_, hdr⟩
  · have hmessages := hfree.messages
    rw [List.append_assoc] at hmessages
    exact hmessages.freeAll
  · refine Eq.trans (List.map_congr_left fun q _ => ?_) hb
    exact (box_freeAllMessages _ _).trans (box_freePendingMsgQ (some p))

/-! ## removeExpiredPendingMsgQ and freeConnectionMsgQ -/

/-- Nothing was allocated and no object written to. -/
structure SameObjects (s s' : ConnectionMsgQ) : Prop where
  queues : s'.queues.read = s.queues.read
  messages : s'.messages.read = s.messages.read
  nextQueue : s'.queues.next = s.queues.next
  nextMessage : s'.messages.next = s.messages.next

namespace SameObjects

theorem refl (s : ConnectionMsgQ) : SameObjects s s := ⟨rfl, rfl, rfl, rfl⟩

theorem trans {s' s'' : ConnectionMsgQ} (h : SameObjects s s') (h' : SameObjects s' s'') :
    SameObjects s s'' :=
  ⟨h'.queues.trans h.queues, h'.messages.trans h.messages, h'.nextQueue.trans h.nextQueue,
    h'.nextMessage.trans h.nextMessage⟩

theorem items {s' : ConnectionMsgQ} (h : SameObjects s s') : s'.items = s.items := by
  funext q
  rw [ConnectionMsgQ.items, h.queues, ConnectionMsgQ.items]

theorem box {s' : ConnectionMsgQ} (h : SameObjects s s') : s'.box = s.box := by
  funext q
  exact box_congr (congrFun h.queues q) fun m _ => congrFun h.messages m

theorem setQueue (s : ConnectionMsgQ) (ps : List PPendingMessageQueue) :
    SameObjects s { s with pMsqQueue := ps } :=
  ⟨rfl, rfl, rfl, rfl⟩

theorem free (s : ConnectionMsgQ) (p : PPendingMessageQueue) :
    SameObjects s (freePendingMsgQ (some p) s).2 where
  queues := by
    funext q
    simp [freePendingMsgQ]
  messages := by
    funext m
    simp [freePendingMsgQ]
  nextQueue := by simp [freePendingMsgQ]
  nextMessage := by simp [freePendingMsgQ]

end SameObjects

/-- The rounds from `n` on take the queues of `done` out and put the fresh ones back. -/
structure Env.Passes (env : Env) (fresh : PPendingMessageQueue → Bool) (n : Nat)
    (done : List PPendingMessageQueue) : Prop where
  dequeue : ∀ i < done.length, env.ok (.expireDequeue (n + i)) = true
  enqueue : ∀ pre q post, done = pre ++ q :: post → fresh q = true →
    env.ok (.expireEnqueue (n + pre.length)) = true

namespace Env.Passes

variable {env : Env} {fresh : PPendingMessageQueue → Bool} {n : Nat}
  {done : List PPendingMessageQueue}

theorem nil : env.Passes fresh n [] where
  dequeue := by simp
  enqueue := by simp

theorem cons (h : env.Passes fresh (n + 1) done) (hd : env.ok (.expireDequeue n) = true)
    (he : fresh p = true → env.ok (.expireEnqueue n) = true) : env.Passes fresh n (p :: done) where
  dequeue := by
    intro i hi
    cases i with
    | zero => exact hd
    | succ i =>
      have := h.dequeue i (by simpa using hi)
      rwa [show n + (i + 1) = n + 1 + i by omega]
  enqueue := by
    intro pre q post hsplit hq
    cases pre with
    | nil =>
      obtain ⟨rfl, -⟩ := List.cons_eq_cons.mp hsplit
      exact he hq
    | cons r pre =>
      obtain ⟨-, htail⟩ := List.cons_eq_cons.mp hsplit
      have := h.enqueue pre q post htail hq
      rwa [List.length_cons, show n + (pre.length + 1) = n + 1 + pre.length by omega]

end Env.Passes

/-- The loop passes over `done`: all there was, or up to a dequeue that fails, or up to a fresh
queue that is dequeued and cannot be put back.  That queue is in nobody's hands. -/
theorem expireLoop_cases (env : Env) (interval curTime : UInt64)
    (todo : List PPendingMessageQueue) (n : Nat) (kept : List PPendingMessageQueue)
    (h : s.Owned held loose) (hs : s.pMsqQueue = todo ++ kept) :
    let r := expireLoop env interval curTime todo.length n s
    let fresh := fun q => (s.box q).fresh interval curTime
    SameObjects s r.2 ∧ ∃ done rest, todo = done ++ rest ∧ env.Passes fresh n done ∧
      ((rest = [] ∧ r.1 = .success ∧ r.2.pMsqQueue = kept ++ done.filter fresh ∧
          r.2.Owned held loose) ∨
        (r.1 ≠ .success ∧ env.ok (.expireDequeue (n + done.length)) ≠ true ∧
          r.2.pMsqQueue = rest ++ (kept ++ done.filter fresh) ∧ r.2.Owned held loose) ∨
        ∃ p post, rest = p :: post ∧ r.1 ≠ .success ∧ fresh p = true ∧
          env.ok (.expireDequeue (n + done.length)) = true ∧
          env.ok (.expireEnqueue (n + done.length)) ≠ true ∧
          r.2.pMsqQueue = post ++ (kept ++ done.filter fresh) ∧ r.2.Owned (p :: held) loose) := by
  induction todo generalizing n kept s with
  | nil =>
    refine ⟨SameObjects.refl s, [], [], rfl, Env.Passes.nil, Or.inl ⟨rfl, rfl, ?_, h⟩⟩
    rw [List.filter_nil, List.append_nil]
    exact hs
  | cons p todo ih =>
    rw [List.length_cons, expireLoop]
    by_cases hd : env.ok (.expireDequeue n) = true
    swap
    · have hf : env.status (.expireDequeue n) ≠ .success := fun e => hd (Env.ok_eq_true.mpr e)
      simp only [hd, Bool.not_false, if_true]
      refine ⟨SameObjects.refl s, [], p :: todo, rfl, Env.Passes.nil, Or.inr (Or.inl ?_)⟩
      rw [List.filter_nil, List.append_nil]
      exact ⟨hf, hd, hs, h⟩
    simp only [hd, Bool.not_true, Bool.false_eq_true, if_false, hs, List.cons_append]
    have hmem : p ∈ s.pMsqQueue ++ held := by
      rw [hs]
      exact List.mem_append_left _ List.mem_cons_self
    rw [h.queues.touch hmem]
    -- the queue at the front is in hand
    have h1 : ConnectionMsgQ.Owned { s with pMsqQueue := todo ++ kept } (p :: held) loose := by
      apply h.perm
      rw [hs, List.cons_append, List.cons_append]
      exact List.perm_middle.symm
    by_cases hexp : (s.queues.read p).createTime + interval < curTime
    · rw [if_pos hexp]
      have hstale : (s.box p).fresh interval curTime = false := by
        simp [PendingBox.fresh, ConnectionMsgQ.box, hexp]
      obtain ⟨hsame, done, rest, htodo, hpass, hends⟩ := ih (n + 1) kept h1.free rfl
      have hfree := (SameObjects.setQueue s (todo ++ kept)).trans (SameObjects.free _ p)
      simp only [hfree.box] at hpass hends
      refine ⟨hfree.trans hsame, p :: done, rest, by rw [htodo, List.cons_append],
        hpass.cons hd fun e => absurd (e.symm.trans hstale) (by simp), ?_⟩
      have hskip : (p :: done).filter (fun q => (s.box q).fresh interval curTime) =
          done.filter fun q => (s.box q).fresh interval curTime :=
        List.filter_cons_of_neg (by simp [hstale])
      rw [hskip, List.length_cons, show n + (done.length + 1) = n + 1 + done.length by omega]
      exact hends
    · rw [if_neg hexp]
      have hfresh : (s.box p).fresh interval curTime = true := by
        simp [PendingBox.fresh, ConnectionMsgQ.box, hexp]
      by_cases he : env.ok (.expireEnqueue n) = true
      swap
      · have hf : env.status (.expireEnqueue n) ≠ .success := fun e => he (Env.ok_eq_true.mpr e)
        simp only [he, Bool.not_false, if_true]
        refine ⟨⟨rfl, rfl, rfl, rfl⟩, [], p :: todo, rfl, Env.Passes.nil, Or.inr (Or.inr ?_)⟩
        rw [List.filter_nil, List.append_nil]
        exact ⟨p, todo, rfl, hf, hfresh, hd, he, rfl, h1⟩
      simp only [he, Bool.not_true, Bool.false_eq_true, if_false]
      have h2 : ConnectionMsgQ.Owned { s with pMsqQueue := todo ++ (kept ++ [p]) } held loose := by
        apply h.perm
        rw [hs, ← List.append_assoc]
        exact (List.perm_append_singleton p (todo ++ kept)).symm.append_right held
      rw [List.append_assoc]
      obtain ⟨hsame, done, rest, htodo, hpass, hends⟩ := ih (n + 1) (kept ++ [p]) h2 rfl
      refine ⟨(SameObjects.setQueue s _).trans hsame, p :: done, rest,
        by rw [htodo, List.cons_append], hpass.cons hd fun _ => he, ?_⟩
      have hkeep : kept ++ (p :: done).filter (fun q => (s.box q).fresh interval curTime) =
          (kept ++ [p]) ++ done.filter fun q => (s.box q).fresh interval curTime := by
        rw [List.filter_cons_of_pos (by simp [hfresh]), List.append_assoc, List.singleton_append]
      rw [hkeep, List.length_cons, show n + (done.length + 1) = n + 1 + done.length by omega]
      exact hends

/-- The pass gets to a fresh queue and cannot put it back. -/
def Env.ReenqueueFails (env : Env) (fresh : PPendingMessageQueue → Bool)
    (queue : List PPendingMessageQueue) : Prop :=
  env.ok .expireGetCount = true ∧ ∃ pre p post, queue = pre ++ p :: post ∧ fresh p = true ∧
    (∀ i ≤ pre.length, env.ok (.expireDequeue i) = true) ∧
    env.ok (.expireEnqueue pre.length) ≠ true

theorem Env.Passes.not_reenqueueFails {env : Env} {fresh : PPendingMessageQueue → Bool}
    {done rest : List PPendingMessageQueue} (h : env.Passes fresh 0 done)
    (hrest : rest = [] ∨ env.ok (.expireDequeue done.length) ≠ true) :
    ¬ env.ReenqueueFails fresh (done ++ rest) := by
  rintro ⟨-, pre, p, post, hsplit, hfresh, hdeq, henq⟩
  have hlt : pre.length < done.length := by
    rcases hrest with rfl | hfail
    · have hlen := congrArg List.length hsplit
      simp only [List.append_nil, List.length_append, List.length_cons] at hlen
      omega
    · by_contra hge
      exact hfail (hdeq _ (by omega))
  obtain ⟨mid, hdone, -⟩ : ∃ mid, done = pre ++ p :: mid ∧ post = mid ++ rest := by
    rcases List.append_eq_append_iff.mp hsplit with ⟨as, rfl, -⟩ | ⟨bs, rfl, hbs⟩
    · simp at hlt
    · cases bs with
      | nil => simp at hlt
      | cons b bs =>
        obtain ⟨rfl, htail⟩ := List.cons_eq_cons.mp hbs
        exact ⟨bs, rfl, htail⟩
  have := h.enqueue pre p mid hdone hfresh
  rw [Nat.zero_add] at this
  exact henq this

/-- A pass is the filter, or a call fails and no fresh queue has left the store, or one has: the
one whose re-enqueue failed. -/
theorem removeExpiredPendingMsgQ_cases (env : Env) (interval : UInt64) (h : s.Owned held loose) :
    let r := removeExpiredPendingMsgQ env interval s
    let fresh := fun q => (s.box q).fresh interval env.now
    SameObjects s r.2 ∧ (∀ q ∈ r.2.pMsqQueue, q ∈ s.pMsqQueue) ∧
      ((r.1 = .success ∧ r.2.pMsqQueue = s.pMsqQueue.filter fresh ∧ r.2.Owned held loose ∧
          ¬ env.ReenqueueFails fresh s.pMsqQueue) ∨
        (r.1 ≠ .success ∧ (∀ q ∈ s.pMsqQueue, fresh q = true → q ∈ r.2.pMsqQueue) ∧
          r.2.Owned held loose ∧ ¬ env.ReenqueueFails fresh s.pMsqQueue ∧
          ∃ call : Call, call.isQueue = true ∧ env.ok call ≠ true) ∨
        ∃ p ∈ s.pMsqQueue, r.1 ≠ .success ∧ fresh p = true ∧ r.2.Owned (p :: held) loose ∧
          env.ReenqueueFails fresh s.pMsqQueue ∧ ∃ i, env.ok (.expireEnqueue i) ≠ true) := by
  intro r fresh
  by_cases hc : env.ok .expireGetCount = true
  swap
  · have hf : env.status .expireGetCount ≠ .success := fun e => hc (Env.ok_eq_true.mpr e)
    have hr : r = (env.status .expireGetCount, s) := by
      show removeExpiredPendingMsgQ env interval s = _
      simp [removeExpiredPendingMsgQ, hc]
    rw [hr]
    exact ⟨SameObjects.refl s, fun _ hq => hq,
      Or.inr (Or.inl ⟨hf, fun _ hq _ => hq, h, fun hre => hc hre.1, _, rfl, hc⟩)⟩
  have hr : r = expireLoop env interval env.now s.pMsqQueue.length 0 s := by
    show removeExpiredPendingMsgQ env interval s = _
    simp [removeExpiredPendingMsgQ, hc]
  rw [hr]
  obtain ⟨hsame, done, rest, htodo, hpass, hends⟩ :=
    expireLoop_cases env interval env.now s.pMsqQueue 0 [] h (List.append_nil _).symm
  simp only [Nat.zero_add, List.nil_append] at hends
  have hdone : ∀ q ∈ done, q ∈ s.pMsqQueue := fun q hq => htodo ▸ List.mem_append_left _ hq
  have hrest : ∀ q ∈ rest, q ∈ s.pMsqQueue := fun q hq => htodo ▸ List.mem_append_right _ hq
  have hkept : ∀ q ∈ done.filter fresh, q ∈ s.pMsqQueue := fun q hq =>
    hdone q (List.mem_of_mem_filter hq)
  rcases hends with ⟨hnil, hok, hq, ho⟩ | ⟨hf, hd, hq, ho⟩ | ⟨p, post, hp, hf, hfresh, hd, he, hq, ho⟩
  · have hall : done = s.pMsqQueue := by rw [htodo, hnil, List.append_nil]
    refine ⟨hsame, fun q hmem => ?_, Or.inl ⟨hok, hall ▸ hq, ho, ?_⟩⟩
    · rw [hq] at hmem
      exact hkept q hmem
    · rw [htodo]
      exact hpass.not_reenqueueFails (Or.inl hnil)
  · refine ⟨hsame, fun q hmem => ?_, Or.inr (Or.inl ⟨hf, fun q hmem hqf => ?_, ho, ?_, _, rfl, hd⟩)⟩
    · rw [hq] at hmem
      exact (List.mem_append.mp hmem).elim (hrest q) (hkept q)
    · rw [hq]
      rw [htodo] at hmem
      rcases List.mem_append.mp hmem with hmem | hmem
      · exact List.mem_append_right _ (List.mem_filter.mpr ⟨hmem, hqf⟩)
      · exact List.mem_append_left _ hmem
    · rw [htodo]
      exact hpass.not_reenqueueFails (Or.inr hd)
  · refine ⟨hsame, fun q hmem => ?_, Or.inr (Or.inr ?_)⟩
    · rw [hq] at hmem
      exact (List.mem_append.mp hmem).elim
        (fun hmem => hrest q (hp ▸ List.mem_cons_of_mem p hmem)) (hkept q)
    · refine ⟨p, hrest p (hp ▸ List.mem_cons_self), hf, hfresh, ho,
        ⟨hc, done, p, post, by rw [htodo, hp], hfresh, fun i hi => ?_, he⟩, _, he⟩
      rcases Nat.lt_or_eq_of_le hi with hlt | rfl
      · have := hpass.dequeue i hlt
        rwa [Nat.zero_add] at this
      · exact hd

theorem removeExpiredPendingMsgQ_spec (env : Env) (interval : UInt64) (h : s.Owned held loose) :
    let r := removeExpiredPendingMsgQ env interval s
    (∃ lost, r.2.Owned (lost ++ held) loose ∧
        ((∀ i, env.ok (.expireEnqueue i) = true) → lost = [])) ∧
      (r.1 = .success → r.2.Owned held loose ∧
        r.2.boxes = s.boxes.filter (PendingBox.fresh interval env.now)) ∧
      ((∀ c : Call, c.isQueue = true → env.ok c = true) → r.1 = .success) := by
  obtain ⟨hsame, -, ⟨hok, hq, ho, -⟩ | ⟨hf, -, ho, -, call, hcall, hfail⟩ |
    ⟨p, -, hf, -, ho, -, i, hfail⟩⟩ := removeExpiredPendingMsgQ_cases env interval h
  · refine ⟨⟨[], ho, fun _ => rfl⟩, fun _ => ⟨ho, ?_⟩, fun _ => hok⟩
    rw [ConnectionMsgQ.boxes, hsame.box, hq, ConnectionMsgQ.boxes, List.filter_map]
    rfl
  · exact ⟨⟨[], ho, fun _ => rfl⟩, fun e => absurd e hf, fun hq => absurd (hq call hcall) hfail⟩
  · exact ⟨⟨[p], ho, fun hall => absurd (hall i) hfail⟩, fun e => absurd e hf,
      fun hq => absurd (hq (.expireEnqueue i) rfl) hfail⟩

theorem freeConnectionMsgQ_spec (h : s.Owned held loose) :
    (freeConnectionMsgQ s).Owned held loose ∧ (freeConnectionMsgQ s).pMsqQueue = [] := by
  have hfold : ∀ (ps : List PPendingMessageQueue) (s : ConnectionMsgQ),
      ConnectionMsgQ.Owned { s with pMsqQueue := [] } (ps ++ held) loose →
      ConnectionMsgQ.Owned { ps.foldl (fun s p => (freePendingMsgQ (some p) s).2) s with
        pMsqQueue := [] } held loose := by
    intro ps
    induction ps with
    | nil => exact fun _ h => h
    | cons p ps ih => exact fun s h => ih _ h.free
  exact ⟨hfold _ s (h.perm (List.Perm.refl _)), rfl⟩

end

end WebrtcApp
