import WebrtcApp.Runs.PendingOps
import WebrtcApp.Runs.StatsTimer

/-!
# When an accepted OFFER is reported as accepted

After the session is created, answered and entered, the OFFER's status is that of the lookup
and the drain.  The lookup returns the client's queue, or the last queue of the store where
there is none, or `NULL` where the store is empty; the drain of `NULL` fails, the drain of any
queue succeeds if its candidates are accepted by the new session (`drainPending_eq_success`).

So with every call succeeding the OFFER succeeds exactly where the store has a queue and the one
returned is the client's own, or holds nothing this session refuses (`offer_reported_iff`).
Nothing is assumed of the store.  Where it lists a queue that an earlier OFFER has freed, that
result is read from freed memory: `LookupLive` says that the lookup and the drain find live
objects only, which is exactly when they misuse none (`drainPending_unmisused`).
-/

namespace WebrtcApp

/-- The session at hand takes the `n`-th candidate. -/
def Env.Accepts (env : Env) (n : Nat) (m : SignalingMessage) : Prop :=
  env.ok (.deserializeRtcIceCandidateInit n m) = true ∧ env.ok (.addIceCandidate n m) = true

/-- The candidates from the `n`-th on are accepted. -/
def Env.AcceptsAll (env : Env) : Nat → List SignalingMessage → Prop
  | _, [] => True
  | n, m :: ms => env.Accepts n m ∧ env.AcceptsAll (n + 1) ms

/-- The candidates in the queue at `q`. -/
def ConnectionMsgQ.candidates (s : ConnectionMsgQ) (q : PPendingMessageQueue) :
    List SignalingMessage :=
  (s.items q).map fun m => (s.messages.read m).signalingMessage

/-- The queue a lookup returns when its calls succeed. -/
def ConnectionMsgQ.found (s : ConnectionMsgQ) (key : UInt64) : Option PPendingMessageQueue :=
  (s.pMsqQueue.find? (s.hasKey key)).or s.pMsqQueue.getLast?

/-- The queues that the lookup reads are live: those up to the first with the key. -/
def ConnectionMsgQ.ReadsLive (s : ConnectionMsgQ) (key : UInt64) : List PPendingMessageQueue → Prop
  | [] => True
  | q :: qs => s.queues.live q = true ∧ (s.key q ≠ key → s.ReadsLive key qs)

/-- No object of the store was used after it had been freed. -/
def ConnectionMsgQ.Unmisused (s : ConnectionMsgQ) : Prop :=
  s.queues.misused = false ∧ s.messages.misused = false

/-- The messages of the queue are live, and none is in it twice. -/
def ConnectionMsgQ.LiveItems (s : ConnectionMsgQ) (q : PPendingMessageQueue) : Prop :=
  (∀ m ∈ s.items q, s.messages.live m = true) ∧ (s.items q).Nodup

/-- What the lookup and the drain of its result come across is live. -/
structure ConnectionMsgQ.LookupLive (s : ConnectionMsgQ) (key : UInt64) : Prop where
  unmisused : s.Unmisused
  reads : s.ReadsLive key s.pMsqQueue
  items : ∀ q, s.found key = some q → s.LiveItems q

/-! ## The lookup -/

section
variable {s : ConnectionMsgQ} {key : UInt64} {q : PPendingMessageQueue}

theorem found_eq_some : s.found key = some q ↔
    s.pMsqQueue.find? (s.hasKey key) = some q ∨
      ((∀ r ∈ s.pMsqQueue, s.key r ≠ key) ∧ s.pMsqQueue.getLast? = some q) := by
  rw [ConnectionMsgQ.found, Option.or_eq_some_iff, List.find?_eq_none]
  simp only [hasKey_iff, ne_eq]

theorem lookupLoop_result (env : Env) (k : UInt64) (remove : Bool)
    (hq : ∀ call : Call, call.isQueue = true → env.ok call = true)
    (ps : List PPendingMessageQueue) (n : Nat) (cur : Option PPendingMessageQueue)
    (s : ConnectionMsgQ) :
    let r := lookupLoop env k remove n ps cur s
    r.1 = .success ∧ r.2.1 = (ps.find? (s.hasKey k)).or (ps.getLast?.or cur) ∧
      SameObjects s r.2.2 := by
  induction ps generalizing n cur s with
  | nil => exact ⟨rfl, rfl, SameObjects.refl s⟩
  | cons p ps ih =>
    unfold lookupLoop
    simp only [hq (.lookupGetItem n) rfl, hq (.lookupNext n) rfl, hq .lookupRemoveItem rfl,
      Bool.not_true, Bool.false_eq_true, if_false]
    by_cases hk : s.hasKey k p = true
    · have hkb : (k == ConnectionMsgQ.key { s with queues := s.queues.touch p } p) = true :=
        beq_iff_eq.mpr (hasKey_iff.mp hk).symm
      rw [if_pos hkb, List.find?_cons_of_pos hk]
      cases remove <;> exact ⟨rfl, rfl, ⟨rfl, rfl, rfl, rfl⟩⟩
    · have hkb : ¬ (k == ConnectionMsgQ.key { s with queues := s.queues.touch p } p) = true :=
        fun e => hk (hasKey_iff.mpr (beq_iff_eq.mp e).symm)
      rw [if_neg hkb, List.find?_cons_of_neg hk]
      obtain ⟨hst, hres, hsame⟩ := ih (n + 1) (some p) { s with queues := s.queues.touch p }
      have htouch : SameObjects s { s with queues := s.queues.touch p } := ⟨rfl, rfl, rfl, rfl⟩
      refine ⟨hst, ?_, htouch.trans hsame⟩
      rw [hres, List.getLast?_cons]
      cases ps.getLast? <;> rfl

theorem getPendingMsgQByHashVal_result (env : Env) (k : UInt64) (remove : Bool)
    (hq : ∀ call : Call, call.isQueue = true → env.ok call = true) (s : ConnectionMsgQ) :
    let r := getPendingMsgQByHashVal env k remove s
    r.1 = .success ∧ r.2.1 = s.found k ∧ SameObjects s r.2.2 := by
  unfold getPendingMsgQByHashVal
  simp only [hq .lookupGetIterator rfl, Bool.not_true, Bool.false_eq_true, if_false]
  obtain ⟨hst, hres, hsame⟩ := lookupLoop_result env k remove hq s.pMsqQueue 0 none s
  rw [Option.or_none] at hres
  exact ⟨hst, hres, hsame⟩

/-- Only the keys and the lifetimes of the queues are looked at. -/
theorem readsLive_congr {s' : ConnectionMsgQ} (hread : s'.queues.read = s.queues.read)
    (hlive : s'.queues.live = s.queues.live) (ps : List PPendingMessageQueue) :
    s'.ReadsLive key ps ↔ s.ReadsLive key ps := by
  induction ps with
  | nil => exact Iff.rfl
  | cons p ps ih =>
    have hkey : s'.key p = s.key p := congrArg PendingMessageQueue.hashValue (congrFun hread p)
    rw [ConnectionMsgQ.ReadsLive, ConnectionMsgQ.ReadsLive, hkey, hlive, ih]

theorem lookupLoop_unmisused (env : Env) (k : UInt64) (remove : Bool)
    (hq : ∀ call : Call, call.isQueue = true → env.ok call = true)
    (ps : List PPendingMessageQueue) (n : Nat) (cur : Option PPendingMessageQueue)
    (s : ConnectionMsgQ) :
    let r := lookupLoop env k remove n ps cur s
    r.2.2.messages = s.messages ∧ r.2.2.queues.live = s.queues.live ∧
      (r.2.2.queues.misused = false ↔ s.queues.misused = false ∧ s.ReadsLive k ps) := by
  induction ps generalizing n cur s with
  | nil => exact ⟨rfl, rfl, (and_iff_left trivial).symm⟩
  | cons p ps ih =>
    have htouch : (s.queues.touch p).misused = false ↔
        s.queues.misused = false ∧ s.queues.live p = true := by
      simp [Arena.touch]
    unfold lookupLoop
    simp only [hq (.lookupGetItem n) rfl, hq (.lookupNext n) rfl, hq .lookupRemoveItem rfl,
      Bool.not_true, Bool.false_eq_true, if_false]
    by_cases hk : s.key p = k
    · have hkb : (k == ConnectionMsgQ.key { s with queues := s.queues.touch p } p) = true :=
        beq_iff_eq.mpr hk.symm
      have hreads : s.ReadsLive k (p :: ps) ↔ s.queues.live p = true :=
        and_iff_left fun hne => absurd hk hne
      rw [if_pos hkb, hreads]
      cases remove <;> exact ⟨rfl, rfl, htouch⟩
    · have hkb : ¬ (k == ConnectionMsgQ.key { s with queues := s.queues.touch p } p) = true :=
        fun e => hk (beq_iff_eq.mp e).symm
      have hreads : s.ReadsLive k (p :: ps) ↔ s.queues.live p = true ∧ s.ReadsLive k ps :=
        and_congr_right fun _ => ⟨fun h => h hk, fun h _ => h⟩
      have htouched : ConnectionMsgQ.ReadsLive { s with queues := s.queues.touch p } k ps ↔
          s.ReadsLive k ps :=
        @readsLive_congr s k { s with queues := s.queues.touch p } rfl rfl ps
      obtain ⟨hmessages, hlive, hmisused⟩ :=
        ih (n + 1) (some p) { s with queues := s.queues.touch p }
      rw [if_neg hkb, hreads]
      refine ⟨hmessages, hlive, hmisused.trans ?_⟩
      rw [htouch, htouched, and_assoc]

theorem getPendingMsgQByHashVal_unmisused (env : Env) (k : UInt64) (remove : Bool)
    (hq : ∀ call : Call, call.isQueue = true → env.ok call = true) (s : ConnectionMsgQ) :
    let r := getPendingMsgQByHashVal env k remove s
    r.2.2.messages = s.messages ∧ r.2.2.queues.live = s.queues.live ∧
      (r.2.2.queues.misused = false ↔ s.queues.misused = false ∧ s.ReadsLive k s.pMsqQueue) := by
  unfold getPendingMsgQByHashVal
  simp only [hq .lookupGetIterator rfl, Bool.not_true, Bool.false_eq_true, if_false]
  exact lookupLoop_unmisused env k remove hq s.pMsqQueue 0 none s

/-- The queue that is found is among those read. -/
theorem live_of_found (hfound : s.found key = some q) (hreads : s.ReadsLive key s.pMsqQueue) :
    s.queues.live q = true := by
  have hrest : ∀ ps : List PPendingMessageQueue, s.ReadsLive key ps →
      ps.find? (s.hasKey key) = some q ∨
        ((∀ r ∈ ps, s.key r ≠ key) ∧ ps.getLast? = some q) → s.queues.live q = true := by
    intro ps
    induction ps with
    | nil =>
      rintro - (h | ⟨-, h⟩) <;> cases h
    | cons p ps ih =>
      rintro ⟨hlive, hnext⟩ h
      by_cases hk : s.key p = key
      · rcases h with h | ⟨hno, -⟩
        · rw [List.find?_cons_of_pos (hasKey_iff.mpr hk)] at h
          exact Option.some.inj h ▸ hlive
        · exact absurd hk (hno p List.mem_cons_self)
      · rcases h with h | ⟨hno, hlast⟩
        · rw [List.find?_cons_of_neg (fun e => hk (hasKey_iff.mp e))] at h
          exact ih (hnext hk) (Or.inl h)
        · cases ps with
          | nil => exact Option.some.inj hlast ▸ hlive
          | cons p' ps =>
            rw [List.getLast?_cons_cons] at hlast
            exact ih (hnext hk) (Or.inr ⟨(List.forall_mem_cons.mp hno).2, hlast⟩)
  exact hrest s.pMsqQueue hreads (found_eq_some.mp hfound)

end

/-! ## The drain -/

section
variable {c : AppConfiguration} {p : PStreamingSession}

theorem handleRemoteCandidate_eq_success {env : Env} {n : Nat} {m : SignalingMessage} {u : Peers} :
    (handleRemoteCandidate env (some p) n m u).1 = .success ↔ env.Accepts n m := by
  unfold handleRemoteCandidate Env.Accepts
  by_cases hd : env.ok (.deserializeRtcIceCandidateInit n m) = true
  · simp [hd]
  · simp_all

theorem handleLoop_eq_success (env : Env)
    (hq : ∀ call : Call, call.isQueue = true → env.ok call = true) (q : PPendingMessageQueue)
    (ms : List PReceivedSignalingMessage) (n : Nat) (s : ConnectionMsgQ) (u : Peers) :
    (handleLoop env q (some (handleRemoteCandidate env (some p))) n ms s u).1 = .success ↔
      env.AcceptsAll n (ms.map fun m => (s.messages.read m).signalingMessage) := by
  induction ms generalizing n s u with
  | nil =>
    unfold handleLoop
    simp [hq (.handleIsEmpty n) rfl, Env.AcceptsAll]
  | cons m ms ih =>
    unfold handleLoop
    simp only [hq (.handleIsEmpty n) rfl, hq (.handleDequeue n) rfl, Bool.not_true,
      Bool.false_eq_true, if_false, callHook, Arena.read_touch]
    rw [List.map_cons, Env.AcceptsAll]
    have hcand := @handleRemoteCandidate_eq_success p env n (s.messages.read m).signalingMessage u
    rcases hc : handleRemoteCandidate env (some p) n (s.messages.read m).signalingMessage u with
      ⟨st, u'⟩
    rw [hc] at hcand
    by_cases hst : st = .success
    · subst hst
      rw [and_iff_right (hcand.mp rfl)]
      simp only [ih, Arena.read_free, Arena.read_touch]
    · refine iff_of_false ?_ fun h => hst (hcand.mpr h.1)
      cases st <;> first | exact absurd rfl hst | exact Status.noConfusion

/-- A use of a freed queue is not made good. -/
theorem handleLoop_misused (env : Env) (q : PPendingMessageQueue)
    (hook : Option (MsgHandleHook Peers)) (ms : List PReceivedSignalingMessage) (n : Nat)
    (s : ConnectionMsgQ) (u : Peers) (h : s.queues.misused = true) :
    (handleLoop env q hook n ms s u).2.2.1.queues.misused = true := by
  induction ms generalizing n s u with
  | nil =>
    unfold handleLoop
    split <;> exact h
  | cons m ms ih =>
    have hmodify : ∀ f, (s.queues.modify q f).misused = true := by
      intro f
      simp [Arena.modify, h]
    unfold handleLoop
    split
    · exact h
    split
    · exact h
    simp only
    split
    · exact ih _ _ _ (hmodify _)
    · exact hmodify _

/-- The candidates in a live queue are taken out and freed one after the other. -/
theorem handleLoop_unmisused (env : Env)
    (hq : ∀ call : Call, call.isQueue = true → env.ok call = true) (q : PPendingMessageQueue)
    (ms : List PReceivedSignalingMessage) (n : Nat) (s : ConnectionMsgQ) (u : Peers)
    (hlive : s.queues.live q = true) (hitems : s.items q = ms)
    (hacc : env.AcceptsAll n (ms.map fun m => (s.messages.read m).signalingMessage)) :
    let r := handleLoop env q (some (handleRemoteCandidate env (some p))) n ms s u
    r.2.1 = none ∧ r.2.2.1.items q = [] ∧ r.2.2.1.queues.live q = true ∧
      r.2.2.1.queues.misused = s.queues.misused ∧
      (r.2.2.1.messages.misused = false ↔ s.messages.misused = false ∧
        (∀ m ∈ ms, s.messages.live m = true) ∧ ms.Nodup) := by
  induction ms generalizing n s u with
  | nil =>
    unfold handleLoop
    simp only [hq (.handleIsEmpty n) rfl, Bool.not_true, Bool.false_eq_true, if_false]
    exact ⟨trivial, hitems, hlive, trivial, by simp⟩
  | cons m ms ih =>
    obtain ⟨haccept, hrest⟩ := hacc
    unfold handleLoop
    simp only [hq (.handleIsEmpty n) rfl, hq (.handleDequeue n) rfl, Bool.not_true,
      Bool.false_eq_true, if_false, callHook, Arena.read_touch]
    have hcand := (@handleRemoteCandidate_eq_success p env n (s.messages.read m).signalingMessage
      u).mpr haccept
    rcases hc : handleRemoteCandidate env (some p) n (s.messages.read m).signalingMessage u with
      ⟨st, u'⟩
    rw [hc] at hcand
    obtain rfl : st = .success := hcand
    simp only
    let s1 : ConnectionMsgQ := { s with
      queues := s.queues.modify q fun b => { b with messageQueue := some ms }
      messages := (s.messages.touch m).free m }
    have hmodify : s1.queues.read q = { s.queues.read q with messageQueue := some ms } :=
      Arena.read_modify_self _ _ hlive
    have hitems1 : s1.items q = ms := congrArg PendingMessageQueue.items hmodify
    have hread : s1.messages.read = s.messages.read := by
      funext m'
      exact (Arena.read_free _ _ _).trans (Arena.read_touch _ _ _)
    have hmisused : s1.messages.misused = false ↔
        s.messages.misused = false ∧ s.messages.live m = true := by
      simp [s1, Arena.free, Arena.touch, Arena.live]
    obtain ⟨hcurrent, hempty, hlive', hqueues, hmessages⟩ := ih (n + 1) s1 u'
      ((Arena.live_modify _ _ _ _).trans hlive) hitems1 (by rw [hread]; exact hrest)
    refine ⟨hcurrent, hempty, hlive', hqueues.trans (Arena.misused_modify _ hlive),
      hmessages.trans ?_⟩
    have hfree : ∀ m', s1.messages.live m' = true ↔ s.messages.live m' = true ∧ m' ≠ m :=
      fun m' => Arena.live_free (s.messages.touch m) m m'
    rw [hmisused, List.forall_mem_cons, List.nodup_cons]
    simp only [hfree]
    constructor
    · rintro ⟨⟨h1, h2⟩, h3, h4⟩
      exact ⟨h1, ⟨h2, fun m' hm' => (h3 m' hm').1⟩, fun hm => (h3 m hm).2 rfl, h4⟩
    · rintro ⟨h1, ⟨h2, h3⟩, h4, h5⟩
      exact ⟨⟨h1, h2⟩, fun m' hm' => ⟨h3 m' hm', fun e => h4 (e ▸ hm')⟩, h5⟩

theorem handlePendingMsgQ_unmisused (env : Env)
    (hq : ∀ call : Call, call.isQueue = true → env.ok call = true) (q : PPendingMessageQueue)
    (s : ConnectionMsgQ) (u : Peers) (hacc : env.AcceptsAll 0 (s.candidates q)) :
    (handlePendingMsgQ env (some q) (some (handleRemoteCandidate env (some p))) s u).2.1.Unmisused ↔
      s.Unmisused ∧ s.queues.live q = true ∧ s.LiveItems q := by
  let s0 : ConnectionMsgQ := { s with queues := s.queues.touch q }
  let r := handleLoop env q (some (handleRemoteCandidate env (some p))) 0 (s.items q) s0 u
  have hr : (handlePendingMsgQ env (some q) (some (handleRemoteCandidate env (some p))) s u).2.1 =
      { (freePendingMsgQ (some q) r.2.2.1).2 with
        messages := (freePendingMsgQ (some q) r.2.2.1).2.messages.freeAll r.2.1.toList } := rfl
  have hfreed : ((freePendingMsgQ (some q) r.2.2.1).2.queues.misused = false) ↔
      r.2.2.1.queues.misused = false ∧ r.2.2.1.queues.live q = true := by
    simp [freePendingMsgQ, Arena.free, Arena.touch, Arena.live]
  rw [hr, ConnectionMsgQ.Unmisused, ConnectionMsgQ.Unmisused, hfreed]
  by_cases hlive : s.queues.live q = true
  · have htouch : s0.queues = s.queues := Arena.touch_of_live hlive
    obtain ⟨hcurrent, hempty, hlive', hqueues, hmessages⟩ := handleLoop_unmisused env hq q (s.items q)
      0 s0 u (htouch ▸ hlive) rfl hacc
    have hend : ((freePendingMsgQ (some q) r.2.2.1).2.messages.freeAll r.2.1.toList).misused =
        r.2.2.1.messages.misused := by
      rw [show r.2.1 = none from hcurrent]
      show (r.2.2.1.messages.freeAll (r.2.2.1.items q)).misused = _
      rw [show r.2.2.1.items q = [] from hempty]
      rfl
    rw [hend, show r.2.2.1.queues.misused = s0.queues.misused from hqueues, htouch, hmessages,
      ConnectionMsgQ.LiveItems]
    constructor
    · rintro ⟨⟨h1, -⟩, h2, h3⟩
      exact ⟨⟨h1, h2⟩, hlive, h3⟩
    · rintro ⟨⟨h1, h2⟩, -, h3⟩
      exact ⟨⟨h1, hlive'⟩, h2, h3⟩
  · have hmisused : s0.queues.misused = true := by
      simp [s0, Arena.touch, hlive]
    have hstill : r.2.2.1.queues.misused = true := handleLoop_misused env q _ _ 0 s0 u hmisused
    rw [hstill]
    simp [hlive]

/-- The drain succeeds where a queue is found and its candidates are accepted. -/
theorem drainPending_eq_success (env : Env) (key : UInt64)
    (hq : ∀ call : Call, call.isQueue = true → env.ok call = true) :
    (drainPending env key p c).1 = .success ↔
      ∃ q, c.pRemotePeerPendingSignalingMessages.found key = some q ∧
        env.AcceptsAll 0 (c.pRemotePeerPendingSignalingMessages.candidates q) := by
  generalize hs : c.pRemotePeerPendingSignalingMessages = s
  obtain ⟨hst, hres, hsame⟩ := getPendingMsgQByHashVal_result env key true hq s
  unfold drainPending
  rw [hs]
  rcases hr : getPendingMsgQByHashVal env key true s with ⟨st, o, s'⟩
  rw [hr] at hst hres hsame
  simp only at hst hres hsame
  subst hst hres
  simp only [Status.failed, bne_self_eq_false, Bool.false_eq_true, if_false]
  cases hf : s.found key with
  | none => simp [handlePendingMsgQ]
  | some q =>
    have hitems : ConnectionMsgQ.items { s' with queues := s'.queues.touch q } q = s.items q :=
      congrFun hsame.items q
    have hcand : (s.items q).map (fun m => (s'.messages.read m).signalingMessage) =
        s.candidates q := by
      rw [hsame.messages]
      rfl
    have hloop := @handleLoop_eq_success p env hq q (s.items q) 0
      { s' with queues := s'.queues.touch q } c.peers
    rw [hcand] at hloop
    simp only [handlePendingMsgQ, hitems, Option.some.injEq, exists_eq_left']
    exact hloop

/-- A drain that succeeds misuses nothing exactly where it finds live objects only. -/
theorem drainPending_unmisused (env : Env) (key : UInt64)
    (hq : ∀ call : Call, call.isQueue = true → env.ok call = true)
    (hst : (drainPending env key p c).1 = .success) :
    (drainPending env key p c).2.pRemotePeerPendingSignalingMessages.Unmisused ↔
      c.pRemotePeerPendingSignalingMessages.LookupLive key := by
  obtain ⟨q, hfound, hacc⟩ := (drainPending_eq_success env key hq).mp hst
  generalize hs : c.pRemotePeerPendingSignalingMessages = s at hfound hacc
  obtain ⟨hlookup, hres, hsame⟩ := getPendingMsgQByHashVal_result env key true hq s
  obtain ⟨hmessages, hlive, hmisused⟩ := getPendingMsgQByHashVal_unmisused env key true hq s
  unfold drainPending
  rw [hs]
  rcases hr : getPendingMsgQByHashVal env key true s with ⟨st, o, s'⟩
  rw [hr] at hlookup hres hsame hmessages hlive hmisused
  simp only at hlookup hres hsame hmessages hlive hmisused
  subst hlookup
  obtain rfl := hres.trans hfound
  simp only [Status.failed, bne_self_eq_false, Bool.false_eq_true, if_false]
  have hitems : s'.items q = s.items q := congrFun hsame.items q
  have hcandidates : s'.candidates q = s.candidates q := by
    unfold ConnectionMsgQ.candidates
    rw [hitems, hmessages]
  have hhandle := @handlePendingMsgQ_unmisused p env hq q s' c.peers (hcandidates ▸ hacc)
  have hunmisused : s'.Unmisused ↔
      (s.queues.misused = false ∧ s.ReadsLive key s.pMsqQueue) ∧ s.messages.misused = false :=
    and_congr hmisused (by rw [hmessages])
  have hlists : s'.LiveItems q ↔ s.LiveItems q := by
    unfold ConnectionMsgQ.LiveItems
    rw [hitems, hmessages]
  rw [hunmisused, hlive, hlists] at hhandle
  refine hhandle.trans ⟨?_, ?_⟩
  · rintro ⟨⟨⟨h1, h2⟩, h3⟩, -, h4⟩
    refine ⟨⟨h1, h3⟩, h2, fun q' hq' => ?_⟩
    obtain rfl := Option.some.inj (hfound.symm.trans hq')
    exact h4
  · rintro ⟨⟨h1, h3⟩, h2, h4⟩
    exact ⟨⟨⟨h1, h2⟩, h3⟩, live_of_found hfound h2, h4 q hfound⟩

/-! ## The OFFER -/

theorem statsTimer_onConnectionStateChanges (states : List RtcPeerConnectionState) :
    (onConnectionStateChanges p states c).iceCandidatePairStatsTimerId =
      c.iceCandidatePairStatsTimerId := by
  induction states generalizing c with
  | nil => rfl
  | cons st states ih => exact ih.trans (statsTimer_onConnectionStateChange st)

theorem statsTimer_drainPending (env : Env) (key : UInt64) :
    (drainPending env key p c).2.iceCandidatePairStatsTimerId = c.iceCandidatePairStatsTimerId := by
  unfold drainPending
  simp only
  split <;> rfl

/-- With no stats timer registered, an OFFER that succeeds with a slot free goes on to register
one. -/
theorem statsTimer_receiveOffer (env : Env) (key : UInt64) (m : SignalingMessage)
    (hnone : c.iceCandidatePairStatsTimerId = maxUInt32)
    (hfree : c.streamingSessionList.length ≠ appMaxConcurrentStreamingSession)
    (hst : (receiveOffer env key m c).1 = some .success)
    (hadd : env.ok .appTimeQueueAdd = true) :
    (receiveOffer env key m c).2.iceCandidatePairStatsTimerId = env.timerId := by
  have hcreate : (createStreamingSession env m.peerClientId c).2.2.iceCandidatePairStatsTimerId =
      maxUInt32 := by
    rw [statsTimer_createStreamingSession, hnone, ite_self]
  have hfails := (@createStreamingSession_eq_none c env m.peerClientId)
  unfold receiveOffer at hst ⊢
  simp only [if_neg hfree] at hst ⊢
  rcases hc : createStreamingSession env m.peerClientId c with ⟨st, o, c0⟩
  rw [hc] at hst hcreate hfails
  cases o with
  | none => exact absurd (Option.some.inj hst) (hfails rfl)
  | some p =>
    simp only at hst hcreate ⊢
    cases hl : c0.readLockHeld with
    | true => simp [hl] at hst
    | false =>
    simp only [hl, Bool.false_eq_true, if_false] at hst ⊢
    have hoffer : ∀ c1 : AppConfiguration, c1.iceCandidatePairStatsTimerId = maxUInt32 →
        (acceptOffer env key p c1).1 = .success →
        (acceptOffer env key p c1).2.iceCandidatePairStatsTimerId = env.timerId := by
      intro c1 h1 hok
      have h2 : (handleOffer env p
          (onConnectionStateChanges p env.stateChanges c1)).2.iceCandidatePairStatsTimerId =
            maxUInt32 := by
        rw [statsTimer_handleOffer, statsTimer_onConnectionStateChanges, h1]
      have h3 : (drainPending env key p ((handleOffer env p
          (onConnectionStateChanges p env.stateChanges c1)).2.setEntry key
            p)).2.iceCandidatePairStatsTimerId = maxUInt32 := by
        rw [statsTimer_drainPending]
        exact h2
      unfold acceptOffer at hok ⊢
      simp only at hok ⊢
      split at hok
      · next hf => exact absurd hok (Status.failed_eq_true.mp hf)
      split at hok
      · next hf => exact absurd hok fun e => by simp [Env.ok_eq_true.mpr e] at hf
      next hans hput =>
      rw [if_neg hans, if_neg hput]
      split at hok
      · next hf => exact absurd hok (Status.failed_eq_true.mp hf)
      next hdrain =>
      rw [if_neg hdrain]
      simp [startStats, h3, hadd]
    exact hoffer _ hcreate (Option.some.inj hst)

/-- An OFFER of a client without a session, with a slot free, for which everything goes well: the
session is created, `handleOffer`, the queue and the hash operations succeed, and each pending
candidate of the client is accepted. -/
structure OfferGoesWell (env : Env) (msg : ReceivedSignalingMessage) (c : AppConfiguration) :
    Prop where
  offer : msg.signalingMessage.messageType = .offer
  free : c.streamingSessionList.length < appMaxConcurrentStreamingSession
  noSession : c.pRemoteRtcPeerConnections (clientIdHashKey msg.signalingMessage.peerClientId) = none
  storage : env.StorageOk
  created : env.SessionCreated c.media
  answered : env.OfferAnswered
  accepted : ∀ q, c.pRemotePeerPendingSignalingMessages.pMsqQueue.find?
      (c.pRemotePeerPendingSignalingMessages.hasKey
        (clientIdHashKey msg.signalingMessage.peerClientId)) = some q →
    env.AcceptsAll 0 (c.pRemotePeerPendingSignalingMessages.candidates q)

/-- Success, a stats timer where there was none and `appTimeQueueAdd` succeeds, and no use of a queue
or message that has been freed. -/
structure OfferReported (env : Env) (msg : ReceivedSignalingMessage) (c : AppConfiguration) :
    Prop where
  success : (onSignalingMessageReceived env msg c).1 = some .success
  timer : c.iceCandidatePairStatsTimerId = maxUInt32 → env.ok .appTimeQueueAdd = true →
    (onSignalingMessageReceived env msg c).2.iceCandidatePairStatsTimerId = env.timerId
  unmisused : (onSignalingMessageReceived env msg c).2.pRemotePeerPendingSignalingMessages.Unmisused

/-- What the lookup has to find: a queue, which is the client's own or holds nothing that the new
session refuses. -/
def FindsQueue (env : Env) (key : UInt64) (s : ConnectionMsgQ) : Prop :=
  ∃ last, s.pMsqQueue.getLast? = some last ∧
    ((∃ q ∈ s.pMsqQueue, s.key q = key) ∨ env.AcceptsAll 0 (s.candidates last))

theorem findsQueue_iff {env : Env} {key : UInt64} {s : ConnectionMsgQ}
    (hacc : ∀ q, s.pMsqQueue.find? (s.hasKey key) = some q → env.AcceptsAll 0 (s.candidates q)) :
    (∃ q, s.found key = some q ∧ env.AcceptsAll 0 (s.candidates q)) ↔ FindsQueue env key s := by
  constructor
  · rintro ⟨q, hfound, hq⟩
    rcases found_eq_some.mp hfound with hfind | ⟨-, hlast⟩
    · have hmem := List.mem_of_find?_eq_some hfind
      refine ⟨_, List.getLast?_eq_some_getLast (List.ne_nil_of_mem hmem), Or.inl ⟨q, hmem, ?_⟩⟩
      exact hasKey_iff.mp (List.find?_some hfind)
    · exact ⟨q, hlast, Or.inr hq⟩
  · rintro ⟨last, hlast, hown⟩
    cases hfind : s.pMsqQueue.find? (s.hasKey key) with
    | some q => exact ⟨q, found_eq_some.mpr (Or.inl hfind), hacc q hfind⟩
    | none =>
      have hno : ∀ q ∈ s.pMsqQueue, s.key q ≠ key := fun q hq hk =>
        List.find?_eq_none.mp hfind q hq (hasKey_iff.mpr hk)
      rcases hown with ⟨q, hq, hk⟩ | hlastAcc
      · exact absurd hk (hno q hq)
      · exact ⟨last, found_eq_some.mpr (Or.inr ⟨hno, hlast⟩), hlastAcc⟩

/-- At every reachable state, an OFFER for which everything goes well is reported as accepted if and
only if the read lock has not been left locked and the lookup finds a queue as above, all of it
live. -/
theorem offer_reported_iff {latched : Bool} (env : Env) (msg : ReceivedSignalingMessage)
    (h : Run.Reachable step (AppConfiguration.initApp latched) c) (ho : OfferGoesWell env msg c) :
    OfferReported env msg c ↔ c.readLockHeld = false ∧
      FindsQueue env (clientIdHashKey msg.signalingMessage.peerClientId)
        c.pRemotePeerPendingSignalingMessages ∧
      c.pRemotePeerPendingSignalingMessages.LookupLive
        (clientIdHashKey msg.signalingMessage.peerClientId) := by
  have hcontains : env.ok .appHashTableContains = true := ho.storage.hash rfl
  have hfree := Nat.ne_of_lt ho.free
  obtain ⟨leaked, hown, -⟩ := (sessionsOk_of_reachable h).owned
  have hreported : OfferReported env msg c ↔ _ ∧ _ ∧ _ :=
    ⟨fun h => ⟨h.success, h.timer, h.unmisused⟩, fun h => ⟨h.1, h.2.1, h.2.2⟩⟩
  rw [hreported, onSignalingMessageReceived_offer ho.offer hcontains ho.noSession]
  have hacc := ho.accepted
  generalize clientIdHashKey msg.signalingMessage.peerClientId = key at hacc ⊢
  have htimer := statsTimer_receiveOffer (c := c) env key msg.signalingMessage
  rcases receiveOffer_cases env key msg.signalingMessage hown with
    ⟨hfull, -⟩ | ⟨-, -, ⟨hno, -⟩ | ⟨-, hlock, hr⟩⟩ | ⟨-, -, hlock, c1, hl, ⟨hno, -⟩ | ⟨-, -, hr⟩⟩
  · exact absurd hfull hfree
  · exact absurd ho.created hno
  · -- the handler waits for the read lock
    refine iff_of_false (fun hrep => ?_) fun hfinds => ?_
    · rw [hr] at hrep
      cases hrep.1
    · rw [hlock] at hfinds
      cases hfinds.1
  · exact absurd ⟨ho.answered, ho.storage.hash rfl⟩ hno
  · have hpending : (c1.setEntry key c.sessions.next).pRemotePeerPendingSignalingMessages =
        c.pRemotePeerPendingSignalingMessages := hl.pending
    have hqueue : ∀ call : Call, call.isQueue = true → env.ok call = true :=
      fun _ hc => ho.storage.queue hc
    have hdrain := @drainPending_eq_success (c1.setEntry key c.sessions.next) c.sessions.next env
      key hqueue
    have hlive := @drainPending_unmisused (c1.setEntry key c.sessions.next) c.sessions.next env
      key hqueue
    rw [hpending] at hdrain hlive
    have hst : (receiveOffer env key msg.signalingMessage c).1 = some .success ↔
        FindsQueue env key c.pRemotePeerPendingSignalingMessages := by
      rw [hr, Option.some.injEq, hdrain]
      exact findsQueue_iff hacc
    have hunmisused : (receiveOffer env key msg.signalingMessage c).1 = some .success →
        ((receiveOffer env key msg.signalingMessage c).2.pRemotePeerPendingSignalingMessages.Unmisused
          ↔ c.pRemotePeerPendingSignalingMessages.LookupLive key) := by
      rw [hr, Option.some.injEq]
      intro hok
      rw [if_neg (by rw [hok]; decide), pending_startStats]
      exact hlive hok
    rw [hlock, ← hst]
    constructor
    · rintro ⟨hok, -, hun⟩
      exact ⟨rfl, hok, (hunmisused hok).mp hun⟩
    · rintro ⟨-, hok, hun⟩
      exact ⟨hok, fun hnone hadd => htimer hnone hfree hok hadd, (hunmisused hok).mpr hun⟩

/-- A candidate of `A` waits when `A` sends its OFFER. -/
theorem offer_reported_iff_of_candidate :
    let c := Run.exec step (AppConfiguration.initApp true)
      [.message Env.allOk (candidateOf clientA [1])]
    OfferReported Env.allOk (offerOf clientA) c ↔ c.readLockHeld = false ∧
      FindsQueue Env.allOk (clientIdHashKey clientA) c.pRemotePeerPendingSignalingMessages ∧
      c.pRemotePeerPendingSignalingMessages.LookupLive (clientIdHashKey clientA) := by
  have haccepts : ∀ (ms : List SignalingMessage) (n : Nat), Env.allOk.AcceptsAll n ms := by
    intro ms
    induction ms with
    | nil => exact fun _ => trivial
    | cons m ms ih => exact fun n => ⟨⟨rfl, rfl⟩, ih (n + 1)⟩
  exact offer_reported_iff Env.allOk (offerOf clientA) ⟨_, rfl⟩
    ⟨rfl, by decide +kernel, by decide +kernel, Env.allOk_storageOk, by decide +kernel,
      by decide +kernel, fun _ _ => haccepts _ 0⟩

/-- Nothing waits: the OFFER of the first client fails, with its session listed and entered. -/
theorem offer_not_reported :
    OfferGoesWell Env.allOk (offerOf clientA) (AppConfiguration.initApp true) ∧
      (onSignalingMessageReceived Env.allOk (offerOf clientA) (AppConfiguration.initApp true)).1 =
        some .appMsgqNullArg ∧
      ¬ OfferReported Env.allOk (offerOf clientA) (AppConfiguration.initApp true) := by
  have hst : (onSignalingMessageReceived Env.allOk (offerOf clientA)
      (AppConfiguration.initApp true)).1 = some .appMsgqNullArg := by decide +kernel
  refine ⟨⟨rfl, by decide, rfl, Env.allOk_storageOk, by decide, by decide, fun q hq => ?_⟩, hst,
    fun hrep => ?_⟩
  · cases hq
  · exact absurd (Option.some.inj (hst.symm.trans hrep.success)) Status.noConfusion

end

end WebrtcApp
