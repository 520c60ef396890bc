import WebrtcApp.App.Signaling
import WebrtcApp.Lib.Run

/-!
# One user of the pipeline

The threads that use the pipeline and its main loop: the handlers of OFFERs, of any number of
threads, which run `discoverMediaSource` in `isMediaSourceReady`, and the media senders, which
run `runMediaSource`.  `pollApp` only takes the lock from them.

Three facts exclude each other's users: `appConfigurationObjLock` is held through a discovery, a
sender is started by the handler that raised `mediaThreadStarted`, and `codecConfigLatched` never
falls.  So no two of them use the pipeline at a time (`one_media_user`).
-/

namespace WebrtcApp

/-! ## The machine -/

/-- The next step of a handler: outside of `appConfigurationObjLock`, in front of
`isMediaSourceReady`, in `discoverMediaSource`, behind it, with the media source ready, about to
create the sender, and in front of the unlock. -/
inductive HandlerPhase
  | out
  | entered
  | discovering
  | discovered
  | ready
  | starting
  | leaving
  deriving DecidableEq

/-- `mediaSenderRoutine`: in front of or in its wait, behind it, joining its `runMediaSource`, about
to clear `mediaThreadStarted`, and behind that. -/
inductive SenderThread
  | absent
  | waiting
  | woken
  | joining (source : Nat)
  | finishing
  | exited
  deriving DecidableEq

/-- Between its start and its clearing of `mediaThreadStarted`. -/
def SenderThread.active : SenderThread → Bool
  | .absent | .exited => false
  | _ => true

inductive LockHolder (T : Type)
  | handler (t : T)
  | poll
  deriving DecidableEq

/-- Threads are numbered as they are created.  `sources` are the threads in `runMediaSource`. -/
structure MediaUsers (T : Type) where
  lock : Option (LockHolder T)
  handlers : T → HandlerPhase
  codecConfigLatched : Bool
  mediaThreadStarted : Bool
  senders : Nat → SenderThread
  senderCount : Nat
  sources : Nat → Bool
  sourceCount : Nat

inductive MediaUserAction (T : Type)
  -- onSignalingMessageReceived
  | enter (t : T)
  | isMediaSourceReady (t : T)
  | noMorePads (t : T)
  | discoverReturn (t : T)
  | latchCheck (t : T)
  | exchange (t : T)
  | createSender (t : T) (ok : Bool)
  | fail (t : T)
  | leave (t : T)
  -- pollApp
  | pollEnter
  | pollLeave
  -- mediaSenderRoutine
  | senderWake (i : Nat)
  | createSource (i : Nat) (ok : Bool)
  | sourceReturn (k : Nat)
  | senderJoined (i : Nat)
  | senderDone (i : Nat)

namespace MediaUsers

variable {T : Type} [DecidableEq T]

/-- After `initApp`. -/
def start (latched : Bool) : MediaUsers T :=
  ⟨none, fun _ => .out, latched, false, fun _ => .absent, 0, fun _ => false, 0⟩

def setHandler (s : MediaUsers T) (t : T) (h : HandlerPhase) : MediaUsers T :=
  { s with handlers := Function.update s.handlers t h }

def setSender (s : MediaUsers T) (i : Nat) (x : SenderThread) : MediaUsers T :=
  { s with senders := Function.update s.senders i x }

def step (s : MediaUsers T) : MediaUserAction T → MediaUsers T
  | .enter t =>
    if s.lock = none ∧ s.handlers t = .out then
      { s.setHandler t .entered with lock := some (.handler t) }
    else s
  | .isMediaSourceReady t =>
    if s.handlers t = .entered then
      s.setHandler t (if s.codecConfigLatched then .ready else .discovering)
    else s
  | .noMorePads t =>
    -- onRtspSrcNoMorePadsDiscovery of the pipeline of t
    if s.handlers t = .discovering then { s with codecConfigLatched := true } else s
  | .discoverReturn t => if s.handlers t = .discovering then s.setHandler t .discovered else s
  | .latchCheck t =>
    if s.handlers t = .discovered then
      s.setHandler t (if s.codecConfigLatched then .ready else .leaving)
    else s
  | .exchange t =>
    if s.handlers t = .ready then
      { s.setHandler t (if s.mediaThreadStarted then .leaving else .starting) with
        mediaThreadStarted := true }
    else s
  | .createSender t ok =>
    if s.handlers t = .starting then
      if ok then
        { (s.setHandler t .leaving).setSender s.senderCount .waiting with
          senderCount := s.senderCount + 1 }
      else s.setHandler t .leaving
    else s
  | .fail t =>
    if s.handlers t = .entered ∨ s.handlers t = .ready then s.setHandler t .leaving else s
  | .leave t =>
    if s.handlers t = .leaving then { s.setHandler t .out with lock := none } else s
  | .pollEnter => if s.lock = none then { s with lock := some .poll } else s
  | .pollLeave => if s.lock = some .poll then { s with lock := none } else s
  | .senderWake i => if s.lock = none ∧ s.senders i = .waiting then s.setSender i .woken else s
  | .createSource i ok =>
    if s.senders i = .woken then
      if ok then
        { s.setSender i (.joining s.sourceCount) with
          sources := Function.update s.sources s.sourceCount true
          sourceCount := s.sourceCount + 1 }
      else s.setSender i .finishing
    else s
  | .sourceReturn k => { s with sources := Function.update s.sources k false }
  | .senderJoined i =>
    match s.senders i with
    | .joining k => if s.sources k then s else s.setSender i .finishing
    | _ => s
  | .senderDone i =>
    if s.senders i = .finishing then { s.setSender i .exited with mediaThreadStarted := false }
    else s

end MediaUsers

/-- One user of the pipeline at a time, and no sender without its codecs. -/
structure MediaExclusive {T : Type} (s : MediaUsers T) : Prop where
  oneSender : ∀ i j, (s.senders i).active = true → (s.senders j).active = true → i = j
  oneSource : ∀ k l, s.sources k = true → s.sources l = true → k = l
  oneDiscovery : ∀ t u, s.handlers t = .discovering → s.handlers u = .discovering → t = u
  apart : ∀ t, s.handlers t = .discovering → ∀ k, s.sources k = false
  latched : s.mediaThreadStarted = true → s.codecConfigLatched = true

/-! ## The invariant -/

structure UsersOk {T : Type} (s : MediaUsers T) : Prop where
  lock : ∀ t, s.handlers t ≠ .out → s.lock = some (.handler t)
  oneSender : ∀ i j, (s.senders i).active = true → (s.senders j).active = true → i = j
  started : ∀ i, (s.senders i).active = true → s.mediaThreadStarted = true
  starting : ∀ t, s.handlers t = .starting →
    s.mediaThreadStarted = true ∧ ∀ i, (s.senders i).active = false
  latched : s.mediaThreadStarted = true → s.codecConfigLatched = true
  ready : ∀ t, s.handlers t = .ready → s.codecConfigLatched = true
  discovering : ∀ t, s.handlers t = .discovering → s.mediaThreadStarted = false
  sources : ∀ k, s.sources k = true → ∃ i, s.senders i = .joining k
  sourceFresh : ∀ i k, s.senders i = .joining k → k < s.sourceCount
  senderFresh : ∀ i, s.senderCount ≤ i → s.senders i = .absent

section
variable {T : Type} {s : MediaUsers T} {t u : T} {p : HandlerPhase} {i j : Nat} {x : SenderThread}

theorem senders_setSender_self : (s.setSender i x).senders i = x :=
  Function.update_self ..

theorem senders_setSender_of_ne (h : j ≠ i) : (s.setSender i x).senders j = s.senders j :=
  Function.update_of_ne h ..

variable [DecidableEq T]

theorem handlers_setHandler_self : (s.setHandler t p).handlers t = p :=
  Function.update_self ..

theorem handlers_setHandler_of_ne (h : u ≠ t) : (s.setHandler t p).handlers u = s.handlers u :=
  Function.update_of_ne h ..

end

namespace UsersOk

section
variable {T : Type} {s : MediaUsers T}

theorem start (latched : Bool) : UsersOk (MediaUsers.start latched : MediaUsers T) where
  lock _ h := absurd rfl h
  oneSender _ _ h := absurd h Bool.noConfusion
  started _ h := absurd h Bool.noConfusion
  starting _ h := absurd h HandlerPhase.noConfusion
  latched h := absurd h Bool.noConfusion
  ready _ h := absurd h HandlerPhase.noConfusion
  discovering _ h := absurd h HandlerPhase.noConfusion
  sources _ h := absurd h Bool.noConfusion
  sourceFresh _ _ h := absurd h SenderThread.noConfusion
  senderFresh _ _ := rfl

theorem exclusive (h : UsersOk s) : MediaExclusive s := by
  refine ⟨h.oneSender, fun k l hk hl => ?_, fun t u ht hu => ?_, fun t ht k => ?_, h.latched⟩
  · obtain ⟨i, hi⟩ := h.sources k hk
    obtain ⟨j, hj⟩ := h.sources l hl
    obtain rfl := h.oneSender i j (by rw [hi]; rfl) (by rw [hj]; rfl)
    exact SenderThread.joining.inj (hi.symm.trans hj)
  · have hlock := (h.lock t (by rw [ht]; decide)).symm.trans (h.lock u (by rw [hu]; decide))
    exact LockHolder.handler.inj (Option.some.inj hlock)
  · -- a thread in runMediaSource has a sender, whose flag is up
    cases hk : s.sources k with
    | false => rfl
    | true =>
      obtain ⟨i, hi⟩ := h.sources k hk
      have hup := h.started i (by rw [hi]; rfl)
      exact absurd (hup.symm.trans (h.discovering t ht)) Bool.noConfusion

/-- With the lock free, no handler is inside. -/
theorem out_of_free (h : UsersOk s) (hl : s.lock = none) (t : T) : s.handlers t = .out := by
  by_contra hne
  have hlock := h.lock t hne
  rw [hl] at hlock
  cases hlock

theorem takeLock (h : UsersOk s) (hl : s.lock = none) (x : LockHolder T) :
    UsersOk { s with lock := some x } :=
  { h with lock := fun t ht => absurd (h.out_of_free hl t) ht }

/-! ### The senders -/

/-- A sender goes on, and its `runMediaSource` has returned. -/
theorem setSender (h : UsersOk s) {i : Nat} {x : SenderThread} (hi : (s.senders i).active = true)
    (hk : ∀ k, s.sources k = true → s.senders i ≠ .joining k) (hj : ∀ k, x ≠ .joining k) :
    UsersOk (s.setSender i x) := by
  have hactive : ∀ {j}, ((s.setSender i x).senders j).active = true → (s.senders j).active = true := by
    intro j hj
    by_cases hji : j = i
    · rw [hji]
      exact hi
    · rwa [senders_setSender_of_ne hji] at hj
  refine { h with
    oneSender := fun a b ha hb => h.oneSender a b (hactive ha) (hactive hb)
    started := fun a ha => h.started a (hactive ha)
    starting := fun u hu => ?_
    sources := fun k e => ?_
    sourceFresh := fun a k e => ?_
    senderFresh := fun a ha => ?_ }
  · exact absurd (hi.symm.trans ((h.starting u hu).2 i)) Bool.noConfusion
  · obtain ⟨j, hjk⟩ := h.sources k e
    refine ⟨j, (senders_setSender_of_ne fun hji => ?_).trans hjk⟩
    rw [hji] at hjk
    exact hk k e hjk
  · by_cases hai : a = i
    · rw [hai, senders_setSender_self] at e
      exact absurd e (hj k)
    · rw [senders_setSender_of_ne hai] at e
      exact h.sourceFresh a k e
  · have hold := h.senderFresh a ha
    by_cases hai : a = i
    · rw [← hai, hold] at hi
      cases hi
    · rw [senders_setSender_of_ne hai]
      exact hold

/-- `THREAD_CREATE` of `runMediaSource`. -/
theorem createSource (h : UsersOk s) {i : Nat} (hi : s.senders i = .woken) :
    UsersOk { s.setSender i (.joining s.sourceCount) with
      sources := Function.update s.sources s.sourceCount true
      sourceCount := s.sourceCount + 1 } := by
  have hactive : (s.senders i).active = true := by rw [hi]; rfl
  have hkeep : ∀ {j}, ((s.setSender i (.joining s.sourceCount)).senders j).active = true →
      (s.senders j).active = true := by
    intro j hj
    by_cases hji : j = i
    · rw [hji]
      exact hactive
    · rwa [senders_setSender_of_ne hji] at hj
  refine { h with
    oneSender := fun a b ha hb => h.oneSender a b (hkeep ha) (hkeep hb)
    started := fun a ha => h.started a (hkeep ha)
    starting := fun u hu => absurd (hactive.symm.trans ((h.starting u hu).2 i)) Bool.noConfusion
    sources := fun k e => ?_
    sourceFresh := fun a k e => ?_
    senderFresh := fun a ha => ?_ }
  · by_cases hk : k = s.sourceCount
    · exact ⟨i, by rw [hk]; exact senders_setSender_self⟩
    · obtain ⟨j, hj⟩ := h.sources k ((Function.update_of_ne hk _ _).symm.trans e)
      refine ⟨j, (senders_setSender_of_ne fun hji => ?_).trans hj⟩
      rw [hji, hi] at hj
      cases hj
  · show k < s.sourceCount + 1
    by_cases hai : a = i
    · rw [hai] at e
      have hk := SenderThread.joining.inj (senders_setSender_self.symm.trans e)
      omega
    · have hold := h.sourceFresh a k ((senders_setSender_of_ne hai).symm.trans e)
      omega
  · have hold := h.senderFresh a ha
    refine (senders_setSender_of_ne fun hai => ?_).trans hold
    rw [hai, hi] at hold
    cases hold

/-- `runMediaSource` returns. -/
theorem sourceReturn (h : UsersOk s) (k : Nat) :
    UsersOk { s with sources := Function.update s.sources k false } := by
  refine { h with sources := fun l e => ?_ }
  by_cases hl : l = k
  · rw [hl] at e
    exact absurd ((Function.update_self k false s.sources).symm.trans e) Bool.noConfusion
  · exact h.sources l ((Function.update_of_ne hl _ _).symm.trans e)

/-- The store that ends a sender. -/
theorem senderDone (h : UsersOk s) {i : Nat} (hi : s.senders i = .finishing) :
    UsersOk { s.setSender i .exited with mediaThreadStarted := false } := by
  have hactive : (s.senders i).active = true := by rw [hi]; rfl
  have hset := h.setSender (x := .exited) hactive (fun k _ e => by rw [hi] at e; cases e)
    fun _ => SenderThread.noConfusion
  refine { hset with
    started := fun j hj => ?_
    starting := fun u hu => absurd (hactive.symm.trans ((h.starting u hu).2 i)) Bool.noConfusion
    latched := fun e => absurd e Bool.noConfusion
    discovering := fun _ _ => rfl }
  by_cases hji : j = i
  · rw [hji] at hj
    rw [show ({ s.setSender i .exited with mediaThreadStarted := false } : MediaUsers T).senders i =
      .exited from senders_setSender_self] at hj
    cases hj
  · have hold : (s.senders j).active = true :=
      (congrArg SenderThread.active (senders_setSender_of_ne hji)).symm.trans hj
    exact absurd (h.oneSender j i hold hactive) hji

end

variable {T : Type} [DecidableEq T] {s : MediaUsers T} {t : T}

/-! ### The handlers -/

/-- The handler `t`, which has the lock, goes on to a phase that asks for no more than it has. -/
theorem setHandler (h : UsersOk s) {p : HandlerPhase} (ht : s.lock = some (.handler t))
    (hs : p = .starting → s.mediaThreadStarted = true ∧ ∀ i, (s.senders i).active = false)
    (hr : p = .ready → s.codecConfigLatched = true)
    (hd : p = .discovering → s.mediaThreadStarted = false) : UsersOk (s.setHandler t p) := by
  have hget : ∀ {u q}, (s.setHandler t p).handlers u = q → p = q ∨ s.handlers u = q := by
    intro u q e
    by_cases hu : u = t
    · rw [hu, handlers_setHandler_self] at e
      exact Or.inl e
    · rw [handlers_setHandler_of_ne hu] at e
      exact Or.inr e
  refine { h with
    lock := fun u hu => ?_
    starting := fun u e => (hget e).elim hs (h.starting u)
    ready := fun u e => (hget e).elim hr (h.ready u)
    discovering := fun u e => (hget e).elim hd (h.discovering u) }
  by_cases hut : u = t
  · rw [hut]
    exact ht
  · rw [handlers_setHandler_of_ne hut] at hu
    exact h.lock u hu

/-- `MUTEX_UNLOCK` of a handler. -/
theorem leave (h : UsersOk s) (ht : s.lock = some (.handler t)) :
    UsersOk { s.setHandler t .out with lock := none } := by
  have hout := h.setHandler (p := .out) ht HandlerPhase.noConfusion HandlerPhase.noConfusion
    HandlerPhase.noConfusion
  refine { hout with lock := fun u hu => absurd ?_ hu }
  by_cases hut : u = t
  · rw [hut]
    exact handlers_setHandler_self
  · by_contra hne
    have hlock := (hout.lock u hne).symm.trans ht
    exact hut (LockHolder.handler.inj (Option.some.inj hlock))

/-- A discovery is done while `mediaThreadStarted` is down. -/
theorem isMediaSourceReady (h : UsersOk s) (ht : s.lock = some (.handler t)) :
    UsersOk (s.setHandler t (if s.codecConfigLatched then .ready else .discovering)) := by
  cases hl : s.codecConfigLatched with
  | true =>
    exact h.setHandler ht HandlerPhase.noConfusion (fun _ => hl) HandlerPhase.noConfusion
  | false =>
    apply h.setHandler ht HandlerPhase.noConfusion HandlerPhase.noConfusion
    intro _
    cases hs : s.mediaThreadStarted with
    | false => rfl
    | true => exact absurd ((h.latched hs).symm.trans hl) Bool.noConfusion

/-- The handler that raises `mediaThreadStarted` finds no sender. -/
theorem exchange (h : UsersOk s) (hr : s.handlers t = .ready) :
    UsersOk { s.setHandler t (if s.mediaThreadStarted then .leaving else .starting) with
      mediaThreadStarted := true } := by
  have ht := h.lock t (by rw [hr]; decide)
  have hlatched := h.ready t hr
  cases hs : s.mediaThreadStarted with
  | true =>
    have hleft := h.setHandler (p := .leaving) ht HandlerPhase.noConfusion HandlerPhase.noConfusion
      HandlerPhase.noConfusion
    have heq : { s.setHandler t .leaving with mediaThreadStarted := true } = s.setHandler t .leaving := by
      rw [← hs]
      rfl
    simpa only [if_true, heq] using hleft
  | false =>
    have hidle : ∀ i, (s.senders i).active = false := by
      intro i
      cases hi : (s.senders i).active with
      | false => rfl
      | true => exact absurd ((h.started i hi).symm.trans hs) Bool.noConfusion
    have hup : UsersOk { s with mediaThreadStarted := true } := by
      refine { h with
        started := fun _ _ => rfl
        starting := fun u e => ⟨rfl, hidle⟩
        latched := fun _ => hlatched
        discovering := fun u hu => ?_ }
      -- another handler would need the lock
      have hlock := (h.lock u (by rw [hu]; decide)).symm.trans ht
      obtain rfl := LockHolder.handler.inj (Option.some.inj hlock)
      rw [hr] at hu
      cases hu
    exact hup.setHandler (t := t) (p := .starting) ht (fun _ => ⟨rfl, hidle⟩) HandlerPhase.noConfusion
      HandlerPhase.noConfusion

/-- `THREAD_CREATE` of a sender, by the handler that found the flag down. -/
theorem createSender (h : UsersOk s) (hs : s.handlers t = .starting) :
    UsersOk { (s.setHandler t .leaving).setSender s.senderCount .waiting with
      senderCount := s.senderCount + 1 } := by
  obtain ⟨hup, hidle⟩ := h.starting t hs
  have hleft := h.setHandler (p := .leaving) (h.lock t (by rw [hs]; decide)) HandlerPhase.noConfusion
    HandlerPhase.noConfusion HandlerPhase.noConfusion
  have hnew : ∀ {a}, (((s.setHandler t .leaving).setSender s.senderCount .waiting).senders a).active =
      true → a = s.senderCount := by
    intro a ha
    by_contra hne
    rw [senders_setSender_of_ne hne] at ha
    exact absurd (ha.symm.trans (hidle a)) Bool.noConfusion
  refine { hleft with
    oneSender := fun a b ha hb => (hnew ha).trans (hnew hb).symm
    started := fun _ _ => hup
    starting := fun u hu => ?_
    sources := fun k e => ?_
    sourceFresh := fun a k e => ?_
    senderFresh := fun a ha => ?_ }
  · -- the handler with the lock has left this phase
    by_cases hut : u = t
    · rw [hut] at hu
      exact absurd (handlers_setHandler_self.symm.trans hu) HandlerPhase.noConfusion
    · have hold : s.handlers u = .starting := (handlers_setHandler_of_ne hut).symm.trans hu
      have hlock := (h.lock u (by rw [hold]; decide)).symm.trans (h.lock t (by rw [hs]; decide))
      exact absurd (LockHolder.handler.inj (Option.some.inj hlock)) hut
  · obtain ⟨i, hi⟩ := h.sources k e
    have hactive : (s.senders i).active = true := by rw [hi]; rfl
    exact absurd (hactive.symm.trans (hidle i)) Bool.noConfusion
  · by_cases ha : a = s.senderCount
    · rw [ha] at e
      exact absurd (senders_setSender_self.symm.trans e) SenderThread.noConfusion
    · exact h.sourceFresh a k ((senders_setSender_of_ne ha).symm.trans e)
  · have hlt : s.senderCount + 1 ≤ a := ha
    apply (senders_setSender_of_ne (by omega)).trans
    exact h.senderFresh a (by omega)

theorem step (h : UsersOk s) (a : MediaUserAction T) : UsersOk (s.step a) := by
  have hlock : ∀ {t p}, s.handlers t = p → p ≠ .out → s.lock = some (.handler t) :=
    fun e hne => h.lock _ (e ▸ hne)
  cases a with
  | enter t =>
    simp only [MediaUsers.step]
    split
    · next hin =>
      exact (h.takeLock hin.1 (.handler t)).setHandler (t := t) rfl HandlerPhase.noConfusion
        HandlerPhase.noConfusion HandlerPhase.noConfusion
    · exact h
  | isMediaSourceReady t =>
    simp only [MediaUsers.step]
    split
    · next hin => exact h.isMediaSourceReady (hlock hin (by decide))
    · exact h
  | noMorePads t =>
    simp only [MediaUsers.step]
    split
    · exact { h with latched := fun _ => rfl, ready := fun _ _ => rfl }
    · exact h
  | discoverReturn t =>
    simp only [MediaUsers.step]
    split
    · next hin =>
      exact h.setHandler (hlock hin (by decide)) HandlerPhase.noConfusion HandlerPhase.noConfusion
        HandlerPhase.noConfusion
    · exact h
  | latchCheck t =>
    simp only [MediaUsers.step]
    split
    · next hin =>
      have ht := hlock hin (by decide)
      cases hl : s.codecConfigLatched with
      | true => exact h.setHandler ht HandlerPhase.noConfusion (fun _ => hl) HandlerPhase.noConfusion
      | false =>
        exact h.setHandler ht HandlerPhase.noConfusion HandlerPhase.noConfusion HandlerPhase.noConfusion
    · exact h
  | exchange t =>
    simp only [MediaUsers.step]
    split
    · next hin => exact h.exchange hin
    · exact h
  | createSender t ok =>
    simp only [MediaUsers.step]
    split
    · next hin =>
      cases ok with
      | true => exact h.createSender hin
      | false =>
        exact h.setHandler (hlock hin (by decide)) HandlerPhase.noConfusion HandlerPhase.noConfusion
          HandlerPhase.noConfusion
    · exact h
  | fail t =>
    simp only [MediaUsers.step]
    split
    · next hin =>
      refine h.setHandler (h.lock t ?_) HandlerPhase.noConfusion HandlerPhase.noConfusion
        HandlerPhase.noConfusion
      rcases hin with hin | hin <;> rw [hin] <;> decide
    · exact h
  | leave t =>
    simp only [MediaUsers.step]
    split
    · next hin => exact h.leave (hlock hin (by decide))
    · exact h
  | pollEnter =>
    simp only [MediaUsers.step]
    split
    · next hl => exact h.takeLock hl .poll
    · exact h
  | pollLeave =>
    simp only [MediaUsers.step]
    split
    · next hl =>
      refine { h with lock := fun u hu => ?_ }
      cases (h.lock u hu).symm.trans hl
    · exact h
  | senderWake i =>
    simp only [MediaUsers.step]
    split
    · next hi =>
      refine h.setSender (by rw [hi.2]; rfl) (fun k _ e => ?_) fun _ => SenderThread.noConfusion
      rw [hi.2] at e
      cases e
    · exact h
  | createSource i ok =>
    simp only [MediaUsers.step]
    split
    · next hi =>
      cases ok with
      | true => exact h.createSource hi
      | false =>
        refine h.setSender (by rw [hi]; rfl) (fun k _ e => ?_) fun _ => SenderThread.noConfusion
        rw [hi] at e
        cases e
    · exact h
  | sourceReturn k => exact h.sourceReturn k
  | senderJoined i =>
    simp only [MediaUsers.step]
    split
    · next k hi =>
      split
      · exact h
      · next hk =>
        refine h.setSender (by rw [hi]; rfl) (fun l hl e => ?_) fun _ => SenderThread.noConfusion
        obtain rfl := SenderThread.joining.inj (hi.symm.trans e)
        exact hk hl
    · exact h
  | senderDone i =>
    simp only [MediaUsers.step]
    split
    · next hi => exact h.senderDone hi
    · exact h

end UsersOk

/-! ## The handler's steps with nothing in between -/

section
variable {T : Type} [DecidableEq T] {s : MediaUsers T} {t : T}

/-- The steps in `isMediaSourceReady`, with what its discovery finds. -/
def Env.readySteps (env : Env) (t : T) : List (MediaUserAction T) :=
  .isMediaSourceReady t :: (if env.mediaDiscovered then [.noMorePads t] else []) ++
    [.discoverReturn t, .latchCheck t]

theorem readySteps_eq (env : Env) (m : MediaContext) (ht : s.handlers t = .entered)
    (hm : s.codecConfigLatched = m.codecConfigLatched) :
    let s' := Run.exec MediaUsers.step s (env.readySteps t)
    (s'.handlers t = .ready ↔ (WebrtcApp.isMediaSourceReady env m).1 = .success) ∧
      s'.codecConfigLatched = (WebrtcApp.isMediaSourceReady env m).2.codecConfigLatched := by
  unfold Env.readySteps WebrtcApp.isMediaSourceReady
  cases hl : m.codecConfigLatched <;> cases hd : env.mediaDiscovered <;>
    simp [MediaUsers.step, MediaUsers.setHandler, ht, hm, hl]

/-- The exchange and the creation of the thread. -/
theorem startSteps_eq (c : AppConfiguration) (ht : s.handlers t = .ready)
    (hs : s.mediaThreadStarted = c.mediaThreadStarted) (hn : s.senderCount = c.mediaSenders) :
    let s' := Run.exec MediaUsers.step s [.exchange t, .createSender t true]
    s'.mediaThreadStarted = (startMediaSender c).mediaThreadStarted ∧
      s'.senderCount = (startMediaSender c).mediaSenders := by
  unfold startMediaSender
  cases h : c.mediaThreadStarted <;>
    simp [MediaUsers.step, MediaUsers.setHandler, MediaUsers.setSender, ht, hs, hn, h]

end

/-- The pipeline and the main loop have one user at a time in every state of every run. -/
theorem one_media_user {T : Type} [DecidableEq T] (latched : Bool) (as : List (MediaUserAction T)) :
    MediaExclusive (Run.exec MediaUsers.step (MediaUsers.start latched) as) :=
  (Run.Reachable.invariant (UsersOk.start latched) (fun _ a h => h.step a) ⟨as, rfl⟩).exclusive

end WebrtcApp
