import WebrtcApp.App.AppSignaling
import WebrtcApp.Lib.Run

/-!
# The signaling client and its users

`pollApp` restarts the signaling client when `onSignalingClientError` asks for it, any threads send
through it, and `freeApp` frees it.  `signalingSendMessageLock` is taken by the senders only.

A request is honoured in a run exactly where no iteration checks the handle that a failed restart
left invalid, and no request comes between the begin of a restart and the store that ends it
(`restart_honoured_iff`).  The sends are safe exactly where a client is freed while nobody sends
through it, its handle is not read before it is invalidated, and no two senders lock a mutex that is
freed (`sends_safe_iff`).
-/

namespace WebrtcApp

/-! ## The machine -/

/-- The next step of `pollApp`, and of `freeApp` once it has returned. -/
inductive PollPhase
  | loopTest
  | restartTest
  -- restartAppSignaling
  | freeing
  | invalidating (ok : Bool)
  | creating
  | clearing
  | checking
  | expiring
  | returned (st : AppSignalingStatus)
  -- freeAppSignaling
  | appFreeing
  | appInvalidating
  | freeLock
  | done
  deriving DecidableEq

/-- `restartAppSignaling` has been called, and `restartSignalingClient` is not cleared yet. -/
def PollPhase.inRestart : PollPhase → Bool
  | .freeing | .invalidating _ | .creating | .clearing => true
  | _ => false

/-- What an iteration of `pollApp` finds. -/
structure PollEnv where
  sigInt : Bool
  sweep : Status
  free : FreeResult
  createOk : Bool
  check : CheckResult
  expire : Status

/-- The next step of `sendAppSignalingMessage`. -/
inductive SendPhase
  | idle
  | checked
  | locked
  | calling (client : Option SignalingClientHandle)
  | sent
  deriving DecidableEq

/-- Between the lock and the unlock. -/
def SendPhase.inProgress : SendPhase → Bool
  | .idle | .checked => false
  | .locked | .calling _ | .sent => true

/-- `lock` is the owner of `signalingSendMessageLock`.  `requested` says that a restart was asked for
since the last one began, or that one failed, and `restartFailed` that the one of this iteration
did. -/
structure SignalingState (T : Type) where
  signaling : AppSignaling
  restartSignalingClient : Bool
  poll : PollPhase
  senders : T → SendPhase
  lock : Option T
  lockFreed : Bool
  requested : Bool
  restartFailed : Bool

inductive SignalingAction (T : Type)
  | error (e : SignalingClientError)
  | poll (env : PollEnv)
  -- sendAppSignalingMessage
  | sendCheck (t : T)
  | sendLock (t : T)
  | sendRead (t : T)
  | sendReturn (t : T)
  | sendUnlock (t : T)

def SignalingAction.ofSender {T : Type} : SignalingAction T → Bool
  | .error _ | .poll _ => false
  | _ => true

namespace SignalingState

variable {T : Type} [DecidableEq T]

def start : SignalingState T :=
  ⟨.connected, false, .loopTest, fun _ => .idle, none, false, false, false⟩

def failRestart (s : SignalingState T) : SignalingState T :=
  { s with poll := .checking, requested := true, restartFailed := true }

/-- The next step of `pollApp` and `freeApp`. -/
def pollStep (env : PollEnv) (s : SignalingState T) : SignalingState T :=
  match s.poll with
  | .loopTest =>
    let s := { s with restartFailed := false }
    if env.sigInt then { s with poll := .returned .success }
    else if env.sweep.failed then { s with poll := .returned (.app env.sweep) }
    else { s with poll := .restartTest }
  | .restartTest =>
    if s.restartSignalingClient then { s with poll := .freeing, requested := false }
    else { s with poll := .checking }
  | .freeing =>
    if env.free.frees then
      { s with signaling := s.signaling.freeClient, poll := .invalidating env.free.ok }
    else s.failRestart
  | .invalidating ok =>
    let s := { s with signaling := { s.signaling with signalingClientHandle := none } }
    if ok then { s with poll := .creating } else s.failRestart
  | .creating =>
    match s.signaling.createSignalingClientSync env.createOk with
    | (true, signaling) => { s with signaling := signaling, poll := .clearing }
    | (false, signaling) => { s with signaling := signaling }.failRestart
  | .clearing => { s with restartSignalingClient := false, poll := .checking }
  | .checking =>
    match s.signaling.checkAppSignaling env.check with
    | .success => { s with poll := .expiring }
    | st => { s with poll := .returned st }
  | .expiring =>
    if env.expire.failed then { s with poll := .returned (.app env.expire) }
    else { s with poll := .loopTest }
  | .returned _ =>
    { s with poll := if s.signaling.signalingClientHandle.isSome then .appFreeing else .freeLock }
  | .appFreeing =>
    if env.free.frees then { s with signaling := s.signaling.freeClient, poll := .appInvalidating }
    else { s with poll := .freeLock }
  | .appInvalidating =>
    { s with
      signaling := { s.signaling with signalingClientHandle := none }
      poll := .freeLock }
  | .freeLock => { s with lockFreed := true, poll := .done }
  | .done => s

def setSender (s : SignalingState T) (t : T) (p : SendPhase) : SignalingState T :=
  { s with senders := Function.update s.senders t p }

/-- A freed lock keeps nobody out, and `IS_VALID_MUTEX_VALUE` still holds of it. -/
def step (s : SignalingState T) : SignalingAction T → SignalingState T
  | .error e =>
    -- onSignalingClientError
    if e.restarts then { s with restartSignalingClient := true, requested := true } else s
  | .poll env => s.pollStep env
  | .sendCheck t =>
    if s.senders t = .idle ∧ s.signaling.signalingClientHandle.isSome = true then
      s.setSender t .checked
    else s
  | .sendLock t =>
    if s.senders t = .checked ∧ (s.lock = none ∨ s.lockFreed = true) then
      { s.setSender t .locked with lock := some t }
    else s
  | .sendRead t =>
    if s.senders t = .locked then s.setSender t (.calling s.signaling.signalingClientHandle) else s
  | .sendReturn t =>
    match s.senders t with
    | .calling _ => s.setSender t .sent
    | _ => s
  | .sendUnlock t =>
    if s.senders t = .sent then { s.setSender t .idle with lock := none } else s

/-- A sender changes its phase and the owner of its lock. -/
theorem step_send (s : SignalingState T) {a : SignalingAction T} (ha : a.ofSender = true) :
    ∃ senders lock, s.step a = { s with senders := senders, lock := lock } := by
  cases a with
  | error e => cases ha
  | poll env => cases ha
  | sendCheck t =>
    simp only [step]
    split <;> exact ⟨_, _, rfl⟩
  | sendLock t =>
    simp only [step]
    split <;> exact ⟨_, _, rfl⟩
  | sendRead t =>
    simp only [step]
    split <;> exact ⟨_, _, rfl⟩
  | sendReturn t =>
    simp only [step]
    split <;> exact ⟨_, _, rfl⟩
  | sendUnlock t =>
    simp only [step]
    split <;> exact ⟨_, _, rfl⟩

end SignalingState

/-! ## The steps with nothing in between -/

section
variable {T : Type} [DecidableEq T] {s : SignalingState T}

/-- `restartAppSignaling`, up to the store behind it. -/
theorem exec_restart (env : PollEnv) (hp : s.poll = .freeing) :
    ∃ k, let s' := Run.exec SignalingState.step s (List.replicate k (.poll env))
      s'.signaling = (s.signaling.restartAppSignaling env.free env.createOk).2 ∧
        s'.poll = if (s.signaling.restartAppSignaling env.free env.createOk).1 = .success then
          .clearing else .checking := by
  unfold AppSignaling.restartAppSignaling AppSignaling.freeSignalingClient
    AppSignaling.createSignalingClientSync
  cases hf : env.free with
  | freed =>
    refine ⟨3, ?_⟩
    cases hc : env.createOk <;>
      simp [SignalingState.step, SignalingState.pollStep, hp, hf, hc, FreeResult.frees, FreeResult.ok,
        AppSignaling.createSignalingClientSync, SignalingState.failRestart]
  | freedFailed =>
    refine ⟨2, ?_⟩
    simp [SignalingState.step, SignalingState.pollStep, hp, hf, FreeResult.frees, FreeResult.ok,
      SignalingState.failRestart]
  | failed =>
    refine ⟨1, ?_⟩
    simp [SignalingState.step, SignalingState.pollStep, hp, hf, FreeResult.frees, FreeResult.ok,
      SignalingState.failRestart]

/-- `freeAppSignaling`, up to the free of its lock. -/
theorem exec_freeApp (env : PollEnv) {st : AppSignalingStatus} (hp : s.poll = .returned st) :
    ∃ k, let s' := Run.exec SignalingState.step s (List.replicate k (.poll env))
      s'.signaling = (s.signaling.freeAppSignaling env.free).2 ∧ s'.poll = .freeLock := by
  unfold AppSignaling.freeAppSignaling AppSignaling.freeSignalingClient
  cases hh : s.signaling.signalingClientHandle with
  | none =>
    refine ⟨1, ?_⟩
    simp [SignalingState.step, SignalingState.pollStep, hp, hh]
  | some client =>
    cases hf : env.free.frees with
    | true =>
      refine ⟨3, ?_⟩
      simp [SignalingState.step, SignalingState.pollStep, hp, hh, hf]
    | false =>
      refine ⟨2, ?_⟩
      simp [SignalingState.step, SignalingState.pollStep, hp, hh, hf]

end

/-! ## Requests -/

/-- A failed restart never makes `pollApp` return and leaves the request set, and
`restartSignalingClient` is down only if a successful restart began after the last request. -/
structure RestartHonoured {T : Type} (s : SignalingState T) : Prop where
  stays : s.restartFailed = true → s.poll ≠ .returned .invalidHandle
  kept : s.restartFailed = true → s.restartSignalingClient = true
  cleared : s.requested = true → s.restartSignalingClient = true

/-- The handle that is checked after a failed restart is valid, and no request came while the
restart that is about to end ran. -/
def RestartSafe {T : Type} (s : SignalingState T) : SignalingAction T → Prop
  | .poll _ =>
    (s.poll = .checking → s.restartFailed = true → s.signaling.signalingClientHandle ≠ none) ∧
      (s.poll = .clearing → s.requested = false)
  | _ => True

/-- What holds of the phases of `pollApp`. -/
structure RestartInv {T : Type} (s : SignalingState T) : Prop where
  flag : s.poll.inRestart = true → s.restartSignalingClient = true
  running : s.poll.inRestart = true ∨ s.poll = .restartTest → s.restartFailed = false
  failed : s.restartFailed = true → s.requested = true

section
variable {T : Type} {s : SignalingState T}

namespace RestartInv

theorem start : RestartInv (SignalingState.start : SignalingState T) :=
  ⟨fun e => absurd e Bool.noConfusion, fun _ => rfl, fun e => absurd e Bool.noConfusion⟩

/-- A phase outside of the restart and its test. -/
theorem leave (h : RestartInv s) {s' : SignalingState T} (hr : s'.poll.inRestart = false)
    (ht : s'.poll ≠ .restartTest) (hf : s'.restartFailed = s.restartFailed)
    (hq : s'.requested = s.requested) : RestartInv s' where
  flag e := absurd (hr.symm.trans e) Bool.noConfusion
  running e := e.elim (fun e => absurd (hr.symm.trans e) Bool.noConfusion) fun e => absurd e ht
  failed := by
    rw [hf, hq]
    exact h.failed

theorem failRestart (s : SignalingState T) : RestartInv s.failRestart where
  flag e := absurd e Bool.noConfusion
  running e := e.elim (fun e => absurd e Bool.noConfusion) fun e => absurd e PollPhase.noConfusion
  failed _ := rfl

/-- The next phase of a restart. -/
theorem restart (h : RestartInv s) (hr : s.poll.inRestart = true) (p : PollPhase) (a : AppSignaling) :
    RestartInv { s with signaling := a, poll := p } where
  flag _ := h.flag hr
  running _ := h.running (Or.inl hr)
  failed := h.failed

theorem pollStep (h : RestartInv s) (env : PollEnv) : RestartInv (s.pollStep env) := by
  have hin : ∀ {p}, s.poll = p → p.inRestart = true → s.poll.inRestart = true := fun e hr => e ▸ hr
  unfold SignalingState.pollStep
  cases hp : s.poll with
  | loopTest =>
    have h0 : RestartInv { s with restartFailed := false } :=
      ⟨h.flag, fun _ => rfl, fun e => absurd e Bool.noConfusion⟩
    simp only
    split
    · exact h0.leave rfl PollPhase.noConfusion rfl rfl
    split
    · exact h0.leave rfl PollPhase.noConfusion rfl rfl
    · exact ⟨fun e => absurd e Bool.noConfusion, fun _ => rfl, h0.failed⟩
  | restartTest =>
    have hrun := h.running (Or.inr hp)
    simp only
    split
    · next hflag =>
      exact ⟨fun _ => hflag, fun _ => hrun, fun e => absurd (hrun.symm.trans e) Bool.noConfusion⟩
    · exact h.leave rfl PollPhase.noConfusion rfl rfl
  | freeing =>
    simp only
    split
    · exact h.restart (hin hp rfl) _ _
    · exact failRestart s
  | invalidating ok =>
    simp only
    split
    · exact h.restart (hin hp rfl) _ _
    · exact failRestart _
  | creating =>
    simp only
    unfold AppSignaling.createSignalingClientSync
    cases env.createOk with
    | true => exact h.restart (hin hp rfl) _ _
    | false => exact failRestart _
  | clearing => exact h.leave rfl PollPhase.noConfusion rfl rfl
  | checking =>
    simp only
    split <;> exact h.leave rfl PollPhase.noConfusion rfl rfl
  | expiring =>
    simp only
    split <;> exact h.leave rfl PollPhase.noConfusion rfl rfl
  | returned st =>
    simp only
    split <;> exact h.leave rfl PollPhase.noConfusion rfl rfl
  | appFreeing =>
    simp only
    split
    · exact h.leave rfl PollPhase.noConfusion rfl rfl
    · exact h.leave rfl PollPhase.noConfusion rfl rfl
  | appInvalidating => exact h.leave rfl PollPhase.noConfusion rfl rfl
  | freeLock => exact h.leave rfl PollPhase.noConfusion rfl rfl
  | done => exact h

theorem step [DecidableEq T] (h : RestartInv s) (a : SignalingAction T) : RestartInv (s.step a) := by
  cases ha : a.ofSender with
  | true =>
    obtain ⟨senders, lock, hs⟩ := s.step_send ha
    rw [hs]
    exact ⟨h.flag, h.running, h.failed⟩
  | false =>
    cases a with
    | error e =>
      simp only [SignalingState.step]
      split
      · exact ⟨fun _ => rfl, h.running, fun _ => rfl⟩
      · exact h
    | poll env => exact h.pollStep env
    | _ => cases ha

end RestartInv

namespace RestartHonoured

theorem start : RestartHonoured (SignalingState.start : SignalingState T) :=
  ⟨fun e => absurd e Bool.noConfusion, fun e => absurd e Bool.noConfusion,
    fun e => absurd e Bool.noConfusion⟩

/-- The requests and the flag are as before. -/
theorem of_same (h : RestartHonoured s) {s' : SignalingState T}
    (hp : s'.poll ≠ .returned .invalidHandle) (hf : s'.restartFailed = s.restartFailed)
    (hr : s'.restartSignalingClient = s.restartSignalingClient) (hq : s'.requested = s.requested) :
    RestartHonoured s' := by
  refine ⟨fun _ => hp, ?_, ?_⟩
  · rw [hf, hr]
    exact h.kept
  · rw [hq, hr]
    exact h.cleared

/-- The flag is up. -/
theorem of_flag {s' : SignalingState T} (hp : s'.poll ≠ .returned .invalidHandle)
    (hr : s'.restartSignalingClient = true) : RestartHonoured s' :=
  ⟨fun _ => hp, fun _ => hr, fun _ => hr⟩

/-- The other steps of `pollApp` keep the requests honoured. -/
theorem pollStep (h : RestartHonoured s) (hi : RestartInv s) (env : PollEnv)
    (h1 : s.poll ≠ .checking) (h2 : s.poll ≠ .clearing) : RestartHonoured (s.pollStep env) := by
  have hflag : ∀ {p}, s.poll = p → p.inRestart = true → s.restartSignalingClient = true :=
    fun e hr => hi.flag (e ▸ hr)
  unfold SignalingState.pollStep
  cases hp : s.poll with
  | loopTest =>
    have h0 : RestartHonoured { s with poll := .loopTest, restartFailed := false } :=
      ⟨fun e => absurd e Bool.noConfusion, fun e => absurd e Bool.noConfusion, h.cleared⟩
    simp only
    split
    · exact h0.of_same (by simp) rfl rfl rfl
    split
    · exact h0.of_same (by simp) rfl rfl rfl
    · exact h0.of_same PollPhase.noConfusion rfl rfl rfl
  | restartTest =>
    simp only
    split
    · next hup => exact of_flag PollPhase.noConfusion hup
    · exact h.of_same PollPhase.noConfusion rfl rfl rfl
  | freeing =>
    simp only
    split
    · exact h.of_same PollPhase.noConfusion rfl rfl rfl
    · exact of_flag PollPhase.noConfusion (hflag hp rfl)
  | invalidating ok =>
    simp only
    split
    · exact h.of_same PollPhase.noConfusion rfl rfl rfl
    · exact of_flag PollPhase.noConfusion (hflag hp rfl)
  | creating =>
    simp only
    unfold AppSignaling.createSignalingClientSync
    cases env.createOk with
    | true => exact h.of_same PollPhase.noConfusion rfl rfl rfl
    | false => exact of_flag PollPhase.noConfusion (hflag hp rfl)
  | clearing => exact absurd hp h2
  | checking => exact absurd hp h1
  | expiring =>
    simp only
    split
    · exact h.of_same (by simp) rfl rfl rfl
    · exact h.of_same PollPhase.noConfusion rfl rfl rfl
  | returned st =>
    simp only
    split <;> exact h.of_same PollPhase.noConfusion rfl rfl rfl
  | appFreeing =>
    simp only
    split <;> exact h.of_same PollPhase.noConfusion rfl rfl rfl
  | appInvalidating => exact h.of_same PollPhase.noConfusion rfl rfl rfl
  | freeLock => exact h.of_same PollPhase.noConfusion rfl rfl rfl
  | done => exact h

/-- `checkAppSignaling` returns `STATUS_APP_SIGNALING_INVALID_HANDLE` of an invalid handle. -/
theorem checking_iff (h : RestartHonoured s) (env : PollEnv) (hp : s.poll = .checking) :
    RestartHonoured (s.pollStep env) ↔
      (s.restartFailed = true → s.signaling.signalingClientHandle ≠ none) := by
  have hret : (s.pollStep env).poll = .returned .invalidHandle ↔
      s.signaling.signalingClientHandle = none := by
    rw [← AppSignaling.checkAppSignaling_eq_invalidHandle (r := env.check)]
    simp only [SignalingState.pollStep, hp]
    split
    · next hc => simp [hc]
    · simp
  have hrest : (s.pollStep env).restartFailed = s.restartFailed ∧
      (s.pollStep env).restartSignalingClient = s.restartSignalingClient ∧
      (s.pollStep env).requested = s.requested := by
    simp only [SignalingState.pollStep, hp]
    split <;> exact ⟨rfl, rfl, rfl⟩
  constructor
  · intro hs hf hnone
    exact hs.stays (hrest.1.trans hf) (hret.mpr hnone)
  · intro hs
    refine ⟨fun hf e => hs (hrest.1 ▸ hf) (hret.mp e), ?_, ?_⟩
    · rw [hrest.1, hrest.2.1]
      exact h.kept
    · rw [hrest.2.2, hrest.2.1]
      exact h.cleared

/-- The store takes the last request along. -/
theorem clearing_iff (hi : RestartInv s) (env : PollEnv) (hp : s.poll = .clearing) :
    RestartHonoured (s.pollStep env) ↔ s.requested = false := by
  have hrun : s.restartFailed = false := hi.running (Or.inl (hp ▸ rfl))
  have hstep : s.pollStep env = { s with restartSignalingClient := false, poll := .checking } := by
    simp only [SignalingState.pollStep, hp]
  rw [hstep]
  constructor
  · intro h
    cases hq : s.requested with
    | false => rfl
    | true => exact absurd (h.cleared hq) Bool.noConfusion
  · intro hq
    exact ⟨fun _ => PollPhase.noConfusion, fun e => absurd (hrun.symm.trans e) Bool.noConfusion,
      fun e => absurd (hq.symm.trans e) Bool.noConfusion⟩

end RestartHonoured

/-- A step keeps the requests honoured exactly where it is safe. -/
theorem restartHonoured_step [DecidableEq T] (hi : RestartInv s) (h : RestartHonoured s)
    (a : SignalingAction T) : RestartSafe s a ↔ RestartHonoured (s.step a) := by
  cases ha : a.ofSender with
  | true =>
    obtain ⟨senders, lock, hs⟩ := s.step_send ha
    rw [hs]
    refine iff_of_true ?_ ⟨h.stays, h.kept, h.cleared⟩
    cases a <;> trivial
  | false =>
    cases a with
    | poll env =>
      show _ ↔ RestartHonoured (s.pollStep env)
      by_cases h1 : s.poll = .checking
      · rw [h.checking_iff env h1]
        refine ⟨fun hs => hs.1 h1, fun hs => ⟨fun _ => hs, fun e => ?_⟩⟩
        rw [h1] at e
        cases e
      by_cases h2 : s.poll = .clearing
      · rw [RestartHonoured.clearing_iff hi env h2]
        exact ⟨fun hs => hs.2 h2, fun hs => ⟨fun e => absurd e h1, fun _ => hs⟩⟩
      · exact iff_of_true ⟨fun e => absurd e h1, fun e => absurd e h2⟩ (h.pollStep hi env h1 h2)
    | error e =>
      apply iff_of_true trivial
      simp only [SignalingState.step]
      split
      · exact ⟨h.stays, fun _ => rfl, fun _ => rfl⟩
      · exact h
    | _ => cases ha

end

/-- In a run every request is honoured exactly where every step is safe. -/
theorem restart_honoured_iff {T : Type} [DecidableEq T] (as : List (SignalingAction T)) :
    (∀ bs, bs <+: as → RestartHonoured (Run.exec SignalingState.step .start bs)) ↔
      Run.Along SignalingState.step RestartSafe .start as :=
  (Run.along_iff_prefix (I := RestartInv) (Q := RestartHonoured) (fun _ a h => h.step a)
    (fun _ a hi hq => restartHonoured_step hi hq a) RestartInv.start RestartHonoured.start as).symm

/-- Everything in an iteration succeeds. -/
def PollEnv.ok : PollEnv := ⟨false, .success, .freed, true, ⟨true, true, true⟩, .success⟩

/-- The restart fails, and `pollApp` returns. -/
theorem restart_not_retried : ¬ ∀ (as bs : List (SignalingAction Unit)), bs <+: as →
    RestartHonoured (Run.exec SignalingState.step .start bs) := by
  intro h
  exact (h _ (.error .reconnectFailed :: List.replicate 6 (.poll { PollEnv.ok with createOk := false }))
    (List.prefix_refl _)).stays rfl rfl

/-- A request that comes before the store is lost. -/
example :
    let s := Run.exec SignalingState.step (SignalingState.start : SignalingState Unit)
      (.error .reconnectFailed :: List.replicate 5 (.poll PollEnv.ok) ++
        [.error .iceConfigRefreshFailed, .poll PollEnv.ok])
    s.requested = true ∧ s.restartSignalingClient = false := ⟨rfl, rfl⟩

/-! ## Undisturbed restarts -/

/-- Every restart succeeds, and no request comes while one runs. -/
def RestartUndisturbed {T : Type} (s : SignalingState T) : SignalingAction T → Prop
  | .error e => e.restarts = true → s.poll.inRestart = false
  | .poll env =>
    (s.poll = .freeing → env.free = .freed) ∧ (s.poll = .creating → env.createOk = true)
  | _ => True

structure UndisturbedInv {T : Type} (s : SignalingState T) : Prop where
  requested : s.poll.inRestart = true → s.requested = false
  succeeded : s.restartFailed = false
  freed : s.poll ≠ .invalidating false

section
variable {T : Type} {s : SignalingState T}

theorem UndisturbedInv.goto (h : UndisturbedInv s) {s' : SignalingState T}
    (hp : s'.poll.inRestart = true → s.poll.inRestart = true) (hi : s'.poll ≠ .invalidating false)
    (hq : s'.requested = s.requested) (hf : s'.restartFailed = s.restartFailed) : UndisturbedInv s' :=
  ⟨fun e => hq.trans (h.requested (hp e)), hf.trans h.succeeded, hi⟩

theorem UndisturbedInv.pollStep (h : UndisturbedInv s) (env : PollEnv)
    (hfree : s.poll = .freeing → env.free = .freed)
    (hcreate : s.poll = .creating → env.createOk = true) : UndisturbedInv (s.pollStep env) := by
  have hleave : ∀ {s' : SignalingState T}, s'.poll.inRestart = false → s'.poll ≠ .invalidating false →
      s'.restartFailed = s.restartFailed → UndisturbedInv s' := fun hp hi hf =>
    ⟨fun e => absurd (hp.symm.trans e) Bool.noConfusion, hf.trans h.succeeded, hi⟩
  unfold SignalingState.pollStep
  cases hp : s.poll with
  | loopTest =>
    simp only
    split
    · exact hleave rfl PollPhase.noConfusion h.succeeded.symm
    split
    · exact hleave rfl PollPhase.noConfusion h.succeeded.symm
    · exact hleave rfl PollPhase.noConfusion h.succeeded.symm
  | restartTest =>
    simp only
    split
    · exact ⟨fun _ => rfl, h.succeeded, PollPhase.noConfusion⟩
    · exact hleave rfl PollPhase.noConfusion rfl
  | freeing =>
    rw [hfree hp]
    show UndisturbedInv { s with signaling := s.signaling.freeClient, poll := .invalidating true }
    exact h.goto (fun _ => hp ▸ rfl) (by simp) rfl rfl
  | invalidating ok =>
    cases ok with
    | true => exact h.goto (fun _ => hp ▸ rfl) PollPhase.noConfusion rfl rfl
    | false => exact absurd hp h.freed
  | creating =>
    rw [hcreate hp]
    exact h.goto (fun _ => hp ▸ rfl) PollPhase.noConfusion rfl rfl
  | clearing => exact hleave rfl PollPhase.noConfusion rfl
  | checking =>
    simp only
    split <;> exact hleave rfl PollPhase.noConfusion rfl
  | expiring =>
    simp only
    split <;> exact hleave rfl PollPhase.noConfusion rfl
  | returned st =>
    simp only
    split <;> exact hleave rfl PollPhase.noConfusion rfl
  | appFreeing =>
    simp only
    split <;> exact hleave rfl PollPhase.noConfusion rfl
  | appInvalidating => exact hleave rfl PollPhase.noConfusion rfl
  | freeLock => exact hleave rfl PollPhase.noConfusion rfl
  | done => exact h

theorem UndisturbedInv.step [DecidableEq T] (h : UndisturbedInv s) (a : SignalingAction T)
    (hu : RestartUndisturbed s a) : UndisturbedInv (s.step a) := by
  cases ha : a.ofSender with
  | true =>
    obtain ⟨senders, lock, hs⟩ := s.step_send ha
    rw [hs]
    exact ⟨h.requested, h.succeeded, h.freed⟩
  | false =>
    cases a with
    | error e =>
      simp only [SignalingState.step]
      split
      · next hr =>
        exact ⟨fun e => absurd ((hu hr).symm.trans e) Bool.noConfusion, h.succeeded, h.freed⟩
      · exact h
    | poll env => exact h.pollStep env hu.1 hu.2
    | _ => cases ha

end

/-- Undisturbed restarts are safe. -/
theorem restartSafe_of_undisturbed {T : Type} [DecidableEq T] {as : List (SignalingAction T)}
    (h : Run.Along SignalingState.step RestartUndisturbed .start as) :
    Run.Along SignalingState.step RestartSafe .start as := by
  have h0 : UndisturbedInv (SignalingState.start : SignalingState T) :=
    ⟨fun e => absurd e Bool.noConfusion, rfl, PollPhase.noConfusion⟩
  apply (h.along_history (I := fun _ => UndisturbedInv) h0 fun _ s a hi ha => hi.step a ha).mono
  rintro s a ⟨past, hi, ha⟩
  cases a with
  | poll env =>
    exact ⟨fun _ e => absurd (hi.succeeded.symm.trans e) Bool.noConfusion,
      fun e => hi.requested (e ▸ rfl)⟩
  | _ => trivial

/-! ## Sends -/

/-- No sender sends through a freed client, and one sends at a time. -/
structure SendsSafe {T : Type} (s : SignalingState T) : Prop where
  live : ∀ t client, s.senders t = .calling (some client) → s.signaling.clients.live client = true
  one : ∀ t u, (s.senders t).inProgress = true → (s.senders u).inProgress = true → t = u

/-- The client of the handle is freed with this step. -/
def SignalingState.frees {T : Type} (s : SignalingState T) (env : PollEnv) : Bool :=
  (s.poll == .freeing || s.poll == .appFreeing) && env.free.frees

/-- A client is freed while nobody sends through it, the handle that is read is not of a freed
client, and nobody sends when a sender gets a freed lock. -/
def SendStepSafe {T : Type} (s : SignalingState T) : SignalingAction T → Prop
  | .poll env => s.frees env = true → ∀ client, s.signaling.signalingClientHandle = some client →
    ∀ t, s.senders t ≠ .calling (some client)
  | .sendRead t => s.senders t = .locked → ∀ client, s.signaling.signalingClientHandle = some client →
    s.signaling.clients.live client = true
  | .sendLock t => s.senders t = .checked → s.lockFreed = true → ∀ u, (s.senders u).inProgress = false
  | _ => True

/-- As long as the lock is there, who is between lock and unlock owns it. -/
def SendInv {T : Type} (s : SignalingState T) : Prop :=
  s.lockFreed = false → ∀ t, (s.senders t).inProgress = true → s.lock = some t

/-- What the senders see of a step of `pollApp` or `freeApp`. -/
structure PollSeen {T : Type} (s s' : SignalingState T) (frees : Bool) : Prop where
  senders : s'.senders = s.senders
  lock : s'.lock = s.lock
  lockFreed : s'.lockFreed = false → s.lockFreed = false
  freed : frees = true → s'.signaling.clients = s.signaling.freeClient.clients
  kept : frees = false → ∀ client, s.signaling.clients.live client = true →
    s'.signaling.clients.live client = true

section
variable {T : Type} {s s' : SignalingState T}

theorem PollSeen.of_same (hs : s'.senders = s.senders) (hl : s'.lock = s.lock)
    (hf : s'.lockFreed = false → s.lockFreed = false)
    (hc : s'.signaling.clients = s.signaling.clients) : PollSeen s s' false :=
  ⟨hs, hl, hf, fun e => absurd e Bool.noConfusion, fun _ _ hlive => hc ▸ hlive⟩

theorem pollSeen (s : SignalingState T) (env : PollEnv) : PollSeen s (s.pollStep env) (s.frees env) := by
  unfold SignalingState.frees SignalingState.pollStep
  cases s.poll with
  | loopTest =>
    simp only
    split
    · exact .of_same rfl rfl id rfl
    · split <;> exact .of_same rfl rfl id rfl
  | restartTest =>
    simp only
    split <;> exact .of_same rfl rfl id rfl
  | freeing =>
    simp only
    cases env.free.frees with
    | true => exact ⟨rfl, rfl, id, fun _ => rfl, fun e => absurd e Bool.noConfusion⟩
    | false => exact .of_same rfl rfl id rfl
  | invalidating ok => cases ok <;> exact .of_same rfl rfl id rfl
  | creating =>
    simp only
    unfold AppSignaling.createSignalingClientSync
    cases env.createOk with
    | true =>
      exact ⟨rfl, rfl, id, fun e => absurd e Bool.noConfusion,
        fun _ client hlive => (Arena.live_alloc _ _ _).mpr (Or.inl hlive)⟩
    | false => exact .of_same rfl rfl id rfl
  | clearing => exact .of_same rfl rfl id rfl
  | checking =>
    simp only
    split <;> exact .of_same rfl rfl id rfl
  | expiring =>
    simp only
    split <;> exact .of_same rfl rfl id rfl
  | returned st => exact .of_same rfl rfl id rfl
  | appFreeing =>
    simp only
    cases env.free.frees with
    | true => exact ⟨rfl, rfl, id, fun _ => rfl, fun e => absurd e Bool.noConfusion⟩
    | false => exact .of_same rfl rfl id rfl
  | appInvalidating => exact .of_same rfl rfl id rfl
  | freeLock => exact .of_same rfl rfl (fun e => absurd e Bool.noConfusion) rfl
  | done => exact .of_same rfl rfl id rfl

theorem SignalingState.setSender_self [DecidableEq T] {t : T} {p : SendPhase} :
    (s.setSender t p).senders t = p :=
  Function.update_self ..

theorem SignalingState.setSender_of_ne [DecidableEq T] {t u : T} {p : SendPhase} (h : u ≠ t) :
    (s.setSender t p).senders u = s.senders u :=
  Function.update_of_ne h ..

namespace SendInv

theorem start : SendInv (SignalingState.start : SignalingState T) :=
  fun _ _ h => absurd h Bool.noConfusion

/-- The sender `t` goes on, under the lock as before. -/
theorem goOn [DecidableEq T] (h : SendInv s) {t : T} {p : SendPhase}
    (hp : p.inProgress = true → (s.senders t).inProgress = true) : SendInv (s.setSender t p) := by
  intro hl u hu
  by_cases hut : u = t
  · rw [hut, SignalingState.setSender_self] at hu
    exact h hl u (hut ▸ hp hu)
  · rw [SignalingState.setSender_of_ne hut] at hu
    exact h hl u hu

theorem step [DecidableEq T] (h : SendInv s) (a : SignalingAction T) : SendInv (s.step a) := by
  cases a with
  | error e =>
    simp only [SignalingState.step]
    split
    · exact h
    · exact h
  | poll env =>
    have hseen := pollSeen s env
    intro hl t ht
    rw [show s.step (.poll env) = s.pollStep env from rfl] at hl ht ⊢
    rw [hseen.senders] at ht
    exact hseen.lock.trans (h (hseen.lockFreed hl) t ht)
  | sendCheck t =>
    simp only [SignalingState.step]
    split
    · exact h.goOn fun e => absurd e Bool.noConfusion
    · exact h
  | sendLock t =>
    simp only [SignalingState.step]
    split
    · next hin =>
      intro hl u hu
      by_cases hut : u = t
      · exact congrArg some hut.symm
      · -- nobody else is in, since the lock was free
        have hold : (s.senders u).inProgress = true :=
          (congrArg SendPhase.inProgress (SignalingState.setSender_of_ne hut)).symm.trans hu
        have hfree : s.lockFreed = false := hl
        have hnone := hin.2.resolve_right fun e => absurd (hfree.symm.trans e) Bool.noConfusion
        exact absurd ((h hfree u hold).symm.trans hnone) (Option.some_ne_none u)
    · exact h
  | sendRead t =>
    simp only [SignalingState.step]
    split
    · next hin => exact h.goOn fun _ => hin ▸ rfl
    · exact h
  | sendReturn t =>
    simp only [SignalingState.step]
    split
    · next hin => exact h.goOn fun _ => hin ▸ rfl
    · exact h
  | sendUnlock t =>
    simp only [SignalingState.step]
    split
    · next hin =>
      intro hl u hu
      by_cases hut : u = t
      · have hidle : (s.setSender t .idle).senders u = .idle := hut ▸ SignalingState.setSender_self
        exact absurd ((congrArg SendPhase.inProgress hidle).symm.trans hu) Bool.noConfusion
      · have hold : (s.senders u).inProgress = true :=
          (congrArg SendPhase.inProgress (SignalingState.setSender_of_ne hut)).symm.trans hu
        have hlock := (h hl u hold).symm.trans (h hl t (hin ▸ rfl))
        exact absurd (Option.some.inj hlock) hut
    · exact h

end SendInv

namespace SendsSafe

theorem start : SendsSafe (SignalingState.start : SignalingState T) :=
  ⟨fun _ _ h => absurd h SendPhase.noConfusion, fun _ _ h => absurd h Bool.noConfusion⟩

/-- The sender `t` goes on, and is in no more than it was. -/
theorem goOn [DecidableEq T] (h : SendsSafe s) {t : T} {p : SendPhase}
    (hp : p.inProgress = true → (s.senders t).inProgress = true)
    (hc : ∀ client, p = .calling (some client) → s.signaling.clients.live client = true) :
    SendsSafe (s.setSender t p) := by
  have hin : ∀ {u}, ((s.setSender t p).senders u).inProgress = true →
      (s.senders u).inProgress = true := by
    intro u hu
    by_cases hut : u = t
    · rw [hut, SignalingState.setSender_self] at hu
      exact hut ▸ hp hu
    · rwa [SignalingState.setSender_of_ne hut] at hu
  refine ⟨fun u client hu => ?_, fun u v hu hv => h.one u v (hin hu) (hin hv)⟩
  by_cases hut : u = t
  · rw [hut, SignalingState.setSender_self] at hu
    exact hc client hu
  · rw [SignalingState.setSender_of_ne hut] at hu
    exact h.live u client hu

theorem pollStep_iff [DecidableEq T] (h : SendsSafe s) (env : PollEnv) :
    SendStepSafe s (.poll env) ↔ SendsSafe (s.pollStep env) := by
  have hseen := pollSeen s env
  have hone : ∀ t u, ((s.pollStep env).senders t).inProgress = true →
      ((s.pollStep env).senders u).inProgress = true → t = u := by
    rw [hseen.senders]
    exact h.one
  cases hf : s.frees env with
  | false =>
    refine iff_of_true (fun e => absurd (hf.symm.trans e) Bool.noConfusion) ⟨fun t client ht => ?_, hone⟩
    rw [hseen.senders] at ht
    exact hseen.kept hf client (h.live t client ht)
  | true =>
    have hclients := hseen.freed hf
    unfold AppSignaling.freeClient at hclients
    constructor
    · intro hs
      refine ⟨fun t client ht => ?_, hone⟩
      rw [hseen.senders] at ht
      rw [hclients]
      have hlive := h.live t client ht
      cases hh : s.signaling.signalingClientHandle with
      | none => exact hlive
      | some k =>
        refine (Arena.live_free _ _ _).mpr ⟨hlive, fun hk => hs hf k hh t ?_⟩
        rw [ht, hk]
    · intro hs _ client hh t ht
      rw [hh] at hclients
      have hlive := hs.live t client (hseen.senders ▸ ht)
      rw [hclients] at hlive
      exact ((Arena.live_free _ _ _).mp hlive).2 rfl

theorem sendLock_iff [DecidableEq T] (h : SendsSafe s) (hi : SendInv s) (t : T) :
    SendStepSafe s (.sendLock t) ↔ SendsSafe (s.step (.sendLock t)) := by
  by_cases hin : s.senders t = .checked ∧ (s.lock = none ∨ s.lockFreed = true)
  swap
  · rw [show s.step (.sendLock t) = s from if_neg hin]
    exact iff_of_true (fun hc hfreed => absurd ⟨hc, Or.inr hfreed⟩ hin) h
  have hstep : s.step (.sendLock t) = { s.setSender t .locked with lock := some t } := if_pos hin
  have hself : (s.senders t).inProgress = false := hin.1 ▸ rfl
  have hafter : SendsSafe { s.setSender t .locked with lock := some t } ↔
      ∀ u, (s.senders u).inProgress = false := by
    constructor
    · intro hs u
      by_cases hut : u = t
      · exact hut ▸ hself
      · cases hu : (s.senders u).inProgress with
        | false => rfl
        | true =>
          have hold : ((s.setSender t .locked).senders u).inProgress = true :=
            (congrArg SendPhase.inProgress (SignalingState.setSender_of_ne hut)).trans hu
          have hnew : ((s.setSender t .locked).senders t).inProgress = true :=
            congrArg SendPhase.inProgress SignalingState.setSender_self
          exact absurd (hs.one u t hold hnew) hut
    · intro hnone
      have honly : ∀ {u}, ((s.setSender t .locked).senders u).inProgress = true → u = t := by
        intro u hu
        by_contra hut
        have hold := (congrArg SendPhase.inProgress (SignalingState.setSender_of_ne hut)).symm.trans hu
        exact absurd (hold.symm.trans (hnone u)) Bool.noConfusion
      refine ⟨fun u client hu => ?_, fun u v hu hv => (honly hu).trans (honly hv).symm⟩
      by_cases hut : u = t
      · have hself : (s.setSender t .locked).senders u = .locked := hut ▸ SignalingState.setSender_self
        exact absurd (hself.symm.trans hu) SendPhase.noConfusion
      · exact h.live u client ((SignalingState.setSender_of_ne hut).symm.trans hu)
  rw [hstep, hafter]
  refine ⟨fun hs u => ?_, fun hs _ _ => hs⟩
  cases hfreed : s.lockFreed with
  | true => exact hs hin.1 hfreed u
  | false =>
    -- the lock is there and nobody owns it
    have hnone := hin.2.resolve_right fun e => absurd (hfreed.symm.trans e) Bool.noConfusion
    cases hu : (s.senders u).inProgress with
    | false => rfl
    | true => exact absurd ((hi hfreed u hu).symm.trans hnone) (Option.some_ne_none u)

theorem sendRead_iff [DecidableEq T] (h : SendsSafe s) (t : T) :
    SendStepSafe s (.sendRead t) ↔ SendsSafe (s.step (.sendRead t)) := by
  by_cases hin : s.senders t = .locked
  swap
  · rw [show s.step (.sendRead t) = s from if_neg hin]
    exact iff_of_true (fun e => absurd e hin) h
  rw [show s.step (.sendRead t) = s.setSender t (.calling s.signaling.signalingClientHandle) from
    if_pos hin]
  constructor
  · intro hs
    exact h.goOn (fun _ => hin ▸ rfl) fun client e => hs hin client (SendPhase.calling.inj e)
  · intro hs _ client hh
    apply hs.live t client
    rw [SignalingState.setSender_self, hh]

/-- A step keeps the sends safe exactly where it is safe. -/
theorem step_iff [DecidableEq T] (hi : SendInv s) (h : SendsSafe s) (a : SignalingAction T) :
    SendStepSafe s a ↔ SendsSafe (s.step a) := by
  cases a with
  | error e =>
    apply iff_of_true trivial
    simp only [SignalingState.step]
    split <;> exact ⟨h.live, h.one⟩
  | poll env => exact h.pollStep_iff env
  | sendCheck t =>
    apply iff_of_true trivial
    simp only [SignalingState.step]
    split
    · exact h.goOn (fun e => absurd e Bool.noConfusion) fun _ e => absurd e SendPhase.noConfusion
    · exact h
  | sendLock t => exact h.sendLock_iff hi t
  | sendRead t => exact h.sendRead_iff t
  | sendReturn t =>
    apply iff_of_true trivial
    simp only [SignalingState.step]
    split
    · next hin => exact h.goOn (fun _ => hin ▸ rfl) fun _ e => absurd e SendPhase.noConfusion
    · exact h
  | sendUnlock t =>
    apply iff_of_true trivial
    simp only [SignalingState.step]
    split
    · have hout : SendsSafe (s.setSender t .idle) :=
        h.goOn (fun e => absurd e Bool.noConfusion) fun _ e => absurd e SendPhase.noConfusion
      exact ⟨hout.live, hout.one⟩
    · exact h

end SendsSafe

end

/-- In a run the sends are safe exactly where every step is. -/
theorem sends_safe_iff {T : Type} [DecidableEq T] (as : List (SignalingAction T)) :
    (∀ bs, bs <+: as → SendsSafe (Run.exec SignalingState.step .start bs)) ↔
      Run.Along SignalingState.step SendStepSafe .start as :=
  (Run.along_iff_prefix (I := SendInv) (Q := SendsSafe) (fun _ a h => h.step a)
    (fun _ a hi hq => hq.step_iff hi a) SendInv.start SendsSafe.start as).symm

/-- The restart frees the client that `t` sends through. -/
theorem freed_while_sending : ¬ ∀ (as bs : List (SignalingAction Unit)), bs <+: as →
    SendsSafe (Run.exec SignalingState.step .start bs) := by
  intro h
  have hlive := (h _ [.sendCheck (), .sendLock (), .sendRead (), .error .reconnectFailed,
    .poll PollEnv.ok, .poll PollEnv.ok, .poll PollEnv.ok] (List.prefix_refl _)).live () 0 rfl
  exact absurd hlive (by decide)

end WebrtcApp
