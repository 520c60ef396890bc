import WebrtcApp.App.AppSignaling
import WebrtcApp.Lib.Run

/-!
# How a signaling client is brought up

`connectAppSignaling` creates, fetches and connects the client.  `restartAppSignaling` creates one,
and leaves the rest to the `checkAppSignaling` of the poll loop, which connects a client in the state
READY and fetches none.  A client is READY only once it was fetched.

    exec_check_connects     checkAppSignaling connects fetched clients only
    exec_check_restarted    and leaves a restarted client as it was created
    brought_up_iff          so a restarted client is brought up like a first one only where no
                            checkAppSignaling follows
-/

namespace WebrtcApp

/-! ## The client -/

inductive SignalingClientState
  | new
  | ready
  | connected
  | other (n : Nat)
  deriving DecidableEq

inductive ClientStep
  | create
  | fetch
  | connect
  deriving DecidableEq

/-- `steps` are the calls that succeeded on the client. -/
structure SignalingClient where
  state : SignalingClientState
  steps : List ClientStep
  created : .create ∈ steps
  fetched : state = .ready → [.create, .fetch].Sublist steps
  deriving DecidableEq

namespace SignalingClient

/-- What `createSignalingClientSync` makes. -/
def fresh : SignalingClient := ⟨.new, [.create], List.mem_cons_self, nofun⟩

def fetch (c : SignalingClient) : SignalingClient where
  state := .ready
  steps := c.steps ++ [.fetch]
  created := List.mem_append_left _ c.created
  fetched _ := (List.singleton_sublist.mpr c.created).append (List.Sublist.refl [ClientStep.fetch])

def connect (c : SignalingClient) : SignalingClient :=
  if c.state = .ready then
    ⟨.connected, c.steps ++ [.connect], List.mem_append_left _ c.created, nofun⟩
  else c

/-- The SDK moves the client on its own, to any state but NEW, READY and CONNECTED. -/
def moved (n : Nat) (c : SignalingClient) : SignalingClient :=
  ⟨.other n, c.steps, c.created, nofun⟩

end SignalingClient

/-! ## The code -/

/-- `client` has the SDK's objects, and `connects` the client of each call of
`signalingClientConnectSync`, as it was at the call. -/
structure ClientSignaling extends AppSignaling where
  client : SignalingClientHandle → SignalingClient
  connects : List SignalingClient

/-- What the SDK's calls in `connectAppSignaling` return. -/
structure ConnectResult where
  createOk : Bool
  fetch : Status
  connectOk : Bool

/-- What the SDK's calls in `checkAppSignaling` return, and how the client moved before. -/
structure CheckEnv where
  moved : Option Nat
  stateOk : Bool
  connectOk : Bool

def statusAppSignalingCreate : Status := statusAppSignaling 0x08

namespace ClientSignaling

/-- The client of the handle. -/
def current (s : ClientSignaling) : Option SignalingClient := s.signalingClientHandle.map s.client

def modifyCurrent (f : SignalingClient → SignalingClient) (s : ClientSignaling) : ClientSignaling :=
  match s.signalingClientHandle with
  | some p => { s with client := Function.update s.client p (f (s.client p)) }
  | none => s

def createSignalingClientSync (ok : Bool) (s : ClientSignaling) : Bool × ClientSignaling :=
  match s.toAppSignaling.createSignalingClientSync ok with
  | (true, a) =>
    (true, { s with toAppSignaling := a, client := Function.update s.client s.clients.next .fresh })
  | (false, a) => (false, { s with toAppSignaling := a })

def freeSignalingClient (r : FreeResult) (s : ClientSignaling) : Bool × ClientSignaling :=
  match s.toAppSignaling.freeSignalingClient r with
  | (ok, a) => (ok, { s with toAppSignaling := a })

def signalingClientFetchSync (st : Status) (s : ClientSignaling) : Status × ClientSignaling :=
  (st, if st = .success then s.modifyCurrent .fetch else s)

def signalingClientConnectSync (ok : Bool) (s : ClientSignaling) : Bool × ClientSignaling :=
  let s := { s with connects := s.connects ++ s.current.toList }
  (ok, if ok then s.modifyCurrent .connect else s)

def connectAppSignaling (r : ConnectResult) (s : ClientSignaling) :
    AppSignalingStatus × ClientSignaling :=
  match s.createSignalingClientSync r.createOk with
  | (false, s) => (.app statusAppSignalingCreate, s)
  | (true, s) =>
    match s.signalingClientFetchSync r.fetch with
    | (.success, s) =>
      match s.signalingClientConnectSync r.connectOk with
      | (false, s) => (.connect, s)
      | (true, s) => (.success, s)
    | (st, s) => (.app st, s)

def restartAppSignaling (r : FreeResult) (createOk : Bool) (s : ClientSignaling) :
    AppSignalingStatus × ClientSignaling :=
  match s.freeSignalingClient r with
  | (false, s) => (.restart, s)
  | (true, s) =>
    match s.createSignalingClientSync createOk with
    | (false, s) => (.restart, s)
    | (true, s) => (.success, s)

def checkAppSignaling (env : CheckEnv) (s : ClientSignaling) :
    AppSignalingStatus × ClientSignaling :=
  match s.current with
  | none => (.invalidHandle, s)
  | some c =>
    if !env.stateOk then (.notReady, s)
    else if c.state = .ready then
      match s.signalingClientConnectSync env.connectOk with
      | (false, s) => (.connect, s)
      | (true, s) => (.success, s)
    else (.success, s)

/-- What the SDK does with the client before the call. -/
def move (env : CheckEnv) (s : ClientSignaling) : ClientSignaling :=
  match env.moved with
  | some n => s.modifyCurrent (.moved n)
  | none => s

/-- An iteration of `pollApp`, as far as the client goes. -/
def check (s : ClientSignaling) (env : CheckEnv) : ClientSignaling :=
  ((s.move env).checkAppSignaling env).2

def CheckSucceeds (s : ClientSignaling) (env : CheckEnv) : Prop :=
  ((s.move env).checkAppSignaling env).1 = .success

/-- A restart, and the checks that follow it. -/
def restartAndCheck (r : FreeResult) (createOk : Bool) (checks : List CheckEnv)
    (s : ClientSignaling) : ClientSignaling :=
  Run.exec check (s.restartAppSignaling r createOk).2 checks

/-- From `s` to `s'` each call of `signalingClientConnectSync` was on a client that was created and then
fetched. -/
def ConnectsFetched (s s' : ClientSignaling) : Prop :=
  ∃ made, s'.connects = s.connects ++ made ∧ ∀ c ∈ made, [.create, .fetch].Sublist c.steps

end ClientSignaling

/-- Only fetched clients are connected, and a restarted client that was checked has gone through the steps of a first one. -/
structure BroughtUp (r : FreeResult) (createOk : Bool) (checks : List CheckEnv)
    (s : ClientSignaling) : Prop where
  connects : s.ConnectsFetched (s.restartAndCheck r createOk checks)
  asFirst : (s.restartAppSignaling r createOk).1 = .success → checks ≠ [] →
    ∀ first t, (ClientSignaling.connectAppSignaling first t).1 = .success →
      (s.restartAndCheck r createOk checks).current.map SignalingClient.steps =
        (ClientSignaling.connectAppSignaling first t).2.current.map SignalingClient.steps

/-! ## What the calls do -/

namespace ClientSignaling

variable (s : ClientSignaling)

@[simp] theorem modifyCurrent_toAppSignaling (f : SignalingClient → SignalingClient) :
    (s.modifyCurrent f).toAppSignaling = s.toAppSignaling := by
  unfold modifyCurrent
  split <;> rfl

@[simp] theorem modifyCurrent_connects (f : SignalingClient → SignalingClient) :
    (s.modifyCurrent f).connects = s.connects := by
  unfold modifyCurrent
  split <;> rfl

@[simp] theorem current_modifyCurrent (f : SignalingClient → SignalingClient) :
    (s.modifyCurrent f).current = s.current.map f := by
  unfold modifyCurrent current
  cases hh : s.signalingClientHandle with
  | none => simp [hh]
  | some p => simp [hh]

/-- The handle and the lifetimes of the clients are those of the model without the client's state. -/
theorem restartAppSignaling_toAppSignaling (r : FreeResult) (createOk : Bool) :
    ((s.restartAppSignaling r createOk).1, (s.restartAppSignaling r createOk).2.toAppSignaling) =
      s.toAppSignaling.restartAppSignaling r createOk := by
  unfold restartAppSignaling AppSignaling.restartAppSignaling freeSignalingClient
    AppSignaling.freeSignalingClient createSignalingClientSync AppSignaling.createSignalingClientSync
  cases r <;> cases createOk <;> rfl

theorem checkAppSignaling_toAppSignaling (env : CheckEnv) :
    (s.checkAppSignaling env).1 = s.toAppSignaling.checkAppSignaling
        ⟨env.stateOk, s.current.any fun c => c.state = .ready, env.connectOk⟩ ∧
      (s.checkAppSignaling env).2.toAppSignaling = s.toAppSignaling := by
  unfold checkAppSignaling AppSignaling.checkAppSignaling signalingClientConnectSync current
  cases s.signalingClientHandle with
  | none => exact ⟨rfl, rfl⟩
  | some p =>
    cases hs : env.stateOk with
    | false => exact ⟨rfl, rfl⟩
    | true =>
      by_cases hr : (s.client p).state = .ready
      · cases hc : env.connectOk <;> simp [hr]
      · simp [hr]

@[simp] theorem restartAppSignaling_connects (r : FreeResult) (createOk : Bool) :
    (s.restartAppSignaling r createOk).2.connects = s.connects := by
  unfold restartAppSignaling freeSignalingClient createSignalingClientSync
    AppSignaling.freeSignalingClient AppSignaling.createSignalingClientSync
  cases r <;> cases createOk <;> rfl

/-- A restart succeeds where the old client is freed and a new one is created. -/
theorem restartAppSignaling_success_iff {r : FreeResult} {createOk : Bool} :
    (s.restartAppSignaling r createOk).1 = .success ↔ r = .freed ∧ createOk = true := by
  have hst : (s.restartAppSignaling r createOk).1 =
      if r = .freed ∧ createOk = true then .success else .restart := by
    unfold restartAppSignaling freeSignalingClient createSignalingClientSync
      AppSignaling.freeSignalingClient AppSignaling.createSignalingClientSync
    cases r <;> cases createOk <;> rfl
  rw [hst]
  split <;> simp_all

/-- A restarted client has been created, and that is all. -/
theorem current_restartAppSignaling {r : FreeResult} {createOk : Bool}
    (h : (s.restartAppSignaling r createOk).1 = .success) :
    (s.restartAppSignaling r createOk).2.current = some .fresh := by
  unfold restartAppSignaling freeSignalingClient createSignalingClientSync
    AppSignaling.freeSignalingClient AppSignaling.createSignalingClientSync at h ⊢
  cases r with
  | freed =>
    cases createOk with
    | true => exact congrArg some (Function.update_self ..)
    | false => cases h
  | freedFailed => cases h
  | failed => cases h

theorem current_signalingClientFetchSync :
    (s.signalingClientFetchSync .success).2.current = s.current.map .fetch :=
  s.current_modifyCurrent .fetch

theorem current_signalingClientConnectSync :
    (s.signalingClientConnectSync true).2.current = s.current.map .connect :=
  current_modifyCurrent { s with connects := s.connects ++ s.current.toList } .connect

/-- A connected client went through the three steps. -/
theorem current_connectAppSignaling {r : ConnectResult}
    (h : (s.connectAppSignaling r).1 = .success) :
    (s.connectAppSignaling r).2.current.map SignalingClient.steps =
      some [.create, .fetch, .connect] := by
  obtain ⟨createOk, fetch, connectOk⟩ := r
  cases createOk with
  | false => cases h
  | true =>
    cases fetch with
    | success =>
      cases connectOk with
      | false => cases h
      | true =>
        have hc : (s.createSignalingClientSync true).2.current = some .fresh :=
          congrArg some (Function.update_self ..)
        show ((((s.createSignalingClientSync true).2.signalingClientFetchSync .success).2
          |>.signalingClientConnectSync true).2.current.map _) = _
        rw [current_signalingClientConnectSync, current_signalingClientFetchSync, hc]
        rfl
    | _ => cases h

/-! ## What the checks do -/

theorem checkAppSignaling_connects (env : CheckEnv) :
    ∃ made, (s.checkAppSignaling env).2.connects = s.connects ++ made ∧
      ∀ c ∈ made, c.state = .ready := by
  unfold checkAppSignaling
  cases hc : s.current with
  | none => exact ⟨[], (List.append_nil _).symm, nofun⟩
  | some c =>
    by_cases hs : env.stateOk = true
    · by_cases hr : c.state = .ready
      · refine ⟨[c], ?_, by simp [hr]⟩
        cases env.connectOk <;> simp [signalingClientConnectSync, hs, hr, hc]
      · exact ⟨[], by simp [hs, hr], nofun⟩
    · exact ⟨[], by simp [hs], nofun⟩

theorem ConnectsFetched.check {s s' : ClientSignaling} (h : ConnectsFetched s s') (env : CheckEnv) :
    ConnectsFetched s (s'.check env) := by
  obtain ⟨made, hmade, hf⟩ := h
  obtain ⟨now, hnow, hr⟩ := checkAppSignaling_connects (s'.move env) env
  have hmove : (s'.move env).connects = s'.connects := by
    unfold move
    split <;> simp
  refine ⟨made ++ now, ?_, ?_⟩
  · rw [ClientSignaling.check, hnow, hmove, hmade, List.append_assoc]
  · intro c hc
    rcases List.mem_append.mp hc with hc | hc
    · exact hf c hc
    · exact c.fetched (hr c hc)

/-- `checkAppSignaling` connects fetched clients only. -/
theorem exec_check_connects (checks : List CheckEnv) :
    ConnectsFetched s (Run.exec check s checks) := by
  have hstart : ConnectsFetched s s := ⟨[], (List.append_nil _).symm, nofun⟩
  exact Run.exec_invariant (I := ConnectsFetched s) (fun s' env h => h.check env) hstart checks

/-- A client that was created and not fetched. -/
def Unfetched (s : ClientSignaling) : Prop :=
  ∃ c, s.current = some c ∧ c.state ≠ .ready ∧ c.steps = [.create]

theorem Unfetched.move {s : ClientSignaling} (h : s.Unfetched) (env : CheckEnv) :
    (s.move env).Unfetched := by
  obtain ⟨c, hc, hr, hs⟩ := h
  unfold ClientSignaling.move
  cases env.moved with
  | none => exact ⟨c, hc, hr, hs⟩
  | some n => exact ⟨c.moved n, by simp [hc], nofun, hs⟩

theorem Unfetched.check {s : ClientSignaling} (h : s.Unfetched) (env : CheckEnv) :
    (s.check env).Unfetched := by
  obtain ⟨c, hc, hr, hs⟩ := h.move env
  have heq : s.check env = s.move env := by
    unfold ClientSignaling.check checkAppSignaling
    cases hok : env.stateOk <;> simp [hc, hr]
  rw [heq]
  exact ⟨c, hc, hr, hs⟩

/-- The checks leave a restarted client unfetched. -/
theorem exec_check_restarted {r : FreeResult} {createOk : Bool}
    (h : (s.restartAppSignaling r createOk).1 = .success) (checks : List CheckEnv) :
    (s.restartAndCheck r createOk checks).current.map SignalingClient.steps = some [.create] := by
  have hstart : (s.restartAppSignaling r createOk).2.Unfetched :=
    ⟨.fresh, s.current_restartAppSignaling h, nofun, rfl⟩
  obtain ⟨c, hc, -, hs⟩ := Run.exec_invariant (I := Unfetched) (fun s' env hs' => hs'.check env)
    hstart checks
  rw [restartAndCheck, hc, Option.map_some, hs]

end ClientSignaling

/-! ## Restarted and first clients -/

/-- A restarted client that is checked is not brought up. -/
theorem not_broughtUp {s : ClientSignaling} {r : FreeResult} {createOk : Bool}
    {checks : List CheckEnv} (hok : (s.restartAppSignaling r createOk).1 = .success)
    (hne : checks ≠ []) : ¬ BroughtUp r createOk checks s := by
  intro h
  let first : ConnectResult := ⟨true, .success, true⟩
  have hfirst : (s.connectAppSignaling first).1 = .success := rfl
  have hsteps := h.asFirst hok hne first s hfirst
  rw [s.exec_check_restarted hok, s.current_connectAppSignaling hfirst] at hsteps
  cases hsteps

/-- A restarted client is brought up like a first one exactly where the old one is not freed, no new
one is created, or nothing checks it. -/
theorem brought_up_iff (s : ClientSignaling) (r : FreeResult) (createOk : Bool)
    (checks : List CheckEnv)
    (_ : Run.Along ClientSignaling.check ClientSignaling.CheckSucceeds
      (s.restartAppSignaling r createOk).2 checks) :
    BroughtUp r createOk checks s ↔ r ≠ .freed ∨ createOk = false ∨ checks = [] := by
  constructor
  · intro h
    by_contra hnot
    obtain ⟨hfreed, hnot⟩ := not_or.mp hnot
    obtain ⟨hcreated, hne⟩ := not_or.mp hnot
    have hok : (s.restartAppSignaling r createOk).1 = .success :=
      s.restartAppSignaling_success_iff.mpr ⟨not_not.mp hfreed, Bool.not_eq_false _ ▸ hcreated⟩
    exact not_broughtUp hok hne h
  · intro h
    constructor
    · have hmade := ClientSignaling.exec_check_connects (s.restartAppSignaling r createOk).2 checks
      unfold ClientSignaling.ConnectsFetched at hmade
      rwa [s.restartAppSignaling_connects] at hmade
    · intro hok hne
      obtain ⟨hfreed, hcreated⟩ := s.restartAppSignaling_success_iff.mp hok
      rcases h with h | h | h
      · exact absurd hfreed h
      · rw [hcreated] at h
        cases h
      · exact absurd h hne

/-- The client of `connectAppSignaling`, fetched and not connected yet. -/
def ClientSignaling.fetchedClient : ClientSignaling :=
  ⟨.connected, fun _ => SignalingClient.fresh.fetch, []⟩

/-- The free fails, and the check connects the client that is still there. -/
theorem brought_up_after_failed_free :
    BroughtUp .failed true [⟨none, true, true⟩] ClientSignaling.fetchedClient :=
  (brought_up_iff ClientSignaling.fetchedClient .failed true [⟨none, true, true⟩]
    ⟨rfl, trivial⟩).mpr (Or.inl nofun)

/-- The check succeeds, and the client that the restart made has been neither fetched nor
connected. -/
theorem restarted_client_never_fetched :
    Run.Along ClientSignaling.check ClientSignaling.CheckSucceeds
        (ClientSignaling.fetchedClient.restartAppSignaling .freed true).2 [⟨none, true, true⟩] ∧
      ¬ BroughtUp .freed true [⟨none, true, true⟩] ClientSignaling.fetchedClient :=
  ⟨⟨rfl, trivial⟩, not_broughtUp rfl (List.cons_ne_nil _ _)⟩

end WebrtcApp
