import WebrtcApp.App.Types

/-!
# The signaling client (`AppSignaling.c`)

`AppSignaling` has the handle of the signaling client and the clients that were created, as an
arena: a freed client is a cell that is no longer live.  What the SDK's calls return is the
environment's.  A call of `freeSignalingClient` that fails may or may not have freed the client, and
a client it freed has its handle invalidated; a failed `createSignalingClientSync` leaves the handle
invalid.
-/

namespace WebrtcApp

abbrev SignalingClientHandle := Nat

/-- `STATUS_APP_SIGNALING_BASE + code`. -/
def statusAppSignaling (code : UInt32) : Status := .sdk (0x74000000 + code)

/-- The status codes of `AppSignaling.c`, and those of the rest of `pollApp`. -/
inductive AppSignalingStatus
  | success
  | invalidHandle
  | notReady
  | connect
  | restart
  | free
  | app (st : Status)
  deriving DecidableEq

/-- `INVALID_SIGNALING_CLIENT_HANDLE_VALUE` is `none`. -/
structure AppSignaling where
  signalingClientHandle : Option SignalingClientHandle
  clients : Arena Unit
  deriving DecidableEq

/-- What `freeSignalingClient` does with a client: frees it, frees it and fails, or fails. -/
inductive FreeResult
  | freed
  | freedFailed
  | failed
  deriving DecidableEq

def FreeResult.ok : FreeResult → Bool
  | .freed => true
  | .freedFailed | .failed => false

def FreeResult.frees : FreeResult → Bool
  | .freed | .freedFailed => true
  | .failed => false

/-- What the SDK's calls in `checkAppSignaling` return. -/
structure CheckResult where
  stateOk : Bool
  ready : Bool
  connectOk : Bool

namespace AppSignaling

/-- After `connectAppSignaling`. -/
def connected : AppSignaling := ⟨some 0, Arena.empty.alloc ()⟩

/-- The client of the handle is freed. -/
def freeClient (s : AppSignaling) : AppSignaling :=
  match s.signalingClientHandle with
  | some client => { s with clients := s.clients.free client }
  | none => s

def freeSignalingClient (r : FreeResult) (s : AppSignaling) : Bool × AppSignaling :=
  (r.ok, if r.frees then { s.freeClient with signalingClientHandle := none } else s)

def createSignalingClientSync (ok : Bool) (s : AppSignaling) : Bool × AppSignaling :=
  if ok then
    (true, { signalingClientHandle := some s.clients.next, clients := s.clients.alloc () })
  else (false, { s with signalingClientHandle := none })

def restartAppSignaling (r : FreeResult) (createOk : Bool) (s : AppSignaling) :
    AppSignalingStatus × AppSignaling :=
  match s.freeSignalingClient r with
  | (false, s) => (.restart, s)
  | (true, s) =>
    match s.createSignalingClientSync createOk with
    | (false, s) => (.restart, s)
    | (true, s) => (.success, s)

def checkAppSignaling (r : CheckResult) (s : AppSignaling) : AppSignalingStatus :=
  match s.signalingClientHandle with
  | none => .invalidHandle
  | some _ =>
    if !r.stateOk then .notReady
    else if r.ready && !r.connectOk then .connect
    else .success

/-- Up to the `MUTEX_FREE` of `signalingSendMessageLock`. -/
def freeAppSignaling (r : FreeResult) (s : AppSignaling) : AppSignalingStatus × AppSignaling :=
  match s.signalingClientHandle with
  | none => (.success, s)
  | some _ =>
    match s.freeSignalingClient r with
    | (ok, s) => (if ok then .success else .free, s)

theorem checkAppSignaling_eq_invalidHandle {r : CheckResult} {s : AppSignaling} :
    s.checkAppSignaling r = .invalidHandle ↔ s.signalingClientHandle = none := by
  unfold checkAppSignaling
  cases s.signalingClientHandle with
  | none => exact iff_of_true rfl rfl
  | some client =>
    refine iff_of_false ?_ (Option.some_ne_none _)
    simp only
    split_ifs <;> simp

end AppSignaling

/-- The errors of the signaling client that `onSignalingClientError` tells apart. -/
inductive SignalingClientError
  | iceConfigRefreshFailed
  | reconnectFailed
  | other (n : UInt32)
  deriving DecidableEq

/-- The errors on which `onSignalingClientError` sets `restartSignalingClient`. -/
def SignalingClientError.restarts : SignalingClientError → Bool
  | .iceConfigRefreshFailed | .reconnectFailed => true
  | .other _ => false

end WebrtcApp
