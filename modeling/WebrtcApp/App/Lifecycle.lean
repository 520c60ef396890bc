import WebrtcApp.Lib.Construction
import WebrtcApp.Lib.Run

/-!
# `initApp` and `freeApp` (`AppCommon.c`, `AppCredential.c`, `AppRtspSrc.c`)

What the application acquires when it starts, and what gives it back.  A `Field` is a pointer or
a handle of `AppConfiguration`, of its credential, its signaling, its message store or its media
context; the resources behind them are the cells of one arena, so that a leak or a double release
is a fact about the arena.

    initApp       the stages of initSteps, up to the first failure; then freeApp
    freeApp       freeAppSignaling, freeConnectionMsgQ, the hash table, the media source,
                  the locks, the timer queue, destroyCredential, the file logger
    sigIntHandler reads gAppConfiguration, whenever a signal comes

The sessions that `freeApp` frees are the subject of `Runs/Teardown`; here no session matters.
-/

namespace WebrtcApp.Lifecycle

inductive AppStatus
  | success
  | appCommonNullArg
  | appCommonChannelName
  | appCommonNotEnoughMemory
  | appCommonInvalidMutex
  | appCommonTimer
  | appCredentialAllocateStatic
  | appCredentialAllocateIot
  | appCredentialAllocateEcs
  | appCredentialAllocateNa
  | appCredentialInvalidMutex
  | appCredentialPregeneratedCertQueue
  | appCredentialDestroyStatic
  | appCredentialDestroyIot
  | appCredentialDestroyEcs
  | appCredentialDestroyNa
  | appSignalingInvalidMutex
  | appMsgqNotEnoughMemory
  | appMsgqCreateConnMsq
  | mediaNotEnoughMemory
  | mediaInvalidMutex
  | appWebrtcInit
  | sdk (code : UInt32)
  deriving DecidableEq

inductive AppCredentialType
  | na
  | static
  | iotCert
  | ecs
  deriving DecidableEq

def AppCredentialType.allocateStatus : AppCredentialType → AppStatus
  | .na => .appCredentialAllocateNa
  | .static => .appCredentialAllocateStatic
  | .iotCert => .appCredentialAllocateIot
  | .ecs => .appCredentialAllocateEcs

def AppCredentialType.destroyStatus : AppCredentialType → AppStatus
  | .na => .appCredentialDestroyNa
  | .static => .appCredentialDestroyStatic
  | .iotCert => .appCredentialDestroyIot
  | .ecs => .appCredentialDestroyEcs

/-- The calls of `initApp` and `freeApp` whose outcome is open.  `linkMeidaSinkHook` and
`linkMeidaEosHook` are those of whichever media source is linked in. -/
inductive InitCall
  | getChannel
  | appCalloc
  | createFileLogger
  | searchSslCert
  | createCredentialProvider
  | generateCertLock
  | certQueueCreate
  | freeCredentialProvider
  | appConfigurationObjLock
  | cvarCreate
  | streamingSessionListReadLock
  | appTimerQueueCreate
  | signalingSendMessageLock
  | msgQCalloc
  | msgQQueueCreate
  | appHashTableCreate
  | mediaCalloc
  | codecConfLock
  | latchRtspConfig
  | discoverMediaSource
  | linkMeidaSinkHook
  | linkMeidaEosHook
  | initKvsWebRtc
  | appTimeQueueAdd
  deriving DecidableEq

/-- What the calls return; `credentialType` is the provider that the environment variables name,
and `fileLogging` whether they ask for a log file. -/
structure InitEnv where
  status : InitCall → AppStatus
  credentialType : AppCredentialType
  fileLogging : Bool

def InitEnv.ok (env : InitEnv) (call : InitCall) : Bool := env.status call == .success

/-! ## The fields and what they hold -/

inductive Field
  | fileLogger
  | pCredentialProvider
  | generateCertLock
  | generatedCertificates
  | appConfigurationObjLock
  | cvar
  | streamingSessionListReadLock
  | timerQueueHandle
  | signalingClientHandle
  | signalingSendMessageLock
  | pRemotePeerPendingSignalingMessages
  | pMsqQueue
  | pRemoteRtcPeerConnections
  | pMediaContext
  | codecConfLock
  deriving DecidableEq

def Field.all : List Field :=
  [.fileLogger, .pCredentialProvider, .generateCertLock, .generatedCertificates,
    .appConfigurationObjLock, .cvar, .streamingSessionListReadLock, .timerQueueHandle,
    .signalingClientHandle, .signalingSendMessageLock, .pRemotePeerPendingSignalingMessages,
    .pMsqQueue, .pRemoteRtcPeerConnections, .pMediaContext, .codecConfLock]

inductive Resource
  | fileLogger
  | credentialProvider
  | mutex
  | cvar
  | stackQueue
  | timerQueue
  | signalingClient
  | connectionMsgQ
  | hashTable
  | rtspSrcContext
  | rtcCertificate
  deriving DecidableEq

/-- `certificates` are the elements of the queue `generatedCertificates`. -/
structure Config where
  slots : Field → Option Nat
  credentialType : AppCredentialType
  certificates : List Nat

/-- A configuration as `MEMCALLOC` returns it. -/
instance : Inhabited Config := ⟨⟨fun _ => none, .na, []⟩⟩

/-- The configuration a call works on, and everything acquired so far. -/
structure App extends Config where
  resources : Arena Resource

namespace App

/-- A call that creates a resource puts its pointer into the field. -/
def store (f : Field) (r : Resource) (a : App) : App :=
  { a with
    slots := Function.update a.slots f (some a.resources.next)
    resources := a.resources.alloc r }

/-- A call that frees what the field holds, if it holds anything. -/
def release (f : Field) (a : App) : App :=
  match a.slots f with
  | none => a
  | some p => { a with slots := Function.update a.slots f none, resources := a.resources.free p }

def acquire (env : InitEnv) (call : InitCall) (f : Field) (r : Resource) (err : AppStatus) (a : App) :
    AppStatus × App :=
  if env.ok call then (.success, a.store f r) else (err, a)

/-- A call that acquires nothing. -/
def chk (env : InitEnv) (call : InitCall) (a : App) : AppStatus × App := (env.status call, a)

/-! ## The credential -/

/-- The certificates of the queue, then the queue. -/
def freeGeneratedCertificates (a : App) : App :=
  match a.slots .generatedCertificates with
  | none => a
  | some _ =>
    { a with resources := a.resources.freeAll a.certificates, certificates := [] }.release
      .generatedCertificates

/-- Where the provider cannot be freed, `CHK` leaves before the lock. -/
def destroyCredential (env : InitEnv) (a : App) : AppStatus × App :=
  let a := a.freeGeneratedCertificates
  match a.credentialType with
  | .na => (.appCredentialDestroyNa, a.release .generateCertLock)
  | t =>
    if env.ok .freeCredentialProvider then
      (.success,
        { (a.release .pCredentialProvider).release .generateCertLock with credentialType := .na })
    else (t.destroyStatus, { a with credentialType := .na })

def createProvider (env : InitEnv) (a : App) : AppStatus × App :=
  match env.credentialType with
  | .na => (.appCredentialAllocateNa, a)
  | t =>
    if env.ok .createCredentialProvider then
      (.success, { a.store .pCredentialProvider .credentialProvider with credentialType := t })
    else (t.allocateStatus, a)

def clearCredential (a : App) : App :=
  { a with
    slots := fun f =>
      match f with
      | .pCredentialProvider | .generateCertLock | .generatedCertificates => none
      | f => a.slots f
    credentialType := .na
    certificates := [] }

def credentialSteps (env : InitEnv) : List (App → AppStatus × App) :=
  [chk env .searchSslCert, createProvider env,
    acquire env .generateCertLock .generateCertLock .mutex .appCredentialInvalidMutex,
    acquire env .certQueueCreate .generatedCertificates .stackQueue
      .appCredentialPregeneratedCertQueue]

def createCredential (env : InitEnv) (a : App) : AppStatus × App :=
  match Stages.run .success (credentialSteps env) a.clearCredential with
  | (st, a) => if st = .success then (st, a) else (st, (a.destroyCredential env).2)

/-! ## The message store and the media source -/

def freeConnectionMsgQ (a : App) : App :=
  match a.slots .pRemotePeerPendingSignalingMessages with
  | none => a
  | some _ => (a.release .pMsqQueue).release .pRemotePeerPendingSignalingMessages

def createConnectionMsqQ (env : InitEnv) (a : App) : AppStatus × App :=
  if !env.ok .msgQCalloc then (.appMsgqNotEnoughMemory, a)
  else
    let a := a.store .pRemotePeerPendingSignalingMessages .connectionMsgQ
    if env.ok .msgQQueueCreate then (.success, a.store .pMsqQueue .stackQueue)
    else (.appMsgqCreateConnMsq, a.freeConnectionMsgQ)

def detroyMediaSource (a : App) : App :=
  match a.slots .pMediaContext with
  | none => a
  | some _ => (a.release .codecConfLock).release .pMediaContext

/-- `detroyMediaSource` given the context where it expects the address of a pointer to it: the
first field of the context, `codecConfLock`, is taken for that pointer.  The memory of the lock is
freed; the word read there as a lock is `NULL`, since nobody holds it. -/
def detroyMediaSourceOfContext (codecConfLock : Option Nat) (a : App) : App :=
  match codecConfLock with
  | none => a
  | some p => { a with resources := a.resources.free p }

/-- The context is stored into `pMediaContext` at the end only. -/
def initMediaSource (env : InitEnv) (a : App) : AppStatus × App :=
  if !env.ok .mediaCalloc then (.mediaNotEnoughMemory, a)
  else
    let pRtspSrcContext := a.resources.next
    let a := { a with resources := a.resources.alloc .rtspSrcContext }
    if !env.ok .codecConfLock then (.mediaInvalidMutex, a.detroyMediaSourceOfContext none)
    else
      let codecConfLock := a.resources.next
      let a := { a with resources := a.resources.alloc .mutex }
      if !env.ok .latchRtspConfig then
        (env.status .latchRtspConfig, a.detroyMediaSourceOfContext (some codecConfLock))
      else if !env.ok .discoverMediaSource then
        (env.status .discoverMediaSource, a.detroyMediaSourceOfContext (some codecConfLock))
      else
        (.success, { a with
          slots := Function.update (Function.update a.slots .pMediaContext (some pRtspSrcContext))
            .codecConfLock (some codecConfLock) })

/-! ## initApp and freeApp on the configuration -/

/-- `setupFileLogging`, whose failure is ignored. -/
def setupFileLogging (env : InitEnv) (a : App) : AppStatus × App :=
  (.success, if env.fileLogging && env.ok .createFileLogger then a.store .fileLogger .fileLogger else a)

/-- `CVAR_CREATE`, which is not checked. -/
def createCvar (env : InitEnv) (a : App) : AppStatus × App :=
  (.success, if env.ok .cvarCreate then a.store .cvar .cvar else a)

def initWebRtc (env : InitEnv) (a : App) : AppStatus × App :=
  (if env.ok .initKvsWebRtc then .success else .appWebrtcInit, a)

/-- `initApp` between the allocation and the certificate timer. -/
def initSteps (env : InitEnv) : List (App → AppStatus × App) :=
  [setupFileLogging env, createCredential env,
    acquire env .appConfigurationObjLock .appConfigurationObjLock .mutex .appCommonInvalidMutex,
    createCvar env,
    acquire env .streamingSessionListReadLock .streamingSessionListReadLock .mutex
      .appCommonInvalidMutex,
    acquire env .appTimerQueueCreate .timerQueueHandle .timerQueue .appCommonTimer,
    acquire env .signalingSendMessageLock .signalingSendMessageLock .mutex .appSignalingInvalidMutex,
    createConnectionMsqQ env,
    acquire env .appHashTableCreate .pRemoteRtcPeerConnections .hashTable
      (env.status .appHashTableCreate),
    initMediaSource env, chk env .linkMeidaSinkHook, chk env .linkMeidaEosHook, initWebRtc env]

/-- `freeApp` from `freeAppSignaling` on. -/
def teardown (env : InitEnv) (a : App) : App :=
  let a := (a.release .signalingClientHandle).release .signalingSendMessageLock
  let a := a.freeConnectionMsgQ
  let a := a.release .pRemoteRtcPeerConnections
  let a := a.detroyMediaSource
  let a := (a.release .appConfigurationObjLock).release .streamingSessionListReadLock
  let a := (a.release .cvar).release .timerQueueHandle
  let a := (a.destroyCredential env).2
  a.release .fileLogger

end App

/-! ## The process -/

abbrev PAppConfiguration := Nat

/-- The configurations, everything acquired for them, and the global of the signal handler. -/
structure Process where
  configs : Arena Config
  resources : Arena Resource
  gAppConfiguration : Option PAppConfiguration

namespace Process

def start : Process := ⟨Arena.empty, Arena.empty, none⟩

/-- The configuration at `p`, as a call works on it. -/
def app (p : PAppConfiguration) (s : Process) : App :=
  { toConfig := s.configs.read p, resources := s.resources }

def setApp (p : PAppConfiguration) (a : App) (s : Process) : Process :=
  { s with configs := s.configs.modify p fun _ => a.toConfig, resources := a.resources }

def freeApp (env : InitEnv) (p : PAppConfiguration) (s : Process) : Process :=
  let s := s.setApp p ((s.app p).teardown env)
  { s with configs := s.configs.free p }

/-- `gAppConfiguration` is set before the certificate timer is added. -/
def initApp (env : InitEnv) (s : Process) : AppStatus × Option PAppConfiguration × Process :=
  if !env.ok .getChannel then (.appCommonChannelName, none, s)
  else if !env.ok .appCalloc then (.appCommonNotEnoughMemory, none, s)
  else
    let p := s.configs.next
    let s := { s with configs := s.configs.alloc default }
    match Stages.run .success (App.initSteps env) (s.app p) with
    | (st, a) =>
      let s := s.setApp p a
      if st ≠ .success then (st, none, s.freeApp env p)
      else
        let s := { s with gAppConfiguration := some p }
        if !env.ok .appTimeQueueAdd then (env.status .appTimeQueueAdd, none, s.freeApp env p)
        else (.success, some p, s)

/-- The handler dereferences the global unless it is `NULL`. -/
def sigIntHandler (s : Process) : Process :=
  match s.gAppConfiguration with
  | none => s
  | some p => { s with configs := s.configs.touch p }

/-- A call of `initApp`, or of `freeApp` with a pointer its caller holds; such a pointer is set to
`NULL` by the call. -/
inductive Call
  | initApp (env : InitEnv)
  | freeApp (env : InitEnv) (p : PAppConfiguration)

def step (s : Process) : Call → Process
  | .initApp env => (s.initApp env).2.2
  | .freeApp env p => if s.configs.live p then s.freeApp env p else s

end Process

end WebrtcApp.Lifecycle
