import WebrtcApp.Lib.Arena

/-!
# Data shared by the application's functions

Status codes, client ids and signaling messages, and the environment one call of an
entry point runs in.  A function of the SDK, the queue, the hash table or the
allocator is a call site (`Call`), and `Env.status` says what each call site returns
(for an allocation: whether it got memory).  A call inside a loop carries the number
of the iteration, so an environment can fail any one of them.
-/

namespace WebrtcApp

/-- The status codes the modelled functions name; `sdk` is any other failure code. -/
inductive Status
  | success
  | invalidOperation
  | notEnoughMemory
  | notFound
  | appCommonNullArg
  | appCredentialCertCreate
  | appCredentialCertStack
  | appMsgqNullArg
  | appMsgqNotEnoughMemory
  | appMsgqPushConnMsq
  | appMsgqCreatePendingMsq
  | appMsgqHandlePendingMsq
  | appMsgqPushPendingMsq
  | appMsgqEmptyPendingMsq
  | appMsgqPopPendingMsq
  | mediaNotReady
  | sdk (code : UInt32)
  deriving DecidableEq, Repr

/-- `STATUS_FAILED`. -/
def Status.failed (st : Status) : Bool := st != .success

@[simp] theorem Status.failed_eq_false {st : Status} : st.failed = false ↔ st = .success := by
  simp [Status.failed]

@[simp] theorem Status.failed_eq_true {st : Status} : st.failed = true ↔ st ≠ .success := by
  simp [Status.failed]

/-! ## Configuration constants -/

/-- `APP_MAX_CONCURRENT_STREAMING_SESSION`: the size of `streamingSessionList`. -/
def appMaxConcurrentStreamingSession : Nat := 10

/-- `HUNDREDS_OF_NANOS_IN_A_SECOND`. -/
def hundredsOfNanosInASecond : UInt64 := 10000000

/-- `APP_PENDING_MESSAGE_CLEANUP_DURATION`. -/
def appPendingMessageCleanupDuration : UInt64 := 20 * hundredsOfNanosInASecond

/-- `MAX_UINT32`: the id of no timer. -/
def maxUInt32 : UInt32 := 0xFFFFFFFF

/-- `MAX_SIGNALING_CLIENT_ID_LEN` of the SDK. -/
def maxSignalingClientIdLen : Nat := 256

/-- `MAX_RTCCONFIGURATION_CERTIFICATES` of the SDK. -/
def maxRtcConfigurationCertificates : Nat := 3

/-! ## Client ids and their key -/

/-- The characters of a `peerClientId` / `peerId` up to its terminator. -/
structure ClientId where
  chars : List UInt8
  nul_free : 0 ∉ chars
  length_le : chars.length ≤ maxSignalingClientIdLen
  deriving DecidableEq

def crc32Bit (c : UInt32) : UInt32 :=
  if c &&& 1 = 1 then (c >>> 1) ^^^ 0xEDB88320 else c >>> 1

def crc32Byte (c : UInt32) (b : UInt8) : UInt32 := crc32Bit^[8] (c ^^^ b.toUInt32)

/-- `COMPUTE_CRC32`: the standard 32-bit CRC (reflected, polynomial `0x04C11DB7`). -/
def computeCrc32 (bs : List UInt8) : UInt32 := bs.foldl crc32Byte 0xFFFFFFFF ^^^ 0xFFFFFFFF

/-- The standard's check value: the CRC of the digits `123456789`. -/
example : computeCrc32 [49, 50, 51, 52, 53, 54, 55, 56, 57] = 0xCBF43926 := by decide +kernel

/-- `clientIdHashKey` of a client id, widened to the `UINT64` the tables are keyed by. -/
def clientIdHashKey (c : ClientId) : UInt64 := (computeCrc32 c.chars).toUInt64

theorem clientIdHashKey_inj {c d : ClientId} :
    clientIdHashKey c = clientIdHashKey d ↔ computeCrc32 c.chars = computeCrc32 d.chars := by
  unfold clientIdHashKey
  exact ⟨fun h => by simpa using congrArg UInt64.toUInt32 h, congrArg _⟩

/-! ## Signaling messages -/

inductive SignalingMessageType
  | offer
  | iceCandidate
  | other (n : UInt32)
  deriving DecidableEq

structure SignalingMessage where
  messageType : SignalingMessageType
  peerClientId : ClientId
  payload : List UInt8
  deriving DecidableEq

structure ReceivedSignalingMessage where
  signalingMessage : SignalingMessage
  deriving DecidableEq

instance : Inhabited ClientId := ⟨⟨[], by simp, by simp⟩⟩
instance : Inhabited SignalingMessage := ⟨⟨.other 0, default, []⟩⟩
instance : Inhabited ReceivedSignalingMessage := ⟨⟨default⟩⟩

/-! ### Messages for concrete runs -/

/-- A client id of one character. -/
def shortClientId (c : UInt8) (h : c ≠ 0) : ClientId where
  chars := [c]
  nul_free := by simpa using Ne.symm h
  length_le := by simp [maxSignalingClientIdLen]

def offerOf (d : ClientId) : ReceivedSignalingMessage := ⟨⟨.offer, d, []⟩⟩

def candidateOf (d : ClientId) (payload : List UInt8) : ReceivedSignalingMessage :=
  ⟨⟨.iceCandidate, d, payload⟩⟩

def clientA : ClientId := shortClientId 65 (by decide)

def clientB : ClientId := shortClientId 66 (by decide)

inductive RtcPeerConnectionState
  | connected
  | failed
  | closed
  | disconnected
  | other (n : UInt32)
  deriving DecidableEq

/-- The states on which `onConnectionStateChange` sets `terminateFlag`. -/
def RtcPeerConnectionState.closes : RtcPeerConnectionState → Bool
  | .failed | .closed | .disconnected => true
  | .connected | .other _ => false

/-! ## The environment -/

/-- The call sites whose result the environment decides, by the function they stand in. -/
inductive Call
  -- createPendingMsgQ
  | pendingMsgQCalloc
  | pendingMsgQQueueCreate
  | pendingMsgQEnqueue
  -- pushMsqIntoPendingMsgQ
  | messageCalloc
  | messageEnqueue
  -- handlePendingMsgQ
  | handleIsEmpty (n : Nat)
  | handleDequeue (n : Nat)
  -- getPendingMsgQByHashVal
  | lookupGetIterator
  | lookupGetItem (n : Nat)
  | lookupNext (n : Nat)
  | lookupRemoveItem
  -- removeExpiredPendingMsgQ
  | expireGetCount
  | expireDequeue (n : Nat)
  | expireEnqueue (n : Nat)
  -- generateCertRoutine and popGeneratedCert
  | certGetCount
  | createRtcCertificate
  | certEnqueue
  | certDequeue
  -- createStreamingSession and initializePeerConnection
  | sessionCalloc
  | queryAppSignalingServer
  | createPeerConnection
  | peerConnectionOnIceCandidate
  | peerConnectionOnConnectionStateChange
  | peerConnectionOnDataChannel
  | queryMediaVideoCap
  | addSupportedVideoCodec
  | addVideoTransceiver
  | videoTransceiverOnBandwidthEstimation
  | queryMediaAudioCap
  | addSupportedAudioCodec
  | addAudioTransceiver
  | audioTransceiverOnBandwidthEstimation
  | peerConnectionOnSenderBandwidthEstimation
  -- handleOffer and respondWithAnswer
  | deserializeSessionDescriptionInit
  | setRemoteDescription
  | setLocalDescription
  | createAnswer
  | serializeSessionDescriptionInit
  | sendAppSignalingMessage
  -- handleRemoteCandidate, for the n-th candidate submitted during the call
  | deserializeRtcIceCandidateInit (n : Nat) (m : SignalingMessage)
  | addIceCandidate (n : Nat) (m : SignalingMessage)
  -- onSignalingMessageReceived
  | appHashTableContains
  | appHashTableGet
  | appHashTablePut
  | appTimeQueueAdd
  -- pollApp
  | sweepHashTableContains (n : Nat)
  | sweepHashTableRemove (n : Nat)
  | restartAppSignaling
  | checkAppSignaling
  deriving DecidableEq

/-- What the calls made while one entry point runs return. -/
structure Env where
  status : Call → Status
  /-- `GETTIME()`. -/
  now : UInt64
  /-- `canTrickleIceCandidates` of the offer. -/
  canTrickle : Bool
  /-- The discovery run by `isMediaSourceReady` latches the codecs. -/
  mediaDiscovered : Bool
  /-- That discovery runs `closeGstRtspSrc`. -/
  mediaClosed : Bool
  /-- The number of ICE servers `queryAppSignalingServer` reports. -/
  uriCount : UInt32
  /-- The id `appTimeQueueAdd` gives the stats timer. -/
  timerId : UInt32
  /-- The connection states reported for a new session while its OFFER is handled. -/
  stateChanges : List RtcPeerConnectionState

def Env.ok (env : Env) (c : Call) : Bool := env.status c == .success

@[simp] theorem Env.ok_eq_true {env : Env} {c : Call} :
    env.ok c = true ↔ env.status c = .success := by
  simp [Env.ok]

@[simp] theorem Env.ok_eq_false {env : Env} {c : Call} :
    env.ok c = false ↔ env.status c ≠ .success := by
  simp [Env.ok]

/-- Every call succeeds. -/
def Env.allOk : Env :=
  ⟨fun _ => .success, 0, true, true, true, 0, 0, []⟩

/-- The stackQueue calls of the pending store. -/
def Call.isQueue : Call → Bool
  | .pendingMsgQQueueCreate | .pendingMsgQEnqueue | .messageEnqueue | .handleIsEmpty _
  | .handleDequeue _ | .lookupGetIterator | .lookupGetItem _ | .lookupNext _ | .lookupRemoveItem
  | .expireGetCount | .expireDequeue _ | .expireEnqueue _ => true
  | _ => false

/-- The hash table calls. -/
def Call.isHash : Call → Bool
  | .appHashTableContains | .appHashTableGet | .appHashTablePut | .sweepHashTableContains _
  | .sweepHashTableRemove _ => true
  | _ => false

/-- The allocations. -/
def Call.isAlloc : Call → Bool
  | .pendingMsgQCalloc | .messageCalloc | .sessionCalloc => true
  | _ => false

/-- The queue, hash table and allocation calls all succeed. -/
def Env.StorageOk (env : Env) : Prop :=
  ∀ call : Call, call.isQueue = true ∨ call.isHash = true ∨ call.isAlloc = true →
    env.ok call = true

theorem Env.StorageOk.queue {env : Env} (h : env.StorageOk) {call : Call}
    (hc : call.isQueue = true) : env.ok call = true := h call (Or.inl hc)

theorem Env.StorageOk.hash {env : Env} (h : env.StorageOk) {call : Call}
    (hc : call.isHash = true) : env.ok call = true := h call (Or.inr (Or.inl hc))

theorem Env.StorageOk.alloc {env : Env} (h : env.StorageOk) {call : Call}
    (hc : call.isAlloc = true) : env.ok call = true := h call (Or.inr (Or.inr hc))

theorem Env.allOk_storageOk : Env.allOk.StorageOk := fun _ _ => rfl

end WebrtcApp
