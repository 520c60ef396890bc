import WebrtcApp.App.Session

/-!
# The RTSP media source

`AppRtspSrc.c`.  Discovery plays a probing pipeline and stores, for the video and for the audio
stream, the codec, the payload type and the clock rate that its pads offer; when there are no
more pads the configuration is latched.  The media thread plays a second pipeline, where a pad
gets the sink of the stored stream.  Both threads block in a main loop, which `closeGstRtspSrc`
tells to quit.

What GStreamer answers is data of the callback: the caps of a pad, and which of the calls made
for it fails.  The body of a callback is given twice, as the function of the source and as the
list of the steps (`Act`) another thread can come between.  `Callback.executes_code` says that
the steps, taken one after the other, are the function.
-/

namespace WebrtcApp.RtspSrc

/-! ## Status codes -/

/-- `STATUS_MEDIA_BASE + code`. -/
def statusMedia (code : UInt32) : Status := .sdk (0x73000000 + code)

def statusMediaNullArg : Status := statusMedia 0x01
def statusMediaNotEnoughMemory : Status := statusMedia 0x02
def statusMediaInvalidMutex : Status := statusMedia 0x03
def statusMediaMissingPlugin : Status := statusMedia 0x1B
def statusMediaMissingBus : Status := statusMedia 0x1C
def statusMediaMissingPipeline : Status := statusMedia 0x1D
def statusMediaPlay : Status := statusMedia 0x1E
def statusMediaNotExisted : Status := statusMedia 0x1F
def statusMediaPadRemoved : Status := statusMedia 0x21
def statusMediaBusError : Status := statusMedia 0x22
def statusMediaBusEos : Status := statusMedia 0x23

/-! ## The context -/

inductive RtcCodec
  | h264
  | vp8
  | mulaw
  | alaw
  | opus
  /-- `GST_CODEC_INVALID_VALUE`. -/
  | invalid
  deriving DecidableEq

structure CodecStreamConf where
  codec : RtcCodec
  payloadType : UInt32
  clockRate : UInt32
  deriving DecidableEq

structure MainLoop where
  isRunning : Bool
  deriving DecidableEq

namespace MainLoop

def new : MainLoop := ⟨false⟩

/-- The entry of `g_main_loop_run`: a quit from before is forgotten. -/
def run (_ : MainLoop) : MainLoop := ⟨true⟩

def quit (_ : MainLoop) : MainLoop := ⟨false⟩

end MainLoop

/-- The two values of `media` that the callbacks look for. -/
inductive Media
  | video
  | audio
  deriving DecidableEq

/-- `RtspSrcContext` with its `CodecConfiguration`. -/
structure RtspSrcContext where
  codecStatus : Status
  mainLoop : Option MainLoop
  videoStream : CodecStreamConf
  audioStream : CodecStreamConf
  shutdownRtspSrc : Bool
  codecConfigLatched : Bool
  deriving DecidableEq

namespace RtspSrcContext

def stream (ctx : RtspSrcContext) : Media → CodecStreamConf
  | .video => ctx.videoStream
  | .audio => ctx.audioStream

def setStream (ctx : RtspSrcContext) (conf : CodecStreamConf) : Media → RtspSrcContext
  | .video => { ctx with videoStream := conf }
  | .audio => { ctx with audioStream := conf }

/-- The context as `initMediaSource` allocates and initializes it. -/
def initial : RtspSrcContext where
  codecStatus := .success
  mainLoop := none
  videoStream := ⟨.invalid, 0, 0⟩
  audioStream := ⟨.invalid, 0, 0⟩
  shutdownRtspSrc := false
  codecConfigLatched := false

/-- The two flags as the functions of the other files see them. -/
def flags (ctx : RtspSrcContext) : MediaContext := ⟨ctx.shutdownRtspSrc, ctx.codecConfigLatched⟩

end RtspSrcContext

def updateCodecStatus (retStatus : Status) (ctx : RtspSrcContext) : RtspSrcContext :=
  { ctx with codecStatus := retStatus }

def closeGstRtspSrc (ctx : RtspSrcContext) : RtspSrcContext :=
  { ctx with mainLoop := ctx.mainLoop.map MainLoop.quit, shutdownRtspSrc := false }

/-! ## Pads -/

/-- The fields of a caps structure that the callbacks ask for. -/
structure GstStructure where
  media : Option String
  encodingName : Option String
  payload : Option Int32
  clockRate : Option Int32
  deriving DecidableEq

/-- A pad and what the calls made for it return: `sinkFault` is the number of the call creating
a sink that fails. -/
structure Pad where
  caps : List GstStructure
  sinkFault : Option Nat
  linked : Bool
  playing : Bool
  deriving DecidableEq

def Media.ofName (media : String) : Option Media :=
  if media = "video" then some .video
  else if media = "audio" then some .audio
  else none

/-- The codec stored for an encoding name, if it is a supported one. -/
def Media.codec : Media → String → Option RtcCodec
  | .video, encodingName =>
    if encodingName = "H264" then some .h264
    else if encodingName = "VP8" then some .vp8
    else none
  | .audio, encodingName =>
    if encodingName = "PCMU" then some .mulaw
    else if encodingName = "PCMA" then some .alaw
    else if encodingName = "opus" then some .opus
    else none

/-- The stream and the codec of a structure that discovery does not skip. -/
def GstStructure.offer (s : GstStructure) : Option (Media × RtcCodec) :=
  match s.media, s.encodingName with
  | some media, some encodingName =>
    match Media.ofName media with
    | some m => (m.codec encodingName).map fun codec => (m, codec)
    | none => none
  | _, _ => none

/-- A field that the structure does not have keeps its stored value. -/
def CodecStreamConf.store (conf : CodecStreamConf) (codec : RtcCodec) (s : GstStructure) :
    CodecStreamConf where
  codec := codec
  payloadType := (s.payload.map Int32.toUInt32).getD conf.payloadType
  clockRate := (s.clockRate.map Int32.toUInt32).getD conf.clockRate

/-- One round of the loop of `onRtspSrcPadAddedDiscovery`. -/
def probeStructure (ctx : RtspSrcContext) (s : GstStructure) : RtspSrcContext :=
  match s.offer with
  | some (m, codec) => ctx.setStream ((ctx.stream m).store codec s) m
  | none => ctx

/-- The loop of `onRtspSrcPadAddedDiscovery` writes the streams only. -/
theorem foldl_probeStructure {β : Type} {π : RtspSrcContext → β}
    (hπ : ∀ ctx conf m, π (ctx.setStream conf m) = π ctx) (caps : List GstStructure)
    (ctx : RtspSrcContext) : π (caps.foldl probeStructure ctx) = π ctx := by
  induction caps generalizing ctx with
  | nil => rfl
  | cons s caps ih =>
    have hs : π (probeStructure ctx s) = π ctx := by
      unfold probeStructure
      split
      · exact hπ _ _ _
      · rfl
    rw [List.foldl_cons, ih, hs]

/-- The loop under the lock, and whether the dummy sink was created and linked. -/
def probePad (pad : Pad) (ctx : RtspSrcContext) : RtspSrcContext × Bool :=
  (pad.caps.foldl probeStructure ctx, pad.sinkFault != some 0 && pad.linked)

/-- The sink of a pad, with the codec its depayloader is chosen by. -/
inductive Sink
  | video (codec : RtcCodec)
  | audio (codec : RtcCodec)
  | dummy
  deriving DecidableEq

/-- The locals of `onRtspSrcPadAdded` that its loop carries. -/
structure PadLocals where
  video : Bool
  audio : Bool
  payloadType : Int32
  nextElement : Option Sink
  deriving DecidableEq

/-- One round of the loop of `onRtspSrcPadAdded`, up to the creation of the sink; `none` where
the round skips the structure. -/
def connectStructure (ctx : RtspSrcContext) (l : PadLocals) (s : GstStructure) :
    Option PadLocals :=
  match s.media.bind Media.ofName with
  | none => none
  | some m =>
    let video := l.video || decide (m = .video)
    let audio := l.audio || decide (m = .audio)
    let payloadType := s.payload.getD l.payloadType
    let same := (ctx.stream m).payloadType == payloadType.toUInt32
    let sink : Sink :=
      if video && same then .video ctx.videoStream.codec
      else if audio && same then .audio ctx.audioStream.codec
      else .dummy
    some ⟨video, audio, payloadType, some sink⟩

/-- The loop of `onRtspSrcPadAdded`, `n` sinks created so far; `none` where a creation fails. -/
def connectCaps (sinkFault : Option Nat) (ctx : RtspSrcContext) :
    Nat → PadLocals → List GstStructure → Option PadLocals
  | _, l, [] => some l
  | n, l, s :: caps =>
    match connectStructure ctx l s with
    | none => connectCaps sinkFault ctx n l caps
    | some l => if sinkFault = some n then none else connectCaps sinkFault ctx (n + 1) l caps

/-- Whether the pad gets a sink and is linked to it in a playing pipeline. -/
def connectPad (pad : Pad) (ctx : RtspSrcContext) : Bool :=
  match connectCaps pad.sinkFault ctx 0 ⟨false, false, 0, none⟩ pad.caps with
  | none => false
  | some l => l.nextElement.isSome && pad.linked && pad.playing

/-! ## Callbacks -/

def onMsgErrorFromBus (ctx : RtspSrcContext) : RtspSrcContext :=
  updateCodecStatus statusMediaBusError (closeGstRtspSrc ctx)

def onMsgEosFromBus (ctx : RtspSrcContext) : RtspSrcContext :=
  updateCodecStatus statusMediaBusEos (closeGstRtspSrc ctx)

/-- `retStatus` is what the sink hook returned for the sample, if it was called. -/
def onNewSampleFromAppSink (retStatus : Status) (ctx : RtspSrcContext) : RtspSrcContext :=
  if retStatus.failed || ctx.shutdownRtspSrc then closeGstRtspSrc ctx else ctx

/-- `CleanUp` of the two pad-added callbacks after a failure. -/
def failPad (ctx : RtspSrcContext) : RtspSrcContext :=
  updateCodecStatus statusMediaBusError (closeGstRtspSrc ctx)

def onRtspSrcPadAddedDiscovery (pad : Pad) (ctx : RtspSrcContext) : RtspSrcContext :=
  match probePad pad ctx with
  | (ctx, ok) => if ok then ctx else failPad ctx

def onRtspSrcNoMorePadsDiscovery (ctx : RtspSrcContext) : RtspSrcContext :=
  closeGstRtspSrc { ctx with codecConfigLatched := true }

def onRtspSrcPadAdded (pad : Pad) (ctx : RtspSrcContext) : RtspSrcContext :=
  if connectPad pad ctx then ctx else failPad ctx

def onRtspSrcPadRemoved (ctx : RtspSrcContext) : RtspSrcContext :=
  updateCodecStatus statusMediaPadRemoved (closeGstRtspSrc ctx)

inductive Callback
  | msgError
  | msgEos
  | newSample (retStatus : Status)
  | padAddedDiscovery (pad : Pad)
  | noMorePads
  | padAdded (pad : Pad)
  | padRemoved
  deriving DecidableEq

def Callback.call : Callback → RtspSrcContext → RtspSrcContext
  | .msgError => onMsgErrorFromBus
  | .msgEos => onMsgEosFromBus
  | .newSample retStatus => onNewSampleFromAppSink retStatus
  | .padAddedDiscovery pad => onRtspSrcPadAddedDiscovery pad
  | .noMorePads => onRtspSrcNoMorePadsDiscovery
  | .padAdded pad => onRtspSrcPadAdded pad
  | .padRemoved => onRtspSrcPadRemoved

/-! ## The steps of a callback -/

inductive Act
  | close
  | updateStatus (retStatus : Status)
  | latch
  | loadShutdown
  | probe (pad : Pad)
  | connect (pad : Pad)
  deriving DecidableEq

/-- What `CleanUp` of a pad-added callback has to do. -/
def failPadCode : List Act := [.close, .updateStatus statusMediaBusError]

/-- A step, and the steps that it puts before the rest of the callback. -/
def Act.exec : Act → RtspSrcContext → RtspSrcContext × List Act
  | .close, ctx => (closeGstRtspSrc ctx, [])
  | .updateStatus retStatus, ctx => (updateCodecStatus retStatus ctx, [])
  | .latch, ctx => ({ ctx with codecConfigLatched := true }, [])
  | .loadShutdown, ctx => (ctx, if ctx.shutdownRtspSrc then [.close] else [])
  | .probe pad, ctx => ((probePad pad ctx).1, if (probePad pad ctx).2 then [] else failPadCode)
  | .connect pad, ctx => (ctx, if connectPad pad ctx then [] else failPadCode)

def Callback.code : Callback → List Act
  | .msgError => [.close, .updateStatus statusMediaBusError]
  | .msgEos => [.close, .updateStatus statusMediaBusEos]
  | .newSample retStatus => if retStatus.failed then [.close] else [.loadShutdown]
  | .padAddedDiscovery pad => [.probe pad]
  | .noMorePads => [.latch, .close]
  | .padAdded pad => [.connect pad]
  | .padRemoved => [.close, .updateStatus statusMediaPadRemoved]

/-- The steps taken one after the other lead from the one context to the other. -/
inductive Executes : List Act → RtspSrcContext → RtspSrcContext → Prop
  | nil (ctx : RtspSrcContext) : Executes [] ctx ctx
  | cons {act : Act} {acts : List Act} {ctx ctx' : RtspSrcContext} :
    Executes ((act.exec ctx).2 ++ acts) (act.exec ctx).1 ctx' → Executes (act :: acts) ctx ctx'

theorem executes_failPadCode (ctx : RtspSrcContext) : Executes failPadCode ctx (failPad ctx) :=
  .cons (.cons (.nil _))

theorem Callback.executes_code (cb : Callback) (ctx : RtspSrcContext) :
    Executes cb.code ctx (cb.call ctx) := by
  cases cb with
  | msgError | msgEos | noMorePads | padRemoved => exact .cons (.cons (.nil _))
  | newSample retStatus =>
    have hclose : Executes [.close] ctx (closeGstRtspSrc ctx) := .cons (.nil _)
    simp only [Callback.code, Callback.call, onNewSampleFromAppSink]
    cases retStatus.failed with
    | true => exact hclose
    | false =>
      refine .cons ?_
      cases hs : ctx.shutdownRtspSrc
      · simpa [Act.exec, hs] using Executes.nil ctx
      · simpa [Act.exec, hs] using hclose
  | padAddedDiscovery pad =>
    refine .cons ?_
    cases hp : (probePad pad ctx).2
    · simpa [Act.exec, Callback.call, onRtspSrcPadAddedDiscovery, hp] using
        executes_failPadCode (probePad pad ctx).1
    · simpa [Act.exec, Callback.call, onRtspSrcPadAddedDiscovery, hp] using
        Executes.nil (probePad pad ctx).1
  | padAdded pad =>
    refine .cons ?_
    cases hp : connectPad pad ctx
    · simpa [Act.exec, Callback.call, onRtspSrcPadAdded, hp] using executes_failPadCode ctx
    · simpa [Act.exec, Callback.call, onRtspSrcPadAdded, hp] using Executes.nil ctx

/-! ## The two pipelines -/

/-- The callbacks that are connected in the probing pipeline and in the other one; the sinks that
emit `new-sample` are created by `onRtspSrcPadAdded`. -/
def Callback.connected (enableProbe : Bool) : Callback → Bool
  | .msgError | .msgEos => true
  | .padAddedDiscovery _ | .noMorePads => enableProbe
  | .newSample _ | .padAdded _ | .padRemoved => !enableProbe

def runCallbacks (cbs : List Callback) (ctx : RtspSrcContext) : RtspSrcContext :=
  cbs.foldl (fun ctx cb => cb.call ctx) ctx

/-- The step of setting up a pipeline that fails. -/
inductive SetUpFault
  | pipelineNew
  | rtspSource
  | getBus
  | setStatePlaying
  deriving DecidableEq

def SetUpFault.status (enableProbe : Bool) : SetUpFault → Status
  | .pipelineNew => if enableProbe then statusMediaNullArg else statusMediaMissingPipeline
  | .rtspSource => statusMediaMissingPlugin
  | .getBus => statusMediaMissingBus
  | .setStatePlaying => statusMediaPlay

/-- What ends a discovery; a failing pad fails at its sink, or after it at the link. -/
inductive Ending
  | busError
  | eos
  | failingPad (caps : List GstStructure) (sinkCreated : Bool)
  | noMorePads
  deriving DecidableEq

def Ending.callback : Ending → Callback
  | .busError => .msgError
  | .eos => .msgEos
  | .failingPad caps sinkCreated =>
    .padAddedDiscovery ⟨caps, if sinkCreated then none else some 0, false, true⟩
  | .noMorePads => .noMorePads

/-- One run of `discoverMediaSource`, as far as GStreamer decides it. -/
inductive Attempt
  | setUpFails (fault : SetUpFault)
  | plays (pads : List Pad) (ending : Ending)
  deriving DecidableEq

def Attempt.callbacks : Attempt → List Callback
  | .setUpFails _ => []
  | .plays pads ending => pads.map Callback.padAddedDiscovery ++ [ending.callback]

def discoverMediaSource (a : Attempt) (ctx : RtspSrcContext) : Status × RtspSrcContext :=
  let ctx := { ctx with codecStatus := .success }
  match a with
  | .setUpFails fault => (fault.status true, { ctx with mainLoop := none })
  | .plays _ _ =>
    let ctx := { ctx with mainLoop := some MainLoop.new.run }
    let ctx := runCallbacks a.callbacks ctx
    (.success, { ctx with mainLoop := none })

/-- One run of `runMediaSource`: the fault of its setup, or the callbacks. -/
def runMediaSource (r : SetUpFault ⊕ List Callback) (ctx : RtspSrcContext) :
    Status × RtspSrcContext :=
  let ctx := { ctx with codecStatus := .success }
  match r with
  | .inl fault => (fault.status false, { ctx with mainLoop := none })
  | .inr cbs =>
    let ctx := { ctx with mainLoop := some MainLoop.new.run }
    let ctx := runCallbacks (cbs.filter (Callback.connected false)) ctx
    (.success, { ctx with mainLoop := none })

/-! ## The interface -/

/-- What the calls of `initMediaSource` before the discovery return. -/
structure InitCalls where
  calloc : Bool
  mutexCreate : Bool
  latchRtspConfig : Status
  deriving DecidableEq

/-- After a failure no context is handed out. -/
def initMediaSource (calls : InitCalls) (a : Attempt) : Status × Option RtspSrcContext :=
  if !calls.calloc then (statusMediaNotEnoughMemory, none)
  else if !calls.mutexCreate then (statusMediaInvalidMutex, none)
  else if calls.latchRtspConfig.failed then (calls.latchRtspConfig, none)
  else
    match discoverMediaSource a RtspSrcContext.initial with
    | (st, ctx) => if st.failed then (st, none) else (.success, some ctx)

/-- The status that `discoverMediaSource` returns is not looked at. -/
def isMediaSourceReady (a : Attempt) (ctx : RtspSrcContext) : Status × RtspSrcContext :=
  let ctx := if ctx.codecConfigLatched then ctx else (discoverMediaSource a ctx).2
  if ctx.codecConfigLatched then (.success, ctx) else (.mediaNotReady, ctx)

def queryMediaCap (m : Media) (ctx : RtspSrcContext) : Status × Option RtcCodec :=
  if !ctx.codecConfigLatched then (.mediaNotReady, none)
  else if (ctx.stream m).codec = .invalid then (statusMediaNotExisted, none)
  else (.success, some (ctx.stream m).codec)

def queryMediaVideoCap (ctx : RtspSrcContext) : Status × Option RtcCodec :=
  queryMediaCap .video ctx

def queryMediaAudioCap (ctx : RtspSrcContext) : Status × Option RtcCodec :=
  queryMediaCap .audio ctx

def shutdownMediaSource (ctx : RtspSrcContext) : RtspSrcContext :=
  { ctx with shutdownRtspSrc := true }

end WebrtcApp.RtspSrc
