import WebrtcApp.App.RtspSrc
import WebrtcApp.Lib.Arena

/-!
# The elements of a pipeline (`AppRtspSrc.c`)

The sinks that the two pad-added callbacks create, with the elements and caps as objects that count
references.  A created object has one reference; `gst_bin_add_many` takes over those of the elements,
and the pipeline releases them when it is disposed.  Which of the calls fails is data of the
callback.
-/

namespace WebrtcApp.RtspSrc.Gst

/-! ## Status codes -/

def statusMediaLinkElement : Status := statusMedia 0x07
def statusMediaEmptyElement : Status := statusMedia 0x08
def statusMediaDummySink : Status := statusMedia 0x09
def statusMediaVideoElement : Status := statusMedia 0x0C
def statusMediaVideoCaps : Status := statusMedia 0x0D
def statusMediaVideoQueue : Status := statusMedia 0x0E
def statusMediaVideoLink : Status := statusMedia 0x0F
def statusMediaAudioElement : Status := statusMedia 0x11
def statusMediaAudioCaps : Status := statusMedia 0x12
def statusMediaAudioQueue : Status := statusMedia 0x13
def statusMediaAudioLink : Status := statusMedia 0x14

/-! ## The heap -/

inductive GstObject
  | queue
  | rtpDepay (codec : RtcCodec)
  | capsFilter
  | appSink (m : Media)
  | fakeSink
  | caps
  deriving DecidableEq

/-- `bin` are the elements of the pipeline, `links` the pairs of elements that are linked. -/
structure GstHeap where
  objects : Arena GstObject
  bin : List Nat
  links : List (Nat × Nat)

/-- The pointers that are not `NULL`. -/
def pointers (ps : List (Option Nat)) : List Nat := ps.flatMap Option.toList

namespace GstHeap

/-- A call that creates an object, or fails. -/
def make (made : Bool) (o : GstObject) (h : GstHeap) : Option Nat × GstHeap :=
  if made then (some h.objects.next, { h with objects := h.objects.alloc o }) else (none, h)

/-- The references are given back one after the other, without those that are `NULL`. -/
def unrefAll (ps : List (Option Nat)) (h : GstHeap) : GstHeap :=
  { h with objects := h.objects.freeAll (pointers ps) }

def binAddMany (es : List Nat) (h : GstHeap) : GstHeap := { h with bin := es ++ h.bin }

def link (src dest : Nat) (h : GstHeap) : GstHeap := { h with links := (src, dest) :: h.links }

def linkMany : List Nat → GstHeap → GstHeap
  | a :: b :: es, h => linkMany (b :: es) (h.link a b)
  | _, h => h

/-- Something is linked to the element. -/
def Linked (h : GstHeap) (p : Nat) : Prop := ∃ src, (src, p) ∈ h.links

end GstHeap

/-- `gst_object_unref` is for elements; whether it releases caps as well is left open. -/
structure GstSdk where
  objectUnrefsCaps : Bool

/-! ## The sinks -/

/-- Which of the calls that create a sink succeed. -/
structure SinkCalls where
  fakeSink : Bool
  queue : Bool
  depay : Bool
  caps : Bool
  capsFilter : Bool
  appSink : Bool
  link : Bool

/-- What tells the video sink from the audio sink; `unrefsCaps` says that `CleanUp` releases the caps
that are left. -/
structure AppSinkKind where
  media : Media
  codec : RtcCodec
  unrefsCaps : Bool
  statusCaps : Status
  statusQueue : Status
  statusElement : Status
  statusLink : Status

def createDummyAppSink (calls : SinkCalls) (h : GstHeap) : Status × Option Nat × GstHeap :=
  match h.make calls.fakeSink .fakeSink with
  | (some dummySink, h) => (.success, some dummySink, h.binAddMany [dummySink])
  | (none, h) => (statusMediaDummySink, none, h)

/-- The queue is handed out, and `NULL` after a failure. -/
def createAppSink (k : AppSinkKind) (calls : SinkCalls) (h : GstHeap) :
    Status × Option Nat × GstHeap :=
  let (queue, h) := h.make calls.queue .queue
  let (depay, h) := h.make calls.depay (.rtpDepay k.codec)
  let (caps, h) := h.make calls.caps .caps
  if caps = none then (k.statusCaps, none, h.unrefAll [queue, depay])
  else
    let (filter, h) := h.make calls.capsFilter .capsFilter
    let (appSink, h) := h.make calls.appSink (.appSink k.media)
    let cleanUp := [queue, depay, if k.unrefsCaps then caps else none, filter, appSink]
    if queue = none then (k.statusQueue, none, h.unrefAll cleanUp)
    else if depay = none ∨ filter = none ∨ appSink = none then
      (k.statusElement, none, h.unrefAll cleanUp)
    else
      -- the caps are released by `gst_caps_unref`, and their pointer is `NULL`
      let elements := [queue, depay, filter, appSink]
      let h := (h.unrefAll [caps]).binAddMany (pointers elements)
      if calls.link then (.success, queue, h.linkMany (pointers elements))
      else (k.statusLink, none, h.unrefAll elements)

def videoSink (sdk : GstSdk) (ctx : RtspSrcContext) : AppSinkKind where
  media := .video
  codec := if ctx.videoStream.codec = .h264 then .h264 else .vp8
  unrefsCaps := sdk.objectUnrefsCaps
  statusCaps := statusMediaVideoCaps
  statusQueue := statusMediaVideoQueue
  statusElement := statusMediaVideoElement
  statusLink := statusMediaVideoLink

/-- `CleanUp` of the audio sink leaves the caps out. -/
def audioSink (ctx : RtspSrcContext) : AppSinkKind where
  media := .audio
  codec :=
    if ctx.audioStream.codec = .opus then .opus
    else if ctx.audioStream.codec = .mulaw then .mulaw
    else .alaw
  unrefsCaps := false
  statusCaps := statusMediaAudioCaps
  statusQueue := statusMediaAudioQueue
  statusElement := statusMediaAudioElement
  statusLink := statusMediaAudioLink

def createVideoAppSink (sdk : GstSdk) (ctx : RtspSrcContext) :
    SinkCalls → GstHeap → Status × Option Nat × GstHeap :=
  createAppSink (videoSink sdk ctx)

def createAudioAppSink (ctx : RtspSrcContext) :
    SinkCalls → GstHeap → Status × Option Nat × GstHeap :=
  createAppSink (audioSink ctx)

/-! ## The callbacks -/

/-- What a pad-added callback finds: `currentCaps` is `none` where the pad has no caps, `sinks` are
the calls for its sinks, one after the other. -/
structure PadCall where
  arguments : Bool
  templateCaps : Bool
  currentCaps : Option (List GstStructure)
  sinks : Nat → SinkCalls
  linked : Bool
  playing : Bool

def createSink (sdk : GstSdk) (ctx : RtspSrcContext) (sink : Sink) (calls : SinkCalls) :
    GstHeap → Status × Option Nat × GstHeap :=
  match sink with
  | .video _ => createVideoAppSink sdk ctx calls
  | .audio _ => createAudioAppSink ctx calls
  | .dummy => createDummyAppSink calls

/-- The loop of `onRtspSrcPadAdded`, `n` sinks created so far. -/
def connectCaps (sdk : GstSdk) (ctx : RtspSrcContext) (sinks : Nat → SinkCalls) :
    Nat → PadLocals → Option Nat → List GstStructure → GstHeap → Status × Option Nat × GstHeap
  | _, _, nextElement, [], h => (.success, nextElement, h)
  | n, l, nextElement, s :: caps, h =>
    match connectStructure ctx l s with
    | none => connectCaps sdk ctx sinks n l nextElement caps h
    | some l =>
      match l.nextElement with
      | none => connectCaps sdk ctx sinks n l nextElement caps h
      | some sink =>
        let (retStatus, nextElement, h) := createSink sdk ctx sink (sinks n) h
        if retStatus.failed then (retStatus, nextElement, h)
        else connectCaps sdk ctx sinks (n + 1) l nextElement caps h

/-- The element is linked to the one the pad belongs to. -/
def linkPad (element : Nat) (linked : Bool) (nextElement : Nat) (h : GstHeap) : Status × GstHeap :=
  if linked then (.success, h.link element nextElement) else (statusMediaLinkElement, h)

/-- `CleanUp` of the two callbacks. -/
def cleanUpPad (currentCaps templateCaps nextElement : Option Nat) (retStatus : Status)
    (h : GstHeap) : Status × GstHeap :=
  let h := h.unrefAll [currentCaps, templateCaps]
  (retStatus, if retStatus.failed then h.unrefAll [nextElement] else h)

def onRtspSrcPadAddedDiscovery (call : PadCall) (element : Nat) (h : GstHeap) : Status × GstHeap :=
  if !call.arguments then cleanUpPad none none none statusMediaNullArg h
  else
    let (templateCaps, h) := h.make call.templateCaps .caps
    let (currentCaps, h) := h.make call.currentCaps.isSome .caps
    match createDummyAppSink (call.sinks 0) h with
    | (retStatus, none, h) => cleanUpPad currentCaps templateCaps none retStatus h
    | (_, some nextElement, h) =>
      let (retStatus, h) := linkPad element call.linked nextElement h
      cleanUpPad currentCaps templateCaps (some nextElement) retStatus h

def onRtspSrcPadAdded (sdk : GstSdk) (ctx : RtspSrcContext) (call : PadCall) (element : Nat)
    (h : GstHeap) : Status × GstHeap :=
  if !call.arguments then cleanUpPad none none none statusMediaNullArg h
  else
    let (templateCaps, h) := h.make call.templateCaps .caps
    let (currentCaps, h) := h.make call.currentCaps.isSome .caps
    let (retStatus, nextElement, h) :=
      connectCaps sdk ctx call.sinks 0 ⟨false, false, 0, none⟩ none (call.currentCaps.getD []) h
    if retStatus.failed then cleanUpPad currentCaps templateCaps nextElement retStatus h
    else
      match nextElement with
      | none => cleanUpPad currentCaps templateCaps none statusMediaEmptyElement h
      | some nextElement =>
        let (retStatus, h) := linkPad element call.linked nextElement h
        let retStatus :=
          if retStatus.failed then retStatus
          else if call.playing then .success
          else statusMediaPlay
        cleanUpPad currentCaps templateCaps (some nextElement) retStatus h

end WebrtcApp.RtspSrc.Gst
