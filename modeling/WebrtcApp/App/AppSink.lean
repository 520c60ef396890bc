import WebrtcApp.App.RtspSrc

/-!
# The samples of an appsink

What `onNewSampleFromAppSink` makes of a sample: the frame it gives to the sink hook, or nothing
where the buffer is droppable, has no running time or cannot be mapped.  What GStreamer answers for
the sample (its running time in the segment, and what `gst_buffer_map` does) is part of it.
-/

namespace WebrtcApp

/-! ## Buffers -/

def gstBufferFlagDecodeOnly : UInt32 := 0x20
def gstBufferFlagDiscont : UInt32 := 0x40
def gstBufferFlagCorrupted : UInt32 := 0x100
def gstBufferFlagDeltaUnit : UInt32 := 0x2000

/-- `GST_CLOCK_TIME_IS_VALID`: the time is not `GST_CLOCK_TIME_NONE`. -/
def gstClockTimeIsValid (time : UInt64) : Bool := time != 0xFFFFFFFFFFFFFFFF

/-- `map` is what `gst_buffer_map` leaves in `info.data`: `none` where it fails, and `some none`
(a `NULL`) for a buffer without memory. -/
structure GstBuffer where
  flags : UInt32
  pts : UInt64
  map : Option (Option (List UInt8))
  deriving DecidableEq

/-- `GST_BUFFER_FLAG_IS_SET`. -/
def GstBuffer.flagIsSet (buffer : GstBuffer) (flag : UInt32) : Bool := buffer.flags &&& flag != 0

/-- `runningTime` is what `gst_segment_to_running_time` returns for the `pts` of the buffer. -/
structure GstSample where
  buffer : GstBuffer
  runningTime : UInt64
  deriving DecidableEq

instance : Inhabited GstSample := ⟨⟨⟨0, 0, none⟩, 0⟩⟩

def GstBuffer.isDroppable (buffer : GstBuffer) : Bool :=
  buffer.flagIsSet gstBufferFlagCorrupted ||
  buffer.flagIsSet gstBufferFlagDecodeOnly ||
  buffer.flags == gstBufferFlagDiscont ||
  (buffer.flagIsSet gstBufferFlagDiscont && buffer.flagIsSet gstBufferFlagDeltaUnit) ||
  !gstClockTimeIsValid buffer.pts

/-! ## Frames -/

/-- `DEFAULT_TIME_UNIT_IN_NANOS`. -/
def defaultTimeUnitInNanos : UInt64 := 100

/-- The `Frame` of the callback, before the hook writes its index. -/
structure MediaFrame where
  trackId : TrackId
  keyFrame : Bool
  duration : UInt64
  size : UInt32
  frameData : Option (List UInt8)
  presentationTs : UInt64
  decodingTs : UInt64
  deriving DecidableEq

/-- The frame as the sink hook reads it. -/
def MediaFrame.frame (f : MediaFrame) : Frame := ⟨f.trackId, f.keyFrame, 0⟩

/-- The body of `onNewSampleFromAppSink` up to the hook: the frame it is called with. -/
def frameOfSample (trackId : TrackId) (sample : GstSample) : Option MediaFrame :=
  if sample.buffer.isDroppable then none
  else if !gstClockTimeIsValid sample.runningTime then none
  else
    match sample.buffer.map with
    | none => none
    | some data =>
      let presentationTs := sample.runningTime * defaultTimeUnitInNanos
      some {
        trackId := trackId
        keyFrame := !sample.buffer.flagIsSet gstBufferFlagDeltaUnit
        duration := 0
        size := UInt32.ofNat (data.getD []).length
        frameData := data
        presentationTs := presentationTs
        decodingTs := presentationTs }

/-- The sample gives a frame. -/
def GstSample.deliverable (sample : GstSample) : Bool :=
  !sample.buffer.isDroppable && gstClockTimeIsValid sample.runningTime && sample.buffer.map.isSome

section
variable {trackId : TrackId} {sample : GstSample} {f : MediaFrame}

theorem frameOfSample_isSome (trackId : TrackId) :
    (frameOfSample trackId sample).isSome = sample.deliverable := by
  unfold frameOfSample GstSample.deliverable
  cases sample.buffer.isDroppable with
  | true => rfl
  | false =>
    cases gstClockTimeIsValid sample.runningTime with
    | false => rfl
    | true => cases sample.buffer.map <;> rfl

/-- The track is the sink's and the kind of the frame is the buffer's. -/
theorem frame_of_frameOfSample (h : frameOfSample trackId sample = some f) :
    f.frame = ⟨trackId, !sample.buffer.flagIsSet gstBufferFlagDeltaUnit, 0⟩ ∧
      sample.buffer.map = some f.frameData ∧
      f.presentationTs = sample.runningTime * defaultTimeUnitInNanos := by
  unfold frameOfSample at h
  split at h
  · cases h
  · split at h
    · cases h
    · cases hmap : sample.buffer.map with
      | none =>
        rw [hmap] at h
        cases h
      | some data =>
        rw [hmap] at h
        cases h
        exact ⟨rfl, rfl, rfl⟩

end

end WebrtcApp
