import WebrtcApp.App.AppSink
import WebrtcApp.Runs.FrameDelivery

/-!
# From the appsinks to the sessions

Each appsink has a streaming thread that runs `onNewSampleFromAppSink`, one sample after the other;
the threads of any number of sinks interleave with each other and with the application (`Delivery`).
The steps of the callback end where it takes or gives back something:

    pull      the sample is pulled
    map       the buffer is mapped, or the sample is dropped
    callHook  the sink hook gets `streamingSessionListReadLock`
    hookRound the hook's round with one session, or its return
    unmap, unref, close

`samples_delivered` follows the samples through to the sessions, `samples_held` says who holds
the samples and the mappings.  Both rest on what one sink knows of itself (`SinkOk`), which the
steps of the other sinks leave alone (`SinkOk.of_kept`).
-/

namespace WebrtcApp

/-! ## The machine -/

/-- A pointer to a `GstSample`, and one to a `GstMapInfo` that holds memory. -/
abbrev PGstSample := Nat
abbrev PGstMapInfo := Nat

structure GstMapInfo where
  sample : PGstSample
  data : List UInt8
  deriving DecidableEq

instance : Inhabited GstMapInfo := ⟨⟨0, []⟩⟩

/-- Where the streaming thread of a sink is in the callback. -/
inductive SinkPhase
  | idle
  | pulled (sample : PGstSample)
  | mapped (sample : PGstSample) (info : Option PGstMapInfo) (f : MediaFrame)
  | inHook (sample : PGstSample) (info : Option PGstMapInfo) (f : MediaFrame)
  | hooked (sample : PGstSample) (info : Option PGstMapInfo) (retStatus : Status)
  | unmapped (sample : PGstSample) (retStatus : Status)
  | released (retStatus : Status)
  deriving DecidableEq

/-- `pulled` records the samples of the sink. -/
structure AppSink where
  trackId : TrackId
  phase : SinkPhase
  pulled : List GstSample
  deriving DecidableEq

/-- A call of the sink hook: by which sink, on which track and with the frame of which sample. -/
structure SampleCall where
  sink : Nat
  trackId : TrackId
  sample : GstSample
  deriving DecidableEq

instance : Inhabited SampleCall := ⟨⟨0, .video, default⟩⟩

/-- `calls` are the calls of the hook, in the order in which they got its lock. -/
structure Sampling where
  delivery : Delivery
  ctx : RtspSrc.RtspSrcContext
  terminateApp : Bool
  samples : Arena GstSample
  mappings : Arena GstMapInfo
  sinks : List AppSink
  calls : List SampleCall

inductive SampleEvent
  | addSink (trackId : TrackId)
  | pull (i : Nat) (sample : GstSample)
  | map (i : Nat)
  | callHook (i : Nat)
  | hookRound (i : Nat) (writeFrame : Status)
  | unmap (i : Nat)
  | unref (i : Nat)
  | close (i : Nat)
  | app (a : Action)
  | terminate

/-- `STATUS_APP_COMMON_SHUTDOWN_MEDIA`, where the application is about to end. -/
def sinkHookStatus (terminateApp : Bool) : Status :=
  if terminateApp then .sdk 0x71000003 else .success

namespace Sampling

def start (latched : Bool) : Sampling where
  delivery := Delivery.start latched
  ctx := RtspSrc.RtspSrcContext.initial
  terminateApp := false
  samples := Arena.empty
  mappings := Arena.empty
  sinks := []
  calls := []

def setSink (s : Sampling) (i : Nat) (k : AppSink) : Sampling := { s with sinks := s.sinks.set i k }

/-- A step of the streaming thread of the sink `k`, the `i`-th. -/
def stepSink (s : Sampling) (i : Nat) (k : AppSink) : SampleEvent → Sampling
  | .pull _ sample =>
    match k.phase with
    | .idle =>
      { s.setSink i { k with phase := .pulled s.samples.next, pulled := k.pulled ++ [sample] } with
        samples := s.samples.alloc sample }
    | _ => s
  | .map _ =>
    match k.phase with
    | .pulled p =>
      let s := { s with samples := s.samples.touch p }
      match frameOfSample k.trackId (s.samples.read p) with
      | none => s.setSink i { k with phase := .unmapped p .success }
      | some f =>
        match f.frameData with
        | none => s.setSink i { k with phase := .mapped p none f }
        | some data =>
          { s.setSink i { k with phase := .mapped p (some s.mappings.next) f } with
            mappings := s.mappings.alloc ⟨p, data⟩ }
    | _ => s
  | .callHook _ =>
    match k.phase with
    | .mapped p info f =>
      if s.delivery.world.readLockFree then
        { s.setSink i { k with phase := .inHook p info f } with
          delivery := s.delivery.step (.mediaFrame f.frame, .success)
          calls := s.calls ++ [⟨i, k.trackId, s.samples.read p⟩] }
      else s
    | _ => s
  | .hookRound _ writeFrame =>
    match k.phase with
    | .inHook p info f =>
      let delivery := s.delivery.step (.advanceHook, writeFrame)
      let phase :=
        if delivery.world.hook.isNone then .hooked p info (sinkHookStatus s.terminateApp)
        else .inHook p info f
      { s.setSink i { k with phase := phase } with
        delivery := delivery
        samples := s.samples.touch p
        mappings := info.elim s.mappings s.mappings.touch }
    | _ => s
  | .unmap _ =>
    match k.phase with
    | .hooked p info retStatus =>
      { s.setSink i { k with phase := .unmapped p retStatus } with
        samples := s.samples.touch p
        mappings := info.elim s.mappings s.mappings.free }
    | _ => s
  | .unref _ =>
    match k.phase with
    | .unmapped p retStatus =>
      { s.setSink i { k with phase := .released retStatus } with samples := s.samples.free p }
    | _ => s
  | .close _ =>
    match k.phase with
    | .released retStatus =>
      { s.setSink i { k with phase := .idle } with
        ctx := RtspSrc.onNewSampleFromAppSink retStatus s.ctx }
    | _ => s
  | .addSink _ | .app _ | .terminate => s

def step (s : Sampling) (e : SampleEvent) : Sampling :=
  match e with
  | .addSink trackId => { s with sinks := s.sinks ++ [⟨trackId, .idle, []⟩] }
  | .app (.mediaFrame _) | .app .advanceHook => s   -- the hook is called by the sinks
  | .app a => { s with delivery := s.delivery.step (a, .success) }
  | .terminate => { s with terminateApp := true }
  | .pull i _ | .map i | .callHook i | .hookRound i _ | .unmap i | .unref i | .close i =>
    match s.sinks[i]? with
    | some k => s.stepSink i k e
    | none => s

end Sampling

/-! ## What a sink knows of itself -/

namespace SinkPhase

/-- The sample that the sink holds. -/
def sample : SinkPhase → Option PGstSample
  | .pulled p | .mapped p _ _ | .inHook p _ _ | .hooked p _ _ | .unmapped p _ => some p
  | .idle | .released _ => none

/-- The mapping that the sink holds. -/
def info : SinkPhase → Option PGstMapInfo
  | .mapped _ info _ | .inHook _ info _ | .hooked _ info _ => info
  | .idle | .pulled _ | .unmapped _ _ | .released _ => none

/-- The hook is still to be called with the sample, or the sample to be dropped. -/
def ahead : SinkPhase → Bool
  | .pulled _ | .mapped _ _ _ => true
  | .idle | .inHook _ _ _ | .hooked _ _ _ | .unmapped _ _ | .released _ => false

def isInHook : SinkPhase → Bool
  | .inHook _ _ _ => true
  | .idle | .pulled _ | .mapped _ _ _ | .hooked _ _ _ | .unmapped _ _ | .released _ => false

/-- Who holds a mapping holds the sample. -/
theorem sample_of_info {phase : SinkPhase} {m : PGstMapInfo} (h : phase.info = some m) :
    ∃ p, phase.sample = some p := by
  cases phase with
  | mapped p info f | inHook p info f | hooked p info st => exact ⟨p, rfl⟩
  | idle | pulled | unmapped | released => cases h

end SinkPhase

abbrev AppSink.sample (k : AppSink) : Option PGstSample := k.phase.sample

abbrev AppSink.info (k : AppSink) : Option PGstMapInfo := k.phase.info

/-- The samples of the sink less the one that is ahead. -/
def AppSink.settled (k : AppSink) : List GstSample :=
  if k.phase.ahead then k.pulled.dropLast else k.pulled

/-- The samples of the `i`-th sink that the hook was called with. -/
def Sampling.handed (s : Sampling) (i : Nat) : List GstSample :=
  (s.calls.filter (·.sink = i)).map (·.sample)

/-- A key frame is a buffer that is no delta unit. -/
def SampleCall.keyFrame (c : SampleCall) : Bool :=
  !c.sample.buffer.flagIsSet gstBufferFlagDeltaUnit

structure SinkOk (s : Sampling) (i : Nat) (k : AppSink) : Prop where
  handed : s.handed i = k.settled.filter (·.deliverable)
  current : ∀ p, k.phase.sample = some p → k.phase.ahead = true →
    ∃ front, k.pulled = front ++ [s.samples.read p]
  frame : ∀ p info f, k.phase = .mapped p info f ∨ k.phase = .inHook p info f →
    frameOfSample k.trackId (s.samples.read p) = some f
  mapping : ∀ p m, k.phase.sample = some p → k.phase.info = some m →
    (s.mappings.read m).sample = p
  track : ∀ c ∈ s.calls, c.sink = i → c.trackId = k.trackId
  hook : ∀ p info f, k.phase = .inHook p info f →
    ∃ j, s.delivery.world.hook = some (f.frame, j)

/-- The step leaves the `j`-th sink what it knows. -/
structure SinkKept (s s' : Sampling) (j : Nat) (k : AppSink) : Prop where
  handed : s'.handed j = s.handed j
  sample : ∀ p, k.phase.sample = some p → s'.samples.read p = s.samples.read p
  info : ∀ m, k.phase.info = some m → s'.mappings.read m = s.mappings.read m
  track : ∀ c ∈ s'.calls, c.sink = j → c ∈ s.calls
  hook : k.phase.isInHook = true → s'.delivery.world.hook = s.delivery.world.hook

theorem SinkOk.of_kept {s s' : Sampling} {i : Nat} {k : AppSink} (h : SinkOk s i k)
    (hk : SinkKept s s' i k) : SinkOk s' i k where
  handed := hk.handed.trans h.handed
  current p hp ha := by
    rw [hk.sample p hp]
    exact h.current p hp ha
  frame p info f hf := by
    have hp : k.phase.sample = some p := by
      rcases hf with hf | hf <;> rw [hf] <;> rfl
    rw [hk.sample p hp]
    exact h.frame p info f hf
  mapping p m hp hm := by
    rw [hk.info m hm]
    exact h.mapping p m hp hm
  track c hc hi := h.track c (hk.track c hc hi) hi
  hook p info f hf := by
    rw [hk.hook (by rw [hf]; rfl)]
    exact h.hook p info f hf

/-! ## The deliveries under a step -/

namespace Delivery

variable {d : Delivery} {a : Action} {st : Status} {frame : Frame} {j : Nat}

theorem step_other (d : Delivery) (st : Status) (ha : a ≠ .advanceHook) (hf : ∀ frame, a ≠ .mediaFrame frame) :
    d.step (a, st) = { d with world := d.world.step a } := by
  cases a with
  | advanceHook => exact absurd rfl ha
  | mediaFrame frame => exact absurd rfl (hf frame)
  | receive | poll | mediaEos | advance | addStats | connectionStateChange | mediaSenderDone
  | restartRequested | pregenerateCert => rfl

theorem step_mediaFrame (frame : Frame) (st : Status) (hfree : d.world.readLockFree = true) :
    d.step (.mediaFrame frame, st) =
      { d.takeFrame frame with world := { d.world with hook := some (frame, 0) } } := by
  simp only [step, World.step, hfree, if_true]

/-- A round of the hook makes no call of it, and it goes on with the same frame or ends. -/
theorem step_advanceHook (st : Status) (hx : d.world.hook = some (frame, j)) :
    (d.step (.advanceHook, st)).given = d.given ∧ (d.step (.advanceHook, st)).calls = d.calls ∧
      ((d.step (.advanceHook, st)).world.hook = none ∨
        (d.step (.advanceHook, st)).world.hook = some (frame, j + 1)) := by
  simp only [step, World.step, World.advanceHook, hx]
  split
  · exact ⟨rfl, rfl, Or.inr rfl⟩
  · exact ⟨rfl, rfl, Or.inl rfl⟩

end Delivery

/-! ## Every step keeps the invariant -/

/-- The call of the hook with the number `n`, counted from 1. -/
def Sampling.callAt (s : Sampling) (n : Nat) : SampleCall := s.calls.getD (n - 1) default

/-- The frame is the one of its call. -/
structure FrameCall.Of (f : FrameCall) (calls : List SampleCall) : Prop where
  pos : 0 < f.number
  le : f.number ≤ calls.length
  track : (calls.getD (f.number - 1) default).trackId = f.trackId
  keyFrame : (calls.getD (f.number - 1) default).keyFrame = f.keyFrame

theorem FrameCall.Of.append {f : FrameCall} {calls : List SampleCall} (h : f.Of calls)
    (c : SampleCall) : f.Of (calls ++ [c]) := by
  have hpos := h.pos
  have hle := h.le
  have hget : (calls ++ [c]).getD (f.number - 1) default = calls.getD (f.number - 1) default :=
    List.getD_append _ _ _ _ (by omega)
  refine ⟨h.pos, ?_, ?_, ?_⟩
  · rw [List.length_append]
    omega
  · rw [hget]
    exact h.track
  · rw [hget]
    exact h.keyFrame

structure SamplingOk (s : Sampling) : Prop where
  delivery : DeliveryOk s.delivery
  samples : s.samples.Owned (s.sinks.filterMap AppSink.sample)
  mappings : s.mappings.Owned (s.sinks.filterMap AppSink.info)
  sinks : ∀ i k, s.sinks[i]? = some k → SinkOk s i k
  one : ∀ (i j : Nat) (k l : AppSink), s.sinks[i]? = some k → s.sinks[j]? = some l → k.phase.isInHook = true →
    l.phase.isInHook = true → i = j
  calls : s.calls.length = s.delivery.calls
  known : ∀ c ∈ s.calls, c.sink < s.sinks.length
  source : ∀ p, ∀ f ∈ s.delivery.given p, f.Of s.calls

namespace SamplingOk

variable {s s' : Sampling} {i : Nat} {k k' : AppSink}

/-- The sink `i` makes a step and the others keep what they know. -/
theorem change (k' : AppSink) (h : SamplingOk s) (hi : s.sinks[i]? = some k)
    (hset : s'.sinks = s.sinks.set i k')
    (hdelivery : DeliveryOk s'.delivery)
    (hsamples : s'.samples.Owned ((s.sinks.set i k').filterMap AppSink.sample))
    (hmappings : s'.mappings.Owned ((s.sinks.set i k').filterMap AppSink.info))
    (hsink : SinkOk s' i k')
    (hothers : ∀ j l, j ≠ i → s.sinks[j]? = some l → SinkKept s s' j l)
    (hone : k'.phase.isInHook = true → ∀ j l, j ≠ i → s.sinks[j]? = some l →
      l.phase.isInHook = false)
    (hcalls : s'.calls.length = s'.delivery.calls) (hknown : ∀ c ∈ s'.calls, c.sink < s.sinks.length)
    (hsource : ∀ p, ∀ f ∈ s'.delivery.given p, f.Of s'.calls) : SamplingOk s' := by
  have hlt := (List.getElem?_eq_some_iff.mp hi).1
  have hself : s'.sinks[i]? = some k' := by
    rw [hset]
    exact List.getElem?_set_self hlt
  have hother : ∀ {j}, j ≠ i → s'.sinks[j]? = s.sinks[j]? := by
    intro j hj
    rw [hset]
    exact List.getElem?_set_ne (Ne.symm hj)
  refine ⟨hdelivery, hset ▸ hsamples, hset ▸ hmappings, fun j l hl => ?_, fun j j' l l' hl hl' => ?_,
    hcalls, fun c hc => ?_, hsource⟩
  · by_cases hj : j = i
    · subst hj
      cases Option.some.inj (hself.symm.trans hl)
      exact hsink
    · rw [hother hj] at hl
      exact (h.sinks j l hl).of_kept (hothers j l hj hl)
  · intro hin hin'
    by_cases hj : j = i
    · subst hj
      cases Option.some.inj (hself.symm.trans hl)
      by_contra hne
      rw [hother (Ne.symm hne)] at hl'
      exact Bool.noConfusion ((hone hin j' l' (Ne.symm hne) hl').symm.trans hin')
    · rw [hother hj] at hl
      by_cases hj' : j' = i
      · subst hj'
        cases Option.some.inj (hself.symm.trans hl')
        exact Bool.noConfusion ((hone hin' j l hj hl).symm.trans hin)
      · rw [hother hj'] at hl'
        exact h.one j j' l l' hl hl' hin hin'
  · rw [hset, List.length_set]
    exact hknown c hc

/-- A sink's sample is live, and so is its mapping. -/
theorem sample_live (h : SamplingOk s) (hi : s.sinks[i]? = some k) {p : PGstSample}
    (hp : k.phase.sample = some p) : s.samples.live p = true :=
  h.samples.live (Arena.Owned.mem_hold hi hp)

theorem info_live (h : SamplingOk s) (hi : s.sinks[i]? = some k) {m : PGstMapInfo}
    (hm : k.phase.info = some m) : s.mappings.live m = true :=
  h.mappings.live (Arena.Owned.mem_hold hi hm)

/-- A step that the application and the hook do not see. -/
theorem changeSink (k' : AppSink) (h : SamplingOk s) (hi : s.sinks[i]? = some k)
    (hset : s'.sinks = s.sinks.set i k') (hdelivery : s'.delivery = s.delivery)
    (hcalls : s'.calls = s.calls)
    (hsamples : s'.samples.Owned ((s.sinks.set i k').filterMap AppSink.sample))
    (hmappings : s'.mappings.Owned ((s.sinks.set i k').filterMap AppSink.info))
    (hread : ∀ p, s.samples.live p = true → s'.samples.read p = s.samples.read p)
    (hinfo : ∀ m, s.mappings.live m = true → s'.mappings.read m = s.mappings.read m)
    (hnot : k'.phase.isInHook = false) (hsink : SinkOk s' i k') : SamplingOk s' := by
  refine h.change k' hi hset (hdelivery ▸ h.delivery) hsamples hmappings hsink (fun j l hj hl => ?_)
    (fun hin => ?_) ?_ ?_ ?_
  · refine ⟨?_, fun p hp => hread p (h.sample_live hl hp), fun m hm => hinfo m (h.info_live hl hm),
      fun c hc _ => hcalls ▸ hc, fun _ => by rw [hdelivery]⟩
    simp only [Sampling.handed, hcalls]
  · rw [hnot] at hin
    cases hin
  · rw [hcalls, hdelivery]
    exact h.calls
  · rw [hcalls]
    exact h.known
  · rw [hcalls, hdelivery]
    exact h.source

theorem pull (h : SamplingOk s) (hi : s.sinks[i]? = some k) (sample : GstSample) :
    SamplingOk (s.stepSink i k (.pull i sample)) := by
  have hk := h.sinks i k hi
  cases hphase : k.phase with
  | idle =>
    have hsettled : k.settled = k.pulled := by simp [AppSink.settled, hphase, SinkPhase.ahead]
    have hsample : k.sample = none := by simp [AppSink.sample, hphase, SinkPhase.sample]
    have hinfo : k.info = none := by simp [AppSink.info, hphase, SinkPhase.info]
    simp only [Sampling.stepSink, hphase]
    refine h.changeSink _ hi rfl rfl rfl (h.samples.set_alloc hi hsample rfl sample)
      (h.mappings.set_keep hi hinfo.symm) (fun p hp => Arena.read_alloc_of_lt _ _ (Arena.live_lt hp))
      (fun _ _ => rfl) rfl ⟨?_, ?_, ?_, ?_, hk.track, ?_⟩
    · -- the new sample is ahead
      show s.handed i = _
      rw [hk.handed, hsettled]
      simp [AppSink.settled, SinkPhase.ahead]
    · intro p hp _
      cases hp
      exact ⟨k.pulled, by rw [Sampling.setSink, Arena.read_alloc_next]⟩
    · rintro p info f (hf | hf) <;> cases hf
    · intro p m _ hm
      cases hm
    · intro p info f hf
      cases hf
  | pulled | mapped | inHook | hooked | unmapped | released =>
    simp only [Sampling.stepSink, hphase]
    exact h

/-- The sample at hand is the last one that was pulled. -/
theorem settled_snoc (k' : AppSink) {p : PGstSample} (hk : SinkOk s i k) (hp : k.sample = some p)
    (ha : k.phase.ahead = true) (hphase : k'.phase.ahead = false) (hpulled : k'.pulled = k.pulled) :
    k'.settled = k.settled ++ [s.samples.read p] := by
  obtain ⟨front, hfront⟩ := hk.current p hp ha
  rw [AppSink.settled, AppSink.settled, hphase, ha, hpulled, hfront]
  simp

theorem map (h : SamplingOk s) (hi : s.sinks[i]? = some k) :
    SamplingOk (s.stepSink i k (.map i)) := by
  have hk := h.sinks i k hi
  cases hphase : k.phase with
  | pulled p =>
    have hsample : k.sample = some p := by simp [AppSink.sample, hphase, SinkPhase.sample]
    have hinfo : k.info = none := by simp [AppSink.info, hphase, SinkPhase.info]
    have hahead : k.phase.ahead = true := by simp [hphase, SinkPhase.ahead]
    have hlive := h.sample_live hi hsample
    have htouch : s.samples.touch p = s.samples := Arena.touch_of_live hlive
    simp only [Sampling.stepSink, hphase, htouch]
    cases hframe : frameOfSample k.trackId (s.samples.read p) with
    | none =>
      -- the sample is dropped
      have hdrop : (s.samples.read p).deliverable = false := by
        rw [← frameOfSample_isSome k.trackId, hframe]
        rfl
      simp only
      refine h.changeSink { k with phase := .unmapped p .success } hi rfl rfl rfl
        (h.samples.set_keep hi hsample.symm) (h.mappings.set_keep hi hinfo.symm) (fun _ _ => rfl)
        (fun _ _ => rfl) rfl ⟨?_, ?_, ?_, ?_, hk.track, ?_⟩
      · show s.handed i = _
        rw [hk.handed, settled_snoc { k with phase := .unmapped p .success } hk hsample hahead
          rfl rfl, List.filter_append]
        simp [hdrop]
      · intro q _ ha
        cases ha
      · rintro q info f (hf | hf) <;> cases hf
      · intro q m _ hm
        cases hm
      · intro q info f hf
        cases hf
    | some f =>
      have hcurrent : ∀ q, some p = some q → ∃ front, k.pulled = front ++ [s.samples.read q] := by
        intro q hq
        cases hq
        exact hk.current p hsample hahead
      have hhanded : ∀ info, s.handed i =
          ({ k with phase := .mapped p info f } : AppSink).settled.filter (·.deliverable) := by
        intro info
        rw [hk.handed]
        simp [AppSink.settled, SinkPhase.ahead, hphase]
      simp only
      cases f.frameData with
      | none =>
        refine h.changeSink { k with phase := .mapped p none f } hi rfl rfl rfl
          (h.samples.set_keep hi hsample.symm) (h.mappings.set_keep hi hinfo.symm) (fun _ _ => rfl)
          (fun _ _ => rfl) rfl ⟨hhanded none, fun q hq _ => hcurrent q hq, ?_, ?_, hk.track, ?_⟩
        · rintro q info g (hg | hg) <;> cases hg
          exact hframe
        · intro q m _ hm
          cases hm
        · intro q info g hg
          cases hg
      | some data =>
        refine h.changeSink { k with phase := .mapped p (some s.mappings.next) f } hi rfl rfl
          rfl (h.samples.set_keep hi hsample.symm) (h.mappings.set_alloc hi hinfo rfl ⟨p, data⟩)
          (fun _ _ => rfl) (fun m hm => Arena.read_alloc_of_lt _ _ (Arena.live_lt hm)) rfl
          ⟨hhanded _, fun q hq _ => hcurrent q hq, ?_, ?_, hk.track, ?_⟩
        · rintro q info g (hg | hg) <;> cases hg
          exact hframe
        · intro q m hq hm
          cases hq
          cases hm
          show ((s.mappings.alloc ⟨p, data⟩).read s.mappings.next).sample = p
          rw [Arena.read_alloc_next]
        · intro q info g hg
          cases hg
  | idle | mapped | inHook | hooked | unmapped | released =>
    simp only [Sampling.stepSink, hphase]
    exact h

/-- While a sink is in the hook, the hook has the lock. -/
theorem not_inHook (h : SamplingOk s) (hfree : s.delivery.world.readLockFree = true) {j : Nat}
    {l : AppSink} (hl : s.sinks[j]? = some l) : l.phase.isInHook = false := by
  cases hphase : l.phase with
  | inHook p info f =>
    obtain ⟨n, hx⟩ := (h.sinks j l hl).hook p info f hphase
    exact absurd ((World.readLockFree_of_hook hx).symm.trans hfree) Bool.noConfusion
  | idle | pulled | mapped | hooked | unmapped | released => rfl

theorem callHook (h : SamplingOk s) (hi : s.sinks[i]? = some k) :
    SamplingOk (s.stepSink i k (.callHook i)) := by
  have hk := h.sinks i k hi
  have hlt := (List.getElem?_eq_some_iff.mp hi).1
  cases hphase : k.phase with
  | mapped p info f =>
    simp only [Sampling.stepSink, hphase]
    split
    · next hfree =>
      have hsample : k.sample = some p := by simp [AppSink.sample, hphase, SinkPhase.sample]
      have hinfo : k.info = info := by simp [AppSink.info, hphase, SinkPhase.info]
      have hahead : k.phase.ahead = true := by simp [hphase, SinkPhase.ahead]
      have hf := hk.frame p info f (Or.inl hphase)
      have hstep := Delivery.step_mediaFrame f.frame .success hfree
      have hdel : (s.samples.read p).deliverable = true := by
        rw [← frameOfSample_isSome k.trackId, hf]
        rfl
      have hcalls : s.calls.length + 1 = (s.delivery.step (.mediaFrame f.frame, .success)).calls := by
        rw [hstep, h.calls]
        rfl
      refine h.change { k with phase := .inHook p info f } hi rfl
        (h.delivery.step _) (h.samples.set_keep hi hsample.symm) (h.mappings.set_keep hi hinfo.symm)
        ⟨?_, ?_, ?_, ?_, ?_, ?_⟩ (fun j l hj hl => ?_) (fun _ j l _ hl => h.not_inHook hfree hl)
        ?_ (fun c hc => ?_) fun q g hg => ?_
      · -- the call is the sink's next sample
        show (List.map _ (List.filter _ (s.calls ++ [_]))) = _
        have hhanded := hk.handed
        rw [Sampling.handed] at hhanded
        rw [List.filter_append, List.map_append, hhanded,
          settled_snoc { k with phase := .inHook p info f } hk hsample hahead rfl rfl,
          List.filter_append]
        simp [hdel]
      · intro q _ ha
        cases ha
      · rintro q info' g (hg | hg) <;> cases hg
        exact hf
      · intro q m hq hm
        cases hq
        exact hk.mapping p m hsample (hinfo.trans hm)
      · intro c hc hci
        rcases List.mem_append.mp hc with hc | hc
        · exact hk.track c hc hci
        · rw [List.mem_singleton.mp hc]
      · intro q info' g hg
        cases hg
        exact ⟨0, by rw [hstep]⟩
      · refine ⟨?_, fun _ _ => rfl, fun _ _ => rfl, fun c hc hcj => ?_, fun hin => ?_⟩
        · have hne : ¬ i = j := Ne.symm hj
          show (List.map _ (List.filter _ (s.calls ++ [_]))) = _
          rw [List.filter_append]
          simp [Sampling.handed, hne]
        · rcases List.mem_append.mp hc with hc | hc
          · exact hc
          · rw [List.mem_singleton.mp hc] at hcj
            exact absurd hcj.symm hj
        · exact absurd (hin.symm.trans (h.not_inHook hfree hl)) Bool.noConfusion
      · rw [← hcalls, List.length_append]
        rfl
      · rcases List.mem_append.mp hc with hc | hc
        · exact h.known c hc
        · rw [List.mem_singleton.mp hc]
          exact hlt
      · -- the new frame is the one of the new call
        rw [hstep] at hg
        have hg' : g ∈ if q ∈ s.delivery.world.app.streamingSessionList then
            s.delivery.given q ++ [⟨s.delivery.calls + 1, f.frame.trackId, f.frame.keyFrame⟩]
          else s.delivery.given q := hg
        have hold : g ∈ s.delivery.given q → g.Of (s.calls ++ [⟨i, k.trackId, s.samples.read p⟩]) :=
          fun hg => (h.source q g hg).append _
        split at hg'
        · rcases List.mem_append.mp hg' with hg' | hg'
          · exact hold hg'
          · rw [List.mem_singleton.mp hg', ← h.calls, (frame_of_frameOfSample hf).1]
            refine ⟨Nat.succ_pos _, by simp, ?_, ?_⟩
            · simp
            · simp [SampleCall.keyFrame]
        · exact hold hg'
    · exact h
  | idle | pulled | inHook | hooked | unmapped | released =>
    simp only [Sampling.stepSink, hphase]
    exact h

theorem hookRound (h : SamplingOk s) (hi : s.sinks[i]? = some k) (writeFrame : Status) :
    SamplingOk (s.stepSink i k (.hookRound i writeFrame)) := by
  have hk := h.sinks i k hi
  cases hphase : k.phase with
  | inHook p info f =>
    have hsample : k.sample = some p := by simp [AppSink.sample, hphase, SinkPhase.sample]
    have hinfo : k.info = info := by simp [AppSink.info, hphase, SinkPhase.info]
    have hin : k.phase.isInHook = true := by simp [hphase, SinkPhase.isInHook]
    have htouch : s.samples.touch p = s.samples := Arena.touch_of_live (h.sample_live hi hsample)
    have htouchm : info.elim s.mappings s.mappings.touch = s.mappings := by
      cases info with
      | none => rfl
      | some m => exact Arena.touch_of_live (h.info_live hi hinfo)
    obtain ⟨n, hx⟩ := hk.hook p info f hphase
    obtain ⟨hgiven, hcalls, hhook⟩ := Delivery.step_advanceHook writeFrame hx
    have hsettled : k.settled = k.pulled := by simp [AppSink.settled, hphase, SinkPhase.ahead]
    simp only [Sampling.stepSink, hphase, htouch, htouchm]
    generalize hphase' : (if (s.delivery.step (.advanceHook, writeFrame)).world.hook.isNone = true then
      SinkPhase.hooked p info (sinkHookStatus s.terminateApp) else .inHook p info f) = phase
    have hcases : phase = .hooked p info (sinkHookStatus s.terminateApp) ∨
        phase = .inHook p info f ∧
          (s.delivery.step (.advanceHook, writeFrame)).world.hook = some (f.frame, n + 1) := by
      rcases hhook with hnone | hsome
      · rw [hnone] at hphase'
        exact Or.inl hphase'.symm
      · rw [hsome] at hphase'
        exact Or.inr ⟨hphase'.symm, hsome⟩
    -- the sink holds what it held
    have hsample' : phase.sample = some p ∧ phase.info = info ∧ phase.ahead = false := by
      rcases hcases with rfl | ⟨rfl, -⟩ <;> exact ⟨rfl, rfl, rfl⟩
    refine h.change { k with phase := phase } hi rfl (h.delivery.step _)
      (h.samples.set_keep hi (hsample'.1.trans hsample.symm))
      (h.mappings.set_keep hi (hsample'.2.1.trans hinfo.symm)) ⟨?_, ?_, ?_, ?_, hk.track, ?_⟩
      (fun j l hj hl => ⟨rfl, fun _ _ => rfl, fun _ _ => rfl, fun c hc _ => hc, fun hin' => ?_⟩)
      (fun _ j l hj hl => ?_) (h.calls.trans hcalls.symm) h.known fun q g hg => ?_
    · show s.handed i = _
      rw [hk.handed, hsettled]
      simp [AppSink.settled, hsample'.2.2]
    · intro q _ ha
      exact Bool.noConfusion (hsample'.2.2.symm.trans ha)
    · rintro q info' g (hg | hg)
      · rcases hcases with rfl | ⟨rfl, -⟩ <;> cases hg
      · rcases hcases with rfl | ⟨rfl, -⟩ <;> cases hg
        exact hk.frame p info f (Or.inr hphase)
    · intro q m hq hm
      exact hk.mapping q m (hsample.trans (hsample'.1.symm.trans hq))
        (hinfo.trans (hsample'.2.1.symm.trans hm))
    · intro q info' g hg
      rcases hcases with rfl | ⟨rfl, hsome⟩
      · cases hg
      · cases hg
        exact ⟨n + 1, hsome⟩
    · exact absurd (h.one j i l k hl hi hin' hin) hj
    · by_contra hne
      exact hj (h.one j i l k hl hi ((Bool.not_eq_false _).mp hne) hin)
    · exact h.source q g (hgiven ▸ hg)
  | idle | pulled | mapped | hooked | unmapped | released =>
    simp only [Sampling.stepSink, hphase]
    exact h

theorem unmap (h : SamplingOk s) (hi : s.sinks[i]? = some k) :
    SamplingOk (s.stepSink i k (.unmap i)) := by
  have hk := h.sinks i k hi
  cases hphase : k.phase with
  | hooked p info retStatus =>
    have hsample : k.sample = some p := by simp [AppSink.sample, hphase, SinkPhase.sample]
    have hinfo : k.info = info := by simp [AppSink.info, hphase, SinkPhase.info]
    have htouch : s.samples.touch p = s.samples := Arena.touch_of_live (h.sample_live hi hsample)
    have hsettled : k.settled = k.pulled := by simp [AppSink.settled, hphase, SinkPhase.ahead]
    have hsink : ∀ s' : Sampling, s'.calls = s.calls →
        SinkOk s' i { k with phase := .unmapped p retStatus } := by
      intro s' hcalls
      refine ⟨?_, ?_, ?_, ?_, ?_, ?_⟩
      · rw [Sampling.handed, hcalls]
        exact hk.handed.trans (by rw [hsettled]; rfl)
      · intro q _ ha
        cases ha
      · rintro q info g (hg | hg) <;> cases hg
      · intro q m _ hm
        cases hm
      · intro c hc
        exact hk.track c (hcalls ▸ hc)
      · intro q info g hg
        cases hg
    simp only [Sampling.stepSink, hphase, htouch]
    cases info with
    | none =>
      exact h.changeSink { k with phase := .unmapped p retStatus } hi rfl rfl rfl
        (h.samples.set_keep hi hsample.symm) (h.mappings.set_keep hi hinfo.symm) (fun _ _ => rfl)
        (fun _ _ => rfl) rfl (hsink _ rfl)
    | some m =>
      exact h.changeSink { k with phase := .unmapped p retStatus } hi rfl rfl rfl
        (h.samples.set_keep hi hsample.symm) (h.mappings.set_free hi hinfo rfl) (fun _ _ => rfl)
        (fun q _ => Arena.read_free _ _ _) rfl (hsink _ rfl)
  | idle | pulled | mapped | inHook | unmapped | released =>
    simp only [Sampling.stepSink, hphase]
    exact h

/-- A sink without a sample has handed on all its samples that give a frame. -/
theorem sinkOk_done (hk : SinkOk s i k) (hold : k.phase.ahead = false) (hcalls : s'.calls = s.calls)
    (hpulled : k'.pulled = k.pulled) (htrack : k'.trackId = k.trackId)
    (hphase : k'.phase = .idle ∨ ∃ retStatus, k'.phase = .released retStatus) : SinkOk s' i k' := by
  have hnone : k'.phase.ahead = false ∧ k'.phase.info = none := by
    rcases hphase with hp | ⟨retStatus, hp⟩ <;> rw [hp] <;> exact ⟨rfl, rfl⟩
  have hsettled : k'.settled = k.settled := by
    rw [AppSink.settled, AppSink.settled, hold, hnone.1, hpulled]
  refine ⟨?_, ?_, ?_, ?_, ?_, ?_⟩
  · rw [Sampling.handed, hcalls, hsettled]
    exact hk.handed
  · intro q _ ha
    exact Bool.noConfusion (hnone.1.symm.trans ha)
  · intro q info g hg
    rcases hphase with hp | ⟨retStatus, hp⟩ <;> rw [hp] at hg <;> rcases hg with hg | hg <;> cases hg
  · intro q m _ hm
    exact absurd (hnone.2.symm.trans hm) (Option.some_ne_none m).symm
  · intro c hc hci
    rw [htrack]
    exact hk.track c (hcalls ▸ hc) hci
  · intro q info g hg
    rcases hphase with hp | ⟨retStatus, hp⟩ <;> rw [hp] at hg <;> cases hg

theorem unref (h : SamplingOk s) (hi : s.sinks[i]? = some k) :
    SamplingOk (s.stepSink i k (.unref i)) := by
  have hk := h.sinks i k hi
  cases hphase : k.phase with
  | unmapped p retStatus =>
    have hsample : k.sample = some p := by simp [AppSink.sample, hphase, SinkPhase.sample]
    have hinfo : k.info = none := by simp [AppSink.info, hphase, SinkPhase.info]
    have hahead : k.phase.ahead = false := by simp [hphase, SinkPhase.ahead]
    simp only [Sampling.stepSink, hphase]
    exact h.changeSink { k with phase := .released retStatus } hi rfl rfl rfl
      (h.samples.set_free hi hsample rfl) (h.mappings.set_keep hi hinfo.symm)
      (fun q _ => Arena.read_free _ _ _) (fun _ _ => rfl) rfl
      (sinkOk_done hk hahead rfl rfl rfl (Or.inr ⟨retStatus, rfl⟩))
  | idle | pulled | mapped | inHook | hooked | released =>
    simp only [Sampling.stepSink, hphase]
    exact h

theorem close (h : SamplingOk s) (hi : s.sinks[i]? = some k) :
    SamplingOk (s.stepSink i k (.close i)) := by
  have hk := h.sinks i k hi
  cases hphase : k.phase with
  | released retStatus =>
    have hsample : k.sample = none := by simp [AppSink.sample, hphase, SinkPhase.sample]
    have hinfo : k.info = none := by simp [AppSink.info, hphase, SinkPhase.info]
    have hahead : k.phase.ahead = false := by simp [hphase, SinkPhase.ahead]
    simp only [Sampling.stepSink, hphase]
    exact h.changeSink { k with phase := .idle } hi rfl rfl rfl
      (h.samples.set_keep hi hsample.symm) (h.mappings.set_keep hi hinfo.symm) (fun _ _ => rfl)
      (fun _ _ => rfl) rfl (sinkOk_done hk hahead rfl rfl rfl (Or.inl rfl))
  | idle | pulled | mapped | inHook | hooked | unmapped =>
    simp only [Sampling.stepSink, hphase]
    exact h

theorem addSink (h : SamplingOk s) (trackId : TrackId) :
    SamplingOk (s.step (.addSink trackId)) := by
  have hnew : ∀ {j : Nat} {l : AppSink}, (s.sinks ++ [⟨trackId, .idle, []⟩])[j]? = some l →
      s.sinks[j]? = some l ∨ j = s.sinks.length ∧ l = ⟨trackId, .idle, []⟩ := by
    intro j l hl
    rcases Nat.lt_or_ge j s.sinks.length with hj | hj
    · rw [List.getElem?_append_left hj] at hl
      exact Or.inl hl
    · rw [List.getElem?_append_right hj, List.getElem?_singleton] at hl
      split at hl
      · next hzero => exact Or.inr ⟨by omega, (Option.some.inj hl).symm⟩
      · cases hl
  have hnone : s.calls.filter (·.sink = s.sinks.length) = [] := by
    refine List.filter_eq_nil_iff.mpr fun c hc => ?_
    have := h.known c hc
    simp only [decide_eq_true_eq]
    omega
  refine ⟨h.delivery, ?_, ?_, fun j l hl => ?_, fun j j' l l' hl hl' hin hin' => ?_, h.calls,
    fun c hc => ?_, h.source⟩
  · show s.samples.Owned (List.filterMap _ (s.sinks ++ [_]))
    rw [List.filterMap_append]
    exact (List.append_nil _).symm ▸ h.samples
  · show s.mappings.Owned (List.filterMap _ (s.sinks ++ [_]))
    rw [List.filterMap_append]
    exact (List.append_nil _).symm ▸ h.mappings
  · rcases hnew hl with hl | ⟨rfl, rfl⟩
    · exact (h.sinks j l hl).of_kept
        ⟨rfl, fun _ _ => rfl, fun _ _ => rfl, fun c hc _ => hc, fun _ => rfl⟩
    · refine ⟨?_, ?_, ?_, ?_, fun c hc hci => ?_, ?_⟩
      · show List.map _ (List.filter _ s.calls) = _
        rw [hnone]
        rfl
      · intro p _ ha
        cases ha
      · rintro p info f (hf | hf) <;> cases hf
      · intro p m _ hm
        cases hm
      · exact absurd (h.known c hc) (by omega)
      · intro p info f hf
        cases hf
  · rcases hnew hl with hl | ⟨rfl, rfl⟩
    · rcases hnew hl' with hl' | ⟨rfl, rfl⟩
      · exact h.one j j' l l' hl hl' hin hin'
      · cases hin'
    · cases hin
  · have := h.known c hc
    show c.sink < (s.sinks ++ [_]).length
    rw [List.length_append]
    omega

/-- The application's own steps leave the calls of the hook and where it is. -/
theorem app (h : SamplingOk s) {a : Action} (ha : a ≠ .advanceHook)
    (hf : ∀ frame, a ≠ .mediaFrame frame) :
    SamplingOk { s with delivery := s.delivery.step (a, .success) } := by
  have hstep := Delivery.step_other s.delivery .success ha hf
  have hhook : (s.delivery.step (a, .success)).world.hook = s.delivery.world.hook := by
    rw [hstep]
    exact World.hook_step ha hf
  refine ⟨h.delivery.step _, h.samples, h.mappings, fun j l hl => ?_, h.one, ?_, h.known, ?_⟩
  · exact (h.sinks j l hl).of_kept
      ⟨rfl, fun _ _ => rfl, fun _ _ => rfl, fun c hc _ => hc, fun _ => hhook⟩
  · rw [hstep]
    exact h.calls
  · rw [hstep]
    exact h.source

theorem step (h : SamplingOk s) (e : SampleEvent) : SamplingOk (s.step e) := by
  have hsink : ∀ i, (∀ k, s.sinks[i]? = some k → SamplingOk (s.stepSink i k e)) →
      SamplingOk (match s.sinks[i]? with
        | some k => s.stepSink i k e
        | none => s) := by
    intro i hi
    split
    · next k hk => exact hi k hk
    · exact h
  cases e with
  | addSink trackId => exact h.addSink trackId
  | pull i sample => exact hsink i fun k hk => h.pull hk sample
  | map i => exact hsink i fun k hk => h.map hk
  | callHook i => exact hsink i fun k hk => h.callHook hk
  | hookRound i writeFrame => exact hsink i fun k hk => h.hookRound hk writeFrame
  | unmap i => exact hsink i fun k hk => h.unmap hk
  | unref i => exact hsink i fun k hk => h.unref hk
  | close i => exact hsink i fun k hk => h.close hk
  | app a =>
    cases a
    case mediaFrame frame => exact h
    case advanceHook => exact h
    all_goals exact h.app Action.noConfusion fun _ => Action.noConfusion
  | terminate =>
    exact ⟨h.delivery, h.samples, h.mappings, fun j l hl => (h.sinks j l hl).of_kept
      ⟨rfl, fun _ _ => rfl, fun _ _ => rfl, fun c hc _ => hc, fun _ => rfl⟩, h.one, h.calls, h.known,
      h.source⟩

theorem start (latched : Bool) : SamplingOk (Sampling.start latched) where
  delivery := DeliveryOk.start latched
  samples := Arena.Owned.empty
  mappings := Arena.Owned.empty
  sinks _ _ hk := absurd hk (Option.some_ne_none _).symm
  one _ _ _ _ hk := absurd hk (Option.some_ne_none _).symm
  calls := rfl
  known _ hc := absurd hc List.not_mem_nil
  source _ _ hf := absurd hf List.not_mem_nil

theorem exec (latched : Bool) (es : List SampleEvent) :
    SamplingOk (Run.exec Sampling.step (Sampling.start latched) es) :=
  Run.exec_invariant (I := SamplingOk) (fun _ e h => h.step e) (start latched) es

end SamplingOk

/-! ## The samples of a session -/

namespace Sampling

/-- The calls of the hook that found `p` listed, less the one whose round with `p` is to come. -/
def seen (s : Sampling) (p : PStreamingSession) : List SampleCall :=
  (s.delivery.settled p).map fun f => s.callAt f.number

/-- The calls whose frame was written to `p`. -/
def written (s : Sampling) (p : PStreamingSession) : List SampleCall :=
  (s.delivery.offers p).map fun w => s.callAt w.number

end Sampling

/-- `p` is written what is due of the samples it saw, each once and in order. -/
structure SamplesDelivered (s : Sampling) (p : PStreamingSession) : Prop where
  audio : (s.written p).filter (·.trackId = .audio) = (s.seen p).filter (·.trackId = .audio)
  video : (s.written p).filter (·.trackId = .video) =
    ((s.seen p).filter (·.trackId = .video)).dropWhile (!·.keyFrame)
  order : (s.written p).Sublist (s.seen p)
  calls : (s.seen p).Sublist s.calls

section
variable {calls : List SampleCall} {l : List FrameCall}

theorem filter_calls (h : ∀ f ∈ l, f.Of calls) (t : TrackId) :
    (l.map fun f => calls.getD (f.number - 1) default).filter (·.trackId = t) =
      (l.filter (·.trackId = t)).map fun f => calls.getD (f.number - 1) default := by
  rw [List.filter_map]
  refine congrArg _ (List.filter_congr fun f hf => ?_)
  simp only [Function.comp, (h f hf).track]

theorem dropWhile_calls (h : ∀ f ∈ l, f.Of calls) :
    (l.map fun f => calls.getD (f.number - 1) default).dropWhile (!·.keyFrame) =
      (l.dropWhile (!·.keyFrame)).map fun f => calls.getD (f.number - 1) default := by
  induction l with
  | nil => rfl
  | cons f l ih =>
    have hf := (h f List.mem_cons_self).keyFrame
    have hl : ∀ g ∈ l, g.Of calls := fun g hg => h g (List.mem_cons_of_mem _ hg)
    rw [List.map_cons, List.dropWhile_cons, List.dropWhile_cons, hf]
    split
    · exact ih hl
    · rfl

/-- Increasing numbers pick the calls in their order. -/
theorem sublist_calls (h : ∀ f ∈ l, f.Of calls) (hl : l.Pairwise (·.number < ·.number)) :
    (l.map fun f => calls.getD (f.number - 1) default).Sublist calls := by
  have hlt : ∀ f ∈ l, f.number - 1 < calls.length := by
    intro f hf
    have hpos := (h f hf).pos
    have hle := (h f hf).le
    omega
  have his : (l.pmap (fun f hf => (⟨f.number - 1, hf⟩ : Fin calls.length)) hlt).Pairwise (· < ·) := by
    rw [List.pairwise_pmap]
    refine List.Pairwise.imp_of_mem ?_ hl
    intro f g hf hg hfg _ _
    have hpos := (h f hf).pos
    show f.number - 1 < g.number - 1
    omega
  have hmap := List.map_getElem_sublist his
  rw [List.map_pmap] at hmap
  have heq : (l.map fun f => calls.getD (f.number - 1) default) =
      l.pmap (fun f hf => calls[(⟨f.number - 1, hf⟩ : Fin calls.length)]) hlt := by
    rw [← List.pmap_eq_map (p := fun f : FrameCall => f.number - 1 < calls.length) hlt]
    refine List.pmap_congr_left l fun f _ hf _ => ?_
    exact List.getD_eq_getElem _ _ hf
  rw [heq]
  exact hmap

end

theorem Delivery.settled_sublist {d : Delivery} {p : PStreamingSession} :
    (d.settled p).Sublist (d.given p) := by
  unfold Delivery.settled
  split
  · exact List.dropLast_sublist _
  · exact List.Sublist.refl _

theorem SamplingOk.samplesDelivered {s : Sampling} (h : SamplingOk s) (p : PStreamingSession) :
    SamplesDelivered s p := by
  have hd := h.delivery.framesDelivered p
  have hof : ∀ f ∈ s.delivery.settled p, f.Of s.calls :=
    fun f hf => h.source p f (Delivery.settled_sublist.subset hf)
  have hofw : ∀ f ∈ (s.delivery.offers p).map WriteFrame.given, f.Of s.calls :=
    fun f hf => hof f (hd.delivered.order.subset hf)
  have hwritten : s.written p = ((s.delivery.offers p).map WriteFrame.given).map fun f =>
      s.calls.getD (f.number - 1) default := by
    rw [List.map_map]
    rfl
  have hseen : s.seen p = (s.delivery.settled p).map fun f => s.calls.getD (f.number - 1) default :=
    rfl
  refine ⟨?_, ?_, ?_, ?_⟩
  · rw [hwritten, hseen, filter_calls hofw, filter_calls hof, hd.delivered.audio]
  · have hofv : ∀ f ∈ (s.delivery.settled p).filter (·.trackId = .video), f.Of s.calls :=
      fun f hf => hof f (List.mem_of_mem_filter hf)
    rw [hwritten, hseen, filter_calls hofw, filter_calls hof, dropWhile_calls hofv,
      hd.delivered.video]
  · rw [hwritten, hseen]
    exact hd.delivered.order.map _
  · rw [hseen]
    exact sublist_calls hof (hd.once.sublist Delivery.settled_sublist)

/-- In every run each session is written, of the samples whose calls of the hook found it listed,
all the audio and the video from the first key frame on, in order and each once; and the calls of
the hook are, for each sink, its samples that give a frame, all of them, in order and each once,
less the one that is ahead. -/
theorem samples_delivered (latched : Bool) (es : List SampleEvent) (p : PStreamingSession) :
    SamplesDelivered (Run.exec Sampling.step (Sampling.start latched) es) p ∧
      ∀ i k, (Run.exec Sampling.step (Sampling.start latched) es).sinks[i]? = some k →
        (Run.exec Sampling.step (Sampling.start latched) es).handed i =
            k.settled.filter (·.deliverable) ∧
          ∀ c ∈ (Run.exec Sampling.step (Sampling.start latched) es).calls, c.sink = i →
            c.trackId = k.trackId := by
  have h := SamplingOk.exec latched es
  refine ⟨h.samplesDelivered p, fun i k hk => ?_⟩
  exact ⟨(h.sinks i k hk).handed, (h.sinks i k hk).track⟩

/-! ## Samples and mappings -/

/-- Who holds what: each sample is unreferenced once and no sooner than its sink is done with it,
each buffer is unmapped once, while its sample is held, and neither is used afterwards. -/
structure SamplesHeld (s : Sampling) : Prop where
  samples : s.samples.Owned (s.sinks.filterMap AppSink.sample)
  mappings : s.mappings.Owned (s.sinks.filterMap AppSink.info)
  mapped : ∀ m, s.mappings.live m = true → s.samples.live (s.mappings.read m).sample = true
  /-- The hook runs for one sink, on the memory that the sink has mapped. -/
  hook : ∀ (i : Nat) (k : AppSink), s.sinks[i]? = some k → k.phase.isInHook = true →
    (∃ p f, k.sample = some p ∧ frameOfSample k.trackId (s.samples.read p) = some f ∧
      ∃ n, s.delivery.world.hook = some (f.frame, n)) ∧
    ∀ (j : Nat) (l : AppSink), s.sinks[j]? = some l → l.phase.isInHook = true → i = j

/-- In every run the samples and mappings that are live are those the sinks hold, each held by one
sink. -/
theorem samples_held (latched : Bool) (es : List SampleEvent) :
    SamplesHeld (Run.exec Sampling.step (Sampling.start latched) es) := by
  have h := SamplingOk.exec latched es
  refine ⟨h.samples, h.mappings, fun m hm => ?_, fun i k hk hin => ⟨?_, fun j l hl hin' => ?_⟩⟩
  · obtain ⟨k, hmem, hinfo⟩ := List.mem_filterMap.mp ((h.mappings.live_iff m).mp hm)
    obtain ⟨i, hi⟩ := List.mem_iff_getElem?.mp hmem
    obtain ⟨p, hp⟩ := SinkPhase.sample_of_info hinfo
    rw [(h.sinks i k hi).mapping p m hp hinfo]
    exact h.sample_live hi hp
  · cases hphase : k.phase with
    | inHook p info f =>
      refine ⟨p, f, by rw [AppSink.sample, hphase]; rfl, ?_, ?_⟩
      · exact (h.sinks i k hk).frame p info f (Or.inr hphase)
      · exact (h.sinks i k hk).hook p info f hphase
    | idle | pulled | mapped | hooked | unmapped | released =>
      rw [hphase] at hin
      cases hin
  · exact h.one i j k l hk hl hin hin'

end WebrtcApp
