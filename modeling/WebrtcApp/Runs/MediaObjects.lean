import WebrtcApp.Lib.Arena
import WebrtcApp.Runs.MediaLoop

/-!
# The pipelines, buses and main loops of the media source

`MediaRun` with the objects that the thread makes, call by call: `discoverMediaSource` and
`runMediaSource` differ in the callbacks they connect and in the pointer by which they release the
main loop.  The context stores the pipeline, which the pad callbacks add their sinks to, and the
main loop, which `closeGstRtspSrc` quits.

Callbacks are fired while the pipeline plays, and setting it to `NULL` returns when they have
returned.  On every path through the clean-up, each object is then released once, in an order that
leaves no callback a dead pointer (`media_objects_owned`).  Without the objects, the steps are those
of `MediaRun` (`media_objects_refine`).
-/

namespace WebrtcApp.RtspSrc

abbrev PGstPipeline := Nat
abbrev PGstBus := Nat
abbrev PMainLoop := Nat

structure GstPipeline where
  playing : Bool
  deriving DecidableEq, Inhabited

structure GstBus where
  watched : Bool
  deriving DecidableEq, Inhabited

instance : Inhabited MainLoop := ⟨.new⟩

/-- The call that the thread makes next.  `playing`: the one that sets the pipeline to `PLAYING` is
under way. -/
inductive ThreadPhase
  | idle
  | pipelineNew
  | initGstRtspSrc
  | getBus
  | addSignalWatch
  | setPlaying
  | playing
  | mainLoopRun
  | running
  | releaseBus
  | setNull
  | unrefPipeline
  | unrefMainLoop
  deriving DecidableEq

def ThreadPhase.toPhase : ThreadPhase → Phase
  | .idle => .idle
  | .pipelineNew | .initGstRtspSrc | .getBus | .addSignalWatch | .setPlaying => .setUp
  | .playing => .playing
  | .mainLoopRun => .created
  | .running => .running
  | .releaseBus | .setNull => .cleanUp
  | .unrefPipeline | .unrefMainLoop => .stopped

/-- The locals of the two functions; `mainLoop` is one of `runMediaSource`. -/
structure MediaThread where
  enableProbe : Bool
  phase : ThreadPhase
  pipeline : Option PGstPipeline
  bus : Option PGstBus
  mainLoop : Option PMainLoop
  deriving DecidableEq

/-- `ctx` is the context but for the pointers `pipeline` and `mainLoop`.  `misused` records a call
on no pipeline, the removal of a signal watch that is not there, and the release of a pipeline that
is not `NULL` or of a bus with a watch. -/
structure MediaObjects where
  ctx : RtspSrcContext
  pipeline : Option PGstPipeline
  mainLoop : Option PMainLoop
  thread : MediaThread
  callbacks : List (List Act)
  closed : Bool
  pipelines : Arena GstPipeline
  buses : Arena GstBus
  loops : Arena MainLoop
  misused : Bool

/-- `call`: the next call of the thread returns, where it can fail with `ok` or not. -/
inductive MediaEvent
  | start (enableProbe : Bool)
  | call (ok : Bool)
  | fire (cb : Callback)
  | act (i : Nat)
  | shutdownMediaSource

namespace MediaObjects

def init : MediaObjects where
  ctx := RtspSrcContext.initial
  pipeline := none
  mainLoop := none
  thread := ⟨false, .idle, none, none, none⟩
  callbacks := []
  closed := false
  pipelines := .empty
  buses := .empty
  loops := .empty
  misused := false

def goto (s : MediaObjects) (phase : ThreadPhase) : MediaObjects :=
  { s with thread := { s.thread with phase := phase } }

/-- The pipeline of the thread is not in the state `NULL`. -/
def isPlaying (s : MediaObjects) : Bool :=
  match s.thread.pipeline with
  | some p => (s.pipelines.read p).playing
  | none => false

/-- A call on a pipeline. -/
def usePipeline (s : MediaObjects) : Option PGstPipeline → MediaObjects
  | some p => { s with pipelines := s.pipelines.touch p }
  | none => { s with misused := true }

def setState (s : MediaObjects) (playing : Bool) : MediaObjects :=
  match s.thread.pipeline with
  | some p => { s with pipelines := s.pipelines.modify p fun _ => ⟨playing⟩ }
  | none => { s with misused := true }

/-- `app_gst_bus_remove_signal_watch` and `app_gst_object_unref`. -/
def releaseBus (s : MediaObjects) : MediaObjects :=
  match s.thread.bus with
  | some b => { s with
      misused := s.misused || !(s.buses.read b).watched
      buses := (s.buses.modify b fun _ => ⟨false⟩).free b
      thread := { s.thread with bus := none } }
  | none => s

def unrefPipeline (s : MediaObjects) : MediaObjects :=
  match s.thread.pipeline with
  | some p => { s with
      misused := s.misused || (s.pipelines.read p).playing
      pipelines := s.pipelines.free p
      pipeline := none
      thread := { s.thread with pipeline := none } }
  | none => s

/-- `app_g_main_loop_unref` on the stored main loop, of which only `discoverMediaSource` knows that
it is there: `runMediaSource` tests its own. -/
def unrefMainLoop (s : MediaObjects) : MediaObjects :=
  match if s.thread.enableProbe then s.mainLoop else s.thread.mainLoop with
  | some _ =>
    let s := match s.mainLoop with
      | some l => { s with loops := s.loops.free l }
      | none => { s with misused := true }
    { s with mainLoop := none, thread := { s.thread with mainLoop := none } }
  | none => s

/-- `app_g_main_loop_run` on the stored main loop. -/
def runLoop (s : MediaObjects) : MediaObjects :=
  match s.mainLoop with
  | some l => { s with loops := s.loops.modify l MainLoop.run }
  | none => { s with misused := true }

/-- The loop of `app_g_main_loop_run` goes on. -/
def loopRuns (s : MediaObjects) : Bool :=
  match s.mainLoop with
  | some l => (s.loops.read l).isRunning
  | none => false

/-- The next call of the thread. -/
def call (s : MediaObjects) (ok : Bool) : MediaObjects :=
  match s.thread.phase with
  | .idle => s
  | .pipelineNew =>
    if ok then
      { s with
        pipelines := s.pipelines.alloc ⟨false⟩
        pipeline := some s.pipelines.next
        thread := { s.thread with phase := .initGstRtspSrc, pipeline := some s.pipelines.next } }
    else s.goto .releaseBus
  | .initGstRtspSrc =>
    if ok then (s.usePipeline s.thread.pipeline).goto .getBus else s.goto .releaseBus
  | .getBus =>
    let s := s.usePipeline s.thread.pipeline
    if ok then
      { s with
        buses := s.buses.alloc ⟨false⟩
        thread := { s.thread with phase := .addSignalWatch, bus := some s.buses.next } }
    else s.goto .releaseBus
  | .addSignalWatch =>
    match s.thread.bus with
    | some b => { s with buses := s.buses.modify b fun _ => ⟨true⟩ }.goto .setPlaying
    | none => { s with misused := true }.goto .setPlaying
  | .setPlaying => (s.setState true).goto .playing
  | .playing =>
    if ok then
      { s with
        loops := s.loops.alloc .new
        mainLoop := some s.loops.next
        thread := { s.thread with
          phase := .mainLoopRun
          mainLoop := if s.thread.enableProbe then none else some s.loops.next } }
    else s.goto .releaseBus
  | .mainLoopRun => s.runLoop.goto .running
  | .running => if s.loopRuns then s else s.goto .releaseBus
  | .releaseBus => s.releaseBus.goto .setNull
  | .setNull =>
    match s.thread.pipeline with
    | some _ =>
      if s.callbacks.all List.isEmpty then (s.setState false).goto .unrefPipeline else s
    | none => s.goto .unrefPipeline
  | .unrefPipeline => s.unrefPipeline.goto .unrefMainLoop
  | .unrefMainLoop => s.unrefMainLoop.goto .idle

/-- What a step of a callback does to the objects; a pad's sinks go to the stored pipeline. -/
def exec (s : MediaObjects) : Act → MediaObjects
  | .close =>
    match s.mainLoop with
    | some l => { s with loops := s.loops.modify l MainLoop.quit }
    | none => s
  | .probe _ | .connect _ => s.usePipeline s.pipeline
  | .updateStatus _ | .latch | .loadShutdown => s

/-- The next step of the `i`-th callback. -/
def doAct (s : MediaObjects) (i : Nat) : MediaObjects :=
  match s.callbacks[i]? with
  | some (act :: acts) => { s.exec act with
      ctx := (act.exec s.ctx).1
      callbacks := s.callbacks.set i ((act.exec s.ctx).2 ++ acts)
      closed := s.closed || decide (act = .close) }
  | _ => s

def step (s : MediaObjects) : MediaEvent → MediaObjects
  | .start enableProbe =>
    if s.thread.phase = .idle then
      { s with
        ctx := { s.ctx with codecStatus := .success }
        thread := ⟨enableProbe, .pipelineNew, none, none, none⟩
        closed := false }
    else s
  | .call ok => s.call ok
  | .fire cb =>
    if s.isPlaying && cb.connected s.thread.enableProbe then
      { s with callbacks := s.callbacks ++ [cb.code] }
    else s
  | .act i => s.doAct i
  | .shutdownMediaSource => { s with ctx := RtspSrc.shutdownMediaSource s.ctx }

/-! ## Who holds what -/

section
variable {s : MediaObjects}

def HoldsPipeline (s : MediaObjects) (playing : Bool) : Prop :=
  ∃ p, s.thread.pipeline = some p ∧ s.pipelines.read p = ⟨playing⟩

def HoldsBus (s : MediaObjects) (watched : Bool) : Prop :=
  ∃ b, s.thread.bus = some b ∧ s.buses.read b = ⟨watched⟩

/-- What the thread holds before a call. -/
def PhaseOk (s : MediaObjects) : Prop :=
  match s.thread.phase with
  | .idle | .pipelineNew => s.thread.pipeline = none ∧ s.thread.bus = none ∧ s.mainLoop = none
  | .initGstRtspSrc | .getBus => s.HoldsPipeline false ∧ s.thread.bus = none ∧ s.mainLoop = none
  | .addSignalWatch => s.HoldsPipeline false ∧ s.HoldsBus false ∧ s.mainLoop = none
  | .setPlaying => s.HoldsPipeline false ∧ s.HoldsBus true ∧ s.mainLoop = none
  | .playing => s.HoldsPipeline true ∧ s.HoldsBus true ∧ s.mainLoop = none
  | .mainLoopRun | .running => s.HoldsPipeline true ∧ s.HoldsBus true ∧ s.mainLoop.isSome = true
  | .releaseBus => s.thread.bus = none ∨ s.HoldsBus true
  | .setNull => s.thread.bus = none
  | .unrefPipeline => s.thread.bus = none ∧ s.isPlaying = false
  | .unrefMainLoop => s.thread.bus = none ∧ s.thread.pipeline = none

/-- The live objects are those that the thread holds, and callbacks are under way only in a
pipeline that plays. -/
structure ObjectsOk (s : MediaObjects) : Prop where
  ctx : s.ctx.mainLoop = none
  unmisused : s.misused = false
  pipelines : s.pipelines.Owned s.thread.pipeline.toList
  buses : s.buses.Owned s.thread.bus.toList
  loops : s.loops.Owned s.mainLoop.toList
  stored : s.pipeline = s.thread.pipeline
  own : s.thread.mainLoop = if s.thread.enableProbe then none else s.mainLoop
  pending : (∀ acts ∈ s.callbacks, acts = []) ∨ s.isPlaying = true
  phase : s.PhaseOk

theorem HoldsPipeline.isPlaying {playing : Bool} (h : s.HoldsPipeline playing) :
    s.isPlaying = playing := by
  obtain ⟨p, hp, hread⟩ := h
  unfold MediaObjects.isPlaying
  rw [hp]
  show (s.pipelines.read p).playing = playing
  rw [hread]

theorem isPlaying_of_none (h : s.thread.pipeline = none) : s.isPlaying = false := by
  unfold MediaObjects.isPlaying
  rw [h]

theorem HoldsPipeline.pipeline_ne_none {playing : Bool} (h : s.HoldsPipeline playing) :
    s.thread.pipeline ≠ none := by
  obtain ⟨p, hp, -⟩ := h
  rw [hp]
  exact Option.some_ne_none p

namespace ObjectsOk

theorem init : ObjectsOk init :=
  ⟨rfl, rfl, Arena.Owned.empty, Arena.Owned.empty, Arena.Owned.empty, rfl, rfl,
    Or.inl (fun _ h => absurd h List.not_mem_nil), rfl, rfl, rfl⟩

/-- The clean-up can start with nothing but a bus that is watched. -/
theorem releaseBus_of (h : ObjectsOk s) (hbus : s.thread.bus = none ∨ s.HoldsBus true) :
    ObjectsOk (s.goto .releaseBus) :=
  ⟨h.ctx, h.unmisused, h.pipelines, h.buses, h.loops, h.stored, h.own, h.pending, hbus⟩

theorem usePipeline (h : ObjectsOk s) (hp : s.thread.pipeline ≠ none) :
    s.usePipeline s.thread.pipeline = s := by
  obtain ⟨p, hp⟩ := Option.ne_none_iff_exists'.mp hp
  have hown := h.pipelines
  rw [hp] at hown ⊢
  show { s with pipelines := s.pipelines.touch p } = s
  rw [hown.touch List.mem_cons_self]

/-- No callback is under way while the pipeline does not play. -/
theorem quiet (h : ObjectsOk s) (hplaying : s.isPlaying = false) :
    ∀ acts ∈ s.callbacks, acts = [] := by
  refine h.pending.resolve_right ?_
  rw [hplaying]
  exact Bool.false_ne_true

theorem pipelineNew (h : ObjectsOk s) (hphase : s.thread.phase = .pipelineNew) :
    ObjectsOk (s.call true) := by
  have hp := h.phase
  simp only [PhaseOk, hphase] at hp
  obtain ⟨hnone, hbus, hloop⟩ := hp
  have hown := h.pipelines
  rw [hnone] at hown
  have hquiet := h.quiet (isPlaying_of_none hnone)
  simp only [call, hphase, if_true]
  exact ⟨h.ctx, h.unmisused, hown.alloc _, h.buses, h.loops, rfl, h.own, Or.inl hquiet,
    ⟨_, rfl, Arena.read_alloc_next ..⟩, hbus, hloop⟩

theorem getBus (h : ObjectsOk s) (hphase : s.thread.phase = .getBus) : ObjectsOk (s.call true) := by
  have hp := h.phase
  simp only [PhaseOk, hphase] at hp
  obtain ⟨hpipeline, hbus, hloop⟩ := hp
  have hown := h.buses
  rw [hbus] at hown
  simp only [call, hphase, if_true, h.usePipeline hpipeline.pipeline_ne_none]
  exact ⟨h.ctx, h.unmisused, h.pipelines, hown.alloc _, h.loops, h.stored, h.own,
    Or.inl (h.quiet hpipeline.isPlaying), hpipeline, ⟨_, rfl, Arena.read_alloc_next ..⟩, hloop⟩

theorem addSignalWatch (h : ObjectsOk s) (hphase : s.thread.phase = .addSignalWatch) (ok : Bool) :
    ObjectsOk (s.call ok) := by
  have hp := h.phase
  simp only [PhaseOk, hphase] at hp
  obtain ⟨hpipeline, ⟨b, hb, -⟩, hloop⟩ := hp
  have hmem : b ∈ s.thread.bus.toList := Option.mem_toList.mpr hb
  have hread := Arena.read_modify_self s.buses (fun _ => (⟨true⟩ : GstBus)) (h.buses.live hmem)
  simp only [call, hphase, hb]
  exact ⟨h.ctx, h.unmisused, h.pipelines, h.buses.modify hmem fun _ => ⟨true⟩, h.loops, h.stored, h.own,
    Or.inl (h.quiet hpipeline.isPlaying), hpipeline, ⟨b, hb, hread⟩, hloop⟩

theorem setPlaying (h : ObjectsOk s) (hphase : s.thread.phase = .setPlaying) (ok : Bool) :
    ObjectsOk (s.call ok) := by
  have hp := h.phase
  simp only [PhaseOk, hphase] at hp
  obtain ⟨hpipeline, hbus, hloop⟩ := hp
  have hquiet := h.quiet hpipeline.isPlaying
  obtain ⟨p, hp, -⟩ := hpipeline
  have hmem : p ∈ s.thread.pipeline.toList := Option.mem_toList.mpr hp
  have hread := Arena.read_modify_self s.pipelines (fun _ => (⟨true⟩ : GstPipeline))
    (h.pipelines.live hmem)
  simp only [call, hphase, setState, hp]
  exact ⟨h.ctx, h.unmisused, h.pipelines.modify hmem fun _ => ⟨true⟩, h.buses, h.loops, h.stored, h.own,
    Or.inl hquiet, ⟨p, hp, hread⟩, hbus, hloop⟩

theorem playing (h : ObjectsOk s) (hphase : s.thread.phase = .playing) : ObjectsOk (s.call true) := by
  have hp := h.phase
  simp only [PhaseOk, hphase] at hp
  obtain ⟨hpipeline, hbus, hloop⟩ := hp
  have hown := h.loops
  rw [hloop] at hown
  simp only [call, hphase, if_true]
  exact ⟨h.ctx, h.unmisused, h.pipelines, h.buses, hown.alloc _, h.stored, rfl,
    Or.inr hpipeline.isPlaying, hpipeline, hbus, rfl⟩

theorem mainLoopRun (h : ObjectsOk s) (hphase : s.thread.phase = .mainLoopRun) (ok : Bool) :
    ObjectsOk (s.call ok) := by
  have hp := h.phase
  simp only [PhaseOk, hphase] at hp
  obtain ⟨hpipeline, hbus, hloop⟩ := hp
  obtain ⟨l, hl⟩ := Option.isSome_iff_exists.mp hloop
  have hmem : l ∈ s.mainLoop.toList := Option.mem_toList.mpr hl
  have hrun : s.runLoop = { s with loops := s.loops.modify l MainLoop.run } := by
    unfold runLoop
    rw [hl]
  simp only [call, hphase, hrun]
  exact ⟨h.ctx, h.unmisused, h.pipelines, h.buses, h.loops.modify hmem _, h.stored, h.own, h.pending,
    hpipeline, hbus, hloop⟩

theorem releaseBus (h : ObjectsOk s) (hphase : s.thread.phase = .releaseBus) (ok : Bool) :
    ObjectsOk (s.call ok) := by
  have hp := h.phase
  simp only [PhaseOk, hphase] at hp
  simp only [call, hphase, MediaObjects.releaseBus]
  cases hb : s.thread.bus with
  | none => exact ⟨h.ctx, h.unmisused, h.pipelines, h.buses, h.loops, h.stored, h.own, h.pending, hb⟩
  | some b =>
    have hread : s.buses.read b = ⟨true⟩ := by
      rcases hp with hnone | ⟨b', hb', hread⟩
      · rw [hb] at hnone
        cases hnone
      · obtain rfl : b = b' := Option.some.inj (hb.symm.trans hb')
        exact hread
    have hown : s.buses.Owned [b] := by
      have := h.buses
      rwa [hb] at this
    have hmisused : (s.misused || !(s.buses.read b).watched) = false := by
      rw [h.unmisused, hread]
      rfl
    exact ⟨h.ctx, hmisused, h.pipelines, (hown.modify List.mem_cons_self _).free, h.loops, h.stored,
      h.own, h.pending, rfl⟩

theorem setNull (h : ObjectsOk s) (hphase : s.thread.phase = .setNull) (ok : Bool) :
    ObjectsOk (s.call ok) := by
  have hbus := h.phase
  simp only [PhaseOk, hphase] at hbus
  simp only [call, hphase]
  cases hp : s.thread.pipeline with
  | none =>
    exact ⟨h.ctx, h.unmisused, h.pipelines, h.buses, h.loops, h.stored, h.own, h.pending, hbus,
      isPlaying_of_none hp⟩
  | some p =>
    simp only
    split
    · next hall =>
      have hquiet : ∀ acts ∈ s.callbacks, acts = [] := fun acts hacts =>
        List.isEmpty_iff.mp (List.all_eq_true.mp hall acts hacts)
      have hmem : p ∈ s.thread.pipeline.toList := Option.mem_toList.mpr hp
      have hread := Arena.read_modify_self s.pipelines (fun _ => (⟨false⟩ : GstPipeline))
        (h.pipelines.live hmem)
      simp only [setState, hp]
      refine ⟨h.ctx, h.unmisused, h.pipelines.modify hmem fun _ => ⟨false⟩, h.buses, h.loops, h.stored, h.own,
        Or.inl hquiet, hbus, ?_⟩
      exact @HoldsPipeline.isPlaying _ false ⟨p, hp, hread⟩
    · exact h

theorem unrefPipeline (h : ObjectsOk s) (hphase : s.thread.phase = .unrefPipeline) (ok : Bool) :
    ObjectsOk (s.call ok) := by
  have hp := h.phase
  simp only [PhaseOk, hphase] at hp
  obtain ⟨hbus, hplaying⟩ := hp
  have hquiet := h.quiet hplaying
  simp only [call, hphase, MediaObjects.unrefPipeline]
  cases hp : s.thread.pipeline with
  | none =>
    exact ⟨h.ctx, h.unmisused, h.pipelines, h.buses, h.loops, h.stored, h.own, Or.inl hquiet, hbus, hp⟩
  | some p =>
    have hown := h.pipelines
    rw [hp] at hown
    have hmisused : (s.misused || (s.pipelines.read p).playing) = false := by
      have hread : (s.pipelines.read p).playing = false := by
        unfold MediaObjects.isPlaying at hplaying
        rw [hp] at hplaying
        exact hplaying
      rw [h.unmisused, hread]
      rfl
    exact ⟨h.ctx, hmisused, hown.free, h.buses, h.loops, rfl, h.own, Or.inl hquiet, hbus, rfl⟩

/-- The pointer that the clean-up looks at is the stored one. -/
theorem looked_at (h : ObjectsOk s) :
    (if s.thread.enableProbe then s.mainLoop else s.thread.mainLoop) = s.mainLoop := by
  rw [h.own]
  cases s.thread.enableProbe <;> rfl

theorem unrefMainLoop (h : ObjectsOk s) (hphase : s.thread.phase = .unrefMainLoop) (ok : Bool) :
    ObjectsOk (s.call ok) := by
  have hp := h.phase
  simp only [PhaseOk, hphase] at hp
  obtain ⟨hbus, hpipeline⟩ := hp
  have hquiet := h.quiet (isPlaying_of_none hpipeline)
  simp only [call, hphase]
  cases hl : s.mainLoop with
  | none =>
    have hunref : s.unrefMainLoop = s := by
      unfold MediaObjects.unrefMainLoop
      rw [h.looked_at]
      simp only [hl]
    rw [hunref]
    exact ⟨h.ctx, h.unmisused, h.pipelines, h.buses, h.loops, h.stored, h.own, Or.inl hquiet,
      hpipeline, hbus, hl⟩
  | some l =>
    have hunref : s.unrefMainLoop = { s with
        loops := s.loops.free l
        mainLoop := none
        thread := { s.thread with mainLoop := none } } := by
      unfold MediaObjects.unrefMainLoop
      rw [h.looked_at]
      simp only [hl]
    have hown : s.loops.Owned [l] := by
      have := h.loops
      rwa [hl] at this
    rw [hunref]
    exact ⟨h.ctx, h.unmisused, h.pipelines, h.buses, hown.free, h.stored, (ite_self none).symm,
      Or.inl hquiet, hpipeline, hbus, rfl⟩

theorem call (h : ObjectsOk s) (ok : Bool) : ObjectsOk (s.call ok) := by
  have hp := h.phase
  cases hphase : s.thread.phase with
  | idle =>
    simp only [MediaObjects.call, hphase]
    exact h
  | pipelineNew =>
    simp only [PhaseOk, hphase] at hp
    cases ok with
    | true => exact h.pipelineNew hphase
    | false =>
      simp only [MediaObjects.call, hphase]
      exact h.releaseBus_of (Or.inl hp.2.1)
  | initGstRtspSrc =>
    simp only [PhaseOk, hphase] at hp
    cases ok with
    | true =>
      simp only [MediaObjects.call, hphase, h.usePipeline hp.1.pipeline_ne_none]
      exact ⟨h.ctx, h.unmisused, h.pipelines, h.buses, h.loops, h.stored, h.own, h.pending, hp⟩
    | false =>
      simp only [MediaObjects.call, hphase]
      exact h.releaseBus_of (Or.inl hp.2.1)
  | getBus =>
    simp only [PhaseOk, hphase] at hp
    cases ok with
    | true => exact h.getBus hphase
    | false =>
      simp only [MediaObjects.call, hphase, h.usePipeline hp.1.pipeline_ne_none]
      exact h.releaseBus_of (Or.inl hp.2.1)
  | addSignalWatch => exact h.addSignalWatch hphase ok
  | setPlaying => exact h.setPlaying hphase ok
  | playing =>
    simp only [PhaseOk, hphase] at hp
    cases ok with
    | true => exact h.playing hphase
    | false =>
      simp only [MediaObjects.call, hphase]
      exact h.releaseBus_of (Or.inr hp.2.1)
  | mainLoopRun => exact h.mainLoopRun hphase ok
  | running =>
    simp only [PhaseOk, hphase] at hp
    simp only [MediaObjects.call, hphase]
    split
    · exact h
    · exact h.releaseBus_of (Or.inr hp.2.1)
  | releaseBus => exact h.releaseBus hphase ok
  | setNull => exact h.setNull hphase ok
  | unrefPipeline => exact h.unrefPipeline hphase ok
  | unrefMainLoop => exact h.unrefMainLoop hphase ok

theorem start (h : ObjectsOk s) (hphase : s.thread.phase = .idle) (enableProbe : Bool) :
    ObjectsOk (s.step (.start enableProbe)) := by
  have hp := h.phase
  simp only [PhaseOk, hphase] at hp
  obtain ⟨hpipeline, hbus, hloop⟩ := hp
  have hquiet := h.quiet (isPlaying_of_none hpipeline)
  have hown : none = if enableProbe then none else s.mainLoop := by
    rw [hloop]
    exact (ite_self none).symm
  simp only [MediaObjects.step, hphase, if_true]
  exact ⟨h.ctx, h.unmisused, hpipeline ▸ h.pipelines, hbus ▸ h.buses, h.loops,
    h.stored.trans hpipeline, hown, Or.inl hquiet, rfl, rfl, hloop⟩

/-- The objects behind a step of a callback: the stored main loop has been told to quit, or
nothing. -/
theorem exec_cases (h : ObjectsOk s) (hplaying : s.isPlaying = true) (act : Act) :
    (∃ l, act = .close ∧ s.mainLoop = some l ∧
        s.exec act = { s with loops := s.loops.modify l MainLoop.quit }) ∨
      ((act = .close → s.mainLoop = none) ∧ s.exec act = s) := by
  have hstored : s.usePipeline s.pipeline = s := by
    rw [h.stored]
    refine h.usePipeline fun hnone => ?_
    rw [isPlaying_of_none hnone] at hplaying
    cases hplaying
  cases act with
  | close =>
    cases hl : s.mainLoop with
    | none =>
      refine Or.inr ⟨fun _ => rfl, ?_⟩
      unfold exec
      rw [hl]
    | some l =>
      refine Or.inl ⟨l, rfl, rfl, ?_⟩
      unfold exec
      rw [hl]
  | probe pad => exact Or.inr ⟨nofun, hstored⟩
  | connect pad => exact Or.inr ⟨nofun, hstored⟩
  | updateStatus st => exact Or.inr ⟨nofun, rfl⟩
  | latch => exact Or.inr ⟨nofun, rfl⟩
  | loadShutdown => exact Or.inr ⟨nofun, rfl⟩

theorem exec (h : ObjectsOk s) (hplaying : s.isPlaying = true) (act : Act) :
    ObjectsOk (s.exec act) := by
  rcases h.exec_cases hplaying act with ⟨l, -, hl, hexec⟩ | ⟨-, hexec⟩
  · have hmem : l ∈ s.mainLoop.toList := Option.mem_toList.mpr hl
    rw [hexec]
    exact ⟨h.ctx, h.unmisused, h.pipelines, h.buses, h.loops.modify hmem _, h.stored, h.own,
      h.pending, h.phase⟩
  · rw [hexec]
    exact h

/-- A callback that is under way finds the pipeline playing. -/
theorem isPlaying_of_pending (h : ObjectsOk s) {i : Nat} {act : Act} {acts : List Act}
    (hi : s.callbacks[i]? = some (act :: acts)) : s.isPlaying = true := by
  refine h.pending.resolve_left fun hall => ?_
  exact List.cons_ne_nil act acts (hall _ (List.mem_of_getElem? hi))

theorem step (h : ObjectsOk s) (e : MediaEvent) : ObjectsOk (s.step e) := by
  cases e with
  | start enableProbe =>
    by_cases hphase : s.thread.phase = .idle
    · exact h.start hphase enableProbe
    · rw [show s.step (.start enableProbe) = s from if_neg hphase]
      exact h
  | call ok => exact h.call ok
  | fire cb =>
    show ObjectsOk (if _ then _ else _)
    split
    · next hfire =>
      have hplaying := (Bool.and_eq_true_iff.mp hfire).1
      exact ⟨h.ctx, h.unmisused, h.pipelines, h.buses, h.loops, h.stored, h.own, Or.inr hplaying,
        h.phase⟩
    · exact h
  | act i =>
    show ObjectsOk (s.doAct i)
    unfold doAct
    split
    · next act acts hi =>
      have hplaying := h.isPlaying_of_pending hi
      have he := h.exec hplaying act
      have hctx : (act.exec s.ctx).1.mainLoop = none := by
        by_cases hact : act = .close
        · subst hact
          show s.ctx.mainLoop.map MainLoop.quit = none
          rw [h.ctx]
          rfl
        · rw [MediaRun.mainLoop_exec hact, h.ctx]
      have hplaying' : (s.exec act).isPlaying = true := by
        rcases h.exec_cases hplaying act with ⟨l, -, -, hexec⟩ | ⟨-, hexec⟩ <;> rw [hexec]
        · exact hplaying
        · exact hplaying
      exact ⟨hctx, he.unmisused, he.pipelines, he.buses, he.loops, he.stored, he.own,
        Or.inr hplaying', he.phase⟩
    · exact h
  | shutdownMediaSource =>
    exact ⟨h.ctx, h.unmisused, h.pipelines, h.buses, h.loops, h.stored, h.own, h.pending, h.phase⟩

end ObjectsOk

/-! ## The clean-up -/

/-- The thread is past its loop, or its running loop was told to quit.  A quit before
`app_g_main_loop_run` is lost (`MediaRun.Lost`). -/
def Leaves (s : MediaObjects) : Prop :=
  match s.thread.phase with
  | .running => s.loopRuns = false
  | .releaseBus | .setNull | .unrefPipeline | .unrefMainLoop => True
  | _ => False

theorem clean_up_unrefPipeline (hphase : s.thread.phase = .unrefPipeline) :
    ((s.call true).call true).thread.phase = .idle := by
  have h1 : s.call true = s.unrefPipeline.goto .unrefMainLoop := by simp only [call, hphase]
  rw [h1]
  rfl

theorem clean_up_setNull (hphase : s.thread.phase = .setNull)
    (hquiet : ∀ acts ∈ s.callbacks, acts = []) :
    (((s.call true).call true).call true).thread.phase = .idle := by
  have h1 : (s.call true).thread.phase = .unrefPipeline := by
    simp only [call, hphase]
    cases hp : s.thread.pipeline with
    | none => rfl
    | some p =>
      have hall : s.callbacks.all List.isEmpty = true :=
        List.all_eq_true.mpr fun acts hacts => List.isEmpty_iff.mpr (hquiet acts hacts)
      simp only [hall, if_true]
      rfl
  exact clean_up_unrefPipeline h1

theorem clean_up_releaseBus (hphase : s.thread.phase = .releaseBus)
    (hquiet : ∀ acts ∈ s.callbacks, acts = []) :
    ((((s.call true).call true).call true).call true).thread.phase = .idle := by
  have h1 : s.call true = s.releaseBus.goto .setNull := by simp only [call, hphase]
  have hcallbacks : (s.call true).callbacks = s.callbacks := by
    rw [h1]
    show s.releaseBus.callbacks = s.callbacks
    unfold releaseBus
    split <;> rfl
  exact clean_up_setNull (by rw [h1]; rfl) (by rw [hcallbacks]; exact hquiet)

/-- The clean-up ends once the callbacks have returned. -/
theorem clean_up_ends (hleaves : s.Leaves) (hquiet : ∀ acts ∈ s.callbacks, acts = []) :
    ∃ n ≤ 5, (Run.exec step s (List.replicate n (.call true))).thread.phase = .idle := by
  unfold Leaves at hleaves
  split at hleaves
  · next hphase =>
    have h1 : s.call true = s.goto .releaseBus := by
      simp only [call, hphase, hleaves]
      rfl
    refine ⟨5, le_rfl, ?_⟩
    show (((((s.call true).call true).call true).call true).call true).thread.phase = .idle
    rw [h1]
    exact clean_up_releaseBus rfl hquiet
  · next hphase => exact ⟨4, by decide, clean_up_releaseBus hphase hquiet⟩
  · next hphase => exact ⟨3, by decide, clean_up_setNull hphase hquiet⟩
  · next hphase => exact ⟨2, by decide, clean_up_unrefPipeline hphase⟩
  · next hphase =>
    refine ⟨1, by decide, ?_⟩
    show (s.call true).thread.phase = .idle
    simp only [call, hphase]
    rfl
  · exact hleaves.elim

/-- In every run, whatever fails and whenever callbacks are fired: no object is used after it was
released or released while it is in use, and the stored pipeline and the stored main loop are live.
Between two runs of the functions every object has been released, once, and a thread whose running
loop was told to quit gets there in five calls when the callbacks have returned. -/
theorem media_objects_owned (es : List MediaEvent) :
    let s := Run.exec step init es
    s.misused = false ∧ s.pipelines.misused = false ∧ s.buses.misused = false ∧
      s.loops.misused = false ∧
      (∀ p, s.pipeline = some p → s.pipelines.live p = true) ∧
      (∀ l, s.mainLoop = some l → s.loops.live l = true) ∧
      (s.thread.phase = .idle →
        (∀ p < s.pipelines.next, s.pipelines.frees p = 1) ∧
          (∀ b < s.buses.next, s.buses.frees b = 1) ∧
          (∀ l < s.loops.next, s.loops.frees l = 1) ∧
          s.pipeline = none ∧ s.mainLoop = none ∧ ∀ acts ∈ s.callbacks, acts = []) ∧
      (s.Leaves → (∀ acts ∈ s.callbacks, acts = []) →
        ∃ n ≤ 5, (Run.exec step s (List.replicate n (.call true))).thread.phase = .idle) := by
  intro s
  have h : ObjectsOk s := Run.exec_invariant (fun _ e hs => hs.step e) ObjectsOk.init es
  refine ⟨h.unmisused, h.pipelines.unmisused, h.buses.unmisused, h.loops.unmisused,
    fun p hp => ?_, fun l hl => h.loops.live (Option.mem_toList.mpr hl), fun hidle => ?_,
    fun hleaves hquiet => clean_up_ends hleaves hquiet⟩
  · exact h.pipelines.live (Option.mem_toList.mpr (h.stored ▸ hp))
  · have hp := h.phase
    simp only [PhaseOk, hidle] at hp
    obtain ⟨hpipeline, hbus, hloop⟩ := hp
    have hps := h.pipelines
    have hbs := h.buses
    have hls := h.loops
    rw [hpipeline] at hps
    rw [hbus] at hbs
    rw [hloop] at hls
    exact ⟨fun _ => hps.frees_eq_one, fun _ => hbs.frees_eq_one, fun _ => hls.frees_eq_one,
      h.stored.trans hpipeline, hloop, h.quiet (isPlaying_of_none hpipeline)⟩

/-! ## The run without its objects -/

def toMediaRun (s : MediaObjects) : MediaRun where
  ctx := { s.ctx with mainLoop := s.mainLoop.map s.loops.read }
  enableProbe := s.thread.enableProbe
  phase := s.thread.phase.toPhase
  callbacks := s.callbacks
  closed := s.closed

theorem connectCaps_setMainLoop (fault : Option Nat) (ctx : RtspSrcContext) (m : Option MainLoop)
    (n : Nat) (l : PadLocals) (caps : List GstStructure) :
    connectCaps fault { ctx with mainLoop := m } n l caps = connectCaps fault ctx n l caps := by
  induction caps generalizing n l with
  | nil => rfl
  | cons c caps ih =>
    have hc : connectStructure { ctx with mainLoop := m } l c = connectStructure ctx l c := rfl
    unfold connectCaps
    rw [hc]
    cases connectStructure ctx l c with
    | none => exact ih n l
    | some l =>
      simp only
      rw [ih]

theorem probePad_setMainLoop (pad : Pad) (ctx : RtspSrcContext) (m : Option MainLoop) :
    probePad pad { ctx with mainLoop := m } =
      ({ (probePad pad ctx).1 with mainLoop := m }, (probePad pad ctx).2) := by
  have hstructure : ∀ (ctx : RtspSrcContext) c, probeStructure { ctx with mainLoop := m } c =
      { probeStructure ctx c with mainLoop := m } := by
    intro ctx c
    unfold probeStructure
    split
    · next m' codec _ => cases m' <;> rfl
    · rfl
  have hcaps : pad.caps.foldl probeStructure { ctx with mainLoop := m } =
      { pad.caps.foldl probeStructure ctx with mainLoop := m } :=
    List.foldl_hom (fun ctx : RtspSrcContext => { ctx with mainLoop := m }) hstructure
  unfold probePad
  rw [hcaps]

/-- A step of a callback other than the call of `closeGstRtspSrc` does not look at the loop. -/
theorem exec_setMainLoop {act : Act} (h : act ≠ .close) (ctx : RtspSrcContext)
    (m : Option MainLoop) : act.exec { ctx with mainLoop := m } =
      ({ (act.exec ctx).1 with mainLoop := m }, (act.exec ctx).2) := by
  cases act with
  | close => exact absurd rfl h
  | updateStatus _ | latch | loadShutdown => rfl
  | probe pad =>
    unfold Act.exec
    simp only [probePad_setMainLoop]
  | connect pad =>
    unfold Act.exec connectPad
    simp only [connectCaps_setMainLoop]

/-- Callbacks are fired in the phases in which the pipeline can play. -/
theorem ObjectsOk.fires (h : ObjectsOk s) (hplaying : s.isPlaying = true) :
    s.toMediaRun.phase.fires = true := by
  have hp := h.phase
  have hsome : s.thread.pipeline ≠ none := by
    intro hnone
    rw [isPlaying_of_none hnone] at hplaying
    cases hplaying
  have hnot : ¬ s.HoldsPipeline false := by
    intro hfalse
    rw [hfalse.isPlaying] at hplaying
    cases hplaying
  show s.thread.phase.toPhase.fires = true
  cases hphase : s.thread.phase with
  | playing | mainLoopRun | running | releaseBus | setNull => rfl
  | idle | pipelineNew =>
    simp only [PhaseOk, hphase] at hp
    exact absurd hp.1 hsome
  | initGstRtspSrc | getBus | addSignalWatch | setPlaying =>
    simp only [PhaseOk, hphase] at hp
    exact absurd hp.1 hnot
  | unrefPipeline =>
    simp only [PhaseOk, hphase] at hp
    rw [hp.2] at hplaying
    cases hplaying
  | unrefMainLoop =>
    simp only [PhaseOk, hphase] at hp
    exact absurd hp.2 hsome

theorem toMediaRun_setUpFails (hphase : s.thread.phase.toPhase = .setUp) :
    Run.exec MediaRun.step s.toMediaRun [.setUpFails] = (s.goto .releaseBus).toMediaRun :=
  if_pos hphase

theorem toMediaRun_playing (hphase : s.thread.phase = .playing) (ok : Bool) :
    ∃ es, Run.exec MediaRun.step s.toMediaRun es = (s.call ok).toMediaRun := by
  have hrun : s.toMediaRun.phase = .playing := congrArg ThreadPhase.toPhase hphase
  cases ok with
  | true =>
    simp only [call, hphase, if_true]
    refine ⟨[.mainLoopNew], (if_pos hrun).trans ?_⟩
    simp only [toMediaRun, Option.map_some, Arena.read_alloc_next]
    rfl
  | false =>
    simp only [call, hphase]
    exact ⟨[.setPlayingFails], if_pos hrun⟩

theorem toMediaRun_mainLoopRun (h : ObjectsOk s) (hphase : s.thread.phase = .mainLoopRun)
    (ok : Bool) : ∃ es, Run.exec MediaRun.step s.toMediaRun es = (s.call ok).toMediaRun := by
  have hrun : s.toMediaRun.phase = .created := congrArg ThreadPhase.toPhase hphase
  have hp := h.phase
  simp only [PhaseOk, hphase] at hp
  obtain ⟨l, hl⟩ := Option.isSome_iff_exists.mp hp.2.2
  have hlive := h.loops.live (Option.mem_toList.mpr hl)
  have hloop : s.runLoop = { s with loops := s.loops.modify l MainLoop.run } := by
    unfold runLoop
    rw [hl]
  simp only [call, hphase, hloop]
  refine ⟨[.mainLoopRun], (if_pos hrun).trans ?_⟩
  simp only [toMediaRun, goto, hl, Option.map_some, Arena.read_modify_self _ _ hlive]
  rfl

theorem loopRuns_iff (s : MediaObjects) :
    s.loopRuns = true ↔ s.toMediaRun.ctx.mainLoop = some ⟨true⟩ := by
  show s.loopRuns = true ↔ s.mainLoop.map s.loops.read = some ⟨true⟩
  unfold loopRuns
  cases s.mainLoop with
  | none => simp
  | some l =>
    rw [Option.map_some, Option.some_inj]
    constructor
    · intro hr
      rw [← hr]
    · intro hr
      show (s.loops.read l).isRunning = true
      rw [hr]

theorem toMediaRun_running (hphase : s.thread.phase = .running) (ok : Bool) :
    ∃ es, Run.exec MediaRun.step s.toMediaRun es = (s.call ok).toMediaRun := by
  have hrun : s.toMediaRun.phase = .running := congrArg ThreadPhase.toPhase hphase
  simp only [call, hphase]
  split
  · exact ⟨[], rfl⟩
  · next hstopped =>
    refine ⟨[.mainLoopReturns], (if_neg fun hr => hstopped (s.loopRuns_iff.mpr hr)).trans ?_⟩
    exact if_pos hrun

theorem toMediaRun_setNull (hphase : s.thread.phase = .setNull) (ok : Bool) :
    ∃ es, Run.exec MediaRun.step s.toMediaRun es = (s.call ok).toMediaRun := by
  have hrun : s.toMediaRun.phase = .cleanUp := congrArg ThreadPhase.toPhase hphase
  simp only [call, hphase]
  cases hp : s.thread.pipeline with
  | none => exact ⟨[.setNull], if_pos hrun⟩
  | some p =>
    simp only
    split
    · simp only [setState, hp]
      exact ⟨[.setNull], if_pos hrun⟩
    · exact ⟨[], rfl⟩

theorem toMediaRun_unrefMainLoop (h : ObjectsOk s) (hphase : s.thread.phase = .unrefMainLoop)
    (ok : Bool) : ∃ es, Run.exec MediaRun.step s.toMediaRun es = (s.call ok).toMediaRun := by
  have hrun : s.toMediaRun.phase = .stopped := congrArg ThreadPhase.toPhase hphase
  simp only [call, hphase]
  refine ⟨[.mainLoopUnref], (if_pos hrun).trans ?_⟩
  unfold unrefMainLoop
  rw [h.looked_at]
  cases hl : s.mainLoop with
  | none =>
    simp only [toMediaRun, goto, hl]
    rfl
  | some l => rfl

/-- The calls that make or release no loop. -/
theorem toMediaRun_congr {s' : MediaObjects} (hctx : s'.ctx = s.ctx)
    (hloop : s'.mainLoop = s.mainLoop) (hloops : s'.loops = s.loops)
    (hprobe : s'.thread.enableProbe = s.thread.enableProbe)
    (hphase : s'.thread.phase.toPhase = s.thread.phase.toPhase)
    (hcallbacks : s'.callbacks = s.callbacks) (hclosed : s'.closed = s.closed) :
    s.toMediaRun = s'.toMediaRun := by
  unfold toMediaRun
  rw [hctx, hloop, hloops, hprobe, hphase, hcallbacks, hclosed]

/-- A call of the thread is a step of the run, or none. -/
theorem toMediaRun_call (h : ObjectsOk s) (ok : Bool) :
    ∃ es, Run.exec MediaRun.step s.toMediaRun es = (s.call ok).toMediaRun := by
  have hp := h.phase
  cases hphase : s.thread.phase with
  | idle =>
    simp only [call, hphase]
    exact ⟨[], rfl⟩
  | pipelineNew =>
    have hsetUp : s.thread.phase.toPhase = .setUp := congrArg ThreadPhase.toPhase hphase
    cases ok with
    | true =>
      simp only [call, hphase, if_true]
      exact ⟨[], toMediaRun_congr rfl rfl rfl rfl hsetUp.symm rfl rfl⟩
    | false =>
      simp only [call, hphase]
      exact ⟨[.setUpFails], toMediaRun_setUpFails hsetUp⟩
  | initGstRtspSrc =>
    have hsetUp : s.thread.phase.toPhase = .setUp := congrArg ThreadPhase.toPhase hphase
    simp only [PhaseOk, hphase] at hp
    cases ok with
    | true =>
      simp only [call, hphase, h.usePipeline hp.1.pipeline_ne_none]
      exact ⟨[], toMediaRun_congr rfl rfl rfl rfl hsetUp.symm rfl rfl⟩
    | false =>
      simp only [call, hphase]
      exact ⟨[.setUpFails], toMediaRun_setUpFails hsetUp⟩
  | getBus =>
    have hsetUp : s.thread.phase.toPhase = .setUp := congrArg ThreadPhase.toPhase hphase
    simp only [PhaseOk, hphase] at hp
    simp only [call, hphase, h.usePipeline hp.1.pipeline_ne_none]
    cases ok with
    | true => exact ⟨[], toMediaRun_congr rfl rfl rfl rfl hsetUp.symm rfl rfl⟩
    | false => exact ⟨[.setUpFails], toMediaRun_setUpFails hsetUp⟩
  | addSignalWatch =>
    have hsetUp : s.thread.phase.toPhase = .setUp := congrArg ThreadPhase.toPhase hphase
    simp only [PhaseOk, hphase] at hp
    obtain ⟨-, ⟨b, hb, -⟩, -⟩ := hp
    simp only [call, hphase, hb]
    exact ⟨[], toMediaRun_congr rfl rfl rfl rfl hsetUp.symm rfl rfl⟩
  | setPlaying =>
    have hsetUp : s.toMediaRun.phase = .setUp := congrArg ThreadPhase.toPhase hphase
    simp only [PhaseOk, hphase] at hp
    obtain ⟨⟨p, hp, -⟩, -⟩ := hp
    simp only [call, hphase, setState, hp]
    exact ⟨[.setPlaying], if_pos hsetUp⟩
  | playing => exact toMediaRun_playing hphase ok
  | mainLoopRun => exact toMediaRun_mainLoopRun h hphase ok
  | running => exact toMediaRun_running hphase ok
  | releaseBus =>
    have hcleanUp : s.thread.phase.toPhase = .cleanUp := congrArg ThreadPhase.toPhase hphase
    simp only [call, hphase, releaseBus]
    cases s.thread.bus with
    | none => exact ⟨[], toMediaRun_congr rfl rfl rfl rfl hcleanUp.symm rfl rfl⟩
    | some b => exact ⟨[], toMediaRun_congr rfl rfl rfl rfl hcleanUp.symm rfl rfl⟩
  | setNull => exact toMediaRun_setNull hphase ok
  | unrefPipeline =>
    have hstopped : s.thread.phase.toPhase = .stopped := congrArg ThreadPhase.toPhase hphase
    simp only [call, hphase, unrefPipeline]
    cases s.thread.pipeline with
    | none => exact ⟨[], toMediaRun_congr rfl rfl rfl rfl hstopped.symm rfl rfl⟩
    | some p => exact ⟨[], toMediaRun_congr rfl rfl rfl rfl hstopped.symm rfl rfl⟩
  | unrefMainLoop => exact toMediaRun_unrefMainLoop h hphase ok

/-- A step of a callback is that of the run. -/
theorem toMediaRun_act (h : ObjectsOk s) (i : Nat) :
    s.toMediaRun.doAct i = (s.doAct i).toMediaRun := by
  unfold MediaRun.doAct MediaObjects.doAct
  show (match s.callbacks[i]? with | some (act :: acts) => _ | _ => _) = _
  split
  · next act acts hi =>
    have hplaying := h.isPlaying_of_pending hi
    rcases h.exec_cases hplaying act with ⟨l, rfl, hl, hexec⟩ | ⟨hclose, hexec⟩
    · have hlive := h.loops.live (Option.mem_toList.mpr hl)
      rw [hexec]
      simp only [toMediaRun, Act.exec, closeGstRtspSrc, hl, Option.map_some,
        Arena.read_modify_self _ _ hlive]
    · rw [hexec]
      by_cases hact : act = .close
      · subst hact
        simp only [toMediaRun, Act.exec, closeGstRtspSrc, hclose rfl, Option.map_none]
      · have hctx := exec_setMainLoop hact s.ctx (s.mainLoop.map s.loops.read)
        simp only [toMediaRun, hctx]
  · rfl

theorem toMediaRun_start (s : MediaObjects) (enableProbe : Bool) :
    ∃ es, Run.exec MediaRun.step s.toMediaRun es = (s.step (.start enableProbe)).toMediaRun := by
  by_cases hphase : s.thread.phase = .idle
  · have hrun : s.toMediaRun.phase = .idle := congrArg ThreadPhase.toPhase hphase
    have hstart : s.step (.start enableProbe) = { s with
        ctx := { s.ctx with codecStatus := .success }
        thread := ⟨enableProbe, .pipelineNew, none, none, none⟩
        closed := false } := if_pos hphase
    rw [hstart]
    exact ⟨[.start enableProbe], if_pos hrun⟩
  · have hstart : s.step (.start enableProbe) = s := if_neg hphase
    rw [hstart]
    exact ⟨[], rfl⟩

theorem toMediaRun_fire (h : ObjectsOk s) (cb : Callback) :
    ∃ es, Run.exec MediaRun.step s.toMediaRun es = (s.step (.fire cb)).toMediaRun := by
  by_cases hfire : (s.isPlaying && cb.connected s.thread.enableProbe) = true
  · have hrun : (s.toMediaRun.phase.fires && cb.connected s.toMediaRun.enableProbe) = true := by
      rw [Bool.and_eq_true] at hfire ⊢
      exact ⟨h.fires hfire.1, hfire.2⟩
    have hstep : s.step (.fire cb) = { s with callbacks := s.callbacks ++ [cb.code] } :=
      if_pos hfire
    rw [hstep]
    exact ⟨[.fire cb], if_pos hrun⟩
  · have hstep : s.step (.fire cb) = s := if_neg hfire
    rw [hstep]
    exact ⟨[], rfl⟩

theorem toMediaRun_step (h : ObjectsOk s) (e : MediaEvent) :
    ∃ es, Run.exec MediaRun.step s.toMediaRun es = (s.step e).toMediaRun := by
  cases e with
  | start enableProbe => exact s.toMediaRun_start enableProbe
  | call ok => exact toMediaRun_call h ok
  | fire cb => exact toMediaRun_fire h cb
  | act i => exact ⟨[.act i], toMediaRun_act h i⟩
  | shutdownMediaSource => exact ⟨[.shutdownMediaSource], rfl⟩

/-- Every run of the thread with its objects is a run of the source: without the objects, the
states are the same. -/
theorem media_objects_refine (es : List MediaEvent) :
    ∃ bs, Run.exec MediaRun.step MediaRun.init bs = (Run.exec step init es).toMediaRun := by
  induction es using List.reverseRecOn with
  | nil => exact ⟨[], rfl⟩
  | append_singleton es e ih =>
    obtain ⟨bs, hbs⟩ := ih
    have h : ObjectsOk (Run.exec step init es) :=
      Run.exec_invariant (fun _ e hs => hs.step e) ObjectsOk.init es
    obtain ⟨cs, hcs⟩ := toMediaRun_step h e
    refine ⟨bs ++ cs, ?_⟩
    rw [Run.exec_append, Run.exec_append, hbs]
    exact hcs

end

end MediaObjects

end WebrtcApp.RtspSrc
