import WebrtcApp.App.RtspSrc
import WebrtcApp.Lib.Run

/-!
# The main loop and the calls that close it

One thread runs `runMediaSource` or `discoverMediaSource`, any number of times.  While its
pipeline plays, GStreamer fires callbacks on other threads, and `shutdownMediaSource` may be
called at any time.  The pipeline plays before the main loop exists and before it runs.

A call of `closeGstRtspSrc` is lost when the thread is left in `g_main_loop_run` with nobody to
quit it: the call found no loop, or one that `g_main_loop_run` starts over.  This happens exactly
where the thread enters its loop after a call of the same run, with no other call on its way
(`no_lost_close_iff`).  A lost call leaves the thread in its loop until another callback fires
(`lost_blocks`).
-/

namespace WebrtcApp.RtspSrc

/-- `playing`: the pipeline was set to `PLAYING`; `created`: `mainLoop` is stored; `running`: in
`g_main_loop_run`; `stopped`: the pipeline was set to `NULL`. -/
inductive Phase
  | idle
  | setUp
  | playing
  | created
  | running
  | cleanUp
  | stopped
  deriving DecidableEq

def Phase.fires : Phase → Bool
  | .playing | .created | .running | .cleanUp => true
  | .idle | .setUp | .stopped => false

/-- `callbacks` is what is left to do of each callback fired so far; `closed` records a call of
`closeGstRtspSrc` since the run started. -/
structure MediaRun where
  ctx : RtspSrcContext
  enableProbe : Bool
  phase : Phase
  callbacks : List (List Act)
  closed : Bool
  deriving DecidableEq

/-- `setPlayingFails`: the state change fails with callbacks already fired. -/
inductive Event
  | start (enableProbe : Bool)
  | setUpFails
  | setPlaying
  | setPlayingFails
  | mainLoopNew
  | mainLoopRun
  | mainLoopReturns
  | setNull
  | mainLoopUnref
  | fire (cb : Callback)
  | act (i : Nat)
  | shutdownMediaSource

namespace MediaRun

def init : MediaRun := ⟨RtspSrcContext.initial, false, .idle, [], false⟩

/-- A step of the thread that runs the source, taken in the phase `phase`. -/
def next (s : MediaRun) (phase : Phase) (s' : MediaRun) : MediaRun :=
  if s.phase = phase then s' else s

/-- The next step of the `i`-th callback. -/
def doAct (s : MediaRun) (i : Nat) : MediaRun :=
  match s.callbacks[i]? with
  | some (act :: acts) => { s with
      ctx := (act.exec s.ctx).1
      callbacks := s.callbacks.set i ((act.exec s.ctx).2 ++ acts)
      closed := s.closed || decide (act = .close) }
  | _ => s

def step (s : MediaRun) : Event → MediaRun
  | .start enableProbe => s.next .idle { s with
      ctx := { s.ctx with codecStatus := .success }
      enableProbe := enableProbe
      phase := .setUp
      closed := false }
  | .setUpFails => s.next .setUp { s with phase := .cleanUp }
  | .setPlaying => s.next .setUp { s with phase := .playing }
  | .setPlayingFails => s.next .playing { s with phase := .cleanUp }
  | .mainLoopNew => s.next .playing { s with
      ctx := { s.ctx with mainLoop := some MainLoop.new }
      phase := .created }
  | .mainLoopRun => s.next .created { s with
      ctx := { s.ctx with mainLoop := s.ctx.mainLoop.map MainLoop.run }
      phase := .running }
  | .mainLoopReturns =>
    if s.ctx.mainLoop = some ⟨true⟩ then s else s.next .running { s with phase := .cleanUp }
  | .setNull => s.next .cleanUp { s with phase := .stopped }
  | .mainLoopUnref => s.next .stopped { s with
      ctx := { s.ctx with mainLoop := none }
      phase := .idle }
  | .fire cb =>
    if s.phase.fires && cb.connected s.enableProbe then
      { s with callbacks := s.callbacks ++ [cb.code] }
    else s
  | .act i => s.doAct i
  | .shutdownMediaSource => { s with ctx := RtspSrc.shutdownMediaSource s.ctx }

/-- A callback is on its way to `closeGstRtspSrc`. -/
def ClosePending (s : MediaRun) : Prop := ∃ acts ∈ s.callbacks, Act.close ∈ acts

/-- The loop runs, nobody told it to quit, and the calls of `closeGstRtspSrc` of this run are
over. -/
structure Lost (s : MediaRun) : Prop where
  running : s.phase = .running
  notQuit : s.ctx.mainLoop = some ⟨true⟩
  closed : s.closed = true
  consumed : ¬ s.ClosePending

/-- Where the thread enters its loop, no call of this run has been made yet, or another one is on
its way. -/
def Heeded (s : MediaRun) (e : Event) : Prop :=
  e = .mainLoopRun → s.phase = .created → s.closed = true → s.ClosePending

instance (s : MediaRun) : Decidable s.ClosePending :=
  inferInstanceAs (Decidable (∃ acts ∈ s.callbacks, Act.close ∈ acts))

instance (s : MediaRun) : Decidable s.Lost :=
  decidable_of_iff
    (s.phase = .running ∧ s.ctx.mainLoop = some ⟨true⟩ ∧ s.closed = true ∧ ¬ s.ClosePending)
    ⟨fun ⟨h1, h2, h3, h4⟩ => ⟨h1, h2, h3, h4⟩, fun ⟨h1, h2, h3, h4⟩ => ⟨h1, h2, h3, h4⟩⟩

/-! ## What a step does to the loop -/

theorem mainLoop_foldl_probeStructure (caps : List GstStructure) (ctx : RtspSrcContext) :
    (caps.foldl probeStructure ctx).mainLoop = ctx.mainLoop :=
  foldl_probeStructure (fun _ _ m => by cases m <;> rfl) caps ctx

theorem mainLoop_exec {act : Act} (h : act ≠ .close) (ctx : RtspSrcContext) :
    (act.exec ctx).1.mainLoop = ctx.mainLoop := by
  cases act with
  | close => exact absurd rfl h
  | probe pad => exact mainLoop_foldl_probeStructure pad.caps ctx
  | updateStatus _ | latch | loadShutdown | connect _ => rfl

theorem next_cases (s : MediaRun) (phase : Phase) (s' : MediaRun) :
    s.next phase s' = s ∨ s.phase = phase ∧ s.next phase s' = s' := by
  unfold next
  split
  · exact .inr ⟨‹_›, rfl⟩
  · exact .inl rfl

/-- A step of a callback leaves the phase; a call of `closeGstRtspSrc` quits the loop, the other
steps leave it and the calls on their way. -/
theorem doAct_cases (s : MediaRun) (i : Nat) :
    (s.doAct i).phase = s.phase ∧
      ((s.doAct i).ctx.mainLoop = s.ctx.mainLoop.map MainLoop.quit ∨
        (s.doAct i).ctx.mainLoop = s.ctx.mainLoop ∧ (s.doAct i).closed = s.closed ∧
          (s.ClosePending → (s.doAct i).ClosePending)) := by
  unfold doAct
  split
  · rename_i act acts hi
    refine ⟨rfl, ?_⟩
    by_cases hact : act = .close
    · subst hact
      exact .inl rfl
    · refine .inr ⟨mainLoop_exec hact s.ctx, by simp [hact], ?_⟩
      rintro ⟨code, hcode, hclose⟩
      obtain ⟨j, hj⟩ := List.mem_iff_getElem?.mp hcode
      by_cases hij : i = j
      · -- the call is still in the rest of this callback
        subst hij
        rw [hi, Option.some_inj] at hj
        subst hj
        rcases List.mem_cons.mp hclose with h | h
        · exact absurd h.symm hact
        · exact ⟨_, List.mem_set (List.getElem?_eq_some_iff.mp hi).1 _, List.mem_append_right _ h⟩
      · refine ⟨code, List.mem_iff_getElem?.mpr ⟨j, ?_⟩, hclose⟩
        rwa [List.getElem?_set_ne hij]
  · exact ⟨rfl, .inr ⟨rfl, rfl, id⟩⟩

/-! ## Lost calls -/

/-- `mainLoop` is stored before the thread enters the loop. -/
def LoopStored (s : MediaRun) : Prop := s.phase = .created → s.ctx.mainLoop.isSome = true

theorem loopStored_step (s : MediaRun) (e : Event) (h : s.LoopStored) : (s.step e).LoopStored := by
  have hnext : ∀ {phase s'}, s'.LoopStored → (s.next phase s').LoopStored := by
    intro phase s' hs'
    rcases s.next_cases phase s' with heq | ⟨_, heq⟩ <;> rw [heq]
    · exact h
    · exact hs'
  cases e with
  | start _ | setUpFails | setPlaying | setPlayingFails | mainLoopRun | setNull | mainLoopUnref =>
    exact hnext (fun h => by cases h)
  | mainLoopNew => exact hnext fun _ => rfl
  | mainLoopReturns =>
    show LoopStored (if _ then _ else _)
    split
    · exact h
    · exact hnext (fun h => by cases h)
  | fire cb =>
    show LoopStored (if _ then _ else _)
    split <;> exact h
  | act i =>
    intro hphase
    obtain ⟨hp, hl | ⟨hl, -⟩⟩ := s.doAct_cases i
    · rw [step, hl, Option.isSome_map]
      exact h (hp ▸ hphase)
    · rw [step, hl]
      exact h (hp ▸ hphase)
  | shutdownMediaSource => exact h

/-- A call is lost only where the thread enters its loop. -/
theorem lost_of_step {s : MediaRun} {e : Event} (he : e ≠ .mainLoopRun) (h : (s.step e).Lost) :
    s.Lost := by
  have hnext : ∀ {phase s'}, s'.phase ≠ .running → (s.next phase s').Lost → s.Lost := by
    intro phase s' hs' hlost
    rcases s.next_cases phase s' with heq | ⟨_, heq⟩ <;> rw [heq] at hlost
    · exact hlost
    · exact absurd hlost.running hs'
  cases e with
  | start _ | setUpFails | setPlaying | setPlayingFails | mainLoopNew | setNull | mainLoopUnref =>
    exact hnext (fun h => by cases h) h
  | mainLoopRun => exact absurd rfl he
  | mainLoopReturns =>
    rw [step] at h
    split at h
    · exact h
    · exact hnext (fun h => by cases h) h
  | fire cb =>
    rw [step] at h
    split at h
    · refine ⟨h.running, h.notQuit, h.closed, fun ⟨acts, hmem, hclose⟩ => ?_⟩
      exact h.consumed ⟨acts, List.mem_append_left _ hmem, hclose⟩
    · exact h
  | act i =>
    obtain ⟨hp, hl | ⟨hl, hc, hpending⟩⟩ := s.doAct_cases i
    · -- the loop was told to quit
      have hq := h.notQuit
      rw [step, hl] at hq
      obtain ⟨loop, _, hloop⟩ := Option.map_eq_some_iff.mp hq
      cases hloop
    · exact ⟨hp ▸ h.running, hl ▸ h.notQuit, hc ▸ h.closed, fun hs => h.consumed (hpending hs)⟩
  | shutdownMediaSource => exact ⟨h.running, h.notQuit, h.closed, h.consumed⟩

theorem heeded_iff {s : MediaRun} (hstored : s.LoopStored) (hs : ¬ s.Lost) (e : Event) :
    s.Heeded e ↔ ¬ (s.step e).Lost := by
  by_cases he : e = .mainLoopRun
  · subst he
    by_cases hphase : s.phase = .created
    · have hloop : s.ctx.mainLoop.map MainLoop.run = some ⟨true⟩ := by
        obtain ⟨loop, hl⟩ := Option.isSome_iff_exists.mp (hstored hphase)
        rw [hl]
        rfl
      have hstep : s.step .mainLoopRun = { s with
          ctx := { s.ctx with mainLoop := s.ctx.mainLoop.map MainLoop.run }
          phase := .running } := if_pos hphase
      rw [hstep]
      constructor
      · exact fun h hlost => hlost.consumed (h rfl hphase hlost.closed)
      · intro h _ _ hclosed
        by_contra hpending
        exact h ⟨rfl, hloop, hclosed, hpending⟩
    · have hstep : s.step .mainLoopRun = s := if_neg hphase
      rw [hstep]
      exact ⟨fun _ => hs, fun _ _ h => absurd h hphase⟩
  · exact ⟨fun _ h => hs (lost_of_step he h), fun _ h => absurd h he⟩

/-- In every run, no call of `closeGstRtspSrc` is ever lost exactly if the loop is only entered
before the first call of the run or with another call on its way. -/
theorem no_lost_close_iff (es : List Event) :
    Run.Along step Heeded init es ↔ ∀ bs, bs <+: es → ¬ (Run.exec step init bs).Lost := by
  refine Run.along_iff_prefix (I := LoopStored) (Q := fun s => ¬ s.Lost) loopStored_step ?_ ?_ ?_ es
  · exact fun s e hI hs => heeded_iff hI hs e
  · exact fun h => by cases h
  · exact fun h => by cases h.running

/-- Discovery finds the last pad before its loop exists. -/
def noMorePadsFirst : List Event :=
  [.start true, .setPlaying, .fire .noMorePads, .act 0, .act 0, .mainLoopNew, .mainLoopRun]

theorem lost_noMorePads : (Run.exec step init noMorePadsFirst).Lost := by decide

/-- With every callback returned, the thread stays in its loop until another one is fired. -/
theorem lost_blocks {s : MediaRun} (h : s.Lost) (hdone : ∀ acts ∈ s.callbacks, acts = [])
    (es : List Event) (hes : ∀ e ∈ es, ∀ cb, e ≠ .fire cb) : (Run.exec step s es).Lost := by
  have hnext : ∀ {s : MediaRun} {phase s'}, s.Lost → phase ≠ .running → s.next phase s' = s :=
    fun h hphase => if_neg fun heq => hphase (heq.symm.trans h.running)
  induction es generalizing s with
  | nil => exact h
  | cons e es ih =>
    have hrest : ∀ e ∈ es, ∀ cb, e ≠ .fire cb := fun e he => hes e (List.mem_cons_of_mem _ he)
    rw [Run.exec_cons]
    cases e with
    | start _ | setUpFails | setPlaying | setPlayingFails | mainLoopNew | mainLoopRun | setNull
    | mainLoopUnref =>
      rw [step, hnext h (by decide)]
      exact ih h hdone hrest
    | mainLoopReturns =>
      rw [step, if_pos h.notQuit]
      exact ih h hdone hrest
    | fire cb => exact absurd rfl (hes _ List.mem_cons_self cb)
    | act i =>
      have hs : s.doAct i = s := by
        unfold doAct
        split
        · rename_i act acts hi
          have := hdone _ (List.mem_of_getElem? hi)
          cases this
        · rfl
      rw [step, hs]
      exact ih h hdone hrest
    | shutdownMediaSource => exact ih ⟨h.running, h.notQuit, h.closed, h.consumed⟩ hdone hrest

/-! ## A discovery as a run -/

theorem exec_executes {acts : List Act} {ctx ctx' : RtspSrcContext} (h : Executes acts ctx ctx')
    {s : MediaRun} {i : Nat} (hs : s.ctx = ctx) (hi : s.callbacks[i]? = some acts) :
    ∃ es callbacks closed, Run.exec step s es =
      { s with ctx := ctx', callbacks := callbacks, closed := closed } := by
  induction h generalizing s with
  | nil ctx =>
    subst hs
    exact ⟨[], s.callbacks, s.closed, rfl⟩
  | @cons act acts ctx ctx' _ ih =>
    subst hs
    have hstep : s.step (.act i) = { s with
        ctx := (act.exec s.ctx).1
        callbacks := s.callbacks.set i ((act.exec s.ctx).2 ++ acts)
        closed := s.closed || decide (act = .close) } := by
      rw [step, doAct, hi]
    have hi' : (s.step (.act i)).callbacks[i]? = some ((act.exec s.ctx).2 ++ acts) := by
      rw [hstep]
      exact List.getElem?_set_self (List.getElem?_eq_some_iff.mp hi).1
    obtain ⟨es, callbacks, closed, hes⟩ := ih (by rw [hstep]) hi'
    refine ⟨.act i :: es, callbacks, closed, ?_⟩
    rw [Run.exec_cons, hes, hstep]

/-- The callbacks of a list, fired and taken to their end one after the other. -/
theorem exec_runCallbacks (cbs : List Callback) {s : MediaRun} (hfires : s.phase.fires = true)
    (hcbs : ∀ cb ∈ cbs, cb.connected s.enableProbe = true) :
    ∃ es callbacks closed, Run.exec step s es =
      { s with ctx := runCallbacks cbs s.ctx, callbacks := callbacks, closed := closed } := by
  induction cbs generalizing s with
  | nil => exact ⟨[], s.callbacks, s.closed, rfl⟩
  | cons cb cbs ih =>
    have hfire : s.step (.fire cb) = { s with callbacks := s.callbacks ++ [cb.code] } := by
      rw [step, hfires, hcbs cb List.mem_cons_self]
      rfl
    have hi : (s.step (.fire cb)).callbacks[s.callbacks.length]? = some cb.code := by
      rw [hfire]
      exact List.getElem?_concat_length
    obtain ⟨es, callbacks, closed, hes⟩ :=
      exec_executes (cb.executes_code s.ctx) (by rw [hfire]) hi
    rw [hfire] at hes
    obtain ⟨es', callbacks', closed', hes'⟩ :=
      @ih { s with ctx := cb.call s.ctx, callbacks := callbacks, closed := closed } hfires
        fun c hc => hcbs c (List.mem_cons_of_mem cb hc)
    refine ⟨.fire cb :: es ++ es', callbacks', closed', ?_⟩
    rw [List.cons_append, Run.exec_cons, Run.exec_append, hfire, hes]
    exact hes'

theorem connected_callbacks (a : Attempt) : ∀ cb ∈ a.callbacks, cb.connected true = true := by
  intro cb hcb
  cases a with
  | setUpFails fault => cases hcb
  | plays pads ending =>
    rcases List.mem_append.mp hcb with hcb | hcb
    · obtain ⟨pad, _, rfl⟩ := List.mem_map.mp hcb
      rfl
    · rw [List.mem_singleton.mp hcb]
      cases ending <;> rfl

/-- Every ending of a discovery quits its loop. -/
theorem mainLoop_ending (ending : Ending) (ctx : RtspSrcContext) :
    (ending.callback.call ctx).mainLoop = ctx.mainLoop.map MainLoop.quit := by
  cases ending with
  | busError | eos | noMorePads => rfl
  | failingPad caps sinkCreated =>
    rw [← mainLoop_foldl_probeStructure caps ctx]
    cases sinkCreated <;> rfl

/-- `discoverMediaSource` is a run of the system from a state between two runs to another one. -/
theorem exec_discoverMediaSource (a : Attempt) {s : MediaRun} (hs : s.phase = .idle) :
    ∃ es callbacks closed, Run.exec step s es =
      ⟨(discoverMediaSource a s.ctx).2, true, .idle, callbacks, closed⟩ := by
  have hstart : s.step (.start true) = { s with
      ctx := { s.ctx with codecStatus := .success }
      enableProbe := true
      phase := .setUp
      closed := false } := if_pos hs
  cases a with
  | setUpFails fault =>
    refine ⟨[.start true, .setUpFails, .setNull, .mainLoopUnref], s.callbacks, false, ?_⟩
    rw [Run.exec_cons, hstart]
    rfl
  | plays pads ending =>
    obtain ⟨es, callbacks, closed, hes⟩ :=
      @exec_runCallbacks (Attempt.plays pads ending).callbacks
        ⟨{ s.ctx with codecStatus := .success, mainLoop := some MainLoop.new.run }, true, .running,
          s.callbacks, false⟩ rfl (connected_callbacks _)
    refine ⟨[.start true, .setPlaying, .mainLoopNew, .mainLoopRun] ++ es ++
      [.mainLoopReturns, .setNull, .mainLoopUnref], callbacks, closed, ?_⟩
    have hrun : Run.exec step s [.start true, .setPlaying, .mainLoopNew, .mainLoopRun] =
        ⟨{ s.ctx with codecStatus := .success, mainLoop := some MainLoop.new.run }, true, .running,
          s.callbacks, false⟩ := by
      rw [Run.exec_cons, hstart]
      rfl
    have hquit : (runCallbacks (Attempt.plays pads ending).callbacks
        { s.ctx with codecStatus := .success, mainLoop := some MainLoop.new.run }).mainLoop ≠
          some ⟨true⟩ := by
      rw [runCallbacks, Attempt.callbacks, List.foldl_append, List.foldl_cons, List.foldl_nil,
        mainLoop_ending]
      intro h
      obtain ⟨loop, _, hloop⟩ := Option.map_eq_some_iff.mp h
      cases hloop
    rw [Run.exec_append, Run.exec_append, hrun, hes, Run.exec_cons, step, if_neg hquit]
    rfl

end MediaRun

end WebrtcApp.RtspSrc
