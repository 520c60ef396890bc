import WebrtcApp.App.RtspSrc
import WebrtcApp.Lib.Overwrite
import WebrtcApp.Lib.Run

/-!
# The latched codec configuration

`initMediaSource` makes the first attempt to discover the streams of the camera, and
`isMediaSourceReady` another one each time it is called before the configuration is latched.  An
attempt writes what the caps of its pads offer over what the earlier ones left, field by field,
and is the latching one if it ends with no more pads.

`latched_configuration`: once `isMediaSourceReady` succeeds, every field that the latching attempt
set has the value this attempt alone would have stored, and so has every field that no earlier
attempt set; a stream has a capability if the latching attempt offered a codec for it, and none if
no attempt did; the configuration is not written again.
-/

namespace WebrtcApp.RtspSrc

open Overwrite

/-! ## What an attempt sets -/

inductive StreamField
  | codec
  | payloadType
  | clockRate

def StreamField.get (conf : CodecStreamConf) : StreamField → RtcCodec ⊕ UInt32
  | .codec => .inl conf.codec
  | .payloadType => .inr conf.payloadType
  | .clockRate => .inr conf.clockRate

/-- The structure is of a supported encoding of `m` and has the field. -/
def GstStructure.Sets (s : GstStructure) (m : Media) (f : StreamField) : Prop :=
  (∃ codec, s.offer = some (m, codec)) ∧
    match f with
    | .codec => True
    | .payloadType => s.payload.isSome = true
    | .clockRate => s.clockRate.isSome = true

/-- The caps that discovery looks at in a callback. -/
def Callback.structures : Callback → List GstStructure
  | .padAddedDiscovery pad => pad.caps
  | _ => []

def Callback.Sets (cb : Callback) (m : Media) (f : StreamField) : Prop :=
  ∃ s ∈ cb.structures, s.Sets m f

def Attempt.Sets (a : Attempt) (m : Media) (f : StreamField) : Prop :=
  ∃ cb ∈ a.callbacks, cb.Sets m f

def Attempt.latches : Attempt → Bool
  | .plays _ .noMorePads => true
  | _ => false

/-! ## One structure -/

section
variable (m : Media) (f : StreamField)

theorem stream_setStream (ctx : RtspSrcContext) (conf : CodecStreamConf) (m' : Media) :
    (ctx.setStream conf m').stream m = if m = m' then conf else ctx.stream m := by
  cases m <;> cases m' <;> rfl

theorem overwrites_probeStructure :
    Overwrites probeStructure (fun ctx => f.get (ctx.stream m)) (fun s => s.Sets m f) where
  sets := by
    rintro s ⟨⟨codec, hoffer⟩, hfield⟩ ctx ctx'
    simp only [probeStructure, hoffer, stream_setStream, if_true]
    cases f with
    | codec => rfl
    | payloadType =>
      obtain ⟨payload, hp⟩ := Option.isSome_iff_exists.mp hfield
      simp [StreamField.get, CodecStreamConf.store, hp]
    | clockRate =>
      obtain ⟨rate, hr⟩ := Option.isSome_iff_exists.mp hfield
      simp [StreamField.get, CodecStreamConf.store, hr]
  keeps := by
    intro s hs ctx
    unfold probeStructure
    split
    · rename_i m' codec hoffer
      rw [stream_setStream]
      split
      · -- the structure is one of `m` that does not have the field
        rename_i hm
        subst hm
        cases f with
        | codec => exact absurd ⟨⟨codec, hoffer⟩, trivial⟩ hs
        | payloadType =>
          have hp : s.payload = none := by
            by_contra hp
            exact hs ⟨⟨codec, hoffer⟩, Option.isSome_iff_ne_none.mpr hp⟩
          simp [StreamField.get, CodecStreamConf.store, hp]
        | clockRate =>
          have hr : s.clockRate = none := by
            by_contra hr
            exact hs ⟨⟨codec, hoffer⟩, Option.isSome_iff_ne_none.mpr hr⟩
          simp [StreamField.get, CodecStreamConf.store, hr]
      · rfl
    · rfl

theorem offer_ne_invalid {s : GstStructure} {m : Media} {codec : RtcCodec}
    (h : s.offer = some (m, codec)) : codec ≠ .invalid := by
  unfold GstStructure.offer at h
  split at h
  · split at h
    · rename_i m' _
      obtain ⟨codec', hcodec, heq⟩ := Option.map_eq_some_iff.mp h
      obtain ⟨-, rfl⟩ := Prod.mk.injEq .. ▸ heq
      rintro rfl
      cases m' <;> simp only [Media.codec] at hcodec <;> split_ifs at hcodec <;> cases hcodec
    · cases h
  · cases h

theorem establishes_probeStructure :
    Establishes probeStructure (fun ctx => (ctx.stream m).codec ≠ .invalid)
      (fun s => s.Sets m .codec) where
  sets := by
    rintro s ⟨⟨codec, hoffer⟩, -⟩ ctx
    simpa [probeStructure, hoffer, stream_setStream, CodecStreamConf.store] using
      offer_ne_invalid hoffer
  keeps := by
    intro s ctx hctx
    unfold probeStructure
    split
    · rename_i m' codec hoffer
      rw [stream_setStream]
      split
      · exact offer_ne_invalid hoffer
      · exact hctx
    · exact hctx

/-! ## One attempt -/

theorem stream_call (cb : Callback) (ctx : RtspSrcContext) :
    (cb.call ctx).stream m = (cb.structures.foldl probeStructure ctx).stream m := by
  cases cb with
  | padAddedDiscovery pad =>
    cases h : (probePad pad ctx).2
    · simp only [Callback.call, onRtspSrcPadAddedDiscovery, h]
      cases m <;> rfl
    · simp only [Callback.call, onRtspSrcPadAddedDiscovery, h]
      rfl
  | newSample retStatus =>
    simp only [Callback.call, onNewSampleFromAppSink]
    split <;> cases m <;> rfl
  | padAdded pad =>
    simp only [Callback.call, onRtspSrcPadAdded]
    split <;> cases m <;> rfl
  | msgError | msgEos | noMorePads | padRemoved => cases m <;> rfl

theorem overwrites_call :
    Overwrites (fun ctx (cb : Callback) => cb.call ctx) (fun ctx => f.get (ctx.stream m))
      (fun cb => cb.Sets m f) where
  sets := by
    intro cb hcb ctx ctx'
    rw [stream_call, stream_call]
    exact (overwrites_probeStructure m f).foldl.sets hcb ctx ctx'
  keeps := by
    intro cb hcb ctx
    rw [stream_call]
    exact (overwrites_probeStructure m f).foldl.keeps hcb ctx

theorem establishes_call :
    Establishes (fun ctx (cb : Callback) => cb.call ctx)
      (fun ctx => (ctx.stream m).codec ≠ .invalid) (fun cb => cb.Sets m .codec) where
  sets := by
    intro cb hcb ctx
    rw [stream_call]
    exact (establishes_probeStructure m).foldl.sets hcb ctx
  keeps := by
    intro cb ctx hctx
    rw [stream_call]
    exact (establishes_probeStructure m).foldl.keeps cb.structures hctx

/-- The context in which the callbacks of an attempt run. -/
def playing (ctx : RtspSrcContext) : RtspSrcContext :=
  { ctx with codecStatus := .success, mainLoop := some MainLoop.new.run }

theorem stream_playing (ctx : RtspSrcContext) : (playing ctx).stream m = ctx.stream m := by
  cases m <;> rfl

theorem stream_discoverMediaSource (a : Attempt) (ctx : RtspSrcContext) :
    (discoverMediaSource a ctx).2.stream m = (runCallbacks a.callbacks (playing ctx)).stream m := by
  cases a <;> cases m <;> rfl

theorem overwrites_discoverMediaSource :
    Overwrites (fun ctx a => (discoverMediaSource a ctx).2) (fun ctx => f.get (ctx.stream m))
      (fun a => a.Sets m f) where
  sets := by
    intro a ha ctx ctx'
    rw [stream_discoverMediaSource, stream_discoverMediaSource]
    exact (overwrites_call m f).foldl.sets ha (playing ctx) (playing ctx')
  keeps := by
    intro a ha ctx
    rw [stream_discoverMediaSource, ← stream_playing m ctx]
    exact (overwrites_call m f).foldl.keeps ha (playing ctx)

theorem codec_discoverMediaSource {a : Attempt} (ha : a.Sets m .codec) (ctx : RtspSrcContext) :
    ((discoverMediaSource a ctx).2.stream m).codec ≠ .invalid := by
  rw [stream_discoverMediaSource]
  exact (establishes_call m).foldl.sets ha (playing ctx)

end

theorem latched_call (cb : Callback) (ctx : RtspSrcContext) :
    (cb.call ctx).codecConfigLatched = (ctx.codecConfigLatched || decide (cb = .noMorePads)) := by
  have hprobe : ∀ (caps : List GstStructure) (ctx : RtspSrcContext),
      (caps.foldl probeStructure ctx).codecConfigLatched = ctx.codecConfigLatched :=
    foldl_probeStructure fun _ _ m => by cases m <;> rfl
  cases cb with
  | padAddedDiscovery pad =>
    rw [← hprobe pad.caps ctx]
    cases h : (probePad pad ctx).2 <;> simp only [Callback.call, onRtspSrcPadAddedDiscovery, h] <;>
      exact (Bool.or_false _).symm
  | newSample retStatus =>
    simp only [Callback.call, onNewSampleFromAppSink]
    split <;> simp [closeGstRtspSrc]
  | padAdded pad =>
    simp only [Callback.call, onRtspSrcPadAdded]
    split <;> simp [failPad, updateCodecStatus, closeGstRtspSrc]
  | noMorePads => simp [Callback.call, onRtspSrcNoMorePadsDiscovery, closeGstRtspSrc]
  | msgError | msgEos | padRemoved => exact (Bool.or_false _).symm

theorem latched_runCallbacks (cbs : List Callback) (ctx : RtspSrcContext) :
    (runCallbacks cbs ctx).codecConfigLatched =
      (ctx.codecConfigLatched || cbs.any fun cb => decide (cb = .noMorePads)) := by
  induction cbs generalizing ctx with
  | nil => exact (Bool.or_false _).symm
  | cons cb cbs ih =>
    show (runCallbacks cbs (cb.call ctx)).codecConfigLatched = _
    rw [ih, latched_call, List.any_cons, Bool.or_assoc]

theorem any_callbacks (a : Attempt) :
    (a.callbacks.any fun cb => decide (cb = .noMorePads)) = a.latches := by
  cases a with
  | setUpFails fault => rfl
  | plays pads ending =>
    have hpads : (pads.map Callback.padAddedDiscovery).any
        (fun cb => decide (cb = Callback.noMorePads)) = false := by simp
    rw [Attempt.callbacks, List.any_append, hpads]
    cases ending <;> rfl

theorem latched_discoverMediaSource (a : Attempt) (ctx : RtspSrcContext) :
    (discoverMediaSource a ctx).2.codecConfigLatched = (ctx.codecConfigLatched || a.latches) := by
  rw [← any_callbacks]
  cases a with
  | setUpFails fault => exact (Bool.or_false _).symm
  | plays pads ending => exact latched_runCallbacks _ (playing ctx)

/-! ## Runs -/

/-- A call made after `initMediaSource`. -/
inductive Entry
  | isMediaSourceReady (a : Attempt)
  | runMediaSource (r : SetUpFault ⊕ List Callback)
  | shutdownMediaSource

namespace Entry

def step (ctx : RtspSrcContext) : Entry → RtspSrcContext
  | .isMediaSourceReady a => (RtspSrc.isMediaSourceReady a ctx).2
  | .runMediaSource r => (RtspSrc.runMediaSource r ctx).2
  | .shutdownMediaSource => RtspSrc.shutdownMediaSource ctx

def attempt? : Entry → Option Attempt
  | .isMediaSourceReady a => some a
  | _ => none

end Entry

/-- The attempts of a run, in their order; those after the latching one are not made. -/
def attempts (a₀ : Attempt) (es : List Entry) : List Attempt := a₀ :: es.filterMap Entry.attempt?

/-- What the stored configuration has of the latching attempt. -/
structure LatchedBy (earlier : List Attempt) (latching : Attempt) (ctx : RtspSrcContext) :
    Prop where
  fields : ∀ m (f : StreamField), (latching.Sets m f ∨ ∀ a ∈ earlier, ¬ a.Sets m f) →
    f.get (ctx.stream m) =
      f.get ((discoverMediaSource latching RtspSrcContext.initial).2.stream m)
  offered : ∀ m, latching.Sets m .codec → queryMediaCap m ctx =
    (.success, some ((discoverMediaSource latching RtspSrcContext.initial).2.stream m).codec)
  notOffered : ∀ m, (∀ a ∈ earlier ++ [latching], ¬ a.Sets m .codec) →
    queryMediaCap m ctx = (statusMediaNotExisted, none)

/-- A field that no attempt has set so far is as `initMediaSource` initialized it. -/
structure Unlatched (as : List Attempt) (ctx : RtspSrcContext) : Prop where
  latched : ctx.codecConfigLatched = false
  none_latches : ∀ a ∈ as, a.latches = false
  fields : ∀ m (f : StreamField), (∀ a ∈ as, ¬ a.Sets m f) →
    f.get (ctx.stream m) = f.get (RtspSrcContext.initial.stream m)

def Latched (as : List Attempt) (ctx : RtspSrcContext) : Prop :=
  ctx.codecConfigLatched = true ∧ ∃ earlier latching later, as = earlier ++ latching :: later ∧
    (∀ a ∈ earlier, a.latches = false) ∧ latching.latches = true ∧ LatchedBy earlier latching ctx

theorem latchedBy_discoverMediaSource {as : List Attempt} {ctx : RtspSrcContext} {a : Attempt}
    (h : Unlatched as ctx) (ha : a.latches = true) : LatchedBy as a (discoverMediaSource a ctx).2 := by
  have hlatched : (discoverMediaSource a ctx).2.codecConfigLatched = true := by
    rw [latched_discoverMediaSource, ha, Bool.or_true]
  have hfields : ∀ m (f : StreamField), (a.Sets m f ∨ ∀ e ∈ as, ¬ e.Sets m f) →
      f.get ((discoverMediaSource a ctx).2.stream m) =
        f.get ((discoverMediaSource a RtspSrcContext.initial).2.stream m) := by
    intro m f hset
    exact (overwrites_discoverMediaSource m f).agree (hset.imp_right (h.fields m f))
  refine ⟨hfields, ?_, ?_⟩
  · intro m hset
    have hcodec : ((discoverMediaSource a ctx).2.stream m).codec =
        ((discoverMediaSource a RtspSrcContext.initial).2.stream m).codec :=
      Sum.inl.inj (hfields m .codec (.inl hset))
    have hvalid := codec_discoverMediaSource m hset ctx
    simp [queryMediaCap, hlatched, hvalid, ← hcodec]
  · intro m hnone
    have hkeep : StreamField.get ((discoverMediaSource a ctx).2.stream m) .codec =
        StreamField.get (ctx.stream m) .codec :=
      (overwrites_discoverMediaSource m .codec).keeps (hnone a (by simp)) ctx
    have hinit := h.fields m .codec fun e he => hnone e (List.mem_append_left _ he)
    have hcodec : ((discoverMediaSource a ctx).2.stream m).codec = .invalid := by
      have := Sum.inl.inj (hkeep.trans hinit)
      cases m <;> exact this
    simp [queryMediaCap, hlatched, hcodec]

/-- An attempt made before the configuration is latched. -/
theorem stored_discoverMediaSource {as : List Attempt} {ctx : RtspSrcContext} (a : Attempt)
    (h : Unlatched as ctx) :
    Unlatched (as ++ [a]) (discoverMediaSource a ctx).2 ∨
      Latched (as ++ [a]) (discoverMediaSource a ctx).2 := by
  cases ha : a.latches
  · left
    refine ⟨?_, ?_, ?_⟩
    · rw [latched_discoverMediaSource, h.latched, ha, Bool.or_false]
    · intro e he
      rcases List.mem_append.mp he with he | he
      · exact h.none_latches e he
      · rwa [List.mem_singleton.mp he]
    · intro m f hnone
      have hkeep := (overwrites_discoverMediaSource m f).keeps (hnone a (by simp)) ctx
      exact hkeep.trans (h.fields m f fun e he => hnone e (List.mem_append_left _ he))
  · refine .inr ⟨?_, as, a, [], rfl, h.none_latches, ha, latchedBy_discoverMediaSource h ha⟩
    rw [latched_discoverMediaSource, ha, Bool.or_true]

/-- The contexts that agree in the configuration. -/
structure SameConfig (ctx ctx' : RtspSrcContext) : Prop where
  stream : ∀ m, ctx'.stream m = ctx.stream m
  latched : ctx'.codecConfigLatched = ctx.codecConfigLatched

theorem SameConfig.unlatched {as : List Attempt} {ctx ctx' : RtspSrcContext}
    (h : SameConfig ctx ctx') (hs : Unlatched as ctx) : Unlatched as ctx' where
  latched := h.latched.trans hs.latched
  none_latches := hs.none_latches
  fields := fun m f hnone => by rw [h.stream, hs.fields m f hnone]

theorem SameConfig.latchedBy {earlier : List Attempt} {latching : Attempt}
    {ctx ctx' : RtspSrcContext} (h : SameConfig ctx ctx') (hs : LatchedBy earlier latching ctx) :
    LatchedBy earlier latching ctx' := by
  have hquery : ∀ m, queryMediaCap m ctx' = queryMediaCap m ctx := by
    intro m
    rw [queryMediaCap, queryMediaCap, h.latched, h.stream]
  refine ⟨fun m f hset => ?_, fun m hset => ?_, fun m hnone => ?_⟩
  · rw [h.stream, hs.fields m f hset]
  · rw [hquery, hs.offered m hset]
  · rw [hquery, hs.notOffered m hnone]

theorem SameConfig.latched_append {as : List Attempt} {ctx ctx' : RtspSrcContext}
    (h : SameConfig ctx ctx') (hs : Latched as ctx) (bs : List Attempt) :
    Latched (as ++ bs) ctx' := by
  obtain ⟨hl, earlier, latching, later, rfl, hearlier, hlatching, hby⟩ := hs
  refine ⟨h.latched.trans hl, earlier, latching, later ++ bs, ?_, hearlier, hlatching,
    h.latchedBy hby⟩
  rw [List.append_assoc, List.cons_append]

/-- The media thread does not write the configuration. -/
theorem sameConfig_runMediaSource (r : SetUpFault ⊕ List Callback) (ctx : RtspSrcContext) :
    SameConfig ctx (runMediaSource r ctx).2 := by
  cases r with
  | inl fault => exact ⟨fun m => by cases m <;> rfl, rfl⟩
  | inr cbs =>
    have hcalls : ∀ (cbs : List Callback) (ctx : RtspSrcContext),
        SameConfig ctx (runCallbacks (cbs.filter (Callback.connected false)) ctx) := by
      intro cbs
      induction cbs with
      | nil => exact fun _ => ⟨fun _ => rfl, rfl⟩
      | cons cb cbs ih =>
        intro ctx
        rw [List.filter_cons]
        split
        · rename_i hcb
          have hcall : SameConfig ctx (cb.call ctx) := by
            refine ⟨fun m => ?_, ?_⟩
            · rw [stream_call]
              cases cb <;> first | rfl | cases hcb
            · rw [latched_call]
              cases cb <;> first | exact Bool.or_false _ | cases hcb
          have hrest := ih (cb.call ctx)
          exact ⟨fun m => (hrest.stream m).trans (hcall.stream m),
            hrest.latched.trans hcall.latched⟩
        · exact ih ctx
    have h := hcalls cbs (playing ctx)
    refine ⟨fun m => ?_, h.latched⟩
    cases m
    · exact h.stream .video
    · exact h.stream .audio

theorem isMediaSourceReady_snd (a : Attempt) (ctx : RtspSrcContext) :
    (isMediaSourceReady a ctx).2 =
      if ctx.codecConfigLatched then ctx else (discoverMediaSource a ctx).2 := by
  unfold isMediaSourceReady
  dsimp only
  generalize (if ctx.codecConfigLatched then ctx else (discoverMediaSource a ctx).2) = ctx'
  split <;> rfl

theorem isMediaSourceReady_success {a : Attempt} {ctx : RtspSrcContext} :
    (isMediaSourceReady a ctx).1 = .success ↔
      (isMediaSourceReady a ctx).2.codecConfigLatched = true := by
  rw [isMediaSourceReady_snd]
  unfold isMediaSourceReady
  dsimp only
  generalize (if ctx.codecConfigLatched then ctx else (discoverMediaSource a ctx).2) = ctx'
  cases h : ctx'.codecConfigLatched <;> simp

/-- A call is an attempt made before the configuration is latched, or leaves it. -/
theorem step_cases (ctx : RtspSrcContext) (e : Entry) :
    SameConfig ctx (Entry.step ctx e) ∧
        (e.attempt? = none ∨ ctx.codecConfigLatched = true) ∨
      ctx.codecConfigLatched = false ∧
        ∃ a, e.attempt? = some a ∧ Entry.step ctx e = (discoverMediaSource a ctx).2 := by
  cases e with
  | isMediaSourceReady a =>
    cases hl : ctx.codecConfigLatched
    · refine .inr ⟨rfl, a, rfl, ?_⟩
      rw [Entry.step, isMediaSourceReady_snd, hl, if_neg Bool.false_ne_true]
    · have hstep : Entry.step ctx (.isMediaSourceReady a) = ctx := by
        rw [Entry.step, isMediaSourceReady_snd, hl, if_pos rfl]
      exact .inl ⟨by rw [hstep]; exact ⟨fun _ => rfl, rfl⟩, .inr rfl⟩
  | runMediaSource r => exact .inl ⟨sameConfig_runMediaSource r ctx, .inl rfl⟩
  | shutdownMediaSource => exact .inl ⟨⟨fun m => by cases m <;> rfl, rfl⟩, .inl rfl⟩

theorem stored_step {as : List Attempt} {ctx : RtspSrcContext} (e : Entry)
    (h : Unlatched as ctx ∨ Latched as ctx) :
    Unlatched (as ++ e.attempt?.toList) (Entry.step ctx e) ∨
      Latched (as ++ e.attempt?.toList) (Entry.step ctx e) := by
  rcases step_cases ctx e with ⟨hsame, hnone⟩ | ⟨hl, a, ha, hstep⟩
  · rcases h with h | h
    · have hattempt := hnone.resolve_right (by rw [h.latched]; exact Bool.false_ne_true)
      rw [hattempt, Option.toList_none, List.append_nil]
      exact .inl (hsame.unlatched h)
    · exact .inr (hsame.latched_append h _)
  · rw [ha, hstep]
    rcases h with h | h
    · exact stored_discoverMediaSource a h
    · exact absurd (hl.symm.trans h.1) Bool.false_ne_true

theorem stored_exec {as : List Attempt} {ctx : RtspSrcContext} (es : List Entry)
    (h : Unlatched as ctx ∨ Latched as ctx) :
    Unlatched (as ++ es.filterMap Entry.attempt?) (Run.exec Entry.step ctx es) ∨
      Latched (as ++ es.filterMap Entry.attempt?) (Run.exec Entry.step ctx es) := by
  induction es generalizing as ctx with
  | nil => rwa [List.filterMap_nil, List.append_nil]
  | cons e es ih =>
    have hs := ih (stored_step e h)
    have hlist : (e :: es).filterMap Entry.attempt? =
        e.attempt?.toList ++ es.filterMap Entry.attempt? := by
      rw [List.filterMap_cons]
      cases e.attempt? <;> rfl
    rwa [hlist, ← List.append_assoc]

/-- A latched configuration is never written. -/
theorem sameConfig_exec {ctx : RtspSrcContext} (h : ctx.codecConfigLatched = true)
    (es : List Entry) : SameConfig ctx (Run.exec Entry.step ctx es) := by
  induction es generalizing ctx with
  | nil => exact ⟨fun _ => rfl, rfl⟩
  | cons e es ih =>
    rcases step_cases ctx e with ⟨hsame, -⟩ | ⟨hl, -⟩
    · have hrest := ih (hsame.latched.trans h)
      exact ⟨fun m => (hrest.stream m).trans (hsame.stream m), hrest.latched.trans hsame.latched⟩
    · exact absurd (hl.symm.trans h) Bool.false_ne_true

theorem stored_initMediaSource {calls : InitCalls} {a₀ : Attempt} {ctx₀ : RtspSrcContext}
    (h : initMediaSource calls a₀ = (.success, some ctx₀)) :
    Unlatched [a₀] ctx₀ ∨ Latched [a₀] ctx₀ := by
  have hinit : Unlatched [] RtspSrcContext.initial := by
    refine ⟨rfl, fun a ha => ?_, fun _ _ _ => rfl⟩
    cases ha
  have hctx : ctx₀ = (discoverMediaSource a₀ RtspSrcContext.initial).2 := by
    simp only [initMediaSource] at h
    split_ifs at h
    · cases congrArg Prod.snd h
    · cases congrArg Prod.snd h
    · cases congrArg Prod.snd h
    · cases congrArg Prod.snd h
    · exact (Option.some.inj (congrArg Prod.snd h)).symm
  rw [hctx]
  exact stored_discoverMediaSource a₀ hinit

/-- Whenever `isMediaSourceReady` succeeds, the configuration is the latching attempt's in every
field it set and in every field no attempt before it set; a stream it offered can be queried, one
that no attempt offered cannot; and no later call writes the configuration. -/
theorem latched_configuration {calls : InitCalls} {a₀ : Attempt} {ctx₀ : RtspSrcContext}
    (hinit : initMediaSource calls a₀ = (.success, some ctx₀)) (es : List Entry) (a : Attempt)
    (hready : (isMediaSourceReady a (Run.exec Entry.step ctx₀ es)).1 = .success) :
    ∃ earlier latching later, attempts a₀ (es ++ [.isMediaSourceReady a]) =
        earlier ++ latching :: later ∧
      (∀ e ∈ earlier, e.latches = false) ∧ latching.latches = true ∧
      LatchedBy earlier latching (isMediaSourceReady a (Run.exec Entry.step ctx₀ es)).2 ∧
      ∀ es' m, (Run.exec Entry.step (isMediaSourceReady a (Run.exec Entry.step ctx₀ es)).2
          es').stream m =
        (isMediaSourceReady a (Run.exec Entry.step ctx₀ es)).2.stream m := by
  have hlatched := isMediaSourceReady_success.mp hready
  have hstored := stored_exec (es ++ [.isMediaSourceReady a]) (stored_initMediaSource hinit)
  rw [Run.exec_append] at hstored
  rcases hstored with h | ⟨-, earlier, latching, later, hsplit, hearlier, hlatching, hby⟩
  · exact absurd (h.latched.symm.trans hlatched) Bool.false_ne_true
  · refine ⟨earlier, latching, later, hsplit, hearlier, hlatching, hby, fun es' m => ?_⟩
    exact (sameConfig_exec hlatched es').stream m

/-- A camera with an H.264 stream and no other. -/
def videoOnly : Attempt :=
  .plays [⟨[⟨some "video", some "H264", some 96, some 90000⟩], none, true, true⟩] .noMorePads

/-- A stream that ends after the first pad. -/
def audioThenEos : Attempt :=
  .plays [⟨[⟨some "audio", some "PCMA", some 8, some 8000⟩], none, true, true⟩] .eos

theorem videoOnly_after_eos :
    ∃ earlier latching later, [audioThenEos, videoOnly] = earlier ++ latching :: later ∧
      latching.latches = true ∧ LatchedBy earlier latching
        (isMediaSourceReady videoOnly (discoverMediaSource audioThenEos .initial).2).2 := by
  have hinit : initMediaSource ⟨true, true, .success⟩ audioThenEos =
      (.success, some (discoverMediaSource audioThenEos .initial).2) := by decide +kernel
  obtain ⟨earlier, latching, later, hsplit, -, hlatching, hby, -⟩ :=
    latched_configuration hinit [] videoOnly (by decide +kernel)
  exact ⟨earlier, latching, later, hsplit, hlatching, hby⟩

/-- The configuration of a camera without audio is latched, with no audio codec to query. -/
theorem videoOnly_no_audio :
    ∃ ctx, initMediaSource ⟨true, true, .success⟩ videoOnly = (.success, some ctx) ∧
      (isMediaSourceReady videoOnly ctx).1 = .success ∧
      queryMediaVideoCap (isMediaSourceReady videoOnly ctx).2 = (.success, some .h264) ∧
      queryMediaAudioCap (isMediaSourceReady videoOnly ctx).2 = (statusMediaNotExisted, none) :=
  ⟨(discoverMediaSource videoOnly .initial).2, by decide +kernel⟩

/-! ## The flags -/

def Attempt.closes : Attempt → Bool
  | .setUpFails _ => false
  | .plays _ _ => true

theorem shutdown_discoverMediaSource (a : Attempt) (ctx : RtspSrcContext) :
    (discoverMediaSource a ctx).2.shutdownRtspSrc = (ctx.shutdownRtspSrc && !a.closes) := by
  cases a with
  | setUpFails fault => exact (Bool.and_true _).symm
  | plays pads ending =>
    have hending : ∀ ctx, (ending.callback.call ctx).shutdownRtspSrc = false := by
      intro ctx
      cases ending with
      | busError | eos | noMorePads => rfl
      | failingPad caps sinkCreated => cases sinkCreated <;> rfl
    rw [Attempt.closes, Bool.not_true, Bool.and_false]
    show (runCallbacks _ (playing ctx)).shutdownRtspSrc = false
    rw [runCallbacks, Attempt.callbacks, List.foldl_append, List.foldl_cons, List.foldl_nil, hending]

/-- What the other functions of the application see of `isMediaSourceReady`. -/
theorem isMediaSourceReady_flags {env : Env} {a : Attempt} (hd : env.mediaDiscovered = a.latches)
    (hc : env.mediaClosed = a.closes) (ctx : RtspSrcContext) :
    WebrtcApp.isMediaSourceReady env ctx.flags =
      ((isMediaSourceReady a ctx).1, (isMediaSourceReady a ctx).2.flags) := by
  have hlatched := latched_discoverMediaSource a ctx
  have hshutdown := shutdown_discoverMediaSource a ctx
  cases hl : ctx.codecConfigLatched
  · rw [hl, Bool.false_or] at hlatched
    simp only [WebrtcApp.isMediaSourceReady, isMediaSourceReady, RtspSrcContext.flags, hl, hd, hc,
      if_neg Bool.false_ne_true, hlatched]
    cases ha : a.latches <;> simp [hlatched, hshutdown, ha]
  · simp [WebrtcApp.isMediaSourceReady, isMediaSourceReady, RtspSrcContext.flags, hl]

end WebrtcApp.RtspSrc
