import WebrtcApp.Runs.Discovery
import WebrtcApp.Runs.PadSinks

/-!
# What the two callbacks make of a pad

Discovery stores codec, payload type and clock rate of a stream one by one, from whatever supported
structures have them.  The streaming pipeline looks at the payload type only, and does not ask for
the encoding.

    discoverTagged_ctx      the discovery, with the number of the structure each field came from
    stream_discovered       what is stored: the last codec and the last payload type
    connected_eq            what is connected: the last payload type against the stored one
    connectPad_ok           a pad is connected where it has a sink
    stream_agreement_iff    when they agree
-/

namespace WebrtcApp.RtspSrc

/-! ## Discovery, with the origins of the fields -/

/-- The structure has a field that is stored. -/
def GstStructure.has (s : GstStructure) : StreamField → Bool
  | .codec => true
  | .payloadType => s.payload.isSome
  | .clockRate => s.clockRate.isSome

/-- The context, and the number of the structure that each field of a stream was stored from. -/
structure Tagged where
  ctx : RtspSrcContext
  origin : Media → StreamField → Option Nat

/-- `probeStructure`. -/
def probeTagged (t : Tagged) (s : GstStructure × Nat) : Tagged :=
  match s.1.offer with
  | some (m, codec) =>
    ⟨t.ctx.setStream ((t.ctx.stream m).store codec s.1) m,
      fun m' f => if m' = m ∧ s.1.has f = true then some s.2 else t.origin m' f⟩
  | none => t

/-- The structures of all pads in the order discovery sees them. -/
def discoverTagged (structures : List GstStructure) : Tagged :=
  structures.zipIdx.foldl probeTagged ⟨.initial, fun _ _ => none⟩

/-- A pad for which every call succeeds. -/
def Pad.ok (caps : List GstStructure) : Pad := ⟨caps, none, true, true⟩

/-- The context after a discovery that sees the pads. -/
def discovered (pads : List (List GstStructure)) : RtspSrcContext :=
  (discoverMediaSource (.plays (pads.map Pad.ok) .noMorePads) .initial).2

/-- The context of the streaming pipeline after it has seen the pads `before`. -/
def streaming (pads before : List (List GstStructure)) : RtspSrcContext :=
  runCallbacks (before.map fun caps => .padAdded (Pad.ok caps)) (playing (discovered pads))

/-- The sink that the streaming pipeline connects a pad to. -/
def connected (ctx : RtspSrcContext) (caps : List GstStructure) : Option Sink :=
  (connectCaps none ctx 0 ⟨false, false, 0, none⟩ caps).bind (·.nextElement)

/-! ## The specification -/

/-- Where a stream is offered, its three fields come from one supported structure. -/
def FromOne (structures : List GstStructure) (m : Media) : Prop :=
  (∃ s ∈ structures, ∃ codec, s.offer = some (m, codec)) →
    ∃ i s codec, structures[i]? = some s ∧ s.offer = some (m, codec) ∧
      ∀ f, (discoverTagged structures).origin m f = some i

/-- A pad has the sink of a medium exactly where it has the encoding of the stored codec. -/
def ConnectedByEncoding (ctx : RtspSrcContext) (caps : List GstStructure) : Prop :=
  ∀ m, connected ctx caps = some (ctx.sink m) ↔
    ∃ s ∈ caps, s.offer = some (m, (ctx.stream m).codec)

/-- The streaming pipeline sees the pads in any order. -/
structure Agreement (pads : List (List GstStructure)) : Prop where
  fromOne : ∀ m, FromOne pads.flatten m
  connected : ∀ before, ∀ caps ∈ pads, ConnectedByEncoding (streaming pads before) caps

/-! ## The condition -/

/-- The codec that the structure offers for `m`. -/
def GstStructure.codecFor (m : Media) (s : GstStructure) : Option RtcCodec :=
  match s.offer with
  | some (m', codec) => if m' = m then some codec else none
  | none => none

/-- The structures of a supported encoding of `m`, with their codecs. -/
def supported (m : Media) (structures : List GstStructure) : List (GstStructure × RtcCodec) :=
  structures.filterMap fun s => (s.codecFor m).map fun codec => (s, codec)

/-- The codec of the last supported structure. -/
def lastCodec (m : Media) (structures : List GstStructure) : RtcCodec :=
  ((supported m structures).getLast?.map (·.2)).getD .invalid

/-- The payload type of the last supported structure that has one. -/
def lastSupportedPayload (m : Media) (structures : List GstStructure) : UInt32 :=
  (((supported m structures).filterMap (·.1.payload)).getLast?.map Int32.toUInt32).getD 0

/-- The media of the audio and video structures. -/
def kinds (caps : List GstStructure) : List Media := caps.filterMap (·.kind)

/-- The last supported structure of `m` has a payload and a clock rate. -/
def LastIsComplete (structures : List GstStructure) (m : Media) : Prop :=
  ∀ s codec, (supported m structures).getLast? = some (s, codec) →
    s.payload.isSome = true ∧ s.clockRate.isSome = true

/-- The last payload type of the pad is the one stored for the medium of its last structure. -/
def PayloadMatches (structures caps : List GstStructure) : Prop :=
  ∃ m, (kinds caps).getLast? = some m ∧
    lastSupportedPayload m structures = (lastPayload caps).toUInt32

/-- The pad has a structure of the stored encoding of `m`. -/
def Offers (structures : List GstStructure) (m : Media) (caps : List GstStructure) : Prop :=
  ∃ s ∈ caps, s.offer = some (m, lastCodec m structures)

/-- A pad whose payload type matches has the stored encoding of video, and not that of audio, if one
of its structures is video, and that of audio otherwise; another pad has neither. -/
structure Agrees (structures caps : List GstStructure) : Prop where
  video : PayloadMatches structures caps → .video ∈ kinds caps →
    Offers structures .video caps ∧ ¬ Offers structures .audio caps
  audio : PayloadMatches structures caps → .video ∉ kinds caps → Offers structures .audio caps
  dummy : ¬ PayloadMatches structures caps → ∀ m, ¬ Offers structures m caps

variable {ctx : RtspSrcContext} {structures : List GstStructure} {s : GstStructure} {m : Media}

/-! ## What is stored -/

theorem discoverTagged_append (structures : List GstStructure) (s : GstStructure) :
    discoverTagged (structures ++ [s]) =
      probeTagged (discoverTagged structures) (s, structures.length) := by
  unfold discoverTagged
  rw [List.zipIdx_append, List.foldl_append]
  simp

theorem probeTagged_ctx (t : Tagged) (s : GstStructure × Nat) :
    (probeTagged t s).ctx = probeStructure t.ctx s.1 := by
  unfold probeTagged probeStructure
  cases s.1.offer <;> rfl

/-- Without the origins it is the loop of the discovery. -/
theorem discoverTagged_ctx (structures : List GstStructure) :
    (discoverTagged structures).ctx = structures.foldl probeStructure .initial := by
  induction structures using List.reverseRecOn with
  | nil => rfl
  | append_singleton structures s ih =>
    rw [discoverTagged_append, probeTagged_ctx, ih, List.foldl_append]
    rfl

theorem GstStructure.codecFor_eq_some {codec : RtcCodec} :
    s.codecFor m = some codec ↔ s.offer = some (m, codec) := by
  unfold GstStructure.codecFor
  cases s.offer with
  | none => exact iff_of_false nofun nofun
  | some o =>
    obtain ⟨m', codec'⟩ := o
    simp only
    split_ifs with hm
    · subst hm
      simp
    · exact iff_of_false nofun fun h => hm (Prod.mk.inj (Option.some.inj h)).1

theorem supported_append (m : Media) (structures : List GstStructure) (s : GstStructure) :
    supported m (structures ++ [s]) =
      supported m structures ++ ((s.codecFor m).map fun codec => (s, codec)).toList := by
  unfold supported
  rw [List.filterMap_append]
  cases h : s.codecFor m <;> simp [h]

theorem origin_append (structures : List GstStructure) (s : GstStructure) (m : Media)
    (f : StreamField) : (discoverTagged (structures ++ [s])).origin m f =
      if (s.codecFor m).isSome = true ∧ s.has f = true then some structures.length
      else (discoverTagged structures).origin m f := by
  rw [discoverTagged_append]
  unfold probeTagged GstStructure.codecFor
  cases s.offer with
  | none => rfl
  | some o =>
    obtain ⟨m', codec⟩ := o
    by_cases hm : m' = m
    · subst hm
      simp
    · simp [hm, Ne.symm hm]

theorem origin_lt {f : StreamField} {i : Nat}
    (h : (discoverTagged structures).origin m f = some i) : i < structures.length := by
  induction structures using List.reverseRecOn with
  | nil => cases h
  | append_singleton structures s ih =>
    rw [List.length_append, List.length_singleton]
    rw [origin_append] at h
    split_ifs at h
    · obtain rfl := Option.some.inj h
      exact Nat.lt_succ_self _
    · exact Nat.lt_succ_of_lt (ih h)

/-- A structure of another stream changes nothing. -/
theorem fromOne_append_none (h : s.codecFor m = none) :
    FromOne (structures ++ [s]) m ↔ FromOne structures m := by
  have horigin : ∀ f, (discoverTagged (structures ++ [s])).origin m f =
      (discoverTagged structures).origin m f := by
    intro f
    rw [origin_append, h]
    exact if_neg fun hf => Bool.noConfusion hf.1
  have hnot : ∀ codec, s.offer ≠ some (m, codec) := by
    intro codec hoffer
    rw [GstStructure.codecFor_eq_some.mpr hoffer] at h
    cases h
  constructor
  · rintro hone ⟨t, ht, codec, hoffer⟩
    obtain ⟨i, u, codec', hu, hoffer', hall⟩ :=
      hone ⟨t, List.mem_append_left _ ht, codec, hoffer⟩
    refine ⟨i, u, codec', ?_, hoffer', fun f => (horigin f).symm.trans (hall f)⟩
    have hlt := origin_lt ((horigin .codec).symm.trans (hall .codec))
    rwa [List.getElem?_append_left hlt] at hu
  · rintro hone ⟨t, ht, codec, hoffer⟩
    rcases List.mem_append.mp ht with ht | ht
    · obtain ⟨i, u, codec', hu, hoffer', hall⟩ := hone ⟨t, ht, codec, hoffer⟩
      refine ⟨i, u, codec', ?_, hoffer', fun f => (horigin f).trans (hall f)⟩
      rw [List.getElem?_append_left (origin_lt (hall .codec))]
      exact hu
    · obtain rfl := List.mem_singleton.mp ht
      exact absurd hoffer (hnot codec)

/-- A structure of the stream has to have all three fields. -/
theorem fromOne_append_some {codec : RtcCodec} (h : s.codecFor m = some codec) :
    FromOne (structures ++ [s]) m ↔ s.payload.isSome = true ∧ s.clockRate.isSome = true := by
  have hoffer := GstStructure.codecFor_eq_some.mp h
  have horigin : ∀ f, (discoverTagged (structures ++ [s])).origin m f =
      if s.has f = true then some structures.length
      else (discoverTagged structures).origin m f := by
    intro f
    rw [origin_append, h]
    simp
  constructor
  · intro hone
    obtain ⟨i, u, codec', -, -, hall⟩ :=
      hone ⟨s, List.mem_append_right _ List.mem_cons_self, codec, hoffer⟩
    have hi := (horigin .codec).symm.trans (hall .codec)
    obtain rfl := Option.some.inj hi
    have hhas : ∀ f, s.has f = true := by
      intro f
      by_contra hnot
      have hold := (horigin f).symm.trans (hall f)
      rw [if_neg hnot] at hold
      exact absurd (origin_lt hold) (Nat.lt_irrefl _)
    exact ⟨hhas .payloadType, hhas .clockRate⟩
  · rintro ⟨hpayload, hclock⟩ _
    refine ⟨structures.length, s, codec, List.getElem?_concat_length .., hoffer, fun f => ?_⟩
    rw [horigin]
    apply if_pos
    cases f with
    | codec => rfl
    | payloadType => exact hpayload
    | clockRate => exact hclock

theorem fromOne_iff (structures : List GstStructure) (m : Media) :
    FromOne structures m ↔ LastIsComplete structures m := by
  induction structures using List.reverseRecOn with
  | nil => exact iff_of_true (fun h => by simp at h) nofun
  | append_singleton structures s ih =>
    unfold LastIsComplete
    rw [supported_append]
    cases h : s.codecFor m with
    | none =>
      rw [fromOne_append_none h, ih]
      simp [LastIsComplete]
    | some codec =>
      rw [fromOne_append_some h]
      simp

theorem stream_probeStructure (ctx : RtspSrcContext) (s : GstStructure) (m : Media) :
    (probeStructure ctx s).stream m =
      match s.codecFor m with
      | some codec => (ctx.stream m).store codec s
      | none => ctx.stream m := by
  unfold probeStructure GstStructure.codecFor
  cases s.offer with
  | none => rfl
  | some o =>
    obtain ⟨m', codec⟩ := o
    simp only [stream_setStream]
    by_cases hm : m' = m
    · subst hm
      simp
    · simp [hm, Ne.symm hm]

/-- A stream has the last codec and the last payload type that were offered for it. -/
theorem stream_discovered (structures : List GstStructure) (m : Media) :
    ((structures.foldl probeStructure .initial).stream m).codec = lastCodec m structures ∧
      ((structures.foldl probeStructure .initial).stream m).payloadType =
        lastSupportedPayload m structures := by
  induction structures using List.reverseRecOn with
  | nil => cases m <;> exact ⟨rfl, rfl⟩
  | append_singleton structures s ih =>
    unfold lastCodec lastSupportedPayload
    rw [supported_append, List.foldl_append, List.foldl_cons, List.foldl_nil, stream_probeStructure]
    cases s.codecFor m with
    | none =>
      rw [Option.map_none, Option.toList_none, List.append_nil]
      exact ih
    | some codec =>
      refine ⟨by simp [CodecStreamConf.store], ?_⟩
      cases hp : s.payload with
      | none => simpa [CodecStreamConf.store, hp, lastSupportedPayload] using ih.2
      | some payload => simp [CodecStreamConf.store, hp]

/-- The loop depends on the streams only. -/
theorem stream_foldl_congr {ctx ctx' : RtspSrcContext} (h : ∀ m, ctx.stream m = ctx'.stream m)
    (caps : List GstStructure) (m : Media) :
    (caps.foldl probeStructure ctx).stream m = (caps.foldl probeStructure ctx').stream m := by
  induction caps generalizing ctx ctx' with
  | nil => exact h m
  | cons s caps ih =>
    rw [List.foldl_cons, List.foldl_cons]
    apply ih
    intro m
    rw [stream_probeStructure, stream_probeStructure, h m]

theorem stream_runCallbacks (cbs : List Callback) (ctx : RtspSrcContext) (m : Media) :
    (runCallbacks cbs ctx).stream m =
      ((cbs.flatMap Callback.structures).foldl probeStructure ctx).stream m := by
  induction cbs generalizing ctx with
  | nil => rfl
  | cons cb cbs ih =>
    rw [List.flatMap_cons, List.foldl_append]
    refine (ih (cb.call ctx)).trans (stream_foldl_congr (fun m => ?_) _ m)
    exact stream_call m cb ctx

/-- The streams have what the structures left in them. -/
structure Stores (structures : List GstStructure) (ctx : RtspSrcContext) : Prop where
  codec : ∀ m, (ctx.stream m).codec = lastCodec m structures
  payloadType : ∀ m, (ctx.stream m).payloadType = lastSupportedPayload m structures

/-- The discovery of the pads is the loop over all their structures. -/
theorem stream_pads (pads : List (List GstStructure)) (m : Media) :
    (discovered pads).stream m = (pads.flatten.foldl probeStructure .initial).stream m := by
  have hstructures : (Attempt.plays (pads.map Pad.ok) .noMorePads).callbacks.flatMap
      Callback.structures = pads.flatten := by
    unfold Attempt.callbacks
    rw [List.flatMap_append, List.map_map, List.flatMap_map]
    exact (List.append_nil _).trans List.flatMap_id
  unfold discovered
  rw [stream_discoverMediaSource, stream_runCallbacks, hstructures]
  exact stream_foldl_congr (stream_playing · .initial) _ m

/-- The streaming pipeline leaves the streams as the discovery stored them. -/
theorem stores_streaming (pads before : List (List GstStructure)) :
    Stores pads.flatten (streaming pads before) := by
  have hnone : (before.map fun caps => Callback.padAdded (Pad.ok caps)).flatMap
      Callback.structures = [] := by
    rw [List.flatMap_map]
    exact List.flatMap_eq_nil_iff.mpr fun _ _ => rfl
  have hstream : ∀ m, (streaming pads before).stream m =
      (pads.flatten.foldl probeStructure .initial).stream m := by
    intro m
    unfold streaming
    rw [stream_runCallbacks, hnone, List.foldl_nil, stream_playing, stream_pads]
  constructor
  · intro m
    rw [hstream]
    exact (stream_discovered pads.flatten m).1
  · intro m
    rw [hstream]
    exact (stream_discovered pads.flatten m).2

/-! ## What is connected -/

theorem kinds_append (caps : List GstStructure) (s : GstStructure) :
    kinds (caps ++ [s]) = kinds caps ++ s.kind.toList := by
  unfold kinds
  rw [List.filterMap_append]
  cases h : s.kind <;> simp [h]

theorem mem_kinds {caps : List GstStructure} : m ∈ kinds caps ↔ ∃ t ∈ caps, t.kind = some m :=
  List.mem_filterMap

/-- One round, where no creation fails. -/
def connectRound (ctx : RtspSrcContext) (l : PadLocals) (s : GstStructure) : PadLocals :=
  (connectStructure ctx l s).getD l

/-- A pad that is connected is one with a sink. -/
theorem connectPad_ok (ctx : RtspSrcContext) (caps : List GstStructure) :
    connectPad (Pad.ok caps) ctx = (connected ctx caps).isSome := by
  unfold connectPad connected
  rw [Pad.ok]
  cases connectCaps none ctx 0 ⟨false, false, 0, none⟩ caps with
  | none => rfl
  | some l => simp

theorem connectCaps_foldl (ctx : RtspSrcContext) (n : Nat) (l : PadLocals)
    (caps : List GstStructure) :
    connectCaps none ctx n l caps = some (caps.foldl (connectRound ctx) l) := by
  induction caps generalizing n l with
  | nil => rfl
  | cons s caps ih =>
    rw [List.foldl_cons]
    unfold connectCaps connectRound
    cases connectStructure ctx l s with
    | none => exact ih n l
    | some l₁ => exact ih (n + 1) l₁

/-- The locals after the loop: the element is chosen by the last payload type and by whether one of
the structures is video. -/
theorem connectCaps_locals (ctx : RtspSrcContext) (caps : List GstStructure) :
    let l := caps.foldl (connectRound ctx) ⟨false, false, 0, none⟩
    Carries caps l ∧ l.nextElement = (kinds caps).getLast?.map fun m =>
      if (ctx.stream m).payloadType = (lastPayload caps).toUInt32 then
        if .video ∈ kinds caps then ctx.sink .video else ctx.sink .audio
      else .dummy := by
  induction caps using List.reverseRecOn with
  | nil => exact ⟨carries_nil, rfl⟩
  | append_singleton caps s ih =>
    obtain ⟨hcarries, helement⟩ := ih
    rw [List.foldl_append, List.foldl_cons, List.foldl_nil]
    set l := caps.foldl (connectRound ctx) ⟨false, false, 0, none⟩
    unfold connectRound
    cases hround : connectStructure ctx l s with
    | none =>
      have hs := connectStructure_eq_none.mp hround
      refine ⟨hcarries.skip hs, ?_⟩
      rw [Option.getD_none, helement, kinds_append, lastPayload_append, hs]
      simp
    | some l₁ =>
      obtain ⟨m, hm⟩ := kind_of_connectStructure hround
      have hlocals := hcarries.round hround
      refine ⟨hlocals, ?_⟩
      rw [connectStructure_of_kind hm] at hround
      cases hround
      have hvideo : (l.video || decide (m = .video)) = true ↔ .video ∈ kinds (caps ++ [s]) :=
        hlocals.video.trans mem_kinds.symm
      have haudio : (l.audio || decide (m = .audio)) = true ↔ .audio ∈ kinds (caps ++ [s]) :=
        hlocals.audio.trans mem_kinds.symm
      have hlast : (kinds (caps ++ [s])).getLast? = some m := by
        rw [kinds_append, hm]
        exact List.getLast?_concat
      have hmem : m ∈ kinds (caps ++ [s]) := List.mem_of_getLast? hlast
      rw [hlast, Option.map_some, Option.getD_some, ← hlocals.payloadType]
      by_cases hsame : (ctx.stream m).payloadType = (s.payload.getD l.payloadType).toUInt32
      · rw [if_pos hsame]
        by_cases hv : .video ∈ kinds (caps ++ [s])
        · rw [if_pos hv]
          simp [hsame, hvideo.mpr hv, RtspSrcContext.sink]
        · -- the structure itself is the audio structure
          have hm' : m = .audio := by
            cases m with
            | video => exact absurd hmem hv
            | audio => rfl
          have hnot : (l.video || decide (m = .video)) = false :=
            Bool.eq_false_iff.mpr fun h => hv (hvideo.mp h)
          rw [if_neg hv]
          simp [hsame, hnot, haudio.mpr (hm' ▸ hmem), RtspSrcContext.sink]
      · rw [if_neg hsame]
        simp [hsame]

/-- The last payload type is looked up under the medium of the last structure, the sink chosen by
whether there is a video structure. -/
theorem connected_eq (ctx : RtspSrcContext) (caps : List GstStructure) :
    connected ctx caps = (kinds caps).getLast?.map fun m =>
      if (ctx.stream m).payloadType = (lastPayload caps).toUInt32 then
        if .video ∈ kinds caps then ctx.sink .video else ctx.sink .audio
      else .dummy := by
  unfold connected
  rw [connectCaps_foldl]
  exact (connectCaps_locals ctx caps).2

/-! ## When they agree -/

theorem sink_inj {ctx : RtspSrcContext} {m m' : Media} : ctx.sink m = ctx.sink m' ↔ m = m' := by
  cases m <;> cases m' <;> simp [RtspSrcContext.sink]

theorem sink_ne_dummy (ctx : RtspSrcContext) (m : Media) : ctx.sink m ≠ .dummy := by
  cases m <;> exact Sink.noConfusion

theorem connected_of_matches (h : Stores structures ctx) {caps : List GstStructure}
    (hmatches : PayloadMatches structures caps) : connected ctx caps =
      some (if .video ∈ kinds caps then ctx.sink .video else ctx.sink .audio) := by
  obtain ⟨m, hlast, hpayload⟩ := hmatches
  rw [connected_eq, hlast, Option.map_some, h.payloadType, if_pos hpayload]

theorem connected_of_not_matches (h : Stores structures ctx) {caps : List GstStructure}
    (hnot : ¬ PayloadMatches structures caps) (m : Media) :
    connected ctx caps ≠ some (ctx.sink m) := by
  rw [connected_eq]
  cases hlast : (kinds caps).getLast? with
  | none => exact nofun
  | some m' =>
    have hpayload : lastSupportedPayload m' structures ≠ (lastPayload caps).toUInt32 :=
      fun hsame => hnot ⟨m', hlast, hsame⟩
    rw [Option.map_some, h.payloadType, if_neg hpayload]
    intro hsink
    exact sink_ne_dummy _ m (Option.some.inj hsink).symm

/-- A structure of an encoding is one of its medium. -/
theorem Offers.mem_kinds {caps : List GstStructure} (h : Offers structures m caps) :
    m ∈ kinds caps := by
  obtain ⟨s, hs, hoffer⟩ := h
  refine RtspSrc.mem_kinds.mpr ⟨s, hs, ?_⟩
  unfold GstStructure.offer at hoffer
  unfold GstStructure.kind
  split at hoffer
  · rename_i hmedia hencoding
    split at hoffer
    · rename_i m' hname
      obtain ⟨codec, -, heq⟩ := Option.map_eq_some_iff.mp hoffer
      rw [hmedia, Option.bind_some, hname, (Prod.mk.inj heq).1]
    · cases hoffer
  · cases hoffer

theorem connectedByEncoding_iff_offers (h : Stores structures ctx) (caps : List GstStructure) :
    ConnectedByEncoding ctx caps ↔
      ∀ m, connected ctx caps = some (ctx.sink m) ↔ Offers structures m caps := by
  unfold ConnectedByEncoding Offers
  simp only [h.codec]

theorem connectedByEncoding_iff (hctx : Stores structures ctx) (caps : List GstStructure) :
    ConnectedByEncoding ctx caps ↔ Agrees structures caps := by
  rw [connectedByEncoding_iff_offers hctx]
  by_cases hmatches : PayloadMatches structures caps
  · rw [connected_of_matches hctx hmatches]
    by_cases hvideo : .video ∈ kinds caps
    · -- the pad has the video sink
      rw [if_pos hvideo]
      constructor
      · intro h
        have hoffers := (h .video).mp rfl
        refine ⟨fun _ _ => ⟨hoffers, fun haudio => ?_⟩, ?_, fun hnot => absurd hmatches hnot⟩
        · exact Media.noConfusion (sink_inj.mp (Option.some.inj ((h .audio).mpr haudio)))
        · exact fun _ hnot => absurd hvideo hnot
      · intro h m
        obtain ⟨hoffers, hnot⟩ := h.video hmatches hvideo
        rw [Option.some_inj, sink_inj]
        cases m with
        | video => exact iff_of_true rfl hoffers
        | audio => exact iff_of_false Media.noConfusion hnot
    · -- the pad has the audio sink
      rw [if_neg hvideo]
      constructor
      · intro h
        refine ⟨fun _ hmem => absurd hmem hvideo, fun _ _ => (h .audio).mp rfl, ?_⟩
        exact fun hnot => absurd hmatches hnot
      · intro h m
        rw [Option.some_inj, sink_inj]
        cases m with
        | video => exact iff_of_false Media.noConfusion fun hoffers => hvideo hoffers.mem_kinds
        | audio => exact iff_of_true rfl (h.audio hmatches hvideo)
  · -- the pad has the dummy sink, or none
    have hnone := connected_of_not_matches hctx hmatches
    constructor
    · intro h
      refine ⟨fun hm => absurd hm hmatches, fun hm => absurd hm hmatches, fun _ m hoffers => ?_⟩
      exact hnone m ((h m).mpr hoffers)
    · intro h m
      exact iff_of_false (hnone m) (h.dummy hmatches m)

/-- The callbacks agree exactly where the last supported structure of each medium is complete, and
the payload types tell the pads of the stored encodings from the others. -/
theorem stream_agreement_iff (pads : List (List GstStructure)) :
    Agreement pads ↔
      (∀ m, LastIsComplete pads.flatten m) ∧ ∀ caps ∈ pads, Agrees pads.flatten caps := by
  constructor
  · rintro ⟨hone, hconnected⟩
    refine ⟨fun m => (fromOne_iff _ m).mp (hone m), fun caps hcaps => ?_⟩
    exact (connectedByEncoding_iff (stores_streaming pads []) caps).mp (hconnected [] caps hcaps)
  · rintro ⟨hcomplete, hagrees⟩
    refine ⟨fun m => (fromOne_iff _ m).mpr (hcomplete m), fun before caps hcaps => ?_⟩
    exact (connectedByEncoding_iff (stores_streaming pads before) caps).mpr (hagrees caps hcaps)

/-! ## Disagreement -/

def h264Structure : GstStructure := ⟨some "video", some "H264", some 96, some 90000⟩
def h265Structure : GstStructure := ⟨some "video", some "H265", some 96, some 90000⟩
def vp8Structure : GstStructure := ⟨some "video", some "VP8", none, some 90000⟩

/-- A pad of an unsupported encoding gets the video sink if it has the payload type of another pad,
and a structure without a payload type is stored with that of another structure. -/
theorem streams_disagree :
    ¬ Agreement [[h264Structure], [h265Structure]] ∧
      ¬ Agreement [[h264Structure, vp8Structure]] := by
  constructor
  · intro h
    have hconnected : connected (streaming [[h264Structure], [h265Structure]] [[h264Structure]])
        [h265Structure] = some (.video .h264) := by decide +kernel
    obtain ⟨s, hs, hoffer⟩ :=
      (h.connected [[h264Structure]] [h265Structure] (by simp) .video).mp hconnected
    obtain rfl := List.mem_singleton.mp hs
    have hnone : h265Structure.offer = none := by decide +kernel
    rw [hnone] at hoffer
    cases hoffer
  · intro h
    have hoffer : h264Structure.offer = some (.video, .h264) := by decide +kernel
    obtain ⟨i, -, -, -, -, hall⟩ := h.fromOne .video ⟨h264Structure, by simp, .h264, hoffer⟩
    have hcodec : (discoverTagged [h264Structure, vp8Structure]).origin .video .codec = some 1 := by
      decide +kernel
    have hpayload : (discoverTagged [h264Structure, vp8Structure]).origin .video .payloadType =
        some 0 := by decide +kernel
    have hi := hcodec.symm.trans (hall .codec)
    rw [← hi] at hall
    cases hpayload.symm.trans (hall .payloadType)

end WebrtcApp.RtspSrc
