import WebrtcApp.App.RtspSrc

/-!
# The sinks of a pad

`onRtspSrcPadAdded` goes through the caps structures of the pad and creates a sink for each one that
is audio or video.  Its locals `video`, `audio` and `payloadType` are not reset from one round to the
next: a structure without a payload is compared with the payload of an earlier one, and an audio
structure after a video structure counts as video.

    padSinks_iff          each structure has its own sink exactly where it has a payload, or the
                          carried one is another, and no audio stream comes after a video structure
    connectPad_sink       the element that is linked is the sink of the last structure
-/

namespace WebrtcApp.RtspSrc

/-! ## The choices -/

/-- The media of a structure that is audio or video. -/
def GstStructure.kind (s : GstStructure) : Option Media := s.media.bind Media.ofName

/-- What the loop of `onRtspSrcPadAdded` chooses for each structure it comes to, `none` where it
skips one.  It ends with the creation that fails. -/
def padChoices (sinkFault : Option Nat) (ctx : RtspSrcContext) :
    Nat → PadLocals → List GstStructure → List (Option Sink)
  | _, _, [] => []
  | n, l, s :: caps =>
    match connectStructure ctx l s with
    | none => none :: padChoices sinkFault ctx n l caps
    | some l =>
      if sinkFault = some n then [l.nextElement]
      else l.nextElement :: padChoices sinkFault ctx (n + 1) l caps

def padSinks (pad : Pad) (ctx : RtspSrcContext) : List (Option Sink) :=
  padChoices pad.sinkFault ctx 0 ⟨false, false, 0, none⟩ pad.caps

/-- The sink of the stream of a medium. -/
def RtspSrcContext.sink (ctx : RtspSrcContext) : Media → Sink
  | .video => .video ctx.videoStream.codec
  | .audio => .audio ctx.audioStream.codec

/-- The sink of a structure by its own media and payload. -/
def sinkFor (ctx : RtspSrcContext) (s : GstStructure) : Option Sink :=
  s.kind.map fun m =>
    if s.payload.map Int32.toUInt32 = some (ctx.stream m).payloadType then ctx.sink m else .dummy

/-! ## What the rounds carry -/

/-- The payload of the last audio or video structure that has one. -/
def lastPayload (pre : List GstStructure) : Int32 :=
  pre.foldl (fun p s => if s.kind.isSome then s.payload.getD p else p) 0

/-- The number of sinks that are created for the structures. -/
def sinkCount (pre : List GstStructure) : Nat := pre.countP (·.kind.isSome)

/-- The locals after the structures `pre`. -/
structure Carries (pre : List GstStructure) (l : PadLocals) : Prop where
  video : l.video = true ↔ ∃ t ∈ pre, t.kind = some .video
  audio : l.audio = true ↔ ∃ t ∈ pre, t.kind = some .audio
  payloadType : l.payloadType = lastPayload pre

/-- The choice for `s` after the structures `pre` does not depend on them. -/
def OwnChoice (ctx : RtspSrcContext) (pre : List GstStructure) (s : GstStructure) : Prop :=
  ∀ m, s.kind = some m →
    match s.payload with
    | none => (lastPayload pre).toUInt32 ≠ (ctx.stream m).payloadType
    | some p =>
      m = .audio → p.toUInt32 = ctx.audioStream.payloadType → ∀ t ∈ pre, t.kind ≠ some .video

theorem carries_nil : Carries [] ⟨false, false, 0, none⟩ where
  video := by simp
  audio := by simp
  payloadType := rfl

theorem lastPayload_append (pre : List GstStructure) (s : GstStructure) :
    lastPayload (pre ++ [s]) =
      if s.kind.isSome then s.payload.getD (lastPayload pre) else lastPayload pre := by
  unfold lastPayload
  rw [List.foldl_append]
  rfl

theorem sinkCount_append (pre : List GstStructure) (s : GstStructure) :
    sinkCount (pre ++ [s]) = sinkCount pre + if s.kind.isSome then 1 else 0 := by
  unfold sinkCount
  rw [List.countP_append, List.countP_singleton]

variable {ctx : RtspSrcContext} {pre : List GstStructure} {l : PadLocals} {s : GstStructure}

theorem sinkFor_of_kind {m : Media} (hm : s.kind = some m) :
    sinkFor ctx s = some
      (if s.payload.map Int32.toUInt32 = some (ctx.stream m).payloadType then ctx.sink m
      else .dummy) := by
  unfold sinkFor
  rw [hm]
  rfl

theorem sinkFor_eq_none : sinkFor ctx s = none ↔ s.kind = none := by
  unfold sinkFor
  exact Option.map_eq_none_iff

theorem connectStructure_of_kind {m : Media} (hm : s.kind = some m) :
    connectStructure ctx l s = some
      ⟨l.video || decide (m = .video), l.audio || decide (m = .audio), s.payload.getD l.payloadType,
        some (if (l.video || decide (m = .video)) &&
            (ctx.stream m).payloadType == (s.payload.getD l.payloadType).toUInt32 then
          .video ctx.videoStream.codec
        else if (l.audio || decide (m = .audio)) &&
            (ctx.stream m).payloadType == (s.payload.getD l.payloadType).toUInt32 then
          .audio ctx.audioStream.codec
        else .dummy)⟩ := by
  unfold connectStructure
  unfold GstStructure.kind at hm
  rw [hm]

theorem connectStructure_eq_none : connectStructure ctx l s = none ↔ s.kind = none := by
  cases hm : s.kind with
  | none =>
    refine iff_of_true ?_ rfl
    unfold connectStructure
    unfold GstStructure.kind at hm
    rw [hm]
  | some m =>
    rw [connectStructure_of_kind hm]
    exact iff_of_false (Option.some_ne_none _) (Option.some_ne_none _)

theorem Carries.skip (h : Carries pre l) (hs : s.kind = none) : Carries (pre ++ [s]) l where
  video := by
    rw [h.video]
    simp [hs]
  audio := by
    rw [h.audio]
    simp [hs]
  payloadType := by
    rw [h.payloadType, lastPayload_append, hs]
    rfl

theorem kind_of_connectStructure {l' : PadLocals} (hl : connectStructure ctx l s = some l') :
    ∃ m, s.kind = some m := by
  rw [← Option.isSome_iff_exists, Option.isSome_iff_ne_none]
  intro hnone
  rw [connectStructure_eq_none.mpr hnone] at hl
  cases hl

theorem Carries.round (h : Carries pre l) {l' : PadLocals}
    (hl : connectStructure ctx l s = some l') : Carries (pre ++ [s]) l' := by
  obtain ⟨m, hm⟩ := kind_of_connectStructure hl
  rw [connectStructure_of_kind hm] at hl
  cases hl
  constructor
  · simp [h.video, hm, or_and_right, exists_or]
  · simp [h.audio, hm, or_and_right, exists_or]
  · rw [lastPayload_append, hm, h.payloadType]
    rfl

/-- A round makes the choice of the structure exactly where that does not depend on earlier ones. -/
theorem Carries.choice_iff (h : Carries pre l) {l' : PadLocals}
    (hl : connectStructure ctx l s = some l') :
    l'.nextElement = sinkFor ctx s ↔ OwnChoice ctx pre s := by
  obtain ⟨m, hm⟩ := kind_of_connectStructure hl
  rw [connectStructure_of_kind hm] at hl
  cases hl
  have hown : OwnChoice ctx pre s ↔
      match s.payload with
      | none => (lastPayload pre).toUInt32 ≠ (ctx.stream m).payloadType
      | some p =>
        m = .audio → p.toUInt32 = ctx.audioStream.payloadType → ∀ t ∈ pre, t.kind ≠ some .video := by
    unfold OwnChoice
    rw [hm]
    simp
  rw [hown, sinkFor_of_kind hm, h.payloadType]
  cases hp : s.payload with
  | none =>
    -- no payload of its own: the structure is to get the dummy sink
    by_cases hsame : (ctx.stream m).payloadType = (lastPayload pre).toUInt32
    · refine iff_of_false ?_ (fun hnot => hnot hsame.symm)
      cases m with
      | video => simp [hsame]
      | audio =>
        cases l.video <;> simp [hsame]
    · simp [hsame, Ne.symm hsame]
  | some p =>
    cases m with
    | video =>
      by_cases hsame : (ctx.stream .video).payloadType = p.toUInt32
      · simp [hsame, RtspSrcContext.sink]
      · simp [hsame, Ne.symm hsame]
    | audio =>
      have hvideo : l.video = false ↔ ∀ t ∈ pre, t.kind ≠ some .video := by
        rw [← Bool.not_eq_true, h.video]
        simp
      by_cases hsame : ctx.audioStream.payloadType = p.toUInt32
      · rw [← hvideo]
        cases hv : l.video <;> simp [RtspSrcContext.stream, RtspSrcContext.sink, hsame]
      · simp [RtspSrcContext.stream, hsame, Ne.symm hsame]

/-! ## All structures of a pad -/

/-- No creation before the structure has failed. -/
def Reached (sinkFault : Option Nat) (pre : List GstStructure) : Prop :=
  ∀ n, sinkFault = some n → sinkCount pre ≤ n

/-- Every structure the loop comes to has a choice of its own. -/
def OwnChoices (sinkFault : Option Nat) (ctx : RtspSrcContext) (pre caps : List GstStructure) :
    Prop :=
  ∀ mid s post, caps = mid ++ s :: post → Reached sinkFault (pre ++ mid) →
    OwnChoice ctx (pre ++ mid) s

theorem ownChoices_cons {sinkFault : Option Nat} {caps : List GstStructure} :
    OwnChoices sinkFault ctx pre (s :: caps) ↔
      (Reached sinkFault pre → OwnChoice ctx pre s) ∧
        OwnChoices sinkFault ctx (pre ++ [s]) caps := by
  constructor
  · intro h
    constructor
    · intro hr
      have := h [] s caps rfl
      rw [List.append_nil] at this
      exact this hr
    · intro mid t post hcaps hr
      rw [List.append_assoc] at hr ⊢
      exact h (s :: mid) t post (by rw [hcaps]; rfl) hr
  · rintro ⟨hs, hrest⟩ mid t post hcaps hr
    cases mid with
    | nil =>
      obtain ⟨rfl, rfl⟩ := List.cons.inj hcaps
      rw [List.append_nil] at hr ⊢
      exact hs hr
    | cons u mid =>
      obtain ⟨rfl, rfl⟩ := List.cons.inj hcaps
      have := hrest mid t post rfl
      rw [List.append_assoc] at this
      exact this hr

/-- Nothing is reached after a creation that fails. -/
theorem ownChoices_of_not_reached {sinkFault : Option Nat} {caps : List GstStructure}
    (h : ¬ Reached sinkFault pre) : OwnChoices sinkFault ctx pre caps := by
  intro mid t post _ hr
  refine absurd (fun n hn => ?_) h
  have := hr n hn
  unfold sinkCount at this ⊢
  rw [List.countP_append] at this
  omega

theorem padChoices_iff (sinkFault : Option Nat) {n : Nat} {caps : List GstStructure}
    (hn : n = sinkCount pre) (hr : Reached sinkFault pre) (hl : Carries pre l) :
    padChoices sinkFault ctx n l caps <+: caps.map (sinkFor ctx) ↔
      OwnChoices sinkFault ctx pre caps := by
  induction caps generalizing n l pre with
  | nil =>
    refine iff_of_true (List.nil_prefix) ?_
    intro mid s post hcaps
    simp at hcaps
  | cons s caps ih =>
    rw [ownChoices_cons, List.map_cons]
    unfold padChoices
    cases hround : connectStructure ctx l s with
    | none =>
      have hs := connectStructure_eq_none.mp hround
      have hown : OwnChoice ctx pre s := by
        intro m hm
        rw [hs] at hm
        cases hm
      have hcount : sinkCount (pre ++ [s]) = sinkCount pre := by
        rw [sinkCount_append, hs]
        rfl
      have hr' : Reached sinkFault (pre ++ [s]) := by
        intro k hk
        rw [hcount]
        exact hr k hk
      simp only
      rw [List.cons_prefix_cons, sinkFor_eq_none.mpr hs, and_iff_right rfl,
        and_iff_right fun _ => hown]
      exact ih (hn.trans hcount.symm) hr' (hl.skip hs)
    | some l' =>
      obtain ⟨m, hm⟩ := kind_of_connectStructure hround
      have hcount : sinkCount (pre ++ [s]) = n + 1 := by
        rw [sinkCount_append, hm, hn]
        rfl
      have hchoice : l'.nextElement = sinkFor ctx s ↔ (Reached sinkFault pre → OwnChoice ctx pre s) :=
        (hl.choice_iff hround).trans ⟨fun h _ => h, fun h => h hr⟩
      simp only
      split_ifs with hfault
      · have hrest : ¬ Reached sinkFault (pre ++ [s]) := by
          intro h
          have := h n hfault
          omega
        rw [List.cons_prefix_cons, hchoice, and_iff_left (List.nil_prefix),
          and_iff_left (ownChoices_of_not_reached hrest)]
      · have hr' : Reached sinkFault (pre ++ [s]) := by
          intro k hk
          have hle := hr k hk
          have hne : n ≠ k := fun e => hfault (hk.trans (congrArg some e.symm))
          omega
        rw [List.cons_prefix_cons, hchoice, ih hcount.symm hr' (hl.round hround)]

/-- Where no creation fails the loop comes to every structure. -/
theorem length_padChoices {n : Nat} {caps : List GstStructure} :
    (padChoices none ctx n l caps).length = caps.length := by
  induction caps generalizing n l with
  | nil => rfl
  | cons s caps ih =>
    unfold padChoices
    cases connectStructure ctx l s with
    | none =>
      simp only [List.length_cons]
      rw [ih]
    | some l' =>
      have hfault : (none : Option Nat) ≠ some n := nofun
      simp only
      rw [if_neg hfault, List.length_cons, List.length_cons, ih]

theorem reached_nil (sinkFault : Option Nat) : Reached sinkFault [] := fun n _ => Nat.zero_le n

theorem padSinks_prefix_iff (pad : Pad) (ctx : RtspSrcContext) :
    padSinks pad ctx <+: pad.caps.map (sinkFor ctx) ↔ OwnChoices pad.sinkFault ctx [] pad.caps :=
  padChoices_iff pad.sinkFault rfl (reached_nil pad.sinkFault) carries_nil

theorem padSinks_eq_map {pad : Pad} (hfault : pad.sinkFault = none)
    (h : OwnChoices pad.sinkFault ctx [] pad.caps) :
    padSinks pad ctx = pad.caps.map (sinkFor ctx) := by
  apply ((padSinks_prefix_iff pad ctx).mpr h).eq_of_length
  unfold padSinks
  rw [hfault, length_padChoices, List.length_map]

/-- Each structure gets the sink of its own media and payload exactly where the structures before it
do not count; then a permutation of the structures permutes the sinks. -/
theorem padSinks_iff (pad : Pad) (ctx : RtspSrcContext) :
    (padSinks pad ctx <+: pad.caps.map (sinkFor ctx) ↔ OwnChoices pad.sinkFault ctx [] pad.caps) ∧
      ∀ pad' : Pad, pad'.caps.Perm pad.caps → pad.sinkFault = none → pad'.sinkFault = none →
        OwnChoices pad.sinkFault ctx [] pad.caps → OwnChoices pad'.sinkFault ctx [] pad'.caps →
        (padSinks pad' ctx).Perm (padSinks pad ctx) := by
  refine ⟨padSinks_prefix_iff pad ctx, ?_⟩
  intro pad' hperm hfault hfault' h h'
  rw [padSinks_eq_map hfault h, padSinks_eq_map hfault' h']
  exact hperm.map _

/-- The video stream with payload type 96, the audio stream with 97. -/
def twoStreams : RtspSrcContext :=
  { RtspSrcContext.initial with videoStream := ⟨.h264, 96, 90000⟩, audioStream := ⟨.opus, 97, 48000⟩ }

/-- A video structure, and an audio structure of the stored payload type. -/
def videoThenAudio : Pad where
  caps := [⟨some "video", some "H264", some 96, some 90000⟩,
    ⟨some "audio", some "opus", some 97, some 48000⟩]
  sinkFault := none
  linked := true
  playing := true

/-- The audio structure gets a second video sink. -/
theorem audio_after_video_gets_video_sink :
    padSinks videoThenAudio twoStreams = [some (.video .h264), some (.video .h264)] ∧
      ¬ padSinks videoThenAudio twoStreams <+: videoThenAudio.caps.map (sinkFor twoStreams) := by
  decide +kernel

/-! ## The loop of the callback -/

/-- The element that the callback links is the last choice. -/
theorem connectCaps_padChoices {sinkFault : Option Nat} {n : Nat} {caps : List GstStructure}
    {l' : PadLocals} (h : connectCaps sinkFault ctx n l caps = some l') :
    l'.nextElement =
      (padChoices sinkFault ctx n l caps).foldl (fun e choice => choice.or e) l.nextElement := by
  induction caps generalizing n l with
  | nil =>
    cases h
    rfl
  | cons s caps ih =>
    unfold connectCaps at h
    unfold padChoices
    cases hround : connectStructure ctx l s with
    | none =>
      rw [hround] at h
      exact ih h
    | some l₁ =>
      obtain ⟨m, hm⟩ := kind_of_connectStructure hround
      rw [hround] at h
      simp only at h ⊢
      split_ifs at h ⊢ with hfault
      rw [List.foldl_cons, ih h]
      rw [connectStructure_of_kind hm] at hround
      cases hround
      rfl

/-- Where every structure has its own choice, the element is the sink of the last audio or video
structure. -/
theorem connectPad_sink {pad : Pad} {l' : PadLocals}
    (h : connectCaps pad.sinkFault ctx 0 ⟨false, false, 0, none⟩ pad.caps = some l')
    (hfault : pad.sinkFault = none) (hown : OwnChoices pad.sinkFault ctx [] pad.caps) :
    l'.nextElement = (pad.caps.map (sinkFor ctx)).foldl (fun e choice => choice.or e) none := by
  rw [connectCaps_padChoices h, ← padSinks_eq_map hfault hown]
  rfl

end WebrtcApp.RtspSrc
