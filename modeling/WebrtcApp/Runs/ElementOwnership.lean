import WebrtcApp.App.GstElements

/-!
# Who releases the elements

A sink that is complete belongs to the pipeline, and a sink that is not is released by the function
that created it.  `CleanUp` does not tell the two apart: it releases elements that the pipeline owns
already when linking them fails.

    Holds.make, Holds.unrefAll, Holds.binAddMany    how a reference moves
    createAppSink_created, _released, _broken       the three ends of creating a sink
    elements_balanced_iff                           which calls have to succeed
-/

namespace WebrtcApp.RtspSrc.Gst

/-! ## The specification -/

/-- Every object that was created is released once when the pipeline is disposed, nothing that the
pipeline owns was released before, and after a success something is linked to each new element but
the one that is handed out. -/
structure Balanced (h : GstHeap) (handedOut : Option Nat) (retStatus : Status) (h' : GstHeap) :
    Prop where
  once : ∀ p, h.objects.next ≤ p → p < h'.objects.next → (h'.objects.freeAll h'.bin).frees p = 1
  kept : ∀ p ∈ h'.bin, h'.objects.frees p = 0
  linked : retStatus.failed = false → ∀ p ∈ h'.bin, h.objects.next ≤ p → handedOut ≠ some p →
    h'.Linked p

/-- The balance of a function that hands out the first element of a sink. -/
def SinkBalanced (h : GstHeap) (r : Status × Option Nat × GstHeap) : Prop :=
  Balanced h r.2.1 r.1 r.2.2

/-- The balance of a callback, which hands out nothing. -/
def PadBalanced (h : GstHeap) (r : Status × GstHeap) : Prop := Balanced h none r.1 r.2

/-- All four elements are there. -/
def SinkCalls.elements (calls : SinkCalls) : Bool :=
  calls.queue && calls.depay && calls.capsFilter && calls.appSink

/-- The sink is created. -/
def SinkCalls.completes (calls : SinkCalls) : Bool := calls.caps && calls.elements && calls.link

/-- Once there are caps, the elements are there and can be linked, or `CleanUp` releases the caps. -/
def AppSinkKind.Clean (k : AppSinkKind) (calls : SinkCalls) : Prop :=
  calls.caps = true → if calls.elements then calls.link = true else k.unrefsCaps = true

namespace GstHeap

variable {h h' : GstHeap} {held held' : List Nat} {p : Nat}

/-! ## The references -/

/-- The live objects are those of the pipeline and `held`. -/
structure Holds (held : List Nat) (h : GstHeap) : Prop where
  owned : h.objects.Owned (held ++ h.bin)
  links_lt : ∀ l ∈ h.links, l.2 < h.objects.next

theorem Holds.perm (hh : Holds held h) (hp : held.Perm held') : Holds held' h :=
  ⟨hh.owned.perm (hp.append_right _), hh.links_lt⟩

theorem Holds.make (hh : Holds held h) (made : Bool) (o : GstObject) :
    Holds ((h.make made o).1.toList ++ held) (h.make made o).2 := by
  unfold GstHeap.make
  cases made with
  | false => exact hh
  | true =>
    refine ⟨hh.owned.alloc o, fun l hl => ?_⟩
    simp only [if_true, Arena.next_alloc]
    exact Nat.lt_succ_of_lt (hh.links_lt l hl)

theorem Holds.unrefAll {ps : List (Option Nat)} (hh : Holds (pointers ps ++ held) h) :
    Holds held (h.unrefAll ps) := by
  have howned : h.objects.Owned (pointers ps ++ (held ++ h.bin)) := by
    rw [← List.append_assoc]
    exact hh.owned
  refine ⟨howned.freeAll, fun l hl => ?_⟩
  unfold GstHeap.unrefAll
  rw [Arena.next_freeAll]
  exact hh.links_lt l hl

theorem Holds.binAddMany {es : List Nat} (hh : Holds (es ++ held) h) :
    Holds held (h.binAddMany es) := by
  refine ⟨hh.owned.perm ?_, hh.links_lt⟩
  rw [List.append_assoc]
  exact List.perm_append_comm_assoc es held h.bin

theorem Holds.link {src dest : Nat} (hh : Holds held h) (hdest : dest < h.objects.next) :
    Holds held (h.link src dest) :=
  ⟨hh.owned, List.forall_mem_cons.mpr ⟨hdest, hh.links_lt⟩⟩

theorem Holds.lt_next (hh : Holds held h) (hp : p ∈ held ++ h.bin) : p < h.objects.next :=
  hh.owned.lt_next hp

theorem Holds.bin_lt (hh : Holds held h) (hp : p ∈ h.bin) : p < h.objects.next :=
  hh.lt_next (List.mem_append_right _ hp)

/-- Nothing is linked to what has not been created. -/
theorem Holds.not_linked (hh : Holds held h) (hp : h.objects.next ≤ p) : ¬ h.Linked p :=
  fun ⟨_, hl⟩ => absurd (hh.links_lt _ hl) (Nat.not_lt.mpr hp)

theorem next_make (made : Bool) (o : GstObject) :
    h.objects.next ≤ (h.make made o).2.objects.next := by
  unfold GstHeap.make
  cases made with
  | false => exact Nat.le_refl _
  | true =>
    simp only [if_true, Arena.next_alloc]
    exact Nat.le_succ _

theorem bin_make (made : Bool) (o : GstObject) : (h.make made o).2.bin = h.bin := by
  unfold GstHeap.make
  cases made <;> rfl

theorem links_make (made : Bool) (o : GstObject) : (h.make made o).2.links = h.links := by
  unfold GstHeap.make
  cases made <;> rfl

theorem make_isSome {made : Bool} {o : GstObject} : (h.make made o).1 = none ↔ made = false := by
  unfold GstHeap.make
  cases made <;> simp

theorem next_unrefAll (ps : List (Option Nat)) :
    (h.unrefAll ps).objects.next = h.objects.next := Arena.next_freeAll ..

/-! ## What cannot be balanced any more -/

/-- An object from `lo` on is released although the pipeline owns it, or is owned by nobody. -/
def Broken (lo : Nat) (h : GstHeap) : Prop :=
  ∃ p, lo ≤ p ∧ p < h.objects.next ∧
    (p ∈ h.bin ∧ h.objects.frees p ≠ 0 ∨ p ∉ h.bin ∧ h.objects.frees p = 0)

theorem Broken.mono {lo lo' : Nat} (hb : Broken lo' h) (hle : lo ≤ lo') : Broken lo h := by
  obtain ⟨p, hp, hrest⟩ := hb
  exact ⟨p, hle.trans hp, hrest⟩

/-- Older references can be given back. -/
theorem Broken.unrefAll {lo : Nat} (hb : Broken lo h) {ps : List (Option Nat)}
    (hps : ∀ q ∈ pointers ps, q < lo) : Broken lo (h.unrefAll ps) := by
  obtain ⟨p, hp, hlt, hcases⟩ := hb
  have hsame : (h.unrefAll ps).objects.frees p = h.objects.frees p :=
    Arena.frees_freeAll_of_not_mem _ fun hmem => absurd (hps p hmem) (Nat.not_lt.mpr hp)
  refine ⟨p, hp, by rw [next_unrefAll]; exact hlt, ?_⟩
  rw [hsame]
  exact hcases

/-- A reference is given back that the pipeline has. -/
theorem Holds.broken_unref {lo : Nat} (hh : Holds held h) (hp : p ∈ h.bin) (hlo : lo ≤ p)
    (ps : List (Option Nat)) : Broken lo (h.unrefAll (some p :: ps)) := by
  have hlive : h.objects.live p = true := hh.owned.live (List.mem_append_right _ hp)
  refine ⟨p, hlo, by rw [next_unrefAll]; exact hh.bin_lt hp, Or.inl ⟨hp, ?_⟩⟩
  have hle : (h.objects.free p).frees p ≤ (h.unrefAll (some p :: ps)).objects.frees p :=
    Arena.frees_le_freeAll _ _ _
  rw [Arena.frees_free_self hlive] at hle
  omega

/-- A reference is lost. -/
theorem Holds.broken_leak {lo : Nat} (hh : Holds (p :: held) h) (hlo : lo ≤ p) : Broken lo h := by
  have hmem : p ∈ p :: held ++ h.bin := List.mem_cons_self
  have hnot : p ∉ held ++ h.bin := (List.nodup_cons.mp hh.owned.nodup).1
  exact ⟨p, hlo, hh.lt_next hmem, Or.inr ⟨fun hp => hnot (List.mem_append_right _ hp),
    hh.owned.frees_eq_zero hmem⟩⟩

theorem Broken.not_balanced {handedOut : Option Nat} {retStatus : Status}
    (hb : Broken h.objects.next h') : ¬ Balanced h handedOut retStatus h' := by
  obtain ⟨p, hp, hlt, ⟨hbin, hfrees⟩ | ⟨hbin, hfrees⟩⟩ := hb
  · exact fun hbal => hfrees (hbal.kept p hbin)
  · intro hbal
    have honce := hbal.once p hp hlt
    rw [Arena.frees_freeAll_of_not_mem _ hbin, hfrees] at honce
    cases honce

/-- A call after which the references are in order is balanced, if all is linked. -/
theorem Holds.balanced {handedOut : Option Nat} {retStatus : Status} (hh : Holds held h)
    (hh' : Holds held h') (hlinked : retStatus.failed = false → ∀ p ∈ h'.bin, h.objects.next ≤ p →
      handedOut ≠ some p → h'.Linked p) : Balanced h handedOut retStatus h' where
  once p hp hlt := by
    have hdisposed : (h'.objects.freeAll h'.bin).Owned held :=
      (hh'.owned.perm List.perm_append_comm).freeAll
    refine hdisposed.frees_of_not_mem (by rw [Arena.next_freeAll]; exact hlt) fun hheld => ?_
    exact absurd (hh.lt_next (List.mem_append_left _ hheld)) (Nat.not_lt.mpr hp)
  kept p hp := hh'.owned.frees_eq_zero (List.mem_append_right _ hp)
  linked := hlinked

end GstHeap

open GstHeap

variable {h h' : GstHeap} {held : List Nat} {k : AppSinkKind} {calls : SinkCalls}

/-! ## One sink -/

/-- A sink that is complete belongs to the pipeline, and something is linked to all of its elements
but the first. -/
structure Created (held : List Nat) (h : GstHeap) (e : Nat) (h' : GstHeap) : Prop where
  holds : Holds held h'
  next_le : h.objects.next ≤ h'.objects.next
  fresh : h.objects.next ≤ e
  mem : e ∈ h'.bin
  bin : ∀ p ∈ h.bin, p ∈ h'.bin
  older : ∀ p ∈ h'.bin, p < h.objects.next → p ∈ h.bin
  linked : ∀ p ∈ h'.bin, h.objects.next ≤ p → p ≠ e → h'.Linked p
  not_linked : ¬ h'.Linked e
  old : ∀ p < h.objects.next, h'.Linked p → h.Linked p

/-- The failures have failing status codes. -/
structure AppSinkKind.Fails (k : AppSinkKind) : Prop where
  caps : k.statusCaps.failed = true
  queue : k.statusQueue.failed = true
  element : k.statusElement.failed = true
  link : k.statusLink.failed = true

theorem videoSink_fails (sdk : GstSdk) (ctx : RtspSrcContext) : (videoSink sdk ctx).Fails :=
  ⟨rfl, rfl, rfl, rfl⟩

theorem audioSink_fails (ctx : RtspSrcContext) : (audioSink ctx).Fails := ⟨rfl, rfl, rfl, rfl⟩

theorem completes_iff : calls.completes = true ↔
    calls.caps = true ∧ calls.elements = true ∧ calls.link = true := by
  unfold SinkCalls.completes
  rw [Bool.and_eq_true, Bool.and_eq_true, and_assoc]

theorem elements_iff : calls.elements = true ↔ calls.queue = true ∧ calls.depay = true ∧
    calls.capsFilter = true ∧ calls.appSink = true := by
  unfold SinkCalls.elements
  rw [Bool.and_eq_true, Bool.and_eq_true, Bool.and_eq_true, and_assoc, and_assoc]

/-- The heap in which the four elements belong to the pipeline. -/
def added (k : AppSinkKind) (h : GstHeap) : GstHeap :=
  let n := h.objects.next
  let h := (h.make true .queue).2
  let h := (h.make true (.rtpDepay k.codec)).2
  let h := (h.make true .caps).2
  let h := (h.make true .capsFilter).2
  let h := (h.make true (.appSink k.media)).2
  (h.unrefAll [some (n + 2)]).binAddMany [n, n + 1, n + 3, n + 4]

theorem next_added : (added k h).objects.next = h.objects.next + 5 := by
  unfold added GstHeap.make GstHeap.unrefAll GstHeap.binAddMany
  simp

theorem mem_bin_added {p : Nat} : p ∈ (added k h).bin ↔
    p ∈ [h.objects.next, h.objects.next + 1, h.objects.next + 3, h.objects.next + 4] ∨ p ∈ h.bin := by
  unfold added GstHeap.binAddMany
  exact List.mem_append

theorem links_added : (added k h).links = h.links := rfl

theorem holds_added (hh : Holds held h) (k : AppSinkKind) : Holds held (added k h) := by
  have hqueue := hh.make true .queue
  have hdepay := hqueue.make true (.rtpDepay k.codec)
  have hcaps := hdepay.make true .caps
  have hfilter := hcaps.make true .capsFilter
  have hsink := hfilter.make true (.appSink k.media)
  -- the caps are given back, the elements go to the pipeline
  refine Holds.binAddMany (Holds.unrefAll (hsink.perm (List.perm_iff_count.mpr fun a => ?_)))
  simp only [GstHeap.make, if_true, Arena.next_alloc, pointers, Option.toList_some,
    List.flatMap_cons, List.flatMap_nil, List.append_nil, List.cons_append, List.nil_append,
    List.count_cons, Nat.add_assoc, Nat.reduceAdd]
  omega

theorem createAppSink_added (k : AppSinkKind) (hcaps : calls.caps = true)
    (hel : calls.elements = true) : createAppSink k calls h =
      let n := h.objects.next
      if calls.link then (.success, some n, (added k h).linkMany [n, n + 1, n + 3, n + 4])
      else (k.statusLink, none,
        (added k h).unrefAll [some n, some (n + 1), some (n + 3), some (n + 4)]) := by
  obtain ⟨fakeSink, queue, depay, caps, capsFilter, appSink, link⟩ := calls
  obtain ⟨rfl, rfl, rfl, rfl⟩ := elements_iff.mp hel
  obtain rfl := hcaps
  unfold createAppSink added
  simp [GstHeap.make, pointers, GstHeap.unrefAll]

/-- Something is linked to each of the new elements but the first. -/
theorem linked_added {p : Nat} :
    ((added k h).linkMany [h.objects.next, h.objects.next + 1, h.objects.next + 3,
      h.objects.next + 4]).Linked p ↔
      p ∈ [h.objects.next + 1, h.objects.next + 3, h.objects.next + 4] ∨ h.Linked p := by
  simp only [GstHeap.Linked, GstHeap.linkMany, GstHeap.link, List.mem_cons, links_added,
    Prod.mk.injEq, List.not_mem_nil, or_false]
  constructor
  · rintro ⟨src, ⟨-, hp⟩ | ⟨-, hp⟩ | ⟨-, hp⟩ | hl⟩
    · exact Or.inl (Or.inr (Or.inr hp))
    · exact Or.inl (Or.inr (Or.inl hp))
    · exact Or.inl (Or.inl hp)
    · exact Or.inr ⟨src, hl⟩
  · rintro ((hp | hp | hp) | ⟨src, hl⟩)
    · exact ⟨_, Or.inr (Or.inr (Or.inl ⟨rfl, hp⟩))⟩
    · exact ⟨_, Or.inr (Or.inl ⟨rfl, hp⟩)⟩
    · exact ⟨_, Or.inl ⟨rfl, hp⟩⟩
    · exact ⟨src, Or.inr (Or.inr (Or.inr hl))⟩

theorem linked_added_of_le {p : Nat} (hp : p ≤ h.objects.next)
    (hl : ((added k h).linkMany [h.objects.next, h.objects.next + 1, h.objects.next + 3,
      h.objects.next + 4]).Linked p) : h.Linked p := by
  rcases linked_added.mp hl with hmem | hl
  · simp only [List.mem_cons, List.not_mem_nil, or_false] at hmem
    omega
  · exact hl

theorem createAppSink_created (hh : Holds held h) (k : AppSinkKind)
    (hc : calls.completes = true) :
    ∃ e h', createAppSink k calls h = (.success, some e, h') ∧ Created held h e h' := by
  obtain ⟨hcaps, hel, hlink⟩ := completes_iff.mp hc
  refine ⟨_, _, (createAppSink_added k hcaps hel).trans (if_pos hlink), ?_⟩
  have hadded := holds_added hh k
  have hnext : (added k h).objects.next = h.objects.next + 5 := next_added
  refine ⟨?_, ?_, Nat.le_refl _, ?_, ?_, ?_, ?_, ?_, ?_⟩
  · refine ((hadded.link ?_).link ?_).link ?_ <;>
    · show _ < (added k h).objects.next
      rw [hnext]
      omega
  · show _ ≤ (added k h).objects.next
    rw [hnext]
    omega
  · exact mem_bin_added.mpr (Or.inl List.mem_cons_self)
  · exact fun p hp => mem_bin_added.mpr (Or.inr hp)
  · intro p hp hlt
    rcases mem_bin_added.mp hp with hp | hp
    · simp only [List.mem_cons, List.not_mem_nil, or_false] at hp
      omega
    · exact hp
  · intro p hp hle hne
    rcases mem_bin_added.mp hp with hp | hp
    · exact linked_added.mpr (Or.inl ((List.mem_cons.mp hp).resolve_left hne))
    · exact absurd (hh.bin_lt hp) (Nat.not_lt.mpr hle)
  · intro hl
    exact hh.not_linked (Nat.le_refl _) (linked_added_of_le (Nat.le_refl _) hl)
  · intro p hp hl
    exact linked_added_of_le (Nat.le_of_lt hp) hl

/-- What a failure leaves behind. -/
structure Released (held : List Nat) (h : GstHeap) (h' : GstHeap) : Prop where
  holds : Holds held h'
  next_le : h.objects.next ≤ h'.objects.next
  bin : h'.bin = h.bin
  links : h'.links = h.links

/-- The objects of a sink, each of them created or `NULL`. -/
structure SinkParts where
  queue : Option Nat
  depay : Option Nat
  caps : Option Nat
  filter : Option Nat
  appSink : Option Nat
  heap : GstHeap

def sinkParts (k : AppSinkKind) (calls : SinkCalls) (h : GstHeap) : SinkParts :=
  let (queue, h) := h.make calls.queue .queue
  let (depay, h) := h.make calls.depay (.rtpDepay k.codec)
  let (caps, h) := h.make calls.caps .caps
  let (filter, h) := h.make calls.capsFilter .capsFilter
  let (appSink, h) := h.make calls.appSink (.appSink k.media)
  ⟨queue, depay, caps, filter, appSink, h⟩

theorem released_sinkParts (hh : Holds held h) (k : AppSinkKind) (calls : SinkCalls) :
    let parts := sinkParts k calls h
    Released (parts.appSink.toList ++ (parts.filter.toList ++ (parts.caps.toList ++
      (parts.depay.toList ++ (parts.queue.toList ++ held))))) h parts.heap := by
  have hqueue := hh.make calls.queue .queue
  have hdepay := hqueue.make calls.depay (.rtpDepay k.codec)
  have hcaps := hdepay.make calls.caps .caps
  have hfilter := hcaps.make calls.capsFilter .capsFilter
  refine ⟨hfilter.make calls.appSink (.appSink k.media), ?_, ?_, ?_⟩
  · exact (((next_make _ _).trans (next_make _ _)).trans (next_make _ _)).trans
      ((next_make _ _).trans (next_make _ _))
  · unfold sinkParts
    simp only [bin_make]
  · unfold sinkParts
    simp only [links_make]

/-- The caps are there. -/
theorem sinkParts_caps (hcaps : calls.caps = true) :
    ∃ c, (sinkParts k calls h).caps = some c ∧ h.objects.next ≤ c := by
  unfold sinkParts
  simp only [hcaps]
  exact ⟨_, rfl, (next_make _ _).trans (next_make _ _)⟩

theorem Released.unrefAll {ps : List (Option Nat)} (hr : Released (pointers ps ++ held) h h') :
    Released held h (h'.unrefAll ps) :=
  ⟨hr.holds.unrefAll, (next_unrefAll ps).symm ▸ hr.next_le, hr.bin, hr.links⟩

theorem Released.perm {held' : List Nat} (hr : Released held h h') (hp : held.Perm held') :
    Released held' h h' :=
  ⟨hr.holds.perm hp, hr.next_le, hr.bin, hr.links⟩

/-- `CleanUp` gives back what was created, with the caps or without them. -/
theorem released_cleanUp {queue depay caps filter appSink : Option Nat}
    (hall : Released (appSink.toList ++ (filter.toList ++ (caps.toList ++ (depay.toList ++
      (queue.toList ++ held))))) h h') (unrefsCaps : Bool) :
    Released ((if unrefsCaps then none else caps).toList ++ held) h
      (h'.unrefAll [queue, depay, if unrefsCaps then caps else none, filter, appSink]) := by
  refine Released.unrefAll (hall.perm (List.perm_iff_count.mpr fun a => ?_))
  cases unrefsCaps <;>
  · simp only [pointers, List.flatMap_cons, List.flatMap_nil, List.append_nil, List.count_append,
      if_true, Bool.false_eq_true, if_false, Option.toList_none, List.count_nil]
    omega

/-- Without caps the first two elements are given back. -/
theorem createAppSink_noCaps (hh : Holds held h) (hcaps : calls.caps = false) :
    ∃ h', createAppSink k calls h = (k.statusCaps, none, h') ∧ Released held h h' := by
  have hqueue := hh.make calls.queue .queue
  have hdepay := hqueue.make calls.depay (.rtpDepay k.codec)
  refine ⟨(((h.make calls.queue .queue).2.make calls.depay (.rtpDepay k.codec)).2).unrefAll
    [(h.make calls.queue .queue).1,
      ((h.make calls.queue .queue).2.make calls.depay (.rtpDepay k.codec)).1], ?_, ?_⟩
  · unfold createAppSink
    simp only [hcaps]
    rfl
  · refine Released.unrefAll ⟨hdepay.perm ?_, (next_make _ _).trans (next_make _ _), ?_, ?_⟩
    · simp only [pointers, List.flatMap_cons, List.flatMap_nil, List.append_nil, List.append_assoc]
      exact List.perm_append_comm_assoc _ _ _
    · rw [bin_make, bin_make]
    · rw [links_make, links_make]

theorem createAppSink_noElement (hcaps : calls.caps = true) (hel : calls.elements = false)
    (hk : k.Fails) : ∃ retStatus, retStatus.failed = true ∧
      let parts := sinkParts k calls h
      createAppSink k calls h = (retStatus, none, parts.heap.unrefAll [parts.queue, parts.depay,
        if k.unrefsCaps then parts.caps else none, parts.filter, parts.appSink]) := by
  by_cases hqueue : calls.queue = false
  · refine ⟨k.statusQueue, hk.queue, ?_⟩
    unfold createAppSink sinkParts
    simp only [make_isSome, hcaps, hqueue, Bool.true_eq_false, if_false, if_true]
  · have helement : calls.depay = false ∨ calls.capsFilter = false ∨ calls.appSink = false := by
      by_contra hnot
      simp only [not_or, Bool.not_eq_false] at hnot hqueue
      rw [elements_iff.mpr ⟨hqueue, hnot⟩] at hel
      cases hel
    refine ⟨k.statusElement, hk.element, ?_⟩
    unfold createAppSink sinkParts
    simp only [make_isSome, hcaps, hqueue, helement, Bool.true_eq_false, if_false, if_true]

/-- A sink that cannot be completed: everything is given back, but perhaps not the caps. -/
theorem createAppSink_incomplete (hh : Holds held h) (hk : k.Fails)
    (hno : calls.caps = false ∨ calls.elements = false) :
    ∃ retStatus h', retStatus.failed = true ∧ createAppSink k calls h = (retStatus, none, h') ∧
      (k.Clean calls → Released held h h') ∧ (¬ k.Clean calls → Broken h.objects.next h') := by
  by_cases hcaps : calls.caps = true
  · have hel : calls.elements = false := hno.resolve_left (by rw [hcaps]; decide)
    have hcleanUp := released_cleanUp (released_sinkParts hh k calls) k.unrefsCaps
    obtain ⟨retStatus, hfailed, heq⟩ := createAppSink_noElement (h := h) hcaps hel hk
    refine ⟨retStatus, _, hfailed, heq, fun hclean => ?_, fun hclean => ?_⟩
    · have hunrefs := hclean hcaps
      rw [hel] at hunrefs
      rw [show k.unrefsCaps = true from hunrefs] at hcleanUp ⊢
      exact hcleanUp
    · have hkept : k.unrefsCaps = false := by
        rw [← Bool.not_eq_true]
        intro hunrefs
        refine hclean fun _ => ?_
        rw [hel]
        exact hunrefs
      obtain ⟨c, hc, hle⟩ := sinkParts_caps (k := k) (h := h) hcaps
      simp only [hkept, Bool.false_eq_true, if_false] at hcleanUp ⊢
      rw [hc] at hcleanUp
      exact hcleanUp.holds.broken_leak hle
  · have hclean : k.Clean calls := fun hc => absurd hc hcaps
    rw [Bool.not_eq_true] at hcaps
    obtain ⟨h', heq, hreleased⟩ := createAppSink_noCaps hh hcaps
    exact ⟨k.statusCaps, h', hk.caps, heq, fun _ => hreleased, fun hnot => absurd hclean hnot⟩

theorem createAppSink_released (hh : Holds held h) (hk : k.Fails)
    (hno : calls.completes = false) (hclean : k.Clean calls) :
    ∃ retStatus h', retStatus.failed = true ∧ createAppSink k calls h = (retStatus, none, h') ∧
      Released held h h' := by
  by_cases hall : calls.caps = true ∧ calls.elements = true
  · obtain ⟨hcaps, hel⟩ := hall
    have hlink := hclean hcaps
    rw [if_pos hel] at hlink
    rw [completes_iff.mpr ⟨hcaps, hel, hlink⟩] at hno
    cases hno
  · rw [Classical.not_and_iff_not_or_not, Bool.not_eq_true, Bool.not_eq_true] at hall
    obtain ⟨retStatus, h', hfailed, heq, hreleased, -⟩ := createAppSink_incomplete hh hk hall
    exact ⟨retStatus, h', hfailed, heq, hreleased hclean⟩

theorem createAppSink_broken (hh : Holds held h) (hk : k.Fails) (hclean : ¬ k.Clean calls) :
    ∃ retStatus h', retStatus.failed = true ∧ createAppSink k calls h = (retStatus, none, h') ∧
      Broken h.objects.next h' := by
  by_cases hall : calls.caps = true ∧ calls.elements = true
  · obtain ⟨hcaps, hel⟩ := hall
    have hlink : ¬ calls.link = true := by
      intro hlink
      apply hclean
      intro _
      rw [if_pos hel]
      exact hlink
    refine ⟨_, _, hk.link, (createAppSink_added k hcaps hel).trans (if_neg hlink), ?_⟩
    exact (holds_added hh k).broken_unref (mem_bin_added.mpr (Or.inl List.mem_cons_self))
      (Nat.le_refl _) _
  · rw [Classical.not_and_iff_not_or_not, Bool.not_eq_true, Bool.not_eq_true] at hall
    obtain ⟨retStatus, h', hfailed, heq, -, hbroken⟩ := createAppSink_incomplete hh hk hall
    exact ⟨retStatus, h', hfailed, heq, hbroken hclean⟩

/-! ## The sink of a structure -/

variable {sdk : GstSdk} {ctx : RtspSrcContext} {sink : Sink}

/-- The creation of the sink succeeds. -/
def Completes (sink : Sink) (calls : SinkCalls) : Bool :=
  match sink with
  | .dummy => calls.fakeSink
  | _ => calls.completes

/-- The creation of the sink succeeds, or its failure releases what was created. -/
def CleanSink (sdk : GstSdk) (ctx : RtspSrcContext) (sink : Sink) (calls : SinkCalls) : Prop :=
  match sink with
  | .video _ => (videoSink sdk ctx).Clean calls
  | .audio _ => (audioSink ctx).Clean calls
  | .dummy => True

theorem AppSinkKind.clean_of_completes (hc : calls.completes = true) : k.Clean calls := by
  obtain ⟨-, hel, hlink⟩ := completes_iff.mp hc
  intro _
  rw [if_pos hel]
  exact hlink

theorem cleanSink_of_completes (hc : Completes sink calls = true) :
    CleanSink sdk ctx sink calls := by
  cases sink with
  | video codec => exact AppSinkKind.clean_of_completes hc
  | audio codec => exact AppSinkKind.clean_of_completes hc
  | dummy => trivial

theorem createDummyAppSink_eq (hc : calls.fakeSink = true) : createDummyAppSink calls h =
    (.success, some h.objects.next, (h.make true .fakeSink).2.binAddMany [h.objects.next]) := by
  unfold createDummyAppSink
  rw [hc]
  rfl

theorem createDummyAppSink_created (hh : Holds held h) (hc : calls.fakeSink = true) :
    ∃ e h', createDummyAppSink calls h = (.success, some e, h') ∧ Created held h e h' := by
  have hmade := hh.make true .fakeSink
  refine ⟨_, _, createDummyAppSink_eq hc, ?_⟩
  have hbin : ∀ {p}, p ∈ ((h.make true .fakeSink).2.binAddMany [h.objects.next]).bin ↔
      p = h.objects.next ∨ p ∈ h.bin := List.mem_cons
  refine ⟨Holds.binAddMany hmade, next_make _ _, Nat.le_refl _, hbin.mpr (Or.inl rfl),
    fun p hp => hbin.mpr (Or.inr hp), fun p hp hlt => ?_, fun p hp hle hne => ?_,
    hh.not_linked (Nat.le_refl _), fun p _ hl => hl⟩
  · rcases hbin.mp hp with rfl | hp
    · exact absurd hlt (Nat.lt_irrefl _)
    · exact hp
  · rcases hbin.mp hp with rfl | hp
    · exact absurd rfl hne
    · exact absurd (hh.bin_lt hp) (Nat.not_lt.mpr hle)

theorem createDummyAppSink_fails (hc : calls.fakeSink = false) :
    createDummyAppSink calls h = (statusMediaDummySink, none, h) := by
  unfold createDummyAppSink
  rw [hc]
  rfl

theorem createSink_created (sdk : GstSdk) (ctx : RtspSrcContext) (hh : Holds held h)
    (hc : Completes sink calls = true) :
    ∃ e h', createSink sdk ctx sink calls h = (.success, some e, h') ∧ Created held h e h' := by
  cases sink with
  | video codec => exact createAppSink_created hh _ hc
  | audio codec => exact createAppSink_created hh _ hc
  | dummy => exact createDummyAppSink_created hh hc

theorem createSink_released (hh : Holds held h) (hno : Completes sink calls = false)
    (hclean : CleanSink sdk ctx sink calls) :
    ∃ retStatus h', retStatus.failed = true ∧
      createSink sdk ctx sink calls h = (retStatus, none, h') ∧ Released held h h' := by
  cases sink with
  | video codec => exact createAppSink_released hh (videoSink_fails sdk ctx) hno hclean
  | audio codec => exact createAppSink_released hh (audioSink_fails ctx) hno hclean
  | dummy =>
    exact ⟨_, h, rfl, createDummyAppSink_fails hno, hh, Nat.le_refl _, rfl, rfl⟩

theorem createSink_broken (hh : Holds held h) (hclean : ¬ CleanSink sdk ctx sink calls) :
    ∃ retStatus h', retStatus.failed = true ∧
      createSink sdk ctx sink calls h = (retStatus, none, h') ∧ Broken h.objects.next h' := by
  cases sink with
  | video codec => exact createAppSink_broken hh (videoSink_fails sdk ctx) hclean
  | audio codec => exact createAppSink_broken hh (audioSink_fails ctx) hclean
  | dummy => exact absurd trivial hclean

/-- A function that creates a sink is balanced unless its failure is not a clean one. -/
theorem createSink_balanced_iff (hh : Holds held h) (sdk : GstSdk) (ctx : RtspSrcContext)
    (sink : Sink) (calls : SinkCalls) :
    SinkBalanced h (createSink sdk ctx sink calls h) ↔ CleanSink sdk ctx sink calls := by
  unfold SinkBalanced
  by_cases hclean : CleanSink sdk ctx sink calls
  · refine iff_of_true ?_ hclean
    cases hc : Completes sink calls with
    | true =>
      obtain ⟨e, h', heq, hcreated⟩ := createSink_created sdk ctx hh hc
      rw [heq]
      refine hh.balanced hcreated.holds fun _ p hp hle hne => hcreated.linked p hp hle ?_
      rintro rfl
      exact hne rfl
    | false =>
      obtain ⟨retStatus, h', hfailed, heq, hreleased⟩ := createSink_released hh hc hclean
      rw [heq]
      refine hh.balanced hreleased.holds fun hok => ?_
      rw [hfailed] at hok
      cases hok
  · obtain ⟨retStatus, h', -, heq, hbroken⟩ := createSink_broken hh hclean
    refine iff_of_false ?_ hclean
    rw [heq]
    exact hbroken.not_balanced

/-! ## The sinks of a pad -/

/-- The sinks that the loop creates while no creation fails, each with its calls. -/
def padCreations (ctx : RtspSrcContext) (sinks : Nat → SinkCalls) :
    Nat → PadLocals → List GstStructure → List (Sink × SinkCalls)
  | _, _, [] => []
  | n, l, s :: caps =>
    match connectStructure ctx l s with
    | none => padCreations ctx sinks n l caps
    | some l =>
      match l.nextElement with
      | none => padCreations ctx sinks n l caps
      | some sink => (sink, sinks n) :: padCreations ctx sinks (n + 1) l caps

def createSinks (sdk : GstSdk) (ctx : RtspSrcContext) :
    List (Sink × SinkCalls) → Option Nat → GstHeap → Status × Option Nat × GstHeap
  | [], nextElement, h => (.success, nextElement, h)
  | c :: cs, _, h =>
    let (retStatus, nextElement, h) := createSink sdk ctx c.1 c.2 h
    if retStatus.failed then (retStatus, nextElement, h) else createSinks sdk ctx cs nextElement h

theorem connectCaps_eq (sinks : Nat → SinkCalls) (n : Nat) (l : PadLocals) (e : Option Nat)
    (caps : List GstStructure) (h : GstHeap) : connectCaps sdk ctx sinks n l e caps h =
      createSinks sdk ctx (padCreations ctx sinks n l caps) e h := by
  induction caps generalizing n l e h with
  | nil => rfl
  | cons s caps ih =>
    unfold connectCaps padCreations
    cases connectStructure ctx l s with
    | none => exact ih n l e h
    | some l =>
      simp only
      cases l.nextElement with
      | none => exact ih n l e h
      | some sink =>
        simp only [createSinks]
        rw [ih]

variable {cs : List (Sink × SinkCalls)} {e : Option Nat}

/-- What stays while sinks are created, and the element that is handed out. -/
structure AllCreated (held : List Nat) (h : GstHeap) (cs : List (Sink × SinkCalls))
    (e : Option Nat) (h' : GstHeap) : Prop where
  holds : Holds held h'
  next_le : h.objects.next ≤ h'.objects.next
  bin : ∀ p ∈ h.bin, p ∈ h'.bin
  old : ∀ p < h.objects.next, h'.Linked p → h.Linked p
  element : cs ≠ [] → ∃ p, e = some p ∧ h.objects.next ≤ p ∧ p ∈ h'.bin

theorem createSinks_completes (sdk : GstSdk) (ctx : RtspSrcContext) (e : Option Nat)
    (hh : Holds held h) (hall : ∀ c ∈ cs, Completes c.1 c.2 = true) :
    ∃ e' h', createSinks sdk ctx cs e h = (.success, e', h') ∧ AllCreated held h cs e' h' := by
  induction cs generalizing e h with
  | nil =>
    exact ⟨e, h, rfl, hh, Nat.le_refl _, fun _ hp => hp, fun _ _ hl => hl, fun hne => absurd rfl hne⟩
  | cons c cs ih =>
    obtain ⟨hc, hcs⟩ := List.forall_mem_cons.mp hall
    obtain ⟨p, h₁, heq, hcreated⟩ := createSink_created sdk ctx hh hc
    obtain ⟨e', h', heq', hrest⟩ := ih (some p) hcreated.holds hcs
    refine ⟨e', h', ?_, hrest.holds, hcreated.next_le.trans hrest.next_le, ?_, ?_, fun _ => ?_⟩
    · unfold createSinks
      rw [heq]
      exact heq'
    · exact fun q hq => hrest.bin q (hcreated.bin q hq)
    · exact fun q hq hl =>
        hcreated.old q hq (hrest.old q (Nat.lt_of_lt_of_le hq hcreated.next_le) hl)
    · cases cs with
      | nil =>
        cases heq'
        exact ⟨p, rfl, hcreated.fresh, hcreated.mem⟩
      | cons c' cs =>
        obtain ⟨q, hq, hle, hmem⟩ := hrest.element (List.cons_ne_nil _ _)
        exact ⟨q, hq, hcreated.next_le.trans hle, hmem⟩

/-- The first creation that does not succeed ends the loop. -/
theorem createSinks_fails (sdk : GstSdk) (ctx : RtspSrcContext) (e : Option Nat)
    {pre : List (Sink × SinkCalls)} {c : Sink × SinkCalls} (post : List (Sink × SinkCalls))
    (hh : Holds held h) (hpre : ∀ d ∈ pre, Completes d.1 d.2 = true)
    (hc : Completes c.1 c.2 = false) : ∃ retStatus h', retStatus.failed = true ∧
      createSinks sdk ctx (pre ++ c :: post) e h = (retStatus, none, h') ∧
      (CleanSink sdk ctx c.1 c.2 → Holds held h') ∧
      (¬ CleanSink sdk ctx c.1 c.2 → Broken h.objects.next h') := by
  induction pre generalizing e h with
  | nil =>
    by_cases hclean : CleanSink sdk ctx c.1 c.2
    · obtain ⟨retStatus, h', hfailed, heq, hreleased⟩ := createSink_released hh hc hclean
      refine ⟨retStatus, h', hfailed, ?_, fun _ => hreleased.holds, fun hnot => absurd hclean hnot⟩
      rw [List.nil_append]
      unfold createSinks
      rw [heq]
      exact if_pos hfailed
    · obtain ⟨retStatus, h', hfailed, heq, hbroken⟩ := createSink_broken hh hclean
      refine ⟨retStatus, h', hfailed, ?_, fun h => absurd h hclean, fun _ => hbroken⟩
      rw [List.nil_append]
      unfold createSinks
      rw [heq]
      exact if_pos hfailed
  | cons d pre ih =>
    obtain ⟨hd, hpre⟩ := List.forall_mem_cons.mp hpre
    obtain ⟨p, h₁, heq, hcreated⟩ := createSink_created sdk ctx hh hd
    obtain ⟨retStatus, h', hfailed, heq', hclean, hbroken⟩ := ih (some p) hcreated.holds hpre
    refine ⟨retStatus, h', hfailed, ?_, hclean, fun hnot => (hbroken hnot).mono hcreated.next_le⟩
    rw [List.cons_append]
    unfold createSinks
    rw [heq]
    exact heq'

/-- All creations succeed, or there is a first one that does not. -/
theorem completes_or_fails (cs : List (Sink × SinkCalls)) :
    (∀ c ∈ cs, Completes c.1 c.2 = true) ∨ ∃ pre c post, cs = pre ++ c :: post ∧
      (∀ d ∈ pre, Completes d.1 d.2 = true) ∧ Completes c.1 c.2 = false := by
  cases hfind : cs.find? fun c => !Completes c.1 c.2 with
  | none =>
    refine Or.inl fun c hc => ?_
    simpa using List.find?_eq_none.mp hfind c hc
  | some c =>
    obtain ⟨hc, pre, post, hcs, hpre⟩ := List.find?_eq_some_iff_append.mp hfind
    refine Or.inr ⟨pre, c, post, hcs, fun d hd => ?_, ?_⟩
    · simpa using hpre d hd
    · simpa using hc

/-! ## The end of a callback -/

variable {currentCaps templateCaps : Option Nat} {retStatus : Status} {h₁ : GstHeap} {element p : Nat}

/-- The references of the pad are older than its sinks. -/
def PadRefs (held : List Nat) (currentCaps templateCaps : Option Nat) (h h₁ : GstHeap) : Prop :=
  Released (pointers [currentCaps, templateCaps] ++ held) h h₁

theorem padRefs_make (hh : Holds held h) (made made' : Bool) :
    let template := h.make made .caps
    let current := template.2.make made' .caps
    PadRefs held current.1 template.1 h current.2 := by
  have htemplate := hh.make made .caps
  refine ⟨(htemplate.make made' .caps).perm ?_, (next_make _ _).trans (next_make _ _), ?_, ?_⟩
  · simp only [pointers, List.flatMap_cons, List.flatMap_nil, List.append_nil, List.append_assoc]
    exact List.Perm.refl _
  · rw [bin_make, bin_make]
  · rw [links_make, links_make]

theorem cleanUpPad_none (hfailed : retStatus.failed = true) :
    cleanUpPad currentCaps templateCaps none retStatus h' =
      (retStatus, h'.unrefAll [currentCaps, templateCaps]) := by
  unfold cleanUpPad
  rw [hfailed]
  rfl

theorem refs_lt (hrefs : PadRefs held currentCaps templateCaps h h₁) :
    ∀ q ∈ pointers [currentCaps, templateCaps], q < h₁.objects.next := fun _ hq =>
  hrefs.holds.lt_next (List.mem_append_left _ (List.mem_append_left _ hq))

/-- A failure without an element leaves things as they are. -/
theorem cleanUpPad_balanced (hh : Holds held h)
    (hh' : Holds (pointers [currentCaps, templateCaps] ++ held) h')
    (hfailed : retStatus.failed = true) :
    PadBalanced h (cleanUpPad currentCaps templateCaps none retStatus h') := by
  unfold PadBalanced
  rw [cleanUpPad_none hfailed]
  refine hh.balanced hh'.unrefAll fun hok => ?_
  rw [hfailed] at hok
  cases hok

theorem cleanUpPad_broken (hrefs : PadRefs held currentCaps templateCaps h h₁)
    (hbroken : Broken h₁.objects.next h') (hfailed : retStatus.failed = true) :
    ¬ PadBalanced h (cleanUpPad currentCaps templateCaps none retStatus h') := by
  unfold PadBalanced
  rw [cleanUpPad_none hfailed]
  exact ((hbroken.unrefAll (refs_lt hrefs)).mono hrefs.next_le).not_balanced

/-- A failure with an element of the pipeline releases it too early. -/
theorem cleanUpPad_element (hh' : Holds (pointers [currentCaps, templateCaps] ++ held) h')
    (hp : p ∈ h'.bin) (hle : h.objects.next ≤ p) (hfailed : retStatus.failed = true) :
    ¬ PadBalanced h (cleanUpPad currentCaps templateCaps (some p) retStatus h') := by
  unfold PadBalanced cleanUpPad
  simp only [hfailed, if_true]
  exact (hh'.unrefAll.broken_unref hp hle []).not_balanced

/-! ## The callbacks -/

/-- What a pad-added callback does once its last sink is created. -/
def finishPad (currentCaps templateCaps : Option Nat) (linked playing : Bool) (element p : Nat)
    (h : GstHeap) : Status × GstHeap :=
  let (retStatus, h) := linkPad element linked p h
  let retStatus :=
    if retStatus.failed then retStatus else if playing then .success else statusMediaPlay
  cleanUpPad currentCaps templateCaps (some p) retStatus h

theorem finishPad_broken {linked playing : Bool}
    (hh' : Holds (pointers [currentCaps, templateCaps] ++ held) h') (hp : p ∈ h'.bin)
    (hle : h.objects.next ≤ p) (hno : linked = false ∨ playing = false) :
    ¬ PadBalanced h (finishPad currentCaps templateCaps linked playing element p h') := by
  cases linked with
  | false =>
    have hfailed : statusMediaLinkElement.failed = true := rfl
    exact cleanUpPad_element hh' hp hle hfailed
  | true =>
    obtain rfl : playing = false := hno.resolve_left (by decide)
    have hfailed : statusMediaPlay.failed = true := rfl
    have hlink : Holds (pointers [currentCaps, templateCaps] ++ held) (h'.link element p) :=
      hh'.link (hh'.bin_lt hp)
    exact cleanUpPad_element hlink hp hle hfailed

theorem finishPad_success (currentCaps templateCaps : Option Nat) (element p : Nat)
    (h : GstHeap) : finishPad currentCaps templateCaps true true element p h =
      (.success, (h.link element p).unrefAll [currentCaps, templateCaps]) := rfl

/-- One sink that is linked is balanced. -/
theorem finishPad_single (hh : Holds held h) (hrefs : PadRefs held currentCaps templateCaps h h₁)
    (hcreated : Created (pointers [currentCaps, templateCaps] ++ held) h₁ p h') :
    PadBalanced h (finishPad currentCaps templateCaps true true element p h') := by
  rw [finishPad_success]
  refine hh.balanced (hcreated.holds.link (hcreated.holds.bin_lt hcreated.mem)).unrefAll ?_
  intro _ q hq hle _
  by_cases hqp : q = p
  · subst hqp
    exact ⟨element, List.mem_cons_self⟩
  · -- what is older than the sink belonged to the pipeline before
    by_cases hlt : q < h₁.objects.next
    · have hold := hcreated.older q hq hlt
      rw [hrefs.bin] at hold
      exact absurd (hh.bin_lt hold) (Nat.not_lt.mpr hle)
    · obtain ⟨src, hl⟩ := hcreated.linked q hq (Nat.not_lt.mp hlt) hqp
      exact ⟨src, List.mem_cons_of_mem _ hl⟩

/-- Where more sinks are created nothing is linked to the first. -/
theorem finishPad_several {h₂ : GstHeap} {p' : Nat}
    (hle : h.objects.next ≤ h₁.objects.next) (hcreated : Created held h₁ p h₂)
    (hrest : AllCreated held h₂ cs e h') (hp' : h₂.objects.next ≤ p') :
    ¬ PadBalanced h (finishPad currentCaps templateCaps true true element p' h') := by
  rw [finishPad_success]
  intro hbal
  have hlt : p < h₂.objects.next := hcreated.holds.bin_lt hcreated.mem
  obtain ⟨src, hl⟩ := hbal.linked rfl p (hrest.bin p hcreated.mem) (hle.trans hcreated.fresh) nofun
  rcases List.mem_cons.mp hl with he | hl
  · have hpp := (Prod.mk.inj he).2
    omega
  · exact hcreated.not_linked (hrest.old p hlt ⟨src, hl⟩)

/-- The structures of the pad, and the sinks that are created for them. -/
def PadCall.creations (ctx : RtspSrcContext) (call : PadCall) : List (Sink × SinkCalls) :=
  padCreations ctx call.sinks 0 ⟨false, false, 0, none⟩ (call.currentCaps.getD [])

/-- No sink is created, or a single one that is linked in a playing pipeline; and a creation that
fails releases what was created. -/
structure PadCall.Clean (sdk : GstSdk) (ctx : RtspSrcContext) (call : PadCall) : Prop where
  sinks : ∀ pre c post, call.creations ctx = pre ++ c :: post →
    (∀ d ∈ pre, Completes d.1 d.2 = true) → CleanSink sdk ctx c.1 c.2
  single : (∀ c ∈ call.creations ctx, Completes c.1 c.2 = true) → call.creations ctx = [] ∨
    (call.creations ctx).length = 1 ∧ call.linked = true ∧ call.playing = true

variable {call : PadCall}

/-- The callback once it has the references of the pad. -/
def connectSinks (sdk : GstSdk) (ctx : RtspSrcContext) (call : PadCall) (element : Nat)
    (currentCaps templateCaps : Option Nat) (h : GstHeap) : Status × GstHeap :=
  let r := createSinks sdk ctx (call.creations ctx) none h
  if r.1.failed then cleanUpPad currentCaps templateCaps r.2.1 r.1 r.2.2
  else
    match r.2.1 with
    | none => cleanUpPad currentCaps templateCaps none statusMediaEmptyElement r.2.2
    | some p => finishPad currentCaps templateCaps call.linked call.playing element p r.2.2

theorem onRtspSrcPadAdded_eq (harguments : call.arguments = true) :
    let template := h.make call.templateCaps .caps
    let current := template.2.make call.currentCaps.isSome .caps
    onRtspSrcPadAdded sdk ctx call element h =
      connectSinks sdk ctx call element current.1 template.1 current.2 := by
  unfold onRtspSrcPadAdded connectSinks PadCall.creations
  simp only [harguments, connectCaps_eq]
  rfl

/-- A creation fails. -/
theorem connectSinks_fails (hh : Holds held h)
    (hrefs : PadRefs held currentCaps templateCaps h h₁) {pre post : List (Sink × SinkCalls)}
    {c : Sink × SinkCalls} (hcs : call.creations ctx = pre ++ c :: post)
    (hpre : ∀ d ∈ pre, Completes d.1 d.2 = true) (hc : Completes c.1 c.2 = false) :
    PadBalanced h (connectSinks sdk ctx call element currentCaps templateCaps h₁) ↔
      CleanSink sdk ctx c.1 c.2 := by
  obtain ⟨retStatus, h', hfailed, heq, hclean, hbroken⟩ :=
    createSinks_fails sdk ctx none post hrefs.holds hpre hc
  unfold connectSinks
  rw [hcs, heq]
  simp only [hfailed, if_true]
  constructor
  · intro hbal
    by_contra hnot
    exact cleanUpPad_broken hrefs (hbroken hnot) hfailed hbal
  · exact fun h => cleanUpPad_balanced hh (hclean h) hfailed

/-- All creations succeed. -/
theorem connectSinks_completes (hh : Holds held h)
    (hrefs : PadRefs held currentCaps templateCaps h h₁)
    (hall : ∀ c ∈ call.creations ctx, Completes c.1 c.2 = true) :
    PadBalanced h (connectSinks sdk ctx call element currentCaps templateCaps h₁) ↔
      call.creations ctx = [] ∨
      (call.creations ctx).length = 1 ∧ call.linked = true ∧ call.playing = true := by
  unfold connectSinks
  cases hcs : call.creations ctx with
  | nil =>
    have hfailed : statusMediaEmptyElement.failed = true := rfl
    exact iff_of_true (cleanUpPad_balanced hh hrefs.holds hfailed) (Or.inl rfl)
  | cons c cs =>
    rw [hcs] at hall
    obtain ⟨hc, hrest⟩ := List.forall_mem_cons.mp hall
    obtain ⟨p, h₂, heq, hcreated⟩ := createSink_created sdk ctx hrefs.holds hc
    obtain ⟨e, h', heq', hall'⟩ := createSinks_completes sdk ctx (some p) hcreated.holds hrest
    have hcreate : createSinks sdk ctx (c :: cs) none h₁ = (.success, e, h') := by
      unfold createSinks
      rw [heq]
      exact heq'
    rw [hcreate, or_iff_right (List.cons_ne_nil c cs)]
    have hend : ∀ {p'}, e = some p' → h.objects.next ≤ p' → p' ∈ h'.bin →
        ¬ (call.linked = true ∧ call.playing = true) →
        ¬ PadBalanced h
          (finishPad currentCaps templateCaps call.linked call.playing element p' h') := by
      intro p' _ hle hmem hno
      rw [Classical.not_and_iff_not_or_not, Bool.not_eq_true, Bool.not_eq_true] at hno
      exact finishPad_broken hall'.holds hmem hle hno
    cases cs with
    | nil =>
      cases heq'
      have hok : ¬ Status.success.failed = true := by decide
      simp only [hok, List.length_singleton, true_and]
      by_cases hok : call.linked = true ∧ call.playing = true
      · rw [hok.1, hok.2]
        exact iff_of_true (finishPad_single hh hrefs hcreated) ⟨rfl, rfl⟩
      · exact iff_of_false (hend rfl (hrefs.next_le.trans hcreated.fresh) hcreated.mem hok) hok
    | cons c' cs =>
      obtain ⟨p', rfl, hle, hmem⟩ := hall'.element (List.cons_ne_nil _ _)
      refine iff_of_false ?_ fun h => by simp at h
      by_cases hok : call.linked = true ∧ call.playing = true
      · simp only [hok.1, hok.2]
        exact finishPad_several hrefs.next_le hcreated hall' hle
      · exact hend rfl ((hrefs.next_le.trans hcreated.next_le).trans hle) hmem hok

theorem PadCall.clean_of_completes (hall : ∀ c ∈ call.creations ctx, Completes c.1 c.2 = true)
    (hsingle : call.creations ctx = [] ∨
      (call.creations ctx).length = 1 ∧ call.linked = true ∧ call.playing = true) :
    call.Clean sdk ctx where
  sinks pre c post hcs _ := by
    apply cleanSink_of_completes
    apply hall
    rw [hcs]
    exact List.mem_append_right _ List.mem_cons_self
  single _ := hsingle

/-- The first creation that does not succeed is the only one of its kind. -/
theorem first_unique {pre post pre' post' : List (Sink × SinkCalls)} {c c' : Sink × SinkCalls}
    (heq : pre ++ c :: post = pre' ++ c' :: post')
    (hpre : ∀ d ∈ pre, Completes d.1 d.2 = true) (hpre' : ∀ d ∈ pre', Completes d.1 d.2 = true)
    (hc : Completes c.1 c.2 = false) (hc' : Completes c'.1 c'.2 = false) : c = c' := by
  rcases List.append_eq_append_iff.mp heq with ⟨as, hp, hrest⟩ | ⟨as, hp, hrest⟩
  · cases as with
    | nil => exact (List.cons.inj hrest).1
    | cons d as =>
      obtain rfl := (List.cons.inj hrest).1
      have hd := hpre' c (by rw [hp]; exact List.mem_append_right _ List.mem_cons_self)
      rw [hc] at hd
      cases hd
  · cases as with
    | nil => exact (List.cons.inj hrest).1.symm
    | cons d as =>
      obtain rfl := (List.cons.inj hrest).1
      have hd := hpre c' (by rw [hp]; exact List.mem_append_right _ List.mem_cons_self)
      rw [hc'] at hd
      cases hd

theorem connectSinks_balanced_iff (hh : Holds held h)
    (hrefs : PadRefs held currentCaps templateCaps h h₁) :
    PadBalanced h (connectSinks sdk ctx call element currentCaps templateCaps h₁) ↔
      call.Clean sdk ctx := by
  rcases completes_or_fails (call.creations ctx) with hall | ⟨pre, c, post, hcs, hpre, hc⟩
  · refine (connectSinks_completes hh hrefs hall).trans ⟨PadCall.clean_of_completes hall, ?_⟩
    exact fun h => h.single hall
  · refine (connectSinks_fails hh hrefs hcs hpre hc).trans ⟨fun h => ⟨?_, ?_⟩, ?_⟩
    · intro pre' c' post' hcs' hpre'
      cases hc' : Completes c'.1 c'.2 with
      | true => exact cleanSink_of_completes hc'
      | false =>
        rw [← first_unique (hcs.symm.trans hcs') hpre hpre' hc hc']
        exact h
    · intro hall
      have hcomplete := hall c (by rw [hcs]; exact List.mem_append_right _ List.mem_cons_self)
      rw [hc] at hcomplete
      cases hcomplete
    · exact fun h => h.sinks pre c post hcs hpre

theorem onRtspSrcPadAdded_balanced_iff (hh : Holds held h) (sdk : GstSdk) (ctx : RtspSrcContext)
    (call : PadCall) (element : Nat) :
    PadBalanced h (onRtspSrcPadAdded sdk ctx call element h) ↔
      (call.arguments = true → call.Clean sdk ctx) := by
  cases harguments : call.arguments with
  | false =>
    refine iff_of_true ?_ fun h => Bool.noConfusion h
    unfold onRtspSrcPadAdded
    rw [harguments]
    exact cleanUpPad_balanced hh hh rfl
  | true =>
    rw [onRtspSrcPadAdded_eq harguments]
    have hrefs := padRefs_make hh call.templateCaps call.currentCaps.isSome
    exact (connectSinks_balanced_iff hh hrefs).trans ⟨fun h _ => h, fun h => h rfl⟩

/-- The discovery creates a dummy sink only. -/
theorem onRtspSrcPadAddedDiscovery_balanced_iff (hh : Holds held h) (call : PadCall)
    (element : Nat) :
    PadBalanced h (onRtspSrcPadAddedDiscovery call element h) ↔
      (call.arguments = true → (call.sinks 0).fakeSink = true → call.linked = true) := by
  unfold onRtspSrcPadAddedDiscovery
  cases harguments : call.arguments with
  | false => exact iff_of_true (cleanUpPad_balanced hh hh rfl) fun h => Bool.noConfusion h
  | true =>
    have hrefs := padRefs_make hh call.templateCaps call.currentCaps.isSome
    cases hsink : (call.sinks 0).fakeSink with
    | false =>
      simp only [createDummyAppSink_fails hsink]
      have hfailed : statusMediaDummySink.failed = true := rfl
      exact iff_of_true (cleanUpPad_balanced hh hrefs.holds hfailed) fun _ h => Bool.noConfusion h
    | true =>
      obtain ⟨p, h', heq, hcreated⟩ := createDummyAppSink_created hrefs.holds hsink
      simp only [heq]
      cases hlinked : call.linked with
      | false =>
        have hfailed : statusMediaLinkElement.failed = true := rfl
        refine iff_of_false ?_ (by simp)
        exact cleanUpPad_element hcreated.holds hcreated.mem (hrefs.next_le.trans hcreated.fresh)
          hfailed
      | true => exact iff_of_true (finishPad_single hh hrefs hcreated) fun _ _ => rfl

/-! ## All five functions -/

/-- The dummy sink is always balanced; the video sink if its elements can be linked and
`gst_object_unref` takes caps, the audio sink if it fails before there are caps or not at all; the
callbacks if a sink that was created can be linked and played, and is the only one. -/
theorem elements_balanced_iff (hh : Holds held h) (sdk : GstSdk) (ctx : RtspSrcContext)
    (calls : SinkCalls) (call : PadCall) (element : Nat) :
    SinkBalanced h (createDummyAppSink calls h) ∧
    (SinkBalanced h (createVideoAppSink sdk ctx calls h) ↔ (calls.caps = true →
      if calls.elements then calls.link = true else sdk.objectUnrefsCaps = true)) ∧
    (SinkBalanced h (createAudioAppSink ctx calls h) ↔
      (calls.caps = true → calls.elements = true ∧ calls.link = true)) ∧
    (PadBalanced h (onRtspSrcPadAddedDiscovery call element h) ↔
      (call.arguments = true → (call.sinks 0).fakeSink = true → call.linked = true)) ∧
    (PadBalanced h (onRtspSrcPadAdded sdk ctx call element h) ↔
      (call.arguments = true → call.Clean sdk ctx)) := by
  refine ⟨?_, ?_, ?_, ?_, ?_⟩
  · exact (createSink_balanced_iff hh sdk ctx .dummy calls).mpr trivial
  · exact createSink_balanced_iff hh sdk ctx (.video .h264) calls
  · have haudio : (audioSink ctx).Clean calls ↔
        (calls.caps = true → calls.elements = true ∧ calls.link = true) := by
      unfold AppSinkKind.Clean audioSink
      cases calls.elements <;> simp
    exact (createSink_balanced_iff hh sdk ctx (.audio .opus) calls).trans haudio
  · exact onRtspSrcPadAddedDiscovery_balanced_iff hh call element
  · exact onRtspSrcPadAdded_balanced_iff hh sdk ctx call element

/-- A pipeline with one element, the source. -/
def sourceOnly : GstHeap := ⟨Arena.empty.alloc .queue, [0], []⟩

theorem sourceOnly_holds : Holds [] sourceOnly :=
  ⟨Arena.Owned.empty.alloc _, fun _ hl => absurd hl List.not_mem_nil⟩

/-- All calls succeed. -/
def sinkCallsOk : SinkCalls := ⟨true, true, true, true, true, true, true⟩

/-- A pad with these structures, and no call fails. -/
def padCallOk (caps : List GstStructure) : PadCall where
  arguments := true
  templateCaps := true
  currentCaps := some caps
  sinks _ := sinkCallsOk
  linked := true
  playing := true

/-- A structure of the first dynamic payload type. -/
def videoCaps : GstStructure := ⟨some "video", some "H264", some 0, some 90000⟩

/-- A pad with one structure is connected in a pipeline with the source. -/
theorem elements_balanced_source :
    SinkBalanced sourceOnly
        (createVideoAppSink ⟨false⟩ RtspSrcContext.initial sinkCallsOk sourceOnly) ∧
      PadBalanced sourceOnly
        (onRtspSrcPadAdded ⟨false⟩ RtspSrcContext.initial (padCallOk [videoCaps]) 0 sourceOnly) := by
  obtain ⟨-, hvideo, -, -, hpad⟩ := elements_balanced_iff sourceOnly_holds ⟨false⟩
    RtspSrcContext.initial sinkCallsOk (padCallOk [videoCaps]) 0
  refine ⟨hvideo.mpr fun _ => by decide, hpad.mpr fun _ => PadCall.clean_of_completes ?_ ?_⟩
  · decide +kernel
  · exact Or.inr ⟨by decide +kernel, rfl, rfl⟩

/-- Elements of the pipeline are released when they cannot be linked, the caps of the audio sink are
lost when its queue cannot be created, a dummy sink is released that the pipeline owns, and the first
of two sinks is left without a link. -/
theorem elements_unbalanced :
    ¬ SinkBalanced sourceOnly (createVideoAppSink ⟨true⟩ RtspSrcContext.initial
        { sinkCallsOk with link := false } sourceOnly) ∧
      ¬ SinkBalanced sourceOnly (createAudioAppSink RtspSrcContext.initial
        { sinkCallsOk with queue := false } sourceOnly) ∧
      ¬ PadBalanced sourceOnly
        (onRtspSrcPadAddedDiscovery { padCallOk [] with linked := false } 0 sourceOnly) ∧
      ¬ PadBalanced sourceOnly (onRtspSrcPadAdded ⟨true⟩ RtspSrcContext.initial
        (padCallOk [videoCaps, videoCaps]) 0 sourceOnly) := by
  refine ⟨fun h => ?_, fun h => ?_, fun h => ?_, fun h => ?_⟩
  · exact absurd (h.kept 1 (by decide +kernel)) (by decide +kernel)
  · exact absurd (h.once 2 (by decide +kernel) (by decide +kernel)) (by decide +kernel)
  · exact absurd (h.kept 3 (by decide +kernel)) (by decide +kernel)
  · obtain ⟨src, hl⟩ := h.linked (by decide +kernel) 3 (by decide +kernel) (by decide +kernel) nofun
    have hnone : ∀ l ∈ (onRtspSrcPadAdded ⟨true⟩ RtspSrcContext.initial
        (padCallOk [videoCaps, videoCaps]) 0 sourceOnly).2.links, l.2 ≠ 3 := by
      decide +kernel
    exact hnone _ hl rfl

/-! ## The callbacks without their elements -/

variable {sinks : Nat → SinkCalls} {n : Nat} {l : PadLocals} {caps : List GstStructure}

/-- A structure that is not skipped has a sink. -/
theorem nextElement_of_connectStructure {l' : PadLocals} {s : GstStructure}
    (h : connectStructure ctx l s = some l') : l'.nextElement.isSome = true := by
  unfold connectStructure at h
  split at h
  · cases h
  · cases h
    rfl

/-- Without a failure the loop of the callback ends with an element if there is a sink. -/
theorem connectCaps_creations (ctx : RtspSrcContext) (sinks : Nat → SinkCalls) (n : Nat)
    (l : PadLocals) (caps : List GstStructure) : ∃ l',
      RtspSrc.connectCaps none ctx n l caps = some l' ∧
      (l'.nextElement.isSome = true ↔
        l.nextElement.isSome = true ∨ padCreations ctx sinks n l caps ≠ []) := by
  induction caps generalizing n l with
  | nil => exact ⟨l, rfl, by simp [padCreations]⟩
  | cons s caps ih =>
    unfold RtspSrc.connectCaps padCreations
    cases hround : connectStructure ctx l s with
    | none => exact ih n l
    | some l₁ =>
      have hsome := nextElement_of_connectStructure hround
      obtain ⟨sink, hsink⟩ := Option.isSome_iff_exists.mp hsome
      obtain ⟨l', heq, hl'⟩ := ih (n + 1) l₁
      refine ⟨l', ?_, ?_⟩
      · simpa using heq
      · simp only [hsink, ne_eq, reduceCtorEq, not_false_eq_true, or_true, iff_true]
        exact hl'.mpr (Or.inl hsome)

theorem connectCaps_fault {pre post : List (Sink × SinkCalls)} {c : Sink × SinkCalls}
    (hcs : padCreations ctx sinks n l caps = pre ++ c :: post) :
    RtspSrc.connectCaps (some (n + pre.length)) ctx n l caps = none := by
  induction caps generalizing n l pre with
  | nil => exact absurd hcs (by simp [padCreations])
  | cons s caps ih =>
    unfold padCreations at hcs
    unfold RtspSrc.connectCaps
    cases hround : connectStructure ctx l s with
    | none =>
      rw [hround] at hcs
      exact ih hcs
    | some l₁ =>
      have hsome := nextElement_of_connectStructure hround
      obtain ⟨sink, hsink⟩ := Option.isSome_iff_exists.mp hsome
      rw [hround] at hcs
      simp only [hsink] at hcs
      simp only
      cases pre with
      | nil => simp
      | cons d pre =>
        obtain ⟨-, hcs⟩ := List.cons.inj hcs
        have hne : ¬ some (n + (d :: pre).length) = some n := by simp
        rw [if_neg hne]
        have hlen : n + (d :: pre).length = n + 1 + pre.length := by
          rw [List.length_cons]
          omega
        rw [hlen]
        exact ih hcs

/-- The number of the first creation that fails. -/
def PadCall.sinkFault (ctx : RtspSrcContext) (call : PadCall) : Option Nat :=
  (call.creations ctx).findIdx? fun c => !Completes c.1 c.2

/-- The pad of App/RtspSrc. -/
def PadCall.pad (ctx : RtspSrcContext) (call : PadCall) : Pad where
  caps := call.currentCaps.getD []
  sinkFault := call.sinkFault ctx
  linked := call.linked
  playing := call.playing

theorem finishPad_failed (currentCaps templateCaps : Option Nat) (linked playing : Bool)
    (element p : Nat) (h : GstHeap) :
    (finishPad currentCaps templateCaps linked playing element p h).1.failed =
      !(linked && playing) := by
  cases linked <;> cases playing <;> rfl

theorem onRtspSrcPadAdded_connectPad (hh : Holds held h) (sdk : GstSdk) (ctx : RtspSrcContext)
    (harguments : call.arguments = true) (element : Nat) :
    (onRtspSrcPadAdded sdk ctx call element h).1.failed = !connectPad (call.pad ctx) ctx := by
  have hrefs := padRefs_make hh call.templateCaps call.currentCaps.isSome
  rw [onRtspSrcPadAdded_eq harguments]
  unfold connectPad connectSinks
  rcases completes_or_fails (call.creations ctx) with hall | ⟨pre, c, post, hcs, hpre, hc⟩
  · have hfault : (call.pad ctx).sinkFault = none :=
      List.findIdx?_eq_none_iff.mpr fun c hc => by rw [hall c hc]; rfl
    obtain ⟨e, h', heq, hcreated⟩ := createSinks_completes sdk ctx none hrefs.holds hall
    obtain ⟨l', hcaps, hl'⟩ := connectCaps_creations ctx call.sinks 0 ⟨false, false, 0, none⟩
      (call.currentCaps.getD [])
    rw [or_iff_right (by decide)] at hl'
    rw [heq, hfault, show (call.pad ctx).caps = call.currentCaps.getD [] from rfl, hcaps]
    have hok : ¬ Status.success.failed = true := by decide
    simp only [if_neg hok]
    by_cases hnil : call.creations ctx = []
    · have hnone : l'.nextElement.isSome = false := by
        rw [← Bool.not_eq_true, hl']
        exact fun h => h hnil
      rw [hnil] at heq
      cases heq
      rw [hnone]
      rfl
    · obtain ⟨p, rfl, -⟩ := hcreated.element hnil
      simp only
      rw [finishPad_failed, hl'.mpr hnil, Bool.true_and]
      rfl
  · have hfault : (call.pad ctx).sinkFault = some (0 + pre.length) := by
      have hpre' : pre.findIdx? (fun c => !Completes c.1 c.2) = none :=
        List.findIdx?_eq_none_iff.mpr fun d hd => by rw [hpre d hd]; rfl
      unfold PadCall.pad PadCall.sinkFault
      rw [hcs, List.findIdx?_append, hpre', List.findIdx?_cons, hc]
      rfl
    obtain ⟨retStatus, h', hfailed, heq, -⟩ := createSinks_fails sdk ctx none post hrefs.holds hpre hc
    rw [hcs, heq, hfault, show (call.pad ctx).caps = call.currentCaps.getD [] from rfl,
      connectCaps_fault hcs]
    simp only [hfailed, if_true]
    exact hfailed

theorem onRtspSrcPadAddedDiscovery_probePad (ctx : RtspSrcContext) (h : GstHeap)
    (harguments : call.arguments = true) (element : Nat) :
    (onRtspSrcPadAddedDiscovery call element h).1.failed =
      !(probePad ⟨call.currentCaps.getD [], if (call.sinks 0).fakeSink then none else some 0,
        call.linked, call.playing⟩ ctx).2 := by
  unfold onRtspSrcPadAddedDiscovery probePad
  rw [harguments]
  cases hsink : (call.sinks 0).fakeSink with
  | false =>
    simp only [createDummyAppSink_fails hsink]
    rfl
  | true =>
    simp only [createDummyAppSink_eq hsink]
    cases call.linked <;> rfl

end WebrtcApp.RtspSrc.Gst
