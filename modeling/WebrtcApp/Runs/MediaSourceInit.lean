import WebrtcApp.App.Lifecycle
import WebrtcApp.Runs.RtspConfig

/-!
# The clean-up of `initMediaSource`

`detroyMediaSource` gets the address of a pointer to the context.  `initMediaSource` calls it with
the context itself, so that the first word of the context, `codecConfLock`, is taken for the pointer
to the context: without a lock nothing is released, with one the memory of the lock is, and the
context stays behind.

    detroyMediaSource_init                the call that `freeApp` makes, with the right address
    initMediaSource_allOrNothing_iff      a failure after the allocation loses the context
    initMediaSource_resources             what the model of `initApp` frees
-/

namespace WebrtcApp.RtspSrc.Init

/-! ## The memory -/

/-- A release of the memory of an object, or of a mutex by its handle. -/
inductive Release
  | memFree (p : Nat)
  | mutexFree (p : Nat)
  deriving DecidableEq

/-- The object that is released. -/
def Release.target : Release → Nat
  | .memFree p | .mutexFree p => p

/-- The first word of every object, by its address, and what has been released. -/
structure Memory where
  words : List (Option Nat)
  releases : List Release
  deriving DecidableEq

namespace Memory

def next (m : Memory) : Nat := m.words.length

/-- The word at the address, as a pointer. -/
def load (m : Memory) (p : Nat) : Option Nat := m.words[p]?.join

def store (m : Memory) (p : Nat) (word : Option Nat) : Memory :=
  { m with words := m.words.set p word }

def alloc (m : Memory) (word : Option Nat) : Memory :=
  { m with words := m.words ++ [word] }

def release (m : Memory) (r : Release) : Memory :=
  { m with releases := m.releases ++ [r] }

end Memory

/-! ## The code -/

def detroyMediaSource (ppMediaContext : Option Nat) (m : Memory) : Status × Memory :=
  match ppMediaContext with
  | none => (statusMediaNullArg, m)
  | some pp =>
    match m.load pp with
    | none => (statusMediaNullArg, m)
    | some pRtspSrcContext =>
      let m :=
        match m.load pRtspSrcContext with
        | none => m
        | some codecConfLock => m.release (.mutexFree codecConfLock)
      (.success, (m.release (.memFree pRtspSrcContext)).store pp none)

/-- What the calls of `initMediaSource` do.  `mutexWord` is the first word of a mutex that nobody
holds. -/
structure Calls (l : RtspLimits) where
  calloc : Bool
  mutexCreate : Bool
  mutexWord : Option Nat
  env : RtspEnv
  attempt : Attempt

/-- What `initMediaSource` returns and leaves, and what it has allocated and created. -/
structure Result where
  status : Status
  memory : Memory
  context : Option Nat
  codecConfLock : Option Nat

variable {l : RtspLimits}

/-- The status of the steps after `MUTEX_CREATE`. -/
def Calls.latchAndDiscover (calls : Calls l) : Status :=
  let st := (latchRtspConfig calls.env (.initial l)).1
  if st.failed then st else (discoverMediaSource calls.attempt .initial).1

/-- `CleanUp`: the context is passed for the address of a pointer to it. -/
def Result.cleanUp (r : Result) : Result :=
  if r.status.failed then
    match r.context with
    | none => r
    | some pRtspSrcContext =>
      { r with memory := (detroyMediaSource (some pRtspSrcContext) r.memory).2 }
  else r

/-- The caller's pointer is at an address of the memory, or `NULL` is passed for it. -/
def initMediaSource (calls : Calls l) (m : Memory)
    (ppMediaContext : Option (Fin m.next)) : Result :=
  match ppMediaContext with
  | none => Result.cleanUp ⟨statusMediaNullArg, m, none, none⟩
  | some pp =>
    let m := m.store pp none
    if !calls.calloc then Result.cleanUp ⟨statusMediaNotEnoughMemory, m, none, none⟩
    else
      let pRtspSrcContext := m.next
      let m := m.alloc none
      if !calls.mutexCreate then
        Result.cleanUp ⟨statusMediaInvalidMutex, m, some pRtspSrcContext, none⟩
      else
        let codecConfLock := m.next
        let m := (m.alloc calls.mutexWord).store pRtspSrcContext (some codecConfLock)
        let st := calls.latchAndDiscover
        let m := if st.failed then m else m.store pp (some pRtspSrcContext)
        Result.cleanUp ⟨st, m, some pRtspSrcContext, some codecConfLock⟩

/-! ## Words and releases -/

namespace Memory

variable {m : Memory} {p q : Nat} {word : Option Nat} {r : Release}

@[simp] theorem next_store : (m.store p word).next = m.next := List.length_set

@[simp] theorem next_alloc : (m.alloc word).next = m.next + 1 := List.length_append

@[simp] theorem releases_store : (m.store p word).releases = m.releases := rfl

@[simp] theorem releases_alloc : (m.alloc word).releases = m.releases := rfl

@[simp] theorem load_release : (m.release r).load p = m.load p := rfl

theorem load_store_self (h : p < m.next) : (m.store p word).load p = word := by
  unfold next at h
  simp [load, store, h]

theorem load_store_of_ne (h : p ≠ q) : (m.store p word).load q = m.load q := by
  simp [load, store, h]

theorem load_alloc_next (h : m.next = p) : (m.alloc word).load p = word := by
  subst h
  simp [load, alloc, next]

end Memory

/-! ## The specification -/

/-- What has to be released for the context and the mutex. -/
def Result.owed (r : Result) : List Release :=
  (r.codecConfLock.map Release.mutexFree).toList ++ (r.context.map Release.memFree).toList

/-- A failure releases what was allocated and created, each by its own handle, and nothing else; and
the caller's pointer is `NULL`. -/
def AllOrNothing (m : Memory) (ppMediaContext : Option (Fin m.next)) (r : Result) : Prop :=
  r.status.failed = true →
    (∃ released, r.memory.releases = m.releases ++ released ∧ released.Perm r.owed) ∧
      ∀ pp, ppMediaContext = some pp → r.memory.load pp = none

/-- No step fails, or none after the allocation. -/
def NothingLost (calls : Calls l) {n : Nat} (ppMediaContext : Option (Fin n)) : Prop :=
  ppMediaContext = none ∨ calls.calloc = false ∨
    calls.mutexCreate = true ∧ ¬ Refused l calls.env ∧
      ∃ pads ending, calls.attempt = .plays pads ending

variable {calls : Calls l} {m : Memory} {r : Result}

theorem cleanUp_of_success (h : r.status.failed = false) : r.cleanUp = r := by
  unfold Result.cleanUp
  rw [h]
  rfl

theorem cleanUp_of_no_context (h : r.context = none) : r.cleanUp = r := by
  unfold Result.cleanUp
  rw [h]
  split <;> rfl

theorem cleanUp_of_context {c : Nat} (hst : r.status.failed = true) (h : r.context = some c) :
    r.cleanUp = { r with memory := (detroyMediaSource (some c) r.memory).2 } := by
  unfold Result.cleanUp
  rw [if_pos hst, h]

/-- The first word of the context is `NULL`. -/
theorem detroyMediaSource_null {pp : Nat} (h : m.load pp = none) :
    detroyMediaSource (some pp) m = (statusMediaNullArg, m) := by
  unfold detroyMediaSource
  simp only [h]

/-- What a call releases through the pointer at `pp`. -/
theorem detroyMediaSource_releases {pp c : Nat} (h : m.load pp = some c) :
    (detroyMediaSource (some pp) m).2.releases =
      m.releases ++ ((m.load c).map Release.mutexFree).toList ++ [.memFree c] := by
  unfold detroyMediaSource
  simp only [h]
  cases m.load c with
  | none => simp [Memory.release]
  | some lock => simp [Memory.release]

/-- The pointer at `pp` is `NULL` after a call. -/
theorem detroyMediaSource_clears {pp : Nat} (h : pp < m.next) :
    (detroyMediaSource (some pp) m).2.load pp = none := by
  cases hload : m.load pp with
  | none =>
    rw [detroyMediaSource_null hload]
    exact hload
  | some c =>
    unfold detroyMediaSource
    simp only [hload]
    apply Memory.load_store_self
    cases m.load c <;> exact h

/-- Where nothing was allocated nothing is owed. -/
theorem allOrNothing_of_no_context {pp : Option (Fin m.next)} {st : Status} {m' : Memory}
    (hreleases : m'.releases = m.releases) (hload : ∀ p, pp = some p → m'.load p = none) :
    AllOrNothing m pp (Result.cleanUp ⟨st, m', none, none⟩) := by
  rw [cleanUp_of_no_context rfl]
  intro _
  exact ⟨⟨[], by rw [hreleases, List.append_nil], List.Perm.refl _⟩, hload⟩

/-- A failure that does not release its context. -/
theorem not_allOrNothing {pp : Option (Fin m.next)} (c : Nat) (released : List Release)
    (hfailed : r.status.failed = true) (hc : r.context = some c)
    (hreleases : r.memory.releases = m.releases ++ released) (hnot : .memFree c ∉ released) :
    ¬ AllOrNothing m pp r := by
  intro h
  obtain ⟨⟨released', hreleases', hperm⟩, -⟩ := h hfailed
  obtain rfl := List.append_cancel_left (hreleases.symm.trans hreleases')
  apply hnot
  rw [hperm.mem_iff]
  unfold Result.owed
  rw [hc]
  simp

/-- The status of the steps after the mutex. -/
theorem latchAndDiscover_failed_iff : calls.latchAndDiscover.failed = false ↔
    ¬ Refused l calls.env ∧ ∃ pads ending, calls.attempt = .plays pads ending := by
  have hdisc : (discoverMediaSource calls.attempt .initial).1.failed = false ↔
      ∃ pads ending, calls.attempt = .plays pads ending := by
    cases calls.attempt with
    | setUpFails fault =>
      refine iff_of_false ?_ ?_
      · cases fault <;> decide
      · rintro ⟨pads, ending, h⟩
        cases h
    | plays pads ending => exact iff_of_true rfl ⟨pads, ending, rfl⟩
  have hlatch := latchRtspConfig_failed_iff calls.env (.initial l)
  unfold Calls.latchAndDiscover
  simp only
  split_ifs with hfailed
  · rw [hfailed]
    exact iff_of_false (by simp) fun h => h.1 (hlatch.mp hfailed)
  · rw [hdisc, and_iff_right (fun h => hfailed (hlatch.mpr h))]

/-- A context with a lock in it, at the addresses that `initMediaSource` gives them. -/
def Memory.withContext (m : Memory) (mutexWord : Option Nat) : Memory :=
  ((m.alloc none).alloc mutexWord).store m.next (some (m.next + 1))

theorem load_withContext_context (m : Memory) (word : Option Nat) :
    (m.withContext word).load m.next = some (m.next + 1) := by
  unfold Memory.withContext
  exact Memory.load_store_self (by simp)

theorem load_withContext_lock (m : Memory) (word : Option Nat) :
    (m.withContext word).load (m.next + 1) = word := by
  unfold Memory.withContext
  rw [Memory.load_store_of_ne (by simp)]
  exact Memory.load_alloc_next Memory.next_alloc

/-! ### The exits of the call -/

variable {pp : Fin m.next}

theorem init_calloc_fails (h : calls.calloc = false) :
    initMediaSource calls m (some pp) =
      Result.cleanUp ⟨statusMediaNotEnoughMemory, m.store pp none, none, none⟩ := by
  unfold initMediaSource
  rw [h]
  rfl

theorem init_mutex_fails (h : calls.calloc = true) (hmutex : calls.mutexCreate = false) :
    initMediaSource calls m (some pp) = Result.cleanUp
      ⟨statusMediaInvalidMutex, (m.store pp none).alloc none, some m.next, none⟩ := by
  unfold initMediaSource
  simp only [h, hmutex, Memory.next_store]
  rfl

theorem init_mutex (h : calls.calloc = true) (hmutex : calls.mutexCreate = true) :
    initMediaSource calls m (some pp) = Result.cleanUp
      ⟨calls.latchAndDiscover,
        if calls.latchAndDiscover.failed then (m.store pp none).withContext calls.mutexWord
        else ((m.store pp none).withContext calls.mutexWord).store pp (some m.next),
        some m.next, some (m.next + 1)⟩ := by
  unfold initMediaSource Memory.withContext
  simp only [h, hmutex, Memory.next_store, Memory.next_alloc]
  rfl

/-- The releases after a failure that follows the creation of the mutex. -/
theorem releases_of_latch_failed (pp : Fin m.next) (h : calls.calloc = true)
    (hmutex : calls.mutexCreate = true)
    (hfailed : calls.latchAndDiscover.failed = true) :
    (initMediaSource calls m (some pp)).memory.releases =
      m.releases ++ ((calls.mutexWord.map Release.mutexFree).toList ++ [.memFree (m.next + 1)]) := by
  have hnext : (m.store pp none).next = m.next := Memory.next_store
  rw [init_mutex h hmutex, if_pos hfailed, cleanUp_of_context hfailed rfl, ← List.append_assoc]
  have hload := load_withContext_context (m.store pp none) calls.mutexWord
  have hlock := load_withContext_lock (m.store pp none) calls.mutexWord
  rw [hnext] at hload hlock
  rw [detroyMediaSource_releases hload, hlock]
  rfl

/-- A call fails without a loss exactly where it fails before the allocation. -/
theorem initMediaSource_allOrNothing_iff (calls : Calls l) (m : Memory)
    (ppMediaContext : Option (Fin m.next)) :
    AllOrNothing m ppMediaContext (initMediaSource calls m ppMediaContext) ↔
      NothingLost calls ppMediaContext := by
  unfold NothingLost
  cases ppMediaContext with
  | none => exact iff_of_true (allOrNothing_of_no_context rfl nofun) (Or.inl rfl)
  | some pp =>
    rw [or_iff_right (Option.some_ne_none pp)]
    cases hcalloc : calls.calloc with
    | false =>
      rw [init_calloc_fails hcalloc]
      refine iff_of_true (allOrNothing_of_no_context rfl ?_) (Or.inl rfl)
      intro p hp
      obtain rfl := Option.some.inj hp
      exact Memory.load_store_self pp.isLt
    | true =>
      rw [or_iff_right Bool.noConfusion]
      cases hmutex : calls.mutexCreate with
      | false =>
        refine iff_of_false ?_ (fun h => Bool.noConfusion h.1)
        have hnext : (m.store pp none).next = m.next := Memory.next_store
        have hload : ((m.store pp none).alloc none).load m.next = none := Memory.load_alloc_next hnext
        rw [init_mutex_fails hcalloc hmutex, cleanUp_of_context (by rfl) rfl]
        refine not_allOrNothing m.next [] rfl rfl ?_ List.not_mem_nil
        simp only [detroyMediaSource_null hload]
        exact (List.append_nil _).symm
      | true =>
        rw [and_iff_right rfl, ← latchAndDiscover_failed_iff]
        cases hfailed : calls.latchAndDiscover.failed with
        | false =>
          refine iff_of_true (fun h => ?_) rfl
          rw [init_mutex hcalloc hmutex, cleanUp_of_success hfailed] at h
          exact absurd (hfailed.symm.trans h) Bool.false_ne_true
        | true =>
          refine iff_of_false ?_ Bool.noConfusion
          refine not_allOrNothing m.next _ ?_ ?_
            (releases_of_latch_failed pp hcalloc hmutex hfailed) ?_
          · rw [init_mutex hcalloc hmutex, cleanUp_of_context hfailed rfl]
            exact hfailed
          · rw [init_mutex hcalloc hmutex, cleanUp_of_context hfailed rfl]
          · cases calls.mutexWord <;> simp

/-- The environment has no URL. -/
def noUrl : Calls .sdk where
  calloc := true
  mutexCreate := true
  mutexWord := none
  env := ⟨none, none, none⟩
  attempt := .plays [] .noMorePads

/-- The memory with the caller's pointer only. -/
def callersPointer : Memory := ⟨[none], []⟩

/-- The memory of the mutex is released, and the context is not. -/
theorem context_lost :
    let r := initMediaSource noUrl callersPointer (some ⟨0, Nat.one_pos⟩)
    r.status = statusMediaRtspUrl ∧ r.memory.releases = [.memFree 2] ∧
      ¬ AllOrNothing callersPointer (some ⟨0, Nat.one_pos⟩) r := by
  refine ⟨rfl, rfl, ?_⟩
  exact not_allOrNothing 1 [.memFree 2] rfl rfl rfl (by decide)

/-! ## The other callers and models -/

/-- Only a call in which nothing fails succeeds. -/
theorem init_success_iff {pp : Fin m.next} :
    (initMediaSource calls m (some pp)).status = .success ↔
      calls.calloc = true ∧ calls.mutexCreate = true ∧ calls.latchAndDiscover.failed = false := by
  cases hcalloc : calls.calloc with
  | false =>
    rw [init_calloc_fails hcalloc, cleanUp_of_no_context rfl]
    exact iff_of_false nofun (fun h => Bool.noConfusion h.1)
  | true =>
    rw [and_iff_right rfl]
    cases hmutex : calls.mutexCreate with
    | false =>
      rw [init_mutex_fails hcalloc hmutex, cleanUp_of_context (by rfl) rfl]
      exact iff_of_false nofun (fun h => Bool.noConfusion h.1)
    | true =>
      rw [and_iff_right rfl, init_mutex hcalloc hmutex, ← Status.failed_eq_false]
      cases hfailed : calls.latchAndDiscover.failed with
      | false => rw [cleanUp_of_success hfailed, hfailed]
      | true => rw [cleanUp_of_context hfailed rfl, hfailed]

/-- The status is that of the model in which the calls are what they return. -/
theorem initMediaSource_status (calls : Calls l) (m : Memory) (pp : Fin m.next) :
    (initMediaSource calls m (some pp)).status =
      (RtspSrc.initMediaSource ⟨calls.calloc, calls.mutexCreate,
        (latchRtspConfig calls.env (.initial l)).1⟩ calls.attempt).1 := by
  unfold RtspSrc.initMediaSource
  cases hcalloc : calls.calloc with
  | false =>
    rw [init_calloc_fails hcalloc, cleanUp_of_no_context rfl]
    rfl
  | true =>
    cases hmutex : calls.mutexCreate with
    | false =>
      rw [init_mutex_fails hcalloc hmutex, cleanUp_of_context (by rfl) rfl]
      rfl
    | true =>
      have hstatus : (initMediaSource calls m (some pp)).status = calls.latchAndDiscover := by
        rw [init_mutex hcalloc hmutex]
        unfold Result.cleanUp
        split_ifs <;> rfl
      rw [hstatus]
      unfold Calls.latchAndDiscover
      simp only [Bool.not_true, Bool.false_eq_true, if_false]
      split_ifs with hlatch hdisc
      · rfl
      · rfl
      · exact Status.failed_eq_false.mp (Bool.eq_false_iff.mpr hdisc)

/-- After a call that succeeds, `detroyMediaSource` with the address of the caller's pointer releases
what is owed. -/
theorem detroyMediaSource_init {pp : Fin m.next}
    (hok : (initMediaSource calls m (some pp)).status = .success) :
    let r := initMediaSource calls m (some pp)
    (detroyMediaSource (some pp.val) r.memory).2.releases = m.releases ++ r.owed ∧
      (detroyMediaSource (some pp.val) r.memory).2.load pp = none := by
  obtain ⟨hcalloc, hmutex, hfailed⟩ := init_success_iff.mp hok
  have hnext : (m.store pp none).next = m.next := Memory.next_store
  have hcontext := load_withContext_context (m.store pp none) calls.mutexWord
  have hlt : pp.val < ((m.store pp none).withContext calls.mutexWord).next := by
    have := pp.isLt
    unfold Memory.withContext
    simp only [Memory.next_store, Memory.next_alloc]
    omega
  rw [hnext] at hcontext
  rw [init_mutex hcalloc hmutex, cleanUp_of_success hfailed, hfailed]
  simp only [Bool.false_eq_true, if_false]
  constructor
  · rw [detroyMediaSource_releases (Memory.load_store_self hlt),
      Memory.load_store_of_ne pp.isLt.ne, hcontext, List.append_assoc]
    rfl
  · apply detroyMediaSource_clears
    rwa [Memory.next_store]

/-- The calls have the outcomes that the environment of `initApp` gives them. -/
structure Outcomes (env : Lifecycle.InitEnv) (calls : Calls l) : Prop where
  calloc : env.ok .mediaCalloc = calls.calloc
  mutexCreate : env.ok .codecConfLock = calls.mutexCreate
  latchAndDiscover : (env.ok .latchRtspConfig && env.ok .discoverMediaSource) =
    !calls.latchAndDiscover.failed
  mutexWord : calls.mutexWord = none

/-- What is allocated and created, as `initApp` counts it. -/
def Result.resources (r : Result) : List Lifecycle.Resource :=
  (r.context.map fun _ => .rtspSrcContext).toList ++ (r.codecConfLock.map fun _ => .mutex).toList

/-- The model of `initApp` frees what is released here. -/
theorem initMediaSource_resources {env : Lifecycle.InitEnv} (h : Outcomes env calls)
    {a : Lifecycle.App} {pp : Fin m.next} (hnext : m.next = a.resources.next)
    (hnone : m.releases = []) :
    let r := initMediaSource calls m (some pp)
    (a.initMediaSource env).2.resources =
      (r.resources.foldl Arena.alloc a.resources).freeAll (r.memory.releases.map Release.target) := by
  unfold Lifecycle.App.initMediaSource
  rw [h.calloc, h.mutexCreate]
  cases hcalloc : calls.calloc with
  | false =>
    rw [init_calloc_fails hcalloc, cleanUp_of_no_context rfl]
    simp [Result.resources, hnone]
  | true =>
    cases hmutex : calls.mutexCreate with
    | false =>
      have hload : ((m.store pp none).alloc none).load m.next = none :=
        Memory.load_alloc_next Memory.next_store
      rw [init_mutex_fails hcalloc hmutex, cleanUp_of_context (by rfl) rfl]
      simp [Result.resources, detroyMediaSource_null hload, hnone,
        Lifecycle.App.detroyMediaSourceOfContext]
    | true =>
      have hboth := h.latchAndDiscover
      cases hfailed : calls.latchAndDiscover.failed with
      | false =>
        rw [hfailed, Bool.not_false, Bool.and_eq_true] at hboth
        rw [init_mutex hcalloc hmutex, cleanUp_of_success hfailed, hfailed, hboth.1, hboth.2]
        simp [Result.resources, hnone, Memory.withContext]
      | true =>
        -- the mutex is the second of the two that are allocated
        have hreleases := releases_of_latch_failed pp hcalloc hmutex hfailed
        have hresources : (initMediaSource calls m (some pp)).resources =
            [.rtspSrcContext, .mutex] := by
          rw [init_mutex hcalloc hmutex, cleanUp_of_context hfailed rfl]
          rfl
        have hlock : (a.resources.alloc .rtspSrcContext).next = m.next + 1 := by
          rw [Arena.next_alloc, hnext]
        rw [hfailed, Bool.not_true, Bool.and_eq_false_iff] at hboth
        simp only [hreleases, hresources, hnone, h.mutexWord]
        cases hlatch : env.ok .latchRtspConfig with
        | false => simp [Lifecycle.App.detroyMediaSourceOfContext, Release.target, hlock]
        | true =>
          rw [hboth.resolve_left (by rw [hlatch]; exact Bool.noConfusion)]
          simp [Lifecycle.App.detroyMediaSourceOfContext, Release.target, hlock]

end WebrtcApp.RtspSrc.Init
