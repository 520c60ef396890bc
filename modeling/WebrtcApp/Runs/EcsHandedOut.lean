import WebrtcApp.Runs.EcsRefresh
import WebrtcApp.Runs.EcsRequests

/-!
# The credentials that are handed out

`getEcsCredentials` hands out the pointer that the provider keeps, and it stays the provider's: a
later call frees the credentials behind it when they are due and the new ones are complete, whether
or not these can be created, and `freeEcsCredentialProvider` frees them.  Runs of one caller, which
creates its provider (`createEcsCredentialProviderWithTime`, with its failures), asks it and frees
it.

    Inv.step                    what the calls keep: who owns which object
    step_cached                 the calls that keep the cached credentials
    exec_cached                 the same for a run
    toProvider_exec             without the objects: a run of the provider of App/EcsCredentials
    credentials_handed_out      how long a pointer that was handed out is valid
    ecs_memory_released         without a provider nothing is left, and no object is freed twice
-/

namespace WebrtcApp

/-! ## The code -/

/-- The memory with the provider of one caller: `providers` are the structures of `MEMCALLOC`, and
`heap` has the fields of the one at `pCredentialProvider`. -/
structure EcsClient where
  providers : Arena Unit
  pCredentialProvider : Option Nat
  heap : EcsHeap

/-- What `createEcsCredentialProviderWithTime` returns; `invalidUri` stands for the status of
`getRequestHost`, `getHostPort` or `STRTOUI32`. -/
inductive EcsCreateStatus
  | notEnoughMemory
  | ecsUriLength
  | invalidUri
  | maxEcsTokenLength
  | curl (st : EcsStatus)
  deriving DecidableEq

/-- The checks of the URI and of the token. -/
def ecsEndpointOf (sdk : EcsSdk) (url : UrlSdk) (uri token : List Char) :
    Except EcsCreateStatus EcsEndpoint :=
  if uri.length ≤ sdk.maxUriCharLen then
    match splitEcsUri url uri with
    | none => .error .invalidUri
    | some e => if token.length ≤ maxEcsTokenLen then .ok e else .error .maxEcsTokenLength
  else .error .ecsUriLength

namespace EcsClient

/-- No provider yet. -/
def start : EcsClient := ⟨.empty, none, ⟨[], [], none, .empty⟩⟩

def freeEcsCredentialProvider (m : EcsClient) : EcsClient :=
  match m.pCredentialProvider with
  | none => m
  | some p => ⟨m.providers.free p, none, m.heap.freeAwsCredentials⟩

/-- The provider with the fields that `MEMCALLOC` clears. -/
def memcalloc (m : EcsClient) : EcsClient :=
  ⟨m.providers.alloc (), some m.providers.next, ⟨[], [], none, m.heap.objects⟩⟩

/-- `allocated` says whether `MEMCALLOC` returns a structure. -/
def createEcsCredentialProviderWithTime (sdk : EcsSdk) (url : UrlSdk) (uri token : List Char)
    (allocated : Bool) (call : EcsHeapCall) (m : EcsClient) : EcsCreateStatus × EcsClient :=
  if !allocated then (.notEnoughMemory, { m with pCredentialProvider := none })
  else
    let m := m.memcalloc
    match ecsEndpointOf sdk url uri token with
    | .error st => (st, m.freeEcsCredentialProvider)
    | .ok e =>
      let r := EcsHeap.ecsCurlHandler sdk call ⟨e.ecsGetCredentialEndpoint,
        e.ecsGetCredentialResource, none, m.heap.objects⟩
      let m := { m with heap := r.2 }
      if r.1 = .success then (.curl r.1, m) else (.curl r.1, m.freeEcsCredentialProvider)

/-- The pointer that the caller gets; without a provider the status is `STATUS_NULL_ARG`. -/
def getEcsCredentials (sdk : EcsSdk) (call : EcsHeapCall) (m : EcsClient) :
    Option Nat × EcsClient :=
  match m.pCredentialProvider with
  | none => (none, m)
  | some p =>
    let r := m.heap.getEcsCredentials sdk call
    (r.1, { m with providers := m.providers.touch p, heap := r.2.2 })

end EcsClient

/-! ## The machine -/

inductive EcsAct
  | create (uri token : List Char) (allocated : Bool) (call : EcsHeapCall)
  | get (call : EcsHeapCall)
  | free

namespace EcsClient

variable (sdk : EcsSdk) (url : UrlSdk)

/-- A caller that has a provider does not create another one. -/
def step (m : EcsClient) : EcsAct → EcsClient
  | .create uri token allocated call =>
    match m.pCredentialProvider with
    | some _ => m
    | none => (m.createEcsCredentialProviderWithTime sdk url uri token allocated call).2
  | .get call => (m.getEcsCredentials sdk call).2
  | .free => m.freeEcsCredentialProvider

/-- The pointer that the caller gets. -/
def handedOut (m : EcsClient) : EcsAct → Option Nat
  | .get call => (m.getEcsCredentials sdk call).1
  | _ => none

end EcsClient

/-- The response to the call replaces the credentials `c`: they are due, the request is made, and
what it brings is complete. -/
def EcsCall.Replaces (sdk : EcsSdk) (c : AwsCredentials) (call : EcsCall) : Prop :=
  c.expiration < call.currentTime + sdk.ecsCredentialFetchGracePeriod ∧ call.RequestFormed ∧
    call.serviceCall = .success ∧ ∃ c', ecsResponse sdk call = .ok c'

/-- The call is the end of the credentials `c` where they are cached. -/
def EcsAct.Ends (sdk : EcsSdk) (c : AwsCredentials) : EcsAct → Prop
  | .create .. => False
  | .get call => call.toEcsCall.Replaces sdk c
  | .free => True

namespace EcsHeap

variable {sdk : EcsSdk} {call : EcsHeapCall} {h : EcsHeap} {others : List Nat} {p : Nat}
  {c : AwsCredentials}

/-! ## One refresh -/

/-- The new credentials are a new object, which the rest of the call leaves alone. -/
theorem ecsCurlHandler_created (hr : h.ReachesCreation sdk call.toEcsCall)
    (hcreate : call.createAwsCredentials = .success) :
    ∃ q c, h.objects.next ≤ q ∧ (h.ecsCurlHandler sdk call).2.pAwsCredentials = some q ∧
      (h.ecsCurlHandler sdk call).2.objects.read q = .credentials c := by
  obtain ⟨hstale, hlen, hform, hcall, c, hresponse⟩ := hr
  rw [ecsCurlHandler_requested hstale hlen hform, if_neg (not_not.mpr hcall)]
  have hparse : ((h.requested call).parseEcsResponse sdk call.toEcsCall).2 =
      { (h.requested call).freeAwsCredentials with
        pAwsCredentials := some (h.requested call).freeAwsCredentials.objects.next
        objects := (h.requested call).freeAwsCredentials.objects.alloc (.credentials c) } := by
    unfold EcsHeap.parseEcsResponse
    rw [hresponse]
    exact congrArg Prod.snd (if_pos hcreate)
  rw [hparse]
  refine ⟨(h.requested call).freeAwsCredentials.objects.next, c, ?_, ?_, ?_⟩
  · exact (extends_requested.trans extends_freeAwsCredentials).next
  · exact pAwsCredentials_cleanUp
  · rw [extends_cleanUp.read]
    · exact Arena.read_alloc_next _ _
    · rw [Arena.next_alloc]
      exact Nat.lt_succ_self _

/-- What a call leaves cached: what was cached, or nothing, or a new object. -/
theorem ecsCurlHandler_cached (sdk : EcsSdk) (call : EcsHeapCall) (h : EcsHeap) :
    (¬ h.ReachesCreation sdk call.toEcsCall ∧
        (h.ecsCurlHandler sdk call).2.pAwsCredentials = h.pAwsCredentials) ∨
      (h.ReachesCreation sdk call.toEcsCall ∧
        ((h.ecsCurlHandler sdk call).2.pAwsCredentials = none ∨
          ∃ q c, h.objects.next ≤ q ∧ (h.ecsCurlHandler sdk call).2.pAwsCredentials = some q ∧
            (h.ecsCurlHandler sdk call).2.objects.read q = .credentials c)) := by
  by_cases hr : h.ReachesCreation sdk call.toEcsCall
  · right
    refine ⟨hr, ?_⟩
    by_cases hcreate : call.createAwsCredentials = .success
    · right
      exact ecsCurlHandler_created hr hcreate
    · left
      exact (ecsCurlHandler_reached hr).2 hcreate
  · left
    exact ⟨hr, pAwsCredentials_of_not_reached hr⟩

/-- What is cached points to credentials, before a call and after it. -/
theorem read_ecsCurlHandler (hh : Holds others h)
    (hread : ∀ p, h.pAwsCredentials = some p → ∃ c, h.objects.read p = .credentials c)
    (hp : (h.ecsCurlHandler sdk call).2.pAwsCredentials = some p) :
    ∃ c, (h.ecsCurlHandler sdk call).2.objects.read p = .credentials c := by
  rcases ecsCurlHandler_cached sdk call h with
    ⟨-, hsame⟩ | ⟨-, hnone | ⟨q, c, -, hnew, hc⟩⟩
  · -- the cached credentials are where they were
    rw [hsame] at hp
    obtain ⟨c, hc⟩ := hread p hp
    exact ⟨c, (extends_ecsCurlHandler.read p (hh.lt_next hp)).trans hc⟩
  · rw [hnone] at hp
    cases hp
  · obtain rfl := Option.some.inj (hnew.symm.trans hp)
    exact ⟨c, hc⟩

theorem pAwsCredentials_freeAwsCredentials : h.freeAwsCredentials.pAwsCredentials = none := by
  unfold EcsHeap.freeAwsCredentials
  cases hp : h.pAwsCredentials with
  | none => exact hp
  | some p => rfl

theorem formatLen_ecsCurlHandler :
    (h.ecsCurlHandler sdk call).2.provider.formatLen = h.provider.formatLen := by
  have he : Extends h (h.ecsCurlHandler sdk call).2 := extends_ecsCurlHandler
  unfold EcsCredentialProvider.formatLen provider
  rw [he.endpoint, he.resource]

/-- The first refresh of a provider succeeds only where its URL fits. -/
theorem formatLen_of_success (hnone : h.pAwsCredentials = none)
    (hst : (h.ecsCurlHandler sdk call).1 = .success) :
    h.provider.formatLen < sdk.maxUriCharLen := by
  have hcredentials : h.provider.pAwsCredentials = none := by
    unfold provider credentials
    rw [hnone]
  have hstale : h.provider.stale sdk call.currentTime = true := by
    unfold EcsCredentialProvider.stale
    rw [hcredentials]
  by_contra hlen
  unfold EcsHeap.ecsCurlHandler at hst
  rw [hstale, if_neg (by decide), if_pos (Nat.le_of_not_lt hlen)] at hst
  cases hst

/-- The cached credentials are due. -/
theorem stale_iff (hp : h.pAwsCredentials = some p) (hc : h.objects.read p = .credentials c)
    (currentTime : Nat) : h.provider.stale sdk currentTime = true ↔
      c.expiration < currentTime + sdk.ecsCredentialFetchGracePeriod := by
  have hcredentials : h.provider.pAwsCredentials = some c := by
    unfold provider credentials
    simp only [hp, hc]
  unfold EcsCredentialProvider.stale
  simp only [hcredentials, decide_eq_true_eq, gt_iff_lt]

/-- Where the URL fits, a call comes to the creation exactly if its response replaces what is
cached. -/
theorem reachesCreation_iff (hp : h.pAwsCredentials = some p)
    (hc : h.objects.read p = .credentials c) (hlen : h.provider.formatLen < sdk.maxUriCharLen) :
    h.ReachesCreation sdk call.toEcsCall ↔ call.toEcsCall.Replaces sdk c := by
  unfold ReachesCreation EcsCall.Replaces
  rw [stale_iff hp hc]
  constructor
  · rintro ⟨hdue, -, hform, hcall, hresponse⟩
    exact ⟨hdue, hform, hcall, hresponse⟩
  · rintro ⟨hdue, hform, hcall, hresponse⟩
    exact ⟨hdue, hlen, hform, hcall, hresponse⟩

/-- The creation of a provider without its objects is the first refresh. -/
theorem createEcsCredentialProvider_eq {endpoint resource : List Char} {objects : Arena EcsObject}
    (howned : objects.Owned []) :
    createEcsCredentialProvider sdk endpoint resource call.toEcsCall =
      let r := EcsHeap.ecsCurlHandler sdk call ⟨endpoint, resource, none, objects⟩
      if r.1 = .success then some r.2.provider else none := by
  have hholds : Holds [] ⟨endpoint, resource, none, objects⟩ := howned
  obtain ⟨hst, hprovider⟩ := getEcsCredentials_provider hholds sdk call
  unfold EcsHeap.getEcsCredentials WebrtcApp.getEcsCredentials at hst hprovider
  simp only at hst hprovider ⊢
  rw [hst, hprovider]
  rfl

end EcsHeap

namespace EcsClient

variable {sdk : EcsSdk} {url : UrlSdk} {m : EcsClient} {call : EcsHeapCall} {p q : Nat}
  {c : AwsCredentials}

/-! ## What the calls keep -/

/-- The provider of the caller is the only one, what it caches are the only object, and its URL fits
a request. -/
structure Inv (sdk : EcsSdk) (m : EcsClient) : Prop where
  providers : m.providers.Owned m.pCredentialProvider.toList
  objects : m.heap.Holds []
  without : m.pCredentialProvider = none → m.heap.pAwsCredentials = none
  fits : m.pCredentialProvider ≠ none → m.heap.provider.formatLen < sdk.maxUriCharLen
  cached : ∀ p, m.heap.pAwsCredentials = some p → ∃ c, m.heap.objects.read p = .credentials c

theorem Inv.start : Inv sdk start where
  providers := .empty
  objects := Arena.Owned.empty
  without _ := rfl
  fits h := absurd rfl h
  cached _ h := by cases h

theorem Inv.lt_next (h : Inv sdk m) (hp : m.heap.pAwsCredentials = some p) :
    p < m.heap.objects.next :=
  h.objects.lt_next hp

/-- The credentials that are cached are live, and no others. -/
theorem Inv.live_iff (h : Inv sdk m) :
    m.heap.objects.live p = true ↔ m.heap.pAwsCredentials = some p := by
  have howned : m.heap.objects.Owned (m.heap.pAwsCredentials.toList ++ []) := h.objects
  rw [howned.live_iff, List.append_nil, Option.mem_toList]

/-- What was handed out and is not cached has been freed. -/
theorem Inv.frees_iff (h : Inv sdk m) (hlt : p < m.heap.objects.next) :
    m.heap.objects.frees p = 1 ↔ m.heap.pAwsCredentials ≠ some p := by
  rw [Ne, ← h.live_iff]
  have howned : m.heap.objects.Owned (m.heap.pAwsCredentials.toList ++ []) := h.objects
  constructor
  · intro hfreed hlive
    rw [Arena.frees_of_live hlive] at hfreed
    cases hfreed
  · intro hlive
    exact howned.frees_of_not_mem hlt fun hp => hlive (howned.live hp)

theorem pCredentialProvider_free : m.freeEcsCredentialProvider.pCredentialProvider = none := by
  unfold EcsClient.freeEcsCredentialProvider
  cases hq : m.pCredentialProvider with
  | none => exact hq
  | some q => rfl

/-- The provider and its credentials are freed together. -/
theorem freed_owned (hproviders : m.providers.Owned m.pCredentialProvider.toList)
    (hobjects : m.heap.Holds []) (hwithout : m.pCredentialProvider = none →
      m.heap.pAwsCredentials = none) : Inv sdk m.freeEcsCredentialProvider := by
  obtain ⟨providers, pCredentialProvider, heap⟩ := m
  cases pCredentialProvider with
  | none =>
    refine ⟨hproviders, hobjects, hwithout, fun h => absurd rfl h, fun p hp => ?_⟩
    exact absurd ((hwithout rfl).symm.trans hp) (Option.some_ne_none p).symm
  | some q =>
    have hnone : heap.freeAwsCredentials.pAwsCredentials = none :=
      EcsHeap.pAwsCredentials_freeAwsCredentials
    have hproviders : providers.Owned [q] := hproviders
    refine ⟨hproviders.free, hobjects.freeAwsCredentials.1, fun _ => hnone, fun h => absurd rfl h,
      fun p hp => ?_⟩
    exact absurd (hnone.symm.trans hp) (Option.some_ne_none p).symm

theorem Inv.freeEcsCredentialProvider (h : Inv sdk m) : Inv sdk m.freeEcsCredentialProvider :=
  freed_owned h.providers h.objects h.without

/-- A refresh by a provider whose URL fits. -/
theorem Inv.curl (h : Inv sdk m) (hq : m.pCredentialProvider = some q) (call : EcsHeapCall) :
    Inv sdk { m with heap := (m.heap.ecsCurlHandler sdk call).2 } where
  providers := h.providers
  objects := h.objects.ecsCurlHandler call
  without hnone := by
    rw [show m.pCredentialProvider = none from hnone] at hq
    cases hq
  fits _ := by
    show (m.heap.ecsCurlHandler sdk call).2.provider.formatLen < _
    rw [EcsHeap.formatLen_ecsCurlHandler]
    apply h.fits
    rw [hq]
    exact Option.some_ne_none q
  cached _ hp := EcsHeap.read_ecsCurlHandler h.objects h.cached hp

/-- A created provider has its credentials, and a creation that fails leaves nothing. -/
theorem Inv.create (h : Inv sdk m) (hno : m.pCredentialProvider = none) (uri token : List Char)
    (allocated : Bool) (call : EcsHeapCall) :
    Inv sdk (m.createEcsCredentialProviderWithTime sdk url uri token allocated call).2 := by
  have hobjects : ∀ endpoint resource,
      EcsHeap.Holds [] ⟨endpoint, resource, none, m.heap.objects⟩ := by
    intro endpoint resource
    have howned := h.objects
    unfold EcsHeap.Holds at howned ⊢
    rw [h.without hno] at howned
    exact howned
  have hproviders : m.memcalloc.providers.Owned m.memcalloc.pCredentialProvider.toList := by
    have howned := h.providers
    rw [hno] at howned
    exact howned.alloc ()
  unfold createEcsCredentialProviderWithTime
  by_cases hallocated : (!allocated) = true
  · rw [if_pos hallocated]
    have hsame : ({ m with pCredentialProvider := none } : EcsClient) = m := by
      rw [← hno]
    exact hsame ▸ h
  rw [if_neg hallocated]
  simp only
  cases hendpoint : ecsEndpointOf sdk url uri token with
  | error st => exact freed_owned hproviders (hobjects [] []) fun _ => rfl
  | ok e =>
    have hcurl : EcsHeap.Holds [] (EcsHeap.ecsCurlHandler sdk call _).2 :=
      (hobjects e.ecsGetCredentialEndpoint e.ecsGetCredentialResource).ecsCurlHandler call
    simp only
    split_ifs with hst
    · refine ⟨hproviders, hcurl, fun hnone => ?_, fun _ => ?_, fun p hp => ?_⟩
      · exact absurd hnone (Option.some_ne_none _)
      · show EcsCredentialProvider.formatLen (EcsHeap.provider _) < _
        rw [EcsHeap.formatLen_ecsCurlHandler]
        exact EcsHeap.formatLen_of_success rfl hst
      · exact EcsHeap.read_ecsCurlHandler (hobjects _ _) (fun _ hq => by cases hq) hp
    · refine @freed_owned sdk { m.memcalloc with heap := _ } hproviders hcurl fun hnone => ?_
      exact absurd hnone (Option.some_ne_none _)

/-- With a provider, a call is a refresh. -/
theorem getEcsCredentials_some (h : Inv sdk m) (hq : m.pCredentialProvider = some q)
    (call : EcsHeapCall) : m.getEcsCredentials sdk call =
      ((m.heap.getEcsCredentials sdk call).1,
        { m with heap := (m.heap.ecsCurlHandler sdk call).2 }) := by
  have howned := h.providers
  rw [hq] at howned
  unfold getEcsCredentials
  simp only [hq]
  rw [howned.touch (List.mem_singleton_self q)]
  rfl

theorem Inv.step (h : Inv sdk m) (a : EcsAct) : Inv sdk (m.step sdk url a) := by
  cases a with
  | create uri token allocated call =>
    unfold EcsClient.step
    cases hno : m.pCredentialProvider with
    | none => exact h.create hno uri token allocated call
    | some q => exact h
  | get call =>
    show Inv sdk (m.getEcsCredentials sdk call).2
    cases hq : m.pCredentialProvider with
    | none =>
      unfold EcsClient.getEcsCredentials
      rw [hq]
      exact h
    | some q =>
      rw [getEcsCredentials_some h hq]
      exact h.curl hq call
  | free => exact h.freeEcsCredentialProvider

theorem Inv.exec (h : Inv sdk m) (as : List EcsAct) :
    Inv sdk (Run.exec (EcsClient.step sdk url) m as) :=
  Run.exec_invariant (fun _ a hm => hm.step a) h as

/-! ## What a pointer is good for -/

/-- The objects that were there have their contents, and what is cached was cached or is new. -/
structure Keeps (m m' : EcsClient) : Prop where
  next : m.heap.objects.next ≤ m'.heap.objects.next
  read : ∀ q < m.heap.objects.next, m'.heap.objects.read q = m.heap.objects.read q
  cached : ∀ q, m'.heap.pAwsCredentials = some q →
    m.heap.pAwsCredentials = some q ∨ m.heap.objects.next ≤ q

theorem Keeps.refl (m : EcsClient) : Keeps m m := ⟨Nat.le_refl _, fun _ _ => rfl, fun _ => Or.inl⟩

theorem Keeps.freed {m' : EcsClient} (h : Keeps m m') : Keeps m m'.freeEcsCredentialProvider := by
  obtain ⟨providers, pCredentialProvider, heap⟩ := m'
  cases pCredentialProvider with
  | none => exact h
  | some q =>
    have he : EcsHeap.Extends heap heap.freeAwsCredentials := EcsHeap.extends_freeAwsCredentials
    refine ⟨h.next.trans he.next, fun r hr => ?_, fun r hr => ?_⟩
    · exact (he.read r (Nat.lt_of_lt_of_le hr h.next)).trans (h.read r hr)
    · have hnone : heap.freeAwsCredentials.pAwsCredentials = none :=
        EcsHeap.pAwsCredentials_freeAwsCredentials
      exact absurd (hnone.symm.trans hr) (Option.some_ne_none r).symm

/-- What a refresh keeps, whatever the fields of the provider were before. -/
theorem Keeps.curl {m' : EcsClient} {h : EcsHeap} (hobjects : h.objects = m.heap.objects)
    (hcached : ∀ q, h.pAwsCredentials = some q → m.heap.pAwsCredentials = some q)
    (hm' : m'.heap = (h.ecsCurlHandler sdk call).2) : Keeps m m' := by
  have he : EcsHeap.Extends h (h.ecsCurlHandler sdk call).2 := EcsHeap.extends_ecsCurlHandler
  rw [← hm'] at he
  refine ⟨hobjects ▸ he.next, fun q hq => ?_, fun q hq => ?_⟩
  · rw [he.read q (hobjects ▸ hq), hobjects]
  · rw [hm'] at hq
    rcases EcsHeap.ecsCurlHandler_cached sdk call h with
      ⟨-, hsame⟩ | ⟨-, hnone | ⟨q', c, hle, hnew, -⟩⟩
    · exact Or.inl (hcached q (hsame ▸ hq))
    · rw [hnone] at hq
      cases hq
    · obtain rfl := Option.some.inj (hnew.symm.trans hq)
      exact Or.inr (hobjects ▸ hle)

theorem keeps_create (uri token : List Char) (allocated : Bool) (call : EcsHeapCall) :
    Keeps m (m.createEcsCredentialProviderWithTime sdk url uri token allocated call).2 := by
  have hcleared : Keeps m m.memcalloc :=
    ⟨Nat.le_refl _, fun _ _ => rfl, fun q hq => absurd hq (Option.some_ne_none q).symm⟩
  unfold createEcsCredentialProviderWithTime
  split_ifs
  · exact ⟨Nat.le_refl _, fun _ _ => rfl, fun _ => Or.inl⟩
  simp only
  cases ecsEndpointOf sdk url uri token with
  | error st => exact hcleared.freed
  | ok e =>
    have hcurl : ∀ m' : EcsClient, m'.heap = (EcsHeap.ecsCurlHandler sdk call
        ⟨e.ecsGetCredentialEndpoint, e.ecsGetCredentialResource, none, m.heap.objects⟩).2 →
        Keeps m m' := by
      intro m' hm'
      refine Keeps.curl (h := ⟨e.ecsGetCredentialEndpoint, e.ecsGetCredentialResource, none,
        m.heap.objects⟩) rfl (fun q hq => ?_) hm'
      cases hq
    simp only
    split_ifs
    · exact hcurl ⟨_, _, _⟩ rfl
    · dsimp only
      exact (hcurl ⟨_, _, _⟩ rfl).freed

theorem Inv.keeps (h : Inv sdk m) (a : EcsAct) : Keeps m (m.step sdk url a) := by
  cases a with
  | create uri token allocated call =>
    unfold EcsClient.step
    cases m.pCredentialProvider with
    | none => exact keeps_create uri token allocated call
    | some q => exact .refl m
  | get call =>
    show Keeps m (m.getEcsCredentials sdk call).2
    cases hq : m.pCredentialProvider with
    | none =>
      unfold EcsClient.getEcsCredentials
      rw [hq]
      exact .refl m
    | some q =>
      rw [getEcsCredentials_some h hq]
      exact .curl rfl (fun _ => id) rfl
  | free => exact (Keeps.refl m).freed

/-- Where there are credentials there is a provider. -/
theorem Inv.provider_of_cached (h : Inv sdk m) (hp : m.heap.pAwsCredentials = some p) :
    ∃ q, m.pCredentialProvider = some q := by
  rw [← Option.ne_none_iff_exists']
  intro hno
  rw [h.without hno] at hp
  cases hp

/-- The cached credentials stay cached in every call but those that are their end. -/
theorem step_cached (h : Inv sdk m) (hp : m.heap.pAwsCredentials = some p)
    (hc : m.heap.objects.read p = .credentials c) (a : EcsAct) :
    (m.step sdk url a).heap.pAwsCredentials = some p ↔ ¬ a.Ends sdk c := by
  obtain ⟨q, hq⟩ := h.provider_of_cached hp
  cases a with
  | create uri token allocated call =>
    unfold EcsClient.step
    simp only [hq]
    exact iff_of_true hp id
  | free =>
    have hfree : (m.step sdk url .free).heap.pAwsCredentials = none :=
      h.freeEcsCredentialProvider.without pCredentialProvider_free
    rw [hfree]
    exact iff_of_false (Option.some_ne_none p).symm fun hends => hends trivial
  | get call =>
    show (m.getEcsCredentials sdk call).2.heap.pAwsCredentials = some p ↔
      ¬ call.toEcsCall.Replaces sdk c
    have hlen := h.fits (hq ▸ Option.some_ne_none q)
    rw [getEcsCredentials_some h hq, ← EcsHeap.reachesCreation_iff hp hc hlen]
    rcases EcsHeap.ecsCurlHandler_cached sdk call m.heap with
      ⟨hno, hsame⟩ | ⟨hr, hnone | ⟨r, c', hle, hnew, -⟩⟩
    · exact iff_of_true (hsame.trans hp) hno
    · refine iff_of_false (fun hsome => ?_) fun hno => hno hr
      exact absurd (hnone.symm.trans hsome) (Option.some_ne_none p).symm
    · refine iff_of_false (fun hsome => ?_) fun hno => hno hr
      obtain rfl := Option.some.inj (hnew.symm.trans hsome)
      exact absurd (h.lt_next hp) (Nat.not_lt.mpr hle)

/-- What is not cached any more is not cached again. -/
theorem exec_lost (h : Inv sdk m) (hlt : p < m.heap.objects.next)
    (hp : m.heap.pAwsCredentials ≠ some p) (as : List EcsAct) :
    (Run.exec (step sdk url) m as).heap.pAwsCredentials ≠ some p := by
  induction as generalizing m with
  | nil => exact hp
  | cons a as ih =>
    have hkeeps : Keeps m (m.step sdk url a) := h.keeps a
    refine ih (h.step a) (Nat.lt_of_lt_of_le hlt hkeeps.next) fun hsome => ?_
    rcases hkeeps.cached p hsome with hsome | hle
    · exact hp hsome
    · exact absurd hlt (Nat.not_lt.mpr hle)

theorem exec_next (h : Inv sdk m) (hlt : p < m.heap.objects.next) (as : List EcsAct) :
    p < (Run.exec (step sdk url) m as).heap.objects.next := by
  induction as generalizing m with
  | nil => exact hlt
  | cons a as ih =>
    have hkeeps : Keeps m (m.step sdk url a) := h.keeps a
    exact ih (h.step a) (Nat.lt_of_lt_of_le hlt hkeeps.next)

theorem exec_read (h : Inv sdk m) (hlt : p < m.heap.objects.next) (as : List EcsAct) :
    (Run.exec (step sdk url) m as).heap.objects.read p = m.heap.objects.read p := by
  induction as generalizing m with
  | nil => rfl
  | cons a as ih =>
    have hkeeps : Keeps m (m.step sdk url a) := h.keeps a
    exact (ih (h.step a) (Nat.lt_of_lt_of_le hlt hkeeps.next)).trans (hkeeps.read p hlt)

/-- The run lemma: the credentials are cached up to the first call that is their end. -/
theorem exec_cached (h : Inv sdk m) (hp : m.heap.pAwsCredentials = some p)
    (hc : m.heap.objects.read p = .credentials c) (as : List EcsAct) :
    (Run.exec (step sdk url) m as).heap.pAwsCredentials = some p ↔ ∀ b ∈ as, ¬ b.Ends sdk c := by
  induction as generalizing m with
  | nil => exact iff_of_true hp fun b hb => absurd hb List.not_mem_nil
  | cons a as ih =>
    have hlt := h.lt_next hp
    have hkeeps : Keeps m (m.step sdk url a) := h.keeps a
    have hstep : (m.step sdk url a).heap.pAwsCredentials = some p ↔ ¬ a.Ends sdk c :=
      step_cached h hp hc a
    rw [Run.exec_cons, List.forall_mem_cons]
    by_cases hends : a.Ends sdk c
    · refine iff_of_false ?_ fun hall => hall.1 hends
      exact exec_lost (h.step a) (Nat.lt_of_lt_of_le hlt hkeeps.next)
        (fun hsome => hstep.mp hsome hends) as
    · rw [ih (h.step a) (hstep.mpr hends) ((hkeeps.read p hlt).trans hc)]
      exact (and_iff_right hends).symm

/-- What is handed out is what is cached after the call. -/
theorem cached_of_handedOut {a : EcsAct} (h : Inv sdk m) (hp : m.handedOut sdk a = some p) :
    (m.step sdk url a).heap.pAwsCredentials = some p := by
  cases a with
  | create uri token allocated call => cases hp
  | free => cases hp
  | get call =>
    have hp : (m.getEcsCredentials sdk call).1 = some p := hp
    show (m.getEcsCredentials sdk call).2.heap.pAwsCredentials = some p
    cases hq : m.pCredentialProvider with
    | none =>
      unfold EcsClient.getEcsCredentials at hp
      rw [hq] at hp
      cases hp
    | some q =>
      rw [getEcsCredentials_some h hq] at hp ⊢
      unfold EcsHeap.getEcsCredentials at hp
      simp only at hp
      split_ifs at hp
      exact hp

/-- What is cached is handed out up to the grace period before it expires. -/
theorem handedOut_of_fresh (h : Inv sdk m) (hp : m.heap.pAwsCredentials = some p)
    (hc : m.heap.objects.read p = .credentials c)
    (hfresh : call.currentTime + sdk.ecsCredentialFetchGracePeriod ≤ c.expiration) :
    m.handedOut sdk (.get call) = some p := by
  obtain ⟨q, hq⟩ := h.provider_of_cached hp
  have hstale : ¬ m.heap.provider.stale sdk call.currentTime = true := by
    rw [EcsHeap.stale_iff hp hc]
    exact Nat.not_lt.mpr hfresh
  have hcurl : m.heap.ecsCurlHandler sdk call = (.success, m.heap) := by
    unfold EcsHeap.ecsCurlHandler
    rw [if_pos (by simpa using hstale)]
  show (m.getEcsCredentials sdk call).1 = some p
  rw [getEcsCredentials_some h hq]
  unfold EcsHeap.getEcsCredentials
  rw [hcurl]
  exact hp

/-! ## The provider without its objects -/

/-- The provider of the caller, as the model without objects has it. -/
def toProvider (m : EcsClient) : Option EcsCredentialProvider :=
  m.pCredentialProvider.map fun _ => m.heap.provider

/-- The same caller in the model without objects. -/
def providerStep (sdk : EcsSdk) (url : UrlSdk) (provider : Option EcsCredentialProvider) :
    EcsAct → Option EcsCredentialProvider
  | .create uri token allocated call =>
    match provider with
    | some p => some p
    | none =>
      if allocated then
        (WebrtcApp.createEcsCredentialProviderWithTime sdk url uri token call.toEcsCall).map
          Prod.fst
      else none
  | .get call => provider.map fun p => (WebrtcApp.getEcsCredentials sdk call.toEcsCall p).2.provider
  | .free => none

theorem toProvider_free : m.freeEcsCredentialProvider.toProvider = none := by
  unfold toProvider
  rw [pCredentialProvider_free]
  rfl

theorem toProvider_create (h : Inv sdk m) (hno : m.pCredentialProvider = none)
    (uri token : List Char) (allocated : Bool) (call : EcsHeapCall) :
    (m.createEcsCredentialProviderWithTime sdk url uri token allocated call).2.toProvider =
      providerStep sdk url none (.create uri token allocated call) := by
  unfold createEcsCredentialProviderWithTime providerStep
  cases allocated with
  | false => rfl
  | true =>
    simp only [Bool.not_true, Bool.false_eq_true, if_false, if_true]
    unfold ecsEndpointOf WebrtcApp.createEcsCredentialProviderWithTime
    by_cases hlen : uri.length ≤ sdk.maxUriCharLen
    swap
    · rw [if_neg hlen, if_neg hlen]
      exact toProvider_free
    rw [if_pos hlen, if_pos hlen]
    cases splitEcsUri url uri with
    | none => exact toProvider_free
    | some e =>
      simp only
      by_cases htoken : token.length ≤ maxEcsTokenLen
      swap
      · rw [if_neg htoken, if_neg htoken]
        exact toProvider_free
      rw [if_pos htoken, if_pos htoken]
      have howned := h.objects
      unfold EcsHeap.Holds at howned
      rw [h.without hno] at howned
      rw [EcsHeap.createEcsCredentialProvider_eq howned]
      unfold EcsClient.memcalloc
      simp only
      split_ifs
      · rfl
      · exact toProvider_free

theorem toProvider_step (h : Inv sdk m) (a : EcsAct) :
    (m.step sdk url a).toProvider = providerStep sdk url m.toProvider a := by
  cases a with
  | create uri token allocated call =>
    unfold EcsClient.step toProvider
    cases hno : m.pCredentialProvider with
    | none => exact toProvider_create h hno uri token allocated call
    | some q =>
      simp only [hno]
      rfl
  | get call =>
    show (m.getEcsCredentials sdk call).2.toProvider = _
    cases hq : m.pCredentialProvider with
    | none =>
      have hnone : m.toProvider = none := by
        unfold toProvider
        rw [hq]
        rfl
      unfold EcsClient.getEcsCredentials
      rw [hq, hnone]
      rfl
    | some q =>
      have hprovider := (EcsHeap.getEcsCredentials_provider h.objects sdk call).2
      rw [getEcsCredentials_some h hq]
      unfold toProvider providerStep
      simp only [hq, Option.map_some]
      exact congrArg some hprovider
  | free => exact toProvider_free

/-- Without its objects a run of the caller is one of the plain provider. -/
theorem toProvider_exec (h : Inv sdk m) (as : List EcsAct) :
    (Run.exec (EcsClient.step sdk url) m as).toProvider =
      Run.exec (providerStep sdk url) m.toProvider as := by
  induction as generalizing m with
  | nil => rfl
  | cons a as ih => rw [Run.exec_cons, Run.exec_cons, ih (h.step a), toProvider_step h]

end EcsClient

/-- A pointer that a call hands out points to credentials whose contents never change.  They are
live exactly as long as no later call brings a complete response while they are due and the provider
is not freed; from then on they have been freed, once. -/
theorem credentials_handed_out (sdk : EcsSdk) (url : UrlSdk) {before : List EcsAct} {a : EcsAct}
    {p : Nat}
    (hp : (Run.exec (EcsClient.step sdk url) .start before).handedOut sdk a = some p)
    (after : List EcsAct) :
    let m := Run.exec (EcsClient.step sdk url) .start (before ++ a :: after)
    ∃ c, (Run.exec (EcsClient.step sdk url) .start (before ++ [a])).heap.objects.read p =
        .credentials c ∧ m.heap.objects.read p = .credentials c ∧
      (m.heap.objects.live p = true ↔ ∀ b ∈ after, ¬ b.Ends sdk c) ∧
      (m.heap.objects.frees p = 1 ↔ ∃ b ∈ after, b.Ends sdk c) := by
  have hbefore : EcsClient.Inv sdk (Run.exec (EcsClient.step sdk url) .start before) :=
    EcsClient.Inv.start.exec before
  have hcached : (EcsClient.step sdk url _ a).heap.pAwsCredentials = some p :=
    EcsClient.cached_of_handedOut hbefore hp
  have hnow : EcsClient.Inv sdk (EcsClient.step sdk url _ a) := hbefore.step a
  obtain ⟨c, hc⟩ := hnow.cached p hcached
  have hend : EcsClient.Inv sdk (Run.exec (EcsClient.step sdk url) _ after) := hnow.exec after
  have hlt := hnow.lt_next hcached
  have hread := @EcsClient.exec_read sdk url _ p hnow hlt after
  have hrun := @EcsClient.exec_cached sdk url _ p c hnow hcached hc after
  have hfrees := hend.frees_iff (EcsClient.exec_next hnow hlt after)
  rw [Run.exec_append, Run.exec_append, Run.exec_cons, Run.exec_cons, Run.exec_nil]
  refine ⟨c, hc, hread.trans hc, hend.live_iff.trans hrun, hfrees.trans ?_⟩
  rw [Ne, hrun]
  push Not
  rfl

/-- The provider of 2030 is created. -/
def created2030 : List EcsAct :=
  [.create "http://localhost:80/credentials".toList "T".toList true
    (EcsHeap.ecsHeapCallAt 1891728000 .success)]

/-- Half an hour later its first credentials are still handed out; six minutes after that they are
replaced, and a later call that cannot create the next ones leaves nothing cached. -/
def later2030 : List EcsAct :=
  [.get (EcsHeap.ecsHeapCallAt 1891730300 .success),
    .get (EcsHeap.ecsHeapCallAt 1891730400 .success),
    .get (EcsHeap.ecsHeapCallAt 1891732800 (.sdk 1))]

/-- The first credentials come after the request and the response. -/
theorem credentials_handed_out_2030 :
    (Run.exec (EcsClient.step sdk2030 urlSdk) .start created2030).handedOut sdk2030
        (.get (EcsHeap.ecsHeapCallAt 1891728010 .success)) = some 2 ∧
      let m := Run.exec (EcsClient.step sdk2030 urlSdk) .start
        (created2030 ++ .get (EcsHeap.ecsHeapCallAt 1891728010 .success) :: later2030)
      ∃ c, m.heap.objects.read 2 = .credentials c ∧
        (m.heap.objects.frees 2 = 1 ↔ ∃ b ∈ later2030, b.Ends sdk2030 c) := by
  have hp : (Run.exec (EcsClient.step sdk2030 urlSdk) .start created2030).handedOut sdk2030
      (.get (EcsHeap.ecsHeapCallAt 1891728010 .success)) = some 2 := by
    refine @EcsClient.handedOut_of_fresh sdk2030 _ _ 2 ⟨"A".toList, "S".toList, "T".toList,
      1891728000 * ecsHundredsOfNanosInASecond + 1 + 2400 * ecsHundredsOfNanosInASecond⟩
      (EcsClient.Inv.start.exec created2030) ?_ ?_ ?_
    · decide +kernel
    · decide +kernel
    · decide +kernel
  obtain ⟨c, -, hread, -, hfrees⟩ := credentials_handed_out sdk2030 urlSdk hp later2030
  exact ⟨hp, c, hread, hfrees⟩

/-- In every run nothing is used after it is freed and nothing is freed twice; what is live are the
provider of the caller and its credentials.  Where the caller has no provider, because it was freed
or could not be created, everything that was ever allocated has been freed. -/
theorem ecs_memory_released (sdk : EcsSdk) (url : UrlSdk) (as : List EcsAct) :
    let m := Run.exec (EcsClient.step sdk url) .start as
    (m.providers.misused = false ∧ m.heap.objects.misused = false) ∧
      (∀ p, m.providers.frees p ≤ 1 ∧ m.heap.objects.frees p ≤ 1) ∧
      (∀ p, (m.providers.live p = true ↔ m.pCredentialProvider = some p) ∧
        (m.heap.objects.live p = true ↔ m.heap.pAwsCredentials = some p)) ∧
      (m.pCredentialProvider = none → (∀ p < m.providers.next, m.providers.frees p = 1) ∧
        ∀ p < m.heap.objects.next, m.heap.objects.frees p = 1) := by
  intro m
  have h : EcsClient.Inv sdk m := EcsClient.Inv.start.exec as
  refine ⟨⟨h.providers.unmisused, h.objects.unmisused⟩, fun p => ?_, fun p => ?_, fun hno => ?_⟩
  · exact ⟨h.providers.once p, h.objects.once p⟩
  · exact ⟨(h.providers.live_iff p).trans Option.mem_toList, h.live_iff⟩
  · have hproviders := h.providers
    have hobjects := h.objects
    unfold EcsHeap.Holds at hobjects
    rw [hno] at hproviders
    rw [h.without hno] at hobjects
    exact ⟨fun p hp => hproviders.frees_eq_one hp, fun p hp => hobjects.frees_eq_one hp⟩

end WebrtcApp
