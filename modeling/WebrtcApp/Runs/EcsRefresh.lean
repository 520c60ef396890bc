import WebrtcApp.Lib.Arena
import WebrtcApp.Runs.CredentialFreshness

/-!
# The objects of a refresh

What a call of `getEcsCredentials` allocates and releases: the request, the data of the response and
the credentials.  `parseEcsResponse` frees the cached credentials before it creates the new ones, so
that a failure of `createAwsCredentials` leaves the provider without any.

    getEcsCredentials_provider    the objects behind the provider of App/EcsCredentials
    getEcsCredentials_owned       after every call only the credentials of the provider are left
    refresh_intact_iff            a refresh that fails before the creation leaves the cached ones
-/

namespace WebrtcApp

/-! ## The code -/

inductive EcsObject
  | credentials (c : AwsCredentials)
  | requestInfo
  | responseData
  deriving DecidableEq

instance : Inhabited EcsObject := ⟨.requestInfo⟩

/-- The provider, with its credentials as an object, and all objects. -/
structure EcsHeap where
  ecsGetCredentialEndpoint : List Char
  ecsGetCredentialResource : List Char
  pAwsCredentials : Option Nat
  objects : Arena EcsObject

/-- What one call of the provider finds; `allocatesResponse` says whether `serviceCallFn` leaves data
in the call info, in a failure as well. -/
structure EcsHeapCall extends EcsCall where
  allocatesResponse : Bool

/-- `parseEcsResponse` up to the credentials that it creates. -/
def ecsResponse (sdk : EcsSdk) (call : EcsCall) : Except EcsStatus AwsCredentials :=
  let info := call.callInfo
  if info.responseDataLen = 0 then .error .ecsAuthFailed
  else if info.tokenCount ≤ 1 then .error .invalidApiCallReturnJson
  else if (info.tokens 0).type ≠ .object then .error .invalidApiCallReturnJson
  else
    match ecsMembers sdk info.tokens info.tokenCount.toNat with
    | none => .error .invalidApiCallReturnJson
    | some found =>
      match found .accessKeyId, found .secretAccessKey, found .token with
      | some accessKeyId, some secretKey, some sessionToken =>
        match ecsExpiration sdk call found with
        | .error code => .error (.sdk code)
        | .ok expiration =>
          .ok ⟨accessKeyId.credential, secretKey.credential, sessionToken.credential, expiration⟩
      | _, _, _ => .error .ecsAuthRspFailed

namespace EcsHeap

/-- The credentials at a pointer of the provider. -/
def credentials (h : EcsHeap) : Option AwsCredentials :=
  match h.pAwsCredentials with
  | none => none
  | some p =>
    match h.objects.read p with
    | .credentials c => some c
    | _ => none

/-- The provider without its objects. -/
def provider (h : EcsHeap) : EcsCredentialProvider :=
  ⟨h.ecsGetCredentialEndpoint, h.ecsGetCredentialResource, h.credentials⟩

/-- `freeAwsCredentials`. -/
def freeAwsCredentials (h : EcsHeap) : EcsHeap :=
  match h.pAwsCredentials with
  | none => h
  | some p => { h with pAwsCredentials := none, objects := h.objects.free p }

def parseEcsResponse (sdk : EcsSdk) (call : EcsCall) (h : EcsHeap) : EcsStatus × EcsHeap :=
  match ecsResponse sdk call with
  | .error st => (st, h)
  | .ok c =>
    let h := h.freeAwsCredentials
    if call.createAwsCredentials = .success then
      (.success, { h with
        pAwsCredentials := some h.objects.next
        objects := h.objects.alloc (.credentials c) })
    else (call.createAwsCredentials, h)

def alloc (o : EcsObject) (h : EcsHeap) : EcsHeap := { h with objects := h.objects.alloc o }

def free (p : Nat) (h : EcsHeap) : EcsHeap := { h with objects := h.objects.free p }

/-- `serviceCallFn`, and the call info that it leaves: `none` without data. -/
def serviceCall (call : EcsHeapCall) (h : EcsHeap) : Option Nat × EcsHeap :=
  if call.allocatesResponse then (some h.objects.next, h.alloc .responseData) else (none, h)

/-- `releaseCallInfo`. -/
def releaseCallInfo (callInfo : Option Nat) (h : EcsHeap) : EcsHeap :=
  match callInfo with
  | none => h
  | some d => h.free d

/-- A request that cannot be created is not left behind by `createRequestInfo`. -/
def ecsCurlHandler (sdk : EcsSdk) (call : EcsHeapCall) (h : EcsHeap) : EcsStatus × EcsHeap :=
  if !h.provider.stale sdk call.currentTime then (.success, h)
  else if sdk.maxUriCharLen ≤ h.provider.formatLen then (.ecsAuthUriFailed, h)
  else if call.createRequestInfo ≠ .success then (call.createRequestInfo, h)
  else
    let pRequestInfo := h.objects.next
    let h := h.alloc .requestInfo
    if call.setRequestHeader ≠ .success then (call.setRequestHeader, h.free pRequestInfo)
    else
      let (callInfo, h) := h.serviceCall call
      let (st, h) :=
        if call.serviceCall ≠ .success then (call.serviceCall, h)
        else h.parseEcsResponse sdk call.toEcsCall
      (st, (h.free pRequestInfo).releaseCallInfo callInfo)

/-- The credentials that the caller gets, the status, and the heap. -/
def getEcsCredentials (sdk : EcsSdk) (call : EcsHeapCall) (h : EcsHeap) :
    Option Nat × EcsStatus × EcsHeap :=
  let r := h.ecsCurlHandler sdk call
  (if r.1 = .success then r.2.pAwsCredentials else none, r)

end EcsHeap

/-! ## The specification -/

/-- After a failure the cached credentials are there, and nothing that the call allocated. -/
def EcsHeap.Intact (h : EcsHeap) (p : Nat) (r : Option Nat × EcsStatus × EcsHeap) : Prop :=
  r.2.1 ≠ .success →
    (r.2.2.pAwsCredentials = some p ∧ r.2.2.objects.frees p = 0 ∧
      r.2.2.objects.read p = h.objects.read p) ∧
    ∀ q, h.objects.next ≤ q → q < r.2.2.objects.next → r.2.2.objects.frees q = 1

/-- The refresh comes to the creation of the new credentials: they are due, the request can be made,
and the response to it is complete. -/
def EcsHeap.ReachesCreation (sdk : EcsSdk) (call : EcsCall) (h : EcsHeap) : Prop :=
  h.provider.stale sdk call.currentTime = true ∧ h.provider.formatLen < sdk.maxUriCharLen ∧
    call.RequestFormed ∧ call.serviceCall = .success ∧ ∃ c, ecsResponse sdk call = .ok c

namespace EcsHeap

variable {sdk : EcsSdk} {call : EcsHeapCall} {h h' h'' : EcsHeap} {p : Nat} {others : List Nat}

/-! ## What is owned -/

/-- The live objects are the credentials of the provider and `others`. -/
def Holds (others : List Nat) (h : EcsHeap) : Prop :=
  h.objects.Owned (h.pAwsCredentials.toList ++ others)

theorem Holds.perm {others' : List Nat} (hh : Holds others h) (hp : others.Perm others') :
    Holds others' h :=
  Arena.Owned.perm hh (hp.append_left _)

theorem Holds.alloc (hh : Holds others h) (o : EcsObject) :
    Holds (h.objects.next :: others) (h.alloc o) :=
  (Arena.Owned.alloc hh o).perm List.perm_middle.symm

theorem Holds.free (hh : Holds (p :: others) h) : Holds others (h.free p) :=
  (Arena.Owned.perm hh List.perm_middle).free

theorem Holds.freeAwsCredentials (hh : Holds others h) :
    Holds others h.freeAwsCredentials ∧ h.freeAwsCredentials.pAwsCredentials = none := by
  unfold EcsHeap.freeAwsCredentials
  unfold Holds at hh
  cases hp : h.pAwsCredentials with
  | none => exact ⟨hh, hp⟩
  | some p =>
    rw [hp] at hh
    exact ⟨Arena.Owned.free hh, rfl⟩

theorem Holds.parseEcsResponse (hh : Holds others h) (call : EcsCall) :
    Holds others (h.parseEcsResponse sdk call).2 := by
  unfold EcsHeap.parseEcsResponse
  split
  · exact hh
  · next c _ =>
    obtain ⟨hfreed, hnone⟩ := hh.freeAwsCredentials
    simp only
    split_ifs
    · -- the new credentials take the place of the old ones
      unfold Holds at hfreed
      rw [hnone] at hfreed
      exact Arena.Owned.alloc hfreed _
    · exact hfreed

theorem Holds.serviceCall (hh : Holds others h) (call : EcsHeapCall) :
    Holds ((h.serviceCall call).1.toList ++ others) (h.serviceCall call).2 := by
  unfold EcsHeap.serviceCall
  split_ifs
  · exact hh.alloc .responseData
  · exact hh

theorem Holds.releaseCallInfo {callInfo : Option Nat}
    (hh : Holds (callInfo.toList ++ others) h) : Holds others (h.releaseCallInfo callInfo) := by
  unfold EcsHeap.releaseCallInfo
  cases callInfo with
  | none => exact hh
  | some d => exact hh.free

/-- The request and the data of the response do not outlive the call. -/
theorem Holds.ecsCurlHandler (hh : Holds others h) (call : EcsHeapCall) :
    Holds others (h.ecsCurlHandler sdk call).2 := by
  have hrequest := hh.alloc .requestInfo
  unfold EcsHeap.ecsCurlHandler
  simp only
  split_ifs
  · exact hh
  · exact hh
  · exact hh
  · exact hrequest.free
  · have hcall := (hrequest.serviceCall call).perm List.perm_middle
    exact hcall.free.releaseCallInfo
  · have hcall := (hrequest.serviceCall call).perm List.perm_middle
    exact (hcall.parseEcsResponse call.toEcsCall).free.releaseCallInfo

/-- After every call only the credentials of the provider are left. -/
theorem getEcsCredentials_owned (hh : Holds others h) (call : EcsHeapCall) :
    Holds others (h.getEcsCredentials sdk call).2.2 :=
  hh.ecsCurlHandler call

/-! ## What stays -/

/-- Nothing that was there is written. -/
structure Extends (h h' : EcsHeap) : Prop where
  endpoint : h'.ecsGetCredentialEndpoint = h.ecsGetCredentialEndpoint
  resource : h'.ecsGetCredentialResource = h.ecsGetCredentialResource
  next : h.objects.next ≤ h'.objects.next
  read : ∀ q < h.objects.next, h'.objects.read q = h.objects.read q

theorem Extends.refl (h : EcsHeap) : Extends h h := ⟨rfl, rfl, Nat.le_refl _, fun _ _ => rfl⟩

theorem Extends.trans (h₁ : Extends h h') (h₂ : Extends h' h'') : Extends h h'' where
  endpoint := h₂.endpoint.trans h₁.endpoint
  resource := h₂.resource.trans h₁.resource
  next := Nat.le_trans h₁.next h₂.next
  read q hq := (h₂.read q (Nat.lt_of_lt_of_le hq h₁.next)).trans (h₁.read q hq)

theorem extends_alloc (o : EcsObject) : Extends h (h.alloc o) where
  endpoint := rfl
  resource := rfl
  next := by
    unfold EcsHeap.alloc
    rw [Arena.next_alloc]
    exact Nat.le_succ _
  read _ hq := Arena.read_alloc_of_lt _ _ hq

theorem extends_free (p : Nat) : Extends h (h.free p) :=
  ⟨rfl, rfl, (Arena.next_free ..).ge, fun _ _ => Arena.read_free ..⟩

theorem extends_freeAwsCredentials : Extends h h.freeAwsCredentials := by
  unfold EcsHeap.freeAwsCredentials
  cases h.pAwsCredentials with
  | none => exact .refl h
  | some p => exact ⟨rfl, rfl, (Arena.next_free ..).ge, fun _ _ => Arena.read_free ..⟩

theorem extends_parseEcsResponse (call : EcsCall) : Extends h (h.parseEcsResponse sdk call).2 := by
  unfold EcsHeap.parseEcsResponse
  split
  · exact .refl h
  · next c _ =>
    simp only
    split_ifs
    · have hset := extends_freeAwsCredentials.trans
        (extends_alloc (h := h.freeAwsCredentials) (.credentials c))
      exact ⟨hset.endpoint, hset.resource, hset.next, hset.read⟩
    · exact extends_freeAwsCredentials

theorem extends_serviceCall : Extends h (h.serviceCall call).2 := by
  unfold EcsHeap.serviceCall
  split_ifs
  · exact extends_alloc _
  · exact .refl h

theorem extends_releaseCallInfo {callInfo : Option Nat} :
    Extends h (h.releaseCallInfo callInfo) := by
  unfold EcsHeap.releaseCallInfo
  cases callInfo with
  | none => exact .refl h
  | some d => exact extends_free d

/-- The heap in which the response is parsed. -/
def requested (call : EcsHeapCall) (h : EcsHeap) : EcsHeap :=
  ((h.alloc .requestInfo).serviceCall call).2

/-- The request and the call info are released. -/
def cleanUp (call : EcsHeapCall) (h₀ h : EcsHeap) : EcsHeap :=
  (h.free h₀.objects.next).releaseCallInfo ((h₀.alloc .requestInfo).serviceCall call).1

theorem extends_requested : Extends h (h.requested call) :=
  (extends_alloc _).trans extends_serviceCall

theorem extends_cleanUp : Extends h' (cleanUp call h h') :=
  (extends_free _).trans extends_releaseCallInfo

theorem pAwsCredentials_requested : (h.requested call).pAwsCredentials = h.pAwsCredentials := by
  unfold requested EcsHeap.serviceCall
  split_ifs <;> rfl

theorem pAwsCredentials_cleanUp : (cleanUp call h h').pAwsCredentials = h'.pAwsCredentials := by
  unfold cleanUp EcsHeap.releaseCallInfo
  split <;> rfl

/-! ## One call -/

theorem ecsCurlHandler_requested (hstale : h.provider.stale sdk call.currentTime = true)
    (hlen : h.provider.formatLen < sdk.maxUriCharLen) (hform : call.RequestFormed) :
    h.ecsCurlHandler sdk call =
      if call.serviceCall ≠ .success then (call.serviceCall, cleanUp call h (h.requested call))
      else
        (((h.requested call).parseEcsResponse sdk call.toEcsCall).1,
          cleanUp call h ((h.requested call).parseEcsResponse sdk call.toEcsCall).2) := by
  unfold EcsHeap.ecsCurlHandler cleanUp requested
  rw [hstale]
  simp only [Bool.not_true, Bool.false_eq_true, if_false, if_neg (Nat.not_le.mpr hlen), hform.1,
    hform.2, ne_eq, not_true_eq_false]
  split_ifs <;> rfl

/-- A call that does not come to the creation leaves the pointer as it is. -/
theorem pAwsCredentials_of_not_reached (hno : ¬ h.ReachesCreation sdk call.toEcsCall) :
    (h.ecsCurlHandler sdk call).2.pAwsCredentials = h.pAwsCredentials := by
  by_cases hbefore : h.provider.stale sdk call.currentTime = true ∧
      h.provider.formatLen < sdk.maxUriCharLen ∧ call.RequestFormed
  · obtain ⟨hstale, hlen, hform⟩ := hbefore
    rw [ecsCurlHandler_requested hstale hlen hform]
    split_ifs with hcall
    · rw [pAwsCredentials_cleanUp, pAwsCredentials_requested]
    · rw [pAwsCredentials_cleanUp]
      unfold EcsHeap.parseEcsResponse
      cases hresponse : ecsResponse sdk call.toEcsCall with
      | error st => exact pAwsCredentials_requested
      | ok c => exact absurd ⟨hstale, hlen, hform, not_not.mp hcall, c, hresponse⟩ hno
  · have hnone : ¬ (!h.provider.stale sdk call.currentTime) = true →
        ¬ sdk.maxUriCharLen ≤ h.provider.formatLen → ¬ call.createRequestInfo ≠ .success →
        ¬ call.setRequestHeader ≠ .success → False := by
      intro hstale hlen hreq hhead
      refine hbefore ⟨?_, Nat.lt_of_not_le hlen, not_not.mp hreq, not_not.mp hhead⟩
      simpa using hstale
    unfold EcsHeap.ecsCurlHandler
    split_ifs with hstale hlen hreq hhead
    · rfl
    · rfl
    · rfl
    · rfl
    · exact (hnone hstale hlen hreq hhead).elim
    · exact (hnone hstale hlen hreq hhead).elim

/-- A call that comes to the creation ends as it does. -/
theorem ecsCurlHandler_reached (hr : h.ReachesCreation sdk call.toEcsCall) :
    (h.ecsCurlHandler sdk call).1 = call.createAwsCredentials ∧
      (call.createAwsCredentials ≠ .success →
        (h.ecsCurlHandler sdk call).2.pAwsCredentials = none) := by
  obtain ⟨hstale, hlen, hform, hcall, c, hresponse⟩ := hr
  rw [ecsCurlHandler_requested hstale hlen hform, if_neg (not_not.mpr hcall)]
  simp only [pAwsCredentials_cleanUp]
  unfold EcsHeap.parseEcsResponse
  rw [hresponse]
  simp only
  split_ifs with hcreate
  · exact ⟨hcreate.symm, fun hne => absurd hcreate hne⟩
  · refine ⟨rfl, fun _ => ?_⟩
    unfold EcsHeap.freeAwsCredentials
    cases hp : h.requested call |>.pAwsCredentials with
    | none => exact hp
    | some p => rfl

theorem extends_ecsCurlHandler : Extends h (h.ecsCurlHandler sdk call).2 := by
  unfold EcsHeap.ecsCurlHandler
  simp only
  split_ifs
  · exact .refl h
  · exact .refl h
  · exact .refl h
  · exact (extends_alloc _).trans (extends_free _)
  · exact extends_requested.trans extends_cleanUp
  · exact (extends_requested.trans (extends_parseEcsResponse _)).trans extends_cleanUp

/-- The cached credentials survive a refresh that fails exactly if the failure is not that of the
creation. -/
theorem refresh_intact_iff (hh : Holds others h) (hp : h.pAwsCredentials = some p) (sdk : EcsSdk)
    (call : EcsHeapCall) : Intact h p (h.getEcsCredentials sdk call) ↔
      (h.ReachesCreation sdk call.toEcsCall → call.createAwsCredentials = .success) := by
  have hafter : Holds others (h.ecsCurlHandler sdk call).2 := hh.ecsCurlHandler call
  have hkept : Extends h (h.ecsCurlHandler sdk call).2 := extends_ecsCurlHandler
  have hmem : p ∈ h.pAwsCredentials.toList ++ others := by
    rw [hp]
    exact List.mem_cons_self
  unfold Intact EcsHeap.getEcsCredentials
  simp only
  constructor
  · intro h' hreached
    by_contra hcreate
    obtain ⟨hst, hnone⟩ := ecsCurlHandler_reached hreached
    have hsome := (h' (hst ▸ hcreate)).1.1
    rw [hnone hcreate] at hsome
    cases hsome
  · intro hcond hfail
    have hnot : ¬ h.ReachesCreation sdk call.toEcsCall := fun hreached =>
      hfail ((ecsCurlHandler_reached hreached).1.trans (hcond hreached))
    have hpointer : (h.ecsCurlHandler sdk call).2.pAwsCredentials = some p :=
      (pAwsCredentials_of_not_reached hnot).trans hp
    unfold Holds at hafter
    rw [hpointer, ← hp] at hafter
    refine ⟨⟨hpointer, hafter.frees_eq_zero hmem, hkept.read p (Arena.Owned.lt_next hh hmem)⟩, ?_⟩
    intro q hnew hq
    refine hafter.frees_of_not_mem hq fun hq' => ?_
    exact absurd (Arena.Owned.lt_next hh hq') (Nat.not_lt.mpr hnew)

/-! ## One provider -/

/-- The provider of 2030, with its credentials as the only object. -/
def provider2030 : EcsHeap where
  ecsGetCredentialEndpoint := "http://localhost".toList
  ecsGetCredentialResource := "credentials".toList
  pAwsCredentials := some 0
  objects := Arena.empty.alloc (.credentials ⟨"A".toList, "S".toList, "T".toList,
    1891730400 * ecsHundredsOfNanosInASecond + 1⟩)

theorem provider2030_holds : Holds [] provider2030 :=
  Arena.Owned.empty.alloc _

/-- A call at second `t` whose response is complete, and what creating the credentials returns. -/
def ecsHeapCallAt (t : Nat) (createAwsCredentials : EcsStatus) : EcsHeapCall where
  toEcsCall := { ecsCallAt t with createAwsCredentials := createAwsCredentials }
  allocatesResponse := true

/-- A failure of the service call comes before the creation. -/
theorem refresh_intact_2030 : Intact provider2030 0 (provider2030.getEcsCredentials sdk2030
    { ecsHeapCallAt 1891730400 (.sdk 1) with serviceCall := .sdk 2 }) := by
  refine (refresh_intact_iff provider2030_holds rfl sdk2030 _).mpr fun hr => ?_
  exact absurd hr.2.2.2.1 (by decide)

/-- The creation fails when the cached credentials are freed already. -/
theorem refresh_loses_credentials :
    let r := provider2030.getEcsCredentials sdk2030 (ecsHeapCallAt 1891730400 (.sdk 1))
    (r.2.1 = .sdk 1 ∧ r.2.2.pAwsCredentials = none ∧ r.2.2.objects.frees 0 = 1) ∧
      ¬ Intact provider2030 0 r := by
  have hlost : let r := provider2030.getEcsCredentials sdk2030 (ecsHeapCallAt 1891730400 (.sdk 1))
      r.2.1 = .sdk 1 ∧ r.2.2.pAwsCredentials = none ∧ r.2.2.objects.frees 0 = 1 := by
    decide +kernel
  refine ⟨hlost, fun hintact => ?_⟩
  obtain ⟨⟨hsome, -, -⟩, -⟩ := hintact (by rw [hlost.1]; decide)
  rw [hlost.2.1] at hsome
  cases hsome

/-! ## The provider without its objects -/

theorem Holds.lt_next (hh : Holds others h) (hp : h.pAwsCredentials = some p) :
    p < h.objects.next := by
  apply Arena.Owned.lt_next hh
  rw [hp]
  exact List.mem_cons_self

/-- The same credentials in a heap that has grown. -/
theorem Extends.provider_eq (he : Extends h h') (hp : h'.pAwsCredentials = h.pAwsCredentials)
    (hh : Holds others h) : h'.provider = h.provider := by
  have hcredentials : h'.credentials = h.credentials := by
    unfold credentials
    rw [hp]
    cases hq : h.pAwsCredentials with
    | none => rfl
    | some q =>
      simp only
      rw [he.read q (hh.lt_next hq)]
  unfold provider
  rw [he.endpoint, he.resource, hcredentials]

/-- The response is parsed up to the creation, and then the credentials are replaced. -/
theorem parseEcsResponse_eq (sdk : EcsSdk) (call : EcsCall) (p : EcsCredentialProvider) :
    WebrtcApp.parseEcsResponse sdk call p =
      match ecsResponse sdk call with
      | .error st => (st, p)
      | .ok c =>
        if call.createAwsCredentials = .success then
          (.success, { p with pAwsCredentials := some c })
        else (call.createAwsCredentials, { p with pAwsCredentials := none }) := by
  unfold WebrtcApp.parseEcsResponse ecsResponse
  simp only
  by_cases hlen : call.callInfo.responseDataLen = 0
  · rw [if_pos hlen, if_pos hlen]
  · rw [if_neg hlen, if_neg hlen]
    by_cases hcount : call.callInfo.tokenCount ≤ 1
    · rw [if_pos hcount, if_pos hcount]
    · rw [if_neg hcount, if_neg hcount]
      by_cases hobject : (call.callInfo.tokens 0).type ≠ .object
      · rw [if_pos hobject, if_pos hobject]
      · rw [if_neg hobject, if_neg hobject]
        cases ecsMembers sdk call.callInfo.tokens call.callInfo.tokenCount.toNat with
        | none => rfl
        | some found =>
          simp only
          cases found .accessKeyId with
          | none => rfl
          | some accessKeyId =>
            cases found .secretAccessKey with
            | none => rfl
            | some secretKey =>
              cases found .token with
              | none => rfl
              | some sessionToken =>
                simp only
                cases ecsExpiration sdk call found <;> rfl

theorem parseEcsResponse_provider (h : EcsHeap) (call : EcsCall) :
    ((h.parseEcsResponse sdk call).1, (h.parseEcsResponse sdk call).2.provider) =
      WebrtcApp.parseEcsResponse sdk call h.provider := by
  rw [parseEcsResponse_eq]
  unfold EcsHeap.parseEcsResponse
  split
  · rfl
  · next c _ =>
    have hfreed : h.freeAwsCredentials.provider = { h.provider with pAwsCredentials := none } := by
      unfold EcsHeap.freeAwsCredentials
      cases hp : h.pAwsCredentials with
      | none => simp only [provider, credentials, hp]
      | some p => rfl
    simp only
    split_ifs
    · have hnew : ∀ h' : EcsHeap, ({ h' with
          pAwsCredentials := some h'.objects.next
          objects := h'.objects.alloc (.credentials c) } : EcsHeap).provider =
            { h'.provider with pAwsCredentials := some c } := by
        intro h'
        unfold provider credentials
        simp only [Arena.read_alloc_next]
      rw [hnew, hfreed]
    · rw [hfreed]

/-- The status of a call, and the provider after it, are those of the model without objects. -/
theorem getEcsCredentials_provider (hh : Holds others h) (sdk : EcsSdk) (call : EcsHeapCall) :
    let r := h.getEcsCredentials sdk call
    let q := WebrtcApp.getEcsCredentials sdk call.toEcsCall h.provider
    r.2.1 = q.2.status ∧ r.2.2.provider = q.2.provider := by
  unfold EcsHeap.getEcsCredentials WebrtcApp.getEcsCredentials
  simp only
  by_cases hbefore : h.provider.stale sdk call.currentTime = true ∧
      h.provider.formatLen < sdk.maxUriCharLen ∧ call.RequestFormed
  · obtain ⟨hstale, hlen, hform⟩ := hbefore
    have hrequested : Holds _ (h.requested call) := (hh.alloc .requestInfo).serviceCall call
    have hsame : (h.requested call).provider = h.provider :=
      extends_requested.provider_eq pAwsCredentials_requested hh
    have hclean : ∀ {h' : EcsHeap} {others'}, Holds others' h' →
        (cleanUp call h h').provider = h'.provider :=
      fun hh' => extends_cleanUp.provider_eq pAwsCredentials_cleanUp hh'
    rw [ecsCurlHandler_requested hstale hlen hform]
    unfold WebrtcApp.ecsCurlHandler
    simp only [hstale, Bool.not_true, Bool.false_eq_true, if_false, if_neg (Nat.not_le.mpr hlen),
      hform.1, hform.2, ne_eq, not_true_eq_false]
    split_ifs with hcall
    · have hparse := @parseEcsResponse_provider sdk (h.requested call) call.toEcsCall
      rw [hsame] at hparse
      rw [← hparse]
      exact ⟨rfl, hclean (hrequested.parseEcsResponse call.toEcsCall)⟩
    · exact ⟨rfl, (hclean hrequested).trans hsame⟩
  · -- nothing of the request is left, or it was never there
    have hfailed : ((h.alloc .requestInfo).free h.objects.next).provider = h.provider :=
      ((extends_alloc _).trans (extends_free _)).provider_eq rfl hh
    unfold EcsHeap.ecsCurlHandler WebrtcApp.ecsCurlHandler
    by_cases hstale : h.provider.stale sdk call.currentTime = true
    · by_cases hlen : sdk.maxUriCharLen ≤ h.provider.formatLen
      · simp only [hstale, hlen, if_true]
        exact ⟨rfl, rfl⟩
      by_cases hreq : call.createRequestInfo = .success
      · have hhead : call.setRequestHeader ≠ .success := fun hhead =>
          hbefore ⟨hstale, Nat.lt_of_not_le hlen, hreq, hhead⟩
        simp only [hstale, hlen, hreq, hhead, Bool.not_true, Bool.false_eq_true, if_false, ne_eq,
          not_true_eq_false, not_false_eq_true, if_true]
        exact ⟨trivial, hfailed⟩
      · simp only [hstale, hlen, hreq, Bool.not_true, Bool.false_eq_true, if_false, ne_eq,
          not_false_eq_true, if_true]
        exact ⟨trivial, trivial⟩
    · simp only [Bool.not_eq_true] at hstale
      simp only [hstale, Bool.not_false, if_true]
      exact ⟨trivial, trivial⟩

end EcsHeap

end WebrtcApp
