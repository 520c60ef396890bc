import WebrtcApp.App.EcsCredentials
import WebrtcApp.Lib.Run

/-!
# Fresh credentials

Runs of `getEcsCredentials`, from a provider that was created.  The cached credentials expire
no later than `MAX_ENFORCED_TOKEN_EXPIRATION_DURATION` after the clock at which they were
fetched (`EcsState.Ok`), so every call that succeeds returns credentials that have not expired,
and no call returns credentials from the cache for longer than that (`ecs_credentials_fresh`).
-/

namespace WebrtcApp

/-- What the provider relies on: there is a rotation period, and a timestamp is converted only
when it is in the future. -/
structure EcsSdk.Documented (sdk : EcsSdk) : Prop where
  rotates : 0 < sdk.maxEnforcedTokenExpirationDuration
  future : ∀ s now expiration, sdk.convertTimestampToEpoch s now = .ok expiration →
    ∃ seconds, now < seconds ∧ expiration = seconds * ecsHundredsOfNanosInASecond

/-- The request to the token server can be made. -/
def EcsCall.RequestFormed (call : EcsCall) : Prop :=
  call.createRequestInfo = .success ∧ call.setRequestHeader = .success

section
variable {sdk : EcsSdk} {call : EcsCall} {p : EcsCredentialProvider} {found : EcsMembers}

/-! ## One call -/

/-- The clock is cut to seconds, and still the expiration is later than it. -/
theorem ecsExpiration_ok (h : sdk.Documented) {expiration : Nat}
    (he : ecsExpiration sdk call found = .ok expiration) :
    call.responseTime < expiration ∧
      expiration ≤ call.responseTime + sdk.maxEnforcedTokenExpirationDuration := by
  unfold ecsExpiration at he
  cases hc : sdk.convertTimestampToEpoch
      (((found .expiration).map JsmnToken.text).getD call.uninitialized)
      (call.responseTime / ecsHundredsOfNanosInASecond) with
  | error code =>
    rw [hc] at he
    cases he
  | ok t =>
    rw [hc] at he
    obtain rfl := Except.ok.inj he
    obtain ⟨seconds, hlt, rfl⟩ := h.future _ _ _ hc
    have hlater : call.responseTime < seconds * ecsHundredsOfNanosInASecond :=
      (Nat.div_lt_iff_lt_mul (by decide)).mp hlt
    have hpos := h.rotates
    exact ⟨lt_min hlater (by omega), min_le_right _ _⟩

/-- A response is taken over with an expiration in the rotation period, or no new credentials
are there. -/
theorem parseEcsResponse_cases {st : EcsStatus} {q : EcsCredentialProvider}
    (h : (st, q) = parseEcsResponse sdk call p) :
    (st = .success ∧ ∃ c found, q = { p with pAwsCredentials := some c } ∧
        ecsExpiration sdk call found = .ok c.expiration) ∨
      (st ≠ .success ∧ (q = p ∨ q = { p with pAwsCredentials := none })) := by
  have hfail : ∀ {st' : EcsStatus}, st' ≠ .success → (st, q) = (st', p) →
      st ≠ .success ∧ (q = p ∨ q = { p with pAwsCredentials := none }) := by
    rintro st' hst' e
    obtain ⟨rfl, rfl⟩ := Prod.mk.inj e
    exact ⟨hst', Or.inl rfl⟩
  unfold parseEcsResponse at h
  simp only at h
  split at h
  · exact Or.inr (hfail EcsStatus.noConfusion h)
  split at h
  · exact Or.inr (hfail EcsStatus.noConfusion h)
  split at h
  · exact Or.inr (hfail EcsStatus.noConfusion h)
  split at h
  · exact Or.inr (hfail EcsStatus.noConfusion h)
  next found _ =>
  split at h
  swap
  · exact Or.inr (hfail EcsStatus.noConfusion h)
  next accessKeyId secretKey sessionToken _ _ _ =>
  split at h
  · exact Or.inr (hfail EcsStatus.noConfusion h)
  next expiration he =>
  split at h
  · obtain ⟨rfl, rfl⟩ := Prod.mk.inj h
    exact Or.inl ⟨rfl, ⟨accessKeyId.credential, secretKey.credential, sessionToken.credential,
      expiration⟩, found, rfl, he⟩
  · next hst =>
    obtain ⟨rfl, rfl⟩ := Prod.mk.inj h
    exact Or.inr ⟨hst, Or.inr rfl⟩

/-- What one call can do: hand out what is cached, fail with the cache as it was, or ask the
token server. -/
theorem ecsCurlHandler_cases :
    let r := ecsCurlHandler sdk call p
    (p.stale sdk call.currentTime = false ∧ r = ⟨.success, p, false⟩) ∨
      (p.stale sdk call.currentTime = true ∧
        (sdk.maxUriCharLen ≤ p.formatLen ∨ ¬ call.RequestFormed) ∧
        r.status ≠ .success ∧ r.provider = p ∧ r.contacted = false) ∨
      (p.stale sdk call.currentTime = true ∧ call.RequestFormed ∧ r.contacted = true ∧
        ((r.status ≠ .success ∧ r.provider = p) ∨
          (r.status, r.provider) = parseEcsResponse sdk call p)) := by
  unfold ecsCurlHandler EcsCall.RequestFormed
  cases hs : p.stale sdk call.currentTime with
  | false => exact Or.inl ⟨rfl, rfl⟩
  | true =>
    refine Or.inr ?_
    simp only [Bool.not_true, Bool.false_eq_true, if_false, true_and]
    split
    · next hlen => exact Or.inl ⟨Or.inl hlen, EcsStatus.noConfusion, rfl, rfl⟩
    split
    · next hreq => exact Or.inl ⟨Or.inr fun h => hreq h.1, hreq, rfl, rfl⟩
    next hreq =>
    split
    · next hhead => exact Or.inl ⟨Or.inr fun h => hhead h.2, hhead, rfl, rfl⟩
    next hhead =>
    refine Or.inr ⟨⟨not_not.mp hreq, not_not.mp hhead⟩, ?_⟩
    split
    · next hcall => exact ⟨rfl, Or.inl ⟨hcall, rfl⟩⟩
    · exact ⟨rfl, Or.inr rfl⟩

theorem stale_eq_false : p.stale sdk call.currentTime = false ↔ ∃ c, p.pAwsCredentials = some c ∧
    call.currentTime + sdk.ecsCredentialFetchGracePeriod ≤ c.expiration := by
  unfold EcsCredentialProvider.stale
  cases p.pAwsCredentials with
  | none => simp
  | some c => simp

theorem stale_eq_true : p.stale sdk call.currentTime = true ↔ p.pAwsCredentials = none ∨
    ∃ c, p.pAwsCredentials = some c ∧
      call.currentTime + sdk.ecsCredentialFetchGracePeriod > c.expiration := by
  unfold EcsCredentialProvider.stale
  cases p.pAwsCredentials with
  | none => simp
  | some c => simp

end

/-! ## Runs -/

/-- The provider, with the clock at which its credentials were fetched. -/
structure EcsState where
  provider : EcsCredentialProvider
  fetched : Nat

namespace EcsState

variable (sdk : EcsSdk)

def step (s : EcsState) (call : EcsCall) : EcsState :=
  let r := (getEcsCredentials sdk call s.provider).2
  ⟨r.provider, if r.contacted && r.status == .success then call.responseTime else s.fetched⟩

/-- What every provider keeps: its URL fits, and what it caches expires in the rotation period. -/
structure Ok (s : EcsState) : Prop where
  fits : s.provider.formatLen < sdk.maxUriCharLen
  expires : ∀ c, s.provider.pAwsCredentials = some c →
    c.expiration ≤ s.fetched + sdk.maxEnforcedTokenExpirationDuration

end EcsState

/-- What one call has to do: `fresh` is about the last clock that a successful call reads. -/
structure EcsCallOk (sdk : EcsSdk) (s : EcsState) (call : EcsCall) : Prop where
  fresh : let r := getEcsCredentials sdk call s.provider
    r.2.status = .success → ∃ c, r.1 = some c ∧
      (if r.2.contacted then call.responseTime else call.currentTime) < c.expiration
  contacts : (getEcsCredentials sdk call s.provider).2.contacted = true ↔
    (s.provider.pAwsCredentials = none ∨ ∃ c, s.provider.pAwsCredentials = some c ∧
      call.currentTime + sdk.ecsCredentialFetchGracePeriod > c.expiration) ∧ call.RequestFormed
  cached : let r := getEcsCredentials sdk call s.provider
    ∀ c, r.1 = some c → r.2.contacted = false →
      call.currentTime + sdk.ecsCredentialFetchGracePeriod ≤
        s.fetched + sdk.maxEnforcedTokenExpirationDuration

namespace EcsState

variable {sdk : EcsSdk} {s : EcsState}

theorem Ok.step (h : Ok sdk s) (hdoc : sdk.Documented) (call : EcsCall) : Ok sdk (s.step sdk call) := by
  unfold EcsState.step getEcsCredentials
  simp only
  rcases @ecsCurlHandler_cases sdk call s.provider with
    ⟨-, hr⟩ | ⟨-, -, -, hp, hc⟩ | ⟨-, -, hc, ⟨hst, hp⟩ | hparse⟩
  · rw [hr]
    exact h
  · rw [hp, hc]
    exact h
  · rw [hp, beq_false_of_ne hst, Bool.and_false]
    exact h
  · rw [hc]
    rcases parseEcsResponse_cases hparse with ⟨hok, c, found, hc', he⟩ | ⟨hfail, hp' | hp'⟩
    · rw [hc', hok]
      refine ⟨h.fits, fun c' hc'' => ?_⟩
      obtain rfl := Option.some.inj hc''
      exact (ecsExpiration_ok hdoc he).2
    · rw [hp', beq_false_of_ne hfail, Bool.and_false]
      exact h
    · rw [hp', beq_false_of_ne hfail, Bool.and_false]
      exact ⟨h.fits, fun c hc' => by cases hc'⟩

theorem Ok.callOk (h : Ok sdk s) (hdoc : sdk.Documented) (call : EcsCall) : EcsCallOk sdk s call := by
  have hfits : ¬ sdk.maxUriCharLen ≤ s.provider.formatLen := Nat.not_le_of_lt h.fits
  have hgrace : 0 < sdk.ecsCredentialFetchGracePeriod := by
    unfold EcsSdk.ecsCredentialFetchGracePeriod ecsHundredsOfNanosInASecond
    omega
  rcases @ecsCurlHandler_cases sdk call s.provider with
    ⟨hs, hr⟩ | ⟨hs, hno, hst, hp, hc⟩ | ⟨hs, hformed, hc, hrest⟩
  · -- from the cache
    obtain ⟨c, hcached, hle⟩ := stale_eq_false.mp hs
    have hget : getEcsCredentials sdk call s.provider = (some c, ⟨.success, s.provider, false⟩) := by
      unfold getEcsCredentials
      simp only [hr, if_true, hcached]
    have hexpires := h.expires c hcached
    refine ⟨?_, ?_, ?_⟩
    · rw [hget]
      refine fun _ => ⟨c, rfl, ?_⟩
      simp only [Bool.false_eq_true, if_false]
      omega
    · rw [hget, ← stale_eq_true, hs]
      simp
    · rw [hget]
      intro c' hc' _
      omega
  · have hget : (getEcsCredentials sdk call s.provider).1 = none := if_neg hst
    refine ⟨fun e => absurd e hst, ?_, ?_⟩
    · rw [← stale_eq_true, hs]
      show (ecsCurlHandler sdk call s.provider).contacted = true ↔ _
      rw [hc]
      have : ¬ call.RequestFormed := hno.resolve_left hfits
      simp [this]
    · intro r c hc'
      rw [hget] at hc'
      cases hc'
  · refine ⟨fun hst => ?_, ?_, ?_⟩
    · rcases hrest with ⟨hfail, -⟩ | hparse
      · exact absurd hst hfail
      · rcases parseEcsResponse_cases hparse with ⟨-, c, found, hc', he⟩ | ⟨hfail, -⟩
        · refine ⟨c, ?_, ?_⟩
          · exact (if_pos hst).trans (congrArg EcsCredentialProvider.pAwsCredentials hc')
          · show (if (ecsCurlHandler sdk call s.provider).contacted then _ else _) < _
            rw [hc, if_pos rfl]
            exact (ecsExpiration_ok hdoc he).1
        · exact absurd hst hfail
    · rw [← stale_eq_true, hs]
      show (ecsCurlHandler sdk call s.provider).contacted = true ↔ _
      rw [hc]
      simp [hformed]
    · intro r c _ hno
      exact absurd (hc.symm.trans hno) Bool.noConfusion

theorem start_ok {endpoint resource : List Char} {call : EcsCall} {p : EcsCredentialProvider}
    (hdoc : sdk.Documented) (hp : createEcsCredentialProvider sdk endpoint resource call = some p) :
    Ok sdk ⟨p, call.responseTime⟩ := by
  unfold createEcsCredentialProvider at hp
  simp only at hp
  split at hp
  swap
  · cases hp
  next hst =>
  obtain rfl := Option.some.inj hp
  have hlen : ¬ sdk.maxUriCharLen ≤ EcsCredentialProvider.formatLen ⟨endpoint, resource, none⟩ := by
    intro hle
    unfold ecsCurlHandler at hst
    simp only [EcsCredentialProvider.stale, Bool.not_true, Bool.false_eq_true, if_false,
      if_pos hle] at hst
    cases hst
  rcases @ecsCurlHandler_cases sdk call ⟨endpoint, resource, none⟩ with
    ⟨hs, -⟩ | ⟨-, -, hfail, -⟩ | ⟨-, -, hc, ⟨hfail, -⟩ | hparse⟩
  · cases hs
  · exact absurd hst hfail
  · exact absurd hst hfail
  · rcases parseEcsResponse_cases hparse with ⟨-, c, found, hc', he⟩ | ⟨hfail, -⟩
    · rw [hc']
      refine ⟨Nat.lt_of_not_le hlen, fun c' hc'' => ?_⟩
      obtain rfl := Option.some.inj hc''
      exact (ecsExpiration_ok hdoc he).2
    · exact absurd hst hfail

end EcsState

/-- Every call of every run returns credentials that have not expired, contacts the token server
exactly when it has to, and never returns cached credentials for too long. -/
theorem ecs_credentials_fresh {sdk : EcsSdk} (hdoc : sdk.Documented) {endpoint resource : List Char}
    {first : EcsCall} {p : EcsCredentialProvider}
    (hp : createEcsCredentialProvider sdk endpoint resource first = some p) (calls : List EcsCall) :
    Run.Along (EcsState.step sdk) (EcsCallOk sdk) ⟨p, first.responseTime⟩ calls :=
  Run.along_of_invariant (I := EcsState.Ok sdk) (fun _ call h => h.step hdoc call)
    (fun _ call h => h.callOk hdoc call) (EcsState.start_ok hdoc hp) calls

/-- An SDK whose only timestamp is the first second of 2030. -/
def sdk2030 : EcsSdk where
  maxUriCharLen := 10000
  maxAccessKeyLen := 128
  maxSecretKeyLen := 128
  maxSessionTokenLen := 2048
  maxExpirationLen := 128
  minStreamingTokenExpirationDuration := 30 * ecsHundredsOfNanosInASecond
  streamingTokenExpirationGracePeriod := 40 * ecsHundredsOfNanosInASecond
  maxEnforcedTokenExpirationDuration := 2400 * ecsHundredsOfNanosInASecond
  convertTimestampToEpoch s now :=
    if s = "2030-01-01T00:00:00Z".toList ∧ now < 1893456000 then
      .ok (1893456000 * ecsHundredsOfNanosInASecond)
    else .error 1

theorem sdk2030_documented : sdk2030.Documented := by
  refine ⟨by decide, fun s now expiration h => ?_⟩
  simp only [sdk2030] at h
  split at h
  · next hs => exact ⟨1893456000, hs.2, (Except.ok.inj h).symm⟩
  · cases h

/-- The tokens of a response with the four members. -/
def response2030 (i : Nat) : JsmnToken :=
  let response := ("\x7b\"AccessKeyId\":\"A\",\"SecretAccessKey\":\"S\",\"Token\":\"T\"," ++
    "\"Expiration\":\"2030-01-01T00:00:00Z\"\x7d").toList
  let span (type : JsmnType) (start stop : Nat) : JsmnToken :=
    ⟨type, (response.drop start).take (stop - start), response.drop stop⟩
  [span .object 0 89, span .string 2 13, span .string 16 17, span .string 20 35, span .string 38 39,
    span .string 42 47, span .string 50 51, span .string 54 64,
    span .string 67 87].getD i ⟨.primitive, [], []⟩

/-- A response with the four members, at second `t`. -/
def ecsCallAt (t : Nat) : EcsCall where
  currentTime := t * ecsHundredsOfNanosInASecond
  createRequestInfo := .success
  setRequestHeader := .success
  serviceCall := .success
  callInfo := ⟨89, 9, response2030⟩
  responseTime := t * ecsHundredsOfNanosInASecond + 1
  uninitialized := []
  createAwsCredentials := .success

/-- The provider that is created twenty days before. -/
def provider2030 : EcsCredentialProvider :=
  ⟨"http://localhost".toList, "credentials".toList,
    some ⟨"A".toList, "S".toList, "T".toList,
      1891728000 * ecsHundredsOfNanosInASecond + 1 + 2400 * ecsHundredsOfNanosInASecond⟩⟩

/-- It answers from the cache, and fetches again half an hour and six minutes later. -/
theorem ecs_credentials_fresh_2030 : Run.Along (EcsState.step sdk2030) (EcsCallOk sdk2030)
    ⟨provider2030, (ecsCallAt 1891728000).responseTime⟩
    [ecsCallAt 1891728010, ecsCallAt 1891730300, ecsCallAt 1891730400] :=
  @ecs_credentials_fresh sdk2030 sdk2030_documented "http://localhost".toList "credentials".toList
    (ecsCallAt 1891728000) provider2030 (by decide +kernel) _

/-! ## A request that cannot be made -/

/-- The clock does not go back, in a call and between two calls. -/
def ClockGoesOn (calls : List EcsCall) : Prop :=
  (∀ call ∈ calls, call.currentTime ≤ call.responseTime) ∧
    calls.IsChain fun call next => call.responseTime ≤ next.currentTime

/-- The response has the four members. -/
def EcsCall.FourMembers (call : EcsCall) : Prop :=
  ∀ m, ∃ i : Nat, (i : Int) + 1 < call.callInfo.tokenCount ∧
    EcsMember.ofToken (call.callInfo.tokens i) = some m

/-- The call is due, and `createRequestInfo` fails: the token server is not contacted. -/
theorem due_not_contacted : ¬ ∀ sdk : EcsSdk, sdk.Documented →
    ∀ (endpoint resource : List Char) (first : EcsCall) (p : EcsCredentialProvider),
      createEcsCredentialProvider sdk endpoint resource first = some p →
      ∀ calls : List EcsCall, ClockGoesOn (first :: calls) →
        (∀ call ∈ first :: calls, call.FourMembers) →
        Run.Along (EcsState.step sdk) (fun s call =>
          (getEcsCredentials sdk call s.provider).2.contacted = true ↔
            (s.provider.pAwsCredentials = none ∨ ∃ c, s.provider.pAwsCredentials = some c ∧
              call.currentTime + sdk.ecsCredentialFetchGracePeriod > c.expiration))
          ⟨p, first.responseTime⟩ calls := by
  intro h
  let due : EcsCall := { ecsCallAt 1891730400 with createRequestInfo := .sdk 1 }
  have hclock : ClockGoesOn [ecsCallAt 1891728000, due] := by
    refine ⟨?_, ?_⟩
    · simp [due, ecsCallAt]
    · simp [due, ecsCallAt, ecsHundredsOfNanosInASecond]
  have hmembers : (ecsCallAt 0).FourMembers := by
    intro m
    cases m with
    | accessKeyId => exact ⟨1, by decide, by decide⟩
    | secretAccessKey => exact ⟨3, by decide, by decide⟩
    | token => exact ⟨5, by decide, by decide⟩
    | expiration => exact ⟨7, by decide, by decide⟩
  obtain ⟨hcontacts, -⟩ := h sdk2030 sdk2030_documented "http://localhost".toList "credentials".toList
    (ecsCallAt 1891728000) provider2030 (by decide +kernel) [due] hclock (by
      intro call hcall
      rcases List.mem_pair.mp hcall with rfl | rfl <;> exact hmembers)
  have hcontacted : (getEcsCredentials sdk2030 due provider2030).2.contacted = true :=
    hcontacts.mpr (Or.inr ⟨_, rfl, by decide⟩)
  exact absurd hcontacted (by decide +kernel)

end WebrtcApp
