import WebrtcApp.App.EcsEndpoint
import WebrtcApp.Runs.CredentialFreshness

/-!
# The requests to the token server

`target uri` is where the URI names: the host, the decimal port directly behind it, and what follows
the port as the path.

    splitEcsUri_port            the pieces of a URI with a port behind its host
    blockingLwsHttpCall_eq      the request that is made of the pieces
    requests_round_trip_iff     they go where the URI names if the port ends it, or a `/` follows
-/

namespace WebrtcApp

/-! ## What a URI names -/

/-- The host is between `://` and the first delimiter behind it. -/
def requestHost (url : List Char) : Option (Nat × Nat) :=
  match CString.strstr url schemaDelimiter with
  | none => none
  | some i =>
    let start := i + schemaDelimiter.length
    some (start, start + delimiterIndex (url.drop start))

/-- The value of a decimal number. -/
def decimalValue (digits : List Char) : Nat :=
  digits.foldl (fun n c => 10 * n + (c.toNat - '0'.toNat)) 0

/-- The host, the digits of the port directly behind it, and what follows them. -/
structure UriParts where
  host : List Char
  digits : List Char
  rest : List Char
  deriving DecidableEq

def uriParts (uri : List Char) : Option UriParts :=
  match requestHost uri with
  | none => none
  | some (a, b) =>
    match uri.drop b with
    | ':' :: after =>
      let u : UriParts :=
        ⟨(uri.take b).drop a, after.takeWhile Char.isDigit, after.dropWhile Char.isDigit⟩
      if u.digits ≠ [] ∧ decimalValue u.digits < UInt32.size then some u else none
    | _ => none

/-- A path and a query; without a path it is `/`. -/
def UriParts.path (u : UriParts) : Option (List Char) :=
  match u.rest with
  | [] => some ['/']
  | '/' :: path => some ('/' :: path)
  | '?' :: query => some ('/' :: '?' :: query)
  | _ => none

def target (uri : List Char) : Option HttpTarget :=
  match uriParts uri with
  | none => none
  | some u => u.path.map fun path => ⟨u.host, UInt32.ofNat (decimalValue u.digits), path⟩

/-- What the two functions of the SDK do: the host that is found is the one of `requestHost`, which is
found if anything follows `://`; and a decimal number is read as it is. -/
structure UrlSdk.Documented (url : UrlSdk) : Prop where
  host : ∀ s r, url.getRequestHost s = some r → requestHost s = some r
  found : ∀ s a b, requestHost s = some (a, b) → a < s.length → ∃ r, url.getRequestHost s = some r
  number : ∀ s, s ≠ [] → (∀ c ∈ s, c.isDigit = true) → url.strtoui32 s =
    if decimalValue s < UInt32.size then some (UInt32.ofNat (decimalValue s)) else none

/-- The URI has a port behind its host, and every later request goes where it names. -/
def RoundTrips (sdk : EcsSdk) (url : UrlSdk) (uri : List Char) (s : EcsState) (port : UInt32) :
    Prop :=
  ∃ t, target uri = some t ∧ ∀ calls,
    blockingLwsHttpCall url (Run.exec (EcsState.step sdk) s calls).provider port = some t

/-- The port ends the URI, or a `/` follows it. -/
def EndsPort (uri : List Char) : Prop :=
  ∃ u, uriParts uri = some u ∧ (u.rest = [] ∨ u.rest.head? = some '/')

/-! ## The scan for a delimiter -/

section
variable {s rest uri : List Char} {a b : Nat}

theorem delimiterIndex_append (hs : ∀ c ∈ s, isDelimiter c = false)
    (hrest : ∀ c, rest.head? = some c → isDelimiter c = true) :
    delimiterIndex (s ++ rest) = s.length := by
  have hall : ∀ c ∈ s, (!isDelimiter c) = true := by
    intro c hc
    rw [hs c hc]
    rfl
  unfold delimiterIndex
  rw [List.takeWhile_append_of_pos hall]
  cases rest with
  | nil => rw [List.takeWhile_nil, List.append_nil]
  | cons c rest =>
    have hc : (!isDelimiter c) ≠ true := by
      rw [hrest c rfl]
      exact Bool.false_ne_true
    rw [List.takeWhile_cons_of_neg (p := fun c => !isDelimiter c) hc, List.append_nil]

theorem take_delimiterIndex : s.take (delimiterIndex s) = s.takeWhile fun c => !isDelimiter c :=
  (List.prefix_iff_eq_take.mp (List.takeWhile_prefix _)).symm

theorem delimiterIndex_le : delimiterIndex s ≤ s.length := (List.takeWhile_prefix _).length_le

/-- A digit does not end a host. -/
theorem isDelimiter_of_isDigit {c : Char} (h : c.isDigit = true) : isDelimiter c = false := by
  unfold isDelimiter
  rw [Bool.or_eq_false_iff, Bool.or_eq_false_iff, beq_eq_false_iff_ne, beq_eq_false_iff_ne,
    beq_eq_false_iff_ne]
  refine ⟨⟨?_, ?_⟩, ?_⟩ <;>
  · rintro rfl
    exact absurd h (by decide)

/-! ## The host -/

theorem requestHost_eq_some (h : requestHost uri = some (a, b)) :
    ∃ i, CString.strstr uri schemaDelimiter = some i ∧ a = i + schemaDelimiter.length ∧
      b = a + delimiterIndex (uri.drop a) ∧ a ≤ uri.length ∧ b ≤ uri.length := by
  unfold requestHost at h
  split at h
  · cases h
  · next i hi =>
    cases h
    have ha := CString.length_le_of_strstr hi
    have hd := delimiterIndex_le (s := uri.drop (i + schemaDelimiter.length))
    rw [List.length_drop] at hd
    exact ⟨i, hi, rfl, rfl, ha, by omega⟩

/-- The text of the host. -/
theorem host_eq (h : requestHost uri = some (a, b)) :
    (uri.take b).drop a = (uri.drop a).takeWhile fun c => !isDelimiter c := by
  obtain ⟨i, -, -, hb, -⟩ := requestHost_eq_some h
  rw [hb, List.drop_take, Nat.add_sub_cancel_left, take_delimiterIndex]

/-- The URL of a request has the host of the URI. -/
theorem requestHost_serviceUrl (h : requestHost uri = some (a, b)) :
    requestHost (uri.take b ++ '/' :: rest) = some (a, b) := by
  obtain ⟨i, hi, ha, hb, hale, hble⟩ := requestHost_eq_some h
  have hlen : (uri.take b).length = b := List.length_take_of_le hble
  have hab : a ≤ b := by omega
  have hfound : CString.strstr (uri.take b ++ '/' :: rest) schemaDelimiter = some i := by
    apply CString.strstr_congr hi
    rw [← ha, List.take_append_of_le_length (hab.trans hlen.ge), List.take_take, Nat.min_eq_left hab]
  have hend : delimiterIndex ((uri.take b ++ '/' :: rest).drop a) = delimiterIndex (uri.drop a) := by
    rw [List.drop_append_of_le_length (hab.trans hlen.ge), host_eq h]
    apply delimiterIndex_append
    · intro c hc
      have := List.mem_takeWhile_imp hc
      rwa [Bool.not_eq_true'] at this
    · intro c hc
      cases hc
      rfl
  unfold requestHost
  rw [hfound]
  simp only
  rw [← ha, hend, ← hb]

/-! ## The port -/

variable {after : List Char} {url : UrlSdk}

theorem getHostPort_port (h : after ≠ []) :
    getHostPort (':' :: after) = some (1, 1 + delimiterIndex after) := by
  have hfound : CString.strstr (':' :: after) portDelimiter = some 0 :=
    CString.strstr_of_isPrefix ⟨after, rfl⟩
  have hlen : 0 < after.length := List.length_pos_of_ne_nil h
  unfold getHostPort
  rw [hfound]
  simp [portDelimiter, hlen]

/-- The pieces of a URI with a port behind its host. -/
theorem splitEcsUri_port (hhost : url.getRequestHost uri = some (a, b))
    (hb : uri.drop b = ':' :: after) (hne : after ≠ []) :
    splitEcsUri url uri = (url.strtoui32 (after.takeWhile fun c => !isDelimiter c)).map fun port =>
      ⟨uri.take b, after.drop (delimiterIndex after + 1), port⟩ := by
  have hlen : uri.length = b + (after.length + 1) := by
    have := congrArg List.length hb
    rw [List.length_drop, List.length_cons] at this
    omega
  have htext : ((':' :: after).take (1 + delimiterIndex after)).drop 1 =
      after.takeWhile fun c => !isDelimiter c := by
    rw [Nat.add_comm, List.take_succ_cons, List.drop_succ_cons, List.drop_zero, take_delimiterIndex]
  have hresource : (uri.drop (b + (1 + delimiterIndex after) + 1)).take
      (uri.length - (b + (1 + delimiterIndex after))) = after.drop (delimiterIndex after + 1) := by
    have hdrop : uri.drop (b + (1 + delimiterIndex after) + 1) =
        after.drop (delimiterIndex after + 1) := by
      rw [show b + (1 + delimiterIndex after) + 1 = b + (delimiterIndex after + 1 + 1) by omega,
        ← List.drop_drop, hb, List.drop_succ_cons]
    rw [hdrop, List.take_of_length_le]
    rw [List.length_drop]
    omega
  unfold splitEcsUri
  simp only [hhost, hb, getHostPort_port hne, htext, hresource]
  cases url.strtoui32 (after.takeWhile fun c => !isDelimiter c) <;> rfl

/-- The parts of a URI whose host is found. -/
theorem uriParts_eq_some {u : UriParts} (h : requestHost uri = some (a, b)) :
    uriParts uri = some u ↔ ∃ after, uri.drop b = ':' :: after ∧ u.host = (uri.take b).drop a ∧
      u.digits = after.takeWhile Char.isDigit ∧ u.rest = after.dropWhile Char.isDigit ∧
      u.digits ≠ [] ∧ decimalValue u.digits < UInt32.size := by
  unfold uriParts
  rw [h]
  simp only
  split
  · next after hdrop =>
    split_ifs with hok
    · rw [Option.some.injEq]
      constructor
      · rintro rfl
        exact ⟨after, hdrop, rfl, rfl, rfl, hok⟩
      · rintro ⟨after', hdrop', hhost, hdigits, hrest, -⟩
        cases hdrop.symm.trans hdrop'
        cases u
        simp only at hhost hdigits hrest
        rw [hhost, hdigits, hrest]
    · refine iff_of_false nofun ?_
      rintro ⟨after', hdrop', hhost, hdigits, hrest, hok'⟩
      cases hdrop.symm.trans hdrop'
      rw [hdigits] at hok'
      exact hok hok'
  · next hno =>
    refine iff_of_false nofun ?_
    rintro ⟨after, hdrop, -⟩
    exact hno after hdrop

/-- The pieces of a URI whose port is followed by a delimiter, or by nothing. -/
theorem splitEcsUri_parts (hdoc : url.Documented) {u : UriParts}
    (hhost : url.getRequestHost uri = some (a, b)) (hu : uriParts uri = some u)
    (hrest : ∀ c, u.rest.head? = some c → isDelimiter c = true) :
    splitEcsUri url uri =
      some ⟨uri.take b, u.rest.tail, UInt32.ofNat (decimalValue u.digits)⟩ := by
  obtain ⟨after, hdrop, -, hdigits, hrest', hne, hsize⟩ :=
    (uriParts_eq_some (hdoc.host _ _ hhost)).mp hu
  have hafter : after = u.digits ++ u.rest := by
    rw [hdigits, hrest', List.takeWhile_append_dropWhile]
  have hdigit : ∀ c ∈ u.digits, c.isDigit = true := by
    intro c hc
    rw [hdigits] at hc
    exact List.mem_takeWhile_imp hc
  have hindex : delimiterIndex after = u.digits.length := by
    rw [hafter]
    exact delimiterIndex_append (fun c hc => isDelimiter_of_isDigit (hdigit c hc)) hrest
  have hne' : after ≠ [] := by
    rw [hafter]
    exact List.append_ne_nil_of_left_ne_nil hne _
  rw [splitEcsUri_port hhost hdrop hne', ← take_delimiterIndex, hindex, hafter, List.take_left,
    hdoc.number _ hne hdigit, if_pos hsize, ← List.drop_drop, List.drop_left, List.drop_one]
  rfl

/-! ## The requests -/

variable {p : EcsCredentialProvider} {resource : List Char}

/-- A request of the provider goes to the host of the URI. -/
theorem blockingLwsHttpCall_eq (hdoc : url.Documented) (h : requestHost uri = some (a, b))
    (hp : p.serviceUrl = uri.take b ++ '/' :: resource) (port : UInt32) :
    blockingLwsHttpCall url p port = some ⟨(uri.take b).drop a, port, '/' :: resource⟩ := by
  obtain ⟨i, -, -, hb, hale, hble⟩ := requestHost_eq_some h
  have hlen : (uri.take b).length = b := List.length_take_of_le hble
  have hhost : requestHost (uri.take b ++ '/' :: resource) = some (a, b) :=
    requestHost_serviceUrl h
  have hlt : a < (uri.take b ++ '/' :: resource).length := by
    rw [List.length_append, List.length_cons, hlen]
    omega
  obtain ⟨r, hr⟩ := hdoc.found _ _ _ hhost hlt
  obtain rfl := Option.some.inj ((hdoc.host _ _ hr).symm.trans hhost)
  unfold blockingLwsHttpCall
  rw [hp, hr]
  simp only
  rw [List.take_left' hlen, List.drop_left' hlen]

/-- A request depends on the URL only. -/
theorem blockingLwsHttpCall_congr {q : EcsCredentialProvider} (h : q.serviceUrl = p.serviceUrl)
    (port : UInt32) : blockingLwsHttpCall url q port = blockingLwsHttpCall url p port := by
  unfold blockingLwsHttpCall
  rw [h]

end

section
variable {sdk : EcsSdk} {call : EcsCall} {p : EcsCredentialProvider}

/-- No call changes the URL. -/
theorem serviceUrl_ecsCurlHandler :
    (ecsCurlHandler sdk call p).provider.serviceUrl = p.serviceUrl := by
  rcases @ecsCurlHandler_cases sdk call p with
    ⟨-, hr⟩ | ⟨-, -, -, hp, -⟩ | ⟨-, -, -, ⟨-, hp⟩ | hparse⟩
  · rw [hr]
  · rw [hp]
  · rw [hp]
  · rcases parseEcsResponse_cases hparse with ⟨-, c, found, hp, -⟩ | ⟨-, hp | hp⟩
    · rw [hp]
      rfl
    · rw [hp]
    · rw [hp]
      rfl

theorem serviceUrl_exec (s : EcsState) (calls : List EcsCall) :
    (Run.exec (EcsState.step sdk) s calls).provider.serviceUrl = s.provider.serviceUrl :=
  Run.exec_invariant (I := fun s' : EcsState => s'.provider.serviceUrl = s.provider.serviceUrl)
    (fun _ _ h => serviceUrl_ecsCurlHandler.trans h) rfl calls

/-- What a provider that was created stores. -/
theorem created_eq {url : UrlSdk} {uri token : List Char} {port : UInt32}
    (h : createEcsCredentialProviderWithTime sdk url uri token call = some (p, port)) :
    ∃ e, splitEcsUri url uri = some e ∧ port = e.port ∧
      p.serviceUrl = e.ecsGetCredentialEndpoint ++ '/' :: e.ecsGetCredentialResource := by
  unfold createEcsCredentialProviderWithTime at h
  cases hsplit : splitEcsUri url uri with
  | none =>
    rw [hsplit] at h
    split_ifs at h
  | some e =>
    rw [hsplit] at h
    split_ifs at h
    obtain ⟨q, hq, hqp⟩ := Option.map_eq_some_iff.mp h
    cases hqp
    unfold createEcsCredentialProvider at hq
    simp only at hq
    split_ifs at hq
    cases hq
    exact ⟨e, rfl, rfl, serviceUrl_ecsCurlHandler⟩

variable {url : UrlSdk} {uri token : List Char} {port : UInt32} {s : EcsState}

/-- All requests are like the first one. -/
theorem roundTrips_iff : RoundTrips sdk url uri s port ↔
    ∃ t, target uri = some t ∧ blockingLwsHttpCall url s.provider port = some t := by
  unfold RoundTrips
  constructor
  · rintro ⟨t, ht, h⟩
    exact ⟨t, ht, h []⟩
  · rintro ⟨t, ht, h⟩
    exact ⟨t, ht, fun calls => (blockingLwsHttpCall_congr (serviceUrl_exec s calls) port).trans h⟩

theorem not_roundTrips (h : target uri ≠ blockingLwsHttpCall url s.provider port) :
    ¬ RoundTrips sdk url uri s port := by
  rw [roundTrips_iff]
  rintro ⟨t, ht, hcall⟩
  exact h (ht.trans hcall.symm)

/-- The requests of a provider whose port is followed by a delimiter, or by nothing. -/
theorem request_of_parts (hdoc : url.Documented) {u : UriParts}
    (hp : createEcsCredentialProviderWithTime sdk url uri token call = some (p, port))
    (hu : uriParts uri = some u) (hrest : ∀ c, u.rest.head? = some c → isDelimiter c = true) :
    blockingLwsHttpCall url p port =
      some ⟨u.host, UInt32.ofNat (decimalValue u.digits), '/' :: u.rest.tail⟩ := by
  obtain ⟨e, hsplit, rfl, hurl⟩ := created_eq hp
  cases hhost : url.getRequestHost uri with
  | none =>
    unfold splitEcsUri at hsplit
    rw [hhost] at hsplit
    cases hsplit
  | some r =>
    obtain ⟨a, b⟩ := r
    have hreq := hdoc.host _ _ hhost
    obtain ⟨after, -, hhost', -⟩ := (uriParts_eq_some hreq).mp hu
    obtain rfl := Option.some.inj (hsplit.symm.trans (splitEcsUri_parts hdoc hhost hu hrest))
    rw [blockingLwsHttpCall_eq hdoc hreq hurl, hhost']

/-- The requests of an accepted URI go where it names exactly if its port ends it, or a `/` follows
the port. -/
theorem requests_round_trip_iff (hdoc : url.Documented)
    (hp : createEcsCredentialProviderWithTime sdk url uri token call = some (p, port)) :
    RoundTrips sdk url uri ⟨p, call.responseTime⟩ port ↔ EndsPort uri := by
  rw [roundTrips_iff]
  unfold EndsPort target
  cases hu : uriParts uri with
  | none => simp
  | some u =>
    have hrequest := request_of_parts hdoc hp hu
    cases hrest : u.rest with
    | nil =>
      rw [hrest] at hrequest
      have hcall := hrequest nofun
      simp [UriParts.path, hrest, hcall]
    | cons c rest =>
      rw [hrest] at hrequest
      by_cases hslash : c = '/'
      · subst hslash
        have hcall := hrequest fun d hd => by
          cases hd
          rfl
        simp [UriParts.path, hrest, hcall]
      · by_cases hquery : c = '?'
        · -- the `?` is dropped
          subst hquery
          have hcall := hrequest fun d hd => by
            cases hd
            rfl
          simp [UriParts.path, hrest, hcall]
        · simp [UriParts.path, hrest, hslash, hquery]

end

/-! ## Concrete URIs -/

/-- The two functions of the SDK. -/
def urlSdk : UrlSdk where
  getRequestHost s := (requestHost s).filter fun r => decide (r.1 < s.length)
  strtoui32 s :=
    if s ≠ [] ∧ s.all Char.isDigit ∧ decimalValue s < UInt32.size then
      some (UInt32.ofNat (decimalValue s))
    else none

theorem urlSdk_documented : urlSdk.Documented where
  host s r h := by
    exact (Option.filter_eq_some_iff.mp h).1
  found s a b h hlt := by
    refine ⟨(a, b), Option.filter_eq_some_iff.mpr ⟨h, ?_⟩⟩
    exact decide_eq_true hlt
  number s hne hs := by
    have hall : s.all Char.isDigit = true := List.all_eq_true.mpr hs
    simp only [urlSdk, hne, hall, ne_eq, not_false_eq_true, true_and]

/-- The provider that is created for a URI at `localhost`. -/
def localProvider (resource : String) : EcsCredentialProvider :=
  { provider2030 with ecsGetCredentialResource := resource.toList }

/-- The URI that a component of Greengrass gets. -/
theorem requests_round_trip_greengrass :
    RoundTrips sdk2030 urlSdk "http://localhost:8080/credentials?id=1".toList
      ⟨localProvider "credentials?id=1", (ecsCallAt 1891728000).responseTime⟩ 8080 := by
  have hp : createEcsCredentialProviderWithTime sdk2030 urlSdk
      "http://localhost:8080/credentials?id=1".toList "token".toList (ecsCallAt 1891728000) =
      some (localProvider "credentials?id=1", 8080) := by
    decide +kernel
  apply (requests_round_trip_iff urlSdk_documented hp).mpr
  exact ⟨⟨"localhost".toList, "8080".toList, "/credentials?id=1".toList⟩, by decide +kernel,
    Or.inr rfl⟩

/-- A port that stands in the path only, and a `?` directly behind the port. -/
theorem requests_misdirected :
    (createEcsCredentialProviderWithTime sdk2030 urlSdk "http://localhost/a:80/b".toList
        "token".toList (ecsCallAt 1891728000) = some (localProvider "b", 80) ∧
      ¬ RoundTrips sdk2030 urlSdk "http://localhost/a:80/b".toList
        ⟨localProvider "b", (ecsCallAt 1891728000).responseTime⟩ 80) ∧
    createEcsCredentialProviderWithTime sdk2030 urlSdk "http://localhost:80?id=1".toList
        "token".toList (ecsCallAt 1891728000) = some (localProvider "id=1", 80) ∧
      ¬ RoundTrips sdk2030 urlSdk "http://localhost:80?id=1".toList
        ⟨localProvider "id=1", (ecsCallAt 1891728000).responseTime⟩ 80 := by
  refine ⟨⟨?_, not_roundTrips ?_⟩, ?_, not_roundTrips ?_⟩ <;> decide +kernel

end WebrtcApp
