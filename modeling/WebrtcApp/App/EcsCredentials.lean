import Mathlib

/-!
# The ECS credential provider (`EcsCredentialProvider.c` of the patch)

`getEcsCredentials` hands out the cached credentials, and asks the token server for new ones
when there are none or they expire within the grace period.  Times are in units of 100 ns.

The token server's response is what `jsmn_parse` makes of it: a number of tokens and the array
they stand in, whose other cells hold anything.  `EcsSdk` has the constants and the function of
the SDK that the provider uses, `EcsCall` what the calls made during one call return.
-/

namespace WebrtcApp

/-! ## The SDK -/

inductive JsmnType
  | object
  | array
  | string
  | primitive
  deriving DecidableEq

/-- A token, and what stands in memory behind it, up to the `NUL`. -/
structure JsmnToken where
  type : JsmnType
  text : List Char
  behind : List Char
  deriving DecidableEq

/-- What `createAwsCredentials` makes of the pointer to a token and of its length: a length of 0
says that the string ends with its `NUL`. -/
def JsmnToken.credential (t : JsmnToken) : List Char := if t.text = [] then t.behind else t.text

inductive EcsStatus
  | success
  | ecsAuthUriFailed
  | ecsAuthFailed
  | invalidApiCallReturnJson
  | ecsAuthRspFailed
  | sdk (code : UInt32)
  deriving DecidableEq

/-- `convertTimestampToEpoch` gets the current time in seconds. -/
structure EcsSdk where
  maxUriCharLen : Nat
  maxAccessKeyLen : Nat
  maxSecretKeyLen : Nat
  maxSessionTokenLen : Nat
  maxExpirationLen : Nat
  minStreamingTokenExpirationDuration : Nat
  streamingTokenExpirationGracePeriod : Nat
  maxEnforcedTokenExpirationDuration : Nat
  convertTimestampToEpoch : List Char → Nat → Except UInt32 Nat

/-- `HUNDREDS_OF_NANOS_IN_A_SECOND`. -/
def ecsHundredsOfNanosInASecond : Nat := 10000000

/-- `ECS_CREDENTIAL_FETCH_GRACE_PERIOD`. -/
def EcsSdk.ecsCredentialFetchGracePeriod (sdk : EcsSdk) : Nat :=
  5 * ecsHundredsOfNanosInASecond + sdk.minStreamingTokenExpirationDuration +
    sdk.streamingTokenExpirationGracePeriod

structure AwsCredentials where
  accessKeyId : List Char
  secretKey : List Char
  sessionToken : List Char
  expiration : Nat
  deriving DecidableEq

structure EcsCredentialProvider where
  ecsGetCredentialEndpoint : List Char
  ecsGetCredentialResource : List Char
  pAwsCredentials : Option AwsCredentials
  deriving DecidableEq

structure CallInfo where
  responseDataLen : Nat
  tokenCount : Int
  tokens : Nat → JsmnToken

/-- `currentTime` is the clock in `ecsCurlHandler`, `responseTime` in `parseEcsResponse`;
`uninitialized` is what `expirationTimestampStr` holds where nothing is copied into it. -/
structure EcsCall where
  currentTime : Nat
  createRequestInfo : EcsStatus
  setRequestHeader : EcsStatus
  serviceCall : EcsStatus
  callInfo : CallInfo
  responseTime : Nat
  uninitialized : List Char
  createAwsCredentials : EcsStatus

/-! ## The response -/

inductive EcsMember
  | accessKeyId
  | secretAccessKey
  | token
  | expiration
  deriving DecidableEq

namespace EcsMember

/-- The members in the order they are tested for. -/
def all : List EcsMember := [.accessKeyId, .secretAccessKey, .token, .expiration]

def name : EcsMember → List Char
  | .accessKeyId => "AccessKeyId".toList
  | .secretAccessKey => "SecretAccessKey".toList
  | .token => "Token".toList
  | .expiration => "Expiration".toList

def maxLen (sdk : EcsSdk) : EcsMember → Nat
  | .accessKeyId => sdk.maxAccessKeyLen
  | .secretAccessKey => sdk.maxSecretKeyLen
  | .token => sdk.maxSessionTokenLen
  | .expiration => sdk.maxExpirationLen

end EcsMember

/-- `compareJsonString` with `JSMN_STRING`. -/
def compareJsonString (t : JsmnToken) (s : List Char) : Bool := t.type == .string && t.text == s

/-- The member whose name the token is. -/
def EcsMember.ofToken (t : JsmnToken) : Option EcsMember :=
  EcsMember.all.find? fun m => compareJsonString t m.name

/-- The values found so far; `none` is `NULL`. -/
abbrev EcsMembers := EcsMember → Option JsmnToken

/-- The token loop from token `i` on, with `left` rounds left; `none` when a value is too long. -/
def ecsMembersLoop (sdk : EcsSdk) (tokens : Nat → JsmnToken) (tokenCount : Nat) :
    Nat → Nat → EcsMembers → Option EcsMembers
  | 0, _, found => some found
  | left + 1, i, found =>
    if i < tokenCount then
      match EcsMember.ofToken (tokens i) with
      | none => ecsMembersLoop sdk tokens tokenCount left (i + 1) found
      | some m =>
        let value := tokens (i + 1)
        if value.text.length ≤ m.maxLen sdk then
          ecsMembersLoop sdk tokens tokenCount left (i + 2) (Function.update found m (some value))
        else none
    else some found

/-- Every round moves on, so there are as many as tokens. -/
def ecsMembers (sdk : EcsSdk) (tokens : Nat → JsmnToken) (tokenCount : Nat) : Option EcsMembers :=
  ecsMembersLoop sdk tokens tokenCount tokenCount 1 fun _ => none

/-- The expiration of the new credentials, no later than the maximal rotation period. -/
def ecsExpiration (sdk : EcsSdk) (call : EcsCall) (found : EcsMembers) : Except UInt32 Nat :=
  (sdk.convertTimestampToEpoch (((found .expiration).map JsmnToken.text).getD call.uninitialized)
    (call.responseTime / ecsHundredsOfNanosInASecond)).map fun expiration =>
      min expiration (call.responseTime + sdk.maxEnforcedTokenExpirationDuration)

def parseEcsResponse (sdk : EcsSdk) (call : EcsCall) (p : EcsCredentialProvider) :
    EcsStatus × EcsCredentialProvider :=
  let info := call.callInfo
  if info.responseDataLen = 0 then (.ecsAuthFailed, p)
  else if info.tokenCount ≤ 1 then (.invalidApiCallReturnJson, p)
  else if (info.tokens 0).type ≠ .object then (.invalidApiCallReturnJson, p)
  else
    match ecsMembers sdk info.tokens info.tokenCount.toNat with
    | none => (.invalidApiCallReturnJson, p)
    | some found =>
      match found .accessKeyId, found .secretAccessKey, found .token with
      | some accessKeyId, some secretKey, some sessionToken =>
        match ecsExpiration sdk call found with
        | .error code => (.sdk code, p)
        | .ok expiration =>
          -- the old credentials are freed
          let c : AwsCredentials :=
            ⟨accessKeyId.credential, secretKey.credential, sessionToken.credential, expiration⟩
          if call.createAwsCredentials = .success then (.success, { p with pAwsCredentials := some c })
          else (call.createAwsCredentials, { p with pAwsCredentials := none })
      | _, _, _ => (.ecsAuthRspFailed, p)

/-! ## The provider -/

/-- The credentials have to be fetched. -/
def EcsCredentialProvider.stale (sdk : EcsSdk) (currentTime : Nat) (p : EcsCredentialProvider) :
    Bool :=
  match p.pAwsCredentials with
  | none => true
  | some c => decide (currentTime + sdk.ecsCredentialFetchGracePeriod > c.expiration)

/-- The length that `SNPRINTF` of `serviceUrl` returns. -/
def EcsCredentialProvider.formatLen (p : EcsCredentialProvider) : Nat :=
  p.ecsGetCredentialEndpoint.length + 1 + p.ecsGetCredentialResource.length

/-- What `ecsCurlHandler` did: `contacted` says that it called `serviceCallFn`. -/
structure EcsResult where
  status : EcsStatus
  provider : EcsCredentialProvider
  contacted : Bool

def ecsCurlHandler (sdk : EcsSdk) (call : EcsCall) (p : EcsCredentialProvider) : EcsResult :=
  if !p.stale sdk call.currentTime then ⟨.success, p, false⟩
  else if sdk.maxUriCharLen ≤ p.formatLen then ⟨.ecsAuthUriFailed, p, false⟩
  else if call.createRequestInfo ≠ .success then ⟨call.createRequestInfo, p, false⟩
  else if call.setRequestHeader ≠ .success then ⟨call.setRequestHeader, p, false⟩
  else if call.serviceCall ≠ .success then ⟨call.serviceCall, p, true⟩
  else
    match parseEcsResponse sdk call p with
    | (st, p) => ⟨st, p, true⟩

/-- The credentials that `getEcsCredentials` returns, and what it leaves behind. -/
def getEcsCredentials (sdk : EcsSdk) (call : EcsCall) (p : EcsCredentialProvider) :
    Option AwsCredentials × EcsResult :=
  let r := ecsCurlHandler sdk call p
  (if r.status = .success then r.provider.pAwsCredentials else none, r)

/-- `createEcsCredentialProviderWithTime`, once it has split the URI. -/
def createEcsCredentialProvider (sdk : EcsSdk) (endpoint resource : List Char) (call : EcsCall) :
    Option EcsCredentialProvider :=
  let r := ecsCurlHandler sdk call ⟨endpoint, resource, none⟩
  if r.status = .success then some r.provider else none

end WebrtcApp
