import WebrtcApp.App.EcsCredentials
import WebrtcApp.Lib.CString

/-!
# The URI of the token server (`EcsCredentialProvider.c` and `LwsCall.c` of the patch)

`createEcsCredentialProviderWithTime` takes the full URI apart: the endpoint up to the end of the
host, the port behind the next `:`, and the resource behind the character that ends the port.  Every
request puts the endpoint and the resource together again with a `/`, and `blockingLwsHttpCall` takes
the host and the path out of that.
-/

namespace WebrtcApp

/-- `MAX_ECS_TOKEN_LEN`. -/
def maxEcsTokenLen : Nat := 2048

/-- `SCHEMA_DELIMITER_STRING`. -/
def schemaDelimiter : List Char := [':', '/', '/']

/-- `PORT_DELIMITER_STRING`. -/
def portDelimiter : List Char := [':']

/-- The characters that end a host. -/
def isDelimiter (c : Char) : Bool := c == '/' || c == ':' || c == '?'

/-- Where the scan for a delimiter stops. -/
def delimiterIndex (s : List Char) : Nat := (s.takeWhile fun c => !isDelimiter c).length

/-- The two functions of the SDK that read the URI: the start and the end of the host, and a decimal
number. -/
structure UrlSdk where
  getRequestHost : List Char → Option (Nat × Nat)
  strtoui32 : List Char → Option UInt32

/-- The start and the end of what follows the first `:`, up to the next delimiter. -/
def getHostPort (pUrl : List Char) : Option (Nat × Nat) :=
  match CString.strstr pUrl portDelimiter with
  | none => none
  | some i =>
    let pStart := i + portDelimiter.length
    if pStart < pUrl.length then some (pStart, pStart + delimiterIndex (pUrl.drop pStart)) else none

/-- The three pieces of the URI. -/
structure EcsEndpoint where
  ecsGetCredentialEndpoint : List Char
  ecsGetCredentialResource : List Char
  port : UInt32
  deriving DecidableEq

/-- The splitting of a URI whose length has been checked. -/
def splitEcsUri (url : UrlSdk) (uri : List Char) : Option EcsEndpoint :=
  match url.getRequestHost uri with
  | none => none
  | some (_, hostEnd) =>
    match getHostPort (uri.drop hostEnd) with
    | none => none
    | some (pStart, pEnd) =>
      match url.strtoui32 (((uri.drop hostEnd).take pEnd).drop pStart) with
      | none => none
      | some port =>
        let len := uri.length - (hostEnd + pEnd)
        some ⟨uri.take hostEnd, (uri.drop (hostEnd + pEnd + 1)).take len, port⟩

/-- The provider, with the port that it stores. -/
def createEcsCredentialProviderWithTime (sdk : EcsSdk) (url : UrlSdk) (uri token : List Char)
    (call : EcsCall) : Option (EcsCredentialProvider × UInt32) :=
  if uri.length ≤ sdk.maxUriCharLen then
    match splitEcsUri url uri with
    | none => none
    | some e =>
      if token.length ≤ maxEcsTokenLen then
        (createEcsCredentialProvider sdk e.ecsGetCredentialEndpoint e.ecsGetCredentialResource
          call).map fun p => (p, e.port)
      else none
  else none

/-! ## The request -/

/-- Where a request goes. -/
structure HttpTarget where
  host : List Char
  port : UInt32
  path : List Char
  deriving DecidableEq

/-- `serviceUrl` of `ecsCurlHandler`. -/
def EcsCredentialProvider.serviceUrl (p : EcsCredentialProvider) : List Char :=
  p.ecsGetCredentialEndpoint ++ '/' :: p.ecsGetCredentialResource

/-- `blockingLwsHttpCall` for the request of the provider. -/
def blockingLwsHttpCall (url : UrlSdk) (p : EcsCredentialProvider) (port : UInt32) :
    Option HttpTarget :=
  match url.getRequestHost p.serviceUrl with
  | none => none
  | some (pHostStart, pHostEnd) =>
    some ⟨(p.serviceUrl.take pHostEnd).drop pHostStart, port, p.serviceUrl.drop pHostEnd⟩

end WebrtcApp
