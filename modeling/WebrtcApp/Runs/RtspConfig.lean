import WebrtcApp.App.RtspSrc
import WebrtcApp.Lib.CString

/-!
# The configuration of the RTSP server

`latchRtspConfig` copies the URL, the user name and the password of the environment into three
buffers of one structure, whatever they hold before.  Each copy is as long as its buffer, so it
holds the string only if that is shorter; the test of the user name and the password lets one of
the buffer's length through, and the URL is not tested.

    latchRtspConfig_faithful_iff    the strings are shorter than their buffers, or refused
    initGstRtspSrc_latched          what the source element is then given
-/

namespace WebrtcApp.RtspSrc

/-! ## The code -/

def statusMediaRtspUrl : Status := statusMedia 0x17
def statusMediaRtspCredential : Status := statusMedia 0x18

/-- `MAX_URI_CHAR_LEN`, `APP_MEDIA_RTSP_USERNAME_LEN` and `APP_MEDIA_RTSP_PASSWORD_LEN`. -/
structure RtspLimits where
  uri : Nat
  username : Nat
  password : Nat
  username_pos : 0 < username
  password_pos : 0 < password

/-- `RtspServerConfiguration`. -/
structure RtspServerConfiguration (l : RtspLimits) where
  url : Buffer l.uri
  username : Buffer l.username
  password : Buffer l.password

/-- What `GETENV` returns for `AWS_RTSP_URL`, `AWS_RTSP_USERNAME` and `AWS_RTSP_PASSWORD`. -/
structure RtspEnv where
  url : Option Chars
  username : Option Chars
  password : Option Chars

/-- The user name and the password, where both are set and not empty. -/
def RtspEnv.credentials (env : RtspEnv) : Option (Chars × Chars) :=
  match env.username, env.password with
  | some username, some password =>
    if !username.isEmpty && !password.isEmpty then some (username, password) else none
  | _, _ => none

variable {l : RtspLimits}

def latchRtspConfig (env : RtspEnv) (conf : RtspServerConfiguration l) :
    Status × RtspServerConfiguration l :=
  match env.url with
  | none => (statusMediaRtspUrl, conf)
  | some url =>
    let conf := { conf with url := conf.url.strncpy url.bytes l.uri le_rfl }
    match env.credentials with
    | some (username, password) =>
      if CString.strnlen username.bytes (l.username + 1) ≤ l.username ∧
          CString.strnlen password.bytes (l.password + 1) ≤ l.password then
        (.success, { conf with
          username := conf.username.strncpy username.bytes l.username le_rfl
          password := conf.password.strncpy password.bytes l.password le_rfl })
      else (statusMediaRtspCredential, conf)
    | none => (.success, { conf with username := .cleared _, password := .cleared _ })

/-! ## The specification -/

/-- The three buffers hold what the environment sets. -/
structure ConfigLatched (env : RtspEnv) (conf : RtspServerConfiguration l) : Prop where
  url : ∃ url, env.url = some url ∧ conf.url.Holds url.bytes
  credentials : ∀ username password, env.credentials = some (username, password) →
    conf.username.Holds username.bytes ∧ conf.password.Holds password.bytes
  noCredentials : env.credentials = none → conf.username.Holds [] ∧ conf.password.Holds []

/-- Every value is shorter than its buffer. -/
def Storable (l : RtspLimits) (env : RtspEnv) : Prop :=
  (∃ url, env.url = some url ∧ url.bytes.length < l.uri) ∧
    ∀ username password, env.credentials = some (username, password) →
      username.bytes.length < l.username ∧ password.bytes.length < l.password

/-- There is no URL, or the user name or the password is longer than its buffer. -/
def Refused (l : RtspLimits) (env : RtspEnv) : Prop :=
  env.url = none ∨ ∃ username password, env.credentials = some (username, password) ∧
    (l.username < username.bytes.length ∨ l.password < password.bytes.length)

/-- The configuration is latched, or the call fails. -/
def Faithful (env : RtspEnv) (r : Status × RtspServerConfiguration l) : Prop :=
  (r.1 = .success → ConfigLatched env r.2) ∧ (¬ Storable l env → r.1.failed = true)

theorem strnlen_succ_le_iff {s : List UInt8} {n : Nat} :
    CString.strnlen s (n + 1) ≤ n ↔ s.length ≤ n := by
  unfold CString.strnlen
  omega

theorem ConfigLatched.storable {env : RtspEnv} {conf : RtspServerConfiguration l}
    (h : ConfigLatched env conf) : Storable l env := by
  constructor
  · obtain ⟨url, henv, hurl⟩ := h.url
    exact ⟨url, henv, hurl.length_lt⟩
  · intro username password henv
    obtain ⟨husername, hpassword⟩ := h.credentials username password henv
    exact ⟨husername.length_lt, hpassword.length_lt⟩

/-- The call fails exactly where the environment is refused. -/
theorem latchRtspConfig_failed_iff (env : RtspEnv) (conf : RtspServerConfiguration l) :
    (latchRtspConfig env conf).1.failed = true ↔ Refused l env := by
  unfold latchRtspConfig Refused
  cases hurl : env.url with
  | none => exact iff_of_true rfl (Or.inl rfl)
  | some url =>
    cases hcred : env.credentials with
    | none => simp [Status.failed]
    | some cred =>
      obtain ⟨username, password⟩ := cred
      simp only [strnlen_succ_le_iff]
      by_cases hle : username.bytes.length ≤ l.username ∧ password.bytes.length ≤ l.password
      · rw [if_pos hle]
        refine iff_of_false (fun h => Status.failed_eq_true.mp h rfl) ?_
        rintro (h | ⟨username', password', h, hlt⟩)
        · cases h
        · cases h
          omega
      · rw [if_neg hle]
        refine iff_of_true rfl (Or.inr ⟨username, password, rfl, ?_⟩)
        omega

/-- Values that are shorter than their buffers are latched. -/
theorem latched_of_storable {env : RtspEnv} (conf : RtspServerConfiguration l)
    (h : Storable l env) : ConfigLatched env (latchRtspConfig env conf).2 := by
  obtain ⟨⟨url, henv, hurl⟩, hcred⟩ := h
  have hholds : (conf.url.strncpy url.bytes l.uri le_rfl).Holds url.bytes :=
    (Buffer.holds_strncpy_full url.nul_free).mpr hurl
  cases hc : env.credentials with
  | none =>
    have hlatch : (latchRtspConfig env conf).2 =
        ⟨conf.url.strncpy url.bytes l.uri le_rfl, .cleared _, .cleared _⟩ := by
      unfold latchRtspConfig
      simp only [henv, hc]
    rw [hlatch]
    constructor
    · exact ⟨url, henv, hholds⟩
    · intro username password hsome
      rw [hc] at hsome
      cases hsome
    · intro _
      exact ⟨Buffer.cleared_holds_nil l.username_pos, Buffer.cleared_holds_nil l.password_pos⟩
  | some cred =>
    obtain ⟨username, password⟩ := cred
    obtain ⟨husername, hpassword⟩ := hcred username password hc
    have hlatch : (latchRtspConfig env conf).2 =
        ⟨conf.url.strncpy url.bytes l.uri le_rfl,
          conf.username.strncpy username.bytes l.username le_rfl,
          conf.password.strncpy password.bytes l.password le_rfl⟩ := by
      unfold latchRtspConfig
      simp only [henv, hc, strnlen_succ_le_iff]
      rw [if_pos ⟨husername.le, hpassword.le⟩]
    rw [hlatch]
    constructor
    · exact ⟨url, henv, hholds⟩
    · intro username' password' hsome
      rw [hc] at hsome
      cases hsome
      exact ⟨(Buffer.holds_strncpy_full username.nul_free).mpr husername,
        (Buffer.holds_strncpy_full password.nul_free).mpr hpassword⟩
    · intro hnone
      rw [hc] at hnone
      cases hnone

theorem latchRtspConfig_succeeds {env : RtspEnv} (conf : RtspServerConfiguration l)
    (h : ¬ Refused l env) : (latchRtspConfig env conf).1 = .success := by
  by_contra hne
  exact h ((latchRtspConfig_failed_iff env conf).mp (Status.failed_eq_true.mpr hne))

theorem not_faithful {env : RtspEnv} (conf : RtspServerConfiguration l) (hok : ¬ Refused l env)
    (h : ¬ Storable l env) : ¬ Faithful env (latchRtspConfig env conf) :=
  fun hf => h (hf.1 (latchRtspConfig_succeeds conf hok)).storable

/-- The configuration is latched or refused exactly where no value has the length of its buffer, and
the URL is shorter than its own. -/
theorem latchRtspConfig_faithful_iff (env : RtspEnv) (conf : RtspServerConfiguration l) :
    Faithful env (latchRtspConfig env conf) ↔ Storable l env ∨ Refused l env := by
  by_cases hrefused : Refused l env
  · have hfailed := (latchRtspConfig_failed_iff env conf).mpr hrefused
    refine iff_of_true ⟨?_, fun _ => hfailed⟩ (Or.inr hrefused)
    intro hok
    exact absurd hok (Status.failed_eq_true.mp hfailed)
  · rw [or_iff_left hrefused]
    constructor
    · intro h
      by_contra hs
      exact not_faithful conf hrefused hs h
    · intro h
      exact ⟨fun _ => latched_of_storable conf h, fun hnot => absurd h hnot⟩

/-! ## What the source element gets -/

/-- The properties that `initGstRtspSrc` sets. -/
structure RtspSrcProperties where
  location : List UInt8
  userId : Option (List UInt8)
  userPw : Option (List UInt8)
  deriving DecidableEq

/-- A string without a terminator runs on into the next buffer of the structure. -/
def initGstRtspSrc (conf : RtspServerConfiguration l) : RtspSrcProperties where
  location := CString.cString (conf.url.bytes ++ (conf.username.bytes ++ conf.password.bytes))
  userId :=
    if conf.username.bytes[0]? = some 0 then none
    else some (CString.cString (conf.username.bytes ++ conf.password.bytes))
  userPw :=
    if conf.password.bytes[0]? = some 0 then none else some (CString.cString conf.password.bytes)

theorem RtspEnv.credentials_ne_nil {env : RtspEnv} {username password : Chars}
    (h : env.credentials = some (username, password)) :
    username.bytes ≠ [] ∧ password.bytes ≠ [] := by
  unfold RtspEnv.credentials at h
  split at h
  · split_ifs at h with hne
    cases h
    rw [Bool.and_eq_true, Bool.not_eq_true', Bool.not_eq_true'] at hne
    exact ⟨Chars.bytes_ne_nil hne.1, Chars.bytes_ne_nil hne.2⟩
  · cases h

/-- A latched configuration gives the source element what the environment sets. -/
theorem initGstRtspSrc_latched {env : RtspEnv} {conf : RtspServerConfiguration l}
    (h : ConfigLatched env conf) :
    ∃ url, env.url = some url ∧ initGstRtspSrc conf =
      ⟨url.bytes, env.credentials.map (·.1.bytes), env.credentials.map (·.2.bytes)⟩ := by
  obtain ⟨url, henv, hurl⟩ := h.url
  refine ⟨url, henv, ?_⟩
  unfold initGstRtspSrc
  rw [(CString.Holds.append hurl _).cString_eq]
  cases hc : env.credentials with
  | none =>
    obtain ⟨husername, hpassword⟩ := h.noCredentials hc
    rw [if_pos (Buffer.holds_nil_iff.mp husername), if_pos (Buffer.holds_nil_iff.mp hpassword)]
    rfl
  | some cred =>
    obtain ⟨username, password⟩ := cred
    obtain ⟨husername, hpassword⟩ := h.credentials username password hc
    obtain ⟨hne, hne'⟩ := RtspEnv.credentials_ne_nil hc
    have hset : conf.username.bytes[0]? ≠ some 0 := fun h0 =>
      hne (CString.Holds.unique husername (Buffer.holds_nil_iff.mpr h0))
    have hset' : conf.password.bytes[0]? ≠ some 0 := fun h0 =>
      hne' (CString.Holds.unique hpassword (Buffer.holds_nil_iff.mpr h0))
    rw [if_neg hset, if_neg hset', (CString.Holds.append husername _).cString_eq,
      CString.Holds.cString_eq hpassword]
    rfl

/-! ### Values of the buffers' lengths -/

/-- The limits with the SDK's values. -/
def RtspLimits.sdk : RtspLimits := ⟨10000, 256, 256, by decide, by decide⟩

/-- A structure of NULs, as `initMediaSource` allocates it. -/
def RtspServerConfiguration.initial (l : RtspLimits) : RtspServerConfiguration l :=
  ⟨.cleared _, .cleared _, .cleared _⟩

/-- A URL and a user name of the lengths of their buffers are accepted, without their terminators. -/
theorem full_buffers_not_faithful :
    ¬ Faithful ⟨some (.repeated 10000 97 (by decide)), none, none⟩
        (latchRtspConfig ⟨some (.repeated 10000 97 (by decide)), none, none⟩
          (.initial RtspLimits.sdk)) ∧
      ¬ Faithful ⟨some (.repeated 1 97 (by decide)), some (.repeated 256 84 (by decide)),
          some (.repeated 1 84 (by decide))⟩
        (latchRtspConfig ⟨some (.repeated 1 97 (by decide)), some (.repeated 256 84 (by decide)),
          some (.repeated 1 84 (by decide))⟩ (.initial RtspLimits.sdk)) := by
  constructor
  · apply not_faithful
    · rintro (h | ⟨username, password, hcred, -⟩)
      · cases h
      · cases hcred
    · rintro ⟨⟨url, henv, hlt⟩, -⟩
      cases henv
      rw [Chars.length_repeated] at hlt
      exact lt_irrefl 10000 hlt
  · apply not_faithful
    · rintro (h | ⟨username, password, hcred, hlt⟩)
      · cases h
      · cases hcred
        rw [Chars.length_repeated, Chars.length_repeated] at hlt
        exact absurd hlt (by decide)
    · rintro ⟨-, hcred⟩
      have hlt := (hcred _ _ rfl).1
      rw [Chars.length_repeated] at hlt
      exact lt_irrefl 256 hlt

end WebrtcApp.RtspSrc
