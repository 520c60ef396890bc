import WebrtcApp.Runs.CameraProcesses
import WebrtcApp.Runs.RtspConfig

/-!
# From the launcher to the source element

What `run_webrtc.py` writes into the environment of a process, `latchRtspConfig` reads there and
`initGstRtspSrc` hands to the source element.  The URL is always that of the process' own camera.
A camera with a user name and a password is opened with these; one that lacks either is opened
without credentials only where what the loop carries over does not complete a pair, and otherwise
with that pair.

    camera_logins_iff    the source element gets what the camera's entry sets, exactly when, and
                         what it gets otherwise
-/

namespace WebrtcApp.RunWebrtc

open RtspSrc

/-! ## What a process reads -/

/-- The bytes of a value, which C reads up to its first NUL. -/
def toChars (s : String) : Chars where
  bytes := CString.cString s.toUTF8.data.toList
  nul_free := fun h => absurd (List.mem_takeWhile_imp h) (by decide)

/-- `GETENV`. -/
def getenv (env : Dict) (name : String) : Option Chars := (env name).map toChars

/-- What `latchRtspConfig` looks up. -/
def rtspEnv (env : Dict) : RtspEnv :=
  ⟨getenv env "AWS_RTSP_URL", getenv env "AWS_RTSP_USERNAME", getenv env "AWS_RTSP_PASSWORD"⟩

/-- What the entry of a camera sets. -/
def configured (cfg : Dict) : RtspEnv :=
  ⟨getenv cfg "RtspUrl", getenv cfg "username", getenv cfg "password"⟩

/-- The properties of a source element that is opened as `e` says. -/
def login (e : RtspEnv) : Option RtspSrcProperties :=
  e.url.map fun url => ⟨url.bytes, e.credentials.map (·.1.bytes), e.credentials.map (·.2.bytes)⟩

variable {l : RtspLimits}

/-- The properties that a process sets, where it gets so far. -/
def opened (env : Dict) (conf : RtspServerConfiguration l) : Option RtspSrcProperties :=
  match latchRtspConfig (rtspEnv env) conf with
  | (st, conf) => if st.failed then none else some (initGstRtspSrc conf)

/-! ## Credentials -/

/-- The value is set and not empty. -/
def Usable (v : Option String) : Prop := ∃ s, v = some s ∧ (toChars s).isEmpty = false

theorem credentials_ne_none {url : Option Chars} {u p : Option String} :
    (RtspEnv.credentials ⟨url, u.map toChars, p.map toChars⟩ ≠ none) ↔ Usable u ∧ Usable p := by
  unfold RtspEnv.credentials Usable
  cases u with
  | none => simp
  | some u =>
    cases p with
    | none => simp
    | some p => cases hu : (toChars u).isEmpty <;> cases hp : (toChars p).isEmpty <;> simp [hu, hp]

/-- The user name and the password of an entry, each with what the loop carries over where it is
missing, are those of the entry exactly if it has both or they are no pair. -/
theorem credentials_or_iff {url : Option Chars} {u p u0 p0 : Option String} :
    RtspEnv.credentials ⟨url, (u.or u0).map toChars, (p.or p0).map toChars⟩ =
        RtspEnv.credentials ⟨url, u.map toChars, p.map toChars⟩ ↔
      (u ≠ none ∧ p ≠ none) ∨ ¬ (Usable (u.or u0) ∧ Usable (p.or p0)) := by
  by_cases hboth : u ≠ none ∧ p ≠ none
  · refine iff_of_true ?_ (Or.inl hboth)
    rw [Option.or_of_isSome (Option.isSome_iff_ne_none.mpr hboth.1),
      Option.or_of_isSome (Option.isSome_iff_ne_none.mpr hboth.2)]
  · have hnone : RtspEnv.credentials ⟨url, u.map toChars, p.map toChars⟩ = none := by
      by_contra hne
      obtain ⟨⟨s, hu, -⟩, ⟨t, hp, -⟩⟩ := credentials_ne_none.mp hne
      exact hboth ⟨hu ▸ Option.some_ne_none s, hp ▸ Option.some_ne_none t⟩
    rw [or_iff_right hboth, hnone, ← @credentials_ne_none url, not_not]

/-! ## End to end -/

theorem storable_not_refused {e : RtspEnv} (h : Storable l e) : ¬ Refused l e := by
  obtain ⟨⟨url, hurl, -⟩, hcred⟩ := h
  rintro (hnone | ⟨username, password, hc, hlt⟩)
  · rw [hurl] at hnone
    cases hnone
  · obtain ⟨hu, hp⟩ := hcred username password hc
    omega

/-- Values that fit reach the source element as they are set. -/
theorem opened_of_storable {env : Dict} (conf : RtspServerConfiguration l)
    (h : Storable l (rtspEnv env)) : opened env conf = login (rtspEnv env) := by
  have hsuccess := latchRtspConfig_succeeds conf (storable_not_refused h)
  obtain ⟨url, hurl, hprops⟩ := initGstRtspSrc_latched (latched_of_storable conf h)
  unfold opened login
  rw [hurl]
  generalize latchRtspConfig (rtspEnv env) conf = r at hsuccess hprops
  obtain ⟨st, conf'⟩ := r
  obtain rfl : st = .success := hsuccess
  show some (initGstRtspSrc conf') = _
  rw [hprops]
  rfl

theorem Chars.bytes_injective : Function.Injective Chars.bytes := fun _ _ h => Chars.ext h

/-- Logins to one URL agree where their credentials do. -/
theorem login_eq_iff {e e' : RtspEnv} (hurl : e.url = e'.url) (hsome : e.url ≠ none) :
    login e = login e' ↔ e.credentials = e'.credentials := by
  obtain ⟨url, he⟩ := Option.ne_none_iff_exists'.mp hsome
  unfold login
  rw [← hurl, he]
  constructor
  · intro h
    obtain ⟨-, husername, hpassword⟩ := RtspSrcProperties.mk.inj (Option.some.inj h)
    cases hc : e.credentials with
    | none =>
      rw [hc, Option.map_none] at husername
      exact (Option.map_eq_none_iff.mp husername.symm).symm
    | some c =>
      cases hc' : e'.credentials with
      | none =>
        rw [hc, hc'] at husername
        cases husername
      | some c' =>
        rw [hc, hc'] at husername hpassword
        have hu := Chars.bytes_injective (Option.some.inj husername)
        have hp := Chars.bytes_injective (Option.some.inj hpassword)
        rw [Prod.ext hu hp]
  · intro h
    rw [h]

/-- What `latchRtspConfig` finds in the process of a camera that comes after `earlier`. -/
def inherited (earlier : List Dict) (cfg : Dict) : RtspEnv :=
  ⟨getenv cfg "RtspUrl", ((cfg "username").or (carried "username" earlier none)).map toChars,
    ((cfg "password").or (carried "password" earlier none)).map toChars⟩

variable {execPath : String} {settingJson : Dict} {popen : Dict → Option PyError}
  {cfgs earlier : List Dict} {environ env cfg : Dict} {i : Nat}

theorem rtspEnv_spawned (husername : environ "AWS_RTSP_USERNAME" = none)
    (hpassword : environ "AWS_RTSP_PASSWORD" = none)
    (h : (spawnProcesses execPath settingJson popen cfgs environ).1[i]? = some env) :
    ∃ cfg, cfgs[i]? = some cfg ∧ rtspEnv env = inherited (cfgs.take i) cfg := by
  obtain ⟨cfg, before, hcfg, hok, hu, hp⟩ := spawnProcesses_getElem h
  obtain ⟨hurl, -, hu', hp'⟩ := configureShellEnv_ok hok
  rw [hu, husername] at hu'
  rw [hp, hpassword] at hp'
  refine ⟨cfg, hcfg, ?_⟩
  unfold rtspEnv inherited getenv
  rw [hurl, hu', hp']

theorem location_login (earlier : List Dict) (cfg : Dict) :
    (login (inherited earlier cfg)).map (·.location) =
      (cfg "RtspUrl").map (fun url => (toChars url).bytes) := by
  unfold login inherited getenv
  rw [Option.map_map, Option.map_map]
  rfl

/-- The login is as the entry sets it, if the entry has both parts or there is no pair. -/
theorem login_inherited_iff (hurl : (inherited earlier cfg).url ≠ none) :
    login (inherited earlier cfg) = login (configured cfg) ↔
      (cfg "username" ≠ none ∧ cfg "password" ≠ none) ∨
        ¬ (Usable ((cfg "username").or (carried "username" earlier none)) ∧
          Usable ((cfg "password").or (carried "password" earlier none))) := by
  have hsame : (inherited earlier cfg).url = (configured cfg).url := rfl
  rw [login_eq_iff hsame hurl, ← @credentials_or_iff (getenv cfg "RtspUrl")]
  rfl

/-- Otherwise it is with a pair of which one part at least is an earlier camera's. -/
theorem login_inherited_of_ne (hurl : (inherited earlier cfg).url ≠ none)
    (hne : login (inherited earlier cfg) ≠ login (configured cfg)) :
    ∃ url username password, cfg "RtspUrl" = some url ∧
      login (inherited earlier cfg) = some ⟨(toChars url).bytes, some (toChars username).bytes,
        some (toChars password).bytes⟩ ∧
      Given "username" earlier cfg username ∧ Given "password" earlier cfg password ∧
      (cfg "username" = none ∨ cfg "password" = none) := by
  obtain ⟨hboth, hpair⟩ := not_or.mp (mt (login_inherited_iff hurl).mpr hne)
  obtain ⟨⟨username, husername, huse⟩, ⟨password, hpassword, hpse⟩⟩ := not_not.mp hpair
  obtain ⟨chars, hchars⟩ := Option.ne_none_iff_exists'.mp hurl
  obtain ⟨url, hset, -⟩ := Option.map_eq_some_iff.mp hchars
  refine ⟨url, username, password, hset, ?_, or_carried_eq_some.mp husername,
    or_carried_eq_some.mp hpassword, ?_⟩
  · simp [login, inherited, getenv, husername, hpassword, hset, RtspEnv.credentials, huse, hpse]
  · by_contra hnone
    exact hboth (not_or.mp hnone)

/-- Where the values fit their buffers, the process of a camera opens the URL of its camera, with its
camera's credentials exactly if the camera has both or what the loop carries over makes no pair;
otherwise with a pair of which the part that its camera lacks is that of the last camera before it
that has one. -/
theorem camera_logins_iff (husername : environ "AWS_RTSP_USERNAME" = none)
    (hpassword : environ "AWS_RTSP_PASSWORD" = none)
    (h : (spawnProcesses execPath settingJson popen cfgs environ).1[i]? = some env)
    (hstorable : Storable l (rtspEnv env)) (conf : RtspServerConfiguration l) :
    ∃ cfg, cfgs[i]? = some cfg ∧
      (opened env conf).map (·.location) = (cfg "RtspUrl").map (fun url => (toChars url).bytes) ∧
      (opened env conf = login (configured cfg) ↔
        (cfg "username" ≠ none ∧ cfg "password" ≠ none) ∨
          ¬ (Usable ((cfg "username").or (carried "username" (cfgs.take i) none)) ∧
            Usable ((cfg "password").or (carried "password" (cfgs.take i) none)))) ∧
      (opened env conf ≠ login (configured cfg) → ∃ url username password,
        cfg "RtspUrl" = some url ∧
        opened env conf = some ⟨(toChars url).bytes, some (toChars username).bytes,
          some (toChars password).bytes⟩ ∧
        Given "username" (cfgs.take i) cfg username ∧
        Given "password" (cfgs.take i) cfg password ∧
        (cfg "username" = none ∨ cfg "password" = none)) := by
  obtain ⟨cfg, hcfg, henv⟩ := rtspEnv_spawned husername hpassword h
  have hurl : (inherited (cfgs.take i) cfg).url ≠ none := by
    obtain ⟨⟨url, hset, -⟩, -⟩ := hstorable
    rw [← henv, hset]
    exact Option.some_ne_none url
  refine ⟨cfg, hcfg, ?_⟩
  rw [opened_of_storable conf hstorable, henv]
  exact ⟨location_login _ cfg, login_inherited_iff hurl, login_inherited_of_ne hurl⟩

/-- The hall camera, which sets neither, is opened with the gate camera's. -/
theorem camera_logins_iff_hall :
    ∃ env, gateThenHall.1[1]? = some env ∧ ∃ cfg, [gateCamera, hallCamera][1]? = some cfg ∧
      (opened env (.initial RtspLimits.sdk)).map (·.location) =
        (cfg "RtspUrl").map (fun url => (toChars url).bytes) ∧
      (opened env (.initial RtspLimits.sdk) = login (configured cfg) ↔
        (cfg "username" ≠ none ∧ cfg "password" ≠ none) ∨
          ¬ (Usable ((cfg "username").or
              (carried "username" ([gateCamera, hallCamera].take 1) none)) ∧
            Usable ((cfg "password").or
              (carried "password" ([gateCamera, hallCamera].take 1) none)))) ∧
      (opened env (.initial RtspLimits.sdk) ≠ login (configured cfg) → ∃ url username password,
        cfg "RtspUrl" = some url ∧
        opened env (.initial RtspLimits.sdk) = some ⟨(toChars url).bytes,
          some (toChars username).bytes, some (toChars password).bytes⟩ ∧
        Given "username" ([gateCamera, hallCamera].take 1) cfg username ∧
        Given "password" ([gateCamera, hallCamera].take 1) cfg password ∧
        (cfg "username" = none ∨ cfg "password" = none)) := by
  have h : gateThenHall.1[1]? = some _ := rfl
  refine ⟨_, h, camera_logins_iff rfl rfl h ⟨⟨_, rfl, by decide +kernel⟩, ?_⟩ _⟩
  intro username password hcred
  have hgate : RtspEnv.credentials ⟨some (toChars "rtsp://10.0.0.3/live"),
      some (toChars "admin"), some (toChars "secret")⟩ =
        some (toChars "admin", toChars "secret") := by
    have husername : (toChars "admin").isEmpty = false := by decide +kernel
    have hpassword : (toChars "secret").isEmpty = false := by decide +kernel
    simp [RtspEnv.credentials, husername, hpassword]
  obtain ⟨rfl, rfl⟩ := Prod.mk.inj (Option.some.inj (hgate.symm.trans hcred))
  constructor <;> decide +kernel

end WebrtcApp.RunWebrtc
