import WebrtcApp.App.RunWebrtc

/-!
# What a camera process is given

`Isolated env cfg` says that the environment of a process shows the configuration of its own
camera: URL, channel, and exactly the credentials it has.  URL and channel always do.  A
credential that the configuration lacks is whatever the loop last wrote, so the process is
isolated exactly where no earlier camera has one (`spawnProcesses_isolated_iff`); otherwise it
runs with that of the last camera before it that has one (`or_carried_eq_some`).
-/

namespace WebrtcApp.RunWebrtc

structure Isolated (env cfg : Dict) : Prop where
  rtspUrl : env "AWS_RTSP_URL" = cfg "RtspUrl"
  channelName : env "AWS_WEBRTC_CHANNEL" = cfg "ChannelName"
  username : env "AWS_RTSP_USERNAME" = cfg "username"
  password : env "AWS_RTSP_PASSWORD" = cfg "password"

/-- A camera without `key` comes after no camera that has it. -/
def NoneEarlier (key : String) (earlier : List Dict) (cfg : Dict) : Prop :=
  cfg key = none → ∀ c ∈ earlier, c key = none

/-- What the rounds of `cfgs` leave in a variable that each of them writes `key` to. -/
def carried (key : String) (cfgs : List Dict) (before : Option String) : Option String :=
  cfgs.foldl (fun v c => (c key).or v) before

/-- The last camera with the key has the value. -/
def LastOf (key : String) (cfgs : List Dict) (v : String) : Prop :=
  ∃ before c after, cfgs = before ++ c :: after ∧ c key = some v ∧ ∀ d ∈ after, d key = none

/-- The value is the camera's own, or the camera has none and it is that of the last before it that
has one. -/
def Given (key : String) (earlier : List Dict) (cfg : Dict) (v : String) : Prop :=
  cfg key = some v ∨ cfg key = none ∧ LastOf key earlier v

variable {execPath : String} {settingJson : Dict} {popen : Dict → Option PyError}
  {name key : String} {cfgs : List Dict} {environ env cfg : Dict} {i : Nat}

theorem carried_eq_none {v : Option String} :
    carried key cfgs v = none ↔ v = none ∧ ∀ c ∈ cfgs, c key = none := by
  unfold carried
  induction cfgs generalizing v with
  | nil => simp
  | cons c cs ih =>
    rw [List.foldl_cons, ih, Option.or_eq_none_iff, List.forall_mem_cons]
    constructor
    · rintro ⟨⟨hc, hv⟩, hcs⟩
      exact ⟨hv, hc, hcs⟩
    · rintro ⟨hv, hc, hcs⟩
      exact ⟨⟨hc, hv⟩, hcs⟩

theorem carried_concat {v : Option String} :
    carried key (cfgs ++ [cfg]) v = (cfg key).or (carried key cfgs v) := by
  unfold carried
  rw [List.foldl_append]
  rfl

theorem lastOf_concat {v : String} : LastOf key (cfgs ++ [cfg]) v ↔ Given key cfgs cfg v := by
  constructor
  · rintro ⟨before, c, after, hsplit, hc, hnone⟩
    rcases List.eq_nil_or_concat' after with rfl | ⟨after, d, rfl⟩
    · obtain ⟨-, hlast⟩ := List.append_inj' hsplit rfl
      rw [← (List.cons.inj hlast).1] at hc
      exact Or.inl hc
    · rw [← List.cons_append, ← List.append_assoc] at hsplit
      obtain ⟨hcfgs, hlast⟩ := List.append_inj' hsplit rfl
      have hd := hnone d (List.mem_append_right _ List.mem_cons_self)
      rw [← (List.cons.inj hlast).1] at hd
      exact Or.inr ⟨hd, before, c, after, hcfgs, hc, fun e he => hnone e (List.mem_append_left _ he)⟩
  · rintro (hcfg | ⟨hcfg, before, c, after, rfl, hc, hnone⟩)
    · exact ⟨cfgs, cfg, [], rfl, hcfg, fun _ hd => absurd hd List.not_mem_nil⟩
    · refine ⟨before, c, after ++ [cfg], by simp, hc, fun d hd => ?_⟩
      rcases List.mem_append.mp hd with hd | hd
      · exact hnone d hd
      · rw [List.mem_singleton.mp hd]
        exact hcfg

/-- What is carried over is what the last camera with the key has. -/
theorem carried_eq_some {v : String} : carried key cfgs none = some v ↔ LastOf key cfgs v := by
  induction cfgs using List.reverseRecOn with
  | nil =>
    refine iff_of_false nofun ?_
    rintro ⟨before, c, after, hsplit, -⟩
    cases before <;> cases hsplit
  | append_singleton cs c ih =>
    rw [carried_concat, lastOf_concat, Given, ← ih]
    cases c key <;> simp

/-- What a process shows of a credential. -/
theorem or_carried_eq_some {v : String} :
    (cfg key).or (carried key cfgs none) = some v ↔ Given key cfgs cfg v := by
  rw [← carried_concat, carried_eq_some, lastOf_concat]

/-- Process `i` is spawned in the round of configuration `i`, on what the rounds before it
left in the variables. -/
theorem spawnProcesses_getElem
    (h : (spawnProcesses execPath settingJson popen cfgs environ).1[i]? = some env) :
    ∃ cfg shellEnv, cfgs[i]? = some cfg ∧
      configureShellEnv execPath settingJson cfg shellEnv = .ok env ∧
      shellEnv "AWS_RTSP_USERNAME" =
        carried "username" (cfgs.take i) (environ "AWS_RTSP_USERNAME") ∧
      shellEnv "AWS_RTSP_PASSWORD" =
        carried "password" (cfgs.take i) (environ "AWS_RTSP_PASSWORD") := by
  induction cfgs generalizing environ i with
  | nil => simp [spawnProcesses] at h
  | cons c cs ih =>
    unfold spawnProcesses at h
    cases hround : configureShellEnv execPath settingJson c environ with
    | error e => simp [hround] at h
    | ok shellEnv =>
    cases hpopen : popen shellEnv with
    | some e => simp [hround, hpopen] at h
    | none =>
    simp only [hround, hpopen] at h
    cases i with
    | zero =>
      obtain rfl : shellEnv = env := by simpa using h
      exact ⟨c, environ, rfl, hround, rfl, rfl⟩
    | succ i =>
      obtain ⟨cfg, before, hcfg, hok, hu, hp⟩ := ih (by simpa using h)
      obtain ⟨-, -, hu', hp'⟩ := configureShellEnv_ok hround
      refine ⟨cfg, before, by simpa using hcfg, hok, ?_, ?_⟩
      · rw [hu, hu', List.take_succ_cons]
        rfl
      · rw [hp, hp', List.take_succ_cons]
        rfl

/-- A variable that shows the own key where there is one, and else what was carried over,
shows exactly the own key where nothing was carried over. -/
theorem or_carried_eq_iff {earlier : List Dict} :
    (cfg key).or (carried key earlier none) = cfg key ↔ NoneEarlier key earlier cfg := by
  unfold NoneEarlier
  cases hcfg : cfg key with
  | some v => simp
  | none =>
    rw [Option.none_or, carried_eq_none]
    simp

/-- A process is isolated exactly where, of each credential its camera lacks, no earlier camera
has one. -/
theorem spawnProcesses_isolated_iff
    (husername : environ "AWS_RTSP_USERNAME" = none)
    (hpassword : environ "AWS_RTSP_PASSWORD" = none)
    (h : (spawnProcesses execPath settingJson popen cfgs environ).1[i]? = some env) :
    ∃ cfg, cfgs[i]? = some cfg ∧
      env "AWS_RTSP_URL" = cfg "RtspUrl" ∧ env "AWS_WEBRTC_CHANNEL" = cfg "ChannelName" ∧
      (Isolated env cfg ↔ NoneEarlier "username" (cfgs.take i) cfg ∧
        NoneEarlier "password" (cfgs.take i) cfg) := by
  obtain ⟨cfg, before, hcfg, hok, hu, hp⟩ := spawnProcesses_getElem h
  obtain ⟨hurl, hchannel, hu', hp'⟩ := configureShellEnv_ok hok
  rw [hu, husername] at hu'
  rw [hp, hpassword] at hp'
  refine ⟨cfg, hcfg, hurl, hchannel, ?_⟩
  rw [← or_carried_eq_iff, ← or_carried_eq_iff, ← hu', ← hp']
  constructor
  · intro hiso
    exact ⟨hiso.username, hiso.password⟩
  · rintro ⟨husername', hpassword'⟩
    exact ⟨hurl, hchannel, husername', hpassword'⟩

/-! ### A camera without credentials -/

def cameraConfig (entries : List (String × String)) : Dict := fun key => entries.lookup key

def gateCamera : Dict := cameraConfig
  [("RtspUrl", "rtsp://10.0.0.2/live"), ("ChannelName", "gate"), ("username", "admin"),
    ("password", "secret")]

def hallCamera : Dict := cameraConfig
  [("RtspUrl", "rtsp://10.0.0.3/live"), ("ChannelName", "hall")]

/-- Both processes, in a parent environment with nothing set. -/
def gateThenHall : List Dict × Option PyError :=
  spawnProcesses "/opt" (cameraConfig [("AwsKvsLogLevel", "2")]) (fun _ => none)
    [gateCamera, hallCamera] (cameraConfig [])

theorem spawnProcesses_isolated_iff_hall :
    ∃ env, gateThenHall.1[1]? = some env ∧ ∃ cfg, [gateCamera, hallCamera][1]? = some cfg ∧
      env "AWS_RTSP_URL" = cfg "RtspUrl" ∧ env "AWS_WEBRTC_CHANNEL" = cfg "ChannelName" ∧
      (Isolated env cfg ↔ NoneEarlier "username" ([gateCamera, hallCamera].take 1) cfg ∧
        NoneEarlier "password" ([gateCamera, hallCamera].take 1) cfg) := by
  have h : gateThenHall.1[1]? = some _ := rfl
  exact ⟨_, h, spawnProcesses_isolated_iff rfl rfl h⟩

/-- The hall camera's process is given the gate camera's credentials. -/
theorem spawnProcesses_not_isolated :
    ∃ env, gateThenHall.1[1]? = some env ∧ hallCamera "username" = none ∧
      hallCamera "password" = none ∧ env "AWS_RTSP_USERNAME" = gateCamera "username" ∧
      env "AWS_RTSP_PASSWORD" = gateCamera "password" ∧ ¬ Isolated env hallCamera := by
  refine ⟨_, rfl, rfl, rfl, rfl, rfl, fun hiso => ?_⟩
  exact absurd hiso.username (by decide)

end WebrtcApp.RunWebrtc
