import WebrtcApp.Lib.Overwrite

/-!
# The launcher (`run_webrtc.py`)

One process for each entry of `RtspConfig`.  `shell_env` is a single dictionary: the loop body
writes the entry's values into it and `Popen` hands the process a copy of what it then holds.
The user name and the password are written only where the entry has them, and no path
removes them again.

A JSON object and an environment are both a `Dict`; a subscript with a missing key raises
`KeyError`, which nothing in the loop catches.
-/

namespace WebrtcApp.RunWebrtc

/-- What each key is mapped to. -/
abbrev Dict := String → Option String

inductive PyError
  | keyError (key : String)
  /-- Raised by `Popen`: no such file, a null character in a value, and so on. -/
  | popen (what : String)
  deriving DecidableEq

/-- `d[key]`. -/
def Dict.get (d : Dict) (key : String) : Except PyError String :=
  match d key with
  | some v => .ok v
  | none => .error (.keyError key)

/-- `d[key] = v`. -/
def Dict.set (d : Dict) (key v : String) : Dict := Function.update d key (some v)

/-- `if key in config: d[name] = config[key]`. -/
def Dict.setIfIn (d : Dict) (name : String) (config : Dict) (key : String) : Dict :=
  match config key with
  | some v => d.set name v
  | none => d

/-- The loop body up to `Popen`. -/
def configureShellEnv (execPath : String) (settingJson rtspCamConfig shellEnv : Dict) :
    Except PyError Dict := do
  -- the message printed first reads both keys
  let rtspUrl ← rtspCamConfig.get "RtspUrl"
  let channelName ← rtspCamConfig.get "ChannelName"
  let shellEnv := shellEnv.set "AWS_KVS_CACERT_PATH" (execPath ++ "/AmazonRootCA1.pem")
  let shellEnv := shellEnv.set "AWS_KVS_LOG_LEVEL" (← settingJson.get "AwsKvsLogLevel")
  let shellEnv := shellEnv.set "AWS_WEBRTC_CHANNEL" channelName
  let shellEnv := shellEnv.set "AWS_RTSP_URL" rtspUrl
  let shellEnv := shellEnv.setIfIn "AWS_RTSP_USERNAME" rtspCamConfig "username"
  return shellEnv.setIfIn "AWS_RTSP_PASSWORD" rtspCamConfig "password"

/-- The loop: the environments of the processes it spawns, and the exception that ends it. -/
def spawnProcesses (execPath : String) (settingJson : Dict) (popen : Dict → Option PyError) :
    List Dict → Dict → List Dict × Option PyError
  | [], _ => ([], none)
  | rtspCamConfig :: rest, shellEnv =>
    match configureShellEnv execPath settingJson rtspCamConfig shellEnv with
    | .error e => ([], some e)
    | .ok shellEnv =>
      match popen shellEnv with
      | some e => ([], some e)
      | none =>
        match spawnProcesses execPath settingJson popen rest shellEnv with
        | (threadList, e) => (shellEnv :: threadList, e)

/-! ## One round -/

variable {execPath : String} {settingJson rtspCamConfig shellEnv shellEnv' : Dict}
  {popen : Dict → Option PyError}

theorem Dict.set_self (d : Dict) (key v : String) : d.set key v key = some v :=
  Function.update_self ..

theorem Dict.set_of_ne (d : Dict) {key k : String} (v : String) (h : k ≠ key) :
    d.set key v k = d k :=
  Function.update_of_ne h ..

theorem Dict.setIfIn_self (d : Dict) (name : String) (config : Dict) (key : String) :
    d.setIfIn name config key name = (config key).or (d name) := by
  unfold Dict.setIfIn
  cases config key with
  | none => rfl
  | some v => exact d.set_self name v

theorem Dict.setIfIn_of_ne (d : Dict) {name k : String} (config : Dict) (key : String)
    (h : k ≠ name) : d.setIfIn name config key k = d k := by
  unfold Dict.setIfIn
  cases config key with
  | none => rfl
  | some v => exact d.set_of_ne v h

theorem Dict.get_eq_ok {d : Dict} {key v : String} : d.get key = .ok v ↔ d key = some v := by
  unfold Dict.get
  cases d key with
  | none => simp
  | some w => simp

/-- What one round leaves in the variables of a camera. -/
theorem configureShellEnv_ok
    (h : configureShellEnv execPath settingJson rtspCamConfig shellEnv = .ok shellEnv') :
    shellEnv' "AWS_RTSP_URL" = rtspCamConfig "RtspUrl" ∧
      shellEnv' "AWS_WEBRTC_CHANNEL" = rtspCamConfig "ChannelName" ∧
      shellEnv' "AWS_RTSP_USERNAME" =
        (rtspCamConfig "username").or (shellEnv "AWS_RTSP_USERNAME") ∧
      shellEnv' "AWS_RTSP_PASSWORD" =
        (rtspCamConfig "password").or (shellEnv "AWS_RTSP_PASSWORD") := by
  unfold configureShellEnv at h
  cases hurl : rtspCamConfig.get "RtspUrl" with
  | error e => simp [hurl, bind, Except.bind] at h
  | ok rtspUrl =>
  cases hchannel : rtspCamConfig.get "ChannelName" with
  | error e => simp [hurl, hchannel, bind, Except.bind] at h
  | ok channelName =>
  cases hlevel : settingJson.get "AwsKvsLogLevel" with
  | error e => simp [hurl, hchannel, hlevel, bind, Except.bind] at h
  | ok level =>
  simp only [hurl, hchannel, hlevel, bind, Except.bind, pure, Except.pure, Except.ok.injEq] at h
  subst h
  rw [Dict.get_eq_ok] at hurl hchannel
  refine ⟨?_, ?_, ?_, ?_⟩
  · rw [Dict.setIfIn_of_ne _ _ _ (by simp), Dict.setIfIn_of_ne _ _ _ (by simp), Dict.set_self, hurl]
  · rw [Dict.setIfIn_of_ne _ _ _ (by simp), Dict.setIfIn_of_ne _ _ _ (by simp),
      Dict.set_of_ne _ _ (by simp), Dict.set_self, hchannel]
  · rw [Dict.setIfIn_of_ne _ _ _ (by simp), Dict.setIfIn_self, Dict.set_of_ne _ _ (by simp),
      Dict.set_of_ne _ _ (by simp), Dict.set_of_ne _ _ (by simp), Dict.set_of_ne _ _ (by simp)]
  · rw [Dict.setIfIn_self, Dict.setIfIn_of_ne _ _ _ (by simp), Dict.set_of_ne _ _ (by simp),
      Dict.set_of_ne _ _ (by simp), Dict.set_of_ne _ _ (by simp), Dict.set_of_ne _ _ (by simp)]

end WebrtcApp.RunWebrtc
