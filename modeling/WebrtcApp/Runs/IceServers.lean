import WebrtcApp.App.AppSignaling
import WebrtcApp.Lib.CString

/-!
# The list of ICE servers

`queryAppSignalingServer` writes the STUN server and the URIs of the first TURN configuration into
the array of its caller.  It reads neither the number of configurations that the client reports nor
the capacity that `*pServerNum` has when it is called.

    placed_first                            what is written for a configuration
    queryAppSignalingServer_laid_out_iff    the list is as it should be where its entries fit, and
                                            the client has a configuration
-/

namespace WebrtcApp.IceServers

/-! ## The code -/

def statusAppSignalingInvalidInfoCount : Status := statusAppSignaling 0x06
def statusAppSignalingInvalidInfo : Status := statusAppSignaling 0x07

/-- `MAX_ICE_CONFIG_URI_LEN` of the SDK. -/
def maxIceConfigUriLen : Nat := 256

/-- `MAX_ICE_CONFIG_USER_NAME_LEN` of the SDK. -/
def maxIceConfigUserNameLen : Nat := 256

/-- `MAX_ICE_CONFIG_CREDENTIAL_LEN` of the SDK. -/
def maxIceConfigCredentialLen : Nat := 256

/-- `maxTurnServer` of `queryAppSignalingServer`. -/
def maxTurnServer : Nat := 1

structure RtcIceServer where
  urls : Buffer (maxIceConfigUriLen + 1)
  username : Buffer (maxIceConfigUserNameLen + 1)
  credential : Buffer (maxIceConfigCredentialLen + 1)

/-- An entry after the `MEMSET` of the configuration. -/
def RtcIceServer.cleared : RtcIceServer := ⟨.cleared _, .cleared _, .cleared _⟩

/-- The strings fit the buffers of the SDK, and `uriCount` has 32 bits. -/
structure IceConfigInfo where
  uris : List Chars
  userName : Chars
  password : Chars
  uriCount_lt : uris.length < UInt32.size
  uri_length_le : ∀ uri ∈ uris, uri.bytes.length ≤ maxIceConfigUriLen
  userName_length_le : userName.bytes.length ≤ maxIceConfigUserNameLen
  password_length_le : password.bytes.length ≤ maxIceConfigCredentialLen

/-- `stunUrl` is the text that is printed for the region of the channel; the client has the
configurations `configs`, and `infoCountOk` and `infoOk` say whether it answers. -/
structure IceSignaling where
  useTurn : Bool
  stunUrl : Chars
  infoCountOk : Bool
  configs : List IceConfigInfo
  infoOk : Bool

/-- `signalingClientGetIceConfigInfo` refuses an index beyond the configurations. -/
def IceSignaling.getIceConfigInfo (s : IceSignaling) (i : Nat) : Option IceConfigInfo :=
  if s.infoOk then s.configs[i]? else none

/-- The memory at `pIceServer`, the indices that are written and `uriCount`. -/
structure Placing where
  servers : Nat → RtcIceServer
  writes : List Nat
  uriCount : UInt32

/-- The three copies into one entry. -/
def RtcIceServer.copyUri (server : RtcIceServer) (info : IceConfigInfo) (uri : Chars) :
    RtcIceServer where
  urls := server.urls.strncpy uri.bytes maxIceConfigUriLen (Nat.le_succ _)
  credential :=
    server.credential.strncpy info.password.bytes maxIceConfigCredentialLen (Nat.le_succ _)
  username := server.username.strncpy info.userName.bytes maxIceConfigUserNameLen (Nat.le_succ _)

/-- One round of the loop over the URIs. -/
def placeUri (info : IceConfigInfo) (q : Placing) (uri : Chars) : Placing :=
  let i := (q.uriCount + 1).toNat
  { servers := Function.update q.servers i ((q.servers i).copyUri info uri)
    writes := q.writes ++ [i]
    uriCount := q.uriCount + 1 }

/-- The loop over the configurations, for the indices that are left. -/
def placeConfigs (s : IceSignaling) : List Nat → Placing → Status × Placing
  | [], q => (.success, q)
  | i :: is, q =>
    match s.getIceConfigInfo i with
    | none => (statusAppSignalingInvalidInfo, q)
    | some info => placeConfigs s is (info.uris.foldl (placeUri info) q)

/-- The STUN server in entry 0. -/
def placeStun (s : IceSignaling) (pIceServer : Nat → RtcIceServer) : Placing where
  servers := Function.update pIceServer 0 { pIceServer 0 with
    urls := (pIceServer 0).urls.snprintf s.stunUrl.bytes maxIceConfigUriLen (Nat.le_succ _)
      (by decide) }
  writes := [0]
  uriCount := 0

/-- What a call returns, and what it writes. -/
structure IceQuery where
  status : Status
  serverNum : UInt32
  servers : Nat → RtcIceServer
  writes : List Nat

/-- The value that `*pServerNum` has before the call is overwritten. -/
def queryAppSignalingServer (s : IceSignaling) (pIceServer : Nat → RtcIceServer)
    (_pServerNum : UInt32) : IceQuery :=
  let q := placeStun s pIceServer
  if !s.useTurn then ⟨.success, q.uriCount + 1, q.servers, q.writes⟩
  else if !s.infoCountOk then ⟨statusAppSignalingInvalidInfoCount, 1, q.servers, q.writes⟩
  else
    match placeConfigs s (List.range maxTurnServer) q with
    | (st, q) => ⟨st, if st.failed then 1 else q.uriCount + 1, q.servers, q.writes⟩

/-! ## What the loop writes -/

/-- After the URIs `done` of the first configuration. -/
structure Placed (s : IceSignaling) (pIceServer : Nat → RtcIceServer) (info : IceConfigInfo)
    (done : List Chars) (q : Placing) : Prop where
  uriCount : q.uriCount.toNat = done.length
  writes : q.writes = List.range (done.length + 1)
  stun : q.servers 0 = (placeStun s pIceServer).servers 0
  turn : ∀ k uri, done[k]? = some uri →
    q.servers (k + 1) = (pIceServer (k + 1)).copyUri info uri
  rest : ∀ i, done.length < i → q.servers i = pIceServer i

variable {s : IceSignaling} {pIceServer : Nat → RtcIceServer} {info : IceConfigInfo}

theorem placed_nil : Placed s pIceServer info [] (placeStun s pIceServer) where
  uriCount := rfl
  writes := rfl
  stun := rfl
  turn k uri h := by simp at h
  rest i hi := by
    unfold placeStun
    exact Function.update_of_ne (Nat.pos_iff_ne_zero.mp hi) _ _

theorem Placed.placeUri {done : List Chars} {q : Placing} (h : Placed s pIceServer info done q)
    (uri : Chars) (hlen : done.length + 1 < UInt32.size) :
    Placed s pIceServer info (done ++ [uri]) (placeUri info q uri) := by
  have hcount : (q.uriCount + 1).toNat = done.length + 1 := by
    rw [UInt32.toNat_add, h.uriCount]
    exact Nat.mod_eq_of_lt hlen
  have hservers : (IceServers.placeUri info q uri).servers =
      Function.update q.servers (done.length + 1)
        ((q.servers (done.length + 1)).copyUri info uri) := by
    unfold IceServers.placeUri
    simp only [hcount]
  constructor
  · rw [List.length_append]
    exact hcount
  · unfold IceServers.placeUri
    simp only
    rw [h.writes, hcount, List.length_append, List.length_singleton]
    exact List.range_succ.symm
  · rw [hservers, Function.update_of_ne (Nat.succ_ne_zero _).symm, h.stun]
  · intro k uri' hk
    rw [hservers]
    rcases Nat.lt_trichotomy k done.length with hlt | rfl | hgt
    · rw [List.getElem?_append_left hlt] at hk
      rw [Function.update_of_ne (by omega), h.turn k uri' hk]
    · rw [List.getElem?_concat_length] at hk
      cases hk
      rw [Function.update_self, h.rest _ (Nat.lt_succ_self _)]
    · rw [List.getElem?_eq_none (by rw [List.length_append, List.length_singleton]; omega)] at hk
      cases hk
  · intro i hi
    rw [List.length_append, List.length_singleton] at hi
    rw [hservers, Function.update_of_ne (by omega), h.rest i (by omega)]

theorem Placed.placeUris {done rest : List Chars} {q : Placing}
    (h : Placed s pIceServer info done q) (hlen : (done ++ rest).length < UInt32.size) :
    Placed s pIceServer info (done ++ rest) (rest.foldl (IceServers.placeUri info) q) := by
  induction rest generalizing done q with
  | nil => rwa [List.append_nil]
  | cons uri rest ih =>
    have hsplit : done ++ uri :: rest = done ++ [uri] ++ rest := by
      rw [List.append_assoc, List.singleton_append]
    rw [hsplit] at hlen ⊢
    have hone : done.length + 1 < UInt32.size := by
      rw [List.length_append, List.length_append, List.length_singleton] at hlen
      omega
    exact ih (h.placeUri uri hone) hlen

/-- What is written for the first configuration. -/
theorem placed_first : Placed s pIceServer info info.uris
    (info.uris.foldl (placeUri info) (placeStun s pIceServer)) := by
  have hlen : ([] ++ info.uris).length < UInt32.size := info.uriCount_lt
  exact placed_nil.placeUris hlen

theorem placeConfigs_first (q : Placing) :
    placeConfigs s (List.range maxTurnServer) q =
      match s.getIceConfigInfo 0 with
      | none => (statusAppSignalingInvalidInfo, q)
      | some info => (.success, info.uris.foldl (placeUri info) q) := rfl

/-! ## The specification -/

/-- The entry carries the URI with the user name and the password of its configuration. -/
def RtcIceServer.Carries (server : RtcIceServer) (info : IceConfigInfo) (uri : Chars) : Prop :=
  server.urls.Holds uri.bytes ∧ server.username.Holds info.userName.bytes ∧
    server.credential.Holds info.password.bytes

/-- The list as the caller of a call with capacity `n` needs it. -/
structure LaidOut (s : IceSignaling) (n : UInt32) (r : IceQuery) : Prop where
  bounded : ∀ i ∈ r.writes, i < n.toNat
  stun : r.status = .success → (r.servers 0).urls.Holds s.stunUrl.bytes
  turn : r.status = .success → ∀ k, k + 1 ∈ r.writes → ∃ info uri,
    s.configs.head? = some info ∧ info.uris[k]? = some uri ∧ (r.servers (k + 1)).Carries info uri
  serverNum : r.status = .success → r.writes = List.range r.serverNum.toNat
  noConfig : s.infoCountOk = true → s.configs = [] →
    r.status = .success ∧ r.writes = [0] ∧ r.serverNum = 1

/-- The text of the STUN server fits its entry. -/
def StunFits (s : IceSignaling) : Prop := s.stunUrl.bytes.length < maxIceConfigUriLen

instance : DecidablePred StunFits := fun _ => inferInstanceAs (Decidable (_ < _))

/-- TURN is not used; or the client does not report its configurations; or it has one, and does not
return it or its URIs fit behind the STUN server. -/
def Fits (s : IceSignaling) (n : UInt32) : Prop :=
  s.useTurn = false ∧ StunFits s ∨
    s.useTurn = true ∧ (s.infoCountOk = false ∨ ∃ info, s.configs.head? = some info ∧
      (s.infoOk = false ∨ StunFits s ∧ info.uris.length + 1 ≤ n.toNat))

theorem placeStun_holds_iff :
    ((placeStun s pIceServer).servers 0).urls.Holds s.stunUrl.bytes ↔ StunFits s := by
  unfold placeStun
  simp only [Function.update_self]
  exact Buffer.holds_snprintf_iff s.stunUrl.nul_free (by decide)

theorem carries_copyUri {uri : Chars} (huri : uri ∈ info.uris) :
    (RtcIceServer.cleared.copyUri info uri).Carries info uri := by
  refine ⟨?_, ?_, ?_⟩
  · exact Buffer.holds_strncpy_cleared uri.nul_free (Nat.lt_succ_self _) (info.uri_length_le uri huri)
  · exact Buffer.holds_strncpy_cleared info.userName.nul_free (Nat.lt_succ_self _)
      info.userName_length_le
  · exact Buffer.holds_strncpy_cleared info.password.nul_free (Nat.lt_succ_self _)
      info.password_length_le

/-! ### The exits of the call -/

variable {n : UInt32}

theorem query_noTurn (h : s.useTurn = false) :
    queryAppSignalingServer s pIceServer n =
      ⟨.success, 1, (placeStun s pIceServer).servers, [0]⟩ := by
  unfold queryAppSignalingServer
  rw [h]
  rfl

theorem query_infoCountFails (h : s.useTurn = true) (hcount : s.infoCountOk = false) :
    queryAppSignalingServer s pIceServer n =
      ⟨statusAppSignalingInvalidInfoCount, 1, (placeStun s pIceServer).servers, [0]⟩ := by
  unfold queryAppSignalingServer
  rw [h, hcount]
  rfl

theorem query_infoFails (h : s.useTurn = true) (hcount : s.infoCountOk = true)
    (hinfo : s.getIceConfigInfo 0 = none) :
    queryAppSignalingServer s pIceServer n =
      ⟨statusAppSignalingInvalidInfo, 1, (placeStun s pIceServer).servers, [0]⟩ := by
  unfold queryAppSignalingServer
  rw [h, hcount]
  simp only [placeConfigs_first, hinfo]
  rfl

theorem query_turn (h : s.useTurn = true) (hcount : s.infoCountOk = true)
    (hinfo : s.getIceConfigInfo 0 = some info) :
    let q := info.uris.foldl (placeUri info) (placeStun s pIceServer)
    queryAppSignalingServer s pIceServer n = ⟨.success, q.uriCount + 1, q.servers, q.writes⟩ := by
  unfold queryAppSignalingServer
  rw [h, hcount]
  simp only [placeConfigs_first, hinfo]
  rfl

theorem getIceConfigInfo_eq_some :
    s.getIceConfigInfo 0 = some info ↔ s.infoOk = true ∧ s.configs.head? = some info := by
  unfold IceSignaling.getIceConfigInfo
  cases s.infoOk with
  | false => simp
  | true => simp [List.head?_eq_getElem?]

theorem toNat_uriCount (hlen : info.uris.length + 1 < UInt32.size) :
    ((info.uris.foldl (placeUri info) (placeStun s pIceServer)).uriCount + 1).toNat =
      info.uris.length + 1 := by
  have hp : Placed s pIceServer info info.uris
      (info.uris.foldl (placeUri info) (placeStun s pIceServer)) := placed_first
  rw [UInt32.toNat_add, hp.uriCount]
  exact Nat.mod_eq_of_lt hlen

/-- A call that succeeds reports the number of entries it has written. -/
theorem writes_of_success (hlen : ∀ info ∈ s.configs, info.uris.length + 1 < UInt32.size)
    (hok : (queryAppSignalingServer s pIceServer n).status = .success) :
    (queryAppSignalingServer s pIceServer n).writes =
      List.range (queryAppSignalingServer s pIceServer n).serverNum.toNat := by
  cases hturn : s.useTurn with
  | false =>
    rw [query_noTurn hturn]
    rfl
  | true =>
    cases hcount : s.infoCountOk with
    | false =>
      rw [query_infoCountFails hturn hcount] at hok
      cases hok
    | true =>
      cases hinfo : s.getIceConfigInfo 0 with
      | none =>
        rw [query_infoFails hturn hcount hinfo] at hok
        cases hok
      | some info =>
        have hp : Placed s pIceServer info info.uris
            (info.uris.foldl (placeUri info) (placeStun s pIceServer)) := placed_first
        have hmem := List.mem_of_head? (getIceConfigInfo_eq_some.mp hinfo).2
        rw [query_turn hturn hcount hinfo]
        simp only [hp.writes, toNat_uriCount (hlen info hmem)]

/-- A call that fails has written the STUN server only. -/
theorem laidOut_of_failed {st : Status} {servers : Nat → RtcIceServer} (hn : 0 < n.toNat)
    (hst : st ≠ .success) (hconf : s.infoCountOk = true → s.configs ≠ []) :
    LaidOut s n ⟨st, 1, servers, [0]⟩ where
  bounded i hi := by rwa [List.mem_singleton.mp hi]
  stun h := absurd h hst
  turn h := absurd h hst
  serverNum h := absurd h hst
  noConfig hcount hnil := absurd hnil (hconf hcount)

theorem laidOut_noTurn_iff (hn : 0 < n.toNat) (h : s.useTurn = false) :
    LaidOut s n (queryAppSignalingServer s pIceServer n) ↔ StunFits s := by
  rw [query_noTurn h, ← placeStun_holds_iff]
  constructor
  · intro hl
    exact hl.stun rfl
  · intro hstun
    constructor
    · intro i hi
      rwa [List.mem_singleton.mp hi]
    · exact fun _ => hstun
    · intro _ k hk
      exact absurd (List.mem_singleton.mp hk) (Nat.succ_ne_zero k)
    · exact fun _ => rfl
    · exact fun _ _ => ⟨rfl, rfl, rfl⟩

/-- The URIs of a configuration are laid out where they fit behind the STUN server. -/
theorem laidOut_turn_iff (hcleared : ∀ i < n.toNat, pIceServer i = .cleared) (h : s.useTurn = true)
    (hcount : s.infoCountOk = true) (hinfo : s.getIceConfigInfo 0 = some info) :
    LaidOut s n (queryAppSignalingServer s pIceServer n) ↔
      StunFits s ∧ info.uris.length + 1 ≤ n.toNat := by
  have hp : Placed s pIceServer info info.uris
      (info.uris.foldl (placeUri info) (placeStun s pIceServer)) := placed_first
  have hhead := (getIceConfigInfo_eq_some.mp hinfo).2
  rw [query_turn h hcount hinfo]
  constructor
  · intro hl
    constructor
    · have hstun := hl.stun rfl
      simp only [hp.stun] at hstun
      exact placeStun_holds_iff.mp hstun
    · have hlast : info.uris.length ∈ List.range (info.uris.length + 1) :=
        List.mem_range.mpr (Nat.lt_succ_self _)
      exact hl.bounded _ (hp.writes ▸ hlast)
  · rintro ⟨hstun, hfit⟩
    have hsize := n.toNat_lt_size
    have hnum : ((info.uris.foldl (placeUri info) (placeStun s pIceServer)).uriCount + 1).toNat =
        info.uris.length + 1 := toNat_uriCount (lt_of_le_of_lt hfit hsize)
    constructor
    · intro i hi
      simp only [hp.writes, List.mem_range] at hi
      omega
    · intro _
      simp only [hp.stun]
      exact placeStun_holds_iff.mpr hstun
    · intro _ k hk
      simp only [hp.writes, List.mem_range] at hk
      have hlt : k < info.uris.length := by omega
      refine ⟨info, info.uris[k], hhead, List.getElem?_eq_getElem hlt, ?_⟩
      simp only [hp.turn k _ (List.getElem?_eq_getElem hlt), hcleared (k + 1) (by omega)]
      exact carries_copyUri (List.getElem_mem hlt)
    · intro _
      simp only [hp.writes, hnum]
    · intro _ hnil
      rw [hnil] at hhead
      cases hhead

/-- The list is laid out exactly where its entries fit and the client is not asked in vain. -/
theorem queryAppSignalingServer_laid_out_iff (s : IceSignaling) (pIceServer : Nat → RtcIceServer)
    (n : UInt32) (hn : 0 < n.toNat) (hcleared : ∀ i < n.toNat, pIceServer i = .cleared) :
    LaidOut s n (queryAppSignalingServer s pIceServer n) ↔ Fits s n := by
  unfold Fits
  cases hturn : s.useTurn with
  | false => simp [laidOut_noTurn_iff hn hturn]
  | true =>
    cases hcount : s.infoCountOk with
    | false =>
      rw [query_infoCountFails hturn hcount]
      refine iff_of_true ?_ (Or.inr ⟨rfl, Or.inl rfl⟩)
      exact laidOut_of_failed hn (by decide) fun h => by simp [hcount] at h
    | true =>
      cases hconfigs : s.configs.head? with
      | none =>
        have hnil : s.configs = [] := List.head?_eq_none_iff.mp hconfigs
        have hinfo : s.getIceConfigInfo 0 = none := by
          unfold IceSignaling.getIceConfigInfo
          rw [hnil]
          simp
        rw [query_infoFails hturn hcount hinfo]
        refine iff_of_false ?_ (by simp)
        intro hl
        have hst : statusAppSignalingInvalidInfo = .success := (hl.noConfig hcount hnil).1
        exact absurd hst (by decide)
      | some info =>
        cases hok : s.infoOk with
        | false =>
          have hinfo : s.getIceConfigInfo 0 = none := by
            unfold IceSignaling.getIceConfigInfo
            rw [hok]
            rfl
          rw [query_infoFails hturn hcount hinfo]
          refine iff_of_true ?_ (Or.inr ⟨rfl, Or.inr ⟨info, rfl, Or.inl rfl⟩⟩)
          refine laidOut_of_failed hn (by decide) fun _ hnil => ?_
          rw [hnil] at hconfigs
          cases hconfigs
        | true =>
          rw [laidOut_turn_iff hcleared hturn hcount (getIceConfigInfo_eq_some.mpr ⟨hok, hconfigs⟩)]
          simp

/-! ### Concrete calls -/

/-- A client without configurations. -/
def noConfigs : IceSignaling where
  useTurn := true
  stunUrl := .repeated 9 115 (by decide)
  infoCountOk := true
  configs := []
  infoOk := true

/-- A configuration with one URI. -/
def oneUri : IceConfigInfo where
  uris := [.repeated 4 116 (by decide)]
  userName := .repeated 1 117 (by decide)
  password := .repeated 1 112 (by decide)
  uriCount_lt := by decide
  uri_length_le := by decide
  userName_length_le := by decide
  password_length_le := by decide

theorem two_entries_laid_out :
    LaidOut { noConfigs with configs := [oneUri] } 2
      (queryAppSignalingServer { noConfigs with configs := [oneUri] } (fun _ => .cleared) 2) := by
  apply (queryAppSignalingServer_laid_out_iff { noConfigs with configs := [oneUri] }
    (fun _ => .cleared) 2 (by decide) fun _ _ => rfl).mpr
  exact Or.inr ⟨rfl, Or.inr ⟨oneUri, rfl, Or.inr ⟨by decide, by decide⟩⟩⟩

/-- Without a configuration the call fails, and with room for the STUN server only it writes behind
the array. -/
theorem capacity_ignored :
    ¬ LaidOut noConfigs 1 (queryAppSignalingServer noConfigs (fun _ => .cleared) 1) ∧
      ¬ LaidOut { noConfigs with configs := [oneUri] } 1
        (queryAppSignalingServer { noConfigs with configs := [oneUri] } (fun _ => .cleared) 1) := by
  constructor
  · intro h
    have hst : (queryAppSignalingServer noConfigs (fun _ => .cleared) 1).status = .success :=
      (h.noConfig rfl rfl).1
    exact absurd hst (by decide)
  · intro h
    have hlt := h.bounded 1 (by decide)
    exact absurd hlt (by decide)

end WebrtcApp.IceServers
