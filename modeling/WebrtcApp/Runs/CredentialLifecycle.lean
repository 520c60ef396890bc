import WebrtcApp.App.Session
import WebrtcApp.Runs.InitStages

/-!
# The credential from `createCredential` to `destroyCredential`

Any sequence of calls on one credential.  `destroyCredential` leaves at a provider that it cannot
free, before the lock, and takes the provider's type with it: no later call releases that provider.
`createCredential` calls it on what it has built so far, and clears the fields it finds.

    toCredential_generateCertRoutine    the pool is that of App/Session
    Sound.step                          what the calls keep: who holds which resource
    intact_step                         the calls that lose nothing
    released_iff                        everything is released exactly where no call lost something
-/

namespace WebrtcApp.Lifecycle

/-! ## The calls on the pool -/

namespace App

/-- `STATUS_NULL_ARG`, which the queue returns where there is none. -/
def statusNullArg : Status := .sdk 1

def generateCertRoutine (env : Env) (a : App) : Status × App :=
  match a.slots .generatedCertificates with
  | none => (statusNullArg, a)
  | some _ =>
    if !env.ok .certGetCount then (env.status .certGetCount, a)
    else if a.certificates.length > maxRtcConfigurationCertificates then (.success, a)
    else if !env.ok .createRtcCertificate then (.appCredentialCertCreate, a)
    else
      let p := a.resources.next
      let a := { a with resources := a.resources.alloc .rtcCertificate }
      if !env.ok .certEnqueue then
        (.appCredentialCertStack, { a with resources := a.resources.free p })
      else (.success, { a with certificates := a.certificates ++ [p] })

def popGeneratedCert (env : Env) (a : App) : Status × Option PRtcCertificate × App :=
  match a.slots .generatedCertificates with
  | none => (statusNullArg, none, a)
  | some _ =>
    match env.status .certDequeue, a.certificates with
    | .success, [] => (.success, none, a)
    | .success, p :: ps => (.success, some p, { a with certificates := ps })
    | .notFound, _ => (.success, none, a)
    | st, _ => (st, none, a)

/-- The credential as `App/Session` sees it: the pool, and which objects are live. -/
def toCredential (a : App) : AppCredential := ⟨a.resources.map fun _ => (), a.certificates⟩

theorem toCredential_generateCertRoutine {a : App} (env : Env)
    (hq : a.slots .generatedCertificates ≠ none) :
    ((a.generateCertRoutine env).1, (a.generateCertRoutine env).2.toCredential) =
      WebrtcApp.generateCertRoutine env a.toCredential := by
  unfold generateCertRoutine WebrtcApp.generateCertRoutine
  cases hs : a.slots .generatedCertificates with
  | none => exact absurd hs hq
  | some q =>
    simp only [toCredential, Arena.next_map]
    split_ifs
    · rfl
    · rfl
    · rfl
    · rw [Arena.map_free, Arena.map_alloc]
    · rw [Arena.map_alloc]

theorem toCredential_popGeneratedCert {a : App} (env : Env)
    (hq : a.slots .generatedCertificates ≠ none) :
    ((a.popGeneratedCert env).1, (a.popGeneratedCert env).2.1,
        (a.popGeneratedCert env).2.2.toCredential) =
      WebrtcApp.popGeneratedCert env a.toCredential := by
  unfold popGeneratedCert WebrtcApp.popGeneratedCert
  cases hs : a.slots .generatedCertificates with
  | none => exact absurd hs hq
  | some q =>
    cases env.status .certDequeue <;> cases hc : a.certificates <;> simp [toCredential, hc]

/-- A call adds a certificate to the pool, or one that is freed, or none. -/
theorem generateCertRoutine_cases (env : Env) (a : App) :
    (a.generateCertRoutine env).2 = a ∨
      (a.generateCertRoutine env).2 =
        { a with resources := (a.resources.alloc .rtcCertificate).free a.resources.next } ∨
      (a.slots .generatedCertificates ≠ none ∧
        (a.generateCertRoutine env).2 = { a with
          resources := a.resources.alloc .rtcCertificate
          certificates := a.certificates ++ [a.resources.next] }) := by
  unfold generateCertRoutine
  cases a.slots .generatedCertificates with
  | none => exact Or.inl rfl
  | some q =>
    simp only
    split_ifs
    · exact Or.inl rfl
    · exact Or.inl rfl
    · exact Or.inl rfl
    · exact Or.inr (Or.inl rfl)
    · exact Or.inr (Or.inr ⟨nofun, rfl⟩)

/-- What was popped comes before what is pooled. -/
theorem popGeneratedCert_certificates (env : Env) (a : App) :
    ∃ ps, (a.popGeneratedCert env).2.2 = { a with certificates := ps } ∧
      (a.popGeneratedCert env).2.1.toList ++ ps = a.certificates := by
  unfold popGeneratedCert
  cases a.slots .generatedCertificates with
  | none => exact ⟨a.certificates, rfl, rfl⟩
  | some q =>
    cases env.status .certDequeue with
    | success =>
      cases hc : a.certificates with
      | nil => exact ⟨[], by simp [← hc], rfl⟩
      | cons p ps => exact ⟨ps, rfl, rfl⟩
    | _ => exact ⟨a.certificates, rfl, rfl⟩

end App

/-! ## The machine -/

/-- `handedOut` are the certificates that were popped, and `overwritten` is what `createCredential`
found in the fields it cleared. -/
structure CredentialRun where
  app : App
  handedOut : List PRtcCertificate
  overwritten : List Nat

inductive CredentialCall
  | createCredential (env : InitEnv)
  | generateCertRoutine (env : Env)
  | popGeneratedCert (env : Env)
  | destroyCredential (env : InitEnv)

namespace CredentialRun

/-- A credential in a configuration as `MEMCALLOC` returns it. -/
def start : CredentialRun := ⟨⟨default, Arena.empty⟩, [], []⟩

/-- What the fields of the credential hold. -/
def held (a : App) : List Nat := Slots.handles App.credentialFields a.slots ++ a.certificates

def step (s : CredentialRun) : CredentialCall → CredentialRun
  | .createCredential env =>
    { s with app := (s.app.createCredential env).2, overwritten := s.overwritten ++ held s.app }
  | .generateCertRoutine env => { s with app := (s.app.generateCertRoutine env).2 }
  | .popGeneratedCert env =>
    { s with
      app := (s.app.popGeneratedCert env).2.2
      handedOut := s.handedOut ++ (s.app.popGeneratedCert env).2.1.toList }
  | .destroyCredential env => { s with app := (s.app.destroyCredential env).2 }

end CredentialRun

/-- The mutex, the queue and the pooled certificates have been released, and the provider has, or is
recorded with its type; nothing was released twice. -/
structure Released (s : CredentialRun) : Prop where
  generateCertLock : s.app.slots .generateCertLock = none
  generatedCertificates : s.app.slots .generatedCertificates = none
  certificates : s.app.certificates = []
  released : ∀ p < s.app.resources.next, p ∉ s.handedOut → s.app.resources.frees p = 1 ∨
    (s.app.slots .pCredentialProvider = some p ∧ s.app.credentialType ≠ .na)
  once : s.app.resources.misused = false ∧ ∀ p, s.app.resources.frees p ≤ 1

/-- `createCredential` is called on an empty credential, and a provider that is given up is freed. -/
def LosesNothing (s : CredentialRun) : CredentialCall → Prop
  | .createCredential env =>
    (∀ f ∈ App.credentialFields, s.app.slots f = none) ∧
      (App.createsProvider env = true →
        (env.ok .generateCertLock = true ∧ env.ok .certQueueCreate = true) ∨
          env.ok .freeCredentialProvider = true)
  | .destroyCredential env =>
    s.app.credentialType = .na ∨ env.ok .freeCredentialProvider = true
  | _ => True

/-! ## Clearing the credential -/

section
variable {a : App} {others : List Nat}

theorem clearCredential_clearCredential (a : App) :
    a.clearCredential.clearCredential = a.clearCredential := by
  unfold App.clearCredential
  congr
  funext f
  cases f <;> rfl

/-- What the credential held before does not matter to `createCredential`. -/
theorem createCredential_clearCredential (env : InitEnv) (a : App) :
    a.clearCredential.createCredential env = a.createCredential env := by
  unfold App.createCredential
  rw [clearCredential_clearCredential]

theorem slots_clearCredential {f : Field} (hf : f ∈ App.credentialFields) :
    a.clearCredential.slots f = none := by
  unfold App.credentialFields at hf
  rcases List.mem_cons.mp hf with rfl | hf
  · rfl
  · rcases List.mem_cons.mp hf with rfl | hf
    · rfl
    · rw [List.mem_singleton.mp hf]
      rfl

theorem slots_clearCredential_other {f : Field} (hf : f ∉ App.credentialFields) :
    a.clearCredential.slots f = a.slots f := by
  cases f <;> first | rfl | exact absurd (by decide) hf

theorem handles_all (h : ∀ f ∉ App.credentialFields, a.slots f = none) :
    Slots.handles Field.all a.slots = Slots.handles App.credentialFields a.slots := by
  have hnone : ∀ f, f ∉ App.credentialFields → a.slots f = none := h
  simp [Slots.handles, Field.all, App.credentialFields, List.filterMap_cons,
    hnone .fileLogger (by decide), hnone .appConfigurationObjLock (by decide),
    hnone .cvar (by decide), hnone .streamingSessionListReadLock (by decide),
    hnone .timerQueueHandle (by decide), hnone .signalingClientHandle (by decide),
    hnone .signalingSendMessageLock (by decide),
    hnone .pRemotePeerPendingSignalingMessages (by decide), hnone .pMsqQueue (by decide),
    hnone .pRemoteRtcPeerConnections (by decide), hnone .pMediaContext (by decide),
    hnone .codecConfLock (by decide)]

/-- What the credential held is held by nobody when the credential is cleared. -/
theorem built_clearCredential (h : App.Built others a)
    (hother : ∀ f ∉ App.credentialFields, a.slots f = none) :
    App.Built (others ++ CredentialRun.held a) a.clearCredential := by
  have hnone : ∀ f, a.clearCredential.slots f = none := by
    intro f
    by_cases hf : f ∈ App.credentialFields
    · exact slots_clearCredential hf
    · rw [slots_clearCredential_other hf]
      exact hother f hf
  have hhandles : Slots.handles Field.all a.clearCredential.slots = [] :=
    Slots.handles_eq_nil fun f _ => hnone f
  refine ⟨?_, fun _ => hnone _, fun _ => hnone _, fun _ => rfl⟩
  rw [hhandles]
  apply h.owned.perm
  rw [handles_all hother, List.perm_iff_count]
  intro p
  show _ = List.count p ([] ++ ([] ++ (others ++ CredentialRun.held a)))
  unfold CredentialRun.held
  simp only [List.count_append, List.count_nil]
  omega

end

/-! ## Who holds what -/

namespace CredentialRun

variable {s : CredentialRun}

/-- The live resources are those of the fields, the pooled and the handed out certificates, and what
`createCredential` has overwritten. -/
structure Sound (s : CredentialRun) : Prop where
  built : App.Built (s.handedOut ++ s.overwritten) s.app
  other : ∀ f ∉ App.credentialFields, s.app.slots f = none
  typed : s.app.credentialType ≠ .na → s.app.slots .pCredentialProvider ≠ none

/-- Nothing was overwritten, and a provider is there with its type only. -/
def Intact (s : CredentialRun) : Prop :=
  s.overwritten = [] ∧ (s.app.credentialType = .na → s.app.slots .pCredentialProvider = none)

theorem Sound.start : start.Sound where
  built := ⟨Arena.Owned.empty, fun _ => rfl, fun _ => rfl, fun _ => rfl⟩
  other _ _ := rfl
  typed h := absurd rfl h

/-- `createCredential` on the cleared credential. -/
theorem Sound.created (h : s.Sound) (env : InitEnv) :
    App.CredentialDone env (s.handedOut ++ (s.overwritten ++ held s.app)) s.app.clearCredential
      (s.app.createCredential env).1 (s.app.createCredential env).2 := by
  rw [← createCredential_clearCredential, ← List.append_assoc]
  exact App.createCredential_spec (built_clearCredential h.built h.other)
    (fun f hf => slots_clearCredential hf) env

theorem Sound.createCredential (h : s.Sound) (env : InitEnv) :
    (s.step (.createCredential env)).Sound where
  built := (h.created env).built
  other f hf :=
    ((h.created env).other f hf).trans ((slots_clearCredential_other hf).trans (h.other f hf))
  typed ht := by
    have hdone := h.created env
    have hsucc : (s.app.createCredential env).1 = .success := by
      by_contra hst
      exact ht (hdone.type.mpr hst)
    show (s.app.createCredential env).2.slots .pCredentialProvider ≠ none
    rw [hdone.provider, if_pos ⟨(hdone.success.mp hsucc).1, Or.inl hsucc⟩]
    exact Option.some_ne_none _

theorem Sound.generateCertRoutine (h : s.Sound) (env : Env) :
    (s.step (.generateCertRoutine env)).Sound := by
  have hstep : s.step (.generateCertRoutine env) =
    { s with app := (s.app.generateCertRoutine env).2 } := rfl
  rw [hstep]
  rcases s.app.generateCertRoutine_cases env with he | he | ⟨hq, he⟩
  · rw [he]
    exact h
  · rw [he]
    refine ⟨⟨?_, h.built.msqQueue, h.built.codecConfLock, h.built.certificates⟩, h.other, h.typed⟩
    exact (h.built.owned.alloc .rtcCertificate).free
  · rw [he]
    refine ⟨⟨?_, h.built.msqQueue, h.built.codecConfLock, fun hn => absurd hn hq⟩, h.other, h.typed⟩
    apply (h.built.owned.alloc .rtcCertificate).perm
    rw [List.perm_iff_count]
    intro p
    simp only [List.count_append, List.count_cons, List.count_nil]
    omega

theorem Sound.popGeneratedCert (h : s.Sound) (env : Env) :
    (s.step (.popGeneratedCert env)).Sound := by
  obtain ⟨ps, he, hps⟩ := s.app.popGeneratedCert_certificates env
  have hstep : s.step (.popGeneratedCert env) = { s with
      app := { s.app with certificates := ps }
      handedOut := s.handedOut ++ (s.app.popGeneratedCert env).2.1.toList } := by
    rw [← he]
    rfl
  rw [hstep]
  refine ⟨⟨?_, h.built.msqQueue, h.built.codecConfLock, ?_⟩, h.other, h.typed⟩
  · apply h.built.owned.perm
    rw [← hps, List.perm_iff_count]
    intro p
    simp only [List.count_append]
    omega
  · intro hn
    have hnil := h.built.certificates hn
    rw [← hps] at hnil
    exact (List.append_eq_nil_iff.mp hnil).2

theorem Sound.destroyCredential (h : s.Sound) (env : InitEnv) :
    (s.step (.destroyCredential env)).Sound := by
  obtain ⟨hbuilt, hother, -, htype, -⟩ := App.destroyCredential_built h.built env
  exact ⟨hbuilt, fun f hf => (hother f hf).trans (h.other f hf), fun ht => absurd htype ht⟩

theorem Sound.step (h : s.Sound) (c : CredentialCall) : (s.step c).Sound := by
  cases c with
  | createCredential env => exact h.createCredential env
  | generateCertRoutine env => exact h.generateCertRoutine env
  | popGeneratedCert env => exact h.popGeneratedCert env
  | destroyCredential env => exact h.destroyCredential env

/-! ## What is lost -/

theorem held_eq_nil (h : s.Sound) :
    held s.app = [] ↔ ∀ f ∈ App.credentialFields, s.app.slots f = none := by
  unfold held
  rw [List.append_eq_nil_iff]
  constructor
  · intro hnil f hf
    exact List.filterMap_eq_nil_iff.mp hnil.1 f hf
  · intro hnone
    exact ⟨Slots.handles_eq_nil hnone, h.built.certificates (hnone _ (by decide))⟩

theorem intact_createCredential (h : s.Sound) (hi : s.Intact) (env : InitEnv) :
    LosesNothing s (.createCredential env) ↔ (s.step (.createCredential env)).Intact := by
  have hdone := h.created env
  have hover : (s.step (.createCredential env)).overwritten = held s.app := by
    show s.overwritten ++ held s.app = _
    rw [hi.1, List.nil_append]
  unfold Intact
  rw [hover, held_eq_nil h]
  apply and_congr_right
  intro _
  show (_ → _) ↔ ((s.app.createCredential env).2.credentialType = .na →
    (s.app.createCredential env).2.slots .pCredentialProvider = none)
  rw [hdone.type, hdone.provider]
  by_cases hst : (s.app.createCredential env).1 = .success
  · exact iff_of_true (fun _ => Or.inl (hdone.success.mp hst).2) fun hne => absurd hst hne
  have hnot := mt hdone.success.mpr hst
  constructor
  · intro hfree _
    rw [if_neg]
    rintro ⟨hcreates, hs | hf⟩
    · exact hst hs
    · rcases hfree hcreates with hrest | hok
      · exact hnot ⟨hcreates, hrest⟩
      · rw [hok] at hf
        cases hf
  · intro hnone hcreates
    right
    by_contra hok
    have hprov := hnone hst
    rw [if_pos ⟨hcreates, Or.inr (Bool.eq_false_iff.mpr hok)⟩] at hprov
    cases hprov

theorem provider_destroyCredential (h : s.Sound) (env : InitEnv) :
    (s.app.destroyCredential env).2.slots .pCredentialProvider = none ↔
      (s.app.credentialType ≠ .na ∧ env.ok .freeCredentialProvider = true) ∨
        s.app.slots .pCredentialProvider = none := by
  obtain ⟨-, -, -, -, hprov⟩ := App.destroyCredential_built h.built env
  rw [hprov]
  split
  · next hok => exact iff_of_true rfl (Or.inl hok)
  · next hok => exact (or_iff_right hok).symm

theorem intact_destroyCredential (h : s.Sound) (hi : s.Intact) (env : InitEnv) :
    LosesNothing s (.destroyCredential env) ↔ (s.step (.destroyCredential env)).Intact := by
  obtain ⟨-, -, -, htype, -⟩ := App.destroyCredential_built h.built env
  have hstep : (s.step (.destroyCredential env)).Intact ↔
      (s.app.destroyCredential env).2.slots .pCredentialProvider = none :=
    ⟨fun hi' => hi'.2 htype, fun hn => ⟨hi.1, fun _ => hn⟩⟩
  rw [hstep, provider_destroyCredential h]
  constructor
  · rintro (hna | hok)
    · exact Or.inr (hi.2 hna)
    · by_cases hna : s.app.credentialType = .na
      · exact Or.inr (hi.2 hna)
      · exact Or.inl ⟨hna, hok⟩
  · rintro (⟨-, hok⟩ | hnone)
    · exact Or.inr hok
    · left
      by_contra hna
      exact h.typed hna hnone

theorem intact_generateCertRoutine (s : CredentialRun) (env : Env) :
    (s.step (.generateCertRoutine env)).Intact ↔ s.Intact := by
  show (s.overwritten = [] ∧ ((s.app.generateCertRoutine env).2.credentialType = .na →
    (s.app.generateCertRoutine env).2.slots .pCredentialProvider = none)) ↔ _
  rcases s.app.generateCertRoutine_cases env with he | he | ⟨-, he⟩
  · rw [he]
    rfl
  · rw [he]
    rfl
  · rw [he]
    rfl

theorem intact_popGeneratedCert (s : CredentialRun) (env : Env) :
    (s.step (.popGeneratedCert env)).Intact ↔ s.Intact := by
  obtain ⟨ps, he, -⟩ := s.app.popGeneratedCert_certificates env
  show (s.overwritten = [] ∧ ((s.app.popGeneratedCert env).2.2.credentialType = .na →
    (s.app.popGeneratedCert env).2.2.slots .pCredentialProvider = none)) ↔ _
  rw [he]
  rfl

/-- The calls that lose nothing. -/
theorem intact_step (h : s.Sound) (hi : s.Intact) (c : CredentialCall) :
    LosesNothing s c ↔ (s.step c).Intact := by
  cases c with
  | createCredential env => exact intact_createCredential h hi env
  | destroyCredential env => exact intact_destroyCredential h hi env
  | generateCertRoutine env =>
    exact iff_of_true trivial ((intact_generateCertRoutine s env).mpr hi)
  | popGeneratedCert env => exact iff_of_true trivial ((intact_popGeneratedCert s env).mpr hi)

/-- What is lost stays lost. -/
theorem intact_of_step (h : s.Sound) {c : CredentialCall} (hi : (s.step c).Intact) : s.Intact := by
  cases c with
  | generateCertRoutine env => exact (intact_generateCertRoutine s env).mp hi
  | popGeneratedCert env => exact (intact_popGeneratedCert s env).mp hi
  | createCredential env =>
    obtain ⟨hover, hheld⟩ := List.append_eq_nil_iff.mp hi.1
    exact ⟨hover, fun _ => (held_eq_nil h).mp hheld _ (by decide)⟩
  | destroyCredential env =>
    obtain ⟨-, -, -, htype, -⟩ := App.destroyCredential_built h.built env
    refine ⟨hi.1, fun hna => ?_⟩
    rcases (provider_destroyCredential h env).mp (hi.2 htype) with hok | hnone
    · exact absurd hna hok.1
    · exact hnone

/-! ## After destroyCredential -/

/-- A provider that is freed, or was never there, lets `destroyCredential` reach the lock. -/
theorem slots_destroyCredential (h : s.Sound) {env : InitEnv}
    (hl : LosesNothing s (.destroyCredential env)) :
    (s.app.destroyCredential env).2.slots .generateCertLock = none ∧
      (s.app.destroyCredential env).2.slots .generatedCertificates = none ∧
      (s.app.destroyCredential env).2.certificates = [] := by
  obtain ⟨a', hr, he⟩ := @App.destroyCredential_spec s.app env h.built.certificates
  have hmem : .generateCertLock ∈ App.destroyed env s.app.credentialType ∧
      .generatedCertificates ∈ App.destroyed env s.app.credentialType := by
    rcases hl with hna | hok
    · rw [hna]
      exact ⟨List.mem_cons_of_mem _ List.mem_cons_self, List.mem_cons_self⟩
    · unfold App.destroyed
      rw [hok]
      cases s.app.credentialType <;> decide
  rw [he]
  refine ⟨?_, ?_, ?_⟩
  · exact (hr.slots _).trans (if_pos hmem.1)
  · exact (hr.slots _).trans (if_pos hmem.2)
  · exact hr.certificates.trans (if_pos hmem.2)

/-- A live resource that was not handed out has not been released. -/
theorem Sound.not_released (h : s.Sound) (htype : s.app.credentialType = .na) {p : Nat}
    (hp : p ∈ Slots.handles Field.all s.app.slots ++ (s.app.certificates ++ s.overwritten)) :
    ¬ Released s := by
  intro hr
  have howned := h.built.owned
  have hperm : (Slots.handles Field.all s.app.slots ++
      (s.app.certificates ++ (s.handedOut ++ s.overwritten))).Perm
      (s.handedOut ++ (Slots.handles Field.all s.app.slots ++
        (s.app.certificates ++ s.overwritten))) := by
    rw [List.perm_iff_count]
    intro q
    simp only [List.count_append]
    omega
  have hmine := howned.perm hperm
  have hin : p ∈ s.handedOut ++ (Slots.handles Field.all s.app.slots ++
      (s.app.certificates ++ s.overwritten)) := List.mem_append_right _ hp
  have hnot : p ∉ s.handedOut := fun hout =>
    (List.nodup_append.mp hmine.nodup).2.2 p hout p hp rfl
  rcases hr.released p (hmine.lt_next hin) hnot with hone | ⟨-, hne⟩
  · rw [hmine.frees_eq_zero hin] at hone
    cases hone
  · exact hne htype

theorem released_destroyCredential (h : s.Sound) (env : InitEnv) :
    Released (s.step (.destroyCredential env)) ↔ (s.step (.destroyCredential env)).Intact := by
  have ht := h.destroyCredential env
  obtain ⟨-, -, -, htype, -⟩ := App.destroyCredential_built h.built env
  constructor
  · intro hr
    constructor
    · rw [List.eq_nil_iff_forall_not_mem]
      intro p hp
      exact ht.not_released htype (List.mem_append_right _ (List.mem_append_right _ hp)) hr
    · intro _
      rw [Option.eq_none_iff_forall_ne_some]
      intro p hp
      exact ht.not_released htype
        (List.mem_append_left _ (Slots.mem_handles (App.mem_all _) hp)) hr
  · intro hi
    have hl := (intact_destroyCredential h (intact_of_step h hi) env).mpr hi
    obtain ⟨hlock, hqueue, hcerts⟩ := slots_destroyCredential h hl
    have hnone : ∀ f, (s.step (.destroyCredential env)).app.slots f = none := by
      intro f
      by_cases hf : f ∈ App.credentialFields
      · unfold App.credentialFields at hf
        simp only [List.mem_cons, List.not_mem_nil, or_false] at hf
        rcases hf with rfl | rfl | rfl
        · exact hi.2 htype
        · exact hlock
        · exact hqueue
      · exact ht.other f hf
    have howned := ht.built.owned
    rw [Slots.handles_eq_nil fun f _ => hnone f, hi.1, List.append_nil] at howned
    change Arena.Owned _ ([] ++ ((s.app.destroyCredential env).2.certificates ++ _)) at howned
    rw [hcerts] at howned
    refine ⟨hlock, hqueue, hcerts, ?_, howned.unmisused, howned.once⟩
    intro p hp hnot
    exact Or.inl (howned.frees_of_not_mem hp hnot)

end CredentialRun

/-! ## The runs -/

/-- After `destroyCredential` everything is released as it should be exactly where no call before
lost something. -/
theorem released_iff (calls : List CredentialCall) (env : InitEnv) :
    Released (Run.exec CredentialRun.step CredentialRun.start
        (calls ++ [.destroyCredential env])) ↔
      Run.Along CredentialRun.step LosesNothing CredentialRun.start
        (calls ++ [.destroyCredential env]) := by
  have hsound := Run.exec_invariant (I := CredentialRun.Sound) (fun s c hs => hs.step c)
    CredentialRun.Sound.start calls
  have hintact : CredentialRun.start.Intact := ⟨rfl, fun _ => rfl⟩
  have hiff : Run.Along CredentialRun.step LosesNothing CredentialRun.start
      (calls ++ [.destroyCredential env]) ↔ _ :=
    Run.along_iff_exec (I := CredentialRun.Sound) (fun s c hs => hs.step c)
      (fun s c hs hi => CredentialRun.intact_step hs hi c)
      (fun s c hs hi => CredentialRun.intact_of_step hs hi) CredentialRun.Sound.start hintact
      (calls ++ [.destroyCredential env])
  rw [hiff, Run.exec_append]
  exact CredentialRun.released_destroyCredential hsound env

/-- A provider of static credentials; `freeAppStaticCredentialProvider` may fail. -/
def staticCredential (freed : Bool) : InitEnv where
  status call := if call = .freeCredentialProvider ∧ freed = false then .sdk 1 else .success
  credentialType := .static
  fileLogging := false

/-- The provider cannot be freed: the mutex is still there, and a second call does not release the
provider. -/
theorem provider_forgotten :
    ¬ Released (Run.exec CredentialRun.step CredentialRun.start
        [.createCredential (staticCredential true), .destroyCredential (staticCredential false)]) ∧
      ¬ Released (Run.exec CredentialRun.step CredentialRun.start
        [.createCredential (staticCredential true), .destroyCredential (staticCredential false),
          .destroyCredential (staticCredential true)]) := by
  constructor
  · intro h
    exact absurd h.generateCertLock (by decide +kernel)
  · intro h
    exact absurd (h.released 0 (by decide +kernel) (by decide +kernel)) (by decide +kernel)

end WebrtcApp.Lifecycle
