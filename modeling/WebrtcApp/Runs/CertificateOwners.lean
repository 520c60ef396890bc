import WebrtcApp.App.Session
import WebrtcApp.Lib.Run

/-!
# The owners of a certificate

A certificate is made by `generateCertRoutine`, goes through the pool into a peer connection, and
`destroyCredential` frees what is still pooled.  `initializePeerConnection` forgets the certificate it
popped before it knows whether the peer connection can be created, so one that cannot leaves a
certificate behind that nobody owns.

    Inv.step                 who owns what after each call, the forgotten certificates included
    accounted_iff_nil        every certificate is accounted for where none was forgotten
    accounted_iff            so in a run where each popped certificate gets its peer connection
-/

namespace WebrtcApp

/-! ## The machine -/

/-- The loop over the pool in `destroyCredential`, and the free of the queue. -/
def AppCredential.freeGeneratedCertificates (c : AppCredential) : AppCredential :=
  ⟨c.certificates.freeAll c.generatedCertificates, []⟩

/-- `peerConnections` are those that were created, `failed` the certificates that were popped for one
that was not, and `destroyed` says that the queue of the pool is `NULL`. -/
structure CertOwners where
  app : AppConfiguration
  peerConnections : List RtcPeerConnection
  failed : List PRtcCertificate
  destroyed : Bool

inductive CertCall
  | generateCertRoutine (env : Env)
  | initializePeerConnection (env : Env)
  | destroyCredential

namespace CertOwners

/-- After `createCredential`. -/
def start (latched : Bool) : CertOwners := ⟨AppConfiguration.initApp latched, [], [], false⟩

abbrev certificates (s : CertOwners) : Arena Unit := s.app.appCredential.certificates

abbrev pool (s : CertOwners) : List PRtcCertificate := s.app.appCredential.generatedCertificates

/-- The certificates in the peer connections. -/
def used (s : CertOwners) : List PRtcCertificate := s.peerConnections.filterMap (·.certificate)

def setCredential (s : CertOwners) (c : AppCredential) : CertOwners :=
  { s with app := { s.app with appCredential := c } }

/-- The certificate that `initializePeerConnection` pops. -/
def popped (env : Env) (s : CertOwners) : Option PRtcCertificate :=
  if env.ok .queryAppSignalingServer then (popGeneratedCert env s.app.appCredential).2.1 else none

def newPeerConnection (env : Env) (s : CertOwners) : CertOwners :=
  match (initializePeerConnection env s.app).2 with
  | (some pc, app) => { s with app := app, peerConnections := s.peerConnections ++ [pc] }
  | (none, app) => { s with app := app, failed := s.failed ++ (s.popped env).toList }

def call (s : CertOwners) : CertCall → CertOwners
  | .generateCertRoutine env => s.setCredential (generateCertRoutine env s.app.appCredential).2
  | .initializePeerConnection env => s.newPeerConnection env
  | .destroyCredential =>
    { s.setCredential s.app.appCredential.freeGeneratedCertificates with destroyed := true }

/-- `destroyCredential` is the last call. -/
def step (s : CertOwners) (c : CertCall) : CertOwners := if s.destroyed then s else s.call c

end CertOwners

/-- Every certificate is in the pool, or in one peer connection, or was freed once; one whose peer
connection was not created was freed. -/
structure Accounted (s : CertOwners) : Prop where
  owner : ∀ p < s.certificates.next,
    (p ∈ s.pool ∧ p ∉ s.used ∧ s.certificates.frees p = 0) ∨
      (p ∈ s.used ∧ p ∉ s.pool ∧ s.certificates.frees p = 0) ∨
        (p ∉ s.pool ∧ p ∉ s.used ∧ s.certificates.frees p = 1)
  pooledOnce : s.pool.Nodup
  usedOnce : s.used.Nodup
  failed : ∀ p ∈ s.failed, s.certificates.frees p = 1

/-- A peer connection for which a certificate is popped is created. -/
def PoppedUsed (s : CertOwners) : CertCall → Prop
  | .initializePeerConnection env =>
    s.destroyed = false → s.pool ≠ [] → env.ok .queryAppSignalingServer = true →
      env.ok .certDequeue = true → env.ok .createPeerConnection = true
  | _ => True

/-! ## The calls -/

/-- A call adds a certificate to the pool, or one that is freed, or none. -/
theorem generateCertRoutine_cases (env : Env) (c : AppCredential) :
    (generateCertRoutine env c).2 = c ∨
      (generateCertRoutine env c).2 =
        { c with certificates := (c.certificates.alloc ()).free c.certificates.next } ∨
      (generateCertRoutine env c).2 =
        ⟨c.certificates.alloc (), c.generatedCertificates ++ [c.certificates.next]⟩ := by
  unfold generateCertRoutine
  split_ifs
  · exact Or.inl rfl
  · exact Or.inl rfl
  · exact Or.inl rfl
  · exact Or.inr (Or.inl rfl)
  · exact Or.inr (Or.inr rfl)

/-- What was popped comes before what is pooled. -/
theorem popGeneratedCert_pool (env : Env) (c : AppCredential) :
    (popGeneratedCert env c).2.1.toList ++ (popGeneratedCert env c).2.2.generatedCertificates =
        c.generatedCertificates ∧
      (popGeneratedCert env c).2.2.certificates = c.certificates := by
  unfold popGeneratedCert
  cases env.status .certDequeue <;> cases hp : c.generatedCertificates <;> simp [hp]

namespace CertOwners

variable {s : CertOwners}

theorem popped_eq_none {env : Env} :
    s.popped env = none ↔
      ¬ (env.ok .queryAppSignalingServer = true ∧ env.ok .certDequeue = true ∧ s.pool ≠ []) := by
  unfold popped popGeneratedCert
  by_cases hq : env.ok .queryAppSignalingServer = true
  · rw [if_pos hq, and_iff_right hq, Env.ok_eq_true]
    cases env.status .certDequeue <;> cases hp : s.app.appCredential.generatedCertificates <;>
      simp [pool, hp]
  · simp [hq]

/-- The popped certificate goes into the peer connection, or it is forgotten. -/
theorem initializePeerConnection_popped (env : Env) (s : CertOwners) :
    let r := initializePeerConnection env s.app
    ((r.2.1 = none ∧ (s.popped env = none ∨ env.ok .createPeerConnection = false)) ∨
        ∃ pc, r.2.1 = some pc ∧ pc.certificate = s.popped env ∧
          env.ok .createPeerConnection = true) ∧
      (s.popped env).toList ++ r.2.2.appCredential.generatedCertificates = s.pool ∧
      r.2.2.appCredential.certificates = s.certificates := by
  have hpop := popGeneratedCert_pool env s.app.appCredential
  unfold initializePeerConnection popped
  by_cases hq : env.ok .queryAppSignalingServer = true
  swap
  · simp [hq]
  by_cases hst : (popGeneratedCert env s.app.appCredential).1 = .success
  swap
  · have hnone : (popGeneratedCert env s.app.appCredential).2.1 = none := by
      unfold popGeneratedCert at hst ⊢
      cases hd : env.status .certDequeue <;> cases hp : s.app.appCredential.generatedCertificates <;>
        simp [hd, hp] at hst ⊢
    simp [hq, hst, hnone, hpop.2, ← hpop.1]
  by_cases hc : env.ok .createPeerConnection = true
  · simp [hq, hst, hc, hpop]
  · simp [hq, hst, hc, hpop]

/-- What becomes of the certificate that the call pops. -/
theorem newPeerConnection_owners (env : Env) (s : CertOwners) :
    let s' := s.newPeerConnection env
    (s.popped env).toList ++ s'.pool = s.pool ∧ s'.certificates = s.certificates ∧
      ((s'.used = s.used ∧ s'.failed = s.failed ++ (s.popped env).toList ∧
          (s.popped env = none ∨ env.ok .createPeerConnection = false)) ∨
        (s'.used = s.used ++ (s.popped env).toList ∧ s'.failed = s.failed ∧
          env.ok .createPeerConnection = true)) := by
  obtain ⟨hout, hpool, hcerts⟩ := s.initializePeerConnection_popped env
  unfold newPeerConnection
  generalize (initializePeerConnection env s.app).2 = r at hout hpool hcerts ⊢
  obtain ⟨pc, app⟩ := r
  rcases hout with ⟨hnone, hfail⟩ | ⟨pc', hsome, hcert, hok⟩
  · obtain rfl : pc = none := hnone
    exact ⟨hpool, hcerts, Or.inl ⟨rfl, rfl, hfail⟩⟩
  · obtain rfl : pc = some pc' := hsome
    refine ⟨hpool, hcerts, Or.inr ⟨?_, rfl, hok⟩⟩
    show (s.peerConnections ++ [pc']).filterMap _ = _
    rw [List.filterMap_append, ← hcert]
    cases hc : pc'.certificate <;> simp [used, hc]

/-! ## What the calls keep -/

/-- The pool, the peer connections and the forgotten certificates are all the certificates that were
not freed. -/
def Inv (s : CertOwners) : Prop := s.certificates.Owned (s.pool ++ (s.used ++ s.failed))

theorem Inv.start (latched : Bool) : (start latched).Inv := Arena.Owned.empty

theorem Inv.call (h : s.Inv) (c : CertCall) : (s.call c).Inv := by
  cases c with
  | generateCertRoutine env =>
    show Inv (s.setCredential (WebrtcApp.generateCertRoutine env s.app.appCredential).2)
    rcases generateCertRoutine_cases env s.app.appCredential with he | he | he
    · rw [he]
      exact h
    · rw [he]
      exact (h.alloc ()).free
    · rw [he]
      refine (h.alloc ()).perm ?_
      show (s.certificates.next :: (s.pool ++ (s.used ++ s.failed))).Perm
        (s.pool ++ [s.certificates.next] ++ (s.used ++ s.failed))
      rw [List.append_assoc]
      exact List.perm_middle.symm
  | initializePeerConnection env =>
    obtain ⟨hpool, hcerts, hout⟩ := newPeerConnection_owners env s
    show (s.newPeerConnection env).certificates.Owned _
    rw [hcerts]
    apply Arena.Owned.perm h
    show (s.pool ++ (s.used ++ s.failed)).Perm ((s.newPeerConnection env).pool ++
      ((s.newPeerConnection env).used ++ (s.newPeerConnection env).failed))
    rw [← hpool, List.perm_iff_count]
    intro p
    rcases hout with ⟨hused, hfailed, -⟩ | ⟨hused, hfailed, -⟩
    · rw [hused, hfailed]
      simp only [List.count_append]
      omega
    · rw [hused, hfailed]
      simp only [List.count_append]
      omega
  | destroyCredential => exact h.freeAll

theorem Inv.step (h : s.Inv) (c : CertCall) : (s.step c).Inv := by
  unfold CertOwners.step
  split
  · exact h
  · exact h.call c

/-- Every certificate is accounted for where none was forgotten. -/
theorem Inv.accounted_iff_nil (h : s.Inv) : Accounted s ↔ s.failed = [] := by
  constructor
  · intro ha
    rw [List.eq_nil_iff_forall_not_mem]
    intro p hp
    have hlive := h.frees_eq_zero (List.mem_append_right _ (List.mem_append_right _ hp))
    rw [ha.failed p hp] at hlive
    cases hlive
  · intro hnil
    unfold Inv at h
    rw [hnil, List.append_nil] at h
    obtain ⟨hpool, hused, hdisj⟩ := List.nodup_append.mp h.nodup
    refine ⟨?_, hpool, hused, ?_⟩
    · intro p hp
      by_cases h1 : p ∈ s.pool
      · have h2 : p ∉ s.used := fun h2 => hdisj p h1 p h2 rfl
        exact Or.inl ⟨h1, h2, h.frees_eq_zero (List.mem_append_left _ h1)⟩
      · by_cases h2 : p ∈ s.used
        · exact Or.inr (Or.inl ⟨h2, h1, h.frees_eq_zero (List.mem_append_right _ h2)⟩)
        · have hnot : p ∉ s.pool ++ s.used := by
            rw [List.mem_append]
            exact not_or.mpr ⟨h1, h2⟩
          exact Or.inr (Or.inr ⟨h1, h2, h.frees_of_not_mem hp hnot⟩)
    · rw [hnil]
      nofun

/-- A certificate is forgotten where one is popped and the peer connection is not created. -/
theorem failed_newPeerConnection (hnil : s.failed = []) (env : Env) :
    (s.newPeerConnection env).failed = [] ↔
      (s.popped env = none ∨ env.ok .createPeerConnection = true) := by
  obtain ⟨-, -, hout⟩ := newPeerConnection_owners env s
  rcases hout with ⟨-, hfailed, hnone⟩ | ⟨-, hfailed, hok⟩
  · rw [hfailed, hnil, List.nil_append]
    constructor
    · intro h
      left
      cases hp : s.popped env with
      | none => rfl
      | some p =>
        rw [hp] at h
        cases h
    · rintro (h | h)
      · rw [h]
        rfl
      · rcases hnone with hnone | hnone
        · rw [hnone]
          rfl
        · rw [h] at hnone
          cases hnone
  · rw [hfailed]
    exact iff_of_true hnil (Or.inr hok)

theorem failed_step (hnil : s.failed = []) (c : CertCall) :
    PoppedUsed s c ↔ (s.step c).failed = [] := by
  unfold step
  cases hd : s.destroyed with
  | true =>
    refine iff_of_true ?_ hnil
    cases c with
    | initializePeerConnection env =>
      intro hd'
      rw [hd] at hd'
      cases hd'
    | generateCertRoutine env => trivial
    | destroyCredential => trivial
  | false =>
    rw [if_neg Bool.false_ne_true]
    cases c with
    | generateCertRoutine env => exact iff_of_true trivial hnil
    | destroyCredential => exact iff_of_true trivial hnil
    | initializePeerConnection env =>
      show _ ↔ (s.newPeerConnection env).failed = []
      rw [failed_newPeerConnection hnil, popped_eq_none]
      constructor
      · intro h
        by_cases hp : env.ok .queryAppSignalingServer = true ∧ env.ok .certDequeue = true ∧ s.pool ≠ []
        · exact Or.inr (h hd hp.2.2 hp.1 hp.2.1)
        · exact Or.inl hp
      · rintro (h | h) _ hne hq hdq
        · exact absurd ⟨hq, hdq, hne⟩ h
        · exact h

end CertOwners

/-! ## The runs -/

/-- Every certificate is accounted for in every state of a run exactly where each popped certificate
gets its peer connection. -/
theorem accounted_iff (latched : Bool) (calls : List CertCall) :
    (∀ cs, cs <+: calls → Accounted (Run.exec CertOwners.step (CertOwners.start latched) cs)) ↔
      Run.Along CertOwners.step PoppedUsed (CertOwners.start latched) calls := by
  have h0 := (CertOwners.Inv.start latched).accounted_iff_nil.mpr rfl
  refine (Run.along_iff_prefix (fun s call hs => hs.step call) ?_ (CertOwners.Inv.start latched) h0
    calls).symm
  intro s call hs ha
  rw [(hs.step call).accounted_iff_nil]
  exact CertOwners.failed_step (hs.accounted_iff_nil.mp ha) call

/-- `createPeerConnection` fails. -/
def Env.peerConnectionRefused : Env :=
  { Env.allOk with status := fun call => if call = .createPeerConnection then .sdk 1 else .success }

/-- A certificate is popped for a peer connection that cannot be created. -/
theorem refused_certificate_not_freed :
    ¬ Accounted (Run.exec CertOwners.step (CertOwners.start true)
      [.generateCertRoutine Env.allOk, .initializePeerConnection Env.peerConnectionRefused,
        .destroyCredential]) := by
  intro h
  exact absurd (h.failed 0 (by decide +kernel)) (by decide +kernel)

end WebrtcApp
