import WebrtcApp.App.Lifecycle

/-!
# The stages of `initApp`, and the way back through `freeApp`

`Built others a`: what the configuration holds are exactly the live resources beside `others`.
Every stage of `initApp` keeps it, but for `initMediaSource`, which can lose its context.
`Releases fs a a'`: the fields `fs` were given back, and nothing else happened.

    createCredential_spec     the credential, and what its own cleanup leaves
    run_middleSteps           the stages that fill a field of their own, or fail
    initMediaSource_spec      the media source, or a context that nobody points to
    initSteps_spec            the configuration where the stages stop
    teardown_owned            freeApp gives back what it holds, but for the provider
-/

namespace WebrtcApp.Lifecycle

namespace App

section
variable {a : App} {env : InitEnv} {f g : Field} {r : Resource} {others ps : List Nat}

/-! ## One field -/

theorem all_nodup : Field.all.Nodup := by decide

theorem mem_all (f : Field) : f ∈ Field.all := by cases f <;> decide

theorem slots_store (f g : Field) (r : Resource) :
    (a.store f r).slots g = if g = f then some a.resources.next else a.slots g :=
  Function.update_apply ..

@[simp] theorem next_store (f : Field) (r : Resource) :
    (a.store f r).resources.next = a.resources.next + 1 := Arena.next_alloc ..

theorem slots_release (f g : Field) :
    (a.release f).slots g = if g = f then none else a.slots g := by
  unfold release
  split
  · next hf =>
    split
    · next hg => rw [hg, hf]
    · rfl
  · exact Function.update_apply ..

@[simp] theorem certificates_release (f : Field) : (a.release f).certificates = a.certificates := by
  unfold release
  split <;> rfl

@[simp] theorem credentialType_release (f : Field) :
    (a.release f).credentialType = a.credentialType := by
  unfold release
  split <;> rfl

@[simp] theorem next_release (f : Field) : (a.release f).resources.next = a.resources.next := by
  unfold release
  split
  · rfl
  · exact Arena.next_free ..

theorem owned_store (h : a.resources.Owned (Slots.handles Field.all a.slots ++ ps))
    (hf : a.slots f = none) (r : Resource) :
    (a.store f r).resources.Owned (Slots.handles Field.all (a.store f r).slots ++ ps) :=
  Slots.owned_acquire all_nodup (mem_all f) hf h r

theorem owned_release (h : a.resources.Owned (Slots.handles Field.all a.slots ++ ps)) (f : Field) :
    (a.release f).resources.Owned (Slots.handles Field.all (a.release f).slots ++ ps) := by
  unfold release
  split
  · exact h
  · next hf => exact Slots.owned_release all_nodup (mem_all f) hf h

/-! ## What is held -/

/-- The live resources are those of the fields, the certificates and `others`; and what lies inside
an object is there only with the object. -/
structure Built (others : List Nat) (a : App) : Prop where
  owned : a.resources.Owned (Slots.handles Field.all a.slots ++ (a.certificates ++ others))
  msqQueue : a.slots .pRemotePeerPendingSignalingMessages = none → a.slots .pMsqQueue = none
  codecConfLock : a.slots .pMediaContext = none → a.slots .codecConfLock = none
  certificates : a.slots .generatedCertificates = none → a.certificates = []

/-- From `a` to `a'` the fields `fs` were released, and nothing else happened. -/
structure Releases (fs : List Field) (a a' : App) : Prop where
  slots : ∀ g, a'.slots g = if g ∈ fs then none else a.slots g
  certificates : a'.certificates = if .generatedCertificates ∈ fs then [] else a.certificates
  credentialType : a'.credentialType = a.credentialType
  next : a'.resources.next = a.resources.next
  owned : ∀ {ps}, a.resources.Owned (Slots.handles Field.all a.slots ++ (a.certificates ++ ps)) →
    a'.resources.Owned (Slots.handles Field.all a'.slots ++ (a'.certificates ++ ps))

theorem releases_release (hf : f ≠ .generatedCertificates) : Releases [f] a (a.release f) where
  slots g := by
    rw [slots_release]
    simp only [List.mem_singleton]
  certificates := by
    rw [certificates_release, if_neg]
    exact fun h => hf (List.mem_singleton.mp h).symm
  credentialType := credentialType_release f
  next := next_release f
  owned h := by
    rw [certificates_release]
    exact owned_release h f

theorem Releases.trans {fs gs : List Field} {a' a'' : App} (h : Releases fs a a')
    (h' : Releases gs a' a'') : Releases (fs ++ gs) a a'' where
  slots g := by
    rw [h'.slots, h.slots]
    by_cases hf : g ∈ fs <;> by_cases hg : g ∈ gs <;> simp [hf, hg]
  certificates := by
    rw [h'.certificates, h.certificates]
    by_cases hf : Field.generatedCertificates ∈ fs <;>
      by_cases hg : Field.generatedCertificates ∈ gs <;> simp [hf, hg]
  credentialType := h'.credentialType.trans h.credentialType
  next := h'.next.trans h.next
  owned ho := h'.owned (h.owned ho)

/-- Fields that are empty need no call. -/
theorem releases_of_empty {fs : List Field} (h : ∀ f ∈ fs, a.slots f = none)
    (hc : .generatedCertificates ∈ fs → a.certificates = []) : Releases fs a a where
  slots g := by
    split
    · next hg => exact h g hg
    · rfl
  certificates := by
    split
    · next hg => exact hc hg
    · rfl
  credentialType := rfl
  next := rfl
  owned ho := ho

theorem Releases.pair {f g : Field} (hf : f ≠ .generatedCertificates)
    (hg : g ≠ .generatedCertificates) : Releases [f, g] a ((a.release f).release g) :=
  (releases_release hf).trans (releases_release hg)

/-- An object and what is inside it. -/
theorem releases_nested {inner outer : Field} (hi : inner ≠ .generatedCertificates)
    (ho : outer ≠ .generatedCertificates) (h : a.slots outer = none → a.slots inner = none) :
    Releases [inner, outer] a
      (match a.slots outer with
      | none => a
      | some _ => (a.release inner).release outer) := by
  split
  · next hnone =>
    refine releases_of_empty (fun f hf => ?_) fun hg => ?_
    · rcases List.mem_cons.mp hf with rfl | hf
      · exact h hnone
      · rw [List.mem_singleton.mp hf]
        exact hnone
    · rcases List.mem_cons.mp hg with hg | hg
      · exact absurd hg.symm hi
      · exact absurd (List.mem_singleton.mp hg).symm ho
  · exact Releases.pair hi ho

theorem releases_freeConnectionMsgQ
    (h : a.slots .pRemotePeerPendingSignalingMessages = none → a.slots .pMsqQueue = none) :
    Releases [.pMsqQueue, .pRemotePeerPendingSignalingMessages] a a.freeConnectionMsgQ :=
  releases_nested (by decide) (by decide) h

theorem releases_detroyMediaSource
    (h : a.slots .pMediaContext = none → a.slots .codecConfLock = none) :
    Releases [.codecConfLock, .pMediaContext] a a.detroyMediaSource :=
  releases_nested (by decide) (by decide) h

/-- The certificates go with their queue. -/
theorem releases_freeGeneratedCertificates
    (h : a.slots .generatedCertificates = none → a.certificates = []) :
    Releases [.generatedCertificates] a a.freeGeneratedCertificates := by
  unfold freeGeneratedCertificates
  split
  · next hnone =>
    refine releases_of_empty (fun f hf => ?_) fun _ => h hnone
    rw [List.mem_singleton.mp hf]
    exact hnone
  constructor
  · intro g
    rw [slots_release]
    simp only [List.mem_singleton]
  · rw [certificates_release, if_pos (List.mem_singleton.mpr rfl)]
  · rw [credentialType_release]
  · rw [next_release]
    exact Arena.next_freeAll ..
  · intro ps ho
    rw [certificates_release]
    exact owned_release (Arena.Owned.freeAll (ho.perm (List.perm_append_comm_assoc ..))) _

/-! ## destroyCredential -/

/-- The fields `destroyCredential` releases. -/
def destroyed (env : InitEnv) : AppCredentialType → List Field
  | .na => [.generatedCertificates, .generateCertLock]
  | _ =>
    if env.ok .freeCredentialProvider then
      [.generatedCertificates, .pCredentialProvider, .generateCertLock]
    else [.generatedCertificates]

theorem destroyCredential_spec (h : a.slots .generatedCertificates = none → a.certificates = []) :
    ∃ a', Releases (destroyed env a.credentialType) a a' ∧
      (a.destroyCredential env).2 = { a' with credentialType := .na } := by
  have hcert := releases_freeGeneratedCertificates h
  have hall : Releases [.generatedCertificates, .pCredentialProvider, .generateCertLock] a
      ((a.freeGeneratedCertificates.release .pCredentialProvider).release .generateCertLock) :=
    (hcert.trans (releases_release (by decide))).trans (releases_release (by decide))
  have htype := hcert.credentialType
  unfold destroyCredential
  simp only [htype]
  cases ht : a.credentialType with
  | na =>
    refine ⟨_, hcert.trans (releases_release (by decide)), ?_⟩
    have hna : (a.freeGeneratedCertificates.release .generateCertLock).credentialType = .na := by
      rw [credentialType_release, htype, ht]
    show a.freeGeneratedCertificates.release .generateCertLock = _
    rw [← hna]
  | _ =>
    unfold destroyed
    by_cases hok : env.ok .freeCredentialProvider = true
    · simp only [hok, if_true]
      exact ⟨_, hall, rfl⟩
    · simp only [hok, Bool.false_eq_true, if_false]
      exact ⟨_, hcert, rfl⟩

/-! ## createCredential -/

/-- A field is filled; the inner ones once the object around them is there. -/
theorem Built.store (h : Built others a) (hf : a.slots f = none)
    (hq : f = .pMsqQueue → a.slots .pRemotePeerPendingSignalingMessages ≠ none)
    (hm : f = .codecConfLock → a.slots .pMediaContext ≠ none) (r : Resource) :
    Built others (a.store f r) := by
  have hkeep : ∀ g, (a.store f r).slots g = none → a.slots g = none := by
    intro g hg
    rw [slots_store] at hg
    split at hg
    · cases hg
    · exact hg
  refine ⟨owned_store h.owned hf r, fun hs => ?_, fun hs => ?_, fun hs => h.certificates (hkeep _ hs)⟩
  · rw [slots_store, if_neg fun e => hq e.symm (hkeep _ hs)]
    exact h.msqQueue (hkeep _ hs)
  · rw [slots_store, if_neg fun e => hm e.symm (hkeep _ hs)]
    exact h.codecConfLock (hkeep _ hs)

/-- Fields are released; the outer ones with what is inside. -/
theorem Built.of_releases {fs : List Field} {a' : App} (h : Built others a) (hr : Releases fs a a')
    (hq : .pRemotePeerPendingSignalingMessages ∈ fs → .pMsqQueue ∈ fs)
    (hm : .pMediaContext ∈ fs → .codecConfLock ∈ fs) : Built others a' := by
  have hinner : ∀ {f g : Field}, (f ∈ fs → g ∈ fs) → (a.slots f = none → a.slots g = none) →
      a'.slots f = none → a'.slots g = none := by
    intro f g hin hnone hf
    rw [hr.slots] at hf ⊢
    by_cases hg : g ∈ fs
    · exact if_pos hg
    · rw [if_neg (mt hin hg)] at hf
      rw [if_neg hg]
      exact hnone hf
  refine ⟨hr.owned h.owned, hinner hq h.msqQueue, hinner hm h.codecConfLock, fun hc => ?_⟩
  rw [hr.slots] at hc
  rw [hr.certificates]
  split
  · rfl
  · next hnot =>
    rw [if_neg hnot] at hc
    exact h.certificates hc

def credentialFields : List Field := [.pCredentialProvider, .generateCertLock, .generatedCertificates]

theorem destroyed_subset (env : InitEnv) (t : AppCredentialType) :
    destroyed env t ⊆ credentialFields := by
  unfold destroyed
  cases t <;> cases env.ok .freeCredentialProvider <;> decide

/-- What `destroyCredential` leaves of the credential it is given: at most the provider and its
lock. -/
theorem destroyCredential_built (h : Built others a) (env : InitEnv) :
    let a' := (a.destroyCredential env).2
    Built others a' ∧ (∀ f ∉ credentialFields, a'.slots f = a.slots f) ∧
      a'.resources.next = a.resources.next ∧ a'.credentialType = .na ∧
      a'.slots .pCredentialProvider =
        if a.credentialType ≠ .na ∧ env.ok .freeCredentialProvider = true then none
        else a.slots .pCredentialProvider := by
  obtain ⟨a', hr, he⟩ := @destroyCredential_spec a env h.certificates
  have hsub := destroyed_subset env a.credentialType
  have hb := h.of_releases hr (fun hin => absurd (hsub hin) (by decide))
    fun hin => absurd (hsub hin) (by decide)
  simp only [he]
  refine ⟨⟨hb.owned, hb.msqQueue, hb.codecConfLock, hb.certificates⟩, fun f hf => ?_, hr.next,
    trivial, ?_⟩
  · rw [hr.slots, if_neg fun hin => hf (hsub hin)]
  · rw [hr.slots]
    cases ht : a.credentialType <;> cases hok : env.ok .freeCredentialProvider <;>
      simp [destroyed, hok]

/-- A provider is created once the credential is reached. -/
def createsProvider (env : InitEnv) : Bool :=
  env.ok .searchSslCert && env.credentialType != .na && env.ok .createCredentialProvider

theorem clearCredential_eq (hempty : ∀ f ∈ credentialFields, a.slots f = none)
    (hc : a.certificates = []) : a.clearCredential = { a with credentialType := .na } := by
  have hslots : (a.clearCredential).slots = a.slots := by
    funext f
    unfold clearCredential
    cases f <;> first | rfl | exact (hempty _ (by decide)).symm
  unfold clearCredential at hslots ⊢
  rw [hc]
  congr

theorem not_ok_iff (call : InitCall) : env.status call ≠ .success ↔ env.ok call = false := by
  simp [InitEnv.ok]

/-- With a provider: its field and its type. -/
def withProvider (t : AppCredentialType) (a : App) : App :=
  { a.store .pCredentialProvider .credentialProvider with credentialType := t }

/-- Where the steps of `createCredential` stop. -/
theorem run_credentialSteps (env : InitEnv) (a : App) :
    (createsProvider env = false ∧ (Stages.run .success (credentialSteps env) a).1 ≠ .success ∧
        (Stages.run .success (credentialSteps env) a).2 = a) ∨
      (createsProvider env = true ∧ env.credentialType ≠ .na ∧
        Stages.run .success (credentialSteps env) a =
          if env.ok .generateCertLock = false then
            (.appCredentialInvalidMutex, a.withProvider env.credentialType)
          else if env.ok .certQueueCreate = false then
            (.appCredentialPregeneratedCertQueue,
              (a.withProvider env.credentialType).store .generateCertLock .mutex)
          else
            (.success, ((a.withProvider env.credentialType).store .generateCertLock .mutex).store
              .generatedCertificates .stackQueue)) := by
  unfold createsProvider credentialSteps
  cases h1 : env.ok .searchSslCert with
  | false =>
    have hst := (not_ok_iff _).mpr h1
    simp [Stages.run, chk, hst]
  | true =>
    have hst : env.status .searchSslCert = .success := beq_iff_eq.mp h1
    cases ht : env.credentialType with
    | na => simp [Stages.run, chk, hst, createProvider, ht]
    | _ =>
      cases h2 : env.ok .createCredentialProvider <;> cases h3 : env.ok .generateCertLock <;>
        cases h4 : env.ok .certQueueCreate <;>
        simp [Stages.run, chk, hst, createProvider, ht, h2, h3, h4, acquire, withProvider,
          AppCredentialType.allocateStatus]

theorem Built.withType (h : Built others a) (t : AppCredentialType) :
    Built others { a with credentialType := t } :=
  ⟨h.owned, h.msqQueue, h.codecConfLock, h.certificates⟩

/-- The outcome of `createCredential`: with a provider at the end or, where its own cleanup could
not free it, with a provider of no type. -/
structure CredentialDone (env : InitEnv) (others : List Nat) (a : App) (st : AppStatus) (a' : App) :
    Prop where
  built : Built others a'
  other : ∀ f ∉ credentialFields, a'.slots f = a.slots f
  next : a.resources.next ≤ a'.resources.next
  success : st = .success ↔ createsProvider env = true ∧ env.ok .generateCertLock = true ∧
    env.ok .certQueueCreate = true
  type : a'.credentialType = .na ↔ st ≠ .success
  provider : a'.slots .pCredentialProvider =
    if createsProvider env = true ∧ (st = .success ∨ env.ok .freeCredentialProvider = false) then
      some a.resources.next else none

/-- The cleanup after a step that failed. -/
theorem CredentialDone.of_failed {st : AppStatus} {a1 : App} (hst : st ≠ .success)
    (h1 : Built others a1) (hother : ∀ f ∉ credentialFields, a1.slots f = a.slots f)
    (hnext : a.resources.next ≤ a1.resources.next)
    (hsucc : ¬ (createsProvider env = true ∧ env.ok .generateCertLock = true ∧
      env.ok .certQueueCreate = true))
    (htype : a1.credentialType ≠ .na ↔ createsProvider env = true)
    (hp : a1.slots .pCredentialProvider =
      if createsProvider env = true then some a.resources.next else none) :
    CredentialDone env others a st (a1.destroyCredential env).2 := by
  obtain ⟨hb, ho, hn, hna, hprov⟩ := destroyCredential_built h1 env
  refine ⟨hb, fun f hf => (ho f hf).trans (hother f hf), hn ▸ hnext, iff_of_false hst hsucc,
    iff_of_true hna hst, ?_⟩
  rw [hprov]
  simp only [htype, hp]
  cases createsProvider env <;> cases env.ok .freeCredentialProvider <;> simp [hst]

/-- From `a` a provider was created, and perhaps more of the credential. -/
structure HasProvider (others : List Nat) (a a1 : App) : Prop where
  built : Built others a1
  other : ∀ f ∉ credentialFields, a1.slots f = a.slots f
  next : a.resources.next ≤ a1.resources.next
  type : a1.credentialType ≠ .na
  provider : a1.slots .pCredentialProvider = some a.resources.next

theorem slots_withProvider (t : AppCredentialType) (g : Field) :
    (a.withProvider t).slots g =
      if g = .pCredentialProvider then some a.resources.next else a.slots g :=
  slots_store _ g .credentialProvider

theorem Built.withProvider {t : AppCredentialType} (h : Built others a)
    (hempty : a.slots .pCredentialProvider = none) (ht : t ≠ .na) :
    HasProvider others a (a.withProvider t) where
  built := (h.store hempty nofun nofun _).withType t
  other f hf := by
    rw [slots_withProvider, if_neg]
    rintro rfl
    exact hf (by decide)
  next := (Nat.le_succ _).trans (Arena.next_alloc ..).ge
  type := ht
  provider := by rw [slots_withProvider, if_pos rfl]

theorem HasProvider.store {a1 : App} (h : HasProvider others a a1) (hf : f ∈ credentialFields)
    (hp : f ≠ .pCredentialProvider) (hempty : a1.slots f = none) (r : Resource) :
    HasProvider others a (a1.store f r) where
  built := by
    refine h.built.store hempty (fun e => ?_) (fun e => ?_) r
    all_goals
      rw [e] at hf
      exact absurd hf (by decide)
  other g hg := by
    rw [slots_store, if_neg]
    · exact h.other g hg
    · rintro rfl
      exact hg hf
  next := h.next.trans ((Nat.le_succ _).trans (Arena.next_alloc ..).ge)
  type := h.type
  provider := by
    rw [slots_store, if_neg (Ne.symm hp)]
    exact h.provider

theorem createCredential_spec (h : Built others a) (hempty : ∀ f ∈ credentialFields, a.slots f = none)
    (env : InitEnv) :
    CredentialDone env others a (a.createCredential env).1 (a.createCredential env).2 := by
  have hcerts := h.certificates (hempty _ (by decide))
  have h0 : Built others { a with credentialType := .na } := h.withType _
  unfold createCredential
  rw [clearCredential_eq hempty hcerts]
  rcases run_credentialSteps env { a with credentialType := .na } with
    ⟨hno, hst, ha⟩ | ⟨hyes, ht, hrun⟩
  · simp only [hst, if_false, ha]
    refine .of_failed hst h0 (fun _ _ => rfl) (Nat.le_refl _) ?_ ?_ ?_
    · rw [hno]
      simp
    · rw [hno]
      simp
    · rw [hno]
      exact hempty _ (by decide)
  -- the provider is there: what follows fails, with the cleanup, or adds to it
  have hfailed : ∀ {st : AppStatus} {a1 : App}, st ≠ .success → HasProvider others a a1 →
      ¬ (env.ok .generateCertLock = true ∧ env.ok .certQueueCreate = true) →
      CredentialDone env others a st (a1.destroyCredential env).2 := fun hst h1 hnot =>
    .of_failed hst h1.built h1.other h1.next (fun hs => hnot hs.2) (iff_of_true h1.type hyes)
      (h1.provider.trans (if_pos hyes).symm)
  have hprov : HasProvider others { a with credentialType := .na }
      (withProvider env.credentialType { a with credentialType := .na }) :=
    h0.withProvider (hempty _ (by decide)) ht
  have h1 : HasProvider others a (withProvider env.credentialType { a with credentialType := .na }) :=
    ⟨hprov.built, hprov.other, hprov.next, hprov.type, hprov.provider⟩
  have hempty1 : ∀ g ∈ credentialFields, g ≠ .pCredentialProvider →
      (withProvider env.credentialType { a with credentialType := .na }).slots g = none :=
    fun g hg hne => ((slots_withProvider ..).trans (if_neg hne)).trans (hempty g hg)
  rw [hrun]
  generalize withProvider env.credentialType { a with credentialType := .na } = a1 at *
  cases hlock : env.ok .generateCertLock with
  | false =>
    apply hfailed (by simp) h1
    intro hs
    rw [hlock] at hs
    exact Bool.false_ne_true hs.1
  | true =>
    have h2 : HasProvider others a (a1.store .generateCertLock .mutex) :=
      h1.store (by decide) (by decide) (hempty1 _ (by decide) (by decide)) _
    have hempty2 : (a1.store .generateCertLock .mutex).slots .generatedCertificates = none :=
      ((slots_store ..).trans (if_neg (by decide))).trans (hempty1 _ (by decide) (by decide))
    cases hqueue : env.ok .certQueueCreate with
    | false =>
      apply hfailed (by simp) h2
      intro hs
      rw [hqueue] at hs
      exact Bool.false_ne_true hs.2
    | true =>
      have h3 := h2.store (f := .generatedCertificates) (by decide) (by decide) hempty2 .stackQueue
      exact ⟨h3.built, h3.other, h3.next, iff_of_true rfl ⟨hyes, hlock, hqueue⟩,
        iff_of_false h3.type fun hne => hne rfl,
        h3.provider.trans (if_pos ⟨hyes, .inl rfl⟩).symm⟩

/-! ## The stages after the credential -/

/-- What the stages keep, from the `n` resources there were before. -/
structure Staged (n : Nat) (t : AppCredentialType) (others : List Nat) (a : App) : Prop where
  built : Built others a
  type : a.credentialType = t
  next : n ≤ a.resources.next

variable {n : Nat} {t : AppCredentialType}

theorem Staged.store (h : Staged n t others a) (hf : a.slots f = none)
    (hq : f = .pMsqQueue → a.slots .pRemotePeerPendingSignalingMessages ≠ none)
    (hm : f = .codecConfLock → a.slots .pMediaContext ≠ none) (r : Resource) :
    Staged n t others (a.store f r) :=
  ⟨h.built.store hf hq hm r, h.type, h.next.trans ((Nat.le_succ _).trans (next_store f r).ge)⟩

theorem Staged.of_releases {fs : List Field} {a' : App} (h : Staged n t others a)
    (hr : Releases fs a a') (hq : .pRemotePeerPendingSignalingMessages ∈ fs → .pMsqQueue ∈ fs)
    (hm : .pMediaContext ∈ fs → .codecConfLock ∈ fs) : Staged n t others a' :=
  ⟨h.built.of_releases hr hq hm, hr.credentialType.trans h.type, hr.next ▸ h.next⟩

theorem Staged.acquire {call : InitCall} {err : AppStatus} (h : Staged n t others a)
    (hempty : ∀ i ∈ [f], a.slots i = none) (hq : f ≠ .pMsqQueue) (hm : f ≠ .codecConfLock) :
    Staged n t others (a.acquire env call f r err).2 ∧
      ∀ i ∉ [f], (a.acquire env call f r err).2.slots i = a.slots i := by
  unfold App.acquire
  split
  · refine ⟨h.store (hempty f List.mem_cons_self) (absurd · hq) (absurd · hm) r, fun i hi => ?_⟩
    rw [slots_store, if_neg fun e => hi (List.mem_singleton.mpr e)]
  · exact ⟨h, fun _ _ => rfl⟩

theorem acquire_eq_success {call : InitCall} {err : AppStatus}
    (herr : env.ok call = false → err ≠ .success) :
    (a.acquire env call f r err).1 = .success ↔ env.ok call = true := by
  unfold acquire
  cases hc : env.ok call with
  | true => simp
  | false => simpa using herr hc

theorem Staged.createCvar (h : Staged n t others a) (hempty : ∀ i ∈ [.cvar], a.slots i = none) :
    Staged n t others (a.createCvar env).2 ∧
      ∀ i ∉ [.cvar], (a.createCvar env).2.slots i = a.slots i := by
  have hacq := @Staged.acquire a env .cvar .cvar others n t .cvarCreate .success h hempty (by decide)
    (by decide)
  have he : (a.createCvar env).2 = (a.acquire env .cvarCreate .cvar .cvar .success).2 := by
    unfold App.createCvar App.acquire
    split <;> rfl
  rw [he]
  exact hacq

/-- The store is there with its queue, or not at all. -/
theorem Staged.createConnectionMsqQ (h : Staged n t others a)
    (hempty : ∀ i ∈ [Field.pMsqQueue, .pRemotePeerPendingSignalingMessages], a.slots i = none) :
    Staged n t others (a.createConnectionMsqQ env).2 ∧
      ∀ i ∉ [Field.pMsqQueue, .pRemotePeerPendingSignalingMessages],
        (a.createConnectionMsqQ env).2.slots i = a.slots i := by
  unfold App.createConnectionMsqQ
  split
  · exact ⟨h, fun _ _ => rfl⟩
  have h1 : Staged n t others (a.store .pRemotePeerPendingSignalingMessages .connectionMsgQ) :=
    h.store (f := .pRemotePeerPendingSignalingMessages) (hempty _ (by decide)) nofun nofun _
  have hslots1 : ∀ g, (a.store .pRemotePeerPendingSignalingMessages .connectionMsgQ).slots g =
      if g = .pRemotePeerPendingSignalingMessages then some a.resources.next else a.slots g :=
    fun g => slots_store _ g .connectionMsgQ
  simp only
  generalize a.store .pRemotePeerPendingSignalingMessages .connectionMsgQ = a1 at *
  have hq1 : a1.slots .pMsqQueue = none := by
    rw [hslots1, if_neg (by decide)]
    exact hempty _ (by decide)
  have hs1 : a1.slots .pRemotePeerPendingSignalingMessages ≠ none := by
    rw [hslots1, if_pos rfl]
    exact Option.some_ne_none _
  have hother1 : ∀ i ∉ [Field.pMsqQueue, .pRemotePeerPendingSignalingMessages],
      a1.slots i = a.slots i := fun i hi => by
    rw [hslots1, if_neg fun e => hi (by rw [e]; decide)]
  split
  · refine ⟨h1.store hq1 (fun _ => hs1) nofun _, fun i hi => ?_⟩
    rw [slots_store, if_neg fun e => hi (by rw [e]; decide), hother1 i hi]
  · have hr := releases_freeConnectionMsgQ (a := a1) fun _ => hq1
    refine ⟨h1.of_releases hr (fun _ => by decide) (fun hin => absurd hin (by decide)),
      fun i hi => ?_⟩
    rw [hr.slots, if_neg hi, hother1 i hi]

theorem createConnectionMsqQ_eq_success :
    (a.createConnectionMsqQ env).1 = .success ↔
      env.ok .msgQCalloc = true ∧ env.ok .msgQQueueCreate = true := by
  unfold App.createConnectionMsqQ
  cases env.ok .msgQCalloc <;> cases env.ok .msgQQueueCreate <;> simp

/-- The stages between the credential and the media source, each with the fields it fills. -/
def middleSteps (env : InitEnv) : List (List Field × (App → AppStatus × App)) :=
  [([.appConfigurationObjLock],
      App.acquire env .appConfigurationObjLock .appConfigurationObjLock .mutex
        .appCommonInvalidMutex),
    ([.cvar], App.createCvar env),
    ([.streamingSessionListReadLock],
      App.acquire env .streamingSessionListReadLock .streamingSessionListReadLock .mutex
        .appCommonInvalidMutex),
    ([.timerQueueHandle],
      App.acquire env .appTimerQueueCreate .timerQueueHandle .timerQueue .appCommonTimer),
    ([.signalingSendMessageLock],
      App.acquire env .signalingSendMessageLock .signalingSendMessageLock .mutex
        .appSignalingInvalidMutex),
    ([.pMsqQueue, .pRemotePeerPendingSignalingMessages], App.createConnectionMsqQ env),
    ([.pRemoteRtcPeerConnections],
      App.acquire env .appHashTableCreate .pRemoteRtcPeerConnections .hashTable
        (env.status .appHashTableCreate))]

def middleFields : List Field :=
  [.appConfigurationObjLock, .cvar, .streamingSessionListReadLock, .timerQueueHandle,
    .signalingSendMessageLock, .pMsqQueue, .pRemotePeerPendingSignalingMessages,
    .pRemoteRtcPeerConnections]

theorem middleSteps_fields (env : InitEnv) :
    (middleSteps env).flatMap Prod.fst = middleFields := rfl

/-- The calls of those stages that are checked. -/
def middleCalls : List InitCall :=
  [.appConfigurationObjLock, .streamingSessionListReadLock, .appTimerQueueCreate,
    .signalingSendMessageLock, .msgQCalloc, .msgQQueueCreate, .appHashTableCreate]

theorem middleSteps_stage (st : List Field × (App → AppStatus × App)) (hst : st ∈ middleSteps env)
    (a : App) (hempty : ∀ i ∈ st.1, a.slots i = none) (h : Staged n t others a) :
    Staged n t others (st.2 a).2 ∧ ∀ i ∉ st.1, (st.2 a).2.slots i = a.slots i := by
  unfold middleSteps at hst
  simp only [List.mem_cons, List.not_mem_nil, or_false] at hst
  rcases hst with rfl | rfl | rfl | rfl | rfl | rfl | rfl
  · exact h.acquire hempty (by decide) (by decide)
  · exact h.createCvar hempty
  · exact h.acquire hempty (by decide) (by decide)
  · exact h.acquire hempty (by decide) (by decide)
  · exact h.acquire hempty (by decide) (by decide)
  · exact h.createConnectionMsqQ hempty
  · exact h.acquire hempty (by decide) (by decide)

theorem run_middleSteps (h : Staged n t others a)
    (hempty : ∀ i ∈ middleFields, a.slots i = none) :
    Staged n t others (Stages.run .success ((middleSteps env).map Prod.snd) a).2 ∧
      ∀ i ∉ middleFields,
        (Stages.run .success ((middleSteps env).map Prod.snd) a).2.slots i = a.slots i := by
  have hn : ((middleSteps env).flatMap Prod.fst).Nodup := by
    rw [middleSteps_fields]
    decide
  exact Stages.run_invariant hn (fun st hst a he h => middleSteps_stage st hst a he h) hempty h

theorem run_middleSteps_eq_success :
    (Stages.run .success ((middleSteps env).map Prod.snd) a).1 = .success ↔
      ∀ call ∈ middleCalls, env.ok call = true := by
  have hcvar : ∀ a : App, (a.createCvar env).1 = .success := fun _ => rfl
  have hnil : ∀ a : App, (Stages.run .success [] a).1 = AppStatus.success := fun _ => rfl
  simp only [middleSteps, middleCalls, List.map_cons, List.map_nil, Stages.run_cons_eq_success,
    hcvar, hnil, createConnectionMsqQ_eq_success, List.forall_mem_cons, List.not_mem_nil,
    false_implies, implies_true, true_and, and_true, and_assoc]
  rw [acquire_eq_success (by simp), acquire_eq_success (by simp), acquire_eq_success (by simp),
    acquire_eq_success (by simp), acquire_eq_success (not_ok_iff _).mpr]

/-! ## The media source -/

/-- A resource that no field points to. -/
theorem Built.alloc (h : Built others a) (r : Resource) :
    Built (a.resources.next :: others) { a with resources := a.resources.alloc r } := by
  refine ⟨(h.owned.alloc r).perm ?_, h.msqQueue, h.codecConfLock, h.certificates⟩
  rw [← List.append_assoc, ← List.append_assoc]
  exact List.perm_middle.symm

theorem Built.free {p : Nat} (h : Built (p :: others) a) :
    Built others { a with resources := a.resources.free p } := by
  refine ⟨(h.owned.perm ?_).free, h.msqQueue, h.codecConfLock, h.certificates⟩
  rw [← List.append_assoc, ← List.append_assoc]
  exact List.perm_middle

def mediaFields : List Field := [.pMediaContext, .codecConfLock]

/-- The calls of `initMediaSource` that follow the allocation. -/
def mediaCalls : List InitCall := [.codecConfLock, .latchRtspConfig, .discoverMediaSource]

/-- `initMediaSource` allocates its context and fails. -/
def losesContext (env : InitEnv) : Bool := env.ok .mediaCalloc && !mediaCalls.all env.ok

/-- The outcome of `initMediaSource`. -/
structure MediaDone (env : InitEnv) (others : List Nat) (a : App) (st : AppStatus) (a' : App) :
    Prop where
  built : Built ((if losesContext env = true then [a.resources.next] else []) ++ others) a'
  other : ∀ f ∉ mediaFields, a'.slots f = a.slots f
  type : a'.credentialType = a.credentialType
  next : a.resources.next ≤ a'.resources.next
  success : st = .success ↔ env.ok .mediaCalloc = true ∧ ∀ call ∈ mediaCalls, env.ok call = true

/-- A call after the allocation failed, and its cleanup left the context behind. -/
theorem MediaDone.of_failed {call : InitCall} {st : AppStatus} {a' : App}
    (hcalloc : env.ok .mediaCalloc = true) (hcall : call ∈ mediaCalls)
    (hfail : env.ok call = false) (hst : st ≠ .success)
    (hbuilt : Built (a.resources.next :: others) a') (hslots : a'.slots = a.slots)
    (htype : a'.credentialType = a.credentialType) (hnext : a.resources.next ≤ a'.resources.next) :
    MediaDone env others a st a' := by
  have hne : env.ok call ≠ true := by rw [hfail]; exact Bool.false_ne_true
  have hall : mediaCalls.all env.ok = false := List.all_eq_false.mpr ⟨call, hcall, hne⟩
  refine ⟨?_, fun f _ => by rw [hslots], htype, hnext, iff_of_false hst fun h => hne (h.2 _ hcall)⟩
  rw [losesContext, hcalloc, hall]
  exact hbuilt

theorem initMediaSource_spec (h : Built others a) (hempty : ∀ f ∈ mediaFields, a.slots f = none)
    (env : InitEnv) :
    MediaDone env others a (a.initMediaSource env).1 (a.initMediaSource env).2 := by
  unfold App.initMediaSource
  cases hcalloc : env.ok .mediaCalloc with
  | false =>
    refine ⟨?_, fun _ _ => rfl, rfl, Nat.le_refl _, iff_of_false (by simp) (by simp [hcalloc])⟩
    rw [losesContext, hcalloc]
    exact h
  | true =>
    have hctx := h.alloc .rtspSrcContext
    have hctxNext : (a.resources.alloc .rtspSrcContext).next = a.resources.next + 1 :=
      Arena.next_alloc ..
    cases hlock : env.ok .codecConfLock with
    | false =>
      exact .of_failed hcalloc (by decide) hlock (by simp) hctx rfl rfl
        (hctxNext ▸ Nat.le_succ _)
    | true =>
      -- the lock is freed through the context
      have hfreed := (hctx.alloc .mutex).free
      have hnext : ((a.resources.alloc .rtspSrcContext).alloc .mutex).next =
          a.resources.next + 2 := by
        rw [Arena.next_alloc, hctxNext]
      have hfreedNext : a.resources.next ≤ (((a.resources.alloc .rtspSrcContext).alloc .mutex).free
          (a.resources.alloc .rtspSrcContext).next).next := by
        rw [Arena.next_free, hnext]
        omega
      cases hlatch : env.ok .latchRtspConfig with
      | false =>
        exact .of_failed hcalloc (by decide) hlatch ((not_ok_iff _).mpr hlatch) hfreed rfl rfl
          hfreedNext
      | true =>
        cases hdisc : env.ok .discoverMediaSource with
        | false =>
          exact .of_failed hcalloc (by decide) hdisc ((not_ok_iff _).mpr hdisc) hfreed rfl rfl
            hfreedNext
        | true =>
          have hall : ∀ call ∈ mediaCalls, env.ok call = true := by
            simp [mediaCalls, hlock, hlatch, hdisc]
          have hok : losesContext env = false := by
            rw [losesContext, hcalloc, List.all_eq_true.mpr hall]
            rfl
          have hctx1 := h.store (f := .pMediaContext) (hempty _ (by decide)) nofun nofun .rtspSrcContext
          have hslots1 : ∀ g, (a.store .pMediaContext .rtspSrcContext).slots g =
              if g = .pMediaContext then some a.resources.next else a.slots g :=
            fun g => slots_store _ g .rtspSrcContext
          have hempty1 : (a.store .pMediaContext .rtspSrcContext).slots .codecConfLock = none := by
            rw [hslots1, if_neg (by decide)]
            exact hempty _ (by decide)
          have hsome1 : (a.store .pMediaContext .rtspSrcContext).slots .pMediaContext ≠ none := by
            rw [hslots1, if_pos rfl]
            exact Option.some_ne_none _
          show MediaDone env others a .success
            ((a.store .pMediaContext .rtspSrcContext).store .codecConfLock .mutex)
          refine ⟨?_, fun f hf => ?_, rfl, ?_, iff_of_true rfl ⟨hcalloc, hall⟩⟩
          · rw [hok]
            exact hctx1.store hempty1 nofun (fun _ => hsome1) .mutex
          · rw [slots_store, if_neg fun e => hf (by rw [e]; decide), hslots1,
              if_neg fun e => hf (by rw [e]; decide)]
          · rw [next_store, next_store]
            omega

/-! ## The stages together -/

def hookCalls : List InitCall := [.linkMeidaSinkHook, .linkMeidaEosHook, .initKvsWebRtc]

def hookSteps (env : InitEnv) : List (App → AppStatus × App) :=
  [chk env .linkMeidaSinkHook, chk env .linkMeidaEosHook, App.initWebRtc env]

theorem initSteps_eq (env : InitEnv) :
    initSteps env = App.setupFileLogging env :: App.createCredential env ::
      ((middleSteps env).map Prod.snd ++ App.initMediaSource env :: hookSteps env) := rfl

/-- The hooks and the SDK acquire nothing. -/
theorem run_hookSteps (a : App) : (Stages.run .success (hookSteps env) a).2 = a := by
  refine Stages.run_of_checks (fun f hf s => ?_) a
  unfold hookSteps at hf
  simp only [List.mem_cons, List.not_mem_nil, or_false] at hf
  rcases hf with rfl | rfl | rfl <;> rfl

theorem run_hookSteps_eq_success :
    (Stages.run .success (hookSteps env) a).1 = .success ↔ ∀ call ∈ hookCalls, env.ok call = true := by
  simp only [hookSteps, hookCalls, Stages.run_cons_eq_success, List.forall_mem_cons,
    List.not_mem_nil, false_implies, implies_true]
  simp [chk, App.initWebRtc, InitEnv.ok, Stages.run]

/-- The stages between the credential and the media source succeed. -/
def passesMiddle (env : InitEnv) : Bool := middleCalls.all env.ok

def passesMedia (env : InitEnv) : Bool :=
  env.ok .mediaCalloc && mediaCalls.all env.ok && hookCalls.all env.ok

/-- The outcome of the stages after the credential.  `lost` are the cells that no field points to. -/
structure Finished (env : InitEnv) (n : Nat) (others : List Nat) (a : App) (st : AppStatus) (a' : App) :
    Prop where
  built : ∃ lost, Built (lost ++ others) a' ∧
    (lost ≠ [] ↔ passesMiddle env = true ∧ losesContext env = true) ∧ ∀ x ∈ lost, n ≤ x
  credential : ∀ f ∈ credentialFields, a'.slots f = a.slots f
  type : a'.credentialType = a.credentialType
  next : n ≤ a'.resources.next
  success : st = .success ↔ passesMiddle env = true ∧ passesMedia env = true

theorem Finished.of_middle_failed {st : AppStatus} {a' : App} (hst : st ≠ .success)
    (hpass : passesMiddle env = false) (h : Staged n a.credentialType others a')
    (hc : ∀ f ∈ credentialFields, a'.slots f = a.slots f) : Finished env n others a st a' := by
  refine ⟨⟨[], h.built, ?_, fun x hx => by cases hx⟩, hc, h.type, h.next, iff_of_false hst ?_⟩
  · rw [hpass]
    simp
  · rw [hpass]
    exact fun hp => Bool.false_ne_true hp.1

theorem run_afterCredential (h : Staged n a.credentialType others a)
    (hmiddle : ∀ i ∈ middleFields, a.slots i = none)
    (hmedia : ∀ i ∈ mediaFields, a.slots i = none) :
    Finished env n others a
      (Stages.run .success ((middleSteps env).map Prod.snd ++ App.initMediaSource env :: hookSteps env) a).1
      (Stages.run .success
        ((middleSteps env).map Prod.snd ++ App.initMediaSource env :: hookSteps env) a).2 := by
  obtain ⟨h1, hother1⟩ := run_middleSteps h hmiddle
  have hsucc := @run_middleSteps_eq_success a env
  rw [Stages.run_append]
  generalize Stages.run .success ((middleSteps env).map Prod.snd) a = r1 at *
  obtain ⟨st1, a1⟩ := r1
  simp only at h1 hother1 hsucc ⊢
  have hcredMiddle : ∀ f ∈ credentialFields, f ∉ middleFields := by decide
  have hcred1 : ∀ f ∈ credentialFields, a1.slots f = a.slots f := fun f hf =>
    hother1 f (hcredMiddle f hf)
  by_cases hst1 : st1 = .success
  · have hpass : passesMiddle env = true := List.all_eq_true.mpr (hsucc.mp hst1)
    have hmediaMiddle : ∀ f ∈ mediaFields, f ∉ middleFields := by decide
    have hm := initMediaSource_spec h1.built
      (fun f hf => (hother1 f (hmediaMiddle f hf)).trans (hmedia f hf)) env
    rw [if_pos hst1, Stages.run_cons]
    generalize App.initMediaSource env a1 = r2 at *
    obtain ⟨st2, a2⟩ := r2
    simp only at hm ⊢
    have hfin : ∀ st, (st = .success ↔ passesMedia env = true) → Finished env n others a st a2 := by
      intro st hst
      refine ⟨⟨_, hm.built, ?_, fun x hx => ?_⟩, fun f hf => ?_, hm.type.trans h1.type,
        h1.next.trans hm.next, ?_⟩
      · rw [hpass]
        cases losesContext env <;> simp
      · split at hx
        · rw [List.mem_singleton.mp hx]
          exact h1.next
        · cases hx
      · have hcredMedia : ∀ f ∈ credentialFields, f ∉ mediaFields := by decide
        exact (hm.other f (hcredMedia f hf)).trans (hcred1 f hf)
      · rw [hst, hpass]
        simp
    by_cases hst2 : st2 = .success
    · rw [if_pos hst2, run_hookSteps]
      refine hfin _ (run_hookSteps_eq_success.trans ?_)
      obtain ⟨hc, hall⟩ := hm.success.mp hst2
      rw [passesMedia, hc, List.all_eq_true.mpr hall]
      exact List.all_eq_true.symm
    · rw [if_neg hst2]
      refine hfin _ (iff_of_false hst2 fun hp => hst2 (hm.success.mpr ?_))
      simp only [passesMedia, Bool.and_eq_true] at hp
      exact ⟨hp.1.1, List.all_eq_true.mp hp.1.2⟩
  · rw [if_neg hst1]
    have hpass : passesMiddle env = false :=
      Bool.eq_false_iff.mpr fun hp => hst1 (hsucc.mpr (List.all_eq_true.mp hp))
    exact .of_middle_failed hst1 hpass h1 hcred1

def createsCredential (env : InitEnv) : Bool :=
  createsProvider env && env.ok .generateCertLock && env.ok .certQueueCreate

/-- The stages before `initMediaSource` succeed, and it loses its context. -/
def losesMedia (env : InitEnv) : Bool :=
  createsCredential env && passesMiddle env && losesContext env

/-- Every stage succeeds. -/
def completes (env : InitEnv) : Bool :=
  createsCredential env && passesMiddle env && passesMedia env

/-- The outcome of the stages on a configuration that holds nothing. -/
structure InitDone (env : InitEnv) (others : List Nat) (a : App) (st : AppStatus) (a' : App) :
    Prop where
  built : ∃ lost, Built (lost ++ others) a' ∧ (lost ≠ [] ↔ losesMedia env = true) ∧
    ∀ x ∈ lost, a.resources.next ≤ x
  next : a.resources.next ≤ a'.resources.next
  success : st = .success ↔ completes env = true
  type : a'.credentialType = .na ↔ createsCredential env = false
  provider : ∃ x, a.resources.next ≤ x ∧ a'.slots .pCredentialProvider =
    if createsProvider env = true ∧
      (createsCredential env = true ∨ env.ok .freeCredentialProvider = false) then some x else none

theorem setupFileLogging_spec (h : Built others a) (hempty : ∀ f, a.slots f = none) (env : InitEnv) :
    Built others (a.setupFileLogging env).2 ∧
      (∀ f ≠ .fileLogger, (a.setupFileLogging env).2.slots f = none) ∧
      a.resources.next ≤ (a.setupFileLogging env).2.resources.next := by
  unfold App.setupFileLogging
  split
  · refine ⟨h.store (f := .fileLogger) (hempty _) nofun nofun _, fun f hf => ?_, ?_⟩
    · rw [slots_store, if_neg hf]
      exact hempty f
    · rw [next_store]
      exact Nat.le_succ _
  · exact ⟨h, fun f _ => hempty f, Nat.le_refl _⟩

theorem initSteps_spec (h : Built others a) (hempty : ∀ f, a.slots f = none) (env : InitEnv) :
    InitDone env others a (Stages.run .success (initSteps env) a).1
      (Stages.run .success (initSteps env) a).2 := by
  obtain ⟨h0, hempty0, hnext0⟩ := setupFileLogging_spec h hempty env
  have hst0 : (a.setupFileLogging env).1 = .success := rfl
  rw [initSteps_eq, Stages.run_cons, if_pos hst0]
  generalize (a.setupFileLogging env).2 = a0 at *
  have hcredLogger : ∀ f ∈ credentialFields, f ≠ .fileLogger := by decide
  have h1 := createCredential_spec h0 (fun f hf => hempty0 f (hcredLogger f hf)) env
  rw [Stages.run_cons]
  generalize App.createCredential env a0 = r1 at *
  obtain ⟨st1, a1⟩ := r1
  simp only at h1 ⊢
  have hcred : st1 = .success ↔ createsCredential env = true := by
    rw [h1.success]
    simp [createsCredential, and_assoc]
  have hprov : ∃ x, a.resources.next ≤ x ∧ a1.slots .pCredentialProvider =
      if createsProvider env = true ∧
        (createsCredential env = true ∨ env.ok .freeCredentialProvider = false) then some x
      else none := by
    refine ⟨_, hnext0, ?_⟩
    rw [h1.provider]
    simp only [hcred]
  have htype : a1.credentialType = .na ↔ createsCredential env = false := by
    rw [h1.type, ne_eq, hcred, Bool.not_eq_true]
  have hnext := hnext0.trans h1.next
  by_cases hst1 : st1 = .success
  · have hc := hcred.mp hst1
    have hmiddle : ∀ f ∈ middleFields, f ∉ credentialFields ∧ f ≠ .fileLogger := by decide
    have hmedia : ∀ f ∈ mediaFields, f ∉ credentialFields ∧ f ≠ .fileLogger := by decide
    have hfin : Finished env a.resources.next others a1 _ _ := run_afterCredential ⟨h1.built, rfl, hnext⟩
      (fun f hf => (h1.other f (hmiddle f hf).1).trans (hempty0 f (hmiddle f hf).2))
      (fun f hf => (h1.other f (hmedia f hf).1).trans (hempty0 f (hmedia f hf).2))
    rw [if_pos hst1]
    obtain ⟨lost, hb, hlost, hge⟩ := hfin.built
    obtain ⟨x, hx, hp⟩ := hprov
    refine ⟨⟨lost, hb, ?_, hge⟩, hfin.next, ?_, hfin.type ▸ htype, x, hx, ?_⟩
    · rw [hlost, losesMedia, hc]
      simp
    · rw [hfin.success, completes, hc]
      simp
    · rw [hfin.credential _ (by decide)]
      exact hp
  · have hc : createsCredential env = false := Bool.eq_false_iff.mpr fun hc => hst1 (hcred.mpr hc)
    rw [if_neg hst1]
    refine ⟨⟨[], h1.built, ?_, fun x hx => by cases hx⟩, hnext, iff_of_false hst1 ?_, htype, hprov⟩
    · rw [losesMedia, hc]
      simp
    · rw [completes, hc]
      simp

/-! ## freeApp -/

/-- The fields that `freeApp` releases before the credential. -/
def appFields : List Field :=
  [.signalingClientHandle, .signalingSendMessageLock, .pMsqQueue,
    .pRemotePeerPendingSignalingMessages, .pRemoteRtcPeerConnections, .codecConfLock,
    .pMediaContext, .appConfigurationObjLock, .streamingSessionListReadLock, .cvar, .timerQueueHandle]

/-- The fields that `freeApp` releases. -/
def tornDown (env : InitEnv) (t : AppCredentialType) : List Field :=
  appFields ++ destroyed env t ++ [Field.fileLogger]

theorem release_withType (f : Field) (t : AppCredentialType) :
    ({ a with credentialType := t } : App).release f = { a.release f with credentialType := t } := by
  unfold release
  cases a.slots f <;> rfl

/-- `freeApp` up to the credential. -/
theorem teardown_eq (h : Built others a) (env : InitEnv) :
    ∃ a6, Releases appFields a a6 ∧
      a.teardown env = (a6.destroyCredential env).2.release .fileLogger := by
  have h1 : Releases [.signalingClientHandle, .signalingSendMessageLock] a _ :=
    Releases.pair (by decide) (by decide)
  have h2 := h1.trans (releases_freeConnectionMsgQ fun hs => by
    rw [h1.slots, if_neg (by decide)] at hs ⊢
    exact h.msqQueue hs)
  have h3 := h2.trans (releases_release (f := .pRemoteRtcPeerConnections) (by decide))
  have h4 := h3.trans (releases_detroyMediaSource fun hs => by
    rw [h3.slots, if_neg (by decide)] at hs ⊢
    exact h.codecConfLock hs)
  have h5 := h4.trans (Releases.pair (f := .appConfigurationObjLock)
    (g := .streamingSessionListReadLock) (by decide) (by decide))
  have h6 := h5.trans (Releases.pair (f := .cvar) (g := .timerQueueHandle) (by decide) (by decide))
  exact ⟨_, h6, rfl⟩

theorem teardown_releases (h : Built others a) (env : InitEnv) :
    ∃ a', Releases (tornDown env a.credentialType) a a' ∧
      a.teardown env = { a' with credentialType := .na } := by
  obtain ⟨a6, h6, he⟩ := teardown_eq h env
  have hcert : a6.slots .generatedCertificates = none → a6.certificates = [] := by
    intro hs
    rw [h6.slots, if_neg (by decide)] at hs
    rw [h6.certificates, if_neg (by decide)]
    exact h.certificates hs
  obtain ⟨a', h7, he'⟩ := @destroyCredential_spec a6 env hcert
  rw [h6.credentialType] at h7
  have h8 := (h6.trans h7).trans (releases_release (f := .fileLogger) (by decide))
  refine ⟨a'.release .fileLogger, h8, ?_⟩
  rw [he, he', release_withType]

/-- `freeApp` cannot give back the provider: its type was lost, or freeing it fails. -/
def KeepsProvider (env : InitEnv) (a : App) : Prop :=
  a.slots .pCredentialProvider ≠ none ∧
    (a.credentialType = .na ∨ env.ok .freeCredentialProvider = false)

theorem mem_tornDown (env : InitEnv) (t : AppCredentialType) (f : Field) :
    f ∈ tornDown env t ↔ f ∉ credentialFields ∨ f ∈ destroyed env t := by
  unfold tornDown
  cases f <;> simp [credentialFields, appFields]

theorem provider_not_mem_destroyed {t : AppCredentialType}
    (h : t = .na ∨ env.ok .freeCredentialProvider = false) :
    .pCredentialProvider ∉ destroyed env t := by
  unfold destroyed
  rcases h with rfl | hfree
  · simp
  · rw [hfree]
    cases t <;> decide

/-- What `destroyCredential` gives back of a credential with a type. -/
theorem destroyed_of_ok {t : AppCredentialType} (ht : t ≠ .na)
    (hfree : env.ok .freeCredentialProvider = true) {f : Field} (hf : f ∈ credentialFields) :
    f ∈ destroyed env t := by
  unfold destroyed
  rw [hfree]
  cases t
  · exact absurd rfl ht
  all_goals revert hf; cases f <;> decide

theorem eq_provider_of_not_destroyed {f : Field} (hf : f ∈ credentialFields)
    (hnot : f ∉ destroyed env .na) : f = .pCredentialProvider := by
  have hna : destroyed env .na = [.generatedCertificates, .generateCertLock] := rfl
  rw [hna] at hnot
  revert hf hnot
  cases f <;> decide

theorem teardown_owned (h : Built others a) (env : InitEnv) :
    ∃ rest, (a.teardown env).resources.Owned (rest ++ others) ∧
      (a.teardown env).resources.next = a.resources.next ∧
      (KeepsProvider env a → ∃ x ∈ rest, a.slots .pCredentialProvider = some x) ∧
      ((a.credentialType ≠ .na → a.slots .pCredentialProvider ≠ none) → ¬ KeepsProvider env a →
        rest = []) := by
  obtain ⟨a', hr, he⟩ := teardown_releases h env
  have hcert : a'.certificates = [] := by
    rw [hr.certificates, if_pos]
    unfold tornDown destroyed
    cases a.credentialType <;> cases env.ok .freeCredentialProvider <;> simp
  have hown := hr.owned h.owned
  rw [hcert, List.nil_append] at hown
  rw [he]
  refine ⟨_, hown, hr.next, ?_, ?_⟩
  · rintro ⟨hne, hkeep⟩
    obtain ⟨x, hx⟩ := Option.ne_none_iff_exists'.mp hne
    have hnot : .pCredentialProvider ∉ tornDown env a.credentialType := fun hin =>
      ((mem_tornDown ..).mp hin).elim (fun hc => hc (by decide)) (provider_not_mem_destroyed hkeep)
    refine ⟨x, Slots.mem_handles (mem_all .pCredentialProvider) ?_, hx⟩
    rw [hr.slots, if_neg hnot, hx]
  · intro htype hkeep
    apply Slots.handles_eq_nil
    intro f _
    rw [hr.slots]
    split
    · rfl
    next hf =>
    rw [mem_tornDown, not_or, not_not] at hf
    by_cases ht : a.credentialType = .na
    · rw [eq_provider_of_not_destroyed hf.1 (ht ▸ hf.2)]
      by_contra hne
      exact hkeep ⟨hne, .inl ht⟩
    · have hfree : env.ok .freeCredentialProvider = true := by
        by_contra hne
        exact hkeep ⟨htype ht, .inr (Bool.not_eq_true _ ▸ hne)⟩
      exact absurd (destroyed_of_ok ht hfree hf.1) hf.2

/-! ## When the provider stays -/

theorem InitDone.provider_of_type {st : AppStatus} {a' : App} (h : InitDone env others a st a')
    (ht : a'.credentialType ≠ .na) : a'.slots .pCredentialProvider ≠ none := by
  obtain ⟨x, -, hp⟩ := h.provider
  have hc : createsCredential env = true := Bool.not_eq_false _ ▸ mt h.type.mpr ht
  have hcp : createsProvider env = true := by
    simp only [createsCredential, Bool.and_eq_true] at hc
    exact hc.1.1
  rw [hp, if_pos ⟨hcp, .inl hc⟩]
  exact Option.some_ne_none x

theorem InitDone.keepsProvider_iff {st : AppStatus} {a' : App} (h : InitDone env others a st a') :
    KeepsProvider env a' ↔ createsProvider env = true ∧ env.ok .freeCredentialProvider = false := by
  obtain ⟨x, -, hp⟩ := h.provider
  unfold KeepsProvider
  rw [hp, h.type]
  cases createsProvider env <;> cases createsCredential env <;>
    cases env.ok .freeCredentialProvider <;> simp

theorem losesMedia_of_completes (h : completes env = true) : losesMedia env = false := by
  simp only [completes, passesMedia, Bool.and_eq_true] at h
  obtain ⟨-, ⟨-, hall⟩, -⟩ := h
  rw [losesMedia, losesContext, hall]
  simp

end

end App

end WebrtcApp.Lifecycle
