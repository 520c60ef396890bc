import WebrtcApp.Runs.InitStages

/-!
# `initApp` fails as a whole, and the global of the signal handler

Over a run of `initApp` and `freeApp` calls.  `RunOk s held leaked`: the live configurations are
`held`, and the live resources are what they hold and `leaked`, which nobody gives back.

    initApp   a failure acquires nothing    unless the media context or the provider is lost
    freeApp   the global is not dangling    unless it is the configuration that is freed

`clean_iff` puts the two together: a run is clean exactly where each call avoids these cases,
the failure of the last call of `initApp` among them.
-/

namespace WebrtcApp.Lifecycle

/-- What was handed out between the two arenas has been freed, once. -/
def FreedSince {α : Type} (a a' : Arena α) : Prop :=
  ∀ p, a.next ≤ p → p < a'.next → a'.frees p = 1

theorem freedSince_iff {α : Type} {a a' : Arena α} {qs ps : List Nat} (h : a'.Owned (qs ++ ps))
    (hqs : qs ≠ [] → ∃ q ∈ qs, a.next ≤ q) (hps : ∀ p ∈ ps, p < a.next) :
    FreedSince a a' ↔ qs = [] := by
  constructor
  · intro hfreed
    by_contra hne
    obtain ⟨q, hq, hge⟩ := hqs hne
    have hmem : q ∈ qs ++ ps := List.mem_append_left _ hq
    have hone := hfreed q hge (h.lt_next hmem)
    rw [h.frees_eq_zero hmem] at hone
    cases hone
  · rintro rfl p hge hlt
    exact h.frees_of_not_mem hlt fun hp => absurd (hps p hp) (by omega)

/-! ## The live configurations -/

/-- What a configuration holds. -/
def Config.holds (c : Config) : List Nat := Slots.handles Field.all c.slots ++ c.certificates

/-- What lies inside an object is there only with the object. -/
structure Config.Nested (c : Config) : Prop where
  msqQueue : c.slots .pRemotePeerPendingSignalingMessages = none → c.slots .pMsqQueue = none
  codecConfLock : c.slots .pMediaContext = none → c.slots .codecConfLock = none
  certificates : c.slots .generatedCertificates = none → c.certificates = []

namespace Process

variable {s : Process} {p : PAppConfiguration} {held leaked : List Nat} {env : InitEnv}

/-- What the configurations `ps` hold. -/
def holdings (s : Process) (ps : List Nat) : List Nat :=
  ps.flatMap fun p => (s.configs.read p).holds

structure RunOk (s : Process) (held leaked : List Nat) : Prop where
  configs : s.configs.Owned held
  resources : s.resources.Owned (s.holdings held ++ leaked)
  nested : ∀ p ∈ held, (s.configs.read p).Nested

theorem RunOk.perm {held' : List Nat} (h : RunOk s held leaked) (hp : held.Perm held') :
    RunOk s held' leaked :=
  ⟨h.configs.perm hp, h.resources.perm ((hp.flatMap_right _).append_right _),
    fun p hin => h.nested p (hp.mem_iff.mpr hin)⟩

theorem runOk_start : RunOk start [] [] :=
  ⟨Arena.Owned.empty, Arena.Owned.empty, fun _ hp => by cases hp⟩

/-- A configuration as its owner sees it. -/
theorem RunOk.built (h : RunOk s (p :: held) leaked) :
    App.Built (s.holdings held ++ leaked) (s.app p) := by
  have hn := h.nested p List.mem_cons_self
  refine ⟨h.resources.perm ?_, hn.msqQueue, hn.codecConfLock, hn.certificates⟩
  show ((s.configs.read p).holds ++ s.holdings held ++ leaked).Perm _
  unfold Config.holds
  simp only [List.append_assoc]
  rfl

/-- And back: the configuration after a call that worked on it. -/
theorem RunOk.setApp {a : App} (hc : s.configs.Owned (p :: held))
    (hn : ∀ q ∈ held, (s.configs.read q).Nested)
    (h : App.Built (s.holdings held ++ leaked) a) :
    RunOk (s.setApp p a) (p :: held) leaked ∧ (s.setApp p a).app p = a := by
  have hlive := hc.live (p := p) List.mem_cons_self
  have hself : (s.setApp p a).configs.read p = a.toConfig := Arena.read_modify_self _ _ hlive
  have hother : ∀ q ∈ held, (s.setApp p a).configs.read q = s.configs.read q := fun q hq =>
    Arena.read_modify_of_ne _ _ fun e => (List.nodup_cons.mp hc.nodup).1 (e ▸ hq)
  have hrest : (s.setApp p a).holdings held = s.holdings held :=
    List.flatMap_congr fun q hq => by rw [hother q hq]
  refine ⟨⟨hc.modify List.mem_cons_self fun _ => a.toConfig, ?_, fun q hq => ?_⟩, ?_⟩
  · apply h.owned.perm
    show List.Perm _ (((s.setApp p a).configs.read p).holds ++ (s.setApp p a).holdings held ++ leaked)
    rw [hself, hrest]
    unfold Config.holds
    simp only [List.append_assoc]
    rfl
  · rcases List.mem_cons.mp hq with rfl | hq
    · rw [hself]
      exact ⟨h.msqQueue, h.codecConfLock, h.certificates⟩
    · rw [hother q hq]
      exact hn q hq
  · unfold app
    rw [hself]
    rfl

/-! ## freeApp -/

/-- `freeApp` gives back what its configuration holds; `rest` is what it cannot. -/
theorem freeApp_spec (h : RunOk s (p :: held) leaked) (env : InitEnv) :
    ∃ rest, RunOk (s.freeApp env p) held (rest ++ leaked) ∧
      (s.freeApp env p).holdings held = s.holdings held ∧
      (App.KeepsProvider env (s.app p) →
        ∃ x ∈ rest, (s.app p).slots .pCredentialProvider = some x) ∧
      (((s.app p).credentialType ≠ .na → (s.app p).slots .pCredentialProvider ≠ none) →
        ¬ App.KeepsProvider env (s.app p) → rest = []) := by
  obtain ⟨rest, hown, -, hkeep, hnone⟩ := App.teardown_owned h.built env
  have hp : p ∉ held := (List.nodup_cons.mp h.configs.nodup).1
  have hother : ∀ q ∈ held, (s.freeApp env p).configs.read q = s.configs.read q := by
    intro q hq
    refine (Arena.read_free ..).trans (Arena.read_modify_of_ne _ _ ?_)
    rintro rfl
    exact hp hq
  have hrest : (s.freeApp env p).holdings held = s.holdings held :=
    List.flatMap_congr fun q hq => by rw [hother q hq]
  refine ⟨rest, ⟨?_, ?_, fun q hq => ?_⟩, hrest, hkeep, hnone⟩
  · exact (h.configs.modify List.mem_cons_self fun _ => _).free
  · rw [hrest]
    exact hown.perm (List.perm_append_comm_assoc ..)
  · rw [hother q hq]
    exact h.nested q (List.mem_cons_of_mem _ hq)

/-! ## initApp -/

/-- The configuration that `initApp` allocates, at the end of its stages. -/
def staged (env : InitEnv) (s : Process) : AppStatus × App :=
  Stages.run .success (App.initSteps env)
    (({ s with configs := s.configs.alloc default } : Process).app s.configs.next)

/-- The process at that point. -/
def afterStages (env : InitEnv) (s : Process) : Process :=
  ({ s with configs := s.configs.alloc default } : Process).setApp s.configs.next (s.staged env).2

/-- The environment names the channel, and there is memory for the configuration. -/
def starts (env : InitEnv) : Bool := env.ok .getChannel && env.ok .appCalloc

theorem initApp_of_not_starts (h : starts env = false) (s : Process) :
    ∃ st, st ≠ .success ∧ s.initApp env = (st, none, s) := by
  unfold starts at h
  unfold initApp
  cases hchannel : env.ok .getChannel with
  | false => exact ⟨.appCommonChannelName, by simp, rfl⟩
  | true =>
    rw [hchannel, Bool.true_and] at h
    rw [h]
    exact ⟨.appCommonNotEnoughMemory, by simp, rfl⟩

/-- `initApp` once it has its configuration. -/
theorem initApp_of_starts (h : starts env = true) (s : Process) :
    s.initApp env =
      if (s.staged env).1 ≠ .success then
        ((s.staged env).1, none, (s.afterStages env).freeApp env s.configs.next)
      else if env.ok .appTimeQueueAdd = true then
        (.success, some s.configs.next,
          { s.afterStages env with gAppConfiguration := some s.configs.next })
      else
        (env.status .appTimeQueueAdd, none,
          { s.afterStages env with gAppConfiguration := some s.configs.next }.freeApp env
            s.configs.next) := by
  obtain ⟨hchannel, hcalloc⟩ := Bool.and_eq_true_iff.mp h
  unfold initApp
  rw [hchannel, hcalloc]
  cases env.ok .appTimeQueueAdd <;> rfl

theorem staged_spec (h : RunOk s held leaked) (env : InitEnv) :
    App.InitDone env (s.holdings held ++ leaked)
      (({ s with configs := s.configs.alloc default } : Process).app s.configs.next)
      (s.staged env).1 (s.staged env).2 := by
  have hdefault : ({ s with configs := s.configs.alloc default } : Process).app s.configs.next =
      { toConfig := default, resources := s.resources } := by
    unfold app
    rw [Arena.read_alloc_next]
  unfold staged
  rw [hdefault]
  refine App.initSteps_spec ⟨?_, fun _ => rfl, fun _ => rfl, fun _ => rfl⟩ (fun _ => rfl) env
  have hnone : Slots.handles Field.all (default : Config).slots = [] :=
    Slots.handles_eq_nil fun _ _ => rfl
  show s.resources.Owned (Slots.handles Field.all (default : Config).slots ++ ([] ++ _))
  rw [hnone]
  exact h.resources

/-- After the stages the new configuration is one of the live ones; `lost` is the media context that
nobody points to. -/
theorem afterStages_runOk (h : RunOk s held leaked) (env : InitEnv) :
    ∃ lost, RunOk (s.afterStages env) (s.configs.next :: held) (lost ++ leaked) ∧
      (s.afterStages env).app s.configs.next = (s.staged env).2 ∧
      (s.afterStages env).holdings held = s.holdings held ∧
      (lost ≠ [] ↔ App.losesMedia env = true) ∧ ∀ x ∈ lost, s.resources.next ≤ x := by
  obtain ⟨lost, hb, hlost, hge⟩ := (staged_spec h env).built
  have hold : ∀ q ∈ held, (s.configs.alloc default).read q = s.configs.read q := fun q hq =>
    Arena.read_alloc_of_lt _ _ (h.configs.lt_next hq)
  have hholds : ({ s with configs := s.configs.alloc default } : Process).holdings held =
      s.holdings held := List.flatMap_congr fun q hq => by rw [hold q hq]
  have hb' : App.Built (({ s with configs := s.configs.alloc default } : Process).holdings held ++
      (lost ++ leaked)) (s.staged env).2 := by
    refine ⟨hb.owned.perm ?_, hb.msqQueue, hb.codecConfLock, hb.certificates⟩
    rw [hholds]
    exact .append_left _ (.append_left _ (List.perm_append_comm_assoc ..))
  obtain ⟨hok, happ⟩ := RunOk.setApp (h.configs.alloc default)
    (fun q hq => by rw [hold q hq]; exact h.nested q hq) hb'
  refine ⟨lost, hok, happ, ?_, hlost, hge⟩
  refine (List.flatMap_congr fun q hq => ?_).trans hholds
  have hne : s.configs.next ≠ q := fun e => h.configs.next_not_mem (e ▸ hq)
  rw [show (s.afterStages env).configs.read q = (s.configs.alloc default).read q from
    Arena.read_modify_of_ne _ _ hne]

/-- A failed `initApp`, after its `freeApp`: `qs` are the media context and what is left of the
credential. -/
theorem freeApp_afterStages (h : RunOk s held leaked) (env : InitEnv) :
    ∃ qs, RunOk ((s.afterStages env).freeApp env s.configs.next) held (qs ++ leaked) ∧
      ((s.afterStages env).freeApp env s.configs.next).holdings held = s.holdings held ∧
      (qs = [] ↔ App.losesMedia env = false ∧
        (App.createsProvider env = true → env.ok .freeCredentialProvider = true)) ∧
      (qs ≠ [] → ∃ q ∈ qs, s.resources.next ≤ q) := by
  obtain ⟨lost, hok, happ, hholds, hlost, hge⟩ := afterStages_runOk h env
  obtain ⟨rest, hfreed, hholds', hkeep, hnone⟩ := freeApp_spec hok env
  have hdone := staged_spec h env
  rw [happ] at hkeep hnone
  have hnone' := hnone hdone.provider_of_type
  obtain ⟨x, hx, hprov⟩ := hdone.provider
  have hprovGe : ∀ y, (s.staged env).2.slots .pCredentialProvider = some y → s.resources.next ≤ y := by
    intro y hy
    rw [hprov] at hy
    split at hy
    · exact Option.some.inj hy ▸ hx
    · cases hy
  have hrest : rest = [] ↔
      (App.createsProvider env = true → env.ok .freeCredentialProvider = true) := by
    have hiff : rest = [] ↔ ¬ App.KeepsProvider env (s.staged env).2 := by
      refine ⟨fun hnil hk => ?_, hnone'⟩
      obtain ⟨y, hy, -⟩ := hkeep hk
      rw [hnil] at hy
      cases hy
    rw [hiff, hdone.keepsProvider_iff, not_and, Bool.not_eq_false]
  refine ⟨rest ++ lost, ?_, hholds'.trans hholds, ?_, fun hne => ?_⟩
  · rw [List.append_assoc]
    exact hfreed
  · rw [List.append_eq_nil_iff, hrest, and_comm, ← Bool.not_eq_true, ← hlost, not_not]
  · by_cases hl : lost = []
    · have hr : rest ≠ [] := fun hr => hne (by rw [hr, hl]; rfl)
      have hk : App.KeepsProvider env (s.staged env).2 := by
        by_contra hk
        exact hr (hnone' hk)
      obtain ⟨y, hy, hp⟩ := hkeep hk
      exact ⟨y, List.mem_append_left _ hy, hprovGe y hp⟩
    · obtain ⟨y, hy⟩ := List.exists_mem_of_ne_nil _ hl
      exact ⟨y, List.mem_append_right _ hy, hge y hy⟩

/-! ## All or nothing, and the global -/

/-- A failed `initApp` returns no configuration, and what it acquired has been released, once. -/
def AllOrNothing (s : Process) : Call → Prop
  | .initApp env =>
    (s.initApp env).1 ≠ .success → (s.initApp env).2.1 = none ∧
      FreedSince s.configs (s.initApp env).2.2.configs ∧
      FreedSince s.resources (s.initApp env).2.2.resources
  | .freeApp .. => True

/-- The global is `NULL`, or its configuration has not been freed. -/
def SafeGlobal (s : Process) : Prop :=
  ∀ p, s.gAppConfiguration = some p → s.configs.live p = true

theorem sigIntHandler_eq_iff (h : s.configs.misused = false) :
    s.sigIntHandler = s ↔ SafeGlobal s := by
  unfold sigIntHandler SafeGlobal
  cases hg : s.gAppConfiguration with
  | none => simp
  | some p =>
    constructor
    · intro he q hq
      have hm : (s.configs.touch p).misused = s.configs.misused :=
        congrArg (fun t : Process => t.configs.misused) he
      rw [← Option.some.inj hq]
      unfold Arena.touch at hm
      simpa [h] using hm
    · intro hlive
      show (⟨s.configs.touch p, s.resources, some p⟩ : Process) = s
      rw [Arena.touch_of_live (hlive p rfl), ← hg]

/-- The call of `initApp` does not reach `initMediaSource` and fail there with its context
allocated, does not get as far as the certificate timer and fail there, and where it fails with a
provider created, the provider can be freed.  The call of `freeApp` is not for the configuration
that the global refers to. -/
def Meets (s : Process) : Call → Prop
  | .initApp env => starts env = true → App.losesMedia env = false ∧
      (App.completes env = true → env.ok .appTimeQueueAdd = true) ∧
      (App.createsProvider env = true →
        App.completes env = true ∨ env.ok .freeCredentialProvider = true)
  | .freeApp _ p => s.gAppConfiguration ≠ some p

theorem RunOk.publish (h : RunOk s held leaked) (g : Option PAppConfiguration) :
    RunOk { s with gAppConfiguration := g } held leaked :=
  ⟨h.configs, h.resources, h.nested⟩

theorem live_freeApp (env : InitEnv) (s : Process) (p q : PAppConfiguration) :
    (s.freeApp env p).configs.live q = true ↔ s.configs.live q = true ∧ q ≠ p := by
  unfold freeApp setApp
  rw [Arena.live_free, Arena.live_modify]

theorem live_afterStages (env : InitEnv) (s : Process) (q : PAppConfiguration) :
    (s.afterStages env).configs.live q = true ↔ s.configs.live q = true ∨ q = s.configs.next := by
  unfold afterStages setApp
  rw [Arena.live_modify, Arena.live_alloc]

/-! ## One call -/

theorem freeApp_step_runOk (h : RunOk s held leaked) (env : InitEnv) (p : PAppConfiguration) :
    ∃ held leaked, RunOk (s.step (.freeApp env p)) held leaked := by
  show ∃ held leaked, RunOk (if s.configs.live p = true then s.freeApp env p else s) held leaked
  split
  · next hlive =>
    have hp : held.Perm (p :: held.erase p) := List.perm_cons_erase ((h.configs.live_iff p).mp hlive)
    obtain ⟨rest, hok, -⟩ := freeApp_spec (h.perm hp) env
    exact ⟨_, _, hok⟩
  · exact ⟨held, leaked, h⟩

theorem initApp_step_runOk (h : RunOk s held leaked) (env : InitEnv) :
    ∃ held leaked, RunOk (s.step (.initApp env)) held leaked := by
  show ∃ held leaked, RunOk (s.initApp env).2.2 held leaked
  cases hstart : starts env with
  | false =>
    obtain ⟨st, -, he⟩ := initApp_of_not_starts hstart s
    rw [he]
    exact ⟨held, leaked, h⟩
  | true =>
    obtain ⟨lost, hok, -⟩ := afterStages_runOk h env
    have hpub := hok.publish (some s.configs.next)
    rw [initApp_of_starts hstart]
    split
    · obtain ⟨rest, hfreed, -⟩ := freeApp_spec hok env
      exact ⟨_, _, hfreed⟩
    split
    · exact ⟨_, _, hpub⟩
    · obtain ⟨rest, hfreed, -⟩ := freeApp_spec hpub env
      exact ⟨_, _, hfreed⟩

theorem step_runOk (h : RunOk s held leaked) (c : Call) :
    ∃ held leaked, RunOk (s.step c) held leaked := by
  cases c with
  | initApp env => exact initApp_step_runOk h env
  | freeApp env p => exact freeApp_step_runOk h env p

theorem freeApp_step_iff (hsafe : SafeGlobal s) (env : InitEnv) (p : PAppConfiguration) :
    s.gAppConfiguration ≠ some p ↔ SafeGlobal (s.step (.freeApp env p)) := by
  show _ ↔ SafeGlobal (if s.configs.live p = true then s.freeApp env p else s)
  split
  · constructor
    · intro hne q hq
      refine (live_freeApp env s p q).mpr ⟨hsafe q hq, ?_⟩
      rintro rfl
      exact hne hq
    · intro hnext hg
      exact ((live_freeApp env s p p).mp (hnext p hg)).2 rfl
  · next hlive => exact iff_of_true (fun hg => hlive (hsafe p hg)) hsafe

/-- A stage failed: the global is as it was, and all that counts is what `freeApp` could not give
back. -/
theorem initApp_step_iff_of_failed (h : RunOk s held leaked) (hsafe : SafeGlobal s)
    (hstart : starts env = true) (hst : (s.staged env).1 ≠ .success) :
    Meets s (.initApp env) ↔
      AllOrNothing s (.initApp env) ∧ SafeGlobal (s.step (.initApp env)) := by
  have hcomplete : App.completes env = false :=
    Bool.eq_false_iff.mpr (mt (staged_spec h env).success.mpr hst)
  obtain ⟨qs, hok, hholds, hnil, hne⟩ := freeApp_afterStages h env
  have he := initApp_of_starts hstart s
  rw [if_pos hst] at he
  have hglobal : SafeGlobal (s.step (.initApp env)) := by
    show SafeGlobal (s.initApp env).2.2
    rw [he]
    intro q hq
    have hlive := hsafe q hq
    refine (live_freeApp ..).mpr ⟨(live_afterStages ..).mpr (.inl hlive), ?_⟩
    exact Nat.ne_of_lt (Arena.live_lt hlive)
  have hconfigs : FreedSince s.configs ((s.afterStages env).freeApp env s.configs.next).configs :=
    (@freedSince_iff _ _ _ [] held hok.configs (absurd rfl) fun p hp => h.configs.lt_next hp).mpr rfl
  have hresources : FreedSince s.resources
      ((s.afterStages env).freeApp env s.configs.next).resources ↔ qs = [] := by
    refine @freedSince_iff _ _ _ qs (s.holdings held ++ leaked) (hok.resources.perm ?_) hne
      fun p hp => h.resources.lt_next hp
    rw [hholds]
    exact List.perm_append_comm_assoc ..
  rw [and_iff_left hglobal]
  show (starts env = true → _) ↔ ((s.initApp env).1 ≠ .success → _ ∧ _ ∧ _)
  rw [he, hresources, hnil, hcomplete]
  simp [hstart, hst, hconfigs]

/-- Every stage succeeded: all that counts is the certificate timer. -/
theorem initApp_step_iff_of_completes (h : RunOk s held leaked) (hstart : starts env = true)
    (hst : (s.staged env).1 = .success) :
    Meets s (.initApp env) ↔
      AllOrNothing s (.initApp env) ∧ SafeGlobal (s.step (.initApp env)) := by
  have hcomplete : App.completes env = true := (staged_spec h env).success.mp hst
  have hmeets : Meets s (.initApp env) ↔ env.ok .appTimeQueueAdd = true := by
    show (starts env = true → _) ↔ _
    simp [hstart, hcomplete, App.losesMedia_of_completes hcomplete]
  have he := initApp_of_starts hstart s
  rw [if_neg (not_not.mpr hst)] at he
  rw [hmeets]
  by_cases htimer : env.ok .appTimeQueueAdd = true
  · rw [if_pos htimer] at he
    refine iff_of_true htimer ⟨?_, ?_⟩
    · show (s.initApp env).1 ≠ .success → _
      rw [he]
      exact absurd rfl
    · show SafeGlobal (s.initApp env).2.2
      rw [he]
      intro q hq
      exact (live_afterStages ..).mpr (.inr (Option.some.inj hq).symm)
  · rw [if_neg htimer] at he
    apply iff_of_false htimer
    intro hboth
    have hglobal : SafeGlobal (s.initApp env).2.2 := hboth.2
    rw [he] at hglobal
    exact ((live_freeApp ..).mp (hglobal s.configs.next rfl)).2 rfl

theorem step_iff (h : RunOk s held leaked) (hsafe : SafeGlobal s) (c : Call) :
    Meets s c ↔ AllOrNothing s c ∧ SafeGlobal (s.step c) := by
  cases c with
  | freeApp env p => exact (freeApp_step_iff hsafe env p).trans (and_iff_right trivial).symm
  | initApp env =>
    cases hstart : starts env with
    | false =>
      obtain ⟨st, hst, he⟩ := initApp_of_not_starts hstart s
      have hnone : ∀ {α : Type} (a : Arena α), FreedSince a a := fun a p hge hlt => by omega
      refine iff_of_true (fun ht => ?_) ⟨fun _ => ?_, ?_⟩
      · rw [hstart] at ht
        cases ht
      · rw [he]
        exact ⟨rfl, hnone _, hnone _⟩
      · show SafeGlobal (s.initApp env).2.2
        rw [he]
        exact hsafe
    | true =>
      by_cases hst : (s.staged env).1 = .success
      · exact initApp_step_iff_of_completes h hstart hst
      · exact initApp_step_iff_of_failed h hsafe hstart hst

/-! ## The run -/

/-- Each call of `initApp` all-or-nothing, and the global `NULL` or live in every state. -/
def Clean (cs : List Call) : Prop :=
  Run.Along step AllOrNothing start cs ∧ ∀ bs, bs <+: cs → SafeGlobal (Run.exec step start bs)

theorem clean_iff (cs : List Call) : Clean cs ↔ Run.Along step Meets start cs := by
  have hstep : ∀ s c, (∃ held leaked, RunOk s held leaked) →
      ∃ held leaked, RunOk (s.step c) held leaked := by
    rintro s c ⟨held, leaked, h⟩
    exact step_runOk h c
  refine (Run.along_iff_and_prefix hstep ?_ ⟨[], [], runOk_start⟩ ?_ cs).symm
  · rintro s c ⟨held, leaked, h⟩ hsafe
    exact step_iff h hsafe c
  · intro p hp
    cases hp

/-- An environment with static credentials in which one call fails. -/
def failing (call : InitCall) : InitEnv where
  status c := if c = call then .sdk 1 else .success
  credentialType := .static
  fileLogging := false

/-- The certificate timer cannot be added: the global outlives its configuration.  The camera is not
found: the media context outlives the call. -/
theorem not_clean :
    ¬ Clean [.initApp (failing .appTimeQueueAdd)] ∧
      ¬ Clean [.initApp (failing .discoverMediaSource)] := by
  constructor
  · rintro ⟨-, hsafe⟩
    have hlive := hsafe _ List.prefix_rfl 0 (by decide +kernel)
    revert hlive
    decide +kernel
  · rintro ⟨⟨hall, -⟩, -⟩
    obtain ⟨-, -, hfreed⟩ := hall (by decide +kernel)
    -- the context is cell 11, its lock cell 12
    have hone := hfreed 11 (by decide +kernel) (by decide +kernel)
    revert hone
    decide +kernel

end Process

end WebrtcApp.Lifecycle
