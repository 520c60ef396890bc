import WebrtcApp.App.Session
import WebrtcApp.Lib.Run

/-!
# The pool of certificates

Any threads call `generateCertRoutine` and `popGeneratedCert`, step by step; `generateCertLock` keeps
their bodies apart.  The pool is a queue: what was handed out and what is pooled are, in this order,
what was generated.  A certificate is added to a pool of up to `MAX_RTCCONFIGURATION_CERTIFICATES`
certificates, so the pool can hold one more than that.

    exec_generateCertRoutine    a call that nothing interrupts is generateCertRoutine
    exec_popGeneratedCert       the same for popGeneratedCert
    Inv.step                    what the steps keep; the pool has at most one certificate too many
    pool_kept_iff               the pool is as it should be where nothing is added to a full one
-/

namespace WebrtcApp

/-! ## The machine -/

/-- The next step of a thread; all but the first hold `generateCertLock`. -/
inductive CertPhase
  | idle
  -- generateCertRoutine
  | counting
  | creating
  | enqueueing (p : PRtcCertificate)
  -- popGeneratedCert
  | dequeueing
  | unlocking (st : Status)
  deriving DecidableEq

/-- Between the count and the enqueue. -/
def CertPhase.adds : CertPhase → Bool
  | .creating | .enqueueing _ => true
  | _ => false

/-- `generated` are the certificates that were added to the pool and `handedOut` those that
`popGeneratedCert` returned, oldest first; `emptyPops` is what it returned for an empty pool. -/
structure PoolHistory where
  credential : AppCredential
  generated : List PRtcCertificate
  handedOut : List PRtcCertificate
  emptyPops : List (Status × Option PRtcCertificate)

abbrev PoolHistory.pool (r : PoolHistory) : List PRtcCertificate := r.credential.generatedCertificates

structure CertPool (T : Type) extends PoolHistory where
  generateCertLock : Option T
  phases : T → CertPhase

/-- `generateCertRoutine` and `popGeneratedCert` are calls, up to the `MUTEX_LOCK`; `next` is the next
step of the call that the thread is in. -/
inductive CertAction (T : Type)
  | generateCertRoutine (t : T)
  | popGeneratedCert (t : T)
  | next (t : T) (env : Env)

namespace CertPool

variable {T : Type} [DecidableEq T]

/-- An empty pool, of a credential that may have had certificates before. -/
def start (certificates : Arena Unit) : CertPool T :=
  ⟨⟨⟨certificates, []⟩, [], [], []⟩, none, fun _ => .idle⟩

def setPhase (s : CertPool T) (t : T) (ph : CertPhase) : CertPool T :=
  { s with phases := Function.update s.phases t ph }

def lock (s : CertPool T) (t : T) (ph : CertPhase) : CertPool T :=
  if s.phases t = .idle ∧ s.generateCertLock = none then
    { s.setPhase t ph with generateCertLock := some t }
  else s

/-- The next step of the call that the thread `t` is in. -/
def nextStep (s : CertPool T) (t : T) (env : Env) : CertPool T :=
  match s.phases t with
  | .idle => s
  | .counting =>
    if !env.ok .certGetCount then s.setPhase t (.unlocking (env.status .certGetCount))
    else if s.pool.length > maxRtcConfigurationCertificates then s.setPhase t (.unlocking .success)
    else s.setPhase t .creating
  | .creating =>
    if !env.ok .createRtcCertificate then s.setPhase t (.unlocking .appCredentialCertCreate)
    else
      { s.setPhase t (.enqueueing s.credential.certificates.next) with
        credential := { s.credential with certificates := s.credential.certificates.alloc () } }
  | .enqueueing p =>
    if !env.ok .certEnqueue then
      { s.setPhase t (.unlocking .appCredentialCertStack) with
        credential := { s.credential with certificates := s.credential.certificates.free p } }
    else
      { s.setPhase t (.unlocking .success) with
        credential := { s.credential with generatedCertificates := s.pool ++ [p] }
        generated := s.generated ++ [p] }
  | .dequeueing =>
    match s.pool with
    | [] => { s.setPhase t (.unlocking .success) with emptyPops := s.emptyPops ++ [(.success, none)] }
    | p :: ps =>
      { s.setPhase t (.unlocking .success) with
        credential := { s.credential with generatedCertificates := ps }
        handedOut := s.handedOut ++ [p] }
  | .unlocking _ => { s.setPhase t .idle with generateCertLock := none }

def step (s : CertPool T) : CertAction T → CertPool T
  | .generateCertRoutine t => s.lock t .counting
  | .popGeneratedCert t => s.lock t .dequeueing
  | .next t env => s.nextStep t env

end CertPool

/-- The pool is bounded, the certificates are handed out in the order in which they were generated,
none twice, and an empty pool gives `NULL`. -/
structure PoolKept (s : PoolHistory) : Prop where
  bounded : s.pool.length ≤ maxRtcConfigurationCertificates
  inOrder : s.handedOut <+: s.generated
  created : s.generated.Pairwise (· < ·)
  once : s.handedOut.Nodup
  emptyPop : ∀ r ∈ s.emptyPops, r = (.success, none)

/-- No certificate is added to a pool of `MAX_RTCCONFIGURATION_CERTIFICATES`. -/
def RoomLeft {T : Type} (s : CertPool T) : CertAction T → Prop
  | .next t env =>
    ∀ p, s.phases t = .enqueueing p → s.pool.length = maxRtcConfigurationCertificates →
      env.ok .certEnqueue = false
  | _ => True

/-! ## Calls that nothing interrupts -/

namespace CertPool

variable {T : Type} [DecidableEq T] {s : CertPool T} {t : T}

/-- A call of `t` with nothing in between, and where it ends. -/
theorem exec_generateCertRoutine (env : Env) (hi : s.phases t = .idle)
    (hl : s.generateCertLock = none) :
    ∃ k, let s' := Run.exec step s (.generateCertRoutine t :: List.replicate k (.next t env))
      s'.credential = (generateCertRoutine env s.credential).2 ∧
        s'.phases t = .unlocking (generateCertRoutine env s.credential).1 := by
  unfold generateCertRoutine
  by_cases h1 : env.ok .certGetCount = true
  · by_cases h2 : s.pool.length > maxRtcConfigurationCertificates
    · refine ⟨1, ?_⟩
      simp [step, lock, nextStep, setPhase, hi, hl, h1, h2]
    · by_cases h3 : env.ok .createRtcCertificate = true
      · refine ⟨3, ?_⟩
        cases h4 : env.ok .certEnqueue <;>
          simp [step, lock, nextStep, setPhase, hi, hl, h1, h2, h3, h4]
      · refine ⟨2, ?_⟩
        simp [step, lock, nextStep, setPhase, hi, hl, h1, h2, h3]
  · refine ⟨1, ?_⟩
    simp [step, lock, nextStep, setPhase, hi, hl, h1]

theorem exec_popGeneratedCert (env : Env) (hi : s.phases t = .idle) (hl : s.generateCertLock = none)
    (hq : env.status .certDequeue = .success) :
    let s' := Run.exec step s [.popGeneratedCert t, .next t env]
    s'.credential = (popGeneratedCert env s.credential).2.2 ∧
      s'.phases t = .unlocking (popGeneratedCert env s.credential).1 ∧
      s'.handedOut = s.handedOut ++ (popGeneratedCert env s.credential).2.1.toList := by
  unfold popGeneratedCert
  cases hp : s.credential.generatedCertificates with
  | nil => simp [step, lock, nextStep, setPhase, PoolHistory.pool, hi, hl, hq, hp]
  | cons p ps => simp [step, lock, nextStep, setPhase, PoolHistory.pool, hi, hl, hq, hp]

end CertPool

/-! ## The pool -/

/-- What holds of the pool while the call under the lock is at `ph`. -/
structure PoolAt (ph : CertPhase) (r : PoolHistory) : Prop where
  queued : r.handedOut ++ r.pool = r.generated
  created : r.generated.Pairwise (· < ·)
  old : ∀ p ∈ r.generated, p < r.credential.certificates.next
  fresh : ∀ p, ph = .enqueueing p →
    p < r.credential.certificates.next ∧ ∀ q ∈ r.generated, q < p
  room : ph.adds = true → r.pool.length ≤ maxRtcConfigurationCertificates
  size : r.pool.length ≤ maxRtcConfigurationCertificates + 1
  emptyPop : ∀ e ∈ r.emptyPops, e = (.success, none)

namespace PoolAt

variable {ph ph' : CertPhase} {r : PoolHistory} {p : PRtcCertificate}

theorem start (certificates : Arena Unit) : PoolAt .idle ⟨⟨certificates, []⟩, [], [], []⟩ :=
  ⟨rfl, List.Pairwise.nil, nofun, nofun, nofun, Nat.zero_le _, nofun⟩

theorem of_adds (h : PoolAt ph r) (ha : ph'.adds = false) : PoolAt ph' r := by
  refine { h with fresh := ?_, room := ?_ }
  · rintro p rfl
    cases ha
  · intro hph
    rw [ha] at hph
    cases hph

/-- A created certificate is younger than those of the pool. -/
theorem create (h : PoolAt .creating r) :
    PoolAt (.enqueueing r.credential.certificates.next)
      { r with credential :=
        { r.credential with certificates := r.credential.certificates.alloc () } } where
  queued := h.queued
  created := h.created
  old p hp := by
    show p < (r.credential.certificates.alloc ()).next
    rw [Arena.next_alloc]
    exact Nat.lt_succ_of_lt (h.old p hp)
  fresh := by
    rintro p ⟨⟩
    refine ⟨?_, h.old⟩
    show r.credential.certificates.next < (r.credential.certificates.alloc ()).next
    rw [Arena.next_alloc]
    exact Nat.lt_succ_self _
  room _ := h.room rfl
  size := h.size
  emptyPop := h.emptyPop

/-- A certificate that is not enqueued is freed. -/
theorem discard (h : PoolAt ph r) (ha : ph'.adds = false) (p : PRtcCertificate) :
    PoolAt ph' { r with credential :=
      { r.credential with certificates := r.credential.certificates.free p } } := by
  have h' := h.of_adds ha
  refine { h' with old := ?_, fresh := ?_ }
  · intro q hq
    rw [Arena.next_free]
    exact h'.old q hq
  · rintro q rfl
    cases ha

/-- The pool grows by one certificate, which is younger than the others. -/
theorem enqueue (h : PoolAt (.enqueueing p) r) (ha : ph'.adds = false) :
    PoolAt ph' { r with
      credential := { r.credential with generatedCertificates := r.pool ++ [p] }
      generated := r.generated ++ [p] } := by
  refine { queued := ?_, created := ?_, old := ?_, fresh := ?_, room := ?_, size := ?_, emptyPop := ?_ }
  · show r.handedOut ++ (r.pool ++ [p]) = r.generated ++ [p]
    rw [← List.append_assoc, h.queued]
  · rw [List.pairwise_append]
    refine ⟨h.created, List.pairwise_singleton _ _, ?_⟩
    intro q hq r' hr
    rw [List.mem_singleton.mp hr]
    exact (h.fresh p rfl).2 q hq
  · intro q hq
    rcases List.mem_append.mp hq with hq | hq
    · exact h.old q hq
    · rw [List.mem_singleton.mp hq]
      exact (h.fresh p rfl).1
  · rintro q rfl
    cases ha
  · intro hph
    rw [ha] at hph
    cases hph
  · have hroom := h.room rfl
    show (r.pool ++ [p]).length ≤ _
    rw [List.length_append, List.length_singleton]
    omega
  · exact h.emptyPop

/-- The oldest certificate of the pool is handed out. -/
theorem dequeue (h : PoolAt ph r) (ha : ph'.adds = false) {ps : List PRtcCertificate}
    (hp : r.pool = p :: ps) :
    PoolAt ph' { r with
      credential := { r.credential with generatedCertificates := ps }
      handedOut := r.handedOut ++ [p] } := by
  have hq := h.queued
  have hs := h.size
  rw [hp] at hq hs
  refine { h.of_adds ha with queued := ?_, room := ?_, size := ?_ }
  · show r.handedOut ++ [p] ++ ps = r.generated
    rw [List.append_assoc]
    exact hq
  · intro hph
    rw [ha] at hph
    cases hph
  · exact Nat.le_of_succ_le hs

theorem emptyPop_append (h : PoolAt ph r) (ha : ph'.adds = false) :
    PoolAt ph' { r with emptyPops := r.emptyPops ++ [(.success, none)] } := by
  refine { h.of_adds ha with emptyPop := ?_ }
  intro e he
  rcases List.mem_append.mp he with he | he
  · exact h.emptyPop e he
  · exact List.mem_singleton.mp he

theorem kept_iff (h : PoolAt ph r) :
    PoolKept r ↔ r.pool.length ≤ maxRtcConfigurationCertificates := by
  constructor
  · intro hk
    exact hk.bounded
  · intro hb
    have hprefix : r.handedOut <+: r.generated := ⟨r.pool, h.queued⟩
    refine ⟨hb, hprefix, h.created, ?_, h.emptyPop⟩
    exact (h.created.imp Nat.ne_of_lt).sublist hprefix.sublist

end PoolAt

/-! ## The steps -/

namespace CertPool

variable {T : Type} {s : CertPool T} {t : T}

/-- The phase of the thread that has the lock. -/
def holder (s : CertPool T) : CertPhase :=
  match s.generateCertLock with
  | some t => s.phases t
  | none => .idle

/-- Only the thread with the lock is in a call. -/
structure Inv (s : CertPool T) : Prop where
  locked : ∀ t, s.phases t ≠ .idle → s.generateCertLock = some t
  pool : PoolAt s.holder s.toPoolHistory

theorem Inv.start (certificates : Arena Unit) : (start certificates : CertPool T).Inv :=
  ⟨fun _ ht => absurd rfl ht, PoolAt.start certificates⟩

theorem Inv.poolAt (h : s.Inv) {ph : CertPhase} (ht : s.phases t = ph) (hph : ph ≠ .idle) :
    PoolAt ph s.toPoolHistory := by
  subst ht
  have hp := h.pool
  unfold holder at hp
  rwa [h.locked t hph] at hp

variable [DecidableEq T]

/-- The thread with the lock goes on, or gives the lock back. -/
theorem Inv.move (h : s.Inv) (ht : s.phases t ≠ .idle) {ph : CertPhase} {s' : CertPool T}
    (hphases : s'.phases = Function.update s.phases t ph)
    (hlock : s'.generateCertLock = if ph = .idle then none else some t)
    (hp : PoolAt ph s'.toPoolHistory) : s'.Inv := by
  have hother : ∀ u, u ≠ t → s'.phases u = .idle := by
    intro u hu
    rw [hphases, Function.update_of_ne hu]
    by_contra hn
    exact hu (Option.some.inj ((h.locked u hn).symm.trans (h.locked t ht)))
  have hself : s'.phases t = ph := by rw [hphases, Function.update_self]
  constructor
  · intro u hu
    by_cases hut : u = t
    · subst hut
      rw [hself] at hu
      rw [hlock, if_neg hu]
    · exact absurd (hother u hut) hu
  · unfold holder
    rw [hlock]
    by_cases hph : ph = .idle
    · subst hph
      exact hp
    · rw [if_neg hph]
      show PoolAt (s'.phases t) s'.toPoolHistory
      rw [hself]
      exact hp

theorem Inv.lock (h : s.Inv) (t : T) {ph : CertPhase} (hph : ph.adds = false) :
    (s.lock t ph).Inv := by
  unfold CertPool.lock
  split
  · next hen =>
    have hidle : ∀ u, s.phases u = .idle := by
      intro u
      by_contra hu
      exact Option.some_ne_none u ((h.locked u hu).symm.trans hen.2)
    constructor
    · intro u hu
      by_cases hut : u = t
      · exact congrArg some hut.symm
      · exact absurd ((Function.update_of_ne hut ..).trans (hidle u)) hu
    · show PoolAt (Function.update s.phases t ph t) s.toPoolHistory
      rw [Function.update_self]
      exact h.pool.of_adds hph
  · exact h

theorem Inv.next (h : s.Inv) (t : T) (env : Env) : (s.nextStep t env).Inv := by
  unfold nextStep
  cases ht : s.phases t with
  | idle => exact h
  | counting =>
    have hne : s.phases t ≠ .idle := by simp [ht]
    have hp := h.poolAt ht nofun
    by_cases hok : env.ok .certGetCount = true
    · by_cases hlen : s.pool.length > maxRtcConfigurationCertificates
      · simp only [hok, hlen]
        exact h.move hne rfl (h.locked t hne) (hp.of_adds rfl)
      · simp only [hok, hlen]
        refine h.move hne rfl (h.locked t hne) { hp with fresh := nofun, room := ?_ }
        exact fun _ => Nat.le_of_not_gt hlen
    · simp only [hok]
      exact h.move hne rfl (h.locked t hne) (hp.of_adds rfl)
  | creating =>
    have hne : s.phases t ≠ .idle := by simp [ht]
    have hp := h.poolAt ht nofun
    by_cases hok : env.ok .createRtcCertificate = true
    · simp only [hok]
      exact h.move hne rfl (h.locked t hne) hp.create
    · simp only [hok]
      exact h.move hne rfl (h.locked t hne) (hp.of_adds rfl)
  | enqueueing p =>
    have hne : s.phases t ≠ .idle := by simp [ht]
    have hp := h.poolAt ht nofun
    by_cases hok : env.ok .certEnqueue = true
    · simp only [hok]
      exact h.move hne rfl (h.locked t hne) (hp.enqueue rfl)
    · simp only [hok]
      exact h.move hne rfl (h.locked t hne) (hp.discard rfl p)
  | dequeueing =>
    have hne : s.phases t ≠ .idle := by simp [ht]
    have hp := h.poolAt ht nofun
    cases hpool : s.credential.generatedCertificates with
    | nil =>
      simp only [PoolHistory.pool, hpool]
      exact h.move hne rfl (h.locked t hne) (hp.emptyPop_append rfl)
    | cons p ps =>
      simp only [PoolHistory.pool, hpool]
      exact h.move hne rfl (h.locked t hne) (hp.dequeue rfl hpool)
  | unlocking st =>
    have hne : s.phases t ≠ .idle := by simp [ht]
    exact h.move hne rfl rfl ((h.poolAt ht nofun).of_adds rfl)

theorem Inv.step (h : s.Inv) (a : CertAction T) : (s.step a).Inv := by
  cases a with
  | generateCertRoutine t => exact h.lock t rfl
  | popGeneratedCert t => exact h.lock t rfl
  | next t env => exact h.next t env

theorem pool_enqueue {env : Env} {p : PRtcCertificate} (ht : s.phases t = .enqueueing p)
    (hok : env.ok .certEnqueue = true) : (s.step (.next t env)).pool = s.pool ++ [p] := by
  simp [step, nextStep, ht, hok]

/-- The pool grows by an enqueue only. -/
theorem pool_step (s : CertPool T) (a : CertAction T) :
    (s.step a).pool.length ≤ s.pool.length ∨ ∃ t env p, a = .next t env ∧
      s.phases t = .enqueueing p ∧ env.ok .certEnqueue = true := by
  have hlock : ∀ t ph, (s.lock t ph).pool = s.pool := by
    intro t ph
    unfold CertPool.lock
    split <;> rfl
  cases a with
  | generateCertRoutine t => exact Or.inl (Nat.le_of_eq (congrArg _ (hlock t .counting)))
  | popGeneratedCert t => exact Or.inl (Nat.le_of_eq (congrArg _ (hlock t .dequeueing)))
  | next t env =>
    show (s.nextStep t env).pool.length ≤ s.pool.length ∨ _
    unfold nextStep
    cases ht : s.phases t with
    | enqueueing p =>
      by_cases hok : env.ok .certEnqueue = true
      · exact Or.inr ⟨t, env, p, rfl, ht, hok⟩
      · exact Or.inl (by simp [hok, setPhase])
    | dequeueing =>
      left
      cases hpool : s.credential.generatedCertificates <;> simp [PoolHistory.pool, hpool, setPhase]
    | counting =>
      left
      simp only
      split_ifs <;> simp [setPhase]
    | creating =>
      left
      simp only
      split_ifs <;> simp [setPhase]
    | idle => exact Or.inl (Nat.le_refl _)
    | unlocking st => exact Or.inl (Nat.le_refl _)

/-- A step from a pool as it should be leads to one where it adds nothing to a full pool. -/
theorem Inv.kept_step (h : s.Inv) (hk : PoolKept s.toPoolHistory) (a : CertAction T) :
    RoomLeft s a ↔ PoolKept (s.step a).toPoolHistory := by
  rw [(h.step a).pool.kept_iff]
  constructor
  · intro hroom
    rcases s.pool_step a with hle | ⟨t, env, p, rfl, ht, hok⟩
    · exact Nat.le_trans hle hk.bounded
    · have hne : s.pool.length ≠ maxRtcConfigurationCertificates := by
        intro hlen
        rw [hroom p ht hlen] at hok
        cases hok
      have hlt := Nat.lt_of_le_of_ne hk.bounded hne
      rw [pool_enqueue ht hok, List.length_append]
      exact hlt
  · intro hle
    cases a with
    | generateCertRoutine t => trivial
    | popGeneratedCert t => trivial
    | next t env =>
      intro p ht hlen
      by_contra hok
      rw [pool_enqueue ht (Bool.not_eq_false _ ▸ hok), List.length_append, hlen] at hle
      exact Nat.not_succ_le_self _ hle

end CertPool

/-! ## The runs -/

section
variable {T : Type} [DecidableEq T]

/-- In every run the pool holds at most one certificate more than it should. -/
theorem pool_length_le (certificates : Arena Unit) (as : List (CertAction T)) :
    (Run.exec CertPool.step (CertPool.start certificates) as).pool.length ≤
      maxRtcConfigurationCertificates + 1 := by
  have hinv := Run.exec_invariant (I := CertPool.Inv) (fun s a hs => hs.step a)
    (CertPool.Inv.start certificates) as
  exact hinv.pool.size

/-- The pool is as it should be in every state of a run exactly where no certificate is added to a
full pool. -/
theorem pool_kept_iff (certificates : Arena Unit) (as : List (CertAction T)) :
    (∀ bs, bs <+: as →
        PoolKept (Run.exec CertPool.step (CertPool.start certificates) bs).toPoolHistory) ↔
      Run.Along CertPool.step RoomLeft (CertPool.start certificates) as := by
  have h0 : PoolKept (CertPool.start certificates : CertPool T).toPoolHistory :=
    (PoolAt.start certificates).kept_iff.mpr (Nat.zero_le _)
  exact (Run.along_iff_prefix (Q := fun s => PoolKept s.toPoolHistory) (fun s a hs => hs.step a)
    (fun s a hs hk => hs.kept_step hk a) (CertPool.Inv.start certificates) h0 as).symm

/-- One call of `generateCertRoutine` in which everything succeeds. -/
def generateOnce : List (CertAction Unit) :=
  .generateCertRoutine () :: List.replicate 4 (.next () Env.allOk)

/-- Four calls of `generateCertRoutine`, and nothing is popped. -/
theorem four_certificates_pooled :
    ¬ PoolKept (Run.exec CertPool.step (CertPool.start Arena.empty)
      (generateOnce ++ generateOnce ++ generateOnce ++ generateOnce)).toPoolHistory := by
  intro h
  exact absurd h.bounded (by decide +kernel)

end

end WebrtcApp
