import Mathlib

/-!
# Runs of a step function

A machine is a step function `σ → α → σ`; an action that is not enabled leaves the state
as it is.  `exec step s as` is the state after a run, and `Along step P s as` says that
`P` holds of every step of it, at the state the step starts from.

    exec_forEach          a loop over a list by its index
    Along.invariant       what every step allowed by `P` preserves holds after the run
    Along.history         the same for an invariant that also sees the actions so far
    exec_invariant        what every step preserves holds after the run
    exec_rank             a rank that the steps of one kind lower, after as many of them
    Along.of_forall       every step is allowed
    Along.of_mem          every action of the run is allowed
    along_of_invariant    every step from a state with the invariant is allowed
    along_iff_prefix      a property of the states holds all along exactly where `P` does
    along_iff_and_prefix  the same together with a property of the steps
    along_iff_exec        where the property does not come back, it is enough to look at the end
-/

namespace Run

variable {σ α : Type} (step : σ → α → σ)

def exec (s : σ) (as : List α) : σ := as.foldl step s

def Along (P : σ → α → Prop) : σ → List α → Prop
  | _, [] => True
  | s, a :: as => P s a ∧ Along P (step s a) as

def Reachable (init s : σ) : Prop := ∃ as, exec step init as = s

variable {step}

@[simp] theorem exec_nil (s : σ) : exec step s [] = s := rfl

@[simp] theorem exec_cons (s : σ) (a : α) (as : List α) :
    exec step s (a :: as) = exec step (step s a) as := rfl

theorem exec_append (s : σ) (as bs : List α) :
    exec step s (as ++ bs) = exec step (exec step s as) bs :=
  List.foldl_append ..

/-- A loop over a list by its index, one round a step, is the fold over the list. -/
theorem exec_forEach {β γ : Type} {a : α} {state : γ → Nat → σ} {done : γ → σ} {list : γ → List β}
    {f : γ → β → γ} (hlist : ∀ c x, list (f c x) = list c)
    (hround : ∀ c i (hi : i < (list c).length),
      step (state c i) a = state (f c (list c)[i]) (i + 1))
    (hend : ∀ c i, (list c).length ≤ i → step (state c i) a = done c) (c : γ) :
    exec step (state c 0) (List.replicate ((list c).length + 1) a) = done ((list c).foldl f c) := by
  have hrest : ∀ (todo : List β) (i : Nat) (c : γ), (list c).drop i = todo →
      exec step (state c i) (List.replicate (todo.length + 1) a) = done (todo.foldl f c) := by
    intro todo
    induction todo with
    | nil =>
      intro i c hdrop
      exact hend c i (List.drop_eq_nil_iff.mp hdrop)
    | cons x todo ih =>
      intro i c hdrop
      have hi : i < (list c).length := by
        by_contra hge
        rw [List.drop_eq_nil_of_le (Nat.le_of_not_lt hge)] at hdrop
        cases hdrop
      rw [List.drop_eq_getElem_cons hi] at hdrop
      obtain ⟨hx, hdrop⟩ := List.cons.inj hdrop
      rw [List.length_cons, List.replicate_succ, exec_cons, hround c i hi, hx, List.foldl_cons]
      exact ih (i + 1) (f c x) (by rw [hlist, hdrop])
  exact hrest (list c) 0 c List.drop_zero

instance decidableAlong {P : σ → α → Prop} [∀ s a, Decidable (P s a)] :
    ∀ (s : σ) (as : List α), Decidable (Along step P s as)
  | _, [] => isTrue trivial
  | s, a :: as =>
    have : Decidable (Along step P (step s a) as) := decidableAlong (step s a) as
    inferInstanceAs (Decidable (P s a ∧ Along step P (step s a) as))

theorem Along.of_forall {P : σ → α → Prop} (h : ∀ s a, P s a) (s : σ) (as : List α) :
    Along step P s as := by
  induction as generalizing s with
  | nil => trivial
  | cons a as ih => exact ⟨h s a, ih (step s a)⟩

theorem Along.of_mem {P : α → Prop} {as : List α} (h : ∀ a ∈ as, P a) (s : σ) :
    Along step (fun _ a => P a) s as := by
  induction as generalizing s with
  | nil => trivial
  | cons a as ih =>
    obtain ⟨ha, has⟩ := List.forall_mem_cons.mp h
    exact ⟨ha, ih has (step s a)⟩

theorem Along.mono {P Q : σ → α → Prop} (hPQ : ∀ s a, P s a → Q s a) {s : σ} {as : List α}
    (h : Along step P s as) : Along step Q s as := by
  induction as generalizing s with
  | nil => trivial
  | cons a as ih => exact ⟨hPQ s a h.1, ih h.2⟩

theorem Along.and {P Q : σ → α → Prop} {s : σ} {as : List α} (hP : Along step P s as)
    (hQ : Along step Q s as) : Along step (fun s a => P s a ∧ Q s a) s as := by
  induction as generalizing s with
  | nil => trivial
  | cons a as ih => exact ⟨⟨hP.1, hQ.1⟩, ih hP.2 hQ.2⟩

theorem Along.history {P : σ → α → Prop} {I : List α → σ → Prop} {s : σ} (h0 : I [] s)
    (hstep : ∀ past s a, I past s → P s a → I (past ++ [a]) (step s a)) {as : List α}
    (h : Along step P s as) : I as (exec step s as) := by
  have hrun : ∀ (as past : List α) (s : σ), I past s → Along step P s as →
      I (past ++ as) (exec step s as) := by
    intro as
    induction as with
    | nil =>
      intro past s hs _
      rwa [List.append_nil]
    | cons a as ih =>
      intro past s hs ha
      have := ih (past ++ [a]) (step s a) (hstep past s a hs ha.1) ha.2
      rwa [List.append_assoc] at this
  exact hrun as [] s h0 h

/-- The invariant holds before every step of the run. -/
theorem Along.along_history {P : σ → α → Prop} {I : List α → σ → Prop} {s : σ} (h0 : I [] s)
    (hstep : ∀ past s a, I past s → P s a → I (past ++ [a]) (step s a)) {as : List α}
    (h : Along step P s as) : Along step (fun s a => ∃ past, I past s ∧ P s a) s as := by
  have hrun : ∀ (as past : List α) (s : σ), I past s → Along step P s as →
      Along step (fun s a => ∃ past, I past s ∧ P s a) s as := by
    intro as
    induction as with
    | nil => exact fun _ _ _ _ => trivial
    | cons a as ih =>
      intro past s hs ha
      exact ⟨⟨past, hs, ha.1⟩, ih (past ++ [a]) (step s a) (hstep past s a hs ha.1) ha.2⟩
  exact hrun as [] s h0 h

theorem Along.invariant {P : σ → α → Prop} {I : σ → Prop} {s : σ} (h0 : I s)
    (hstep : ∀ s a, I s → P s a → I (step s a)) {as : List α} (h : Along step P s as) :
    I (exec step s as) := by
  have hI : (fun (_ : List α) s => I s) [] s := h0
  exact Along.history hI (fun _ s a hs hp => hstep s a hs hp) h

theorem exec_invariant {I : σ → Prop} (hstep : ∀ s a, I s → I (step s a)) {s : σ} (h0 : I s)
    (as : List α) : I (exec step s as) :=
  (Along.of_forall (fun _ _ => trivial) s as).invariant h0 fun s a hs _ => hstep s a hs

/-- The steps of one kind lower a rank and no other step raises it. -/
theorem exec_rank (rank : σ → Nat) (own : α → Bool) {P : α → Prop} {bound : Nat}
    (hstep : ∀ s a, P a → rank s ≤ bound → rank (step s a) ≤ rank s - (own a).toNat) {s : σ}
    (h0 : rank s ≤ bound) {as : List α} (has : ∀ a ∈ as, P a) :
    rank (exec step s as) ≤ rank s - as.countP own := by
  induction as generalizing s with
  | nil => exact Nat.le_refl _
  | cons a as ih =>
    obtain ⟨ha, has⟩ := List.forall_mem_cons.mp has
    have hnext := hstep s a ha h0
    have hrest := ih (hnext.trans (Nat.sub_le_of_le_add (by omega))) has
    have hcount : (a :: as).countP own = as.countP own + (own a).toNat := by
      rw [List.countP_cons]
      cases own a <;> rfl
    rw [exec_cons, hcount]
    omega

theorem along_of_invariant {P : σ → α → Prop} {I : σ → Prop} (hstep : ∀ s a, I s → I (step s a))
    (hP : ∀ s a, I s → P s a) {s : σ} (h0 : I s) (as : List α) : Along step P s as := by
  induction as generalizing s with
  | nil => trivial
  | cons a as ih => exact ⟨hP s a h0, ih (hstep s a h0)⟩

/-- Where, at a state with the property `Q`, a step is allowed exactly if it has `R` and keeps `Q`, a
run is allowed exactly if its steps have `R` and `Q` holds at every state on the way. -/
theorem along_iff_and_prefix {P R : σ → α → Prop} {I Q : σ → Prop}
    (hstep : ∀ s a, I s → I (step s a))
    (hPQ : ∀ s a, I s → Q s → (P s a ↔ R s a ∧ Q (step s a))) {s : σ} (h0 : I s) (hQ : Q s)
    (as : List α) :
    Along step P s as ↔ Along step R s as ∧ ∀ bs, bs <+: as → Q (exec step s bs) := by
  induction as generalizing s with
  | nil =>
    refine ⟨fun _ => ⟨trivial, fun bs hbs => ?_⟩, fun _ => trivial⟩
    rw [List.prefix_nil.mp hbs]
    exact hQ
  | cons a as ih =>
    constructor
    · rintro ⟨ha, has⟩
      obtain ⟨hR, hQ'⟩ := (hPQ s a h0 hQ).mp ha
      obtain ⟨hRs, hQs⟩ := (ih (hstep s a h0) hQ').mp has
      refine ⟨⟨hR, hRs⟩, fun bs hbs => ?_⟩
      rcases List.prefix_cons_iff.mp hbs with rfl | ⟨cs, rfl, hcs⟩
      · exact hQ
      · exact hQs cs hcs
    · rintro ⟨⟨hR, hRs⟩, h⟩
      have hQ' : Q (step s a) := h [a] (List.prefix_append [a] as)
      refine ⟨(hPQ s a h0 hQ).mpr ⟨hR, hQ'⟩, (ih (hstep s a h0) hQ').mpr ⟨hRs, fun bs hbs => ?_⟩⟩
      exact h (a :: bs) (List.cons_prefix_cons.mpr ⟨rfl, hbs⟩)

/-- The same with nothing but `Q` asked of the step. -/
theorem along_iff_prefix {P : σ → α → Prop} {I Q : σ → Prop}
    (hstep : ∀ s a, I s → I (step s a)) (hPQ : ∀ s a, I s → Q s → (P s a ↔ Q (step s a)))
    {s : σ} (h0 : I s) (hQ : Q s) (as : List α) :
    Along step P s as ↔ ∀ bs, bs <+: as → Q (exec step s bs) := by
  have hiff := along_iff_and_prefix (R := fun _ _ => True) hstep
    (fun s a hs hq => (hPQ s a hs hq).trans (and_iff_right trivial).symm) h0 hQ as
  rw [hiff, and_iff_right (Along.of_forall (fun _ _ => trivial) s as)]

/-- A property that no step restores holds after the run exactly where every step keeps it. -/
theorem along_iff_exec {P : σ → α → Prop} {I Q : σ → Prop}
    (hstep : ∀ s a, I s → I (step s a)) (hPQ : ∀ s a, I s → Q s → (P s a ↔ Q (step s a)))
    (hback : ∀ s a, I s → Q (step s a) → Q s) {s : σ} (h0 : I s) (hQ : Q s) (as : List α) :
    Along step P s as ↔ Q (exec step s as) := by
  have hfirst : ∀ (as : List α) (s : σ), I s → Q (exec step s as) → Q s := by
    intro as
    induction as with
    | nil => exact fun _ _ h => h
    | cons a as ih =>
      intro s hs h
      exact hback s a hs (ih (step s a) (hstep s a hs) h)
  induction as generalizing s with
  | nil => exact iff_of_true trivial hQ
  | cons a as ih =>
    constructor
    · rintro ⟨ha, has⟩
      exact (ih (hstep s a h0) ((hPQ s a h0 hQ).mp ha)).mp has
    · intro h
      have hQ' : Q (step s a) := hfirst as (step s a) (hstep s a h0) h
      exact ⟨(hPQ s a h0 hQ).mpr hQ', (ih (hstep s a h0) hQ').mpr h⟩

theorem Reachable.invariant {I : σ → Prop} {init s : σ} (h0 : I init)
    (hstep : ∀ s a, I s → I (step s a)) (h : Reachable step init s) : I s := by
  obtain ⟨as, rfl⟩ := h
  exact exec_invariant hstep h0 as

end Run
