import WebrtcApp.Lib.Arena

/-!
# Objects built in stages

An object under construction has slots, one for each resource it may acquire; a slot is empty
or holds a pointer into an arena.  `handles all s` are the pointers in the slots `all`, and the
rules of `Arena.Owned` follow them through an acquisition and a release:

    s i = none     Owned a (handles s ++ ps)  →  Owned (a.alloc v) (handles s' ++ ps)   (owned_acquire)
    s i = some p   Owned a (handles s ++ ps)  →  Owned (a.free p) (handles s' ++ ps)    (owned_release)

The construction is a list of stages that runs up to the first failure (`Stages.run`).  Each
stage fills its own slots, and finds them empty (`Stages.run_invariant`).
-/

namespace Slots

variable {ι α : Type} {all : List ι} {s : ι → Option Nat} {i : ι} {p : Nat} {a : Arena α}
  {ps : List Nat}

/-- The pointers the slots hold. -/
def handles (all : List ι) (s : ι → Option Nat) : List Nat := all.filterMap s

theorem handles_eq_nil (hi : ∀ i ∈ all, s i = none) : handles all s = [] :=
  List.filterMap_eq_nil_iff.mpr hi

theorem mem_handles (hi : i ∈ all) (hs : s i = some p) : p ∈ handles all s :=
  List.mem_filterMap.mpr ⟨i, hi, hs⟩

variable [DecidableEq ι]

theorem filterMap_update_of_not_mem {l : List ι} (h : i ∉ l) (o : Option Nat) :
    l.filterMap (Function.update s i o) = l.filterMap s := by
  refine List.filterMap_congr fun j hj => ?_
  rw [Function.update_of_ne]
  rintro rfl
  exact h hj

theorem handles_update_none (hn : all.Nodup) (hi : i ∈ all) (hp : s i = some p) :
    (p :: handles all (Function.update s i none)).Perm (handles all s) := by
  obtain ⟨l, r, rfl⟩ := List.append_of_mem hi
  have hl : i ∉ l := fun h => (List.nodup_append.mp hn).2.2 i h i List.mem_cons_self rfl
  have hr : i ∉ r := (List.nodup_cons.mp (List.nodup_append.mp hn).2.1).1
  unfold handles
  rw [List.filterMap_append, List.filterMap_append, List.filterMap_cons_some hp,
    List.filterMap_cons_none (Function.update_self ..), filterMap_update_of_not_mem hl,
    filterMap_update_of_not_mem hr]
  exact List.perm_middle.symm

theorem handles_update_some (hn : all.Nodup) (hi : i ∈ all) (hs : s i = none) (p : Nat) :
    (p :: handles all s).Perm (handles all (Function.update s i (some p))) := by
  have h := handles_update_none (s := Function.update s i (some p)) hn hi (Function.update_self ..)
  rwa [Function.update_idem, Function.update_eq_self_iff.mpr hs.symm] at h

theorem owned_acquire (hn : all.Nodup) (hi : i ∈ all) (hs : s i = none)
    (h : a.Owned (handles all s ++ ps)) (v : α) :
    (a.alloc v).Owned (handles all (Function.update s i (some a.next)) ++ ps) :=
  (h.alloc v).perm ((handles_update_some hn hi hs a.next).append_right ps)

theorem owned_release (hn : all.Nodup) (hi : i ∈ all) (hs : s i = some p)
    (h : a.Owned (handles all s ++ ps)) :
    (a.free p).Owned (handles all (Function.update s i none) ++ ps) :=
  (h.perm ((handles_update_none hn hi hs).symm.append_right ps)).free

end Slots

namespace Stages

variable {ι σ ε : Type} [DecidableEq ε] {success : ε}

/-- The stages one after the other, up to the first that does not succeed. -/
def run (success : ε) : List (σ → ε × σ) → σ → ε × σ
  | [], s => (success, s)
  | f :: fs, s =>
    match f s with
    | (e, s) => if e = success then run success fs s else (e, s)

theorem run_cons (f : σ → ε × σ) (fs : List (σ → ε × σ)) (s : σ) :
    run success (f :: fs) s = if (f s).1 = success then run success fs (f s).2 else f s := rfl

theorem run_cons_eq_success {f : σ → ε × σ} {fs : List (σ → ε × σ)} {s : σ} :
    (run success (f :: fs) s).1 = success ↔
      (f s).1 = success ∧ (run success fs (f s).2).1 = success := by
  rw [run_cons]
  by_cases hf : (f s).1 = success
  · rw [if_pos hf, and_iff_right hf]
  · rw [if_neg hf]
    exact iff_of_false hf fun h => hf h.1

theorem run_append (fs gs : List (σ → ε × σ)) (s : σ) :
    run success (fs ++ gs) s =
      if (run success fs s).1 = success then run success gs (run success fs s).2
      else run success fs s := by
  induction fs generalizing s with
  | nil => exact (if_pos rfl).symm
  | cons f fs ih =>
    rw [List.cons_append, run_cons, run_cons]
    by_cases hf : (f s).1 = success
    · rw [if_pos hf, if_pos hf, ih]
    · rw [if_neg hf, if_neg hf, if_neg hf]

/-- Stages that only check. -/
theorem run_of_checks {fs : List (σ → ε × σ)} (h : ∀ f ∈ fs, ∀ s, (f s).2 = s) (s : σ) :
    (run success fs s).2 = s := by
  induction fs generalizing s with
  | nil => rfl
  | cons f fs ih =>
    have hf := h f List.mem_cons_self s
    rw [run_cons]
    split
    · exact (ih (fun g hg => h g (List.mem_cons_of_mem _ hg)) _).trans hf
    · exact hf

/-- The stages, each with its slots.  A stage that finds its slots empty keeps `I` and leaves the
others' slots alone; then so does the run. -/
theorem run_invariant {get : σ → ι → Option Nat} {I : σ → Prop}
    {stages : List (List ι × (σ → ε × σ))} (hn : (stages.flatMap Prod.fst).Nodup)
    (hstage : ∀ st ∈ stages, ∀ s, (∀ i ∈ st.1, get s i = none) → I s →
      I (st.2 s).2 ∧ ∀ i ∉ st.1, get (st.2 s).2 i = get s i)
    {s : σ} (hempty : ∀ i ∈ stages.flatMap Prod.fst, get s i = none) (hs : I s) :
    I (run success (stages.map Prod.snd) s).2 ∧
      ∀ i ∉ stages.flatMap Prod.fst, get (run success (stages.map Prod.snd) s).2 i = get s i := by
  induction stages generalizing s with
  | nil => exact ⟨hs, fun _ _ => rfl⟩
  | cons st stages ih =>
    rw [List.flatMap_cons] at hn hempty
    obtain ⟨-, hn', hdisj⟩ := List.nodup_append.mp hn
    obtain ⟨hI, hother⟩ := hstage st List.mem_cons_self s
      (fun i hi => hempty i (List.mem_append_left _ hi)) hs
    have hnext : ∀ i ∈ stages.flatMap Prod.fst, get (st.2 s).2 i = none := by
      intro i hi
      rw [hother i fun h => hdisj i h i hi rfl]
      exact hempty i (List.mem_append_right _ hi)
    obtain ⟨hI', hother'⟩ := ih hn' (fun st' h => hstage st' (List.mem_cons_of_mem _ h)) hnext hI
    rw [List.flatMap_cons, List.map_cons, run_cons]
    have hout : ∀ i ∉ st.1 ++ stages.flatMap Prod.fst, i ∉ st.1 ∧ i ∉ stages.flatMap Prod.fst :=
      fun i hi => ⟨fun h => hi (List.mem_append_left _ h), fun h => hi (List.mem_append_right _ h)⟩
    split
    · exact ⟨hI', fun i hi => (hother' i (hout i hi).2).trans (hother i (hout i hi).1)⟩
    · exact ⟨hI, fun i hi => hother i (hout i hi).1⟩

end Stages
