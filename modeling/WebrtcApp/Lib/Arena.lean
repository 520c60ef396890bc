import Mathlib

/-!
# Arenas: objects with a lifetime

An arena is a heap of objects of one type.  A pointer is the index of a cell, a
cell counts how often it was freed, a freed cell keeps its contents and is never
handed out again, and a touch, a write or a free of a cell that is not live sets
`misused`.  So a use after free and a double free are facts about the arena and not
gaps in the execution.

`Owned a ps` says that `ps` lists the live cells of `a`, each once, that the other
cells were freed once, and that nothing was misused.  The rules move pointers in and
out of that list:

    Owned a ps                →  Owned (a.alloc v) (a.next :: ps)     (Owned.alloc)
    Owned a ps, p ∈ ps        →  Owned (a.modify p f) ps              (Owned.modify)
    Owned a (p :: ps)         →  Owned (a.free p) ps                  (Owned.free)
    Owned a (qs ++ ps)        →  Owned (a.freeAll qs) ps              (Owned.freeAll)

With `Owned a []` at the end, every cell was freed exactly once (`Owned.frees_eq_one`).  Where the
owners are the entries of a list, each with at most one cell, `Owned.set_alloc`, `Owned.set_free`
and `Owned.set_keep` are the rules for one entry that changes.
-/

/-- An object: its contents, and how often it has been freed. -/
structure Cell (α : Type) where
  val : α
  frees : Nat
  deriving DecidableEq, Repr

structure Arena (α : Type) where
  cells : List (Cell α)
  misused : Bool
  deriving DecidableEq, Repr

namespace Arena

variable {α : Type}

def empty : Arena α := ⟨[], false⟩

/-- The pointer the next allocation returns. -/
def next (a : Arena α) : Nat := a.cells.length

/-- How often the cell was freed (`0` where nothing was allocated). -/
def frees (a : Arena α) (p : Nat) : Nat :=
  match a.cells[p]? with
  | some c => c.frees
  | none => 0

def live (a : Arena α) (p : Nat) : Bool :=
  match a.cells[p]? with
  | some c => c.frees == 0
  | none => false

/-- The contents of the cell, freed or not. -/
def read [Inhabited α] (a : Arena α) (p : Nat) : α :=
  match a.cells[p]? with
  | some c => c.val
  | none => default

def alloc (a : Arena α) (v : α) : Arena α := { a with cells := a.cells ++ [⟨v, 0⟩] }

/-- A dereference of `p`. -/
def touch (a : Arena α) (p : Nat) : Arena α := { a with misused := a.misused || !a.live p }

/-- A write through `p`. -/
def modify (a : Arena α) (p : Nat) (f : α → α) : Arena α :=
  { cells := a.cells.modify p fun c => { c with val := f c.val }
    misused := a.misused || !a.live p }

def free (a : Arena α) (p : Nat) : Arena α :=
  { cells := a.cells.modify p fun c => { c with frees := c.frees + 1 }
    misused := a.misused || !a.live p }

def freeAll (a : Arena α) (ps : List Nat) : Arena α := ps.foldl free a

/-! ## What each operation changes -/

theorem live_lt {a : Arena α} {p : Nat} (h : a.live p = true) : p < a.next := by
  unfold live at h
  split at h
  · next c hc => exact (List.getElem?_eq_some_iff.mp hc).1
  · cases h

theorem frees_of_live {a : Arena α} {p : Nat} (h : a.live p = true) : a.frees p = 0 := by
  unfold live at h
  unfold frees
  split at h
  · next c hc => exact beq_iff_eq.mp h
  · cases h

@[simp] theorem next_alloc (a : Arena α) (v : α) : (a.alloc v).next = a.next + 1 := by
  simp [next, alloc]

@[simp] theorem next_touch (a : Arena α) (p : Nat) : (a.touch p).next = a.next := rfl

@[simp] theorem next_modify (a : Arena α) (p : Nat) (f : α → α) :
    (a.modify p f).next = a.next := by
  simp [next, modify]

@[simp] theorem next_free (a : Arena α) (p : Nat) : (a.free p).next = a.next := by
  simp [next, free]

@[simp] theorem next_freeAll (a : Arena α) (ps : List Nat) : (a.freeAll ps).next = a.next := by
  induction ps generalizing a with
  | nil => rfl
  | cons p ps ih => exact (ih (a.free p)).trans (next_free a p)

@[simp] theorem live_empty (p : Nat) : (empty : Arena α).live p = false := rfl

theorem live_alloc (a : Arena α) (v : α) (p : Nat) :
    (a.alloc v).live p = true ↔ a.live p = true ∨ p = a.next := by
  unfold live alloc next
  simp only [List.getElem?_append]
  rcases Nat.lt_trichotomy p a.cells.length with h | h | h
  · simp [h, Nat.ne_of_lt h]
  · simp [h]
  · have h2 : ¬ p < a.cells.length := by omega
    have h3 : p - a.cells.length ≠ 0 := by omega
    simp [h2, h3, Nat.ne_of_gt h]

@[simp] theorem live_touch (a : Arena α) (p q : Nat) : (a.touch p).live q = a.live q := rfl

@[simp] theorem live_modify (a : Arena α) (p : Nat) (f : α → α) (q : Nat) :
    (a.modify p f).live q = a.live q := by
  unfold live modify
  simp only [List.getElem?_modify]
  cases a.cells[q]? <;> simp; split <;> rfl

theorem live_free (a : Arena α) (p q : Nat) :
    (a.free p).live q = true ↔ a.live q = true ∧ q ≠ p := by
  unfold live free
  simp only [List.getElem?_modify]
  cases a.cells[q]? with
  | none => simp
  | some c =>
    by_cases h : p = q
    · simp [h]
    · simp [h, Ne.symm h]

theorem frees_alloc (a : Arena α) (v : α) (p : Nat) : (a.alloc v).frees p = a.frees p := by
  unfold frees alloc
  simp only [List.getElem?_append]
  rcases Nat.lt_trichotomy p a.cells.length with h | h | h
  · simp [h]
  · simp [h]
  · have h2 : ¬ p < a.cells.length := by omega
    have h3 : p - a.cells.length ≠ 0 := by omega
    simp [h2, h3]

theorem frees_modify (a : Arena α) (p : Nat) (f : α → α) (q : Nat) :
    (a.modify p f).frees q = a.frees q := by
  unfold frees modify
  simp only [List.getElem?_modify]
  cases a.cells[q]? <;> simp; split <;> rfl

theorem frees_free_of_ne (a : Arena α) {p q : Nat} (h : p ≠ q) :
    (a.free p).frees q = a.frees q := by
  unfold frees free
  simp only [List.getElem?_modify]
  cases a.cells[q]? <;> simp [h]

theorem frees_free_self {a : Arena α} {p : Nat} (h : a.live p = true) :
    (a.free p).frees p = 1 := by
  unfold frees free
  unfold live at h
  simp only [List.getElem?_modify]
  cases hc : a.cells[p]? with
  | none => rw [hc] at h; cases h
  | some c => rw [hc] at h; simpa using h

section
variable [Inhabited α]

@[simp] theorem read_alloc_next (a : Arena α) (v : α) : (a.alloc v).read a.next = v := by
  simp [read, alloc, next]

theorem read_alloc_of_lt (a : Arena α) (v : α) {p : Nat} (h : p < a.next) :
    (a.alloc v).read p = a.read p := by
  unfold next at h
  simp [read, alloc, List.getElem?_append, h]

@[simp] theorem read_touch (a : Arena α) (p q : Nat) : (a.touch p).read q = a.read q := rfl

@[simp] theorem read_free (a : Arena α) (p q : Nat) : (a.free p).read q = a.read q := by
  unfold read free
  simp only [List.getElem?_modify]
  cases a.cells[q]? <;> simp; split <;> rfl

theorem read_modify_self (a : Arena α) {p : Nat} (f : α → α) (h : a.live p = true) :
    (a.modify p f).read p = f (a.read p) := by
  have hp := live_lt h
  unfold next at hp
  simp [read, modify, hp]

theorem read_modify_of_ne (a : Arena α) {p q : Nat} (f : α → α) (h : p ≠ q) :
    (a.modify p f).read q = a.read q := by
  unfold read modify
  simp only [List.getElem?_modify]
  cases a.cells[q]? <;> simp [h]

/-- A write through `p` leaves a cell alone or changes its contents by `f`. -/
theorem read_modify_cases (a : Arena α) (p : Nat) (f : α → α) (q : Nat) :
    (a.modify p f).read q = a.read q ∨ (a.modify p f).read q = f (a.read q) := by
  unfold read modify
  simp only [List.getElem?_modify]
  cases a.cells[q]? with
  | none => exact Or.inl rfl
  | some c =>
    by_cases hp : p = q
    · exact Or.inr (by simp [hp])
    · exact Or.inl (by simp [hp])

/-- A cell that was not handed out yet reads as the default. -/
theorem read_alloc_default (a : Arena α) (p : Nat) : (a.alloc default).read p = a.read p := by
  rcases Nat.lt_trichotomy p a.next with h | rfl | h
  · exact read_alloc_of_lt a default h
  · rw [read_alloc_next]
    simp [read, next]
  · unfold next at h
    have h1 : ¬ p < a.cells.length := by omega
    have h2 : p - a.cells.length ≠ 0 := by omega
    simp [read, alloc, List.getElem?_append, h1, h2]

@[simp] theorem read_freeAll (a : Arena α) (ps : List Nat) (q : Nat) :
    (a.freeAll ps).read q = a.read q := by
  induction ps generalizing a with
  | nil => rfl
  | cons p ps ih => exact (ih (a.free p)).trans (read_free a p q)

end

/-- Touching a live cell changes nothing. -/
theorem touch_of_live {a : Arena α} {p : Nat} (h : a.live p = true) : a.touch p = a := by
  simp [touch, h]

@[simp] theorem misused_alloc (a : Arena α) (v : α) : (a.alloc v).misused = a.misused := rfl

theorem misused_modify {a : Arena α} {p : Nat} (f : α → α) (h : a.live p = true) :
    (a.modify p f).misused = a.misused := by
  simp [modify, h]

theorem misused_free {a : Arena α} {p : Nat} (h : a.live p = true) :
    (a.free p).misused = a.misused := by
  simp [free, h]

@[simp] theorem freeAll_nil (a : Arena α) : a.freeAll [] = a := rfl

@[simp] theorem freeAll_cons (a : Arena α) (p : Nat) (ps : List Nat) :
    a.freeAll (p :: ps) = (a.free p).freeAll ps := rfl

/-! ## Other contents -/

section
variable {β : Type} (f : α → β)

/-- The same objects with other contents. -/
def map (a : Arena α) : Arena β :=
  { cells := a.cells.map fun c => { val := f c.val, frees := c.frees }, misused := a.misused }

@[simp] theorem next_map (a : Arena α) : (a.map f).next = a.next := List.length_map _

@[simp] theorem live_map (a : Arena α) (p : Nat) : (a.map f).live p = a.live p := by
  unfold live map
  rw [List.getElem?_map]
  cases a.cells[p]? <;> rfl

theorem map_alloc (a : Arena α) (v : α) : (a.alloc v).map f = (a.map f).alloc (f v) := by
  simp [map, alloc]

theorem map_free (a : Arena α) (p : Nat) : (a.free p).map f = (a.map f).free p := by
  have hcells : (a.free p).cells.map (fun c => (⟨f c.val, c.frees⟩ : Cell β)) =
      ((a.map f).free p).cells := by
    apply List.ext_getElem?
    intro i
    simp only [free, map, List.getElem?_map, List.getElem?_modify]
    cases a.cells[i]? with
    | none => rfl
    | some c => by_cases hp : p = i <;> simp [hp]
  have hmisused : (a.free p).misused = ((a.map f).free p).misused := by
    show (a.misused || !a.live p) = (a.misused || !(a.map f).live p)
    rw [live_map]
  unfold map
  rw [hcells, hmisused]
  rfl

end

/-! ## Counting frees -/

theorem frees_le_free (a : Arena α) (p q : Nat) : a.frees p ≤ (a.free q).frees p := by
  unfold frees free
  simp only [List.getElem?_modify]
  cases a.cells[p]? with
  | none => exact Nat.le_refl _
  | some c => by_cases h : q = p <;> simp [h]

theorem frees_le_freeAll (a : Arena α) (p : Nat) (qs : List Nat) :
    a.frees p ≤ (a.freeAll qs).frees p := by
  induction qs generalizing a with
  | nil => exact Nat.le_refl _
  | cons q qs ih => exact (a.frees_le_free p q).trans (ih (a.free q))

theorem frees_freeAll_of_not_mem (a : Arena α) {p : Nat} {qs : List Nat} (h : p ∉ qs) :
    (a.freeAll qs).frees p = a.frees p := by
  induction qs generalizing a with
  | nil => rfl
  | cons q qs ih =>
    obtain ⟨hq, hqs⟩ := List.ne_and_not_mem_of_not_mem_cons h
    rw [freeAll_cons, ih _ hqs, frees_free_of_ne a (Ne.symm hq)]

/-! ## Exact ownership -/

/-- `ps` lists the live cells of `a`, each once, no cell was freed twice, and no
cell was misused. -/
structure Owned (a : Arena α) (ps : List Nat) : Prop where
  unmisused : a.misused = false
  nodup : ps.Nodup
  live_iff : ∀ p, a.live p = true ↔ p ∈ ps
  once : ∀ p, a.frees p ≤ 1

namespace Owned

variable {a : Arena α} {ps qs : List Nat} {p : Nat}

theorem empty : Owned (Arena.empty : Arena α) [] :=
  ⟨rfl, List.nodup_nil, fun p => by simp, fun p => by simp [frees, Arena.empty]⟩

theorem perm (h : Owned a ps) (hp : ps.Perm qs) : Owned a qs :=
  ⟨h.unmisused, hp.nodup_iff.mp h.nodup, fun p => (h.live_iff p).trans hp.mem_iff, h.once⟩

theorem live (h : Owned a ps) (hp : p ∈ ps) : a.live p = true := (h.live_iff p).mpr hp

theorem lt_next (h : Owned a ps) (hp : p ∈ ps) : p < a.next := live_lt (h.live hp)

theorem next_not_mem (h : Owned a ps) : a.next ∉ ps := fun hp => by
  have := h.lt_next hp
  omega

theorem touch (h : Owned a ps) (hp : p ∈ ps) : a.touch p = a := touch_of_live (h.live hp)

theorem alloc (h : Owned a ps) (v : α) : Owned (a.alloc v) (a.next :: ps) := by
  refine ⟨h.unmisused, List.nodup_cons.mpr ⟨h.next_not_mem, h.nodup⟩, fun p => ?_, fun p => ?_⟩
  · rw [live_alloc, h.live_iff, List.mem_cons, or_comm]
  · rw [frees_alloc]
    exact h.once p

theorem modify (h : Owned a ps) (hp : p ∈ ps) (f : α → α) : Owned (a.modify p f) ps :=
  ⟨(misused_modify f (h.live hp)).trans h.unmisused, h.nodup,
    fun q => by rw [live_modify, h.live_iff], fun q => by rw [frees_modify]; exact h.once q⟩

theorem free (h : Owned a (p :: ps)) : Owned (a.free p) ps := by
  obtain ⟨hnot, hnd⟩ := List.nodup_cons.mp h.nodup
  have hp := h.live List.mem_cons_self
  refine ⟨(misused_free hp).trans h.unmisused, hnd, fun q => ?_, fun q => ?_⟩
  · rw [live_free, h.live_iff, List.mem_cons]
    constructor
    · rintro ⟨rfl | hq, hne⟩
      · exact absurd rfl hne
      · exact hq
    · intro hq
      exact ⟨Or.inr hq, fun e => hnot (e ▸ hq)⟩
  · by_cases hq : q = p
    · subst hq
      rw [frees_free_self hp]
    · rw [frees_free_of_ne a (Ne.symm hq)]
      exact h.once q

theorem freeAll (h : Owned a (qs ++ ps)) : Owned (a.freeAll qs) ps := by
  induction qs generalizing a with
  | nil => exact h
  | cons q qs ih => exact ih h.free

theorem frees_eq_zero (h : Owned a ps) (hp : p ∈ ps) : a.frees p = 0 := frees_of_live (h.live hp)

/-- A cell that was handed out and is not owned any more has been freed, once. -/
theorem frees_of_not_mem (h : Owned a ps) (hp : p < a.next) (hnot : p ∉ ps) : a.frees p = 1 := by
  have h0 : a.live p = false := Bool.eq_false_iff.mpr fun hl => hnot ((h.live_iff p).mp hl)
  have h1 := h.once p
  unfold Arena.frees Arena.live Arena.next at *
  rw [List.getElem?_eq_getElem hp] at h0 h1 ⊢
  simp only [beq_eq_false_iff_ne] at h0 h1 ⊢
  omega

/-- Nothing owned: every cell that was ever handed out has been freed. -/
theorem frees_eq_one (h : Owned a []) (hp : p < a.next) : a.frees p = 1 :=
  h.frees_of_not_mem hp List.not_mem_nil

/-- The owned cells are as many as the live ones. -/
theorem length_live (h : Owned a ps) :
    ((List.range a.next).filter a.live).length = ps.length := by
  refine List.Perm.length_eq ((List.perm_ext_iff_of_nodup ?_ h.nodup).mpr fun p => ?_)
  · exact List.nodup_range.filter _
  · rw [List.mem_filter, List.mem_range, h.live_iff]
    exact ⟨fun hp => hp.2, fun hp => ⟨h.lt_next hp, hp⟩⟩

end Owned

/-! ## Holders

The owners as a list of holders, each with at most one cell; one of them changes. -/

section Holders

variable {κ : Type} {f : κ → Option Nat} {l : List κ} {i : Nat} {x y : κ}

theorem filterMap_set_perm (hi : l[i]? = some x) :
    ((l.set i y).filterMap f).Perm ((f y).toList ++ (l.eraseIdx i).filterMap f) := by
  obtain ⟨hlt, -⟩ := List.getElem?_eq_some_iff.mp hi
  have hy : [y].filterMap f = (f y).toList := by cases hf : f y <;> simp [hf]
  rw [List.set_eq_take_cons_drop y hlt, List.eraseIdx_eq_take_drop_succ, List.filterMap_append,
    List.filterMap_append, ← List.singleton_append, List.filterMap_append, hy]
  exact List.perm_append_comm_assoc _ _ _

theorem filterMap_perm (hi : l[i]? = some x) :
    (l.filterMap f).Perm ((f x).toList ++ (l.eraseIdx i).filterMap f) := by
  obtain ⟨hlt, rfl⟩ := List.getElem?_eq_some_iff.mp hi
  have hperm := (List.getElem_cons_eraseIdx_perm hlt).symm.filterMap f
  cases hf : f l[i] <;> simpa [List.filterMap_cons, hf] using hperm

namespace Owned

variable {a : Arena α} {p : Nat}

theorem set_keep (h : Owned a (l.filterMap f)) (hi : l[i]? = some x) (hy : f y = f x) :
    Owned a ((l.set i y).filterMap f) := by
  refine h.perm ((filterMap_perm hi).trans ?_)
  rw [← hy]
  exact (filterMap_set_perm hi).symm

theorem set_alloc (h : Owned a (l.filterMap f)) (hi : l[i]? = some x) (hx : f x = none)
    (hy : f y = some a.next) (v : α) : Owned (a.alloc v) ((l.set i y).filterMap f) := by
  have hperm := filterMap_perm (f := f) hi
  rw [hx] at hperm
  refine ((h.perm hperm).alloc v).perm ?_
  have hset := filterMap_set_perm (f := f) (y := y) hi
  rw [hy] at hset
  exact hset.symm

theorem set_free (h : Owned a (l.filterMap f)) (hi : l[i]? = some x) (hx : f x = some p)
    (hy : f y = none) : Owned (a.free p) ((l.set i y).filterMap f) := by
  have hperm := filterMap_perm (f := f) hi
  rw [hx] at hperm
  refine ((h.perm hperm).free).perm ?_
  have hset := filterMap_set_perm (f := f) (y := y) hi
  rw [hy] at hset
  exact hset.symm

theorem mem_hold (hi : l[i]? = some x) (hx : f x = some p) : p ∈ l.filterMap f :=
  List.mem_filterMap.mpr ⟨x, List.mem_of_getElem? hi, hx⟩

/-- A cell has one holder. -/
theorem holder_unique (h : Owned a (l.filterMap f)) (hx : x ∈ l) (hy : y ∈ l)
    (hxp : f x = some p) (hyp : f y = some p) : x = y := by
  by_contra hne
  have hpair := List.pairwise_filterMap.mp h.nodup
  have hsymm : Std.Symm fun x y => ∀ p, f x = some p → ∀ q, f y = some q → p ≠ q :=
    ⟨fun _ _ h p hp q hq e => h q hq p hp e.symm⟩
  exact hpair.forall hx hy hne p hxp p hyp rfl

end Owned

end Holders

end Arena
