import Mathlib

/-!
# Rose trees in preorder

A list of rose trees written down node by node, each before its children.  `IsEntry ts i key value`
says that position `i` of that list is a child `key` of the first root, and that `value` is the first
child of `key`: an entry of the container that the root is.

    IsEntry.getElem_key      key stands at i
    IsEntry.getElem_value    value stands at i + 1
    IsEntry.not_succ         so i + 1 is no key
-/

inductive RoseTree (α : Type) where
  | node (val : α) (children : List (RoseTree α))

namespace RoseTree

variable {α : Type}

mutual

def preorder : RoseTree α → List α
  | node a cs => a :: preorderAll cs

def preorderAll : List (RoseTree α) → List α
  | [] => []
  | t :: ts => t.preorder ++ preorderAll ts

end

@[simp] theorem preorder_node (a : α) (cs : List (RoseTree α)) :
    (node a cs).preorder = a :: preorderAll cs := by
  rw [preorder]

@[simp] theorem preorderAll_nil : preorderAll ([] : List (RoseTree α)) = [] := by
  rw [preorderAll]

@[simp] theorem preorderAll_cons (t : RoseTree α) (ts : List (RoseTree α)) :
    preorderAll (t :: ts) = t.preorder ++ preorderAll ts := by
  rw [preorderAll]

@[simp] theorem preorderAll_append (ts us : List (RoseTree α)) :
    preorderAll (ts ++ us) = preorderAll ts ++ preorderAll us := by
  induction ts with
  | nil => simp
  | cons t ts ih => simp [ih]

/-- A child of the first root, and its own first child. -/
def IsEntry (ts : List (RoseTree α)) (i : Nat) (key value : α) : Prop :=
  ∃ root before below rest after others,
    ts = node root (before ++ node key (node value below :: rest) :: after) :: others ∧
      i = (preorderAll before).length + 1

namespace IsEntry

variable {ts : List (RoseTree α)} {i : Nat} {key value : α}

theorem pos (h : IsEntry ts i key value) : 0 < i := by
  obtain ⟨root, before, below, rest, after, others, -, rfl⟩ := h
  exact Nat.succ_pos _

theorem getElem_key (h : IsEntry ts i key value) : (preorderAll ts)[i]? = some key := by
  obtain ⟨root, before, below, rest, after, others, rfl, rfl⟩ := h
  simp

theorem getElem_value (h : IsEntry ts i key value) : (preorderAll ts)[i + 1]? = some value := by
  obtain ⟨root, before, below, rest, after, others, rfl, rfl⟩ := h
  simp

theorem succ_lt (h : IsEntry ts i key value) : i + 1 < (preorderAll ts).length :=
  (List.getElem?_eq_some_iff.mp h.getElem_value).1

/-- Two children of the root are as far apart as the first of them is long. -/
theorem not_succ {key' value' : α} (h : IsEntry ts i key value) :
    ¬ IsEntry ts (i + 1) key' value' := by
  rintro ⟨root', before', below', rest', after', others', hts', hi'⟩
  obtain ⟨root, before, below, rest, after, others, hts, rfl⟩ := h
  rw [hts] at hts'
  injection hts' with htree _
  injection htree with _ hchildren
  rcases List.append_eq_append_iff.mp hchildren with ⟨as, hbefore, has⟩ | ⟨as, hbefore, has⟩
  · -- the second key comes after the first, and after its value
    cases as with
    | nil =>
      rw [List.append_nil] at hbefore
      rw [hbefore] at hi'
      omega
    | cons t as =>
      rw [List.cons_append] at has
      injection has with ht _
      rw [hbefore, ← ht] at hi'
      simp at hi'
  · have hlen := congrArg (fun ts => (preorderAll ts).length) hbefore
    simp at hlen
    omega

end IsEntry

end RoseTree
