import Mathlib

/-!
# Keyed mailboxes and the ledger of what was sent and delivered

A store of mailboxes is a list; each box has a key, a creation time and its messages in
order of arrival.  `deposit` puts a message in the box of its key, and opens one at the
end of the store where there is none.  `remove` takes the first box of a key out.

`Routed sent delivered bs` says that for every key the messages delivered so far, followed
by those still waiting in `bs`, are a subsequence of the messages sent under that key:
nothing is delivered twice, out of order, or under another key.  Each operation of a
mailbox router has its rule:

    a message is deposited                        Routed.deposit
    a message is delivered past an empty box      Routed.direct
    a message is dropped                          Routed.drop
    a box is taken out and a prefix delivered     Routed.take
    boxes expire                                  Routed.expire
-/

structure Mailbox (κ τ μ : Type) where
  key : κ
  time : τ
  items : List μ
  deriving DecidableEq

namespace Mailbox

variable {κ τ μ : Type}

def keys (bs : List (Mailbox κ τ μ)) : List κ := bs.map key

variable [DecidableEq κ]

/-- The messages waiting under `k`. -/
def contents (k : κ) : List (Mailbox κ τ μ) → List μ
  | [] => []
  | b :: bs => if b.key = k then b.items ++ contents k bs else contents k bs

def deposit (k : κ) (t : τ) (m : μ) : List (Mailbox κ τ μ) → List (Mailbox κ τ μ)
  | [] => [⟨k, t, [m]⟩]
  | b :: bs =>
    if b.key = k then { b with items := b.items ++ [m] } :: bs else b :: deposit k t m bs

def remove (k : κ) : List (Mailbox κ τ μ) → List (Mailbox κ τ μ)
  | [] => []
  | b :: bs => if b.key = k then bs else b :: remove k bs

/-- The boxes of the other keys. -/
def others (k : κ) (bs : List (Mailbox κ τ μ)) : List (Mailbox κ τ μ) :=
  bs.filter fun b => !decide (b.key = k)

/-! ## Keys -/

theorem keys_deposit (k : κ) (t : τ) (m : μ) (bs : List (Mailbox κ τ μ)) :
    keys (deposit k t m bs) = if k ∈ keys bs then keys bs else keys bs ++ [k] := by
  induction bs with
  | nil => rfl
  | cons b bs ih =>
    unfold keys at ih ⊢
    unfold deposit
    by_cases h : b.key = k
    · simp [h]
    · simp only [h, if_false, List.map_cons, List.mem_cons, ih, Ne.symm h, false_or]
      split <;> simp

theorem nodup_keys_deposit (k : κ) (t : τ) (m : μ) {bs : List (Mailbox κ τ μ)}
    (h : (keys bs).Nodup) : (keys (deposit k t m bs)).Nodup := by
  rw [keys_deposit]
  split
  · exact h
  · next hk => exact List.nodup_append.mpr ⟨h, List.nodup_singleton k, by
      rintro a ha b hb rfl
      rw [List.mem_singleton] at hb
      exact hk (hb ▸ ha)⟩

theorem mem_keys_deposit {k k' : κ} {t : τ} {m : μ} {bs : List (Mailbox κ τ μ)}
    (h : k' ∈ keys (deposit k t m bs)) : k' = k ∨ k' ∈ keys bs := by
  rw [keys_deposit] at h
  split at h
  · exact Or.inr h
  · rcases List.mem_append.mp h with h | h
    · exact Or.inr h
    · exact Or.inl (List.mem_singleton.mp h)

theorem remove_sublist (k : κ) (bs : List (Mailbox κ τ μ)) : (remove k bs).Sublist bs := by
  induction bs with
  | nil => exact List.Sublist.refl _
  | cons b bs ih =>
    unfold remove
    split
    · exact List.sublist_cons_self b bs
    · exact ih.cons_cons b

omit [DecidableEq κ] in
theorem nodup_keys_sublist {bs bs' : List (Mailbox κ τ μ)} (h : (keys bs).Nodup)
    (hs : bs'.Sublist bs) : (keys bs').Nodup :=
  h.sublist (hs.map key)

theorem not_mem_keys_remove (k : κ) {bs : List (Mailbox κ τ μ)} (h : (keys bs).Nodup) :
    k ∉ keys (remove k bs) := by
  induction bs with
  | nil => exact List.not_mem_nil
  | cons b bs ih =>
    obtain ⟨hb, hbs⟩ := List.nodup_cons.mp h
    unfold remove
    split
    · next hk => exact hk ▸ hb
    · next hk =>
      intro hm
      rcases List.mem_cons.mp hm with he | hm
      · exact hk he.symm
      · exact ih hbs hm

theorem others_deposit (k : κ) (t : τ) (m : μ) (bs : List (Mailbox κ τ μ)) :
    others k (deposit k t m bs) = others k bs := by
  unfold others
  induction bs with
  | nil => simp [deposit]
  | cons b bs ih =>
    unfold deposit
    split
    · next h => simp [h]
    · rw [List.filter_cons, List.filter_cons, ih]

theorem others_remove (k : κ) (bs : List (Mailbox κ τ μ)) : others k (remove k bs) = others k bs := by
  unfold others
  induction bs with
  | nil => rfl
  | cons b bs ih =>
    unfold remove
    split
    · next h => simp [h]
    · rw [List.filter_cons, List.filter_cons, ih]

theorem deposit_append {k : κ} {bs cs : List (Mailbox κ τ μ)} (h : k ∉ keys bs) (t : τ) (m : μ) :
    deposit k t m (bs ++ cs) = bs ++ deposit k t m cs := by
  induction bs with
  | nil => rfl
  | cons b bs ih =>
    unfold keys at h
    rw [List.map_cons, List.mem_cons, not_or] at h
    rw [List.cons_append, deposit, if_neg (Ne.symm h.1), ih h.2, List.cons_append]

theorem deposit_cons_self {b : Mailbox κ τ μ} {k : κ} (h : b.key = k) (t : τ) (m : μ)
    (bs : List (Mailbox κ τ μ)) :
    deposit k t m (b :: bs) = { b with items := b.items ++ [m] } :: bs := by
  rw [deposit, if_pos h]

theorem remove_append {k : κ} {bs cs : List (Mailbox κ τ μ)} (h : k ∉ keys bs) :
    remove k (bs ++ cs) = bs ++ remove k cs := by
  induction bs with
  | nil => rfl
  | cons b bs ih =>
    unfold keys at h
    rw [List.map_cons, List.mem_cons, not_or] at h
    rw [List.cons_append, remove, if_neg (Ne.symm h.1), ih h.2, List.cons_append]

theorem remove_cons_self {b : Mailbox κ τ μ} {k : κ} (h : b.key = k) (bs : List (Mailbox κ τ μ)) :
    remove k (b :: bs) = bs := by
  rw [remove, if_pos h]

/-- A message in a box after a deposit is the new one, under its key, or an old one under
the key it had. -/
theorem mem_items_deposit {k : κ} {t : τ} {m : μ} {bs : List (Mailbox κ τ μ)}
    {b : Mailbox κ τ μ} (hb : b ∈ deposit k t m bs) {x : μ} (hx : x ∈ b.items) :
    (x = m ∧ b.key = k) ∨ ∃ c ∈ bs, c.key = b.key ∧ x ∈ c.items := by
  induction bs with
  | nil =>
    rw [deposit, List.mem_singleton] at hb
    subst hb
    exact Or.inl ⟨List.mem_singleton.mp hx, rfl⟩
  | cons c bs ih =>
    unfold deposit at hb
    split at hb
    · next hk =>
      rcases List.mem_cons.mp hb with rfl | hb
      · rcases List.mem_append.mp hx with hx | hx
        · exact Or.inr ⟨c, List.mem_cons_self, rfl, hx⟩
        · exact Or.inl ⟨List.mem_singleton.mp hx, hk⟩
      · exact Or.inr ⟨b, List.mem_cons_of_mem _ hb, rfl, hx⟩
    · rcases List.mem_cons.mp hb with rfl | hb
      · exact Or.inr ⟨b, List.mem_cons_self, rfl, hx⟩
      · rcases ih hb with h | ⟨d, hd, hk, hx⟩
        · exact Or.inl h
        · exact Or.inr ⟨d, List.mem_cons_of_mem _ hd, hk, hx⟩

/-! ## Contents -/

theorem contents_of_not_mem {k : κ} {bs : List (Mailbox κ τ μ)} (h : k ∉ keys bs) :
    contents k bs = [] := by
  induction bs with
  | nil => rfl
  | cons b bs ih =>
    unfold keys at h
    rw [List.map_cons, List.mem_cons, not_or] at h
    rw [contents, if_neg (Ne.symm h.1), ih h.2]

theorem items_sublist_contents {k : κ} {b : Mailbox κ τ μ} {bs : List (Mailbox κ τ μ)} (hb : b ∈ bs)
    (hk : b.key = k) : b.items.Sublist (contents k bs) := by
  induction bs with
  | nil => cases hb
  | cons c bs ih =>
    rw [contents]
    rcases List.mem_cons.mp hb with rfl | hb
    · rw [if_pos hk]
      exact List.sublist_append_left _ _
    · split
      · exact (ih hb).trans (List.sublist_append_right _ _)
      · exact ih hb

theorem contents_sublist (k : κ) {bs bs' : List (Mailbox κ τ μ)} (h : bs'.Sublist bs) :
    (contents k bs').Sublist (contents k bs) := by
  induction h with
  | slnil => exact List.Sublist.refl _
  | cons b _ ih =>
    rw [contents]
    split
    · exact ih.trans (List.sublist_append_right _ _)
    · exact ih
  | cons_cons b _ ih =>
    rw [contents, contents]
    split
    · exact ih.append_left _
    · exact ih

theorem contents_deposit_self (k : κ) (t : τ) (m : μ) {bs : List (Mailbox κ τ μ)}
    (h : (keys bs).Nodup) : contents k (deposit k t m bs) = contents k bs ++ [m] := by
  induction bs with
  | nil => simp [deposit, contents]
  | cons b bs ih =>
    obtain ⟨hb, hbs⟩ := List.nodup_cons.mp h
    unfold deposit
    split
    · next hk =>
      have hnil : contents k bs = [] := contents_of_not_mem (hk ▸ hb)
      simp [contents, hk, hnil]
    · next hk => simp [contents, hk, ih hbs]

theorem contents_deposit_of_ne {k k' : κ} (t : τ) (m : μ) (bs : List (Mailbox κ τ μ))
    (h : k' ≠ k) : contents k' (deposit k t m bs) = contents k' bs := by
  induction bs with
  | nil => simp [deposit, contents, Ne.symm h]
  | cons b bs ih =>
    unfold deposit
    split
    · next hk => simp [contents, hk, Ne.symm h]
    · next hk => simp only [contents, ih]

theorem contents_remove_self (k : κ) {bs : List (Mailbox κ τ μ)} (h : (keys bs).Nodup) :
    contents k (remove k bs) = [] :=
  contents_of_not_mem (not_mem_keys_remove k h)

theorem contents_remove_of_ne {k k' : κ} (bs : List (Mailbox κ τ μ)) (h : k' ≠ k) :
    contents k' (remove k bs) = contents k' bs := by
  induction bs with
  | nil => rfl
  | cons b bs ih =>
    unfold remove
    split
    · next hk => simp [contents, hk, Ne.symm h]
    · next hk => simp only [contents, ih]

/-! ## The ledger -/

/-- Under every key, what was delivered and then what still waits is a subsequence of what
was sent. -/
def Routed (sent delivered : κ → List μ) (bs : List (Mailbox κ τ μ)) : Prop :=
  ∀ k, (delivered k ++ contents k bs).Sublist (sent k)

/-- `f` with `ms` added under `k`. -/
def record (f : κ → List μ) (k : κ) (ms : List μ) : κ → List μ :=
  fun k' => if k' = k then f k' ++ ms else f k'

namespace Routed

variable {sent delivered : κ → List μ} {bs : List (Mailbox κ τ μ)}

theorem start : Routed (fun _ => []) (fun _ => []) ([] : List (Mailbox κ τ μ)) :=
  fun _ => List.Sublist.refl _

theorem deposit (h : Routed sent delivered bs) (hk : (keys bs).Nodup) (k : κ) (t : τ) (m : μ) :
    Routed (record sent k [m]) delivered (Mailbox.deposit k t m bs) := by
  intro k'
  unfold record
  split
  · next he =>
    subst he
    rw [contents_deposit_self _ t m hk, ← List.append_assoc]
    exact (h k').append_right [m]
  · next he =>
    rw [contents_deposit_of_ne t m bs he]
    exact h k'

/-- Delivered at once: right only where nothing waits under the key. -/
theorem direct (h : Routed sent delivered bs) {k : κ} (hk : contents k bs = []) (m : μ) :
    Routed (record sent k [m]) (record delivered k [m]) bs := by
  intro k'
  unfold record
  split
  · next he =>
    subst he
    have := h k'
    rw [hk, List.append_nil] at this ⊢
    exact this.append_right [m]
  · exact h k'

theorem drop (h : Routed sent delivered bs) (k : κ) (m : μ) :
    Routed (record sent k [m]) delivered bs := by
  intro k'
  unfold record
  split
  · exact (h k').trans (List.sublist_append_left _ _)
  · exact h k'

/-- The box of `k` is taken out and some of its messages, in order, are delivered. -/
theorem take (h : Routed sent delivered bs) (hk : (keys bs).Nodup) {k : κ} {ds : List μ}
    (hd : ds.Sublist (contents k bs)) :
    Routed sent (record delivered k ds) (Mailbox.remove k bs) := by
  intro k'
  unfold record
  split
  · next he =>
    subst he
    rw [contents_remove_self k' hk, List.append_nil]
    exact (hd.append_left (delivered k')).trans (h k')
  · next he =>
    rw [contents_remove_of_ne bs he]
    exact h k'

theorem expire (h : Routed sent delivered bs) {bs' : List (Mailbox κ τ μ)}
    (hs : bs'.Sublist bs) : Routed sent delivered bs' :=
  fun k => ((contents_sublist k hs).append_left (delivered k)).trans (h k)

end Routed

end Mailbox
