import Mathlib

/-!
# Strings in buffers

A buffer is a list of bytes, and the string in it ends before its first NUL.  `Holds buf s` says
that the buffer starts with the string `s` and its terminator, so that `s` is what is read from it,
inside the buffer.  A bounded copy ends with a NUL only where the string is shorter than the bound:

    strncpy dst src n     the first `n` bytes of `src`, filled up to `n` with NULs
    Buffer n              a buffer of `n` bytes; a copy into it stays inside it

    holds_strncpy_iff         the copy holds the string where it is shorter than `n`, or where the
                              old bytes after `n` are the rest of it
    holds_strncpy_full        a copy as long as the buffer
    holds_strncpy_cleared     a copy into a buffer of NULs
    holds_snprintf_iff        a printed string, which always has its terminator
    strstr_congr              a search does not see what follows the first occurrence
-/

namespace CString

variable {buf dst src s t : List UInt8} {n : Nat}

/-- `STRNCPY` of a string into a buffer. -/
def strncpy (dst src : List UInt8) (n : Nat) : List UInt8 :=
  (src ++ List.replicate (n - src.length) 0).take n ++ dst.drop n

/-- The string in a buffer. -/
def cString (buf : List UInt8) : List UInt8 := buf.takeWhile (· != 0)

/-- `STRNLEN` of a string. -/
def strnlen (s : List UInt8) (n : Nat) : Nat := min s.length n

theorem strnlen_le : strnlen s n ≤ n := Nat.min_le_right ..

/-- A buffer of NULs. -/
def cleared (n : Nat) : List UInt8 := List.replicate n 0

/-- The buffer starts with the string and its terminator. -/
def Holds (buf s : List UInt8) : Prop := 0 ∉ s ∧ s ++ [0] <+: buf

instance : Decidable (Holds buf s) := inferInstanceAs (Decidable (0 ∉ s ∧ s ++ [0] <+: buf))

/-! ## What is read -/

theorem bne_zero_of_mem (h0 : 0 ∉ s) : ∀ b ∈ s, (b != 0) = true := by
  intro b hb
  rw [bne_iff_ne]
  rintro rfl
  exact h0 hb

theorem Holds.cString_eq (h : Holds buf s) : cString buf = s := by
  obtain ⟨h0, rest, rfl⟩ := h
  unfold cString
  rw [List.append_assoc, List.takeWhile_append_of_pos (bne_zero_of_mem h0), List.singleton_append,
    List.takeWhile_cons_of_neg (by decide), List.append_nil]

theorem Holds.length_lt (h : Holds buf s) : s.length < buf.length := by
  have := h.2.length_le
  rw [List.length_append, List.length_singleton] at this
  omega

theorem Holds.unique (h : Holds buf s) (h' : Holds buf t) : s = t :=
  h.cString_eq.symm.trans h'.cString_eq

/-- What follows the buffer is not read. -/
theorem Holds.append (h : Holds buf s) (rest : List UInt8) : Holds (buf ++ rest) s :=
  ⟨h.1, h.2.trans (List.prefix_append buf rest)⟩

/-! ## A bounded copy -/

theorem length_strncpy (hn : n ≤ dst.length) : (strncpy dst src n).length = dst.length := by
  unfold strncpy
  rw [List.length_append, List.length_take, List.length_append, List.length_replicate,
    List.length_drop]
  omega

theorem strncpy_of_lt (h : src.length < n) :
    strncpy dst src n = src ++ 0 :: (List.replicate (n - src.length - 1) 0 ++ dst.drop n) := by
  obtain ⟨m, hm⟩ : ∃ m, n - src.length = m + 1 := ⟨n - src.length - 1, by omega⟩
  unfold strncpy
  rw [List.take_of_length_le (by simp; omega), hm, List.replicate_succ, List.append_assoc]
  rfl

theorem strncpy_of_le (h : n ≤ src.length) : strncpy dst src n = src.take n ++ dst.drop n := by
  unfold strncpy
  rw [Nat.sub_eq_zero_of_le h, List.replicate_zero, List.append_nil]

theorem holds_strncpy_iff (h0 : 0 ∉ src) :
    Holds (strncpy dst src n) src ↔
      src.length < n ∨ n ≤ src.length ∧ Holds (dst.drop n) (src.drop n) := by
  by_cases h : src.length < n
  · rw [strncpy_of_lt h]
    refine iff_of_true ⟨h0, ?_⟩ (Or.inl h)
    rw [List.prefix_append_right_inj]
    exact ⟨_, rfl⟩
  · have hle : n ≤ src.length := by omega
    have h0' : 0 ∉ src.drop n := fun hm => h0 (List.mem_of_mem_drop hm)
    have hsplit : src ++ [0] = src.take n ++ (src.drop n ++ [0]) := by
      rw [← List.append_assoc, List.take_append_drop]
    unfold Holds
    rw [strncpy_of_le hle, hsplit, List.prefix_append_right_inj]
    constructor
    · rintro ⟨-, hp⟩
      exact Or.inr ⟨hle, h0', hp⟩
    · rintro (hlt | ⟨-, -, hp⟩)
      · exact absurd hlt h
      · exact ⟨h0, hp⟩

/-- A string that is shorter than `n` is copied with its terminator. -/
theorem cString_strncpy (h0 : 0 ∉ src) (hn : src.length < n) : cString (strncpy dst src n) = src :=
  ((holds_strncpy_iff h0).mpr (Or.inl hn)).cString_eq

/-- A copy as long as the buffer needs a string that is shorter. -/
theorem holds_strncpy_full (h0 : 0 ∉ src) (hn : dst.length ≤ n) :
    Holds (strncpy dst src n) src ↔ src.length < n := by
  rw [holds_strncpy_iff h0, List.drop_eq_nil_of_le hn, or_iff_left]
  rintro ⟨-, -, hp⟩
  exact List.append_ne_nil_of_right_ne_nil _ (List.cons_ne_nil _ _) (List.prefix_nil.mp hp)

/-- A string that is as long as the copy needs a NUL after it. -/
theorem holds_strncpy_of_length_le (h0 : 0 ∉ src) (hn : src.length ≤ n) :
    Holds (strncpy dst src n) src ↔ src.length < n ∨ dst[n]? = some 0 := by
  rw [holds_strncpy_iff h0]
  refine or_congr_right' fun hlt => ?_
  have hlen : src.length = n := by omega
  rw [and_iff_right hlen.ge, List.drop_eq_nil_of_le hn]
  unfold Holds
  rw [and_iff_right List.not_mem_nil, List.nil_append, ← List.head?_drop]
  cases dst.drop n with
  | nil => simp
  | cons b rest => simp [eq_comm]

theorem holds_strncpy_cleared {m : Nat} (h0 : 0 ∉ src) (hm : n < m) (hn : src.length ≤ n) :
    Holds (strncpy (cleared m) src n) src := by
  rw [holds_strncpy_of_length_le h0 hn]
  refine Or.inr ?_
  unfold cleared
  rw [List.getElem?_replicate, if_pos hm]

/-- The bytes of a copy that ends with the string. -/
theorem take_strncpy (hn : n ≤ src.length) : (strncpy dst src n).take n = src.take n := by
  rw [strncpy_of_le hn, List.take_append_of_le_length (by rw [List.length_take]; omega),
    List.take_take, Nat.min_self]

/-! ## Searching -/

section
variable {α : Type} {s t pat : List α} {i : Nat}

/-- Whether a string starts with the pattern is seen in its first characters. -/
theorem prefix_congr {n : Nat} (hn : pat.length ≤ n) (ht : t.take n = s.take n) :
    pat <+: t ↔ pat <+: s := by
  have htake : t.take pat.length = s.take pat.length := by
    rw [← Nat.min_eq_left hn, ← List.take_take, ← List.take_take, ht]
  rw [List.prefix_iff_eq_take, List.prefix_iff_eq_take, htake]

variable [DecidableEq α]

/-- `STRSTR`: the index of the first occurrence. -/
def strstr (s pat : List α) : Option Nat :=
  if pat <+: s then some 0
  else
    match s with
    | [] => none
    | _ :: s => (strstr s pat).map (· + 1)

theorem strstr_of_isPrefix (h : pat <+: s) : strstr s pat = some 0 := by
  unfold strstr
  rw [if_pos h]

theorem strstr_cons_of_not_isPrefix {c : α} (h : ¬ pat <+: c :: s) :
    strstr (c :: s) pat = (strstr s pat).map (· + 1) := by
  rw [strstr, if_neg h]

/-- What follows the first occurrence does not count. -/
theorem strstr_congr (h : strstr s pat = some i)
    (ht : t.take (i + pat.length) = s.take (i + pat.length)) : strstr t pat = some i := by
  induction s generalizing t i with
  | nil =>
    unfold strstr at h
    split_ifs at h with hp
    cases h
    exact strstr_of_isPrefix ((prefix_congr (Nat.le_add_left ..) ht).mpr hp)
  | cons c s ih =>
    by_cases hp : pat <+: c :: s
    · rw [strstr_of_isPrefix hp] at h
      cases h
      exact strstr_of_isPrefix ((prefix_congr (Nat.le_add_left ..) ht).mpr hp)
    · rw [strstr_cons_of_not_isPrefix hp, Option.map_eq_some_iff] at h
      obtain ⟨j, hj, rfl⟩ := h
      have hp' : ¬ pat <+: t := by rwa [prefix_congr (Nat.le_add_left ..) ht]
      rw [Nat.add_right_comm, List.take_succ_cons] at ht
      cases t with
      | nil => cases ht
      | cons d t =>
        rw [List.take_succ_cons, List.cons.injEq] at ht
        rw [strstr_cons_of_not_isPrefix hp', ih hj ht.2]
        rfl

theorem length_le_of_strstr (h : strstr s pat = some i) : i + pat.length ≤ s.length := by
  induction s generalizing i with
  | nil =>
    unfold strstr at h
    split_ifs at h with hp
    cases h
    rw [Nat.zero_add]
    exact hp.length_le
  | cons c s ih =>
    by_cases hp : pat <+: c :: s
    · rw [strstr_of_isPrefix hp] at h
      cases h
      rw [Nat.zero_add]
      exact hp.length_le
    · rw [strstr_cons_of_not_isPrefix hp, Option.map_eq_some_iff] at h
      obtain ⟨j, hj, rfl⟩ := h
      have := ih hj
      rw [List.length_cons]
      omega

end

end CString

/-- The characters of a string. -/
@[ext]
structure Chars where
  bytes : List UInt8
  nul_free : 0 ∉ bytes

instance : DecidableEq Chars := fun _ _ => decidable_of_iff _ Chars.ext_iff.symm

/-- The string is empty. -/
def Chars.isEmpty (s : Chars) : Bool := s.bytes.isEmpty

theorem Chars.bytes_ne_nil {s : Chars} (h : s.isEmpty = false) : s.bytes ≠ [] := by
  intro hnil
  unfold Chars.isEmpty at h
  rw [hnil] at h
  cases h

/-- `n` times the same character. -/
def Chars.repeated (n : Nat) (c : UInt8) (hc : c ≠ 0) : Chars :=
  ⟨List.replicate n c, fun h => hc (List.eq_of_mem_replicate h).symm⟩

theorem Chars.length_repeated {n : Nat} {c : UInt8} {hc : c ≠ 0} :
    (Chars.repeated n c hc).bytes.length = n := List.length_replicate

/-- `CHAR buf[n]`. -/
structure Buffer (n : Nat) where
  bytes : List UInt8
  length_bytes : bytes.length = n
  deriving DecidableEq

namespace Buffer

open CString

variable {n k : Nat}

/-- A bounded copy that stays inside the buffer. -/
def strncpy (b : Buffer n) (src : List UInt8) (k : Nat) (hk : k ≤ n) : Buffer n where
  bytes := CString.strncpy b.bytes src k
  length_bytes := by rw [length_strncpy (b.length_bytes.symm ▸ hk), b.length_bytes]

/-- `SNPRINTF` of a text: as much of it as fits before its terminator. -/
def snprintf (b : Buffer n) (text : List UInt8) (k : Nat) (hk : k ≤ n) (hpos : 0 < k) : Buffer n :=
  b.strncpy (text.take (k - 1)) (min text.length (k - 1) + 1) (by omega)

/-- After a `MEMSET` of NULs. -/
def cleared (n : Nat) : Buffer n := ⟨CString.cleared n, List.length_replicate⟩

/-- A buffer with the same byte everywhere. -/
def filled (n : Nat) (c : UInt8) : Buffer n := ⟨List.replicate n c, List.length_replicate⟩

/-- What is read from the buffer. -/
def text (b : Buffer n) : List UInt8 := cString b.bytes

/-- The string is in the buffer with its terminator. -/
def Holds (b : Buffer n) (s : List UInt8) : Prop := CString.Holds b.bytes s

instance (b : Buffer n) (s : List UInt8) : Decidable (b.Holds s) :=
  inferInstanceAs (Decidable (CString.Holds b.bytes s))

variable {b : Buffer n} {src s : List UInt8} {hk : k ≤ n}

theorem Holds.text_eq (h : b.Holds s) : b.text = s := h.cString_eq

theorem Holds.length_lt (h : b.Holds s) : s.length < n := by
  have := CString.Holds.length_lt h
  rwa [b.length_bytes] at this

theorem Holds.take_eq (h : b.Holds s) : b.bytes.take s.length = s := by
  obtain ⟨-, rest, hrest⟩ := h
  rw [← hrest, List.append_assoc, List.take_left]

theorem holds_nil_iff : b.Holds [] ↔ b.bytes[0]? = some 0 := by
  unfold Holds CString.Holds
  rw [and_iff_right List.not_mem_nil, List.nil_append, ← List.head?_eq_getElem?]
  cases b.bytes with
  | nil => simp
  | cons c rest => simp [eq_comm]

theorem cleared_holds_nil (hn : 0 < n) : (cleared n).Holds [] := by
  rw [holds_nil_iff]
  exact List.getElem?_replicate_of_lt hn

theorem holds_strncpy_full (h0 : 0 ∉ src) : (b.strncpy src n le_rfl).Holds src ↔ src.length < n :=
  CString.holds_strncpy_full h0 b.length_bytes.le

theorem holds_strncpy_of_length_le (h0 : 0 ∉ src) (hlen : src.length ≤ k) :
    (b.strncpy src k hk).Holds src ↔ src.length < k ∨ b.bytes[k]? = some 0 :=
  CString.holds_strncpy_of_length_le h0 hlen

theorem holds_snprintf_iff (h0 : 0 ∉ src) (hpos : 0 < k) :
    (b.snprintf src k hk hpos).Holds src ↔ src.length < k := by
  have h0' : 0 ∉ src.take (k - 1) := fun hm => h0 (List.mem_of_mem_take hm)
  have hwritten : (b.snprintf src k hk hpos).Holds (src.take (k - 1)) :=
    (CString.holds_strncpy_iff h0').mpr (Or.inl (by rw [List.length_take]; omega))
  constructor
  · intro h
    have htake := CString.Holds.unique hwritten h
    rw [List.take_eq_self_iff] at htake
    omega
  · intro hlt
    rwa [List.take_of_length_le (by omega)] at hwritten

theorem holds_strncpy_cleared (h0 : 0 ∉ src) (hk : k < n) (hlen : src.length ≤ k) :
    ((cleared n).strncpy src k hk.le).Holds src :=
  CString.holds_strncpy_cleared h0 hk hlen

end Buffer
