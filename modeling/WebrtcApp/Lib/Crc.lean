import Mathlib

/-!
# Cyclic redundancy checks

The register of a reflected CRC of any width and polynomial, fed with chunks of `k` bits, lowest bit
first.  A shift of the register is linear in exclusive or, and if the polynomial has its top bit, a
bijection; so the register remembers all of the last `w` bits it was fed with.

    shifts_xor          shifts are linear
    shifts_injective    and lose nothing
    feed_eq_shifts      up to `w` bits fed are shifts of the register with the bits put in
    feed_burst          two inputs of one length that differ in a window of at most `w` bits leave
                        different registers
-/

namespace Crc

variable {w : Nat} {poly : BitVec w}

/-- One shift of the register. -/
def shift (poly c : BitVec w) : BitVec w :=
  if c.getLsbD 0 then (c >>> 1) ^^^ poly else c >>> 1

def shifts (poly : BitVec w) (n : Nat) (c : BitVec w) : BitVec w := (shift poly)^[n] c

/-- The register after the chunks `bs`, each of `k` bits. -/
def feed (poly : BitVec w) (k : Nat) (c : BitVec w) (bs : List (BitVec w)) : BitVec w :=
  bs.foldl (fun c b => shifts poly k (c ^^^ b)) c

/-! ## Shifts -/

theorem shift_xor (a b : BitVec w) : shift poly (a ^^^ b) = shift poly a ^^^ shift poly b := by
  unfold shift
  rw [BitVec.getLsbD_xor, BitVec.ushiftRight_xor_distrib]
  cases a.getLsbD 0 <;> cases b.getLsbD 0
  · simp
  · simp [BitVec.xor_assoc]
  · simp only [Bool.xor_false, if_true, Bool.false_eq_true, if_false]
    rw [BitVec.xor_assoc, BitVec.xor_comm (b >>> 1) poly, ← BitVec.xor_assoc]
  · simp only [bne_self_eq_false, Bool.false_eq_true, if_false, if_true]
    rw [BitVec.xor_assoc, BitVec.xor_comm (b >>> 1) poly, ← BitVec.xor_assoc poly, BitVec.xor_self,
      BitVec.zero_xor]

theorem shifts_xor (n : Nat) (a b : BitVec w) :
    shifts poly n (a ^^^ b) = shifts poly n a ^^^ shifts poly n b := by
  induction n generalizing a b with
  | zero => rfl
  | succ n ih =>
    show shifts poly n (shift poly (a ^^^ b)) = _
    rw [shift_xor, ih]
    rfl

/-- The bit shifted out is read off the top bit. -/
theorem msb_shift (hpoly : poly.msb = true) (c : BitVec w) : (shift poly c).msb = c.getLsbD 0 := by
  have htop : (c >>> 1).msb = false := by
    rw [BitVec.msb_eq_getLsbD_last, BitVec.getLsbD_ushiftRight]
    exact BitVec.getLsbD_of_ge c _ (by omega)
  unfold shift
  cases c.getLsbD 0
  · exact htop
  · show ((c >>> 1) ^^^ poly).msb = true
    rw [BitVec.msb_xor, htop, hpoly]
    rfl

theorem shift_injective (hpoly : poly.msb = true) : Function.Injective (shift poly) := by
  intro a b h
  have hlow : a.getLsbD 0 = b.getLsbD 0 := by
    rw [← msb_shift hpoly a, ← msb_shift hpoly b, h]
  have hhigh : a >>> 1 = b >>> 1 := by
    unfold shift at h
    rw [hlow] at h
    cases hb : b.getLsbD 0 with
    | false =>
      rw [hb] at h
      exact h
    | true =>
      rw [hb] at h
      exact BitVec.xor_right_inj poly |>.mp (by simpa [BitVec.xor_comm] using h)
  refine BitVec.eq_of_getLsbD_eq fun i hi => ?_
  cases i with
  | zero => exact hlow
  | succ i =>
    have hbit := congrArg (BitVec.getLsbD · i) hhigh
    simpa [BitVec.getLsbD_ushiftRight, Nat.add_comm] using hbit

theorem shifts_injective (hpoly : poly.msb = true) (n : Nat) :
    Function.Injective (shifts poly n) :=
  (shift_injective hpoly).iterate n

/-- A register whose low bits are clear only moves. -/
theorem shifts_of_clear {n : Nat} {c : BitVec w} (h : ∀ i < n, c.getLsbD i = false) :
    shifts poly n c = c >>> n := by
  induction n generalizing c with
  | zero => exact (BitVec.ushiftRight_zero c).symm
  | succ n ih =>
    have hshift : shift poly c = c >>> 1 := by
      unfold shift
      rw [h 0 (Nat.succ_pos n)]
      rfl
    show shifts poly n (shift poly c) = _
    rw [hshift, ih fun i hi => ?_, ← BitVec.shiftRight_add, Nat.add_comm]
    rw [BitVec.getLsbD_ushiftRight]
    exact h (1 + i) (by omega)

/-! ## Chunks -/

theorem feed_cons (k : Nat) (c b : BitVec w) (bs : List (BitVec w)) :
    feed poly k c (b :: bs) = feed poly k (shifts poly k (c ^^^ b)) bs := rfl

theorem feed_append (k : Nat) (c : BitVec w) (as bs : List (BitVec w)) :
    feed poly k c (as ++ bs) = feed poly k (feed poly k c as) bs :=
  List.foldl_append

/-- The chunks as they follow each other in the register. -/
def pack (k : Nat) : List (BitVec w) → BitVec w
  | [] => 0
  | b :: bs => b ^^^ (pack k bs <<< k)

/-- The chunk has no bits above the `k`-th. -/
def Fits (k : Nat) (b : BitVec w) : Prop := ∀ i, k ≤ i → b.getLsbD i = false

theorem getLsbD_pack_of_ge {k : Nat} {bs : List (BitVec w)} (h : ∀ b ∈ bs, Fits k b) :
    ∀ i, k * bs.length ≤ i → (pack k bs).getLsbD i = false := by
  induction bs with
  | nil =>
    intro i _
    exact BitVec.getLsbD_zero
  | cons b bs ih =>
    intro i hi
    rw [List.length_cons, Nat.mul_succ] at hi
    have hb := h b List.mem_cons_self i (by omega)
    have hrest := ih (fun d hd => h d (List.mem_cons_of_mem _ hd)) (i - k) (by omega)
    rw [pack, BitVec.getLsbD_xor, hb, BitVec.getLsbD_shiftLeft, hrest]
    simp

theorem getLsbD_shiftLeft_add {k i : Nat} (c : BitVec w) (h : k + i < w) :
    (c <<< k).getLsbD (k + i) = c.getLsbD i := by
  rw [BitVec.getLsbD_shiftLeft, Nat.add_sub_cancel_left]
  simp [h]

/-- The chunks can be read back, as long as they fit in the register. -/
theorem pack_inj {k : Nat} {as bs : List (BitVec w)} (hlen : as.length = bs.length)
    (ha : ∀ b ∈ as, Fits k b) (hb : ∀ b ∈ bs, Fits k b) (hw : k * as.length ≤ w)
    (h : pack k as = pack k bs) : as = bs := by
  induction as generalizing bs with
  | nil => exact (List.length_eq_zero_iff.mp hlen.symm).symm
  | cons a as ih =>
    cases bs with
    | nil => cases hlen
    | cons b bs =>
      rw [List.length_cons, Nat.mul_succ] at hw
      have hlen' : as.length = bs.length := Nat.succ.inj hlen
      have has : ∀ d ∈ as, Fits k d := fun d hd => ha d (List.mem_cons_of_mem _ hd)
      have hbs : ∀ d ∈ bs, Fits k d := fun d hd => hb d (List.mem_cons_of_mem _ hd)
      have hbit : ∀ i, (a ^^^ (pack k as <<< k)).getLsbD i = (b ^^^ (pack k bs <<< k)).getLsbD i :=
        fun i => congrArg (BitVec.getLsbD · i) h
      have hhead : a = b := by
        refine BitVec.eq_of_getLsbD_eq fun i _ => ?_
        rcases Nat.lt_or_ge i k with hi | hi
        · have hi' := hbit i
          simpa [BitVec.getLsbD_xor, BitVec.getLsbD_shiftLeft, hi] using hi'
        · rw [ha a List.mem_cons_self i hi, hb b List.mem_cons_self i hi]
      have htail : pack k as = pack k bs := by
        refine BitVec.eq_of_getLsbD_eq fun i hi => ?_
        rcases Nat.lt_or_ge (k + i) w with hik | hik
        · have hi' := hbit (k + i)
          rw [hhead, BitVec.getLsbD_xor, BitVec.getLsbD_xor, getLsbD_shiftLeft_add _ hik,
            getLsbD_shiftLeft_add _ hik] at hi'
          exact Bool.xor_right_inj.mp hi'
        · -- above the chunks
          rw [getLsbD_pack_of_ge has i (by omega), getLsbD_pack_of_ge hbs i (by rw [← hlen']; omega)]
      rw [hhead, ih hlen' has hbs (by omega) htail]

/-- As long as the chunks fit in the register, feeding them is shifting it with the chunks in. -/
theorem feed_eq_shifts {k : Nat} {bs : List (BitVec w)} (hb : ∀ b ∈ bs, Fits k b)
    (hw : k * bs.length ≤ w) (c : BitVec w) :
    feed poly k c bs = shifts poly (k * bs.length) (c ^^^ pack k bs) := by
  induction bs generalizing c with
  | nil =>
    show c = c ^^^ 0#w
    rw [BitVec.xor_zero]
  | cons b bs ih =>
    have hbs : ∀ d ∈ bs, Fits k d := fun d hd => hb d (List.mem_cons_of_mem _ hd)
    rw [List.length_cons, Nat.mul_succ] at hw
    -- what is still to come, moved up by the chunk that comes first
    have hmove : pack k bs = shifts poly k (pack k bs <<< k) := by
      rw [shifts_of_clear fun i hi => by rw [BitVec.getLsbD_shiftLeft]; simp [hi]]
      refine BitVec.eq_of_getLsbD_eq fun i hi => ?_
      rw [BitVec.getLsbD_ushiftRight]
      rcases Nat.lt_or_ge (k + i) w with hik | hik
      · exact (getLsbD_shiftLeft_add _ hik).symm
      · rw [getLsbD_pack_of_ge hbs i (by omega)]
        exact (BitVec.getLsbD_of_ge _ _ hik).symm
    rw [feed_cons, ih hbs (by omega), List.length_cons, Nat.mul_succ]
    calc shifts poly (k * bs.length) (shifts poly k (c ^^^ b) ^^^ pack k bs)
        = shifts poly (k * bs.length) (shifts poly k (c ^^^ b) ^^^ shifts poly k (pack k bs <<< k)) := by
          rw [← hmove]
      _ = shifts poly (k * bs.length) (shifts poly k (c ^^^ pack k (b :: bs))) := by
          rw [← shifts_xor, BitVec.xor_assoc]
          rfl
      _ = shifts poly (k * bs.length + k) (c ^^^ pack k (b :: bs)) :=
          (Function.iterate_add_apply _ _ _ _).symm

theorem feed_injective (hpoly : poly.msb = true) (k : Nat) (bs : List (BitVec w)) :
    Function.Injective fun c => feed poly k c bs := by
  induction bs with
  | nil => exact Function.injective_id
  | cons b bs ih =>
    intro c d h
    have hshift := shifts_injective hpoly k (ih h)
    exact BitVec.xor_right_inj b |>.mp (by simpa [BitVec.xor_comm] using hshift)

/-- Two inputs that differ in a window of at most `w` bits leave different registers. -/
theorem feed_burst (hpoly : poly.msb = true) {k : Nat} {as bs : List (BitVec w)}
    (hlen : as.length = bs.length) (ha : ∀ b ∈ as, Fits k b) (hb : ∀ b ∈ bs, Fits k b)
    (hw : k * as.length ≤ w) {c : BitVec w} {front back : List (BitVec w)}
    (h : feed poly k c (front ++ as ++ back) = feed poly k c (front ++ bs ++ back)) : as = bs := by
  rw [feed_append, feed_append, feed_append, feed_append] at h
  have hwindow := feed_injective hpoly k back h
  rw [feed_eq_shifts ha hw, feed_eq_shifts hb (hlen ▸ hw), hlen] at hwindow
  have hpack := shifts_injective hpoly _ hwindow
  exact pack_inj hlen ha hb hw (BitVec.xor_right_inj _ |>.mp hpack)

end Crc
