import Mathlib

/-! Big-endian integers inside byte strings. -/

namespace Gatherlink.Lib.BigEndian

abbrev Bytes := List UInt8

/-- The `width` low bytes of `value`, most significant byte first. -/
def toBe : Nat → Nat → Bytes
  | 0, _ => []
  | width + 1, value => UInt8.ofNat (value / 256 ^ width) :: toBe width value

def fromBe (bytes : Bytes) : Nat :=
  bytes.foldl (fun value byte => 256 * value + byte.toNat) 0

/-- The `width` bytes at `offset`, read as one big-endian integer. -/
def readBe (width : Nat) (input : Bytes) (offset : Nat) : Nat :=
  fromBe ((input.drop offset).take width)

@[simp] theorem toBe_length (width value : Nat) : (toBe width value).length = width := by
  induction width with
  | zero => rfl
  | succ width ih => simp [toBe, ih]

private theorem foldl_be (bytes : Bytes) (start : Nat) :
    bytes.foldl (fun value byte => 256 * value + byte.toNat) start =
      start * 256 ^ bytes.length + fromBe bytes := by
  induction bytes generalizing start with
  | nil => simp [fromBe]
  | cons byte rest ih =>
    have head := ih (256 * start + byte.toNat)
    have zero := ih (256 * 0 + byte.toNat)
    simp only [List.foldl_cons, List.length_cons, fromBe] at head zero ⊢
    rw [head, zero, pow_succ]
    ring

theorem fromBe_cons (byte : UInt8) (rest : Bytes) :
    fromBe (byte :: rest) = byte.toNat * 256 ^ rest.length + fromBe rest := by
  have step := foldl_be rest (256 * 0 + byte.toNat)
  simpa [fromBe] using step

theorem fromBe_lt (bytes : Bytes) : fromBe bytes < 256 ^ bytes.length := by
  induction bytes with
  | nil => simp [fromBe]
  | cons byte rest ih =>
    rw [fromBe_cons, List.length_cons, pow_succ]
    have small := byte.toNat_lt
    nlinarith

theorem fromBe_toBe (width value : Nat) : fromBe (toBe width value) = value % 256 ^ width := by
  induction width with
  | zero => simp [toBe, fromBe, Nat.mod_one]
  | succ width ih =>
    rw [toBe, fromBe_cons, ih, toBe_length, pow_succ]
    have byte : (UInt8.ofNat (value / 256 ^ width)).toNat = value / 256 ^ width % 256 := by simp
    rw [byte, Nat.mod_mul]
    ring

theorem fromBe_toBe_of_lt (width value : Nat) (small : value < 256 ^ width) :
    fromBe (toBe width value) = value := by
  rw [fromBe_toBe, Nat.mod_eq_of_lt small]

theorem toBe_mod (width value : Nat) : toBe width (value % 256 ^ width) = toBe width value := by
  suffices general : ∀ extra, toBe width (value % 256 ^ (width + extra)) = toBe width value from
    general 0
  induction width with
  | zero => intro extra; rfl
  | succ width ih =>
    intro extra
    have tail := ih (extra + 1)
    rw [show width + (extra + 1) = width + 1 + extra by omega] at tail
    simp only [toBe, tail, List.cons.injEq, and_true]
    have split : 256 ^ (width + 1 + extra) = 256 ^ width * 256 ^ (extra + 1) := by
      rw [← pow_add]
      congr 1
      omega
    rw [split, Nat.mod_mul_right_div_self]
    apply UInt8.toNat_inj.mp
    have divides : 256 ∣ 256 ^ (extra + 1) := dvd_pow_self 256 (by omega)
    simp [Nat.mod_mod_of_dvd (value / 256 ^ width) divides]

theorem toBe_fromBe (bytes : Bytes) : toBe bytes.length (fromBe bytes) = bytes := by
  induction bytes with
  | nil => rfl
  | cons byte rest ih =>
    have small := fromBe_lt rest
    have head : fromBe (byte :: rest) / 256 ^ rest.length = byte.toNat := by
      rw [fromBe_cons, Nat.add_comm, Nat.add_mul_div_right _ _ (by positivity), Nat.div_eq_of_lt small]
      omega
    have tail : toBe rest.length (fromBe (byte :: rest)) = rest := by
      rw [← toBe_mod, fromBe_cons, Nat.add_comm, Nat.add_mul_mod_self_right,
        Nat.mod_eq_of_lt small, ih]
    rw [List.length_cons, toBe, head, tail]
    simp

theorem readBe_append (width : Nat) (before field after : Bytes) (offset : Nat)
    (position : before.length = offset) (size : field.length = width) :
    readBe width (before ++ field ++ after) offset = fromBe field := by
  subst position size
  simp [readBe]

theorem readBe_toBe_append (width value : Nat) (rest : Bytes) :
    readBe width (toBe width value ++ rest) 0 = value % 256 ^ width := by
  have front := readBe_append width [] (toBe width value) rest 0 rfl (toBe_length ..)
  rwa [List.nil_append, fromBe_toBe] at front

theorem readBe_lt (width : Nat) (input : Bytes) (offset : Nat) : readBe width input offset < 256 ^ width :=
  (fromBe_lt _).trans_le (Nat.pow_le_pow_right (by omega) (List.length_take_le ..))

theorem toBe_readBe {width : Nat} {input : Bytes} {offset : Nat} (inside : offset + width ≤ input.length) :
    toBe width (readBe width input offset) = (input.drop offset).take width := by
  have length : ((input.drop offset).take width).length = width := by
    rw [List.length_take, List.length_drop]
    omega
  calc toBe width (readBe width input offset)
      = toBe ((input.drop offset).take width).length (fromBe ((input.drop offset).take width)) := by rw [length, readBe]
    _ = (input.drop offset).take width := toBe_fromBe _

theorem readBe_cons (width : Nat) (byte : UInt8) (input : Bytes) (offset : Nat) :
    readBe width (byte :: input) (offset + 1) = readBe width input offset := rfl

end Gatherlink.Lib.BigEndian
