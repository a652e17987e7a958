import Mathlib.Data.Nat.Init
import Mathlib.Logic.Function.Basic

/-!
# Words and their shifts

A word combined by exclusive or with a shift of itself tells the word: the bits that the shift
leaves alone are kept, and each of the others is told by one that is nearer to them. So a
generator made of such steps never maps two states to one.
-/

namespace Xorshift

variable {w k : Nat}

theorem xor_shiftLeft_injective (hk : 0 < k) :
    Function.Injective fun x : BitVec w => x ^^^ (x <<< k) := by
  intro x y h
  refine BitVec.eq_of_getLsbD_eq fun i hi => ?_
  induction i using Nat.strong_induction_on with
  | h i ih =>
      have hbit := congrArg (BitVec.getLsbD · i) h
      simp only [BitVec.getLsbD_xor, BitVec.getLsbD_shiftLeft] at hbit
      by_cases hlow : i < k
      · simpa [hlow] using hbit
      · have hearlier := ih (i - k) (by omega) (by omega)
        simpa [hi, hlow, hearlier] using hbit

theorem xor_shiftRight_injective (hk : 0 < k) :
    Function.Injective fun x : BitVec w => x ^^^ (x >>> k) := by
  intro x y h
  refine BitVec.eq_of_getLsbD_eq fun i hi => ?_
  -- the bits from the top down
  induction hleft : w - i using Nat.strong_induction_on generalizing i with
  | h left ih =>
      have hbit := congrArg (BitVec.getLsbD · i) h
      by_cases hhigh : k + i < w
      · have hearlier := ih (w - (k + i)) (by omega) (k + i) hhigh rfl
        simpa [hearlier] using hbit
      · simpa [BitVec.getLsbD_of_ge, Nat.le_of_not_lt hhigh] using hbit

theorem uint64_shiftLeft_injective {k : UInt64} (hk : 0 < (k.toBitVec % 64).toNat) :
    Function.Injective fun x : UInt64 => x ^^^ (x <<< k) := by
  intro x y h
  have hbits := congrArg UInt64.toBitVec h
  exact UInt64.toBitVec_inj.mp (xor_shiftLeft_injective hk hbits)

theorem uint64_shiftRight_injective {k : UInt64} (hk : 0 < (k.toBitVec % 64).toNat) :
    Function.Injective fun x : UInt64 => x ^^^ (x >>> k) := by
  intro x y h
  have hbits := congrArg UInt64.toBitVec h
  exact UInt64.toBitVec_inj.mp (xor_shiftRight_injective hk hbits)

end Xorshift
