/-!
# Powers of two

The sizes of bit fields and of the ranges of integers.
-/
namespace VmHost.Number

def twoPow (n : Nat) : Nat := Nat.pow 2 n

theorem twoPow_pos (n : Nat) : 0 < twoPow n := Nat.pow_pos (by decide)

end VmHost.Number
