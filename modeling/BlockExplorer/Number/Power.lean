/-!
Powers of natural numbers.
-/

namespace BlockExplorer

def power (base exponent : Nat) : Nat := Nat.pow base exponent

@[simp] theorem power_zero (base : Nat) : power base 0 = 1 := rfl

theorem power_succ (base exponent : Nat) :
    power base (exponent + 1) = power base exponent * base := rfl

def twoTo (exponent : Nat) : Nat := power 2 exponent

def tenTo (exponent : Nat) : Nat := power 10 exponent

/-- One above the greatest signed integer of 64 bits. -/
def wordLimit : Int := 9223372036854775808

end BlockExplorer
