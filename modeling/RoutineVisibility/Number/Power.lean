/-! Powers of two and of ten: the weights of binary and of decimal digits. -/
namespace RoutineVisibility.Number

def twoTo (n : Nat) : Nat := Nat.pow 2 n

def tenTo (n : Nat) : Nat := Nat.pow 10 n

theorem tenTo_pos (n : Nat) : 0 < tenTo n := Nat.pow_pos (by decide)

end RoutineVisibility.Number
