/-!
# Powers of two and ten

A negative exponent counts as zero. So `m · 2 ^ e` is `m * twoTo e` over `twoTo (-e)` for every `e`.
-/

namespace Stepwise

def twoTo (e : Int) : Nat := Nat.pow 2 e.toNat

def tenTo (e : Int) : Nat := Nat.pow 10 e.toNat

end Stepwise
