/-!
# Powers of two and ten

The weights of binary and of decimal places.
-/

namespace Vocoder

/-- A power of two. -/
def twoTo (n : Nat) : Nat :=
  Nat.pow 2 n

/-- A power of ten. -/
def tenTo (n : Nat) : Nat :=
  Nat.pow 10 n

end Vocoder
