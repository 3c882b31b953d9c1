/-!
# Powers of the two bases

The powers of two and ten that the formats of numbers are stated with, as functions of their own.
-/
namespace TrackerSearch.Number

/-- A power of two. -/
def twoTo (n : Nat) : Nat := Nat.pow 2 n

/-- A power of ten. -/
def tenTo (n : Nat) : Nat := Nat.pow 10 n

end TrackerSearch.Number
