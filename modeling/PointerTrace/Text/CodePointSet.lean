/- Sets of code points, written as the ascending list of the points where membership changes:
   the set holds what lies from the first bound up to the second, from the third up to the
   fourth, and so on. A character is inside when the number of bounds at or below it is odd. -/
namespace PointerTrace.Text

/-- Whether a code point lies inside the set that ascending bounds describe. -/
def inside : List Nat → Nat → Bool
  | [], _ => false
  | bound :: rest, point => if point < bound then false else !inside rest point

end PointerTrace.Text
