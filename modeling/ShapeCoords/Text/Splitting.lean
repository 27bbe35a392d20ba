/-!
Splitting a text at each place where a mark stands.
-/

namespace ShapeCoords.Text

def splitAtEach (mark : Char) : List Char → List (List Char)
  | [] => [[]]
  | c :: s =>
    if c = mark then [] :: splitAtEach mark s
    else
      match splitAtEach mark s with
      | [] => [[c]]
      | part :: parts => (c :: part) :: parts

end ShapeCoords.Text
