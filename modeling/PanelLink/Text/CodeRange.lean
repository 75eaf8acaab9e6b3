/-! Sets of character codes as ranges. -/

namespace PanelLink.Text

abbrev CodeRange := Nat × Nat

def inRanges (ranges : List CodeRange) (code : Nat) : Bool :=
  ranges.any fun (first, last) => first ≤ code && code ≤ last

end PanelLink.Text
