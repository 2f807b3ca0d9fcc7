/-! Sets of characters given as ascending lists of code point ranges, both ends included. -/

namespace SessionGateway.Text

def inRanges (ranges : List (Nat × Nat)) (c : Char) : Bool :=
  ranges.any fun r => r.1 ≤ c.toNat && c.toNat ≤ r.2

@[simp] theorem inRanges_nil (c : Char) : inRanges [] c = false := rfl

theorem inRanges_cons (r : Nat × Nat) (rest : List (Nat × Nat)) (c : Char) :
    inRanges (r :: rest) c = (r.1 ≤ c.toNat && c.toNat ≤ r.2 || inRanges rest c) := rfl

end SessionGateway.Text
