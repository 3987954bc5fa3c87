/-! The sizes that a solid may have, in millimetres. -/

namespace PromptCad.Size

/-- Half of it still shows at six decimal places. -/
def least : Float := 0.001

/-- One kilometre. -/
def greatest : Float := 1000000

/-- Not a number is refused, as every comparison with it fails. -/
def admits (mm : Float) : Bool := least ≤ mm && mm ≤ greatest

end PromptCad.Size
