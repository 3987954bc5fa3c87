/-! In this scope, powers of natural numbers are the ones of the natural numbers themselves, whatever else is there. -/

namespace PromptCad.Power

attribute [scoped instance (high)] instPowNat

end PromptCad.Power
