/-!
# Powers

Powers are those that the number types come with. Other libraries define them once more,
for every monoid; here the first ones are meant wherever both are known.
-/

set_option autoImplicit false

namespace ParamSchema

attribute [scoped instance (high)] instPowNat

end ParamSchema
