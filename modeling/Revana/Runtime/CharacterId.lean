import Revana.Runtime.Startup

/-!
# The character id of a world login

The lobby hands out a character id in its next-login packet; the id in the
guest's world login lacks the top byte.  The receive hook takes the id from
the packet, whatever runs in between, and the send hook completes the login
with it.
-/

namespace Revana.Runtime

open Foundation
open Login

/-! ## The ids a run receives -/

section Hooks

variable (globals : Globals)

end Hooks

end Revana.Runtime
