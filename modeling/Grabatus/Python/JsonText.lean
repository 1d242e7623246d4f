import Grabatus.Errors
import Grabatus.Lib.Schema

/-!
# The `json` module

`json.dumps` and `json.loads` as parameters. `loads` raises a `JSONDecodeError` on a text that is
no JSON. Both raise what the interpreter raises at its limits: a nesting too deep, an integer of too
many digits. Nothing here says which documents survive both.
-/

namespace Grabatus.Python

open Grabatus.Lib

/-- `json.dumps` and `json.loads`. -/
class JsonText where
  dumps : Json → Except PyException String
  loads : String → Except PyException Json

end Grabatus.Python
