import Formwork.Entries

/-! # Visibility

Which fields of a form are shown.
-/

namespace Formwork

/-- Which fields are shown. -/
abbrev Visibility := Entries Bool

/-- Whether a field is shown; without a map all fields are, and in a map those that are
    not mentioned. -/
def isShown (visibility : Option Visibility) (name : String) : Bool :=
  (visibility.bind (·.get? name)).getD true

namespace Visibility

def hidden (map : Visibility) : List String :=
  (map.filter fun entry => !entry.2).map (·.1)

/-- The fields of one map that another shows otherwise. -/
def flipped (map previous : Visibility) : List String :=
  (map.filter fun entry => previous.get? entry.1 != some entry.2).map (·.1)

end Visibility

end Formwork
