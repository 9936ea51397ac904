import Formwork.Notice

/-! # Registries

Validators by the names under which schemas refer to them.
-/

namespace Formwork

/-- Named validators of one kind. -/
structure Registry (α : Type) where
  kind : String := "sync"
  validators : Entries α := []

namespace Registry

variable {α : Type}

/-- Register a validator, in place of an earlier one of the name. -/
def register (registry : Registry α) (name : String) (validator : α) : Registry α :=
  { registry with validators := registry.validators.put name validator }

def registerNotices (registry : Registry α) (name : String) : List Notice :=
  if registry.validators.has name then [.replacedValidator registry.kind name] else []

def get? (registry : Registry α) (name : String) : Option α := registry.validators.get? name

/-- The registered names, in order of their first registration. -/
def names (registry : Registry α) : List String := registry.validators.names

def size (registry : Registry α) : Nat := registry.validators.length

end Registry

end Formwork
