/-!
# Names of choices

The choices of a closed list are written by name. A type that is an instance of `Named` has one
list of names, which serves to read and to write them.
-/

namespace Storefront

/-- A type whose values are written by name. -/
class Named (α : Type) where
  names : List (String × α)

namespace Named

/-- The value with the given name. -/
def ofName? [Named α] (name : String) : Option α := names.lookup name

/-- The name of a value, if the list has one for it. -/
def name? [Named α] [DecidableEq α] (a : α) : Option String :=
  (names.find? (·.2 = a)).map (·.1)

end Named

end Storefront
