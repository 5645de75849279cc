/-!
# Enumerations with written names

The enumerations of the display server are written by name in settings, in dumps and in
records. A `Symbol` type lists its values and their names; reading a name is the search of
that list.
-/

namespace DisplayServer

/-- An enumeration whose values are written by name. -/
class Symbol (α : Type) where
  all : List α
  name : α → String

namespace Symbol

/-- The value written `name`. -/
def ofName? {α : Type} [Symbol α] (text : String) : Option α :=
  (all : List α).find? fun a => name a == text

end Symbol

end DisplayServer
