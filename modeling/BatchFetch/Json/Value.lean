/-! # JSON values

The values of a report: objects keep the order of their members, and numbers are natural. -/

namespace BatchFetch

/-- A JSON value. -/
inductive Json where
  | null
  | number (n : Nat)
  | text (s : String)
  | list (items : List Json)
  | object (members : List (String × Json))
deriving Repr

namespace Json

/-- A value that may be missing; null stands for none. -/
def ofOption {α : Type} (f : α → Json) (x : Option α) : Json := (x.map f).getD null

end Json

end BatchFetch
