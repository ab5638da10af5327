/-!
Dictionaries with text keys: lists of entries whose keys are strictly increasing by code point. The
order makes two dictionaries with the same entries the same list.
-/

namespace DocumentQuery

abbrev Dictionary (α : Type) := List (String × α)

namespace Dictionary

variable {α β : Type}

/-- The invariant of dictionaries: keys are strictly increasing. -/
def Sorted (entries : Dictionary α) : Prop := entries.Pairwise (·.1 < ·.1)

def get? (entries : Dictionary α) (key : String) : Option α :=
  (entries.find? (·.1 = key)).map (·.2)

def contains (entries : Dictionary α) (key : String) : Bool := entries.any (·.1 = key)

/-- Binds the key, in place of what it was bound to before. -/
def insert (key : String) (value : α) : Dictionary α → Dictionary α
  | [] => [(key, value)]
  | (k, v) :: rest =>
    if key < k then (key, value) :: (k, v) :: rest
    else if key = k then (key, value) :: rest
    else (k, v) :: insert key value rest

/-- Binds the key unless it is bound already. -/
def insertNew (key : String) (value : α) : Dictionary α → Dictionary α
  | [] => [(key, value)]
  | (k, v) :: rest =>
    if key < k then (key, value) :: (k, v) :: rest
    else if key = k then (k, v) :: rest
    else (k, v) :: insertNew key value rest

/-- The dictionary of a list of bindings; a later binding of a key replaces an earlier one. -/
def ofList (entries : List (String × α)) : Dictionary α :=
  entries.foldr (fun (key, value) rest => insertNew key value rest) []

def mapValues (f : α → β) (entries : Dictionary α) : Dictionary β :=
  entries.map fun (key, value) => (key, f value)

end Dictionary

end DocumentQuery
