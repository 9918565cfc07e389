import LeaseBook.Net.Address

/-!
Records filed under addresses, in the order of filing. Filing under an address that has a record
replaces it in its place.
-/

namespace LeaseBook

structure Roster (α : Type) where
  entries : List (Address × α)

namespace Roster

variable {α : Type}

def empty : Roster α := ⟨[]⟩

def addresses (r : Roster α) : List Address := r.entries.map Prod.fst

def records (r : Roster α) : List α := r.entries.map Prod.snd

def find? (r : Roster α) (a : Address) : Option α :=
  (r.entries.find? fun e => e.1 == a).map Prod.snd

def contains (r : Roster α) (a : Address) : Bool :=
  r.entries.any fun e => e.1 == a

def putEntry (a : Address) (record : α) : List (Address × α) → List (Address × α)
  | [] => [(a, record)]
  | e :: rest => if e.1 = a then (a, record) :: rest else e :: putEntry a record rest

/-- Files a record: in the place of the one under its address, or last. -/
def put (r : Roster α) (a : Address) (record : α) : Roster α :=
  ⟨putEntry a record r.entries⟩

def erase (r : Roster α) (a : Address) : Roster α :=
  ⟨r.entries.filter fun e => e.1 != a⟩

def filter (r : Roster α) (keep : Address → α → Bool) : Roster α :=
  ⟨r.entries.filter fun e => keep e.1 e.2⟩

/-- Strikes entries with a property out of a list one after the other, and leaves it at that behind
the first of them that ends it. -/
def strikeEntries (gone : Address → α → Bool) (ends : α → Bool) :
    List (Address × α) → List (Address × α)
  | [] => []
  | e :: rest =>
    if gone e.1 e.2 then if ends e.2 then rest else strikeEntries gone ends rest
    else e :: strikeEntries gone ends rest

def strike (r : Roster α) (gone : Address → α → Bool) (ends : α → Bool) : Roster α :=
  ⟨strikeEntries gone ends r.entries⟩

/-- The oldest address with a property, and the entries behind it. -/
def cutEntries (p : Address → Bool) :
    List (Address × α) → Option (Address × List (Address × α))
  | [] => none
  | e :: rest => if p e.1 then some (e.1, rest) else cutEntries p rest

/-- The oldest address with a property, and the roster without it and all that are older. -/
def cut? (r : Roster α) (p : Address → Bool) : Option (Address × Roster α) :=
  (cutEntries p r.entries).map fun found => (found.1, ⟨found.2⟩)

end Roster
end LeaseBook
