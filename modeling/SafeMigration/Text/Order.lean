/-!
The order of texts by code point, which is also the order of their UTF-8 bytes, and lists of
entries kept in that order by key.
-/

namespace SafeMigration

namespace Text

/-- Compares two lists of characters by the code points of the first place where they differ. -/
def precedesChars : List Char → List Char → Bool
  | [], [] => false
  | [], _ :: _ => true
  | _ :: _, [] => false
  | a :: as, b :: bs =>
    if a.toNat.blt b.toNat then true
    else if b.toNat.blt a.toNat then false
    else precedesChars as bs

/-- The order of keys: by code point, a text before its own continuations. -/
def precedes (a b : String) : Bool := precedesChars a.toList b.toList

end Text

/-- Entries under distinct keys, in the order of the keys. -/
abbrev Entries (α : Type) := List (String × α)

namespace Entries

variable {α : Type}

/-- The value under a key. -/
def get? (entries : Entries α) (key : String) : Option α :=
  match entries with
  | [] => none
  | (k, v) :: rest => if k = key then some v else get? rest key

/-- Whether a key has a value. -/
def has (entries : Entries α) (key : String) : Bool := (get? entries key).isSome

/-- Puts a value under a key at its place in the order; a value already there is replaced. -/
def put (entries : Entries α) (key : String) (value : α) : Entries α :=
  match entries with
  | [] => [(key, value)]
  | (k, v) :: rest =>
    if k = key then (key, value) :: rest
    else if Text.precedes key k then (key, value) :: (k, v) :: rest
    else (k, v) :: put rest key value

/-- Collects pairs into entries; of two values under one key the later stays. -/
def ofPairs (pairs : List (String × α)) : Entries α :=
  pairs.foldl (fun entries pair => put entries pair.1 pair.2) []

/-- The entries whose key is not among those named. -/
def without (entries : Entries α) (keys : List String) : Entries α :=
  entries.filter fun entry => !keys.contains entry.1

/-- The keys, in order. -/
def keys (entries : Entries α) : List String := entries.map (·.1)

end Entries

end SafeMigration
