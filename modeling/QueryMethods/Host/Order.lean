/-
The order of contents: nothing comes before something, values by their own order, beans by their
members in turn. Ordered collections drop what is already there.
-/
import QueryMethods.Bean.Basic

namespace QueryMethods

namespace Content

/-- Texts are in the order of their code points. -/
def compareChars : List Char → List Char → Ordering
  | [], [] => .eq
  | [], _ :: _ => .lt
  | _ :: _, [] => .gt
  | a :: as, b :: bs => (Ord.compare a.toNat b.toNat).then (compareChars as bs)

def compareText (a b : String) : Ordering := compareChars a.toList b.toList

def compareAtom : Atom → Atom → Ordering
  | .integer a, .integer b => Ord.compare a b
  | .text a, .text b => compareText a b
  | .integer _, .text _ => .lt
  | .text _, .integer _ => .gt

def compareAtoms : List Atom → List Atom → Ordering
  | [], [] => .eq
  | [], _ :: _ => .lt
  | _ :: _, [] => .gt
  | a :: as, b :: bs => (compareAtom a b).then (compareAtoms as bs)

/-- Values of one kind; other pairs do not meet in a collection. -/
def compareValue : Value → Value → Ordering
  | .bool a, .bool b => Ord.compare a.toNat b.toNat
  | .byte a, .byte b => Ord.compare a.toInt b.toInt
  | .short a, .short b => Ord.compare a.toInt b.toInt
  | .int a, .int b => Ord.compare a.toInt b.toInt
  | .long a, .long b => Ord.compare a.toInt b.toInt
  | .char a, .char b => Ord.compare a.toNat b.toNat
  | .string a, .string b => compareText a b
  | .date a, .date b => a.compare b
  | .time a, .time b => a.compare b
  | .timestamp a, .timestamp b => a.compare b
  | .custom a, .custom b => compareAtoms (a.fields.map (·.2)) (b.fields.map (·.2))
  | _, _ => .eq

mutual

/-- Contents of one type. -/
def compare : Content → Content → Ordering
  | absent, absent => .eq
  | absent, _ => .lt
  | _, absent => .gt
  | value a, value b => compareValue a b
  | unsigned a, unsigned b => Ord.compare a.toNat b.toNat
  | bean _ as, bean _ bs => compareAll as bs
  | _, _ => .eq

/-- Members in turn. -/
def compareAll : List Content → List Content → Ordering
  | [], [] => .eq
  | [], _ :: _ => .lt
  | _ :: _, [] => .gt
  | a :: as, b :: bs => (compare a b).then (compareAll as bs)

end

/-- Put an entry into a list in key order; an entry of the same key is replaced. -/
def insertByKey {α : Type} (key : Content) (entry : α) :
    List (Content × α) → List (Content × α)
  | [] => [(key, entry)]
  | (k, old) :: rest =>
    match compare key k with
    | .lt => (key, entry) :: (k, old) :: rest
    | .eq => (k, entry) :: rest
    | .gt => (k, old) :: insertByKey key entry rest

/-- The entries in key order, of each key the last one. -/
def sortByKey {α : Type} (entries : List (Content × α)) : List (Content × α) :=
  entries.foldl (fun sorted (key, entry) => insertByKey key entry sorted) []

/-- The distinct contents, in order. -/
def sortDistinct (contents : List Content) : List Content :=
  (sortByKey (contents.map fun c => (c, ()))).map (·.1)

end Content

end QueryMethods
