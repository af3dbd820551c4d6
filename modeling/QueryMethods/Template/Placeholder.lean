/-
Placeholders of a template: what one can say, and how its body is read. A body names either a
parameter (`%` and a position or a name) or a result (`%%`), with an optional separator and type
tag in front and an optional field path behind.
-/
import QueryMethods.Text.Basic

namespace QueryMethods

open Text

/-! ## Meaning -/

/-- A type name written in front of a target; a question mark admits null. -/
structure Tag where
  name : String
  nullable : Bool
  deriving DecidableEq, Repr, Inhabited

/-- How a parameter names its argument. -/
inductive ArgumentSelector where
  /-- The argument at that position, counted from 0. -/
  | position (index : Nat)
  | name (name : String)
  deriving DecidableEq, Repr, Inhabited

/-- Where a result goes. -/
inductive ResultPlace where
  /-- The field at the end of the path; the whole value if there is no path. -/
  | value (path : List String)
  /-- A constructor parameter, counted from 1. -/
  | slot (number : Nat)
  /-- The key of a map entry. -/
  | key
  deriving DecidableEq, Repr, Inhabited

/-- What a placeholder says. -/
inductive Placeholder where
  | parameter (argument : ArgumentSelector) (path : List String) (tag : Option Tag)
      (separator : Option String)
  | result (place : ResultPlace) (tag : Option Tag)
  deriving DecidableEq, Repr, Inhabited

/-- Why a body is no placeholder. -/
inductive PlaceholderFault where
  | empty
  | unterminatedSeparator
  | missingTarget
  | invalidTag
  | separatorOnResult
  | untaggedSlot
  | textAfterSlot
  | invalidSlot
  | emptyField
  | keyAfterPath
  | textAfterResult
  | invalidPosition
  | keyOnParameter
  | textAfterParameter
  deriving DecidableEq, Repr, Inhabited

/-- What is said about the fault. -/
def PlaceholderFault.message : PlaceholderFault → String
  | empty => "empty placeholder"
  | unterminatedSeparator => "unterminated separator"
  | missingTarget => "missing argument index or name"
  | invalidTag => "invalid type tag"
  | separatorOnResult => "separator applies to parameters only"
  | untaggedSlot => "constructor slot requires a type tag"
  | textAfterSlot => "unexpected text after constructor slot"
  | invalidSlot => "invalid constructor slot"
  | emptyField => "empty field name in path"
  | keyAfterPath => "map key marker cannot follow a field path"
  | textAfterResult => "unexpected text after result target"
  | invalidPosition => "argument index must be at least 1"
  | keyOnParameter => "map key marker applies to results only"
  | textAfterParameter => "unexpected text after parameter target"

namespace Placeholder

/-! ## Parts of a body -/

/-- Letters, digits and the underscore, of the ASCII alphabet. -/
def isNameChar (c : Char) : Bool := c.isAlphanum || c = '_'

/-- What a type tag may hold. -/
def isTagChar (c : Char) : Bool := isNameChar c || c = ':' || c = '.' || c = '-'

/-- Positions and slots run from 1 to the largest 64-bit number. -/
def ordinal? (ds : List Char) : Option Nat :=
  let n := digitsValue ds
  if 1 ≤ n ∧ n < UInt64.size then some n else none

/-- The text before the first `stop` and the text after it. -/
def splitAt? (stop : Char) : List Char → Option (List Char × List Char)
  | [] => none
  | c :: rest =>
    if c = stop then some ([], rest)
    else (splitAt? stop rest).map fun (before, after) => (c :: before, after)

theorem splitAt?_eq {stop : Char} {cs before after : List Char}
    (h : splitAt? stop cs = some (before, after)) : cs = before ++ stop :: after := by
  induction cs generalizing before with
  | nil => simp [splitAt?] at h
  | cons c rest ih =>
    rw [splitAt?] at h
    split at h
    · next hc => cases h; simp [hc]
    · obtain ⟨⟨b, a⟩, hs, he⟩ := Option.map_eq_some_iff.mp h
      cases he
      simp [ih hs]

/-- A separator between number signs, if the body starts with one, and the rest. -/
def separator (cs : List Char) : Except PlaceholderFault (Option String × List Char) :=
  match cs with
  | '#' :: rest =>
    match splitAt? '#' rest with
    | some (between, after) => .ok (some (String.ofList between), trimStart after)
    | none => .error .unterminatedSeparator
  | cs => .ok (none, cs)

/-- The tag that a word in front of the target spells. -/
def tagOfWord (word : List Char) : Except PlaceholderFault Tag :=
  let nullable := word.getLast? = some '?'
  let name := if nullable then word.dropLast else word
  if name ≠ [] ∧ name.all isTagChar then .ok ⟨String.ofList name, nullable⟩
  else .error .invalidTag

/-- A type tag, if the target does not come first, and the target without its first sign. -/
def tag (cs : List Char) : Except PlaceholderFault (Option Tag × List Char) :=
  match cs with
  | '%' :: target => .ok (none, target)
  | cs =>
    match cs.dropWhile (fun c => !isBlank c) with
    | [] => .error .missingTarget
    | rest => do
      let t ← tagOfWord (cs.takeWhile fun c => !isBlank c)
      match trimStart rest with
      | '%' :: target => .ok (some t, target)
      | _ => .error .missingTarget

/-- The names of a path, each after a point, and the text behind it. -/
def path (cs : List Char) : Except PlaceholderFault (List String × List Char) :=
  match cs with
  | '.' :: rest =>
    match rest.takeWhile isNameChar with
    | [] => .error .emptyField
    | name => do
      let (names, rest) ← path (rest.dropWhile isNameChar)
      .ok (String.ofList name :: names, rest)
  | cs => .ok ([], cs)
termination_by cs.length
decreasing_by
  have := (List.dropWhile_sublist isNameChar (l := rest)).length_le
  simp only [List.length_cons]
  omega

/-! ## Targets -/

/-- A result target, after its two signs. -/
def resultTarget (tag : Option Tag) (cs : List Char) : Except PlaceholderFault Placeholder :=
  match cs.takeWhile Char.isDigit with
  | [] => do
    let (names, rest) ← path cs
    match trim rest with
    | [] => .ok (.result (.value names) tag)
    | [',', '%', '*'] =>
      if names = [] then .ok (.result .key tag) else .error .keyAfterPath
    | _ => .error .textAfterResult
  | ds =>
    if tag = none then .error .untaggedSlot
    else if trimEnd cs ≠ ds then .error .textAfterSlot
    else
      match ordinal? ds with
      | some n => .ok (.result (.slot n) tag)
      | none => .error .invalidSlot

/-- The argument a parameter target names, after its sign, and the text behind it. -/
def argument (cs : List Char) : Except PlaceholderFault (ArgumentSelector × List Char) :=
  match cs.takeWhile Char.isDigit with
  | [] =>
    match cs.takeWhile isNameChar with
    | [] => .error .missingTarget
    | name => .ok (.name (String.ofList name), cs.dropWhile isNameChar)
  | ds =>
    match ordinal? ds with
    | some n => .ok (.position (n - 1), cs.dropWhile Char.isDigit)
    | none => .error .invalidPosition

/-- A parameter target, after its sign. -/
def parameterTarget (separator : Option String) (tag : Option Tag) (cs : List Char) :
    Except PlaceholderFault Placeholder := do
  let (argument, rest) ← argument cs
  let (names, rest) ← path rest
  match trim rest with
  | [] => .ok (.parameter argument names tag separator)
  | [',', '%', '*'] => .error .keyOnParameter
  | _ => .error .textAfterParameter

/-- Read the body of a placeholder. -/
def ofBody (body : List Char) : Except PlaceholderFault Placeholder :=
  match trim body with
  | [] => .error .empty
  | cs => do
    let (separator, cs) ← separator cs
    let (tag, target) ← tag cs
    match target with
    | '%' :: target =>
      if separator.isSome then .error .separatorOnResult else resultTarget tag target
    | target => parameterTarget separator tag target

end Placeholder

end QueryMethods
