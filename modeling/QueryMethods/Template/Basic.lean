/-
Templates: SQL text with placeholders, read into statement text with bind markers and the
parameters and results in order. A parameter becomes a marker. A result is taken out of plain
text and numbered by column; in a call it is an OUT parameter and takes a marker too.
-/
import QueryMethods.Template.Segment

namespace QueryMethods

open Text

/-! ## Read templates -/

/-- A parameter of a template. -/
structure Template.Parameter where
  /-- The marker that stands for it, counted from 1. -/
  slot : Nat
  argument : ArgumentSelector
  path : List String
  tag : Option Tag
  /-- What goes between the markers of a list. -/
  separator : String
  deriving DecidableEq, Repr, Inhabited

/-- A result of a template. -/
structure Template.Result where
  /-- The column, or the marker of an OUT parameter, counted from 1. -/
  slot : Nat
  place : ResultPlace
  tag : Option Tag
  deriving DecidableEq, Repr, Inhabited

/-- A template that has been read. -/
structure Template where
  sql : String
  parameters : List Template.Parameter
  results : List Template.Result
  deriving DecidableEq, Repr, Inhabited

/-- How the outer braces of a text are taken. -/
inductive TemplateForm where
  | plain
  /-- Outer braces are the brackets of a procedure call and belong to the text. -/
  | call
  deriving DecidableEq, Repr

/-! ## Assembly -/

/-- What a segment other than a placeholder leaves in the statement text. -/
def Segment.sql : Segment → List Char
  | .escape brace => brace.toList
  | .placeholder _ _ => []
  | s => s.source

/-- Text, parameters and results of a run of segments. -/
structure Template.Parts where
  text : List Char := []
  parameters : List Template.Parameter := []
  results : List Template.Result := []

namespace Template

/-- The separator of lists that name none. -/
def defaultSeparator : String := ","

/-- Number the placeholders, after so many markers and columns, and collect the text. -/
def assemble (form : TemplateForm) : Nat → Nat → List Segment → Parts
  | _, _, [] => {}
  | markers, columns, segment :: rest =>
    match segment with
    | .placeholder _ (.parameter argument path tag separator) =>
      let parts := assemble form (markers + 1) columns rest
      let p : Parameter := ⟨markers + 1, argument, path, tag, separator.getD defaultSeparator⟩
      { parts with text := '?' :: parts.text, parameters := p :: parts.parameters }
    | .placeholder _ (.result place tag) =>
      match form with
      | .plain =>
        let parts := assemble form markers (columns + 1) rest
        { parts with results := ⟨columns + 1, place, tag⟩ :: parts.results }
      | .call =>
        let parts := assemble form (markers + 1) columns rest
        { parts with
          text := '?' :: parts.text
          results := ⟨markers + 1, place, tag⟩ :: parts.results }
    | segment =>
      let parts := assemble form markers columns rest
      { parts with text := segment.sql ++ parts.text }

/-! ## Reading -/

/-- The outer braces of a call and the text between them, if the text has them. -/
def brackets? (cs : List Char) : Option (List Char × List Char × List Char) :=
  match cs.dropWhile isBlank with
  | '{' :: rest =>
    let inner := trimEnd rest
    if inner.getLast? = some '}' then
      some (cs.takeWhile isBlank ++ ['{'], inner.dropLast, '}' :: rest.drop inner.length)
    else none
  | _ => none

/-- Read the part of a text between `before` and `after`, which are kept as they are. -/
def readBetween (form : TemplateForm) (before cs after : List Char) :
    Except TemplateFailure Template := do
  let segments ← Segment.scan (after ≠ []) (byteLength before) cs
  let parts := assemble form 0 0 segments
  .ok ⟨String.ofList (before ++ parts.text ++ after), parts.parameters, parts.results⟩

/-- Read a template. -/
def read (form : TemplateForm) (text : String) : Except TemplateFailure Template :=
  let cs := text.toList
  match form with
  | .plain => readBetween form [] cs []
  | .call =>
    match brackets? cs with
    | some (before, inner, after) => readBetween form before inner after
    | none => readBetween form [] cs []

end Template

end QueryMethods
