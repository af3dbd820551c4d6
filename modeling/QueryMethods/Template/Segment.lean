/-
The segments of a template text: single characters, escaped braces, literals, comments and
placeholders. The scan reads left to right, reports the first fault with its offset in bytes, and
loses nothing: the segments' sources put together are the text.
-/
import QueryMethods.Template.Placeholder

namespace QueryMethods

open Text

/-! ## Faults -/

/-- Why a text is no template. -/
inductive TemplateFault where
  | bareMarker
  | unmatchedBrace
  | unterminatedPlaceholder
  | unterminatedLiteral
  | placeholder (fault : PlaceholderFault) (body : String)
  deriving DecidableEq, Repr, Inhabited

/-- A fault and where it lies, in bytes from the start of the text. -/
structure TemplateFailure where
  offset : Nat
  fault : TemplateFault
  deriving DecidableEq, Repr, Inhabited

/-- What is said about the fault. -/
def TemplateFault.message : TemplateFault → String
  | bareMarker => "bind marker '?' outside a placeholder"
  | unmatchedBrace => "unmatched '\x7d'"
  | unterminatedPlaceholder => "unterminated placeholder"
  | unterminatedLiteral => "unterminated string literal"
  | placeholder fault body => fault.message ++ ": \x7b" ++ body ++ "\x7d"

/-- The fault and its place. -/
def TemplateFailure.message (e : TemplateFailure) : String :=
  e.fault.message ++ " at offset " ++ toString e.offset

/-! ## Segments -/

/-- A piece of a template text. -/
inductive Segment where
  | plain (c : Char)
  /-- A backslash and the brace it stands before. The brace is missing when it is the closing
  bracket of a call, which is kept elsewhere. -/
  | escape (brace : Option Char)
  | literal (body : List Char)
  | comment (body : List Char) (closed : Bool)
  | placeholder (body : List Char) (meaning : Placeholder)
  deriving DecidableEq, Repr

namespace Segment

/-- The text that the segment was read from. -/
def source : Segment → List Char
  | plain c => [c]
  | escape brace => '\\' :: brace.toList
  | literal body => '\'' :: body ++ ['\'']
  | comment body closed => '/' :: '*' :: body ++ (if closed then ['*', '/'] else [])
  | placeholder body _ => '{' :: body ++ ['}']

/-! ## Ends -/

/-- The inside of a comment and what follows its end; an open comment runs to the end. -/
def commentBody : List Char → List Char × Option (List Char)
  | [] => ([], none)
  | '*' :: '/' :: rest => ([], some rest)
  | c :: rest => (c :: (commentBody rest).1, (commentBody rest).2)

theorem commentBody_eq (cs : List Char) :
    cs = (commentBody cs).1 ++
      (match (commentBody cs).2 with | some rest => '*' :: '/' :: rest | none => []) := by
  fun_induction commentBody cs with
  | case1 => rfl
  | case2 => rfl
  | case3 c rest _ ih => rw [List.cons_append, ← ih]

/-- The inside of a placeholder and what follows its closing brace. A separator between number
signs may hold braces. -/
def placeholderBody? (cs : List Char) : Option (List Char × List Char) :=
  match cs.dropWhile isBlank with
  | '#' :: rest => do
    let (between, rest) ← Placeholder.splitAt? '#' rest
    let (tail, rest) ← Placeholder.splitAt? '}' rest
    some (cs.takeWhile isBlank ++ '#' :: between ++ '#' :: tail, rest)
  | rest => do
    let (tail, rest) ← Placeholder.splitAt? '}' rest
    some (cs.takeWhile isBlank ++ tail, rest)

theorem placeholderBody?_eq {cs body rest : List Char}
    (h : placeholderBody? cs = some (body, rest)) : cs = body ++ '}' :: rest := by
  have split := List.takeWhile_append_dropWhile (p := isBlank) (l := cs)
  unfold placeholderBody? at h
  split at h
  · next after heq =>
    simp only [Option.bind_eq_bind, Option.bind_eq_some_iff, Option.some.injEq, Prod.mk.injEq,
      Prod.exists] at h
    obtain ⟨b, r, h1, t, r', h2, rfl, rfl⟩ := h
    have e1 := Placeholder.splitAt?_eq h1
    have e2 := Placeholder.splitAt?_eq h2
    exact split.symm.trans (by rw [heq, e1, e2]; simp)
  · next after heq =>
    simp only [Option.bind_eq_bind, Option.bind_eq_some_iff, Option.some.injEq, Prod.mk.injEq,
      Prod.exists] at h
    obtain ⟨t, r', h2, rfl, rfl⟩ := h
    have e2 := Placeholder.splitAt?_eq h2
    exact split.symm.trans (by rw [e2]; simp)

/-! ## The scan -/

/-- The segments of a text that starts at `offset`. `bracketed` says that the closing bracket of
a call follows the text. -/
def scan (bracketed : Bool) (offset : Nat) (cs : List Char) :
    Except TemplateFailure (List Segment) :=
  match cs with
  | [] => .ok []
  | '\'' :: rest =>
    match _h : Placeholder.splitAt? '\'' rest with
    | some (body, after) => do
      let segments ← scan bracketed (offset + byteLength body + 2) after
      .ok (.literal body :: segments)
    | none => .error ⟨offset + byteLength cs, .unterminatedLiteral⟩
  | '/' :: '*' :: rest =>
    match _h : commentBody rest with
    | (body, some after) => do
      let segments ← scan bracketed (offset + byteLength body + 4) after
      .ok (.comment body true :: segments)
    | (body, none) => .ok [.comment body false]
  | '\\' :: c :: rest =>
    if c = '{' || c = '}' then do
      let segments ← scan bracketed (offset + 2) rest
      .ok (.escape (some c) :: segments)
    else do
      let segments ← scan bracketed (offset + 1) (c :: rest)
      .ok (.plain '\\' :: segments)
  | ['\\'] => .ok [if bracketed then .escape none else .plain '\\']
  | '?' :: _ => .error ⟨offset, .bareMarker⟩
  | '}' :: _ => .error ⟨offset, .unmatchedBrace⟩
  | '{' :: rest =>
    match _h : placeholderBody? rest with
    | none => .error ⟨offset, .unterminatedPlaceholder⟩
    | some (body, after) =>
      match Placeholder.ofBody body with
      | .error fault => .error ⟨offset + 1, .placeholder fault (String.ofList body)⟩
      | .ok meaning => do
        let segments ← scan bracketed (offset + byteLength body + 2) after
        .ok (.placeholder body meaning :: segments)
  | c :: rest => do
    let segments ← scan bracketed (offset + c.utf8Size) rest
    .ok (.plain c :: segments)
termination_by cs.length
decreasing_by
  · have := congrArg List.length (Placeholder.splitAt?_eq _h)
    simp at this ⊢
    omega
  · have := congrArg List.length (commentBody_eq rest)
    rw [_h] at this
    simp at this ⊢
    omega
  · simp only [List.length_cons]; omega
  · simp
  · have := congrArg List.length (placeholderBody?_eq _h)
    simp at this ⊢
    omega
  · simp

end Segment

end QueryMethods
