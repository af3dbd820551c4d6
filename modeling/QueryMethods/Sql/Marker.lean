/-
Bind markers of a statement text: question marks outside comments and literals. A comment runs
from `/*` to the next `*/`, a literal from one quote to the next; what is not closed runs to the
end of the text. A reader in one of five modes passes over the text once.
-/

namespace QueryMethods

/-! ## Modes -/

/-- Where a reader of statement text stands. -/
inductive SqlMode where
  | code
  /-- Right behind a slash in code. -/
  | slash
  | comment
  /-- Right behind a star in a comment. -/
  | commentStar
  | literal
  deriving DecidableEq, Repr, Inhabited

namespace SqlMode

/-- The mode behind the next character. -/
def next (m : SqlMode) (c : Char) : SqlMode :=
  match m with
  | code => if c = '\'' then literal else if c = '/' then slash else code
  | slash =>
    if c = '*' then comment else if c = '\'' then literal else if c = '/' then slash else code
  | comment => if c = '*' then commentStar else comment
  | commentStar => if c = '/' then code else if c = '*' then commentStar else comment
  | literal => if c = '\'' then code else literal

/-- The mode behind a text. -/
def after (m : SqlMode) (cs : List Char) : SqlMode := cs.foldl next m

/-- Whether a character met in this mode is neither in a comment nor in a literal. -/
def isCode (m : SqlMode) : Bool := m = code || m = slash

/-- Whether a character met in this mode is a bind marker. -/
def isMarker (m : SqlMode) (c : Char) : Bool := c = '?' && m.isCode

@[simp] theorem after_nil (m : SqlMode) : m.after [] = m := rfl

@[simp] theorem after_cons (m : SqlMode) (c : Char) (cs : List Char) :
    m.after (c :: cs) = (m.next c).after cs := rfl

theorem after_append (m : SqlMode) (a b : List Char) : m.after (a ++ b) = (m.after a).after b := by
  simp [after]

end SqlMode

namespace Sql

/-! ## Counting and finding -/

/-- The number of markers in a text read from mode `m`. -/
def countMarkers (m : SqlMode) : List Char → Nat
  | [] => 0
  | c :: rest => (if m.isMarker c then 1 else 0) + countMarkers (m.next c) rest

theorem countMarkers_append (m : SqlMode) (a b : List Char) :
    countMarkers m (a ++ b) = countMarkers m a + countMarkers (m.after a) b := by
  induction a generalizing m with
  | nil => simp [countMarkers]
  | cons c rest ih => simp [countMarkers, ih, Nat.add_assoc]

/-- The number of markers in a text. -/
def markerCount (sql : String) : Nat := countMarkers .code sql.toList

/-- The text before the marker with that ordinal, counted from 0, and the text behind it. -/
def splitAtMarker? (m : SqlMode) : Nat → List Char → Option (List Char × List Char)
  | _, [] => none
  | n, c :: rest =>
    if m.isMarker c then
      match n with
      | 0 => some ([], rest)
      | n + 1 => (splitAtMarker? (m.next c) n rest).map fun (a, b) => (c :: a, b)
    else (splitAtMarker? (m.next c) n rest).map fun (a, b) => (c :: a, b)

theorem splitAtMarker?_eq {m : SqlMode} {n : Nat} {cs a b : List Char}
    (h : splitAtMarker? m n cs = some (a, b)) : cs = a ++ '?' :: b := by
  induction cs generalizing m n a with
  | nil => simp [splitAtMarker?] at h
  | cons c rest ih =>
    rw [splitAtMarker?.eq_def] at h
    simp only at h
    split at h
    · next hc =>
      have hq : c = '?' := by
        have := hc
        simp only [SqlMode.isMarker, Bool.and_eq_true, decide_eq_true_eq] at this
        exact this.1
      split at h
      · cases h; simp [hq]
      · obtain ⟨⟨a', b'⟩, hs, he⟩ := Option.map_eq_some_iff.mp h
        cases he
        simp [ih hs]
    · obtain ⟨⟨a', b'⟩, hs, he⟩ := Option.map_eq_some_iff.mp h
      cases he
      simp [ih hs]

/-! ## Replacing -/

/-- So many markers with a separator between each two. -/
def joinedMarkers (separator : List Char) : Nat → List Char
  | 0 => []
  | 1 => ['?']
  | n + 2 => '?' :: separator ++ joinedMarkers separator (n + 1)

/-- Put `count` markers, joined by the separator, in the place of the marker with that ordinal,
counted from 1. A text without such a marker stays as it is. -/
def replaceMarker (sql : String) (ordinal count : Nat) (separator : String) : String :=
  match ordinal with
  | 0 => sql
  | n + 1 =>
    match splitAtMarker? .code n sql.toList with
    | some (before, after) =>
      String.ofList (before ++ joinedMarkers separator.toList count ++ after)
    | none => sql

end Sql

end QueryMethods
