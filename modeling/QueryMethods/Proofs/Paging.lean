/-
Paging a statement. A dialect writes its clause around what it keeps of the statement, and what it
does not keep is the leading SELECT. The markers of the clause all stand on one side of the markers
of the query, the side on which the bounds are bound.
-/
import QueryMethods.Paging
import QueryMethods.Proofs.Sql.Markers
import QueryMethods.Proofs.Text.Blank

namespace QueryMethods

open Sql Text

/-- The number of markers of a page. -/
def pageMarkers (skips : Bool) : Nat := if skips then 2 else 1

theorem Page.length_bindValues (b : Page) (s : PagingStrategy) :
    (b.bindValues s).length = pageMarkers b.skips := by
  unfold Page.bindValues pageMarkers
  cases b.skips with
  | true =>
    rw [if_pos rfl, if_pos rfl]
    dsimp only
    split <;> rfl
  | false => rfl

namespace Dialect

/-! ## What is written around a statement -/

/-- Whether the clause goes behind the leading SELECT of the statement itself. -/
def entersSelect (d : Dialect) (sql : List Char) : Bool :=
  d.strategy.bindBeforeQuery && isSelect ((trimStart sql).take 6)

/-- What of a statement is kept. -/
def kept (d : Dialect) (sql : List Char) : List Char :=
  if d.entersSelect sql then (trimStart sql).drop 6 else sql

/-- What is written around a statement for a clause behind SELECT. -/
def selectFrame (enters : Bool) (clause : String) : String × String :=
  if enters then ("SELECT " ++ clause, "") else ("SELECT " ++ clause ++ " * FROM (", ") q_")

/-- What is written before and behind what is kept. -/
def frame (d : Dialect) (skips enters : Bool) : String × String :=
  match d, skips with
  | standard, true => ("", " LIMIT ? OFFSET ?")
  | standard, false => ("", " LIMIT ?")
  | mySql, true => ("", " LIMIT ?, ?")
  | mySql, false => ("", " LIMIT ?")
  | sqlServer, true => ("", " OFFSET ? ROWS FETCH NEXT ? ROWS ONLY")
  | sqlServer, false => ("", " OFFSET 0 ROWS FETCH NEXT ? ROWS ONLY")
  | firebird, true => selectFrame enters "FIRST ? SKIP ?"
  | informix, true => selectFrame enters "SKIP ? FIRST ?"
  | firebird, false => selectFrame enters "FIRST ?"
  | informix, false => selectFrame enters "FIRST ?"
  | oracle, true =>
    ("SELECT * FROM (SELECT q_.*, ROWNUM rn_ FROM (", ") q_ WHERE ROWNUM <= ?) WHERE rn_ > ?")
  | oracle, false => ("SELECT * FROM (", ") WHERE ROWNUM <= ?")

theorem behindSelect_eq (sql clause : String) :
    let enters := isSelect ((trimStart sql.toList).take 6)
    (behindSelect sql clause).toList = (selectFrame enters clause).1.toList ++
      (if enters then (trimStart sql.toList).drop 6 else sql.toList) ++
      (selectFrame enters clause).2.toList := by
  intro enters
  unfold behindSelect selectFrame
  cases h : isSelect ((trimStart sql.toList).take 6) with
  | true => simp [enters, h]
  | false => simp [enters, h]

theorem paginate_eq (d : Dialect) (sql : String) (skips : Bool) :
    let around := d.frame skips (d.entersSelect sql.toList)
    (d.paginate sql skips).toList =
      around.1.toList ++ d.kept sql.toList ++ around.2.toList := by
  intro around
  have wraps (h : d.strategy.bindBeforeQuery = false) :
      d.kept sql.toList = sql.toList := by simp [kept, entersSelect, h]
  have enters (h : d.strategy.bindBeforeQuery = true) :
      d.entersSelect sql.toList = isSelect ((trimStart sql.toList).take 6) := by
    rw [entersSelect, h, Bool.true_and]
  unfold around
  cases d with
  | standard | mySql | sqlServer =>
    rw [wraps rfl]
    cases skips <;> exact String.toList_append
  | oracle =>
    rw [wraps rfl]
    cases skips <;> exact String.toList_append.trans (congrArg (· ++ _) String.toList_append)
  | firebird =>
    rw [kept, enters rfl]
    cases skips with
    | true => exact behindSelect_eq sql "FIRST ? SKIP ?"
    | false => exact behindSelect_eq sql "FIRST ?"
  | informix =>
    rw [kept, enters rfl]
    cases skips with
    | true => exact behindSelect_eq sql "SKIP ? FIRST ?"
    | false => exact behindSelect_eq sql "FIRST ?"

/-! ## Markers -/

theorem plain_of_not_mem {cs : List Char} (h : '\'' ∉ cs ∧ '/' ∉ cs) :
    ∀ c ∈ cs, c ≠ '\'' ∧ c ≠ '/' :=
  fun _ hc => ⟨ne_of_mem_of_not_mem hc h.1, ne_of_mem_of_not_mem hc h.2⟩

/-- What is written around a statement has neither quotes nor slashes, does not close what the
statement leaves open, and has the markers of the page on one side. -/
theorem frame_plain (d : Dialect) (skips enters : Bool) :
    ('\'' ∉ (d.frame skips enters).1.toList ∧ '/' ∉ (d.frame skips enters).1.toList) ∧
    ('\'' ∉ (d.frame skips enters).2.toList ∧ '/' ∉ (d.frame skips enters).2.toList) ∧
    (d.frame skips enters).2.toList.head? ≠ some '*' ∧
    (d.frame skips enters).1.toList.count '?' =
      (if d.strategy.bindBeforeQuery then pageMarkers skips else 0) ∧
    (d.frame skips enters).2.toList.count '?' =
      if d.strategy.bindBeforeQuery then 0 else pageMarkers skips := by
  cases d <;> cases skips <;> cases enters <;> decide +kernel

theorem isSelect_ne {cs : List Char} (h : isSelect cs = true) :
    ∀ c ∈ cs, c ≠ '\'' ∧ c ≠ '/' ∧ c ≠ '?' := by
  intro c hc
  have letter := List.mem_map_of_mem (f := BuiltinType.lowerAscii) hc
  rw [of_decide_eq_true h] at letter
  refine ⟨?_, ?_, ?_⟩ <;> rintro rfl <;> exact absurd letter (by decide)

/-- What of a statement is not kept is white space and the leading SELECT. -/
theorem kept_of_lead (d : Dialect) (sql : List Char) :
    ∃ lead, sql = lead ++ d.kept sql ∧ ∀ c ∈ lead, c ≠ '\'' ∧ c ≠ '/' ∧ c ≠ '?' := by
  unfold kept
  cases enters : d.entersSelect sql with
  | false => exact ⟨[], rfl, by simp⟩
  | true =>
    rw [if_pos rfl]
    have select : isSelect ((trimStart sql).take 6) = true := (Bool.and_eq_true_iff.1 enters).2
    obtain ⟨blanks, whole, blank⟩ := trimStart_append sql
    refine ⟨blanks ++ (trimStart sql).take 6, ?_, fun c hc => ?_⟩
    · rw [List.append_assoc, List.take_append_drop, ← whole]
    · rcases List.mem_append.1 hc with hc | hc
      · exact isBlank_ne (blank c hc)
      · exact isSelect_ne select c hc

/-- The leading SELECT is passed in code and has no markers. -/
theorem kept_in_code (d : Dialect) (sql : List Char) :
    SqlMode.code.after (d.kept sql) = SqlMode.code.after sql ∧
      countMarkers .code (d.kept sql) = countMarkers .code sql := by
  obtain ⟨lead, whole, leading⟩ := d.kept_of_lead sql
  have code : SqlMode.code.after lead = .code :=
    SqlMode.after_code fun c hc => ⟨(leading c hc).1, (leading c hc).2.1⟩
  have none : countMarkers .code lead = 0 :=
    countMarkers_of_not_mem (fun hm => (leading _ hm).2.2 rfl) .code
  have after := congrArg SqlMode.code.after whole
  have count := congrArg (countMarkers .code) whole
  rw [SqlMode.after_append, code] at after
  rw [countMarkers_append, code, none, Nat.zero_add] at count
  exact ⟨after.symm, count.symm⟩

/-- A statement that ends in code gets the markers of its page, all on the side on which the bounds
are bound, and keeps its own. -/
theorem paginate_markers (d : Dialect) {sql : String} (skips : Bool)
    (ends : (SqlMode.code.after sql.toList).isCode = true) : ∃ front query back,
      (d.paginate sql skips).toList = front ++ query ++ back ∧
      SqlMode.code.after front = .code ∧
      countMarkers .code front = (if d.strategy.bindBeforeQuery then pageMarkers skips else 0) ∧
      countMarkers .code query = markerCount sql ∧
      countMarkers (SqlMode.code.after query) back =
        if d.strategy.bindBeforeQuery then 0 else pageMarkers skips := by
  obtain ⟨front, back, star, before, behind⟩ := d.frame_plain skips (d.entersSelect sql.toList)
  obtain ⟨after, count⟩ := d.kept_in_code sql.toList
  refine ⟨_, _, _, d.paginate_eq sql skips,
    SqlMode.after_code (plain_of_not_mem front), ?_, count, ?_⟩
  · exact (countMarkers_code (m := .code) (plain_of_not_mem front) rfl nofun).trans before
  · rw [after]
    exact (countMarkers_code (plain_of_not_mem back) ends fun _ => star).trans behind

end Dialect

end QueryMethods
