/-
The markers of a page, read by the words in front of them. Every dialect writes its clause and
orders its bounds in its own way; read in their roles, the bounds select the same rows.
-/
import QueryMethods.Proofs.Paging

namespace QueryMethods

open Sql Text

/-! ## Roles -/

/-- What the marker of a page bounds. -/
inductive PageRole where
  /-- How many rows are fetched. -/
  | count
  /-- How many rows are skipped. -/
  | skip
  /-- The number of the last row. -/
  | last
  deriving DecidableEq, Repr

namespace PageRole

/-- The words behind which a marker bounds a page. -/
def words : List (List Char × PageRole) :=
  [("LIMIT ?, ".toList, count), ("LIMIT ".toList, count), ("FIRST ".toList, count),
    ("FETCH NEXT ".toList, count), ("OFFSET ".toList, skip), ("SKIP ".toList, skip),
    ("ROWNUM <= ".toList, last), ("rn_ > ".toList, skip)]

/-- The role of the marker at a place. Of two markers behind LIMIT the first says how many rows
are skipped. -/
def read? (place : List Char × List Char) : Option PageRole :=
  if "LIMIT ".toList <:+ place.1 ∧ place.2.head? = some ',' then some skip
  else (words.find? fun word => word.1.isSuffixOf place.1).map Prod.snd

/-- A text that decides every word at its end: none of them is longer and ends in it. -/
def Decides (text : List Char) : Prop :=
  ∀ word ∈ words, text <:+ word.1 → word.1 <:+ text

instance (text : List Char) : Decidable (Decides text) := List.decidableBAll _ words

theorem suffix_append_iff {word front text : List Char} (h : text <:+ word → word <:+ text) :
    word <:+ front ++ text ↔ word <:+ text := by
  constructor
  · intro whole
    rcases List.suffix_or_suffix_of_suffix whole (List.suffix_append front text) with hw | hw
    · exact hw
    · exact h hw
  · exact fun hw => hw.trans (List.suffix_append front text)

/-- Text in front of a place that decides the words does not change the role. -/
theorem read?_within_front {place : List Char × List Char} (h : Decides place.1)
    (front : List Char) : read? (within front [] place) = read? place := by
  have limit : ("LIMIT ".toList <:+ front ++ place.1) = ("LIMIT ".toList <:+ place.1) :=
    propext (suffix_append_iff (h ("LIMIT ".toList, count) (by decide)))
  have word (w : List Char × PageRole) (hw : w ∈ words) :
      w.1.isSuffixOf (front ++ place.1) = w.1.isSuffixOf place.1 :=
    Bool.eq_iff_iff.2 <| by simpa only [List.isSuffixOf_iff_suffix] using suffix_append_iff (h w hw)
  unfold read? within
  rw [List.append_nil]
  simp only [limit]
  rw [List.find?_congr word]

/-- Text behind a place is looked at only behind LIMIT. -/
theorem read?_within_back {place : List Char × List Char} (h : ¬ "LIMIT ".toList <:+ place.1)
    (back : List Char) : read? (within [] back place) = read? place := by
  unfold read? within
  rw [List.nil_append, if_neg fun hl => h hl.1, if_neg fun hl => h hl.1]

/-! ## Bounds -/

/-- The number that a value of a page stands for. -/
def number? : Value → Option Nat
  | .long n => if 0 ≤ n.toInt then some n.toInt.toNat else none
  | _ => none

/-- The role of a marker and the number that is bound to it. -/
def bound? (place : List Char × List Char) (value : Value) : Option (PageRole × Nat) :=
  (read? place).bind fun role => (number? value).map fun n => (role, n)

/-- The bounds of a page, from the markers it adds and the values bound to them in order. -/
def bounds? (places : List (List Char × List Char)) (values : List Value) :
    Option (List (PageRole × Nat)) :=
  (places.zip values).mapM fun pair => bound? pair.1 pair.2

/-- The rows that are left of all rows. The last row counts from the first of all rows, the number
of rows from the first that is not skipped. -/
def select {α : Type} (bounds : List (PageRole × Nat)) (rows : List α) : List α :=
  let upTo := match bounds.lookup last with
    | some n => rows.take n
    | none => rows
  let behind := upTo.drop ((bounds.lookup skip).getD 0)
  match bounds.lookup count with
  | some n => behind.take n
  | none => behind

theorem number?_bindable {n : Nat} (h : n < 2 ^ 63) : number? (Page.bindable n) = some n := by
  have exact : (Int64.ofNat n).toInt = n := Int64.toInt_ofNat_of_lt h
  unfold number? Page.bindable
  simp [exact]

/-- Each marker of a page is bound in its role to the number at its place. -/
theorem bounds?_eq : ∀ {places : List (List Char × List Char)} {roles : List PageRole}
    {numbers : List Nat}, places.map read? = roles.map some → (∀ n ∈ numbers, n < 2 ^ 63) →
    bounds? places (numbers.map Page.bindable) = some (roles.zip numbers)
  | [], [], _, _, _ => by simp [bounds?]
  | place :: places, role :: roles, [], _, _ => by simp [bounds?]
  | place :: places, role :: roles, n :: numbers, reads, small => by
    obtain ⟨first, others⟩ := List.cons.inj reads
    obtain ⟨hn, rest⟩ := List.forall_mem_cons.1 small
    have ih := bounds?_eq others rest
    have bound : bound? place (Page.bindable n) = some (role, n) := by
      rw [bound?, first, number?_bindable hn]
      rfl
    unfold bounds? at ih ⊢
    rw [List.map_cons, List.zip_cons_cons, List.mapM_cons, bound, ih]
    rfl

end PageRole

/-! ## Numbers of a page -/

namespace Page

theorem limit_lt (b : Page) : b.limit < 2 ^ 32 := by
  have bound := b.maxResults.toNat_lt
  unfold limit unboundedLimit
  split <;> omega

/-- Both bounds have 32 bits, so the number of the last row is never cut. -/
theorem lastRow_eq (b : Page) : b.lastRow = b.limit + b.firstResult.toNat := by
  have limit := b.limit_lt
  have first := b.firstResult.toNat_lt
  unfold lastRow
  rw [Int64.toInt_maxValue]
  omega

/-- The numbers that are bound to the markers of a page. -/
def numbers (b : Page) (s : PagingStrategy) : List Nat :=
  let limit := if s.offsetAddedToLimit then b.lastRow else b.limit
  if b.skips then
    if s.limitBeforeOffset then [limit, b.firstResult.toNat] else [b.firstResult.toNat, limit]
  else [b.limit]

theorem bindValues_eq (b : Page) (s : PagingStrategy) :
    b.bindValues s = (b.numbers s).map bindable := by
  unfold bindValues numbers
  dsimp only
  split
  · split <;> rfl
  · rfl

theorem numbers_lt (b : Page) (s : PagingStrategy) : ∀ n ∈ b.numbers s, n < 2 ^ 63 := by
  have limit := b.limit_lt
  have first := b.firstResult.toNat_lt
  have last := b.lastRow_eq
  intro n hn
  unfold numbers at hn
  dsimp only at hn
  split at hn
  · split at hn <;> split at hn <;> simp at hn <;> omega
  · simp at hn
    omega

end Page

/-! ## Pages of the dialects -/

namespace Dialect

open PageRole

/-- The roles of the markers of a page, in the order of the markers. -/
def roles (d : Dialect) (skips : Bool) : List PageRole :=
  let limit := if d.strategy.offsetAddedToLimit then last else count
  if skips then if d.strategy.limitBeforeOffset then [limit, skip] else [skip, limit] else [limit]

theorem length_roles (d : Dialect) (skips : Bool) : (d.roles skips).length = pageMarkers skips := by
  cases d <;> cases skips <;> rfl

/-- The markers of a page are read in their roles whatever the statement is. -/
theorem frame_roles (d : Dialect) (skips enters : Bool) :
    ((markers .code (d.frame skips enters).1.toList).map read? =
      if d.strategy.bindBeforeQuery then (d.roles skips).map some else []) ∧
    ((markers .code (d.frame skips enters).2.toList).map read? =
      if d.strategy.bindBeforeQuery then [] else (d.roles skips).map some) ∧
    (∀ place ∈ markers .code (d.frame skips enters).1.toList, ¬ "LIMIT ".toList <:+ place.1) ∧
    (∀ place ∈ markers .code (d.frame skips enters).2.toList, Decides place.1) := by
  cases d <;> cases skips <;> cases enters <;> decide +kernel

/-- The leading SELECT has no markers, so those of the statement keep their places in what is
kept. -/
theorem markers_kept (d : Dialect) (sql : List Char) : ∃ lost, d.kept sql = sql.drop lost ∧
    ∀ front back, (markers .code (d.kept sql)).map (within front back) =
      (markers .code sql).map fun place => within front back (place.1.drop lost, place.2) := by
  obtain ⟨lead, whole, leading⟩ := d.kept_of_lead sql
  generalize d.kept sql = kept at whole
  subst whole
  have code : SqlMode.code.after lead = .code :=
    SqlMode.after_code fun c hc => ⟨(leading c hc).1, (leading c hc).2.1⟩
  have none : markers .code lead = [] := markers_of_not_mem (fun hm => (leading _ hm).2.2 rfl) _
  refine ⟨lead.length, List.drop_left.symm, fun front back => ?_⟩
  rw [markers_append, none, code]
  simp [within]

/-- The markers of a paged statement that ends in code: those of the page are read in their roles
on the side on which the bounds are bound, those of the statement keep their places in it. -/
theorem markers_paginate (d : Dialect) {sql : String} (skips : Bool)
    (ends : (SqlMode.code.after sql.toList).isCode = true) : ∃ front lost back added,
      (d.paginate sql skips).toList = front ++ sql.toList.drop lost ++ back ∧
      added.map read? = (d.roles skips).map some ∧
      markers .code (d.paginate sql skips).toList =
        let own := (markers .code sql.toList).map fun place =>
          within front back (place.1.drop lost, place.2)
        if d.strategy.bindBeforeQuery then added ++ own else own ++ added := by
  obtain ⟨frontPlain, -, star, -, -⟩ := d.frame_plain skips (d.entersSelect sql.toList)
  obtain ⟨frontRoles, backRoles, frontFree, backDecides⟩ :=
    d.frame_roles skips (d.entersSelect sql.toList)
  obtain ⟨lost, rest, own⟩ := d.markers_kept sql.toList
  have text := d.paginate_eq sql skips
  have keptCode : (SqlMode.code.after (d.kept sql.toList)).isCode = true := by
    rwa [(d.kept_in_code sql.toList).1]
  generalize d.frame skips (d.entersSelect sql.toList) = around at *
  obtain ⟨front, back⟩ := around
  dsimp only at *
  have frontCode : SqlMode.code.after front.toList = .code :=
    SqlMode.after_code (plain_of_not_mem frontPlain)
  have parts : markers .code (d.paginate sql skips).toList =
      (markers .code front.toList).map (within [] (d.kept sql.toList ++ back.toList)) ++
        (markers .code (d.kept sql.toList)).map (within front.toList back.toList) ++
        (markers .code back.toList).map (within (front.toList ++ d.kept sql.toList) []) := by
    rw [text, markers_append, markers_append, SqlMode.after_append, frontCode,
      markers_of_isCode keptCode star]
    simp [within_comp]
  refine ⟨front.toList, lost, back.toList, ?_⟩
  rw [← rest, ← own, parts]
  cases before : d.strategy.bindBeforeQuery with
  | true =>
    rw [before, if_pos rfl] at frontRoles backRoles
    rw [List.map_eq_nil_iff.1 backRoles]
    refine ⟨_, text, ?_, List.append_nil _⟩
    rw [← frontRoles, List.map_map]
    exact List.map_congr_left fun place hp => read?_within_back (frontFree place hp) _
  | false =>
    rw [before, if_neg Bool.false_ne_true] at frontRoles backRoles
    rw [List.map_eq_nil_iff.1 frontRoles]
    refine ⟨_, text, ?_, rfl⟩
    rw [← backRoles, List.map_map]
    exact List.map_congr_left fun place hp => read?_within_front (backDecides place hp) _

/-- In every dialect the bounds select the same rows. -/
theorem select_bounds {α : Type} (d : Dialect) (b : Page) (rows : List α) :
    select ((d.roles b.skips).zip (b.numbers d.strategy)) rows =
      (rows.drop b.firstResult.toNat).take b.limit := by
  have upTo : (rows.take b.lastRow).drop b.firstResult.toNat =
      (rows.drop b.firstResult.toNat).take b.limit := by
    rw [List.drop_take, b.lastRow_eq, Nat.add_sub_cancel]
  unfold roles Page.numbers
  cases skips : b.skips with
  | true =>
    cases d.strategy.offsetAddedToLimit with
    | true => cases d.strategy.limitBeforeOffset <;> exact upTo
    | false => cases d.strategy.limitBeforeOffset <;> rfl
  | false =>
    have first : b.firstResult = 0 := by simpa [Page.skips] using skips
    rw [first]
    cases d.strategy.offsetAddedToLimit <;> rfl

/-- A paged statement fetches the same rows in every dialect. The markers it adds are as many as
the values of the page and stand on the side on which these are bound, the markers of the statement
keep their order, and the values bound to the added markers in their roles select the rows behind
those that are skipped, at most as many as asked for. The number of the last row is not cut. -/
theorem paginate_selects_page (d : Dialect) (b : Page) {sql : String}
    (ends : (SqlMode.code.after sql.toList).isCode = true) : ∃ front lost back added,
      (d.paginate sql b.skips).toList = front ++ sql.toList.drop lost ++ back ∧
      (markers .code (d.paginate sql b.skips).toList =
        let own := (markers .code sql.toList).map fun place =>
          within front back (place.1.drop lost, place.2)
        if d.strategy.bindBeforeQuery then added ++ own else own ++ added) ∧
      added.length = (b.bindValues d.strategy).length ∧
      (∃ bounds, bounds? added (b.bindValues d.strategy) = some bounds ∧
        ∀ {α : Type} (rows : List α), select bounds rows = (rows.drop b.firstResult.toNat).take
          (if b.maxResults = 0 then 2147483647 else b.maxResults.toNat)) ∧
      b.lastRow = b.limit + b.firstResult.toNat := by
  obtain ⟨front, lost, back, added, text, roles, places⟩ := d.markers_paginate b.skips ends
  have count : added.length = (b.bindValues d.strategy).length := by
    have length := congrArg List.length roles
    rw [List.length_map, List.length_map] at length
    rw [length, d.length_roles, Page.length_bindValues]
  refine ⟨front, lost, back, added, text, places, count, ⟨_, ?_, d.select_bounds b⟩, b.lastRow_eq⟩
  rw [b.bindValues_eq]
  exact bounds?_eq roles (b.numbers_lt d.strategy)

end Dialect

open PageRole in
/-- The third page of ten persons, asked for in the way that numbers the rows. -/
theorem Sample.numbered_page :
    let sql := "select name from person where age > ?"
    (SqlMode.code.after sql.toList).isCode = true ∧
      ∃ added bounds, added.length = 2 ∧
        bounds? added ((Page.mk 20 10).bindValues Dialect.oracle.strategy) = some bounds ∧
        select bounds (List.range 26) = [20, 21, 22, 23, 24, 25] := by
  intro sql
  have ends : (SqlMode.code.after sql.toList).isCode = true := by decide +kernel
  obtain ⟨_, _, _, added, -, -, count, ⟨bounds, reads, selects⟩, -⟩ :=
    Dialect.oracle.paginate_selects_page (Page.mk 20 10) ends
  refine ⟨ends, added, bounds, count, reads, ?_⟩
  rw [selects]
  decide

end QueryMethods
