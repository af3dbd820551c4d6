/-
What coercion keeps of a value. Coerced to another type and back again a value is what it was, so
that different values of one type stay different. Three coercions have no way back: an integer that
becomes a truth value keeps only whether it is zero, and a time stamp that becomes a date or a time
of day keeps only that part.
-/
import QueryMethods.Proofs.Execution.Untagged

namespace QueryMethods

/-- Of one type, values with the same integer view are the same. -/
theorem Value.asInt_injective {v v' : Value} {n : Int} (same : v.type? = v'.type?)
    (view : v.asInt = some n) (view' : v'.asInt = some n) : v = v' := by
  cases v with
  | bool b =>
    cases v' <;> cases same
    next b' => cases b <;> cases b' <;> first | rfl | (cases view; cases view')
  | byte k =>
    cases v' <;> cases same
    exact congrArg Value.byte (Int8.toInt_inj.1 (Option.some.inj (view.trans view'.symm)))
  | short k =>
    cases v' <;> cases same
    exact congrArg Value.short (Int16.toInt_inj.1 (Option.some.inj (view.trans view'.symm)))
  | int k =>
    cases v' <;> cases same
    exact congrArg Value.int (Int32.toInt_inj.1 (Option.some.inj (view.trans view'.symm)))
  | long k =>
    cases v' <;> cases same
    exact congrArg Value.long (Int64.toInt_inj.1 (Option.some.inj (view.trans view'.symm)))
  | _ => cases view

namespace BuiltinType

variable {target source : BuiltinType} {v v' w w' : Value}

/-! ## The way back -/

/-- The floating-point types. -/
def isFloating (s : BuiltinType) : Bool := s = float || s = double

/-- Whether a value of the source type loses a part when it is coerced to the target. -/
def narrows (target source : BuiltinType) : Bool :=
  match target with
  | bool => source.isInteger
  | date | time => source = timestamp
  | _ => false

/-- What is coerced is of one of the sources. -/
theorem source_of_conform (some : v.isNull = false) (h : target.conform v = .ok w) :
    ∃ source, v.type? = Option.some source ∧ source ∈ target.sources := by
  cases v with
  | null => cases some
  | custom c => cases target <;> cases h
  | bool | byte | short | int | long | float | double | char | string | date | time | timestamp =>
    cases target <;> first
      | exact ⟨_, rfl, by decide⟩
      | cases h

/-- The pairs of different types between which nothing is lost. -/
theorem kept_cases (exact : target.isFloating = false) (mem : source ∈ target.sources)
    (keeps : target.narrows source = false) (other : source ≠ target) :
    target.isInteger = true ∧ source ∈ sources .long ∨ target = .char ∧ source = .string ∨
      target = .string ∧ source = .char ∨ target = .timestamp ∧ source = .date := by
  revert exact mem keeps other
  cases target <;> cases source <;> decide

/-- A truth value is read off an integer view. -/
theorem conform_bool_eq_ok (some : v.isNull = false) :
    conform .bool v = .ok w ↔ ∃ n, v.asInt = Option.some n ∧ .bool (n ≠ 0) = w := by
  unfold conform
  rw [if_neg (by rw [some]; exact Bool.false_ne_true)]
  dsimp only
  cases v.asInt with
  | none => exact ⟨nofun, nofun⟩
  | some n => simp

/-- An integer, or a truth value, is restored from an integer of any width. -/
theorem conform_back_integer (integer : target.isInteger = true) (viewed : source ∈ sources .long)
    (typed : v.type? = some source) (h : target.conform v = .ok w) :
    source.conform w = .ok v := by
  obtain ⟨⟨low, high⟩, range⟩ := Option.isSome_iff_exists.1 integer
  obtain ⟨n, view⟩ := Option.isSome_iff_exists.1
    ((Value.asInt_isSome typed).trans (decide_eq_true viewed))
  have kept := (conform_integer_view range (Value.not_null_of_type typed) h).trans view
  have back : ∃ u, source.conform w = .ok u ∧ u.asInt = some n := by
    by_cases truth : source = .bool
    · subst truth
      cases v <;> cases typed
      next b =>
        refine ⟨.bool (n ≠ 0), (conform_bool_eq_ok (Value.not_null_of_asInt kept)).2 ⟨n, kept, rfl⟩, ?_⟩
        cases b <;> cases view <;> rfl
    · obtain ⟨⟨low', high'⟩, own⟩ : ∃ r, source.range? = some r := by
        cases source <;> first | exact ⟨_, rfl⟩ | exact absurd rfl truth | exact absurd viewed (by decide)
      exact conform_integer_inside own kept (Value.asInt_within typed own view)
  obtain ⟨u, conforms, view'⟩ := back
  have type := conform_type (Value.not_null_of_asInt kept) conforms
  rw [conforms, Value.asInt_injective (type.trans typed.symm) view' view]

/-- A single character is restored from a text, and a text of one character from it. -/
theorem conform_back_text (h : conform .char (.string s) = .ok w) :
    conform .string w = .ok (.string s) := by
  simp only [conform, Value.isNull, Bool.false_eq_true, if_false] at h
  split at h
  · next c single =>
    cases h
    have text : String.singleton c = s := by
      rw [String.singleton_eq_ofList, ← single, String.ofList_toList]
    rw [← text]
    rfl
  · cases h

/-- A value that loses nothing is restored when it is coerced back to its type. -/
theorem conform_back (exact : target.isFloating = false) (keeps : target.narrows source = false)
    (typed : v.type? = some source) (h : target.conform v = .ok w) :
    source.conform w = .ok v := by
  obtain ⟨source', typed', mem⟩ := source_of_conform (Value.not_null_of_type typed) h
  cases typed.symm.trans typed'
  by_cases own : source = target
  · subst own
    rw [conform_own typed] at h
    cases h
    exact conform_own typed
  · rcases kept_cases exact mem keeps own with
      ⟨integer, viewed⟩ | ⟨rfl, rfl⟩ | ⟨rfl, rfl⟩ | ⟨rfl, rfl⟩
    · exact conform_back_integer integer viewed typed h
    · cases v <;> cases typed
      exact conform_back_text h
    · cases v <;> cases typed
      cases h
      simp [conform, Value.isNull]
    · cases v <;> cases typed
      cases h
      rfl

/-! ## What is lost -/

/-- Values of one type that differ at most in what coercion to the target drops. -/
inductive Forgets : BuiltinType → Value → Value → Prop
  | number {v v' : Value} {n n' : Int} (view : v.asInt = some n) (view' : v'.asInt = some n')
      (zero : n = 0 ↔ n' = 0) : Forgets .bool v v'
  | timeOfDay {a b : Timestamp} (date : a.date = b.date) : Forgets .date (.timestamp a) (.timestamp b)
  | day {a b : Timestamp} (time : a.time = b.time) : Forgets .time (.timestamp a) (.timestamp b)

/-- What differs only in what coercion drops is coerced to the same. -/
theorem Forgets.conform_eq (h : target.Forgets v v') : target.conform v = target.conform v' := by
  cases h with
  | number view view' zero =>
    have some := Value.not_null_of_asInt view
    have some' := Value.not_null_of_asInt view'
    rw [(conform_bool_eq_ok some).2 ⟨_, view, rfl⟩, (conform_bool_eq_ok some').2 ⟨_, view', rfl⟩]
    simp only [ne_eq, zero]
  | timeOfDay date => simp [conform, Value.isNull, date]
  | day time => simp [conform, Value.isNull, time]

/-- Where a part is lost, what is coerced to the same differs in that part only. -/
theorem forgets_of_conform (narrow : target.narrows source = true) (typed : v.type? = some source)
    (typed' : v'.type? = some source) (h : target.conform v = .ok w)
    (h' : target.conform v' = .ok w) : target.Forgets v v' := by
  cases target with
  | bool =>
    obtain ⟨n, view, rfl⟩ := (conform_bool_eq_ok (Value.not_null_of_type typed)).1 h
    obtain ⟨n', view', equal⟩ := (conform_bool_eq_ok (Value.not_null_of_type typed')).1 h'
    have zero : n' = 0 ↔ n = 0 := by simpa using equal
    exact .number view view' zero.symm
  | date =>
    obtain rfl := of_decide_eq_true narrow
    cases v <;> cases typed
    cases v' <;> cases typed'
    cases h
    exact .timeOfDay (Value.date.inj (Except.ok.inj h')).symm
  | time =>
    obtain rfl := of_decide_eq_true narrow
    cases v <;> cases typed
    cases v' <;> cases typed'
    cases h
    exact .day (Value.time.inj (Except.ok.inj h')).symm
  | _ => cases narrow

/-- Coercion tells two values of one type apart, unless they differ only in what it drops. Nothing
is said of the floating-point types, which round. -/
theorem conform_eq_iff (exact : target.isFloating = false) (same : v.type? = v'.type?)
    (h : target.conform v = .ok w) (h' : target.conform v' = .ok w') :
    w = w' ↔ v = v' ∨ target.Forgets v v' := by
  constructor
  · rintro rfl
    cases null : v.isNull with
    | true =>
      -- a null has no type, and neither has a custom value, which is never coerced
      cases v <;> cases null
      cases v' with
      | null => exact .inl rfl
      | custom c => cases target <;> cases h'
      | _ => cases same
    | false =>
      obtain ⟨source, typed, -⟩ := source_of_conform null h
      have typed' := same.symm.trans typed
      cases narrow : target.narrows source with
      | true => exact .inr (forgets_of_conform narrow typed typed' h h')
      | false =>
        have back := conform_back exact narrow typed h
        rw [conform_back exact narrow typed' h'] at back
        exact .inl (Except.ok.inj back).symm
  · rintro (rfl | forgets)
    · exact Except.ok.inj (h.symm.trans h')
    · rw [forgets.conform_eq] at h
      exact Except.ok.inj (h.symm.trans h')

end BuiltinType

namespace Sample

/-- The ends of the range of a narrower type stay apart. -/
theorem outermost_ints_apart :
    BuiltinType.conform .int (.long 2147483647) = .ok (.int 2147483647) ∧
      BuiltinType.conform .int (.long (-2147483648)) = .ok (.int (-2147483648)) ∧
      Value.int 2147483647 ≠ .int (-2147483648) := by
  have last : BuiltinType.conform .int (.long 2147483647) = .ok (.int 2147483647) := by decide
  have first : BuiltinType.conform .int (.long (-2147483648)) = .ok (.int (-2147483648)) := by decide
  have same : (Value.long 2147483647).type? = (Value.long (-2147483648)).type? := rfl
  refine ⟨last, first, fun equal => ?_⟩
  rcases (BuiltinType.conform_eq_iff rfl same last first).1 equal with equal | forgets
  · exact absurd equal (by decide)
  · cases forgets

/-- Nine o'clock on the last day of a February. -/
def leapMorning : Timestamp :=
  ⟨(Date.of? 2024 2 29).getD .epoch, (TimeOfDay.of? 9 0 0 0).getD .midnight⟩

/-- A date keeps no time of day, a time of day no date, and a truth value no number. -/
theorem parts_lost :
    (leapMorning ≠ ⟨leapMorning.date, .midnight⟩ ∧
      BuiltinType.conform .date (.timestamp leapMorning) = .ok (.date leapMorning.date) ∧
      BuiltinType.conform .date (.timestamp ⟨leapMorning.date, .midnight⟩) =
        .ok (.date leapMorning.date)) ∧
    (leapMorning ≠ ⟨.epoch, leapMorning.time⟩ ∧
      BuiltinType.conform .time (.timestamp leapMorning) = .ok (.time leapMorning.time) ∧
      BuiltinType.conform .time (.timestamp ⟨.epoch, leapMorning.time⟩) =
        .ok (.time leapMorning.time)) ∧
    ((1 : Int64) ≠ 2 ∧ BuiltinType.conform .bool (.long 1) = .ok (.bool true) ∧
      BuiltinType.conform .bool (.long 2) = .ok (.bool true)) :=
  ⟨⟨by decide, rfl, rfl⟩, ⟨by decide, rfl, rfl⟩, by decide, by decide, by decide⟩

end Sample

end QueryMethods
