/-
The compiled forms that a registry keeps. The invariant says that every kept form is what its
interface compiles to against the registered adapters, and that no two kept forms are the same
object; every operation preserves it, and from it comes what a client sees of the registry: it
never hands out a stale form, and it hands out the same one until an adapter is registered.
-/
import QueryMethods.Proofs.Interface.Histories
import QueryMethods.Sample.Adapters

namespace QueryMethods

namespace Registry

variable {declared : Declarations}

/-! ## The kept forms -/

theorem cached?_keep (r : Registry) {path path' : String} {c : CompiledInterface} {n : Nat} :
    ({ r with compiled := ((declared.interface path).path, c) :: r.compiled,
              serial := n } : Registry).cached? (declared.interface path') =
      if path = path' then some c else r.cached? (declared.interface path') := by
  simp only [cached?, declared.path_interface, List.find?_cons]
  by_cases same : path = path' <;> simp [same]

theorem compile_of_kept {r : Registry} {i : Interface} {c : CompiledInterface}
    (kept : r.cached? i = some c) : r.compile i = (.ok c, r) := by
  rw [compile, kept]

/-- A form that was handed out is kept. -/
theorem kept_of_handed {r : Registry} {op : RegistryOperation} {path : String}
    {c : CompiledInterface} (asks : op.path? = some path)
    (handed : (r.perform declared op).1.form? = some c) :
    (r.perform declared op).2.cached? (declared.interface path) = some c := by
  rcases perform_cases declared r op with ⟨path', asks', -, eq, -, eq'⟩ |
    ⟨key, a, rfl, -⟩ | ⟨key, a, rfl, -⟩
  · cases asks.symm.trans asks'
    rw [eq] at handed
    rw [eq']
    rcases compile_cases r (declared.interface path) with ⟨c', kept, eq⟩ | ⟨e, -, eq⟩ |
      ⟨c', -, -, eq⟩ <;> rw [eq] at handed ⊢ <;> cases handed
    · exact kept
    · rw [cached?_keep, if_pos rfl]
  · cases asks
  · cases asks

/-- Kept forms are up to date, and told apart by their serials. -/
structure Sound (declared : Declarations) (r : Registry) : Prop where
  fresh : ∀ {path c}, r.cached? (declared.interface path) = some c →
    (declared.interface path).form r.catalog r.adapters = .ok c.anonymous
  older : ∀ {path c}, r.cached? (declared.interface path) = some c → c.serial < r.serial
  alone : ∀ {path path' c c'}, r.cached? (declared.interface path) = some c →
    r.cached? (declared.interface path') = some c' → c.serial = c'.serial → path = path'

theorem sound_of_empty {r : Registry} (empty : r.compiled = []) : r.Sound declared := by
  have none_kept : ∀ i, r.cached? i = none := by simp [cached?, empty]
  constructor <;> simp [none_kept]

theorem Sound.compile {r : Registry} (sound : r.Sound declared) (path : String) :
    (r.compile (declared.interface path)).2.Sound declared := by
  rcases compile_cases r (declared.interface path) with ⟨c, -, eq⟩ | ⟨e, -, eq⟩ |
    ⟨c, fresh, serial, eq⟩ <;> rw [eq]
  · exact sound
  · exact sound
  · refine ⟨fun {path' c'} kept => ?_, fun {path' c'} kept => ?_,
      fun {path₁ path₂ c₁ c₂} kept₁ kept₂ same => ?_⟩
    · rw [cached?_keep] at kept
      split at kept
      · next h =>
        cases kept
        exact h ▸ fresh
      · exact sound.fresh kept
    · rw [cached?_keep] at kept
      show c'.serial < r.serial + 1
      split at kept
      · cases kept
        omega
      · have := sound.older kept
        omega
    · rw [cached?_keep] at kept₁ kept₂
      -- the new form has a serial that no other one has
      split at kept₁ <;> split at kept₂
      · next h₁ h₂ => exact h₁.symm.trans h₂
      · cases kept₁
        have := sound.older kept₂
        omega
      · cases kept₂
        have := sound.older kept₁
        omega
      · exact sound.alone kept₁ kept₂ same

theorem Sound.perform {r : Registry} (sound : r.Sound declared) (op : RegistryOperation) :
    (r.perform declared op).2.Sound declared := by
  rcases perform_cases declared r op with ⟨path, -, -, -, -, eq⟩ |
    ⟨key, a, -, -, eq⟩ | ⟨key, a, -, -, eq⟩ <;> rw [eq]
  · exact sound.compile path
  · exact sound_of_empty rfl
  · exact sound

/-! ## What does not change -/

theorem compile_frame (r : Registry) (i : Interface) :
    (r.compile i).2.catalog = r.catalog ∧ (r.compile i).2.settings = r.settings ∧
      (r.compile i).2.adapters = r.adapters ∧ r.serial ≤ (r.compile i).2.serial := by
  rcases compile_cases r i with ⟨c, -, eq⟩ | ⟨e, -, eq⟩ | ⟨c, -, -, eq⟩ <;> rw [eq] <;> simp

theorem perform_frame (declared : Declarations) (r : Registry) (op : RegistryOperation) :
    (r.perform declared op).2.catalog = r.catalog ∧
      (r.perform declared op).2.settings = r.settings ∧
      (r.perform declared op).2.adapters = r.adapters.acceptAll op.attempt?.toList ∧
      r.serial ≤ (r.perform declared op).2.serial := by
  rcases perform_cases declared r op with ⟨path, -, none_tried, -, -, eq⟩ |
    ⟨key, a, rfl, -, eq⟩ | ⟨key, a, rfl, taken, eq⟩ <;> rw [eq]
  · rw [none_tried]
    exact compile_frame r _
  · exact ⟨rfl, rfl, rfl, le_rfl⟩
  · exact ⟨rfl, rfl, (AdapterTable.accept_of_taken taken).symm, le_rfl⟩

/-- A failed operation leaves the registry as it was. -/
theorem perform_of_failed {r : Registry} {op : RegistryOperation}
    (failed : (r.perform declared op).1.failed = true) : (r.perform declared op).2 = r := by
  rcases perform_cases declared r op with ⟨path, asks, -, handed, -, eq⟩ |
    ⟨key, a, -, -, eq⟩ | ⟨key, a, -, -, eq⟩
  · rw [RegistryAnswer.form?_of_failed failed] at handed
    rw [eq]
    rcases compile_cases r (declared.interface path) with ⟨c, -, eq⟩ | ⟨e, -, eq⟩ |
      ⟨c, -, -, eq⟩ <;> rw [eq] at handed ⊢
    cases handed
  · rw [eq] at failed
    cases failed
  · rw [eq]

/-! ## Histories -/

theorem after_frame (declared : Declarations) : ∀ (history : List RegistryOperation) (r : Registry),
    (r.after declared history).catalog = r.catalog ∧
      (r.after declared history).settings = r.settings ∧
      (r.after declared history).adapters = r.adapters.acceptAll (history.filterMap (·.attempt?))
  | [], r => ⟨rfl, rfl, rfl⟩
  | op :: history, r => by
    obtain ⟨catalog, settings, adapters, -⟩ := perform_frame declared r op
    obtain ⟨catalog', settings', adapters'⟩ :=
      after_frame declared history (r.perform declared op).2
    refine ⟨catalog'.trans catalog, settings'.trans settings, adapters'.trans ?_⟩
    rw [adapters, ← AdapterTable.acceptAll_append, List.filterMap_cons]
    cases op.attempt? <;> rfl

theorem Sound.after {r : Registry} (sound : r.Sound declared) (history : List RegistryOperation) :
    (r.after declared history).Sound declared :=
  after_invariant (fun op sound => sound.perform op) history sound

/-! ## Answers are up to date -/

theorem Sound.compile_fresh {r : Registry} (sound : r.Sound declared) (path : String) :
    (r.compile (declared.interface path)).1.map (·.anonymous) =
      (declared.interface path).form r.catalog r.adapters := by
  rcases compile_cases r (declared.interface path) with ⟨c, kept, eq⟩ | ⟨e, fails, eq⟩ |
    ⟨c, fresh, -, eq⟩ <;> rw [eq]
  · exact (sound.fresh kept).symm
  · exact fails.symm
  · exact fresh.symm

theorem Sound.content_perform {r : Registry} (sound : r.Sound declared) (op : RegistryOperation) :
    (r.perform declared op).1.content =
      op.afresh declared r.catalog r.settings r.adapters := by
  cases op with
  | register key a =>
    cases free : r.adapters.isFree key with
    | true =>
      simp [perform_register_of_free free, RegistryAnswer.content, RegistryOperation.afresh, free]
    | false =>
      simp [perform_register_of_taken free, RegistryAnswer.content, RegistryOperation.afresh, free]
  | compile path =>
    show RegistryAnswer.compiled _ = .compiled _
    rw [sound.compile_fresh path]
  | newInstance path =>
    show RegistryAnswer.instantiated _ = .instantiated _
    rw [newInstance_eq, ← sound.compile_fresh path]
    cases (r.compile (declared.interface path)).1 <;> rfl

/-! ## The same form, until an adapter is registered -/

theorem kept_compile {r : Registry} {path : String} {c : CompiledInterface}
    (kept : r.cached? (declared.interface path) = some c) (path' : String) :
    (r.compile (declared.interface path')).2.cached? (declared.interface path) = some c := by
  by_cases same : path' = path
  · rw [same, compile_of_kept kept]
    exact kept
  · rcases compile_cases r (declared.interface path') with ⟨c', -, eq⟩ | ⟨e, -, eq⟩ |
      ⟨c', -, -, eq⟩ <;> rw [eq]
    · exact kept
    · exact kept
    · rw [cached?_keep, if_neg same]
      exact kept

theorem kept_perform {r : Registry} {path : String} {c : CompiledInterface}
    (kept : r.cached? (declared.interface path) = some c) {op : RegistryOperation}
    (none_added : (r.perform declared op).1 ≠ .registered (.ok ())) :
    (r.perform declared op).2.cached? (declared.interface path) = some c := by
  rcases perform_cases declared r op with ⟨path', -, -, -, -, eq⟩ |
    ⟨key, a, -, -, eq⟩ | ⟨key, a, -, -, eq⟩
  · rw [eq]
    exact kept_compile kept path'
  · rw [eq] at none_added
    exact absurd rfl none_added
  · rw [eq]
    exact kept

theorem kept_after {path : String} {c : CompiledInterface} :
    ∀ (history : List RegistryOperation) {r : Registry},
      r.cached? (declared.interface path) = some c →
      .registered (.ok ()) ∉ r.answers declared history →
      (r.after declared history).cached? (declared.interface path) = some c
  | [], _, kept, _ => kept
  | op :: history, r, kept, none_added => by
    simp only [answers, List.mem_cons, not_or] at none_added
    exact kept_after history (kept_perform kept (Ne.symm none_added.1)) none_added.2

/-- No form of that serial is kept, nor will it be. -/
def Gone (declared : Declarations) (serial : Nat) (r : Registry) : Prop :=
  serial < r.serial ∧ ∀ path c, r.cached? (declared.interface path) = some c → c.serial ≠ serial

theorem Gone.compile {serial : Nat} {r : Registry} (gone : r.Gone declared serial)
    (path : String) : (r.compile (declared.interface path)).2.Gone declared serial := by
  rcases compile_cases r (declared.interface path) with ⟨c, kept, eq⟩ | ⟨e, -, eq⟩ |
    ⟨c, -, new, eq⟩ <;> rw [eq]
  · exact gone
  · exact gone
  · have lt := gone.1
    refine ⟨Nat.lt_succ_of_lt lt, fun path' c' kept => ?_⟩
    rw [cached?_keep] at kept
    split at kept
    · cases kept
      omega
    · exact gone.2 path' c' kept

theorem Gone.perform {serial : Nat} {r : Registry} (gone : r.Gone declared serial)
    (op : RegistryOperation) : (r.perform declared op).2.Gone declared serial := by
  rcases perform_cases declared r op with ⟨path, -, -, -, -, eq⟩ |
    ⟨key, a, -, -, eq⟩ | ⟨key, a, -, -, eq⟩ <;> rw [eq]
  · exact gone.compile path
  · exact ⟨gone.1, nofun⟩
  · exact gone

theorem Gone.after {serial : Nat} {r : Registry} (gone : r.Gone declared serial)
    (history : List RegistryOperation) : (r.after declared history).Gone declared serial :=
  after_invariant (fun op gone => gone.perform op) history gone

/-- A registration takes every kept form away. -/
theorem gone_of_registered {r : Registry} {op : RegistryOperation}
    (added : (r.perform declared op).1 = .registered (.ok ())) {serial : Nat}
    (older : serial < r.serial) : (r.perform declared op).2.Gone declared serial := by
  rcases perform_cases declared r op with ⟨path, -, -, -, other, -⟩ |
    ⟨key, a, -, -, eq⟩ | ⟨key, a, -, -, eq⟩
  · exact absurd added (other _)
  · rw [eq]
    exact ⟨older, nofun⟩
  · rw [eq] at added
    cases added

theorem gone_after {serial : Nat} : ∀ (history : List RegistryOperation) {r : Registry},
    serial < r.serial → .registered (.ok ()) ∈ r.answers declared history →
      (r.after declared history).Gone declared serial
  | op :: history, r, older, added => by
    rcases List.mem_cons.1 added with now | behind
    · exact (gone_of_registered now.symm older).after history
    · have le := (perform_frame declared r op).2.2.2
      exact gone_after history (older.trans_le le) behind

/-! ## What a client sees -/

/-- A registry at its start: adapters, and nothing compiled yet. -/
def ofAdapters (catalog : Catalog) (adapters : AdapterTable) (settings : ExecutionSettings) :
    Registry :=
  { catalog, adapters, settings }

/-- The adapters that a history tries to register, in order. -/
def attempts (history : List RegistryOperation) : List (String × Adapter) :=
  history.filterMap (·.attempt?)

/-- Whatever has happened to a registry since its start, its answers are those of a compilation
made on the spot. -/
structure NeverStale (declared : Declarations) (start : Registry) : Prop where
  /-- An operation answers what the adapters registered so far give, be it a success or a
  failure. -/
  upToDate : ∀ history op,
    ((start.after declared history).perform declared op).1.content =
      op.afresh declared start.catalog start.settings (start.adapters.acceptAll (attempts history))
  /-- A failed operation changes nothing. -/
  refused : ∀ history op, ((start.after declared history).perform declared op).1.failed = true →
    start.after declared (history ++ [op]) = start.after declared history
  /-- Two forms handed out are the same object exactly if they are forms of one interface and no
  adapter was registered in between. -/
  same : ∀ history op between op' path path' c c',
    op.path? = some path → op'.path? = some path' →
    ((start.after declared history).perform declared op).1.form? = some c →
    ((start.after declared (history ++ op :: between)).perform declared op').1.form? = some c' →
      (c' = c ↔ path' = path ∧ .registered (.ok ()) ∉
        (start.after declared (history ++ [op])).answers declared between)
  /-- Adapters with different keys may be registered in any order: each one with a free key is
  taken, and later answers are the same. -/
  anyOrder : ∀ history history', (attempts history).Perm (attempts history') →
    ((attempts history).map (·.1)).Nodup →
      (∀ key a, (key, a) ∈ attempts history → start.adapters.isFree key = true →
        (start.after declared history).adapters.get? key = some a) ∧
      ∀ later, ((start.after declared history).answers declared later).map (·.content) =
        ((start.after declared history').answers declared later).map (·.content)

theorem Sound.upToDate {start : Registry} (sound : start.Sound declared)
    (history : List RegistryOperation) (op : RegistryOperation) :
    ((start.after declared history).perform declared op).1.content =
      op.afresh declared start.catalog start.settings
        (start.adapters.acceptAll (attempts history)) := by
  obtain ⟨catalog, settings, adapters⟩ := after_frame declared history start
  rw [(sound.after history).content_perform op, catalog, settings, adapters, attempts]

/-- Answers depend on the adapters alone. -/
theorem Sound.answers_congr : ∀ (later : List RegistryOperation) {r r' : Registry},
    r.Sound declared → r'.Sound declared → r.catalog = r'.catalog → r.settings = r'.settings →
      r.adapters = r'.adapters →
        (r.answers declared later).map (·.content) = (r'.answers declared later).map (·.content)
  | [], _, _, _, _, _, _, _ => rfl
  | op :: later, r, r', sound, sound', catalog, settings, adapters => by
    obtain ⟨catalog₁, settings₁, adapters₁, -⟩ := perform_frame declared r op
    obtain ⟨catalog₂, settings₂, adapters₂, -⟩ := perform_frame declared r' op
    simp only [answers, List.map_cons]
    congr 1
    · rw [sound.content_perform, sound'.content_perform, catalog, settings, adapters]
    · refine answers_congr later (sound.perform op) (sound'.perform op) ?_ ?_ ?_
      · rw [catalog₁, catalog₂, catalog]
      · rw [settings₁, settings₂, settings]
      · rw [adapters₁, adapters₂, adapters]

theorem Sound.same {r : Registry} (sound : r.Sound declared) {op op' : RegistryOperation}
    {between : List RegistryOperation} {path path' : String} {c c' : CompiledInterface}
    (asks : op.path? = some path) (asks' : op'.path? = some path')
    (handed : (r.perform declared op).1.form? = some c)
    (handed' : (((r.perform declared op).2.after declared between).perform declared op').1.form? =
      some c') :
    c' = c ↔ path' = path ∧
      .registered (.ok ()) ∉ (r.perform declared op).2.answers declared between := by
  have kept := kept_of_handed asks handed
  have kept' := kept_of_handed asks' handed'
  by_cases added : .registered (.ok ()) ∈ (r.perform declared op).2.answers declared between
  · -- an adapter came in between: no form with the serial of the first is kept any more
    have gone := (gone_after between ((sound.perform op).older kept) added).perform op'
    have ne := gone.2 path' c' kept'
    constructor
    · rintro rfl
      exact absurd rfl ne
    · rintro ⟨-, none_added⟩
      exact absurd added none_added
  · -- none did: the first form is still the one kept for its interface
    have no_registration :
        (((r.perform declared op).2.after declared between).perform declared op').1 ≠
          .registered (.ok ()) := by
      intro eq
      rw [eq] at handed'
      cases handed'
    have still := kept_perform (kept_after between kept added) no_registration
    constructor
    · rintro rfl
      exact ⟨(((sound.perform op).after between).perform op').alone kept' still rfl, added⟩
    · rintro ⟨rfl, -⟩
      exact Option.some.inj (kept'.symm.trans still)

/-- A registry never hands out a stale form. -/
theorem never_stale (declared : Declarations) (catalog : Catalog) (adapters : AdapterTable)
    (settings : ExecutionSettings) :
    (ofAdapters catalog adapters settings).NeverStale declared := by
  have sound : (ofAdapters catalog adapters settings).Sound declared := sound_of_empty rfl
  refine ⟨sound.upToDate, ?_, ?_, ?_⟩
  · intro history op failed
    rw [after_append]
    exact perform_of_failed failed
  · intro history op between op' path path' c c' asks asks' handed handed'
    rw [after_append] at handed'
    rw [after_append]
    exact (sound.after history).same asks asks' handed handed'
  · intro history history' perm distinct
    obtain ⟨catalog₁, settings₁, adapters₁⟩ :=
      after_frame declared history (ofAdapters catalog adapters settings)
    obtain ⟨catalog₂, settings₂, adapters₂⟩ :=
      after_frame declared history' (ofAdapters catalog adapters settings)
    refine ⟨fun key a mem free => ?_, fun later => Sound.answers_congr later (sound.after history)
      (sound.after history') (catalog₁.trans catalog₂.symm) (settings₁.trans settings₂.symm) ?_⟩
    · rw [adapters₁]
      exact AdapterTable.get?_acceptAll adapters distinct mem free
    · rw [adapters₁, adapters₂]
      exact AdapterTable.acceptAll_perm adapters perm distinct

end Registry

/-! ## A sample registry -/

namespace Sample

/-- An interface whose one method needs an adapter for amounts of money; every path declares it. -/
def deposits : Declarations where
  interface path :=
    { name := "Deposits"
      paged := false
      methods := [
        { name := "insert"
          kind := .insert
          template := "INSERT INTO deposits VALUES (\x7b%1\x7d)"
          signature :=
            { arguments := [⟨none, .single, moneyType.valueType⟩]
              returns := .unit } }]
      path }
  path_interface _ := rfl

/-- A registry without adapters. -/
def bareRegistry : Registry := Registry.ofAdapters catalog {} {}

/-- The interface is rejected at first and compiles with an adapter; then another adapter that
handles amounts is registered, with a key that comes first. -/
def depositsHistory : List RegistryOperation :=
  [.compile "deposits", .register "funds" moneyAdapter, .register "cash" moneyAdapter]

/-- The form that a history ends with. -/
def lastForm? (history : List RegistryOperation) (op : RegistryOperation) :
    Option CompiledInterface :=
  ((bareRegistry.after deposits history).perform deposits op).1.form?

/-- A refused registration keeps the form, an accepted one does not. -/
theorem deposits_never_stale :
    ∃ c c' c'', lastForm? depositsHistory (.compile "deposits") = some c ∧
      lastForm? (depositsHistory ++ .compile "deposits" :: [.register "long" moneyAdapter])
        (.newInstance "deposits") = some c' ∧
      lastForm? (depositsHistory ++ .compile "deposits" :: [.register "any" anyAdapter])
        (.compile "deposits") = some c'' ∧
      c' = c ∧ c'' ≠ c := by
  have sound : bareRegistry.NeverStale deposits := Registry.never_stale deposits catalog {} {}
  obtain ⟨c, handed⟩ := Option.isSome_iff_exists.1
    (show (lastForm? depositsHistory (.compile "deposits")).isSome = true by decide +kernel)
  obtain ⟨c', handed'⟩ := Option.isSome_iff_exists.1
    (show (lastForm? (depositsHistory ++ .compile "deposits" :: [.register "long" moneyAdapter])
      (.newInstance "deposits")).isSome = true by decide +kernel)
  obtain ⟨c'', handed''⟩ := Option.isSome_iff_exists.1
    (show (lastForm? (depositsHistory ++ .compile "deposits" :: [.register "any" anyAdapter])
      (.compile "deposits")).isSome = true by decide +kernel)
  refine ⟨c, c', c'', handed, handed', handed'', ?_, fun same => ?_⟩
  · have taken : (bareRegistry.after deposits
        (depositsHistory ++ [.compile "deposits"])).adapters.isFree "long" = false := by
      decide +kernel
    refine (sound.same _ _ _ _ _ _ c c' rfl rfl handed handed').2 ⟨rfl, ?_⟩
    simp [Registry.answers, Registry.perform_register_of_taken taken]
  · have free : (bareRegistry.after deposits
        (depositsHistory ++ [.compile "deposits"])).adapters.isFree "any" = true := by
      decide +kernel
    refine ((sound.same _ _ _ _ _ _ c c'' rfl rfl handed handed'').1 same).2 ?_
    simp [Registry.answers, Registry.perform_register_of_free free]

end Sample

end QueryMethods
