import CollectionSchema.Proofs.Migration.Insertion
import CollectionSchema.Store
import Mathlib.Data.List.Induction

/-!
Runs on a store, and plans against it.

A run is a list of insertions and removals, taken one by one from the empty store. What a store
holds under a name depends on the last step about the name only: `live?` reads it off the run,
and `live?_eq_some_iff` says it is the schema inserted last and not removed since.

* `fetch_take`: a step changes what is held under its own name, to what it leaves there.
* `fetch_after`: so a run holds what is live after it.
* `planning_after`: lookups, displaced schemas, the number of schemas and plans after any run.
-/

namespace CollectionSchema

namespace Store

/-! ### Steps and runs -/

/-- A step of a run. -/
inductive Step where
  | insert (schema : Collection)
  | remove (name : String)

namespace Step

/-- The name that a step is about. An inserted schema goes by its own name. -/
def name : Step → String
  | insert schema => schema.name
  | remove name => name

@[simp]
theorem name_insert (schema : Collection) : (insert schema).name = schema.name := rfl

@[simp]
theorem name_remove (removed : String) : (remove removed).name = removed := rfl

/-- What a step leaves under its name. -/
def leaves : Step → Option Collection
  | insert schema => some schema
  | remove _ => none

/-- Takes a step. The first component is the schema that it displaces. -/
def take (s : Store) : Step → Option Collection × Store
  | insert schema => s.insert schema
  | remove name => s.remove name

end Step

/-- The store after a run from the empty one. -/
def after (steps : List Step) : Store :=
  steps.foldl (fun s step => (step.take s).2) empty

/-- The schema that is live under a name after a run: what the last step about the name leaves. -/
def live? (steps : List Step) (name : String) : Option Collection :=
  (steps.reverse.find? (·.name == name)).bind Step.leaves

variable {steps others : List Step} {name : String}

/-! ### What is live -/

theorem live?_append_singleton (steps : List Step) (step : Step) (name : String) :
    live? (steps ++ [step]) name = if step.name = name then step.leaves else live? steps name := by
  by_cases about : step.name = name <;> simp [live?, about]

/-- What is live under a name was inserted under it, and no later step is about the name. -/
theorem live?_eq_some_iff {c : Collection} :
    live? steps name = some c ↔
      ∃ before since, steps = before ++ .insert c :: since ∧ c.name = name ∧
        ∀ step ∈ since, step.name ≠ name := by
  constructor
  · intro live
    obtain ⟨step, found, leaves⟩ := Option.bind_eq_some_iff.mp live
    obtain ⟨about, before, since, split, others⟩ := find?_reverse_eq_some_iff.mp found
    cases step with
    | remove _ => cases leaves
    | insert schema =>
        obtain rfl : schema = c := Option.some.inj leaves
        exact ⟨before, since, split, by simpa using about, by simpa using others⟩
  · rintro ⟨before, since, rfl, rfl, others⟩
    have last : (before ++ .insert c :: since).reverse.find? (·.name == c.name) =
        some (.insert c) :=
      find?_reverse_eq_some_iff.mpr ⟨by simp, before, since, rfl, by simpa using others⟩
    rw [live?, last]
    rfl

/-- Steps about other names have no say in what is live under a name. -/
theorem live?_filter (steps : List Step) (name : String) :
    live? (steps.filter (·.name == name)) name = live? steps name := by
  rw [live?, live?, ← List.filter_reverse, List.find?_filter]
  simp only [and_self, Bool.decide_eq_true]

theorem live?_append_of_others (others_ne : ∀ step ∈ others, step.name ≠ name) :
    live? (steps ++ others) name = live? steps name := by
  have none : others.filter (·.name == name) = [] :=
    List.filter_eq_nil_iff.mpr fun step mem => by simpa using others_ne step mem
  rw [← live?_filter, List.filter_append, none, List.append_nil, live?_filter]

/-! ### What a store holds -/

theorem after_append_singleton (steps : List Step) (step : Step) :
    after (steps ++ [step]) = (step.take (after steps)).2 :=
  List.foldl_concat ..

/-- A step changes what is held under its own name, and under no other. -/
theorem fetch_take (s : Store) (step : Step) (name : String) :
    (step.take s).2.fetch name = if step.name = name then step.leaves else s.fetch name := by
  simp only [eq_comm (a := step.name)]
  cases step with
  | insert schema => exact Table.get?_set s schema.name name schema
  | remove removed => exact Table.get?_erase s removed name

/-- A step displaces what is held under its name. -/
theorem displaced_take (s : Store) (step : Step) : (step.take s).1 = s.fetch step.name := by
  cases step with
  | insert schema => rfl
  | remove removed => rfl

/-- A step keeps names unique. -/
theorem nodup_names_take {s : Store} (unique : s.names.Nodup) (step : Step) :
    (step.take s).2.names.Nodup := by
  cases step with
  | insert schema => exact Table.nodup_names_set unique schema.name schema
  | remove removed => exact Table.nodup_names_erase unique removed

/-- A store holds what is live. The induction is on the run from its end. -/
theorem fetch_after (steps : List Step) (name : String) :
    (after steps).fetch name = live? steps name := by
  induction steps using List.reverseRecOn with
  | nil => rfl
  | append_singleton steps step ih =>
      rw [after_append_singleton, fetch_take, live?_append_singleton, ih]

theorem nodup_names_after (steps : List Step) : (after steps).names.Nodup := by
  induction steps using List.reverseRecOn with
  | nil => exact List.nodup_nil
  | append_singleton steps step ih =>
      rw [after_append_singleton]
      exact nodup_names_take ih step

/-! ### Plans -/

theorem plan_after (steps : List Step) (target : Collection) :
    (after steps).source.plan target = .ok (Plan.toReach (live? steps target.name) target) := by
  rw [← fetch_after]
  rfl

/-- **Planning after any run**: a store holds under each name the schema that was inserted last
and not removed since; a step displaces what is live under its name; as many schemas are held as
names are live; and a target is planned for against what is live under its name, whatever
happened under other names. So there is nothing to do for a target that was inserted and not
touched since, and everything for one that was removed. -/
theorem planning_after (steps : List Step) :
    (∀ name, (after steps).fetch name = live? steps name) ∧
      (∀ name c, live? steps name = some c ↔
        ∃ before since, steps = before ++ .insert c :: since ∧ c.name = name ∧
          ∀ step ∈ since, step.name ≠ name) ∧
      (∀ step : Step, (step.take (after steps)).1 = live? steps step.name) ∧
      (∃ names : List String, names.Nodup ∧ (∀ name, name ∈ names ↔ (live? steps name).isSome) ∧
        (after steps).size = names.length) ∧
      (∀ target, (after steps).source.plan target =
          .ok (Plan.toReach (live? steps target.name) target) ∧
        (after steps).source.plan target =
          (after (steps.filter (·.name == target.name))).source.plan target) ∧
      ∀ (target : Collection) (others : List Step),
        (∀ step ∈ others, step.name ≠ target.name) →
          (target.nameClashes = [] →
            (after (steps ++ .insert target :: others)).source.plan target =
              .ok { collection := target.name, changes := [] }) ∧
          (after (steps ++ .remove target.name :: others)).source.plan target =
            .ok { collection := target.name, changes := Migration.creation target } := by
  refine ⟨fetch_after steps, fun _ _ => live?_eq_some_iff, fun step => ?_, ?_, fun target => ?_,
    fun target others others_ne => ?_⟩
  · rw [displaced_take, fetch_after]
  · refine ⟨(after steps).names, nodup_names_after steps, fun name => ?_, ?_⟩
    · rw [Table.mem_names_iff, ← fetch_after]
      rfl
    · rw [Table.names, List.length_map]
      rfl
  · refine ⟨plan_after steps target, ?_⟩
    rw [plan_after, plan_after, live?_filter]
  · have lastStep (step : Step) (about : step.name = target.name) :
        live? (steps ++ step :: others) target.name = step.leaves := by
      rw [List.append_cons, live?_append_of_others others_ne, live?_append_singleton,
        if_pos about]
    refine ⟨fun unique => ?_, ?_⟩
    · rw [plan_after, lastStep (.insert target) rfl, Step.leaves, Plan.toReach,
        Migration.changes_self unique]
    · rw [plan_after, lastStep (.remove target.name) rfl]
      rfl

/-! ### A restaurant

The schema of the menu is replaced, and guests come and go. -/

def menu (properties : List Property) : Collection := { name := "Menu", properties }

def guests : Collection where
  name := "Guest"
  properties := [.ofKind "seats" .int, .ofKind "since" .date]
  references := [{ name := "table", target := "Table" }]

def evening : List Step := [
  .insert (menu []),
  .insert guests,
  .insert (menu [.ofKind "dish" .text]),
  .remove "Guest"]

theorem planning_after_evening :
    (after evening).fetch "Menu" = some (menu [.ofKind "dish" .text]) ∧
      (after evening).fetch "Guest" = none ∧
      ((Step.insert (menu [])).take (after evening)).1 = some (menu [.ofKind "dish" .text]) ∧
      (after evening).size = 1 ∧
      (after (evening ++ [.insert guests, .insert (menu [])])).source.plan guests =
        .ok { collection := "Guest", changes := [] } ∧
      (after (evening ++ [.insert guests, .remove "Guest", .remove "Menu"])).source.plan guests =
        .ok {
          collection := "Guest"
          changes := [
            Migration.addProperty (.ofKind "seats" .int),
            Migration.addProperty (.ofKind "since" .date),
            Migration.addReference { name := "table", target := "Table" }] } := by
  obtain ⟨fetches, -, displaces, -, -, plans⟩ := planning_after evening
  refine ⟨(fetches _).trans (by decide), (fetches _).trans (by decide),
    (displaces _).trans (by decide), by decide, ?_, ?_⟩
  · exact (plans guests [.insert (menu [])] (by decide)).1 (by decide)
  · obtain ⟨-, -, -, -, -, again⟩ := planning_after (evening ++ [.insert guests])
    exact (again guests [.remove "Menu"] (by decide)).2

end Store

end CollectionSchema
