import CollectionSchema.Proofs.Names.Lookup
import Mathlib.Data.List.Forall2

/-!
Traversals: lists built entry by entry, by steps that may fail.

`mapM_eq_ok_iff` turns a successful traversal into a relation between what was
traversed and what was built; the lemmas on related lists read names off it.
-/

namespace CollectionSchema

/-! ### Steps that may fail -/

section Steps

variable {ε α β : Type}

theorem bind_eq_ok_iff {x : Except ε α} {f : α → Except ε β} {b : β} :
    (x >>= f) = .ok b ↔ ∃ a, x = .ok a ∧ f a = .ok b := by
  cases x <;> simp [bind, Except.bind]

/-- Two ways to go on from one step are the same when they agree on its result. -/
theorem bind_congr_of_ok {x : Except ε α} {f g : α → Except ε β}
    (same : ∀ a, x = .ok a → f a = g a) : (x >>= f) = (x >>= g) := by
  cases x with
  | error e => rfl
  | ok a => exact same a rfl

theorem pure_eq_ok_iff {a b : α} : (pure a : Except ε α) = .ok b ↔ a = b := by
  simp [pure, Except.pure]

theorem map_eq_ok_iff {x : Except ε α} {f : α → β} {b : β} :
    x.map f = .ok b ↔ ∃ a, x = .ok a ∧ f a = b := by
  cases x <;> simp [Except.map]

/-- A traversal succeeds exactly when every step of it does. -/
theorem mapM_eq_ok_iff {f : α → Except ε β} {xs : List α} {ys : List β} :
    xs.mapM f = .ok ys ↔ List.Forall₂ (fun x y => f x = .ok y) xs ys := by
  induction xs generalizing ys with
  | nil =>
      rw [List.mapM_nil, List.forall₂_nil_left_iff]
      exact ⟨fun h => (Except.ok.inj h).symm, fun h => h ▸ rfl⟩
  | cons x xs ih =>
      rw [List.mapM_cons, List.forall₂_cons_left_iff, bind_eq_ok_iff]
      constructor
      · rintro ⟨y, hy, rest⟩
        obtain ⟨ys', hys, done⟩ := bind_eq_ok_iff.mp rest
        exact ⟨y, ys', hy, ih.mp hys, (Except.ok.inj done).symm⟩
      · rintro ⟨y, ys', hy, hys, rfl⟩
        exact ⟨y, hy, bind_eq_ok_iff.mpr ⟨ys', ih.mpr hys, rfl⟩⟩

theorem bind_eq_error_iff {x : Except ε α} {f : α → Except ε β} {e : ε} :
    (x >>= f) = .error e ↔ x = .error e ∨ ∃ a, x = .ok a ∧ f a = .error e := by
  cases x <;> simp [bind, Except.bind]

theorem map_eq_error_iff {x : Except ε α} {f : α → β} {e : ε} :
    x.map f = .error e ↔ x = .error e := by
  cases x <;> simp [Except.map]

/-- A traversal fails with the error of the first entry whose step fails. -/
theorem mapM_eq_error_iff {f : α → Except ε β} {xs : List α} {e : ε} :
    xs.mapM f = .error e ↔
      ∃ before x after, xs = before ++ x :: after ∧ (∀ y ∈ before, ∃ b, f y = .ok b) ∧
        f x = .error e := by
  induction xs with
  | nil => simp [pure, Except.pure]
  | cons x xs ih =>
      have later : (∃ b, f x = .ok b ∧ (xs.mapM f >>= fun bs => pure (b :: bs)) = .error e) ↔
          (∃ b, f x = .ok b) ∧ xs.mapM f = .error e := by
        simp [bind_eq_error_iff, pure, Except.pure]
      rw [List.mapM_cons, bind_eq_error_iff, later, ih]
      constructor
      · rintro (refused | ⟨first_ok, before, y, after, rfl, before_ok, refused⟩)
        · exact ⟨[], x, xs, rfl, nofun, refused⟩
        · exact
            ⟨x :: before, y, after, rfl, List.forall_mem_cons.mpr ⟨first_ok, before_ok⟩, refused⟩
      · rintro ⟨before, y, after, split, before_ok, refused⟩
        cases before with
        | nil =>
            obtain ⟨rfl, rfl⟩ := List.cons.inj split
            exact .inl refused
        | cons z before =>
            rw [List.cons_append, List.cons.injEq] at split
            obtain ⟨rfl, rfl⟩ := split
            obtain ⟨first_ok, before_ok⟩ := List.forall_mem_cons.mp before_ok
            exact .inr ⟨first_ok, before, y, after, rfl, before_ok, refused⟩

/-- Traversals by steps that agree on each entry are the same. -/
theorem mapM_congr {f g : α → Except ε β} {xs : List α} (same : ∀ x ∈ xs, f x = g x) :
    xs.mapM f = xs.mapM g := by
  induction xs with
  | nil => rfl
  | cons x xs ih =>
      rw [List.mapM_cons, List.mapM_cons, same x (List.mem_cons_self ..),
        ih fun y mem => same y (List.mem_cons_of_mem _ mem)]

/-- A traversal that gives up nowhere yields what its steps do. -/
theorem mapM_eq_some_map {f : α → Option β} {g : α → β} {xs : List α}
    (each : ∀ a ∈ xs, f a = some (g a)) : xs.mapM f = some (xs.map g) := by
  induction xs with
  | nil => rfl
  | cons a xs ih =>
      rw [List.mapM_cons, each a (List.mem_cons_self ..),
        ih fun a mem => each a (List.mem_cons_of_mem _ mem)]
      rfl

end Steps

/-! ### Related lists -/

section Related

variable {α β γ : Type} {R : α → β → Prop} {xs : List α} {ys : List β}

theorem map_eq_of_forall₂ {f : α → γ} {g : β → γ} (related : List.Forall₂ R xs ys)
    (same : ∀ x ∈ xs, ∀ y, R x y → g y = f x) : ys.map g = xs.map f := by
  induction related with
  | nil => rfl
  | cons head _ ih =>
      rw [List.map_cons, List.map_cons, same _ (List.mem_cons_self ..) _ head,
        ih fun x mem => same x (List.mem_cons_of_mem _ mem)]

/-- A list that is built entry by entry, each entry by a function, is mapped by it. -/
theorem eq_map_of_forall₂ {f : α → β} (related : List.Forall₂ R xs ys)
    (built : ∀ x ∈ xs, ∀ y, R x y → y = f x) : ys = xs.map f := by
  rw [← map_eq_of_forall₂ related built, List.map_id']

theorem exists_of_mem_forall₂ (related : List.Forall₂ R xs ys) {x : α} (mem : x ∈ xs) :
    ∃ y ∈ ys, R x y := by
  induction related with
  | nil => cases mem
  | @cons _ b _ _ head _ ih =>
      rcases List.mem_cons.mp mem with rfl | mem
      · exact ⟨b, List.mem_cons_self .., head⟩
      · obtain ⟨y, later, r⟩ := ih mem
        exact ⟨y, List.mem_cons_of_mem _ later, r⟩

/-- What a traversal builds, taken in part, is built from part of what was traversed. -/
theorem exists_sublist_of_forall₂ {part : List β} (related : List.Forall₂ R xs ys)
    (sub : part.Sublist ys) : ∃ sources, sources.Sublist xs ∧ List.Forall₂ R sources part := by
  induction related generalizing part with
  | nil =>
      obtain rfl := List.sublist_nil.mp sub
      exact ⟨[], .slnil, .nil⟩
  | cons head _ ih =>
      cases sub with
      | cons _ sub =>
          obtain ⟨sources, inner, related⟩ := ih sub
          exact ⟨sources, inner.cons _, related⟩
      | cons_cons _ sub =>
          obtain ⟨sources, inner, related⟩ := ih sub
          exact ⟨_ :: sources, inner.cons_cons _, .cons head related⟩

/-- A list has a related one exactly when each of its entries has a related one. -/
theorem exists_forall₂_iff : (∃ ys, List.Forall₂ R xs ys) ↔ ∀ x ∈ xs, ∃ y, R x y := by
  constructor
  · rintro ⟨ys, related⟩ x mem
    obtain ⟨y, -, r⟩ := exists_of_mem_forall₂ related mem
    exact ⟨y, r⟩
  · intro each
    induction xs with
    | nil => exact ⟨[], .nil⟩
    | cons x xs ih =>
        obtain ⟨y, head⟩ := each x (List.mem_cons_self ..)
        obtain ⟨ys, rest⟩ := ih fun x mem => each x (List.mem_cons_of_mem _ mem)
        exact ⟨y :: ys, .cons head rest⟩

/-- What two traversals of one list build is the same when their steps agree. -/
theorem eq_of_forall₂ {S : α → β → Prop} {zs : List β} (left : List.Forall₂ R xs ys)
    (right : List.Forall₂ S xs zs) (agree : ∀ x y z, R x y → S x z → y = z) : ys = zs := by
  induction left generalizing zs with
  | nil =>
      cases right
      rfl
  | cons head _ ih =>
      cases right with
      | cons other rest => rw [agree _ _ _ head other, ih rest]

/-- What a traversal builds for one entry stands between what it builds for the others. -/
theorem exists_of_forall₂_insert {before after : List α} {x : α}
    (related : List.Forall₂ R (before ++ x :: after) ys) :
    ∃ left y right, ys = left ++ y :: right ∧ R x y ∧
      List.Forall₂ R (before ++ after) (left ++ right) := by
  induction before generalizing ys with
  | nil =>
      cases related with
      | cons head rest => exact ⟨[], _, _, rfl, head, rest⟩
  | cons _ before ih =>
      cases related with
      | cons head rest =>
          obtain ⟨left, y, right, rfl, r, others⟩ := ih rest
          exact ⟨_ :: left, y, right, rfl, r, .cons head others⟩

/-- Each entry that was traversed finds, by name, the one built from it. -/
theorem named_of_forall₂ {keyOf : α → String} {nameOf : β → String} {x : α}
    (related : List.Forall₂ R xs ys) (same : ∀ x y, R x y → nameOf y = keyOf x)
    (distinct : (ys.map nameOf).Nodup) (mem : x ∈ xs) :
    ∃ y, named nameOf ys (keyOf x) = some y ∧ R x y := by
  obtain ⟨y, built, r⟩ := exists_of_mem_forall₂ related mem
  exact ⟨y, same x y r ▸ named_of_mem distinct built, r⟩

end Related

/-! ### The last entry of a kind -/

/-- The last entry that passes a test passes it, and no later one does. -/
theorem find?_reverse_eq_some_iff {α : Type} {test : α → Bool} {xs : List α} {x : α} :
    xs.reverse.find? test = some x ↔
      test x ∧ ∃ before since, xs = before ++ x :: since ∧ ∀ y ∈ since, ¬ test y := by
  rw [List.find?_eq_some_iff_append]
  refine and_congr_right fun _ => ?_
  constructor
  · rintro ⟨since, before, split, others⟩
    refine ⟨before.reverse, since.reverse, ?_, fun y mem => ?_⟩
    · rw [← List.reverse_reverse xs, split]
      simp
    · simpa using others y (List.mem_reverse.mp mem)
  · rintro ⟨before, since, rfl, others⟩
    refine ⟨since.reverse, before.reverse, by simp, fun y mem => ?_⟩
    simpa using others y (List.mem_reverse.mp mem)

end CollectionSchema
