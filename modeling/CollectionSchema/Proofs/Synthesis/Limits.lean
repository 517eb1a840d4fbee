import CollectionSchema.Proofs.Nesting
import CollectionSchema.Proofs.Synthesis.Failure
import CollectionSchema.Proofs.Synthesis.Unfolding

/-!
Synthesis within a limit on the types under way.

Synthesis is run again by recursion on a limit. The run watches the types that are under way, and
gives up where one more than the limit would be, or two of the same name. It never does: as many
names as there are to come by, or as many as synthesis allows, are always enough.

* `Ends`: a watched run ends with a result, and if this is that a model nests too deeply then
  synthesis allows fewer types than there are names. This goes through sequences of steps and
  traversals.
* `propertyWithin_ends`: the watched run for the property of a field.
* `Synthesizer.synthesizeWithin_ends`: the watched run for the schema of a model.
* `depth_of_propertyOf`: a property is no deeper than types could be entered for it.
-/

namespace CollectionSchema

/-- A run that may give up. -/
abbrev Limited (α : Type) := ExceptT SynthesisError Option α

namespace Limited

variable {α : Type}

/-- A run that enters nothing. -/
def settled (r : Except SynthesisError α) : Limited α :=
  ExceptT.mk (some r)

/-- A run that gives up. -/
def giveUp : Limited α :=
  ExceptT.mk none

end Limited

namespace Synthesis

open Limited

variable {n : Nat}

/-! ### Watched runs -/

/-- The property of a field, the nested type being entered by `enter`. -/
def propertyBy (enter : Fin n → Limited (List Property)) (maxDepth : Nat) (types : Catalog n)
    (typeName : String) (entered : List String) (f : Field n) : Limited Property := do
  let kind ← settled (settleKind types typeName f)
  if kind.isObject then
    match f.valueType.nested? with
    | none => settled (.error (.noNestedType f.propertyName kind))
    | some id =>
      if (types id).typeName ∈ entered then
        settled (.ok (describe f kind []))
      else if maxDepth ≤ entered.length then
        settled (.error (.tooDeep f.propertyName maxDepth))
      else do
        let properties ← enter id
        let nested ← settled (uniqueNested f.propertyName properties)
        settled (.ok (describe f kind nested))
  else
    settled (.ok (describe f kind []))

/-- The property of a field, as long as at most `limit` more types are entered one inside the other
and no two of the types under way have the same name. -/
def propertyWithin (maxDepth : Nat) (types : Catalog n) :
    Nat → String → List String → Field n → Limited Property
  | 0 => propertyBy (fun _ => giveUp) maxDepth types
  | limit + 1 => fun typeName entered f =>
    let enter (id : Fin n) : Limited (List Property) :=
      let underWay := (types id).typeName :: entered
      if underWay.Nodup then
        (types id).model.propertyFields.mapM
          (propertyWithin maxDepth types limit (types id).model.typeName underWay)
      else giveUp
    propertyBy enter maxDepth types typeName entered f

/-- What a field becomes, as long as its property is within the limit. -/
def memberWithin (limit maxDepth : Nat) (types : Catalog n) (typeName : String) (f : Field n) :
    Limited (Member n) :=
  if f.becomesProperty then do
    let p ← propertyWithin maxDepth types limit typeName [] f
    settled (.ok (.property p))
  else
    settled (memberOf maxDepth types typeName f)

end Synthesis

namespace Synthesizer

open Limited Synthesis

variable {n : Nat}

/-- The schema of a model as it is declared, as long as its properties are within the limit. -/
def declaredWithin (s : Synthesizer) (limit : Nat) (types : Catalog n) (m : Model n) :
    Limited Collection := do
  settled (checkSettings m.directive)
  let members ← m.fields.mapM (memberWithin limit s.config.maxDepth types m.typeName)
  settled do
    let base : Collection :=
      { name := m.collectionName
        description := m.directive.description
        properties := properties members
        references := references members }
    requireUnique base
    let vectors ← (vectorFields members).mapM fun (f, d) => vectorOf s.config (s.lookup m) base f d
    let complete := { base with vectors }
    requireUnique complete
    applySettings m.directive complete

/-- The schema of a model, as long as at most `limit` types are entered one inside the other and no
two of the types under way have the same name. -/
def synthesizeWithin (s : Synthesizer) (limit : Nat) (types : Catalog n) (m : Model n) :
    Limited Collection := do
  let collection ← s.declaredWithin limit types m
  settled (customizeCollection (s.lookup m) m.directive collection)

end Synthesizer

namespace Synthesis

open Limited

/-! ### Runs that end -/

section Ends

variable {α β : Type} {maxDepth names : Nat}

/-- The watched run `x` ends with the result `r`. If this is that a model nests too deeply, then
synthesis allows fewer types than there are names. -/
structure Ends (maxDepth names : Nat) (x : Limited α) (r : Except SynthesisError α) : Prop where
  result : x.run = some r
  tooDeep : ∀ field limit, r = .error (.tooDeep field limit) → maxDepth < names

namespace Ends

variable {x : Limited α} {r : Except SynthesisError α}

theorem settled (shallow : FailsFor (· ≠ .depth) r) : Ends maxDepth names (settled r) r where
  result := rfl
  tooDeep := fun _ _ tooDeep => absurd rfl (shallow _ tooDeep)

theorem bind {f : α → Limited β} {g : α → Except SynthesisError β}
    (first : Ends maxDepth names x r)
    (next : ∀ a, r = .ok a → Ends maxDepth names (f a) (g a)) :
    Ends maxDepth names (x >>= f) (r >>= g) := by
  cases r with
  | error e =>
      refine ⟨?_, fun field limit tooDeep => ?_⟩
      · rw [ExceptT.run_bind, first.result]
        rfl
      · have failed : e = .tooDeep field limit := Except.error.inj tooDeep
        exact first.tooDeep field limit (failed ▸ rfl)
  | ok a =>
      have rest := next a rfl
      refine ⟨?_, rest.tooDeep⟩
      rw [ExceptT.run_bind, first.result]
      exact rest.result

/-- A traversal ends when every step of it does. -/
theorem mapM {f : α → Limited β} {g : α → Except SynthesisError β} {xs : List α}
    (each : ∀ a ∈ xs, Ends maxDepth names (f a) (g a)) :
    Ends maxDepth names (xs.mapM f) (xs.mapM g) := by
  induction xs with
  | nil => exact .settled (.ok [])
  | cons a xs ih =>
      rw [List.mapM_cons, List.mapM_cons]
      refine (each a (List.mem_cons_self ..)).bind fun b _ => ?_
      refine (ih fun a mem => each a (List.mem_cons_of_mem _ mem)).bind fun bs _ => ?_
      exact .settled (.ok (b :: bs))

end Ends

end Ends

/-! ### The property of a field -/

variable {n : Nat} {types : Catalog n} {roots fields : List (Field n)} {maxDepth limit names : Nat}
  {typeName : String} {entered : List String} {f : Field n} {p : Property}

/-- The run for a field ends when the run inside it does and when, wherever it comes to a type that
is not under way, there are more names than types under way. -/
theorem propertyBy_ends {enter : Fin n → Limited (List Property)}
    (room : ∀ id, f.valueType.nested? = some id → (types id).typeName ∉ entered →
      entered.length < names)
    (entering : ∀ id, f.valueType.nested? = some id → (types id).typeName ∉ entered →
      entered.length < maxDepth →
        Ends maxDepth names (enter id)
          ((types id).model.propertyFields.mapM
            (propertyOf maxDepth types (types id).model.typeName
              ((types id).typeName :: entered)))) :
    Ends maxDepth names (propertyBy enter maxDepth types typeName entered f)
      (propertyOf maxDepth types typeName entered f) := by
  rw [propertyBy, propertyOf]
  refine (Ends.settled (failsFor_settleKind (by decide))).bind fun kind _ => ?_
  cases kind.isObject with
  | false => exact .settled (.ok _)
  | true =>
      rw [nestedPropertiesOf]
      simp only [if_true]
      cases refers : f.valueType.nested? with
      | none => exact .settled (.error (by simp))
      | some id =>
          by_cases under : (types id).typeName ∈ entered
          · simp only [under, dite_true, if_true]
            exact .settled (.ok _)
          · simp only [under, dite_false, if_false]
            by_cases deep : maxDepth ≤ entered.length
            · simp only [deep, if_true]
              exact ⟨rfl, fun _ _ _ => Nat.lt_of_le_of_lt deep (room id refers under)⟩
            · simp only [deep, if_false, bind_assoc]
              refine (entering id refers under (Nat.lt_of_not_le deep)).bind fun ps _ => ?_
              refine (Ends.settled (failsFor_uniqueNested (by decide))).bind fun nested _ => ?_
              exact .settled (.ok _)

/-- **The run for a field ends** within as many types as synthesis allows, and within as many as
there are names. -/
theorem propertyWithin_ends (underWay : UnderWay types roots entered fields) (mem : f ∈ fields)
    (enough : min maxDepth (nestedNames types roots).card ≤ limit + entered.length) :
    Ends maxDepth (nestedNames types roots).card
      (propertyWithin maxDepth types limit typeName entered f)
      (propertyOf maxDepth types typeName entered f) := by
  induction limit generalizing typeName entered fields f with
  | zero =>
      refine propertyBy_ends (fun id => underWay.length_lt mem) fun id refers fresh shallow => ?_
      have room := underWay.length_lt mem refers fresh
      omega
  | succ limit ih =>
      refine propertyBy_ends (fun id => underWay.length_lt mem) fun id refers fresh shallow => ?_
      have inside := underWay.enter mem refers fresh
      rw [if_pos inside.nodup]
      refine Ends.mapM fun g memG => ih inside memG ?_
      rw [List.length_cons]
      omega

/-- **No property is deeper** than types could be entered for it: as many as synthesis allows, and
as many as there are names. -/
theorem depth_of_propertyOf (underWay : UnderWay types roots entered fields) (mem : f ∈ fields)
    (allowed : entered.length ≤ maxDepth)
    (built : propertyOf maxDepth types typeName entered f = .ok p) :
    p.depth + entered.length ≤ min maxDepth (nestedNames types roots).card := by
  induction entered using types.entered_induction generalizing typeName fields f p with
  | step entered ih =>
      obtain ⟨kind, nested, -, rfl, -, inner⟩ := propertyOf_eq_ok_iff_opens.mp built
      have bound := underWay.length_le
      have below : (describe f kind nested).depth ≤
          min maxDepth (nestedNames types roots).card - entered.length := by
        refine Property.depth_le_iff.mpr fun q memQ => ?_
        rw [describe_nested] at memQ
        cases opens : f.opens? types entered with
        | none =>
            rw [opens] at inner
            rw [inner] at memQ
            cases memQ
        | some id =>
            rw [opens] at inner
            obtain ⟨shallow, -, related⟩ := inner
            obtain ⟨g, memG, builtQ⟩ := exists_of_mem_forall₂ related.flip memQ
            have fresh := Field.fresh_of_opens? opens
            have inside := underWay.enter mem (Field.refers_of_opens? opens) fresh
            have deeper := ih id fresh inside memG shallow builtQ
            rw [List.length_cons] at deeper
            omega
      omega

end Synthesis

/-! ### The schema of a model -/

namespace Synthesizer

open Limited Synthesis

variable {n : Nat} {types : Catalog n} {m : Model n} {limit : Nat}

theorem memberWithin_ends {maxDepth : Nat} {f : Field n} (mem : f ∈ m.fields)
    (enough : min maxDepth (nestedNames types m.propertyFields).card ≤ limit) :
    Ends maxDepth (nestedNames types m.propertyFields).card
      (memberWithin limit maxDepth types m.typeName f) (memberOf maxDepth types m.typeName f) := by
  unfold memberWithin
  by_cases becomes : f.becomesProperty
  · have property : memberOf maxDepth types m.typeName f =
        propertyOf maxDepth types m.typeName [] f >>= fun p => .ok (.property p) := by
      rw [memberOf_of_property becomes]
      cases propertyOf maxDepth types m.typeName [] f <;> rfl
    rw [if_pos becomes, property]
    have among : f ∈ m.propertyFields := List.mem_filter.mpr ⟨mem, becomes⟩
    exact (propertyWithin_ends (.start _) among enough).bind fun p _ => .settled (.ok _)
  · rw [if_neg becomes]
    exact .settled (failsFor_memberOf (by decide) fun property => absurd property becomes)

/-- **Synthesis ends** within as many types under way as it allows, and within as many as there are
names to come by. -/
theorem synthesizeWithin_ends (s : Synthesizer) (types : Catalog n) (m : Model n)
    (enough : min s.config.maxDepth (nestedNames types m.propertyFields).card ≤ limit) :
    Ends s.config.maxDepth (nestedNames types m.propertyFields).card
      (s.synthesizeWithin limit types m) (s.synthesize types m) := by
  refine Ends.bind ?_ fun c _ =>
    .settled (failsFor_customizeCollection (by decide) (by decide))
  refine (Ends.settled (failsFor_checkSettings (by decide))).bind fun _ _ => ?_
  refine (Ends.mapM fun f mem => memberWithin_ends mem enough).bind fun members _ => .settled ?_
  refine (failsFor_requireUnique (by decide)).bind fun _ _ => ?_
  refine (FailsFor.mapM fun fd _ =>
    failsFor_vectorOf (by decide) (by decide) (by decide)).bind fun vectors _ => ?_
  exact (failsFor_requireUnique (by decide)).bind fun _ _ => failsFor_applySettings (by decide)

/-- The properties of a schema nest no deeper than types could be entered. -/
theorem nestingDepth_of_synthesize {s : Synthesizer} {c : Collection}
    (unhooked : m.directive.hook = none) (built : s.synthesize types m = .ok c) :
    c.nestingDepth ≤ min s.config.maxDepth (nestedNames types m.propertyFields).card := by
  have related := (synthesize_declares unhooked built).properties
  refine Collection.nestingDepth_le_iff.mpr fun p mem => ?_
  obtain ⟨f, memF, builtP⟩ := exists_of_mem_forall₂ related.flip mem
  exact depth_of_propertyOf (.start _) memF (Nat.zero_le _) builtP

end Synthesizer

end CollectionSchema
