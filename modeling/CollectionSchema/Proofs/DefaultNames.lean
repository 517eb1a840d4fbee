import CollectionSchema.Proofs.Conformance.Matching
import CollectionSchema.Proofs.Names.CamelCase
import CollectionSchema.Proofs.Synthesis.Clashes

/-!
Fields that are named by their identifiers.

Where no directive gives a name, the name is the identifier in camel case, and of an ASCII
identifier that keeps the letters and digits. So how the identifier falls into words matters to
the case of letters only: names are equal only where the letters and digits are, and whether a name
agrees with one of a schema up to letter case depends on nothing else.

* `Field.bare_eq_of_memberName_eq`, `Model.Clash.bare_eq`: fields that share a name.
* `Field.sameIgnoringCase_memberName_iff`, `Pairing.fallback_respelled`: fields that are paired with
  a schema where letter case is ignored.
* `default_names`: the two together with what camel case is.
-/

namespace CollectionSchema

open Text

variable {n : Nat}

/-! ### Fields of one name -/

namespace Field

/-- No directive names the field, and its identifier is ASCII. -/
structure NamedByIdent (f : Field n) : Prop where
  unnamed : f.givenName? = none
  ascii : IsAscii f.ident

variable {f g : Field n}

theorem NamedByIdent.foldCase_memberName (named : f.NamedByIdent) :
    foldCase f.memberName = bare f.ident := by
  rw [memberName, named.unnamed, Option.getD_none, foldCase_camelCase named.ascii]

/-- Names are equal only if the letters and digits are, up to letter case. -/
theorem bare_eq_of_memberName_eq (named : f.NamedByIdent) (named' : g.NamedByIdent)
    (same : f.memberName = g.memberName) : bare f.ident = bare g.ident := by
  rw [← named.foldCase_memberName, ← named'.foldCase_memberName, same]

theorem sameIgnoringCase_memberName_iff (named : f.NamedByIdent) {name : String} :
    sameIgnoringCase name f.memberName ↔ foldCase name = bare f.ident := by
  rw [sameIgnoringCase_iff, named.foldCase_memberName]

/-- The field as it is, or another spelling of its identifier: neither is named by a directive, and
the letters and digits are the same up to letter case. -/
def Respelled (f g : Field n) : Prop :=
  g = f ∨ f.NamedByIdent ∧ g.NamedByIdent ∧ bare g.ident = bare f.ident

theorem Respelled.foldCase_memberName (respelled : f.Respelled g) :
    foldCase g.memberName = foldCase f.memberName := by
  obtain rfl | ⟨named, named', same⟩ := respelled
  · rfl
  · rw [named.foldCase_memberName, named'.foldCase_memberName, same]

end Field

namespace Model.Clash

variable {types : Catalog n} {m : Model n} {scope : NameScope} {name : String} {f g : Field n}

/-- Fields that clash have one name, unless a hook is there to rename a vector. -/
theorem memberName_eq (clash : m.Clash types scope name f g) (plain : ¬ f.Hooked)
    (plain' : ¬ g.Hooked) : f.memberName = g.memberName := by
  cases clash with
  | own _ first second =>
      exact (first.resolve_left plain).trans (second.resolve_left plain').symm
  | nested _ _ _ first second => exact first.trans second.symm

/-- Fields that are named by their identifiers clash only if these have the same letters and
digits. -/
theorem bare_eq (clash : m.Clash types scope name f g) (named : f.NamedByIdent)
    (named' : g.NamedByIdent) (plain : ¬ f.Hooked) (plain' : ¬ g.Hooked) :
    bare f.ident = bare g.ident :=
  Field.bare_eq_of_memberName_eq named named' (clash.memberName_eq plain plain')

end Model.Clash

/-! ### Pairing up to letter case -/

namespace Pairing

variable {α : Type} {agrees : String → α → Bool}

/-- A round takes the same entries for names that agree with the same entries. -/
theorem claim_congr {names names' : List String}
    (alike : List.Forall₂ (fun name name' => agrees name' = agrees name) names names')
    (partners : List (Option α)) (entries : List α) :
    (claim agrees (names'.zip partners) entries).1.map (·.2) =
        (claim agrees (names.zip partners) entries).1.map (·.2) ∧
      (claim agrees (names'.zip partners) entries).2 =
        (claim agrees (names.zip partners) entries).2 := by
  induction alike generalizing partners entries with
  | nil => exact ⟨rfl, rfl⟩
  | @cons name name' _ _ same _ ih =>
      match partners with
      | [] => exact ⟨rfl, rfl⟩
      | some a :: partners =>
          obtain ⟨taken, left⟩ := ih partners entries
          exact ⟨by simp [claim, taken], by simp [claim, left]⟩
      | none :: partners =>
          obtain ⟨taken, left⟩ := ih partners (takeFirst (agrees name) entries).2
          exact ⟨by simp [claim, same, taken], by simp [claim, same, left]⟩

/-- The round that ignores letter case, for names that may have partners already. -/
def fallback (nameOf : α → String) (names : List String) (partners : List (Option α))
    (entries : List α) : List (Option α) × List α :=
  let (claimed, left) :=
    claim (fun name a => sameIgnoringCase (nameOf a) name) (names.zip partners) entries
  (claimed.map (·.2), left)

/-- Names are paired by the exact round and then the fallback. -/
theorem ofNames_eq_fallback (nameOf : α → String) (names : List String) (entries : List α) :
    let exact := exactRound nameOf names entries
    let both := fallback nameOf names (exact.1.map (·.2)) exact.2
    ofNames nameOf names entries = { partners := both.1, unclaimed := both.2 } := by
  intro exact both
  have zipped : exact.1 = names.zip (exact.1.map (·.2)) :=
    List.zip_of_prod map_fst_exactRound rfl
  rw [ofNames_eq_bothRounds, bothRounds, zipped]
  rfl

/-- **The spelling of identifiers does not matter to the fallback**: fields whose identifiers are
spelled otherwise take the same entries, and leave the same. -/
theorem fallback_respelled {fs gs : List (Field n)}
    (respelled : List.Forall₂ Field.Respelled fs gs) (nameOf : α → String)
    (partners : List (Option α)) (entries : List α) :
    fallback nameOf (gs.map Field.memberName) partners entries =
      fallback nameOf (fs.map Field.memberName) partners entries := by
  have alike : List.Forall₂
      (fun name name' => (fun a => sameIgnoringCase (nameOf a) name') =
        fun a => sameIgnoringCase (nameOf a) name)
      (fs.map Field.memberName) (gs.map Field.memberName) := by
    rw [List.forall₂_map_left_iff, List.forall₂_map_right_iff]
    refine respelled.imp fun f g same => ?_
    funext a
    rw [Bool.eq_iff_iff, sameIgnoringCase_iff, sameIgnoringCase_iff, same.foldCase_memberName]
  obtain ⟨taken, left⟩ := claim_congr alike partners entries
  exact Prod.ext taken left

end Pairing

/-! ### Names by default -/

/-- **Default names neither merge nor lose identifiers** beyond separators and letter case.

Both camel-case forms of an ASCII identifier are its letters and digits up to letter case, the one
with no uppercase and the other with no lowercase initial. So fields that are named by their
identifiers share a name only if the letters and digits are the same; every clash that synthesis
reports is one of two fields, for which this holds where no hook renames them, or is left by the
hook of the collection; and what the fallback, the second round of a pairing, takes for such a field
depends on nothing else. -/
theorem default_names (n : Nat) :
    (∀ ident, IsAscii ident →
      foldCase (camelCase ident) = bare ident ∧ foldCase (upperCamelCase ident) = bare ident ∧
        (∀ c ∈ (camelCase ident).toList.head?, c.isUpper = false) ∧
        ∀ c ∈ (upperCamelCase ident).toList.head?, c.isLower = false) ∧
      (∀ f g : Field n, f.NamedByIdent → g.NamedByIdent → f.memberName = g.memberName →
        bare f.ident = bare g.ident) ∧
      (∀ (s : Synthesizer) (types : Catalog n) (m : Model n) (scope : NameScope) (name : String),
        s.synthesize types m = .error (.nameClash scope name) →
          s.HookClash types m scope name ∨ ∃ f g, m.Clash types scope name f g) ∧
      (∀ (types : Catalog n) (m : Model n) (scope : NameScope) (name : String) (f g : Field n),
        m.Clash types scope name f g → f.NamedByIdent → g.NamedByIdent → ¬ f.Hooked →
          ¬ g.Hooked → bare f.ident = bare g.ident) ∧
      (∀ (f : Field n) (name : String), f.NamedByIdent →
        (sameIgnoringCase name f.memberName ↔ foldCase name = bare f.ident)) ∧
      ∀ {α : Type} (nameOf : α → String) (entries : List α),
        (∀ names : List String,
          let exact := Pairing.exactRound nameOf names entries
          let both := Pairing.fallback nameOf names (exact.1.map (·.2)) exact.2
          Pairing.ofNames nameOf names entries = { partners := both.1, unclaimed := both.2 }) ∧
        ∀ (fs gs : List (Field n)) (partners : List (Option α)),
          List.Forall₂ Field.Respelled fs gs →
            Pairing.fallback nameOf (gs.map Field.memberName) partners entries =
              Pairing.fallback nameOf (fs.map Field.memberName) partners entries := by
  refine ⟨fun ident ascii => ?_, ?_, ?_, ?_, ?_, ?_⟩
  · exact ⟨foldCase_camelCase ascii, foldCase_upperCamelCase ascii,
      fun _ => isUpper_of_head_camelCase ascii, fun _ => isLower_of_head_upperCamelCase ascii⟩
  · intro f g named named' same
    exact Field.bare_eq_of_memberName_eq named named' same
  · intro s types m scope name failed
    exact Synthesizer.exists_clash_of_synthesize failed
  · intro types m scope name f g clash named named' plain plain'
    exact clash.bare_eq named named' plain plain'
  · intro f name named
    exact Field.sameIgnoringCase_memberName_iff named
  · intro α nameOf entries
    refine ⟨fun names => Pairing.ofNames_eq_fallback nameOf names entries, ?_⟩
    intro fs gs partners respelled
    exact Pairing.fallback_respelled respelled nameOf partners entries

/-! ### An invoice with two user ids -/

/-- A field that its identifier names. -/
def plainField (ident : String) : Field 1 where
  ident
  valueType := .scalar .string

def accountTypes : Catalog 1 := fun _ =>
  { typeName := "Account"
    model :=
      { typeName := "Account"
        fields := [plainField "user_ID", plainField "owner", plainField "UserId"] } }

def invoice : Model 1 where
  typeName := "Invoice"
  fields := [{ ident := "account", valueType := .nested ⟨0, Nat.one_pos⟩ }]

theorem namedByIdent_plainField {ident : String} (ascii : IsAscii ident) :
    (plainField ident).NamedByIdent where
  unnamed := rfl
  ascii := ascii

/-- Two spellings of an identifier clash, and with a property of another spelling of it they are
paired alike. -/
theorem default_names_invoice :
    camelCase "HTTPServer2_port" = "httpServer2Port" ∧
      foldCase (camelCase "HTTPServer2_port") = bare "HTTPServer2_port" ∧
      bare "user_ID" = bare "UserId" ∧
      ({} : Synthesizer).synthesize accountTypes invoice =
        .error (.nameClash .property "account.userId") ∧
      (∃ f g, invoice.Clash accountTypes .property "account.userId" f g) ∧
      Pairing.fallback id [camelCase "user_ID"] [none] ["USERID"] = ([some "USERID"], []) ∧
      Pairing.fallback id [camelCase "us_er_id"] [none] ["USERID"] = ([some "USERID"], []) := by
  obtain ⟨camel, shared, clashing, -, -, fallback⟩ := default_names 1
  have named : (plainField "user_ID").NamedByIdent := namedByIdent_plainField (by decide)
  have named' : (plainField "UserId").NamedByIdent := namedByIdent_plainField (by decide)
  have named'' : (plainField "us_er_id").NamedByIdent := namedByIdent_plainField (by decide)
  have failed : ({} : Synthesizer).synthesize accountTypes invoice =
      .error (.nameClash .property "account.userId") := by
    decide +kernel
  have taken : Pairing.fallback id [camelCase "user_ID"] [none] ["USERID"] =
      ([some "USERID"], []) := by
    decide
  have respelled : (plainField "user_ID").Respelled (plainField "us_er_id") :=
    .inr ⟨named, named'', by decide⟩
  refine ⟨by decide, (camel _ (by decide)).1, shared _ _ named named' (by decide), failed, ?_,
    taken, ?_⟩
  · obtain ⟨_, _, _, -, hooked, -⟩ | clash := clashing {} accountTypes invoice _ _ failed
    · cases hooked
    · exact clash
  · have same := (fallback id ["USERID"]).2 _ _ [none] (.cons respelled .nil)
    exact same.trans taken

end CollectionSchema
