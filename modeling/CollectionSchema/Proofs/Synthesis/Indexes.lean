import CollectionSchema.Proofs.Synthesis.Unfolding

/-!
The indexes of synthesized vectors.

Their settings come in layers. A metric and a quantizer that the directive gives on their own
come first. Below them is the index that the directive gives, and only when it gives none the
default one. An index that is given replaces the default one as a whole: if its metric is left
to the server, the default metric does not step in.

* `resolves_iff`: the layers determine the index.
* `Synthesizer.indexes_resolve`: every vector of a schema has the index of its layers.
* `not_defaultDistance`: the default metric does not reach every vector whose directive names
  no metric.
-/

namespace CollectionSchema

namespace VectorIndex

/-! ### The parts of an index -/

/-- The quantizers of the stages of an index. A dynamic index has two stages. -/
def quantizers : VectorIndex → List (Option Quantizer)
  | hnsw index => [index.quantizer]
  | flat index => [index.quantizer]
  | dynamic index => [index.hnsw.quantizer, index.flat.quantizer]

/-- The index without its metric and its quantizers. The metrics of the stages of a dynamic index
stay. -/
def others : VectorIndex → VectorIndex
  | hnsw index => hnsw { index with distance := none, quantizer := none }
  | flat index => flat { index with distance := none, quantizer := none }
  | dynamic index =>
    dynamic
      { index with
        distance := none
        hnsw := { index.hnsw with quantizer := none }
        flat := { index.flat with quantizer := none } }

@[simp]
theorem quantizers_setDistance (i : VectorIndex) (distance : Distance) :
    (i.setDistance distance).quantizers = i.quantizers := by
  cases i <;> rfl

@[simp]
theorem others_setDistance (i : VectorIndex) (distance : Distance) :
    (i.setDistance distance).others = i.others := by
  cases i <;> rfl

@[simp]
theorem quantizers_setQuantizer (i : VectorIndex) (quantizer : Quantizer) :
    (i.setQuantizer quantizer).quantizers = i.quantizers.map fun _ => some quantizer := by
  cases i <;> rfl

@[simp]
theorem others_setQuantizer (i : VectorIndex) (quantizer : Quantizer) :
    (i.setQuantizer quantizer).others = i.others := by
  cases i <;> rfl

/-- An index is its metric, the quantizers of its stages, and its other settings. -/
theorem eq_of_parts {i j : VectorIndex} (distance : i.distance = j.distance)
    (quantizers : i.quantizers = j.quantizers) (others : i.others = j.others) : i = j := by
  cases i with
  | hnsw a =>
      cases j with
      | hnsw b =>
          obtain ⟨⟩ := a
          obtain ⟨⟩ := b
          simp_all [VectorIndex.distance, VectorIndex.quantizers, VectorIndex.others]
      | flat b => cases others
      | dynamic b => cases others
  | flat a =>
      cases j with
      | hnsw b => cases others
      | flat b =>
          obtain ⟨⟩ := a
          obtain ⟨⟩ := b
          simp_all [VectorIndex.distance, VectorIndex.quantizers, VectorIndex.others]
      | dynamic b => cases others
  | dynamic a =>
      cases j with
      | hnsw b => cases others
      | flat b => cases others
      | dynamic b =>
          obtain ⟨_, _, ⟨⟩, ⟨⟩⟩ := a
          obtain ⟨_, _, ⟨⟩, ⟨⟩⟩ := b
          simp_all [VectorIndex.distance, VectorIndex.quantizers, VectorIndex.others]

/-- How many stages there are is among the other settings. -/
theorem length_quantizers_of_others {i j : VectorIndex} (others : i.others = j.others) :
    i.quantizers.length = j.quantizers.length := by
  have stages (k : VectorIndex) : k.others.quantizers.length = k.quantizers.length := by
    cases k <;> rfl
  rw [← stages i, others, stages]

end VectorIndex

/-! ### The layers of an index -/

namespace VectorDirective

/-- The index below what the directive says on its own: the one that it gives, else one of the
default family that has the default metric and nothing else. -/
def indexBelow (config : SynthesisConfig) (d : VectorDirective) : VectorIndex :=
  d.index.getD (config.indexFamily.plainIndex config.distance)

/-- `d.Resolves config i`: the index `i` has the settings of the directive, layer by layer. -/
structure Resolves (config : SynthesisConfig) (d : VectorDirective) (i : VectorIndex) : Prop where
  family : i.family = (d.index.map VectorIndex.family).getD config.indexFamily
  /-- The metric of the directive, else that of the index it gives, be it set or not, else the
  default one. -/
  distance : i.distance = d.distance.or (d.index.elim (some config.distance) VectorIndex.distance)
  quantizer : ∀ quantizer, d.quantizer = some quantizer →
    ∀ stage ∈ i.quantizers, stage = some quantizer
  quantizers : d.quantizer = none → i.quantizers = (d.indexBelow config).quantizers
  others : i.others = (d.indexBelow config).others

variable {config : SynthesisConfig} {d : VectorDirective}

theorem family_indexBelow :
    (d.indexBelow config).family = (d.index.map VectorIndex.family).getD config.indexFamily := by
  unfold indexBelow
  cases d.index <;> simp

theorem distance_indexBelow :
    (d.indexBelow config).distance =
      d.index.elim (some config.distance) VectorIndex.distance := by
  unfold indexBelow
  cases d.index <;> simp

theorem resolves_indexOf : d.Resolves config (Synthesis.indexOf config d) := by
  have layers : Synthesis.indexOf config d =
      d.quantizer.elim (d.distance.elim (d.indexBelow config) (d.indexBelow config).setDistance)
        (d.distance.elim (d.indexBelow config) (d.indexBelow config).setDistance).setQuantizer := by
    unfold Synthesis.indexOf indexBelow
    cases d.distance <;> cases d.quantizer <;> rfl
  rw [layers]
  constructor
  · rw [← family_indexBelow]
    cases d.distance <;> cases d.quantizer <;> simp
  · rw [← distance_indexBelow]
    cases d.distance <;> cases d.quantizer <;> simp
  · intro quantizer given stage mem
    rw [given, Option.elim_some, VectorIndex.quantizers_setQuantizer] at mem
    obtain ⟨_, -, rfl⟩ := List.mem_map.mp mem
    rfl
  · intro given
    rw [given]
    cases d.distance <;> simp
  · cases d.distance <;> cases d.quantizer <;> simp

/-- Two indexes that have the settings of one directive agree in all their stages. -/
theorem Resolves.quantizers_eq {i j : VectorIndex} (hi : d.Resolves config i)
    (hj : d.Resolves config j) : i.quantizers = j.quantizers := by
  cases given : d.quantizer with
  | none => rw [hi.quantizers given, hj.quantizers given]
  | some quantizer =>
      have stages : i.quantizers.length = j.quantizers.length :=
        VectorIndex.length_quantizers_of_others (hi.others.trans hj.others.symm)
      rw [List.eq_replicate_of_mem (hi.quantizer quantizer given),
        List.eq_replicate_of_mem (hj.quantizer quantizer given), stages]

/-- **The layers determine the index.** -/
theorem resolves_iff {i : VectorIndex} :
    d.Resolves config i ↔ i = Synthesis.indexOf config d := by
  constructor
  · intro resolves
    have built : d.Resolves config (Synthesis.indexOf config d) := resolves_indexOf
    exact VectorIndex.eq_of_parts (resolves.distance.trans built.distance.symm)
      (resolves.quantizers_eq built) (resolves.others.trans built.others.symm)
  · rintro rfl
    exact resolves_indexOf

end VectorDirective

/-! ### The vectors of a schema -/

namespace Synthesizer

open Synthesis

variable {n : Nat} {s : Synthesizer} {types : Catalog n} {m : Model n} {c : Collection}

/-- **Every vector has the index of its layers**: the family of the index that its directive
gives, else the default one; the metric of the directive, else that of the index it gives, be it
set or not, else the default one; the quantizer of the directive in every stage; and all other
settings of the index that the directive gives. -/
theorem indexes_resolve (hookFree : m.HookFree) (built : s.synthesize types m = .ok c) :
    List.Forall₂ (fun fd v => fd.2.Resolves s.config v.index) (vectorDirectives m.fields)
      c.vectors := by
  refine (synthesize_declares hookFree.1 built).forall₂_vectors hookFree ?_
  intro fd _
  exact VectorDirective.resolves_indexOf

end Synthesizer

/-! ### A sketch

The index of its shape leaves its metric open; its texture has a metric and a quantizer beside an
index of two stages. -/

def sketchTypes : Catalog 0 := fun id => id.elim0

def sketch : Model 0 where
  typeName := "Sketch"
  fields := [
    { ident := "shape", valueType := .list (.scalar .float32),
      vector := some { index := some (.hnsw { ef := some 64 }) } },
    { ident := "texture", valueType := .list (.scalar .float32),
      vector := some
        { index := some (.dynamic { threshold := some 100, flat := { distance := some .cosine } })
          distance := some .hamming
          quantizer := some (.rotational none) } },
    { ident := "shade", valueType := .list (.scalar .float32),
      vector := some { quantizer := some (.binary none) } }]

/-- Synthesis that measures by inner products where nothing else is said. -/
def dotSynthesizer : Synthesizer where
  config := { distance := .dot }

def sketchSchema : Collection where
  name := "Sketch"
  vectors := [
    ⟨"shape", .selfProvided, .hnsw { ef := some 64 }⟩,
    ⟨"texture", .selfProvided,
      .dynamic
        { distance := some .hamming
          threshold := some 100
          hnsw := { quantizer := some (.rotational none) }
          flat := { distance := some .cosine, quantizer := some (.rotational none) } }⟩,
    ⟨"shade", .selfProvided, .hnsw { distance := some .dot, quantizer := some (.binary none) }⟩]

theorem synthesize_sketch : dotSynthesizer.synthesize sketchTypes sketch = .ok sketchSchema := by
  decide +kernel

theorem indexes_resolve_sketch :
    sketch.HookFree ∧ dotSynthesizer.synthesize sketchTypes sketch = .ok sketchSchema ∧
      List.Forall₂ (fun fd v => fd.2.Resolves dotSynthesizer.config v.index)
        (Synthesis.vectorDirectives sketch.fields) sketchSchema.vectors :=
  ⟨by decide, synthesize_sketch,
    Synthesizer.indexes_resolve (by decide) synthesize_sketch⟩

/-- The metric of a vector need not be that of its directive, else that of the index it gives, else
the default one: the shape of the sketch has none. -/
theorem not_defaultDistance :
    ¬ ∀ (n : Nat) (s : Synthesizer) (types : Catalog n) (m : Model n) (c : Collection),
      m.HookFree → s.synthesize types m = .ok c →
        List.Forall₂
          (fun fd v => v.index.distance =
            (fd.2.distance.or (fd.2.index.bind VectorIndex.distance)).or (some s.config.distance))
          (Synthesis.vectorDirectives m.fields) c.vectors := by
  intro resolves
  have vectors := resolves 0 dotSynthesizer sketchTypes sketch sketchSchema (by decide)
    synthesize_sketch
  cases vectors with
  | cons shape _ => simp [VectorIndex.distance, dotSynthesizer] at shape

end CollectionSchema
