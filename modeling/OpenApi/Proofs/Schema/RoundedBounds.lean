import OpenApi.Proofs.Number.Documents
import OpenApi.Proofs.Schema.Bounds
import OpenApi.Proofs.Schema.Writing

/-!
The bounds for numbers that the schemas of a document set. They are read from numbers of the document, so
they have the form that rounding gives, which the checks of numbers rely on
(`Document.numberBounds_isRounded`).
-/

namespace OpenApi

/-- The bounds for numbers have the form that rounding gives. -/
structure Keywords.HasRoundedBounds {σ : Type} (k : Keywords σ) : Prop where
  minimum : ∀ bound ∈ k.minimum, bound.IsRounded
  maximum : ∀ bound ∈ k.maximum, bound.IsRounded
  exclusiveMinimum : ∀ bound, k.exclusiveMinimum = some (.bound bound) → bound.IsRounded
  exclusiveMaximum : ∀ bound, k.exclusiveMaximum = some (.bound bound) → bound.IsRounded

namespace Schema

variable {value : Json} {k : Keywords Schema}

theorem toBinary64_isRounded {number : JsonNumber} (h : Json.IsRounded (.number number)) :
    number.toBinary64.IsRounded := by
  cases number with
  | integer i => exact Binary64.ofInt_isRounded i
  | binary x => exact Json.isRounded_binary.1 h

theorem number?_isRounded {bound : Option Binary64} (hvalue : value.IsRounded)
    (h : optional? number? value = some bound) : ∀ b ∈ bound, b.IsRounded := by
  rintro b rfl
  obtain ⟨-, h⟩ := optional?_eq_some h
  unfold number? at h
  split at h
  · cases h
    exact toBinary64_isRounded hvalue
  · cases h

theorem exclusive?_isRounded {bound : Option ExclusiveBound} (hvalue : value.IsRounded)
    (h : optional? exclusive? value = some bound) : ∀ b, bound = some (.bound b) → b.IsRounded := by
  rintro b rfl
  obtain ⟨-, h⟩ := optional?_eq_some h
  unfold exclusive? at h
  split at h
  · cases h
  · cases h
    exact toBinary64_isRounded hvalue
  · cases h

theorem keywords?_hasRoundedBounds {members : List (String × Json)}
    (hmembers : ∀ m ∈ members, m.2.IsRounded) (h : keywords? members = some k) :
    k.HasRoundedBounds := by
  induction members generalizing k with
  | nil =>
    rw [keywords?] at h
    cases h
    constructor <;> simp
  | cons m rest ih =>
    obtain ⟨name, value⟩ := m
    have hvalue : value.IsRounded := hmembers _ List.mem_cons_self
    obtain ⟨k₀, hk, hadds⟩ := keywords?_cons h
    replace ih := ih (fun m hm => hmembers m (List.mem_cons_of_mem _ hm)) hk
    cases hadds with
    | minimum hread => exact { ih with minimum := number?_isRounded hvalue hread }
    | maximum hread => exact { ih with maximum := number?_isRounded hvalue hread }
    | exclusiveMinimum hread => exact { ih with exclusiveMinimum := exclusive?_isRounded hvalue hread }
    | exclusiveMaximum hread => exact { ih with exclusiveMaximum := exclusive?_isRounded hvalue hread }
    | _ => exact { ih with }

theorem listed?_hasRoundedBounds {values : List Json} (hvalues : ∀ value ∈ values, value.IsRounded)
    (h : listed? values = some k) : k.HasRoundedBounds := by
  obtain ⟨l, rfl, read⟩ := listed?_eq_some h
  exact {
    minimum := number?_isRounded (hvalues _ (by simp [Listed.values])) read.minimum
    maximum := number?_isRounded (hvalues _ (by simp [Listed.values])) read.maximum
    exclusiveMinimum :=
      exclusive?_isRounded (hvalues _ (by simp [Listed.values])) read.exclusiveMinimum
    exclusiveMaximum :=
      exclusive?_isRounded (hvalues _ (by simp [Listed.values])) read.exclusiveMaximum }

theorem decode?_hasRoundedBounds (hvalue : value.IsRounded) (h : decode? value = some (.inline k)) :
    k.HasRoundedBounds := by
  cases value with
  | object members =>
    rw [decode?] at h
    split at h
    · cases h
    · obtain ⟨k', hk, heq⟩ := Option.map_eq_some_iff.1 h
      cases heq
      exact keywords?_hasRoundedBounds (Json.isRounded_object.1 hvalue) hk
  | array values =>
    rw [decode?] at h
    obtain ⟨k', hk, heq⟩ := Option.map_eq_some_iff.1 h
    cases heq
    exact listed?_hasRoundedBounds (Json.isRounded_array.1 hvalue) hk
  | bool accepts => cases h
  | _ => cases h

end Schema

/-- Wherever a schema stands in a document that was read, its bounds are rounded. -/
theorem Document.numberBounds_isRounded {text : String} {doc : Document}
    (h : ofJsonText text = .ok doc ∨ ofYamlText text = .ok doc) {value : Json}
    (hvalue : value ∈ doc.raw.values) {k : Keywords Schema}
    (hk : Schema.decode? value = some (.inline k)) : ∀ bound ∈ k.numberBounds, bound.IsRounded := by
  have hrounded := Schema.decode?_hasRoundedBounds
    ((h.elim ofJsonText_isRounded ofYamlText_isRounded).of_mem_values hvalue) hk
  intro bound hbound
  simp only [Keywords.numberBounds, List.mem_append, Option.mem_toList,
    Keywords.bind_bound?_eq_some] at hbound
  obtain ((h | h) | h) | h := hbound
  · exact hrounded.minimum bound h
  · exact hrounded.exclusiveMinimum bound h
  · exact hrounded.maximum bound h
  · exact hrounded.exclusiveMaximum bound h

/-- For a schema of a document that was read, a number gets past the statements for its bounds if and
only if the schema admits the number. -/
theorem Document.numberChecks_admit_iff {text : String} {doc : Document}
    (h : ofJsonText text = .ok doc ∨ ofYamlText text = .ok doc) {json : Json}
    (hjson : json ∈ doc.raw.values) {k : Keywords Schema}
    (hk : Schema.decode? json = some (.inline k)) {value : String}
    (hvalue : value.toList.all Name.isIdentifierPart = true) (location : Location) (parameter : String)
    (s : Progress) : ∃ statements s',
      Compiler.failChecks location parameter (k.numberChecks value) s = .ok (statements, s') ∧
        ∀ v : ℚ, (∀ statement ∈ statements, ∀ comparison,
          Comparison.ofStatement? value statement.render.toList = some comparison →
            ¬comparison.Holds v) ↔ k.AdmitsNumber v := by
  obtain ⟨statements, s', hchecks, hpass⟩ :=
    Compiler.failChecks_pass_iff location parameter value (k.numberChecks value) s
  have hbounds := numberBounds_isRounded h hjson hk
  exact ⟨statements, s', hchecks, fun v =>
    (hpass v).trans (Keywords.passes_numberChecks_iff hvalue hbounds)⟩

end OpenApi
