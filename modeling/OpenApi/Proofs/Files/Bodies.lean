import OpenApi.Compiler.BodyValue
import OpenApi.Proofs.Conversion.Notes

/-!
Bodies of text and of bytes. Their type and the way they are read do not depend on the schema that the
content type has. What is written for such a body is the value as it is, but the schema is converted all
the same: where it has no conversion, the body cannot be written, and what the conversion needs is
noted although it is used nowhere (`Compiler.encodeBody_ignores_iff`).
-/

namespace OpenApi

namespace Compiler

variable {c : Compiler} {codec : Codec} {media : MediaType} {value : Code} {s s' : Progress}

/-- The schema of a body of text or bytes is converted, and the conversion is dropped. -/
theorem encodeBody_eq (hcodec : codec = .text ∨ codec = .binary ∨ codec = .raw) :
    c.encodeBody codec media value s = match media.schema with
      | none => .ok (value, s)
      | some schema => (c.convert? .serialize schema value s).map fun p => (value, p.2) := by
  unfold encodeBody
  cases media.schema with
  | none => rcases hcodec with rfl | rfl | rfl <;> rfl
  | some schema =>
    dsimp only [convert]
    rw [Compile.bind_apply, Compile.bind_apply]
    cases c.convert? .serialize schema value s with
    | error e => rfl
    | ok p => rcases hcodec with rfl | rfl | rfl <;> rfl

/-- Bodies of text and of bytes are typed and read without regard to their schema. They are written as
they are in every context, without leaving anything behind in it, if and only if their schema, if they
have one, can be converted and is not noted; they can be written if and only if it can be converted. -/
theorem encodeBody_ignores_iff (c : Compiler) {codec : Codec}
    (hcodec : codec = .text ∨ codec = .binary ∨ codec = .raw) (media : MediaType) (value : Code) :
    (∀ other, c.bodyType codec media = c.bodyType codec other ∧
      ∀ source, c.decodeBody codec media source = c.decodeBody codec other source) ∧
    ((∀ s, c.History s.probes →
        ∃ s', c.encodeBody codec media value s = .ok (value, s') ∧ s'.context = s.context) ↔
      ∀ schema ∈ media.schema,
        Convertible c .serialize (safe c .serialize ∅) schema ∧ ¬Noted c .serialize schema) ∧
    ∀ s, c.History s.probes →
      ((∃ code s', c.encodeBody codec media value s = .ok (code, s')) ↔
        ∀ schema ∈ media.schema, Convertible c .serialize (safe c .serialize ∅) schema) ∧
      ∀ code s', c.encodeBody codec media value s = .ok (code, s') → code = value := by
  refine ⟨fun other => ?_, ?_, fun s history => ?_⟩
  · rcases hcodec with rfl | rfl | rfl <;> exact ⟨rfl, fun _ => rfl⟩
  · simp only [encodeBody_eq hcodec]
    cases media.schema with
    | none => exact iff_of_true (fun s _ => ⟨s, rfl, rfl⟩) nofun
    | some schema =>
      simp only [Option.mem_some_iff, forall_eq']
      rw [← convert?_unnoticed_iff value]
      refine forall_congr' fun s => imp_congr_right fun _ => ?_
      cases c.convert? .serialize schema value s with
      | error e => exact iff_of_false nofun nofun
      | ok p =>
        constructor
        · rintro ⟨_, h, hcontext⟩
          cases h
          exact ⟨p.1, p.2, rfl, hcontext⟩
        · rintro ⟨_, s', h, hcontext⟩
          cases h
          exact ⟨s', rfl, hcontext⟩
  · rw [encodeBody_eq hcodec]
    cases media.schema with
    | none => exact ⟨iff_of_true ⟨value, s, rfl⟩ nofun, fun _ _ h => by cases h; rfl⟩
    | some schema =>
      simp only [Option.mem_some_iff, forall_eq']
      rw [← convertTo_ok_iff value history le_rfl]
      change (_ ↔ ∃ r s', c.convert? .serialize schema value s = .ok (r, s')) ∧ _
      cases c.convert? .serialize schema value s with
      | error e => exact ⟨iff_of_false nofun nofun, nofun⟩
      | ok p => exact ⟨iff_of_true ⟨value, p.2, rfl⟩ ⟨p.1, p.2, rfl⟩, fun _ _ h => by cases h; rfl⟩

/-- A document without components, with the formats that are always there. -/
def formatsOnly : Compiler where
  document := { raw := .object [], spec := default }
  formats := Registry.builtin "./runtime"

/-- Dates are serialized without any import, so that a body of text that is one leaves a new context
empty. -/
theorem encodeBody_ignores_date : ∃ s',
    formatsOnly.encodeBody .text
      { schema := some (.inline { type := some .string, format := some "date-time" }) } "body.value" {} =
        .ok ("body.value", s') ∧ s'.context = {} := by
  refine (encodeBody_ignores_iff formatsOnly (.inl rfl) _ _).2.1.2 (fun schema hschema => ?_) {} .start
  cases hschema
  obtain ⟨date, hdate, himports⟩ : ∃ date, formatsOnly.outline 0
      { type := some .string, format := some "date-time" } = .ok { formats := [date] } ∧
      date.imports = [] := ⟨_, rfl, rfl⟩
  refine ⟨.inline ⟨0, hdate⟩ nofun nofun, fun h => ?_⟩
  rcases (Noted.inline_iff hdate rfl).1 h with hnames | ⟨_, hmem, _, hne⟩ | ⟨hthrows, _⟩ | ⟨_, hmem, _⟩
  · exact hnames rfl
  · exact hne (List.mem_singleton.1 hmem ▸ himports)
  · exact hthrows.2.1 rfl
  · cases hmem

/-- A body of bytes whose schema says so cannot be written, as there is no format for it. -/
theorem encodeBody_binary_fails : ¬∃ s', formatsOnly.encodeBody .binary
    { schema := some (.inline { type := some .string, format := some "binary" }) } "body.value" {} =
      .ok ("body.value", s') := by
  rintro ⟨s', h⟩
  cases h

end Compiler

end OpenApi
