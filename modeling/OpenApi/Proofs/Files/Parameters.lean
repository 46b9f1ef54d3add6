import OpenApi.Compiler.ClientCall
import OpenApi.Proofs.Files.Arguments

/-!
The parameters of an operation and those of its path. They are put one after the other, and none takes
the place of another: where both declare a parameter under the same name and at the same location, the
operation has it twice (`resolveOperation_overlap`). Whoever searches the list finds the declaration of
the path first (`resolveOperation_joins`).
-/

/-- A list is gone through to the end if nothing fails for any of its elements. -/
theorem Except.mapM_eq_ok {ε α β : Type} {f : α → Except ε β} {xs : List α} {ys : List β}
    (h : List.Forall₂ (fun x y => f x = .ok y) xs ys) : xs.mapM f = .ok ys := by
  induction h with
  | nil => rfl
  | cons hx _ ih =>
    rw [List.mapM_cons, hx, ih]
    rfl

namespace OpenApi

/-- What is to tell a parameter from the others of an operation. -/
def Parameter.key (p : Parameter) : String × Location := (p.name, p.location)

/-- The first parameter of the path under a name. -/
def pathParameter? (parameters : List Parameter) (name : String) : Option Parameter :=
  parameters.find? fun p => p.key = (name, .path)

/-- The text of a parameter as a segment of a path. -/
def Compiler.packedSegment (c : Compiler) (p : Parameter) (name : String) : Compile Code := do
  let text ← c.packText p "path parameter" (Parameter.given name)
  return Code.cat ["encodeURIComponent", text.parens]

/-- The operation has the parameters `shared` of its path, and after them its own. -/
structure ResolvedOperation.Joins (o : ResolvedOperation) (shared own : List Parameter) : Prop where
  parameters : o.parameters = shared ++ own
  /-- no parameter is declared twice if neither does so and they share none -/
  distinct : (o.parameters.map Parameter.key).Nodup ↔
    (shared.map Parameter.key).Nodup ∧ (own.map Parameter.key).Nodup ∧
      ∀ p ∈ shared, ∀ q ∈ own, p.key ≠ q.key
  /-- the type of the parameters has a field for each of them, in order -/
  type : ∀ (c : Compiler) (side : Side), Ensures (c.parametersType o side) fun type =>
    if shared ++ own = [] then type = none
    else ∃ fields, List.Forall₂ (Field.Stands side) (shared ++ own) fields ∧
      type = some (Field.objectType fields)
  /-- a placeholder is filled in as the path declares it, or else as the operation does -/
  segment : ∀ (c : Compiler) (name : String) (p : Parameter),
    (pathParameter? shared name).or (pathParameter? own name) = some p →
      c.pathSegment o name = c.packedSegment p name

namespace ResolvedOperation

variable {o : ResolvedOperation} {shared own : List Parameter}

theorem find?_parametersAt (name : String) :
    (o.parametersAt .path).find? (·.name == name) = pathParameter? o.parameters name := by
  rw [parametersAt, List.find?_filter, pathParameter?]
  congr 1
  funext p
  simp [Parameter.key, and_comm]

theorem Joins.of_eq (h : o.parameters = shared ++ own) : o.Joins shared own where
  parameters := h
  distinct := by
    rw [h, List.map_append, List.nodup_append]
    simp
  type _ side := h ▸ Compiler.parametersType_stands side
  segment c name p hp := by
    unfold Compiler.pathSegment
    rw [find?_parametersAt, h, pathParameter?, List.find?_append]
    simp only [pathParameter?] at hp
    rw [hp]
    rfl

end ResolvedOperation

/-- The parameters of a path and of an operation, references followed, are those of the operation. -/
theorem Document.resolveOperation_joins {doc : Document} {path : String} {item : PathItem}
    {method : Method} {operation : Operation} {id : String} {shared own : List Parameter}
    (hid : operation.operationId = some id)
    (hshared : List.Forall₂ (fun node p => doc.deref .parameter node = .ok p) item.parameters shared)
    (hown : List.Forall₂ (fun node p => doc.deref .parameter node = .ok p) operation.parameters own) :
    ∃ o, doc.resolveOperation path item method operation = .ok o ∧ o.Joins shared own := by
  have hparameters : (item.parameters ++ operation.parameters).mapM (doc.deref .parameter) =
      .ok (shared ++ own) := Except.mapM_eq_ok (List.rel_append hshared hown)
  unfold resolveOperation
  rw [hid, hparameters]
  exact ⟨_, rfl, .of_eq rfl⟩

/-- Where notes are looked up by a number. -/
def noteNumbers : Document where
  raw := .object [("components", .object [("parameters", .object [("Number", .object [
    ("name", .string "number"), ("in", .string "path"), ("required", .bool true),
    ("schema", .object [("type", .string "integer")])])])])]
  spec := { openapi := "3.0.3", info := { title := "Notes", version := "1" } }

/-- The number of a note is declared by the path, the page by the operation: both count once. -/
theorem Document.resolveOperation_joins_note :
    let item : PathItem := { parameters := [.ref "#/components/parameters/Number"] }
    let operation : Operation :=
      { operationId := some "readNote", parameters := [.inline { name := "page", location := .query }] }
    ∃ o number page, noteNumbers.resolveOperation "/notes/\x7bnumber\x7d" item .get operation = .ok o ∧
      o.parameters = [number, page] ∧ number.key = ("number", .path) ∧ page.key = ("page", .query) ∧
      (o.parameters.map Parameter.key).Nodup ∧
      ∀ c : Compiler, c.pathSegment o "number" = c.packedSegment number "number" := by
  intro item operation
  have hnumber : noteNumbers.deref .parameter (.ref "#/components/parameters/Number") =
      .ok { name := "number", location := .path, required := true,
            schema := some (.inline { type := some .integer }) } := by
    with_unfolding_all rfl
  obtain ⟨o, ho, hjoins⟩ : ∃ o, noteNumbers.resolveOperation "/notes/\x7bnumber\x7d" item .get
      operation = .ok o ∧ o.Joins [_] [_] :=
    resolveOperation_joins rfl (.cons hnumber .nil) (.cons rfl .nil)
  refine ⟨o, _, _, ho, hjoins.parameters, rfl, rfl, hjoins.distinct.2 ?_, fun c =>
    hjoins.segment c "number" _ rfl⟩
  simp [Parameter.key]

/-- The moment of a note is declared by the path as a date, and by the operation as a number. The
parameter counts twice, the type of the parameters repeats its key, and the path is filled in with the
date. -/
theorem Document.resolveOperation_overlap :
    let moment : Parameter :=
      { name := "at", location := .path, required := true,
        schema := some (.inline { type := some .string, format := some "date-time" }) }
    let number : Parameter :=
      { name := "at", location := .path, required := true,
        schema := some (.inline { type := some .number }) }
    let item : PathItem := { parameters := [.inline moment] }
    let operation : Operation := { operationId := some "readNote", parameters := [.inline number] }
    let c : Compiler := { document := noteNumbers, formats := Registry.builtin "./runtime" }
    ∃ o, noteNumbers.resolveOperation "/notes/\x7bat\x7d" item .get operation = .ok o ∧
      o.parameters = [moment, number] ∧ moment.key = number.key ∧
      (∃ type s, c.parametersType o .client {} = .ok (some type, s) ∧
        type.render = "\x7b \"at\": Date; \"at\": number \x7d") ∧
      ∃ code s, c.pathSegment o "at" {} = .ok (code, s) ∧
        code.render = "encodeURIComponent(params[\"at\"].toISOString())" := by
  intro moment number item operation c
  let o : ResolvedOperation :=
    { path := "/notes/\x7bat\x7d", method := .get, operation, id := "readNote",
      parameters := [moment, number], authenticated := false }
  obtain ⟨⟨type, s⟩, htype, hkeys⟩ := Except.eq_ok_of_any
    (show (c.parametersType o .client {}).toOption.any (fun result => result.1.any fun type =>
      type.render == "\x7b \"at\": Date; \"at\": number \x7d") = true by decide +kernel)
  obtain ⟨⟨code, t⟩, hcode, hdate⟩ := Except.eq_ok_of_any
    (show (c.pathSegment o "at" {}).toOption.any (fun result =>
      result.1.render == "encodeURIComponent(params[\"at\"].toISOString())") = true by
        decide +kernel)
  obtain ⟨type, rfl, hkeys⟩ := (Option.any_eq_true _ _).1 hkeys
  exact ⟨o, rfl, rfl, rfl, ⟨type, s, htype, beq_iff_eq.1 hkeys⟩, code, t, hcode, beq_iff_eq.1 hdate⟩

end OpenApi
