import OpenApi.Proofs.Code.Lines
import OpenApi.Proofs.Files.AuditedFunctions
import OpenApi.Proofs.Types.Texts

/-!
All code that is written is balanced: whatever names, values, patterns, paths and texts a document has,
the brackets outside of literals and comments match, as long as the formats keep that up. The lines of
functions are indented by a builder that closes all the blocks that it opens, and no others.
-/

namespace OpenApi

/-! ## Balanced code -/

/-- The whole text can be read, and all its brackets are closed; what is inside of literals and comments
does not count, but the holes of template literals do. -/
def Code.IsBalanced (code : Code) : Prop :=
  Lex.Sound Lex.everything (code.render.toList.map .char)

/-- Formats whose types are balanced, and whose templates give balanced code for balanced values. -/
structure Format.IsBalanced (format : Format) : Prop where
  type : format.typeCode.IsBalanced
  convert (d : Direction) (value : Code) (h : value.IsBalanced) : (format.convertCode d value).IsBalanced
  test (value : Code) (h : value.IsBalanced) : ∀ test ∈ format.instanceCode? value, test.IsBalanced

/-- All registered formats are balanced. -/
def Registry.IsBalanced (formats : Registry) : Prop :=
  ∀ name, ∀ format ∈ formats.get? name, format.IsBalanced

/-- The reader that sees everything. -/
def Reader.whole : Reader where
  toRules := Lex.everything
  shows _ := true
  shows_site := rfl
  lenient := Lex.strict_refines_everything true

/-- The audit in which everything is covered. -/
def Audit.whole : Audit where
  toReader := .whole
  covers _ := True
  covers_within _ _ := trivial
  mayConvert _ _ := True
  runtime _ _ := rfl
  queryString _ _ := rfl

namespace Reader

theorem whole_glyphs (code : Code) : whole.glyphs code = code.render.toList.map .char :=
  glyphs_shown (fun _ => rfl) code

theorem whole_sound {code : Code} : whole.Sound code ↔ code.IsBalanced := by
  rw [Sound, whole_glyphs]
  rfl

/-- Where the text of formats is seen, lines may break anywhere. -/
theorem whole_line {code : Code} (h : code.IsBalanced) : whole.Line code :=
  ⟨whole_sound.2 h, fun hhide => nomatch hhide ""⟩

theorem whole_value {code : Code} : whole.Value code ↔ code.IsBalanced := by
  rw [← whole_sound]
  refine ⟨Value.sound, ?_⟩
  rintro ⟨s, hs, hrest⟩
  exact ⟨s, hs, hrest, rfl⟩

theorem whole_operand {code : Code} (h : code.IsBalanced) : whole.Operand code :=
  ⟨whole_value.2 h, whole_glyphs code⟩

end Reader

theorem Audit.whole_suits {c : Compiler}
    (hqualifier : ∀ types ∈ c.qualifier, types.toList.all Name.isIdentifierPart = true)
    (hformats : c.formats.IsBalanced) : Audit.whole.Suits c where
  qualifier types h := ⟨hqualifier types h, fun _ _ => rfl⟩
  formats {name format} h _ _ := by
    have hformat := hformats name format h
    exact {
      type := Reader.whole_sound.2 hformat.type
      convert d value hvalue :=
        Reader.whole_sound.2 (hformat.convert d value (Reader.whole_value.1 hvalue))
      test hvalue test htest :=
        Reader.whole_sound.2 (hformat.test _ (Reader.whole_value.1 hvalue) test htest) }
  functions _ _ := rfl

/-! ## Formats whose text is closed -/

theorem Format.isBalanced_of_closes {f : Format} (h : f.closes = true) : f.IsBalanced := by
  have htreats := Reader.treats_shown (r := Reader.whole) (Lex.refines_everything fun _ => rfl)
    (fun _ => rfl) h
  have value {code : Code} (h : code.IsBalanced) : Reader.whole.Value code := Reader.whole_value.2 h
  constructor
  · exact Reader.whole_sound.1 htreats.type
  · exact fun d code hcode => Reader.whole_sound.1 (htreats.convert d (value hcode))
  · exact fun code hcode test h => Reader.whole_sound.1 (htreats.test (value hcode) test h)

/-- The built-in formats are balanced. -/
theorem Registry.builtin_isBalanced (runtimeModule : String) :
    (Registry.builtin runtimeModule).IsBalanced := fun name format h =>
  Format.isBalanced_of_closes (all_builtin_closes runtimeModule name format h).2

/-! ## Functions -/

/-- The code is a function whose statements are written by a builder that begins inside of its braces:
the builder closes no block but those that it has opened, and it ends as deep as it began. -/
def Code.IsBuilt (code : Code) (statements : List Statement) : Prop :=
  ∃ head lines, Lines.run 1 { depth := 1 } (Statement.stepsOfAll statements) = some lines ∧
    lines.depth = 1 ∧
    code = Statement.indented 0 (head ++ " \x7b") ++ lines.out ++ Statement.indented 0 "\x7d"

theorem Statement.only_isBuilt (head : Code) (body : List Statement) :
    ((Statement.only head body).code 0).IsBuilt body := by
  refine ⟨head, _, Statement.run_stepsOfAll (Nat.le_refl 1) Code.empty body, rfl, ?_⟩
  dsimp only
  rw [← Code.append_assoc, Code.append_empty, only, code, codeOfOthers]

/-- The step may return this. -/
def Compile.Returns {α : Type} (step : Compile α) (a : α) : Prop := ∃ s s', step s = .ok (a, s')

namespace Compiler

variable (c : Compiler) (o : ResolvedOperation)

/-- After its comment, the code is the function of a client: a builder writes the statements of the
request and of the responses. -/
def BuildsCall (call : Code) : Prop :=
  ∃ body cases request response function, c.document.requestBody? o = .ok body ∧
    Yields.yields (c.document.responseCases o .client) cases ∧
    (c.requestStatements o body).Returns request ∧ (c.responsesStatement cases).Returns response ∧
    call = Code.site o.operation.docComment ++ function ∧ function.IsBuilt (request ++ [response])

/-- The code is the function of a server: a builder writes the statements that read the request, and
those that answer it. -/
def BuildsEndpoint (endpoint : Code) : Prop :=
  ∃ body cases result parameters read answer, c.document.requestBody? o = .ok body ∧
    Yields.yields (c.document.responseCases o .server) cases ∧
    (c.readParameters o).Returns parameters ∧ (c.readBody body).Returns read ∧
    (c.answer cases result (parameters.2 ++ read.2)).Returns answer ∧
    endpoint.IsBuilt (parameters.1 ++ read.1 ++ answer)

variable {c o}

theorem clientCall_isBuilt : Ensures (c.clientCall o) (c.BuildsCall o) := by
  refine .bind_any fun caller => .bind_any fun parameters => .bind_read' fun body hbody => ?_
  refine .bind_any fun bodyType => .bind_read fun cases hcases => .bind_any fun variants => ?_
  refine .bind (.lift (.result (c.requestStatements o body))) fun request hrequest => ?_
  refine .bind (.lift (.result (c.responsesStatement cases))) fun response hresponse => .pure ?_
  exact ⟨body, cases, request, response, _, hbody, hcases, hrequest, hresponse, rfl,
    Statement.only_isBuilt _ _⟩

theorem endpoint_isBuilt (handlerType : String) :
    Ensures (c.endpoint o handlerType) (c.BuildsEndpoint o) := by
  refine .bind_any fun request => .bind_any fun response => ?_
  refine .bind (.lift (.result (c.readParameters o))) fun ⟨read, parameters⟩ hparameters => ?_
  refine .bind_read' fun body hbody => ?_
  refine .bind (.lift (.result (c.readBody body))) fun ⟨readBody, argument⟩ hread => ?_
  refine .bind_any fun result => .bind_read fun cases hcases => ?_
  refine .bind (.lift (.result (c.answer cases result (parameters ++ argument)))) fun answer hanswer => ?_
  refine .pure ?_
  exact ⟨body, cases, result, _, _, answer, hbody, hcases, hparameters, hread, hanswer,
    Statement.only_isBuilt _ _⟩

end Compiler

/-- If the formats are balanced, then so are the types of all schemas, the conversions of all balanced
values in both directions, and the functions and types of all operations; and the functions are built by
a builder that ends as deep as it began without ever closing more than it had opened. -/
theorem code_isBalanced {c : Compiler}
    (hqualifier : ∀ types ∈ c.qualifier, types.toList.all Name.isIdentifierPart = true)
    (hformats : c.formats.IsBalanced) :
    (∀ schema, Ensures (c.schemaType schema) Code.IsBalanced) ∧
    (∀ d schema value, value.IsBalanced → Ensures (c.convert? d schema value) fun converted? =>
      ∀ converted ∈ converted?, converted.IsBalanced) ∧
    (∀ o, Ensures (c.clientCall o) fun call => call.IsBalanced ∧ c.BuildsCall o call) ∧
    (∀ o, Ensures (c.handlerType o) Code.IsBalanced) ∧
    ∀ o handlerType, (Code.site handlerType).IsBalanced → Ensures (c.endpoint o handlerType)
      fun endpoint => endpoint.IsBalanced ∧ c.BuildsEndpoint o endpoint := by
  have hsuits := Audit.whole_suits hqualifier hformats
  have sound {code : Code} (h : Reader.whole.Sound code) : code.IsBalanced := Reader.whole_sound.1 h
  have hcovers : ∀ s, Audit.whole.Covers s := fun _ => ⟨trivial, fun _ => trivial⟩
  refine ⟨fun schema => ?_, fun d schema value hvalue => ?_, fun o => ?_, fun o => ?_,
    fun o handlerType htype => ?_⟩
  · exact ((Compiler.schemaType_writes hsuits schema).ensures hcovers).mono fun _ => sound
  · have hconvert := Compiler.convert?_writes hsuits d schema (Reader.whole_operand hvalue)
    exact (hconvert.ensures hcovers).mono fun _ h converted hmem => sound (h converted hmem)
  · refine .and ?_ Compiler.clientCall_isBuilt
    exact ((Compiler.clientCall_writes hsuits o rfl).ensures hcovers).mono fun _ h =>
      sound (Reader.Complete.sound h)
  · exact ((Compiler.handlerType_writes hsuits o).ensures hcovers).mono fun _ h =>
      sound (Reader.Complete.sound h)
  · refine .and ?_ (Compiler.endpoint_isBuilt handlerType)
    exact ((Compiler.endpoint_writes hsuits o rfl (Reader.whole_line htype)).ensures hcovers).mono
      fun _ h => sound (Reader.Complete.sound h)

/-- Objects with a date under a name that is a bracket. -/
def bracketSchema : Schema :=
  .inline { properties := [("]\"", .inline { type := some .string, format := some "date-time" })] }

/-- An operation whose path, texts and names are full of brackets. -/
def bracketOperation : ResolvedOperation where
  path := "/(\x60\x7b/\x7bid\x7d"
  method := .post
  operation := {
    operationId := some "send"
    summary := some "*/ \x7b"
    requestBody := some (.inline {
      content := [("application/json", { schema := some bracketSchema })] })
    responses := [("204", .inline {})] }
  id := "send"
  parameters := [{ name := "id", location := .path, schema := some (.inline { type := some .string }) }]
  authenticated := true

/-- None of these brackets is one of the code. -/
theorem code_isBalanced_brackets :
    let c : Compiler := {
      document := {
        raw := .null
        spec := { openapi := "3.0.3", info := { title := "", version := "" } } }
      formats := Registry.builtin "./runtime"
      qualifier := some "Types" }
    ∃ type converted call handler endpoint : Code,
      (Compile.Returns (c.schemaType bracketSchema) type ∧ type.IsBalanced) ∧
      (Compile.Returns (c.convert? .parse bracketSchema "value") (some converted) ∧
        converted.IsBalanced) ∧
      (call.IsBalanced ∧ c.BuildsCall bracketOperation call) ∧ handler.IsBalanced ∧
      endpoint.IsBalanced ∧ c.BuildsEndpoint bracketOperation endpoint := by
  intro c
  obtain ⟨⟨type, s⟩, htype, _⟩ := Except.eq_ok_of_any
    (show (c.schemaType bracketSchema {}).toOption.any (fun _ => true) = true by decide +kernel)
  obtain ⟨⟨converted?, t⟩, hconverted, hsome⟩ := Except.eq_ok_of_any
    (show (c.convert? .parse bracketSchema "value" {}).toOption.any
      (fun result => result.1.isSome) = true by decide +kernel)
  obtain ⟨converted, rfl⟩ := Option.isSome_iff_exists.1 hsome
  obtain ⟨⟨call, u⟩, hcall, _⟩ := Except.pair_eq_ok_of_any
    (show (c.clientCall bracketOperation {} []).1.toOption.any (fun _ => true) = true by decide +kernel)
  obtain ⟨⟨handler, v⟩, hhandler, _⟩ := Except.pair_eq_ok_of_any
    (show (c.handlerType bracketOperation {} []).1.toOption.any (fun _ => true) = true by decide +kernel)
  obtain ⟨⟨endpoint, w⟩, hendpoint, _⟩ := Except.pair_eq_ok_of_any
    (show (c.endpoint bracketOperation "SendHandler" {} []).1.toOption.any (fun _ => true) = true by
      decide +kernel)
  have given {text : List Char} (h : Lex.Piece.close [.text text] = true) :
      (Code.site (String.ofList text)).IsBalanced := Reader.whole_sound.1 (Reader.sound_given h)
  obtain ⟨types, conversions, calls, handlers, endpoints⟩ := code_isBalanced (c := c)
    (fun types h => by cases h; decide) (Registry.builtin_isBalanced "./runtime")
  exact ⟨type, converted, call, handler, endpoint, ⟨⟨_, _, htype⟩, types _ _ _ _ htype⟩,
    ⟨⟨_, _, hconverted⟩, conversions _ _ _ (given (by decide)) _ _ _ hconverted _ rfl⟩,
    calls _ _ _ _ ⟨_, _, hcall⟩, handlers _ _ _ _ ⟨_, _, hhandler⟩,
    endpoints _ _ (given (by decide)) _ _ _ ⟨_, _, hendpoint⟩⟩

end OpenApi
