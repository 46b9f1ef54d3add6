import OpenApi.Proofs.Files.Writers

/-!
The functions for operations, and the files of a client and of a server, keep what the conversions
keep: the schemas of an operation are among those whose references the document mentions.
-/

namespace OpenApi

theorem Content.mem_schemas {content : Content} {contentType : String} {media : MediaType}
    {schema : Schema} (h : (contentType, media) ∈ content) (hschema : schema ∈ media.schema) :
    schema ∈ content.schemas :=
  List.mem_filterMap.2 ⟨_, h, hschema⟩

theorem ResolvedOperation.parametersAt_subset (o : ResolvedOperation) (location : Location) :
    o.parametersAt location ⊆ o.parameters := List.filter_subset_self _

/-- The schemas of a response. -/
def ResponseCase.schemas (case : ResponseCase) : List Schema :=
  case.content.schemas ++ case.headers.flatMap fun (_, header) => header.schemas

namespace Compiler

variable {c : Compiler} {P : Probes → Prop} (hP : c.Converting P)

include hP

/-! ## Requests of a client -/

theorem packText_keeps {p : Parameter} (h : ∀ schema ∈ p.schemas, schema ∈ c.document.mentioned)
    (place : String) (value : Code) : Keeps P (c.packText p place value) := by
  refine .bind (pack_keeps hP h value) fun packed => ?_
  cases packed with
  | pairs => exact .throw _
  | text => exact .pure _

theorem requestPairs_keeps {p : Parameter}
    (h : ∀ schema ∈ p.schemas, schema ∈ c.document.mentioned) : Keeps P (c.requestPairs p) := by
  refine .bind (pack_keeps hP h _) fun packed => ?_
  cases packed with
  | pairs => exact .pure_bind (.ite (.pure _) (.pure _))
  | text => exact .pure_bind (.ite (.pure _) (.pure _))

theorem headerPair_keeps {p : Parameter} (h : ∀ schema ∈ p.schemas, schema ∈ c.document.mentioned)
    (place : String) (value : Code) : Keeps P (c.headerPair p place value) :=
  .bind (packText_keeps hP h _ _) fun _ => .ite (.pure _) (.pure _)

theorem payloadStatements_keeps {body : RequestBody}
    (h : ∀ schema ∈ body.content.schemas, schema ∈ c.document.mentioned) :
    Keeps P (c.payloadStatements body) := by
  refine .bind (.mapM fun ⟨contentType, media⟩ hmem => ?_) fun _ => .pure _
  have hmedia : ∀ schema ∈ media.schema, schema ∈ c.document.mentioned :=
    fun schema hschema => h schema (Content.mem_schemas hmem hschema)
  exact .bind (encodeBody_keeps hP _ hmedia _) fun _ => .pure _

section

variable {o : ResolvedOperation}
  (ho : ∀ p ∈ o.parameters, ∀ schema ∈ p.schemas, schema ∈ c.document.mentioned)

include ho

theorem pathSegment_keeps (name : String) : Keeps P (c.pathSegment o name) := by
  unfold pathSegment
  dsimp only
  split
  case h_1 p hp =>
    have hmem : p ∈ o.parameters := o.parametersAt_subset _ (List.mem_of_find?_eq_some hp)
    exact .bind (packText_keeps hP (ho p hmem) _ _) fun _ => .pure _
  case h_2 => exact .pure_bind (.pure _)

theorem requestPath_keeps : Keeps P (c.requestPath o) :=
  .bind (.mapM fun _ _ => .bind (pathSegment_keeps hP ho _) fun _ => .pure _) fun _ => .pure _

theorem requestStatements_keeps {body : Option RequestBody}
    (hbody : ∀ b ∈ body, ∀ schema ∈ b.content.schemas, schema ∈ c.document.mentioned) :
    Keeps P (c.requestStatements o body) := by
  have pairs (location : Location) : Keeps P ((o.parametersAt location).mapM c.requestPairs) :=
    .mapM fun p hp => requestPairs_keeps hP (ho p (o.parametersAt_subset _ hp))
  have headers : Keeps P ((o.parametersAt .header).mapM fun p =>
      c.headerPair p "header parameter" (Parameter.given p.name)) :=
    .mapM fun p hp => headerPair_keeps hP (ho p (o.parametersAt_subset _ hp)) _ _
  refine .bind (requestPath_keeps hP ho) fun path => .bind (pairs _) fun query => ?_
  refine .bind headers fun headers => .bind (pairs _) fun cookies => ?_
  have send {payload : Compile (List Statement)} (hpayload : Keeps P payload)
      (code : List Statement → String → List Statement) : Keeps P (do
        let payload ← payload
        let send ← Compile.runtime (if o.authenticated then "sendAuthenticated" else "send")
        return code payload send) :=
    .bind hpayload fun _ => .bind (.runtime _) fun _ => .pure _
  cases body with
  | none =>
    refine .ite (.bind (.pure _) fun _ => send (.pure _) _) ?_
    exact .bind (.runtime _) fun _ => .bind (.pure _) fun _ => send (.pure _) _
  | some body =>
    have payload := payloadStatements_keeps hP (hbody body rfl)
    refine .ite (.bind (.pure _) fun _ => send payload _) ?_
    exact .bind (.runtime _) fun _ => .bind (.pure _) fun _ => send payload _

end

/-! ## Responses to a client -/

theorem readHeader_keeps (name : String) {header : Header}
    (h : ∀ schema ∈ header.schemas, schema ∈ c.document.mentioned) :
    Keeps P (c.readHeader name header) := by
  refine .bind (.fresh _) fun raw =>
    .bind (unpack_keeps (p := header.toParameter name) hP h _) fun value => ?_
  exact .ite (.bind (.throwMalformed _ _ _) fun _ => .pure _) (.pure _)

theorem readHeaders_keeps {headers : Members Header}
    (h : ∀ entry ∈ headers, ∀ schema ∈ entry.2.schemas, schema ∈ c.document.mentioned) :
    Keeps P (c.readHeaders headers) := by
  refine .ite (.pure _) ?_
  refine .bind (.mapM fun entry hmem => readHeader_keeps hP _ (h entry hmem)) fun _ => ?_
  exact .bind (.fresh _) fun _ => .pure _

theorem readContent_keeps {content : Content}
    (h : ∀ schema ∈ content.schemas, schema ∈ c.document.mentioned) (members : List Code) :
    Keeps P (c.readContent content members) := by
  refine .ite (.pure _) (.bind (.runtime _) fun accepts => ?_)
  refine .bind (.mapM fun ⟨contentType, media⟩ hmem => ?_) fun _ =>
    .bind (.throwMalformed _ _ _) fun _ => .pure _
  have hmedia : ∀ schema ∈ media.schema, schema ∈ c.document.mentioned :=
    fun schema hschema => h schema (Content.mem_schemas hmem hschema)
  exact .bind (decodeBody_keeps hP _ hmedia _) fun _ => .pure _

section

variable {case : ResponseCase}
  (h : ∀ schema ∈ case.schemas, schema ∈ c.document.mentioned)

include h

omit hP in
theorem content_mentioned : ∀ schema ∈ case.content.schemas, schema ∈ c.document.mentioned :=
  fun schema hschema => h schema (List.mem_append_left _ hschema)

omit hP in
theorem headers_mentioned :
    ∀ entry ∈ case.headers, ∀ schema ∈ entry.2.schemas, schema ∈ c.document.mentioned :=
  fun entry hentry schema hschema =>
    h schema (List.mem_append_right _ (List.mem_flatMap.2 ⟨entry, hentry, hschema⟩))

theorem responseStatement_keeps : Keeps P (c.responseStatement case) := by
  refine .bind (readHeaders_keeps hP (headers_mentioned h)) fun read => ?_
  exact .bind (readContent_keeps hP (content_mentioned h) _) fun _ => .pure _

end

theorem responsesStatement_keeps {cases : List ResponseCase}
    (h : ∀ case ∈ cases, ∀ schema ∈ case.schemas, schema ∈ c.document.mentioned) :
    Keeps P (c.responsesStatement cases) :=
  .bind (.mapM fun case hcase => responseStatement_keeps hP (h case hcase)) fun _ =>
    .bind (.throwMalformed _ _ _) fun _ => .pure _

/-! ## Requests to a server -/

theorem readParameter_keeps {p : Parameter}
    (h : ∀ schema ∈ p.schemas, schema ∈ c.document.mentioned) : Keeps P (c.readParameter p) := by
  refine .bind (.fresh _) fun raw => .bind (unpack_keeps hP h _) fun unpacked => ?_
  refine .ite (.bind (.pure _) fun _ => .bind (.fresh _) fun _ => .pure _) ?_
  exact .bind (.throwMalformed _ _ _) fun _ => .bind (.pure _) fun _ =>
    .bind (.fresh _) fun _ => .pure _

theorem readParameters_keeps {o : ResolvedOperation}
    (ho : ∀ p ∈ o.parameters, ∀ schema ∈ p.schemas, schema ∈ c.document.mentioned) :
    Keeps P (c.readParameters o) := by
  refine .ite (.pure _) (.bind (.mapM fun p hp => readParameter_keeps hP (ho p hp)) fun _ => ?_)
  exact .bind (.fresh _) fun _ => .pure _

theorem readBody_keeps {body : Option RequestBody}
    (h : ∀ b ∈ body, ∀ schema ∈ b.content.schemas, schema ∈ c.document.mentioned) :
    Keeps P (c.readBody body) := by
  cases body with
  | none => exact .pure _
  | some declared =>
    refine .bind (.fresh _) fun name => .bind (bodyUnionType_keeps _) fun type => ?_
    refine .bind (.fresh _) fun contentType => .bind (.runtime _) fun accepts => ?_
    refine .bind (.mapM fun ⟨expected, media⟩ hmem => ?_) fun clauses => ?_
    · have hmedia : ∀ schema ∈ media.schema, schema ∈ c.document.mentioned :=
        fun schema hschema => h declared rfl schema (Content.mem_schemas hmem hschema)
      exact .bind (decodeBody_keeps hP _ hmedia _) fun _ => .pure _
    · refine .bind (.throwMalformed _ _ _) fun unsupported => ?_
      refine .ite (.bind (.pure _) fun _ => .pure _) ?_
      exact .bind (.throwMalformed _ _ _) fun _ => .bind (.pure _) fun _ => .pure _

/-! ## Responses of a server -/

theorem respond_keeps {content : Content}
    (h : ∀ schema ∈ content.schemas, schema ∈ c.document.mentioned) (result : String)
    (members : List Code) : Keeps P (c.respond content result members) := by
  have encoded (entry : String × MediaType) (hmem : entry ∈ content) (value : Code) :
      Keeps P (c.encodeBody (.ofContentType entry.1) entry.2 value) :=
    encodeBody_keeps hP _ (fun schema hschema => h schema (Content.mem_schemas hmem hschema)) _
  unfold respond
  dsimp only
  split
  case h_1 => exact .pure _
  case h_2 contentType media => exact .bind (encoded (contentType, media) (by simp) _) fun _ => .pure _
  case h_3 =>
    refine .bind (.runtime _) fun accepts => ?_
    refine .bind (.mapM fun ⟨contentType, media⟩ hmem => ?_) fun _ =>
      .bind (.runtime _) fun _ => .pure _
    exact .bind (encoded (contentType, media) hmem _) fun _ => .pure _

theorem respondCase_keeps (result : String) {case : ResponseCase}
    (h : ∀ schema ∈ case.schemas, schema ∈ c.document.mentioned) :
    Keeps P (c.respondCase result case) := by
  refine .bind (.mapM fun ⟨name, header⟩ hmem => ?_) fun headers => ?_
  · exact headerPair_keeps (p := header.toParameter name) hP (headers_mentioned h _ hmem) _ _
  exact .bind (.fresh _) fun packed =>
    .bind (respond_keeps hP (content_mentioned h) _ _) fun _ => .pure _

theorem answer_keeps {cases : List ResponseCase}
    (h : ∀ case ∈ cases, ∀ schema ∈ case.schemas, schema ∈ c.document.mentioned) (result : String)
    (arguments : List String) : Keeps P (c.answer cases result arguments) :=
  .bind (.mapM fun case hcase => respondCase_keeps hP result (h case hcase)) fun _ =>
    .bind (.throwMalformed _ _ _) fun _ => .pure _

end Compiler

/-! ## Operations -/

namespace Document

variable {doc : Document} {o : ResolvedOperation} {side : Side}

/-- The schemas of a response that is generated for belong to the operation. -/
theorem responseCase?_uses {status : String} {node : RefOr Response} {case : ResponseCase}
    (hmem : (status, node) ∈ o.operation.responses)
    (h : Yields.yields (doc.responseCase? o side status node) (some case)) :
    ∀ schema ∈ case.schemas, o.Uses doc schema := by
  rcases responseCase?_cases h with
    ⟨_, _, h⟩ | ⟨_, _, _, ⟨_, h⟩ | ⟨_, response, headers, hderef, hheaders, h⟩⟩ <;> cases h
  intro schema hschema
  rcases List.mem_append.1 hschema with hschema | hschema
  · exact .response hmem hderef hschema
  · obtain ⟨header, hheader, hschema⟩ := List.mem_flatMap.1 hschema
    obtain ⟨declared, hzip, _, hread⟩ := exists_mem_zip hheaders.flip hheader
    exact .header hmem hderef (List.of_mem_zip hzip).2 hread hschema

theorem responseCases_uses {cases : List ResponseCase}
    (h : Yields.yields (doc.responseCases o side) cases) :
    ∀ case ∈ cases, ∀ schema ∈ case.schemas, o.Uses doc schema := by
  obtain ⟨found, hfound, h⟩ := Yields.yields_bind h
  cases Yields.yields_pure h
  intro case hcase
  obtain ⟨found, hmem, heq⟩ := List.mem_filterMap.1 hcase
  cases heq
  obtain ⟨⟨status, node⟩, hnode, hcase⟩ := Yields.mapM hfound _ hmem
  exact responseCase?_uses hnode hcase

end Document

/-! ## Files -/

namespace Compiler

variable {c : Compiler} {P : Probes → Prop} (hP : c.Converting P)

theorem callerFields_keeps (o : ResolvedOperation) : Keeps P (callerFields o) := by
  have field (name type : String) : Keeps P
      (do return Field.plain name (← Compile.runtime type : String) : Compile Field) :=
    .bind (.runtime _) fun _ => .pure _
  refine .bind (field _ _) fun transport => .ite (.pure _) ?_
  exact .bind (field _ _) fun _ => .bind (field _ _) fun _ => .bind (field _ _) fun _ => .pure _

include hP

section

variable {o : ResolvedOperation}
  (ho : ∀ schema, o.Uses c.document schema → schema ∈ c.document.mentioned)

include ho

theorem clientCall_keeps : Keeps P (c.clientCall o) := by
  refine .bind (.lift (callerFields_keeps o)) fun caller => ?_
  refine .bind (.lift (parametersType_keeps o _)) fun parameters => ?_
  refine .bind_read' fun body hbody => ?_
  have hbody : ∀ b ∈ body, ∀ schema ∈ b.content.schemas, schema ∈ c.document.mentioned := by
    rintro b rfl schema hschema
    exact ho schema (.requestBody hbody hschema)
  have bodyType : Keeps P (body.mapM fun body => (do
      return Field.plain "body" (← c.bodyUnionType body.content) (!body.required) :
        Write Field)) := by
    cases body with
    | none => exact .pure _
    | some body => exact .bind (.bind (.lift (bodyUnionType_keeps _)) fun _ => .pure _) fun _ => .pure _
  refine .bind bodyType fun bodyType => .bind_read fun cases hcases => ?_
  have hcases : ∀ case ∈ cases, ∀ schema ∈ case.schemas, schema ∈ c.document.mentioned :=
    fun case hcase schema hschema =>
      ho schema (Document.responseCases_uses hcases case hcase schema hschema)
  refine .bind (.lift (.mapM fun _ _ => responseType_keeps _)) fun variants => ?_
  have hparameters : ∀ p ∈ o.parameters, ∀ schema ∈ p.schemas, schema ∈ c.document.mentioned :=
    fun p hp schema hschema => ho schema (.parameter hp hschema)
  refine .bind (.lift (requestStatements_keeps hP hparameters hbody)) fun request => ?_
  exact .bind (.lift (responsesStatement_keeps hP hcases)) fun response => .pure _

theorem endpoint_keeps (handlerType : String) : Keeps P (c.endpoint o handlerType) := by
  have hparameters : ∀ p ∈ o.parameters, ∀ schema ∈ p.schemas, schema ∈ c.document.mentioned :=
    fun p hp schema hschema => ho schema (.parameter hp hschema)
  refine .bind (.lift (.runtime _)) fun request => .bind (.lift (.runtime _)) fun response => ?_
  refine .bind (.lift (readParameters_keeps hP hparameters)) fun parameters => ?_
  refine .bind_read' fun body hbody => ?_
  have hbody : ∀ b ∈ body, ∀ schema ∈ b.content.schemas, schema ∈ c.document.mentioned := by
    rintro b rfl schema hschema
    exact ho schema (.requestBody hbody hschema)
  refine .bind (.lift (readBody_keeps hP hbody)) fun read => .bind (.lift (.fresh _)) fun result => ?_
  refine .bind_read fun cases hcases => ?_
  have hcases : ∀ case ∈ cases, ∀ schema ∈ case.schemas, schema ∈ c.document.mentioned :=
    fun case hcase schema hschema =>
      ho schema (Document.responseCases_uses hcases case hcase schema hschema)
  exact .bind (.lift (answer_keeps hP hcases _ _)) fun answer => .pure _

end

theorem clientBody_keeps : Keeps P c.clientBody := by
  refine .bind_read' fun operations hoperations => ?_
  refine .bind (.mapM fun o ho => ?_) fun calls => .ite (.pure _) (.pure _)
  exact clientCall_keeps hP fun schema h => Document.Declares.mentioned (.operation hoperations ho h)

theorem serverBody_keeps : Keeps P c.serverBody := by
  refine .bind_read' fun operations hoperations => ?_
  refine .bind (.mapM fun o ho => ?_) fun endpoints => .bind (.lift (.runtime _)) fun _ => .pure _
  refine .bind (endpoint_keeps hP (fun schema h => ?_) _) fun _ => .pure _
  exact Document.Declares.mentioned (.operation hoperations ho h)

end Compiler

end OpenApi
