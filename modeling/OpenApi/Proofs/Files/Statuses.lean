import OpenApi.Compiler.Endpoint
import OpenApi.Compiler.HandlerType
import OpenApi.Proofs.Document.Depth
import OpenApi.Proofs.Files.Results

/-!
The statuses that the two sides of a call know. The type of the client's function, the cases of that
function, the type of the handler and the cases of the function that calls it all go through the same
statuses in the same order (`statuses_agree`), so that neither side meets one that the other may send
and it does not expect.
-/

namespace OpenApi

/-- The statuses that something is generated for: the declared ones, but the runtime deals with calls
that are refused for want of authentication. -/
def ResolvedOperation.statuses (o : ResolvedOperation) : List Nat :=
  (o.operation.responses.names.filterMap (Text.natural? Text.maxWord16)).filter fun status =>
    !(status == 401 && o.authenticated)

/-- The keys of the responses are these numbers, in some spelling. -/
def ResolvedOperation.Declares (o : ResolvedOperation) (declared : List Nat) : Prop :=
  List.Forall₂ (fun name status => Text.natural? Text.maxWord16 name = some status)
    o.operation.responses.names declared

namespace ResolvedOperation.Declares

variable {o : ResolvedOperation} {declared : List Nat}

theorem not_default (h : o.Declares declared) : "default" ∉ o.operation.responses.names := by
  unfold Declares at h
  generalize o.operation.responses.names = names at h ⊢
  induction h with
  | nil => exact List.not_mem_nil
  | cons hstatus _ ih =>
    refine List.mem_cons.not.2 (not_or.2 ⟨?_, ih⟩)
    rintro rfl
    exact nomatch hstatus

theorem filterMap_eq (h : o.Declares declared) :
    o.operation.responses.names.filterMap (Text.natural? Text.maxWord16) = declared := by
  unfold Declares at h
  generalize o.operation.responses.names = names at h ⊢
  induction h with
  | nil => rfl
  | cons hstatus _ ih => rw [List.filterMap_cons_some hstatus, ih]

theorem statuses_eq (h : o.Declares declared) :
    o.statuses = if o.authenticated then declared.filter (· ≠ 401) else declared := by
  rw [statuses, h.filterMap_eq]
  cases o.authenticated <;> simp [beq_eq_decide]

end ResolvedOperation.Declares

/-! ## Responses -/

namespace Document

variable {doc : Document} {o : ResolvedOperation} {side : Side}

/-- Responses that code is generated for have a number, and all of them are kept but the one for want
of authentication. -/
theorem responseCase?_status {name : String} {node : RefOr Response} {case : Option ResponseCase}
    (h : Yields.yields (doc.responseCase? o side name node) case) (hname : name ≠ "default") :
    ∃ status, Text.natural? Text.maxWord16 name = some status ∧
      case.map (·.status) = if status = 401 ∧ o.authenticated = true then none else some status := by
  rcases responseCase?_cases h with ⟨hdefault, _⟩ | ⟨status, _, hstatus, hkept⟩
  · exact absurd hdefault hname
  · refine ⟨status, hstatus, ?_⟩
    rcases hkept with ⟨hrefused, rfl⟩ | ⟨hkept, response, headers, _, _, rfl⟩
    · rw [if_pos hrefused]
      rfl
    · rw [if_neg hkept]
      rfl

/-- A client cannot do with a response by default. -/
theorem responseCase?_client {name : String} {node : RefOr Response} {case : Option ResponseCase}
    (h : Yields.yields (doc.responseCase? o .client name node) case) : name ≠ "default" := by
  rcases responseCase?_cases h with ⟨_, hserver, _⟩ | ⟨_, hname, _⟩
  · cases hserver
  · exact hname

theorem responseCases_statuses {cases : List ResponseCase}
    (hnames : "default" ∉ o.operation.responses.names)
    (hcases : Yields.yields (doc.responseCases o side) cases) :
    cases.map (·.status) = o.statuses := by
  obtain ⟨found, hfound, hkept⟩ := Yields.yields_bind hcases
  cases Yields.yields_pure hkept
  have hall := Yields.mapM_forall₂ hfound
  -- The induction is on the declared responses together with what each of them came to; the operation
  -- itself stays, since it says whether authentication is demanded.
  unfold ResolvedOperation.statuses
  generalize o.operation.responses = responses at hnames hall
  clear hcases hfound hkept
  induction hall with
  | nil => rfl
  | @cons entry case rest found hcase _ ih =>
    obtain ⟨hname, hrest⟩ : ¬"default" = entry.1 ∧ "default" ∉ Members.names rest := by
      simpa [Members.names] using hnames
    obtain ⟨status, hstatus, hkept⟩ := responseCase?_status hcase (Ne.symm hname)
    rw [Members.names, List.map_cons, List.filterMap_cons_some hstatus, List.filter_cons]
    split at hkept
    case isTrue hrefused =>
      obtain rfl : case = none := by simpa using hkept
      simpa [hrefused, Members.names] using ih hrest
    case isFalse hkeep =>
      obtain ⟨case, rfl, rfl⟩ := Option.map_eq_some_iff.1 hkept
      have := ih hrest
      simp_all [Members.names]

/-- All responses that a client is generated for have a number. -/
theorem responseCases_client {cases : List ResponseCase}
    (hcases : Yields.yields (doc.responseCases o .client) cases) :
    ∃ declared, o.Declares declared := by
  obtain ⟨found, hfound, hkept⟩ := Yields.yields_bind hcases
  have hall := Yields.mapM_forall₂ hfound
  unfold ResolvedOperation.Declares
  generalize o.operation.responses = responses at hall ⊢
  clear hcases hfound hkept
  induction hall with
  | nil => exact ⟨[], .nil⟩
  | cons hcase _ ih =>
    obtain ⟨declared, hdeclared⟩ := ih
    obtain ⟨status, hstatus, _⟩ := responseCase?_status hcase (responseCase?_client hcase)
    exact ⟨status :: declared, .cons hstatus hdeclared⟩

end Document

/-! ## Types and cases -/

namespace Compiler

variable {c : Compiler} {case : ResponseCase}

/-- The type is what the response is compiled to, and its results have the status. -/
def IsVariant (c : Compiler) (case : ResponseCase) (type : Code) : Prop :=
  (∃ s s', c.responseType case s = .ok (type, s')) ∧
    ∃ members, type = Field.objectType (.plain "status" (toString case.status) :: members)

/-- The statement is what a step writes for the response, and it stands in a `switch` for the status. -/
def IsCase (step : ResponseCase → Compile Statement) (case : ResponseCase) (statement : Statement) :
    Prop :=
  (∃ s s', step case s = .ok (statement, s')) ∧
    ∃ body, statement = .only ("case " ++ toString case.status ++ ":" : String) body

/-- The text throws what a status that is not expected is answered with. -/
def RefusesStatus (message failure : String) : Prop :=
  ∃ s s', Compile.throwMalformed "response" "status" message s = .ok (failure, s')

theorem responseType_isVariant : Ensures (c.responseType case) (c.IsVariant case) := by
  refine (Ensures.result _).and (.bind_any fun headers => .ite ?_ ?_)
  all_goals exact .bind_any fun body => .pure ⟨_, rfl⟩

theorem responseStatement_isCase :
    Ensures (c.responseStatement case) (IsCase c.responseStatement case) :=
  (Ensures.result _).and (.bind_any fun _ => .bind_any fun _ => .pure ⟨_, rfl⟩)

theorem respondCase_isCase (result : String) :
    Ensures (c.respondCase result case) (IsCase (c.respondCase result) case) :=
  (Ensures.result _).and
    (.bind_any fun _ => .bind_any fun _ => .bind_any fun _ => .pure ⟨_, rfl⟩)

end Compiler

/-! ## Functions and their types -/

namespace ResolvedOperation

variable (o : ResolvedOperation) (c : Compiler) (statuses : List Nat)

/-- The responses that code is generated for have the statuses. -/
def HasCases (side : Side) (cases : List ResponseCase) : Prop :=
  Yields.yields (c.document.responseCases o side) cases ∧ cases.map (·.status) = statuses

/-- The types of what a client returns where there is no response: the network failed, or the user was
to be authenticated and was not. -/
def failureTypes : List Code :=
  [("status: \"network\"; error: unknown" : Code).braced] ++
    if o.authenticated then
      [("status: \"user-cancel\"" : Code).braced, ("status: \"unauthenticated\"" : Code).braced]
    else []

/-- The function of a client that returns results for the statuses, and those with a word as their
status, and expects responses with the statuses. -/
def IsClient (client : Code) : Prop :=
  ∃ (cases : List ResponseCase) (arguments : Code) (variants : List Code)
    (request statements : List Statement) (failure : String), client = o.operation.docComment ++
      (Statement.only (Code.cat ["export async function ", o.functionName, arguments.parens,
          ": Promise<", Code.join " | " (variants ++ o.failureTypes), ">"])
        (request ++ [.only "switch (response.status)"
          (statements ++ [.line ("default: " ++ failure : String)])])).code 0 ∧
    o.HasCases c statuses .client cases ∧ List.Forall₂ c.IsVariant cases variants ∧
    (∀ type ∈ o.failureTypes, ∃ word others,
      type = (("status: " ++ Text.quoted word ++ others : String) : Code).braced) ∧
    List.Forall₂ (Compiler.IsCase c.responseStatement) cases statements ∧
    Compiler.RefusesStatus "\"unexpected status \" + String(response.status)" failure

/-- The type of the handlers that return results for the statuses. -/
def IsHandler (handler : Code) : Prop :=
  ∃ (cases : List ResponseCase) (arguments : Code) (variants : List Code),
    handler = Code.cat ["export type ", o.handlerType, " = ", arguments.parens, " => Promise<",
      if variants.isEmpty then "never" else Code.join " | " variants, ">;\n"] ∧
    o.HasCases c statuses .server cases ∧ List.Forall₂ c.IsVariant cases variants

/-- The function of a server that expects results of the handler with the statuses. -/
def IsEndpoint (endpoint : Code) : Prop :=
  ∃ (cases : List ResponseCase) (parameters arguments : Code) (request statements : List Statement)
    (response result failure : String),
    endpoint = (Statement.only (Code.cat ["export async function ", o.endpoint, parameters.parens,
        ": Promise<", response, ">"])
      (request ++ [.constant result (Code.cat ["await handler", arguments.parens]),
        .only (Code.cat ["switch (", result, ".status)"])
          (statements ++ [.line ("default: " ++ failure : String)])])).code 0 ∧
    o.HasCases c statuses .server cases ∧
    List.Forall₂ (Compiler.IsCase (c.respondCase result)) cases statements ∧
    Compiler.RefusesStatus (Text.quoted "handler returned an undeclared status") failure

theorem failureTypes_word : ∀ type ∈ o.failureTypes, ∃ word others,
    type = (("status: " ++ Text.quoted word ++ others : String) : Code).braced := by
  have network : "status: \"network\"; error: unknown" =
      "status: " ++ Text.quoted "network" ++ "; error: unknown" := by decide
  have cancelled : "status: \"user-cancel\"" = "status: " ++ Text.quoted "user-cancel" ++ "" := by
    decide
  have refused : "status: \"unauthenticated\"" =
      "status: " ++ Text.quoted "unauthenticated" ++ "" := by decide
  rw [failureTypes, network, cancelled, refused]
  refine List.forall_mem_append.2 ⟨List.forall_mem_singleton.2 ⟨_, _, rfl⟩, ?_⟩
  split
  · exact List.forall_mem_cons.2 ⟨⟨_, _, rfl⟩, List.forall_mem_singleton.2 ⟨_, _, rfl⟩⟩
  · exact List.forall_mem_nil _

end ResolvedOperation

namespace Compiler

variable {c : Compiler} {o : ResolvedOperation}

theorem responseTypes_isVariant (cases : List ResponseCase) :
    Ensures (cases.mapM c.responseType) (List.Forall₂ c.IsVariant cases) :=
  .mapM fun _ _ => responseType_isVariant

theorem clientCall_isClient : Ensures (c.clientCall o) fun client =>
    (∃ declared, o.Declares declared) ∧ o.IsClient c o.statuses client := by
  refine .bind_any fun caller => .bind_any fun parameters => .bind_any fun body => ?_
  refine .bind_any fun bodyType => .bind_read fun cases hcases => ?_
  -- That a client is generated at all shows that there is no response by default.
  obtain ⟨declared, hdeclared⟩ := Document.responseCases_client hcases
  have hstatuses := Document.responseCases_statuses hdeclared.not_default hcases
  refine .bind (.lift (responseTypes_isVariant cases)) fun variants hvariants => ?_
  refine .bind_any fun request => .bind (P := fun response => ∃ (statements : List Statement)
    (failure : String), response = Statement.only "switch (response.status)"
      (statements ++ [Statement.line ("default: " ++ failure : String)]) ∧
      List.Forall₂ (IsCase c.responseStatement) cases statements ∧
      RefusesStatus "\"unexpected status \" + String(response.status)" failure) (.lift ?_)
    fun response hresponse => ?_
  · refine .bind (.mapM fun _ _ => responseStatement_isCase) fun statements hstatements => ?_
    refine .bind (.result _) fun failure hfailure => .pure ?_
    exact ⟨statements, failure, rfl, hstatements, hfailure⟩
  · obtain ⟨statements, failure, rfl, hstatements, hfailure⟩ := hresponse
    exact .pure ⟨⟨declared, hdeclared⟩, cases, _, variants, request, statements, failure, rfl,
      ⟨hcases, hstatuses⟩, hvariants, o.failureTypes_word, hstatements, hfailure⟩

theorem handlerType_isHandler (hnames : "default" ∉ o.operation.responses.names) :
    Ensures (c.handlerType o) (o.IsHandler c o.statuses) := by
  refine .bind_any fun parameters => .bind_any fun declared => .bind_any fun body => ?_
  refine .bind_read fun cases hcases => ?_
  have hstatuses := Document.responseCases_statuses hnames hcases
  exact .bind (.lift (responseTypes_isVariant cases)) fun variants hvariants =>
    .pure ⟨cases, _, variants, rfl, ⟨hcases, hstatuses⟩, hvariants⟩

theorem endpoint_isEndpoint (hnames : "default" ∉ o.operation.responses.names) (handlerType : String) :
    Ensures (c.endpoint o handlerType) (o.IsEndpoint c o.statuses) := by
  refine .bind_any fun request => .bind_any fun response => .bind_any fun parameters => ?_
  refine .bind_any fun declared => .bind_any fun body => .bind_any fun result => ?_
  refine .bind_read fun cases hcases => ?_
  have hstatuses := Document.responseCases_statuses hnames hcases
  refine .bind (P := fun answer => ∃ (arguments : Code) (statements : List Statement)
    (failure : String), answer =
      [Statement.constant result (Code.cat ["await handler", arguments.parens]),
        Statement.only (Code.cat ["switch (", result, ".status)"])
          (statements ++ [Statement.line ("default: " ++ failure : String)])] ∧
      List.Forall₂ (IsCase (c.respondCase result)) cases statements ∧
      RefusesStatus (Text.quoted "handler returned an undeclared status") failure) (.lift ?_)
    fun answer hanswer => ?_
  · refine .bind (.mapM fun _ _ => respondCase_isCase result) fun statements hstatements => ?_
    refine .bind (.result _) fun failure hfailure => .pure ?_
    exact ⟨_, statements, failure, rfl, hstatements, hfailure⟩
  · obtain ⟨arguments, statements, failure, rfl, hstatements, hfailure⟩ := hanswer
    exact .pure ⟨cases, _, arguments, _, statements, _, result, failure, rfl, ⟨hcases, hstatuses⟩,
      hstatements, hfailure⟩

end Compiler

theorem Document.resolveOperation_eq_ok {doc : Document} {path : String} {item : PathItem}
    {method : Method} {operation : Operation} {o : ResolvedOperation}
    (h : doc.resolveOperation path item method operation = .ok o) : o.operation = operation ∧
      o.authenticated = requiresAuthentication ((operation.security <|> doc.spec.security).getD []) := by
  unfold resolveOperation at h
  split at h
  case h_1 =>
    obtain ⟨parameters, _, h⟩ := Yields.yields_bind (m := Except CompileError) h
    cases h
    exact ⟨rfl, rfl⟩
  case h_2 => cases h

/-- Both sides of a call know the same statuses: the declared ones in order, less the one for want of
authentication if and only if the call demands it, by what the operation says on security or else the
document. -/
theorem statuses_agree {doc : Document} {path : String} {item : PathItem} {method : Method}
    {operation : Operation} {o : ResolvedOperation}
    (resolved : doc.resolveOperation path item method operation = .ok o)
    {c c' c'' : Compiler}
    {client handler endpoint : Code} {handlerType : String} {s s₁ t t₁ u u₁ : Progress}
    {issued issued₁ issued' issued'₁ issued'' issued''₁ : List Warning}
    (hclient : c.clientCall o s issued = (.ok (client, s₁), issued₁))
    (hhandler : c'.handlerType o t issued' = (.ok (handler, t₁), issued'₁))
    (hendpoint : c''.endpoint o handlerType u issued'' = (.ok (endpoint, u₁), issued''₁)) :
    ∃ declared statuses : List Nat,
      List.Forall₂ (fun name status => Text.natural? Text.maxWord16 name = some status)
        operation.responses.names declared ∧
      statuses = (if requiresAuthentication ((operation.security <|> doc.spec.security).getD []) then
        declared.filter (· ≠ 401) else declared) ∧
      o.IsClient c statuses client ∧ o.IsHandler c' statuses handler ∧
        o.IsEndpoint c'' statuses endpoint := by
  obtain ⟨⟨declared, hdeclared⟩, isClient⟩ := Compiler.clientCall_isClient s client s₁ ⟨_, _, hclient⟩
  have isHandler := Compiler.handlerType_isHandler hdeclared.not_default t handler t₁ ⟨_, _, hhandler⟩
  have isEndpoint :=
    Compiler.endpoint_isEndpoint hdeclared.not_default handlerType u endpoint u₁ ⟨_, _, hendpoint⟩
  have hstatuses := hdeclared.statuses_eq
  obtain ⟨hoperation, hauthenticated⟩ := Document.resolveOperation_eq_ok resolved
  rw [hauthenticated] at hstatuses
  subst hoperation
  exact ⟨declared, o.statuses, hdeclared, hstatuses, isClient, isHandler, isEndpoint⟩

/-- An operation that demands authentication since its document does, with a response for the want of
it. -/
def guardedRead : Operation where
  operationId := some "read"
  responses := [("200", .inline {}), ("+401", .inline {}), ("0404", .inline {})]

/-- Both sides of the call know of success and of what is missing. -/
theorem statuses_agree_guarded : ∃ client handler endpoint, ∃ (c : Compiler) (o : ResolvedOperation),
    o.operation.responses.names = ["200", "+401", "0404"] ∧ o.IsClient c [200, 404] client ∧
      o.IsHandler c [200, 404] handler ∧ o.IsEndpoint c [200, 404] endpoint := by
  let doc : Document := {
    raw := .null
    spec := {
      openapi := "3.0.3"
      info := { title := "Log", version := "1" }
      security := some [[("key", [])]] } }
  let c : Compiler := { document := doc, formats := Registry.builtin "./runtime" }
  let o : ResolvedOperation := {
    path := "/log", method := .get, operation := guardedRead, id := "read", parameters := []
    authenticated := true }
  have resolved : doc.resolveOperation "/log" {} .get guardedRead = .ok o := rfl
  have written {α : Type} {x : Except CompileError α × List Warning}
      (h : x.1.toOption.any (fun _ => true) = true) : ∃ a issued, x = (.ok a, issued) := by
    obtain ⟨a, ha, _⟩ := Except.eq_ok_of_any h
    exact ⟨a, x.2, Prod.ext ha rfl⟩
  obtain ⟨⟨client, s⟩, issued, hclient⟩ := written (x := c.clientCall o {} []) (by decide +kernel)
  obtain ⟨⟨handler, t⟩, issued', hhandler⟩ := written (x := c.handlerType o {} []) (by decide +kernel)
  obtain ⟨⟨endpoint, u⟩, issued'', hendpoint⟩ :=
    written (x := c.endpoint o "ReadHandler" {} []) (by decide +kernel)
  obtain ⟨declared, statuses, hdeclared, hstatuses, agree⟩ :=
    statuses_agree resolved hclient hhandler hendpoint
  have hnumbers : guardedRead.responses.names.filterMap (Text.natural? Text.maxWord16) =
      [200, 401, 404] := by decide
  have hread : guardedRead.responses.names.filterMap (Text.natural? Text.maxWord16) = declared :=
    ResolvedOperation.Declares.filterMap_eq (o := o) hdeclared
  have hrequired :
      requiresAuthentication ((guardedRead.security <|> doc.spec.security).getD []) = true := rfl
  obtain rfl : statuses = [200, 404] := by
    rw [hstatuses, hrequired, ← hread, hnumbers]
    rfl
  exact ⟨client, handler, endpoint, c, o, rfl, agree⟩

end OpenApi
