import OpenApi.Compiler.Endpoint
import OpenApi.Compiler.HandlerType
import OpenApi.Proofs.Code.Templates
import OpenApi.Proofs.Files.AuditedValues
import OpenApi.Proofs.Types.OneLine

/-!
The functions for operations are sound: those of a client, those of a server, and the types of handlers.
-/

namespace OpenApi

variable {r : Audit}

/-- What is found in a map was put into it, or was there before. -/
theorem Members.get?_foldl_put {α : Type} {P : α → Prop} {entries : List (String × α)}
    (h : ∀ entry ∈ entries, P entry.2) {known : Members α}
    (hknown : ∀ name, ∀ value ∈ known.get? name, P value) :
    ∀ name, ∀ value ∈ Members.get? (entries.foldl
      (fun known (name, value) => Members.put known name value) known) name, P value := by
  induction entries generalizing known with
  | nil => exact hknown
  | cons entry entries ih =>
    obtain ⟨hentry, hentries⟩ := List.forall_mem_cons.1 h
    refine ih hentries fun name => ?_
    by_cases hname : name = entry.1
    · subst hname
      rw [Members.get?_put_self]
      exact fun value hvalue => Option.mem_some.1 hvalue ▸ hentry
    · rw [Members.get?_put_of_ne _ _ hname]
      exact hknown name

namespace ResolvedOperation

theorem handlerType_wordPart (o : ResolvedOperation) :
    o.handlerType.toList.all Text.isWordPart = true := by
  rw [handlerType, String.toList_append, List.all_append, Name.pascal_wordPart]
  decide

theorem endpoint_wordPart (o : ResolvedOperation) :
    o.endpoint.toList.all Text.isWordPart = true := by
  rw [endpoint, String.toList_append, List.all_append, Name.pascal_wordPart]
  decide

end ResolvedOperation

namespace Compiler

variable {c : Compiler} (hr : r.Suits c)

/-! ## Requests of a client -/

theorem operand_given (name : String) : r.Operand (Parameter.given name) :=
  (Reader.operand_given (by decide)).member name

/-- The declaration of an array. -/
theorem typedArray_sound {name type : List Char} {parts : List Code}
    (hname : Lex.Piece.closeValue [.text name] = true) (htype : Lex.Piece.close [.text type] = true)
    (h : ∀ part ∈ parts, r.Sound part) :
    r.StatementSound (.typedConstant (String.ofList name) (String.ofList type)
      (Code.join ", " parts).brackets) :=
  .typedConstant (Reader.value_given hname) (Reader.sound_given htype)
    (Reader.Value.brackets (Reader.sound_join h (by decide))).sound

/-- The header with the cookies, if there are any. -/
theorem cookieHeader_sound {pack : String} (hpack : r.Callee pack) :
    r.Sound (Code.cat ["...", (Code.cat ["cookies.length > 0 ? ",
      Code.singlePair "Cookie" (Code.site pack ++ Code.site "(cookies)"), " : []"]).parens]) := by
  have hcall : r.Sound (Code.site pack ++ Code.site "(cookies)") :=
    (Reader.Fits.callee hpack (.text .nil)).append (by decide)
  have hpair := Reader.value_singlePair "Cookie" hcall
  refine Reader.sound_spread (Reader.Value.parens ?_).sound
  exact (Reader.Fits.text (.value hpair (.text .nil))).cat (by decide)

/-- The request is handed to the runtime. -/
theorem sound_send (o : ResolvedOperation) (hasBody : Bool) {send : String} (hsend : r.Callee send) :
    r.Sound (Code.cat ["await ", Code.site send, (Code.cat ["transport, ",
      (Code.cat ["method: ", quoted o.method.name, ", path, query, headers, body: ",
        if hasBody then "payload" else "undefined"]).braced,
      if o.authenticated then ", account, authenticator, refresh" else ""]).parens]) := by
  have hbody : r.Sound (if hasBody then "payload" else "undefined") := by
    split
    · exact Reader.sound_given (by decide)
    · exact Reader.sound_given (by decide)
  have hrequest : r.Sound (Code.cat ["method: ", quoted o.method.name,
      ", path, query, headers, body: ", if hasBody then "payload" else "undefined"]) :=
    (Reader.Fits.text (.complete (Reader.complete_quoted _) (.text (.sound hbody .nil)))).cat
      (by decide)
  have harguments {request : Code} (h : r.Value request) : r.Sound (Code.cat ["transport, ", request,
      if o.authenticated then ", account, authenticator, refresh" else ""]) := by
    split
    · exact (Reader.Fits.text (.value h (.text .nil))).cat (by decide)
    · exact (Reader.Fits.text (.value h (.text .nil))).cat (by decide)
  have hcall {arguments : Code} (h : r.Sound arguments) :
      r.Sound (Code.cat ["await ", Code.site send, arguments.parens]) := by
    have hfits : r.Fits _ ["await ", Code.site send, "(", arguments, ")"] :=
      .text (.callee hsend (.text (.sound h (.text .nil))))
    exact (hfits.cat (by decide)).congr (by simp [Code.parens])
  exact hcall (harguments (.braced hrequest))

theorem sound_request {path call : Code} {query headers : List Code} {cookies payload : List Statement}
    (hpath : r.Complete path) (hquery : ∀ pair ∈ query, r.Sound pair)
    (hcookies : ∀ s ∈ cookies, r.StatementSound s) (hheaders : ∀ pair ∈ headers, r.Sound pair)
    (hpayload : ∀ s ∈ payload, r.StatementSound s) (hcall : r.Sound call) :
    ∀ s ∈ [Statement.constant "path" path,
          Statement.typedConstant "query" pairsType (Code.join ", " query).brackets] ++ cookies ++
        [Statement.typedConstant "headers" headersType (Code.join ", " headers).brackets] ++ payload ++
        [Statement.constant "outcome" call,
          Statement.line "if (outcome.status !== \"response\") return outcome;",
          Statement.constant "response" "outcome.response"], r.StatementSound s := by
  simp only [List.forall_mem_append, List.forall_mem_cons]
  refine ⟨⟨⟨⟨⟨?_, ?_, List.forall_mem_nil _⟩, hcookies⟩, ?_, List.forall_mem_nil _⟩, hpayload⟩,
    ?_, ?_, ?_, List.forall_mem_nil _⟩
  · exact .constant (Reader.value_given (by decide)) hpath.sound
  · exact typedArray_sound (by decide) (by decide) hquery
  · exact typedArray_sound (by decide) (by decide) hheaders
  · exact .constant (Reader.value_given (by decide)) hcall
  · exact .line (Reader.sound_given (by decide))
  · exact .constant (Reader.value_given (by decide)) (Reader.sound_given (by decide))

section

include hr

theorem packText_writes (p : Parameter) (place : String) {value : Code} (hvalue : r.Operand value) :
    Writes r (c.packText p place value) r.Sound := by
  refine .bind (pack_writes hr p hvalue) fun packed => ?_
  cases packed with
  | pairs => exact .throw _
  | text => exact .pure id

theorem pathSegment_writes (o : ResolvedOperation) (name : String) :
    Writes r (c.pathSegment o name) r.Sound := by
  have hvalue : r.Operand (Parameter.given name) := operand_given name
  have encode {text : Code} (htext : r.Sound text) :
      r.Sound (Code.cat ["encodeURIComponent", text.parens]) :=
    (Reader.value_call (Reader.callee_given (by decide)) htext).sound
  unfold pathSegment
  dsimp only
  split
  case h_1 p _ => exact .bind (packText_writes hr p _ hvalue) fun _ => .pure encode
  case h_2 =>
    exact .bind_pure (.pure (encode
      (Reader.value_call (Reader.callee_given (by decide)) hvalue.sound).sound))

theorem requestPath_writes (o : ResolvedOperation) : Writes r (c.requestPath o) r.Complete := by
  refine .bind (P := fun segments => ∀ segment ∈ segments, r.Sound segment.2)
    (.mapM fun name _ => ?_) fun segments => ?_
  · exact .bind (pathSegment_writes hr o name) fun _ => .pure id
  refine .pure fun hsegments => Reader.complete_render fun name _ => ?_
  refine Reader.SoundOption.getD ?_ ⟨{}, rfl, rfl, .inl rfl⟩
  exact Members.get?_foldl_put hsegments (fun _ _ h => by cases h) name

theorem requestPairs_writes (p : Parameter) : Writes r (c.requestPairs p) r.Sound := by
  have hvalue : r.Operand (Parameter.given p.name) := operand_given p.name
  have code {pairs : Code} (always : Bool) : Writes r (if always then
        pure (Code.cat ["...", pairs.parenthesized])
      else pure (Code.cat ["...", (Code.cat [Parameter.given p.name, " !== undefined ? ", pairs,
        " : []"]).parens]) : Compile Code) fun code => r.Sound pairs → r.Sound code := by
    refine .ite (.pure fun hpairs => Reader.sound_spread (Reader.Sound.parenthesized hpairs)) ?_
    refine .pure fun hpairs => ?_
    exact Reader.sound_spread (Reader.Value.parens
      (Reader.sound_ifPresent hvalue.sound hpairs (by decide))).sound
  refine .bind (pack_writes hr p hvalue) fun packed => ?_
  cases packed with
  | pairs pairs => exact .bind_pure (code _)
  | text text =>
    exact .bind_pure ((code _).mono fun _ h htext => h (Reader.value_singlePair p.name htext).sound)

theorem headerPair_writes (p : Parameter) (place : String) {value : Code}
    (hvalue : r.Operand value) : Writes r (c.headerPair p place value) r.Sound := by
  refine .bind (packText_writes hr p place hvalue) fun text => .ite ?_ ?_
  · exact .pure fun htext => (Reader.Value.brackets (Reader.sound_pair p.name htext)).sound
  · exact .pure fun htext => hvalue.sound.pairIfPresent p.name htext

theorem payloadStatements_writes (body : RequestBody) :
    Writes r (c.payloadStatements body) fun statements => ∀ s ∈ statements, r.StatementSound s := by
  refine .bind (P := fun cases => ∀ s ∈ cases, r.StatementSound s) (.mapM fun variant _ => ?_)
    fun cases => .pure fun hcases => ?_
  · obtain ⟨contentType, media⟩ := variant
    refine .bind (encodeBody_writes hr _ media (Reader.operand_given (by decide))) fun data => ?_
    refine .pure fun hdata => .line ?_
    have hpayload : r.Sound (Code.cat ["contentType: ", quoted contentType, ", data: ", data]) :=
      (Reader.Fits.text (.complete (Reader.complete_quoted _) (.text (.sound hdata .nil)))).cat
        (by decide)
    exact (Reader.Fits.text (.complete (Reader.complete_quoted _) (.text (.value (.braced hpayload)
      (.text .nil))))).cat (by decide)
  have hchoice : r.StatementSound (.only "switch (body.contentType)" cases) :=
    .only (Reader.sound_given (by decide)) hcases
  have htype : r.Sound (Code.cat
      [("contentType: string; data: string | Uint8Array" : Code).braced, " | undefined"]) :=
    (Reader.Fits.value (.braced (Reader.sound_given (by decide))) (.text .nil)).cat (by decide)
  refine List.forall_mem_cons.2 ⟨.line ?_, List.forall_mem_singleton.2 ?_⟩
  · exact (Reader.Fits.text (.sound htype (.text .nil))).cat (by decide)
  · split
    · exact hchoice
    · exact .conditional (Reader.sound_given (by decide)) (List.forall_mem_singleton.2 hchoice)

theorem requestStatements_writes (o : ResolvedOperation) (body : Option RequestBody) :
    Writes r (c.requestStatements o body) fun statements => ∀ s ∈ statements, r.StatementSound s := by
  have pairs (location : Location) : Writes r ((o.parametersAt location).mapM c.requestPairs)
      fun pairs => ∀ pair ∈ pairs, r.Sound pair :=
    .mapM fun p _ => requestPairs_writes hr p
  have headers : Writes r ((o.parametersAt .header).mapM fun p =>
      c.headerPair p "header parameter" (Parameter.given p.name)) fun pairs =>
      ∀ pair ∈ pairs, r.Sound pair :=
    .mapM fun p _ => headerPair_writes hr p _ (operand_given p.name)
  refine .bind (requestPath_writes hr o) fun path => .bind (pairs _) fun query => ?_
  refine .bind headers fun headers => .bind (pairs _) fun cookies => ?_
  have hsend : Writes r (Compile.runtime (if o.authenticated then "sendAuthenticated" else "send"))
      fun text => r.Callee (Code.site text) := by
    split
    · exact .runtime_callee (by decide)
    · exact .runtime_callee (by decide)
  have hcookieStatements (h : ∀ pair ∈ cookies, r.Sound pair) :
      ∀ s ∈ (if cookies.isEmpty then [] else
        [.typedConstant "cookies" pairsType (Code.join ", " cookies).brackets] : List Statement),
        r.StatementSound s := by
    split
    · exact List.forall_mem_nil _
    · exact List.forall_mem_singleton.2 (typedArray_sound (by decide) (by decide) h)
  cases body with
  | none =>
    refine .ite (.bind_pure (.bind_pure (.bind hsend fun send => .pure ?_))) ?_
    · intro hsend hcookies hheaders hquery hpath
      exact sound_request hpath hquery (hcookieStatements hcookies)
        (List.forall_mem_append.2 ⟨hheaders, List.forall_mem_nil _⟩) (List.forall_mem_nil _)
        (sound_send o _ hsend)
    · refine .bind (.runtime_callee (by decide)) fun pack => .bind_pure (.bind_pure ?_)
      refine .bind hsend fun send => .pure fun hsend hpack hcookies hheaders hquery hpath => ?_
      exact sound_request hpath hquery (hcookieStatements hcookies)
        (List.forall_mem_append.2 ⟨hheaders, List.forall_mem_singleton.2 (cookieHeader_sound hpack)⟩)
        (List.forall_mem_nil _) (sound_send o _ hsend)
  | some body =>
    have hpayload := payloadStatements_writes hr body
    refine .ite (.bind_pure (.bind hpayload fun payload => .bind hsend fun send => .pure ?_)) ?_
    · intro hsend hpayload hcookies hheaders hquery hpath
      exact sound_request hpath hquery (hcookieStatements hcookies)
        (List.forall_mem_append.2 ⟨hheaders, List.forall_mem_nil _⟩) hpayload (sound_send o _ hsend)
    · refine .bind (.runtime_callee (by decide)) fun pack => .bind_pure ?_
      refine .bind hpayload fun payload => .bind hsend fun send => .pure ?_
      intro hsend hpayload hpack hcookies hheaders hquery hpath
      exact sound_request hpath hquery (hcookieStatements hcookies)
        (List.forall_mem_append.2 ⟨hheaders, List.forall_mem_singleton.2 (cookieHeader_sound hpack)⟩)
        hpayload (sound_send o _ hsend)

end

/-! ## Responses to a client -/

/-- What has been read: the statements that read it, and the member that it becomes. -/
abbrev ReadSound (r : Audit) (read : List Statement × Code) : Prop :=
  (∀ s ∈ read.1, r.StatementSound s) ∧ r.Sound read.2

/-- The statement that reports a value that is missing. -/
theorem sound_guard {raw failure : String} (hraw : r.Operand raw) (hfailure : r.Sound failure) :
    r.StatementSound (.line (Code.cat ["if (", Code.site raw, " === undefined) ", Code.site failure])) :=
  .line ((Reader.Fits.text (.value hraw.value (.text (.sound hfailure .nil)))).cat (by decide))

/-- A value that is left undefined where there is nothing to read. -/
theorem sound_ifDefined {raw : String} {value : Code} (hraw : r.Operand raw) (h : r.Sound value) :
    r.Sound (Code.cat [Code.site raw, " === undefined ? undefined : ", value]) :=
  (Reader.Fits.value hraw.value (.text (.sound h .nil))).cat (by decide)

/-- An object is returned whose members are sound. -/
theorem returnObject_sound {members : List Code} (h : ∀ m ∈ members, r.Sound m) :
    r.StatementSound (returnObject members) :=
  .line (Reader.Complete.returned
    (Reader.Value.braced (Reader.sound_join h (by decide))).sound).sound

/-- All that has been read one after the other. -/
theorem readAll_sound {read : List (List Statement × Code)} (h : ∀ part ∈ read, ReadSound r part) :
    (∀ s ∈ read.flatMap (·.1), r.StatementSound s) ∧
      r.Sound (Code.join ", " (read.map (·.2))).braced := by
  constructor
  · intro s hs
    obtain ⟨part, hpart, hs⟩ := List.mem_flatMap.1 hs
    exact (h part hpart).1 s hs
  · exact (Reader.Value.braced (Reader.sound_join
      (List.forall_mem_map.2 fun part hpart => (h part hpart).2) (by decide))).sound

theorem sound_status (status : Nat) : r.Sound (Code.site ("status: " ++ toString status)) := by
  refine Reader.Fits.site ["status: ", toString status] (.text (.value
    (Reader.value_numeric (Lex.toString_nat_numeric status)) .nil)) (by decide) ?_
  simp [String.join_cons]

theorem sound_case (status : Nat) : r.Sound (Code.site ("case " ++ toString status ++ ":")) := by
  refine Reader.Fits.site ["case ", toString status, ":"] (.text (.value
    (Reader.value_numeric (Lex.toString_nat_numeric status)) (.text .nil))) (by decide) ?_
  simp [String.join_cons, String.append_assoc]

theorem sound_default {failure : String} (h : r.Sound failure) :
    r.Sound (Code.site ("default: " ++ failure)) := by
  refine Reader.Fits.site ["default: ", failure] (.text (.sound h .nil)) (by decide) ?_
  simp [String.join_cons]

/-- A body with its content type. -/
theorem sound_typed (contentType : String) {value : Code} (h : r.Sound value) :
    r.Sound (Code.cat ["contentType: ", quoted contentType, ", value: ", value]) :=
  (Reader.Fits.text (.complete (Reader.complete_quoted _) (.text (.sound h .nil)))).cat (by decide)

theorem sound_headers {name : String} (h : r.Operand name) :
    r.Sound (Code.site ("headers: " ++ name)) := by
  refine Reader.Fits.site ["headers: ", name] (.text (.value h.value .nil)) (by decide) ?_
  simp [String.join_cons]

section

include hr

theorem readHeader_writes (name : String) (header : Header) :
    Writes r (c.readHeader name header) (ReadSound r) := by
  refine .bind_fresh (by decide) fun raw hraw => ?_
  refine .bind (unpack_writes hr (header.toParameter name) hraw) fun value => ?_
  have haccess : r.Sound (Code.cat ["response.header", (quoted name).parens]) :=
    (Reader.value_call (Reader.callee_given (by decide)) (Reader.complete_quoted name).sound).sound
  have hread := Reader.StatementSound.constant hraw.value haccess
  refine .ite ?_ ?_
  · refine .bind (.throwMalformed _ _ (Reader.complete_quoted _).sound) fun failure => ?_
    refine .pure fun hfailure hvalue => ⟨?_, Reader.sound_entry name hvalue⟩
    exact List.forall_mem_cons.2 ⟨hread, List.forall_mem_singleton.2 (sound_guard hraw hfailure)⟩
  · refine .pure fun hvalue => ⟨List.forall_mem_singleton.2 hread, ?_⟩
    exact (Reader.sound_entry name (sound_ifDefined hraw hvalue)).congr (by simp)

theorem readHeaders_writes (headers : Members Header) :
    Writes r (c.readHeaders headers) fun read =>
      (∀ s ∈ read.1, r.StatementSound s) ∧ ∀ member ∈ read.2, r.Sound member := by
  refine .ite (.pure ⟨List.forall_mem_nil _, List.forall_mem_nil _⟩) ?_
  refine .bind (P := fun read => ∀ part ∈ read, ReadSound r part)
    (.mapM fun header _ => readHeader_writes hr header.1 header.2) fun read => ?_
  refine .bind_fresh (by decide) fun all hall => .pure fun hread => ?_
  obtain ⟨hstatements, hobject⟩ := readAll_sound hread
  exact ⟨List.forall_mem_append.2 ⟨hstatements,
    List.forall_mem_singleton.2 (.constant hall.value hobject)⟩,
    List.forall_mem_singleton.2 (sound_headers hall)⟩

theorem readContent_writes (content : Content) (members : List Code) :
    Writes r (c.readContent content members) fun statements =>
      (∀ m ∈ members, r.Sound m) → ∀ s ∈ statements, r.StatementSound s := by
  refine .ite (.pure fun h => List.forall_mem_singleton.2 (returnObject_sound h)) ?_
  refine .bind (.runtime_callee (by decide)) fun accepts => ?_
  refine .bind (P := fun readers => ∀ s ∈ readers, r.Callee accepts → (∀ m ∈ members, r.Sound m) →
    r.StatementSound s) (.mapM fun variant _ => ?_) fun readers => ?_
  · obtain ⟨contentType, media⟩ := variant
    refine .bind (decodeBody_writes hr _ media (Reader.value_given (by decide))) fun read => ?_
    refine .pure fun ⟨hstatement, hvalue⟩ haccepts hmembers => ?_
    have hmatches : r.Sound (Code.cat [quoted contentType, ", response.contentType"]) :=
      (Reader.Fits.complete (Reader.complete_quoted _) (.text .nil)).cat (by decide)
    have hmember : r.Sound (Code.cat ["body: ",
        (Code.cat ["contentType: ", quoted contentType, ", value: ", read.value]).braced]) :=
      (Reader.Fits.text (.value (.braced (sound_typed contentType hvalue)) .nil)).cat (by decide)
    refine .conditional (Reader.value_call haccepts hmatches).sound
      (List.forall_mem_cons.2 ⟨.line hstatement, List.forall_mem_singleton.2 ?_⟩)
    exact returnObject_sound
      (List.forall_mem_append.2 ⟨hmembers, List.forall_mem_singleton.2 hmember⟩)
  refine .bind (.throwMalformed _ _ (Reader.sound_given (by decide))) fun failure => ?_
  refine .pure fun hfailure hreaders haccepts hmembers => List.forall_mem_append.2 ⟨?_, ?_⟩
  · exact fun s hs => hreaders s hs haccepts hmembers
  · exact List.forall_mem_singleton.2 (.line hfailure)

theorem responseStatement_writes (case : ResponseCase) :
    Writes r (c.responseStatement case) r.StatementSound := by
  refine .bind (readHeaders_writes hr case.headers) fun ⟨statements, members⟩ => ?_
  refine .bind (readContent_writes hr case.content _) fun rest => ?_
  refine .pure fun hrest ⟨hstatements, hmembers⟩ => .only (sound_case _) ?_
  exact List.forall_mem_append.2
    ⟨hstatements, hrest (List.forall_mem_cons.2 ⟨sound_status _, hmembers⟩)⟩

theorem responsesStatement_writes (cases : List ResponseCase) :
    Writes r (c.responsesStatement cases) r.StatementSound := by
  refine .bind (.mapM fun case _ => responseStatement_writes hr case) fun cases => ?_
  refine .bind (.throwMalformed _ _ (Reader.sound_given (by decide))) fun failure => ?_
  refine .pure fun hfailure hcases => .only (Reader.sound_given (by decide)) ?_
  exact List.forall_mem_append.2
    ⟨hcases, List.forall_mem_singleton.2 (.line (sound_default hfailure))⟩

end

/-! ## Functions of a client -/

theorem callerFields_writes (o : ResolvedOperation) :
    Writes r (callerFields o) fun fields => ∀ f ∈ fields, r.FieldLine f := by
  have field {name type : List Char} (hname : Lex.Piece.close [.text name] = true ∧ '\n' ∉ name)
      (htype : type.all Text.isWordPart = true) : Writes r
      (do return Field.plain (String.ofList name) (← Compile.runtime (String.ofList type) : String) :
        Compile Field) r.FieldLine :=
    .bind (.runtime_line htype) fun _ => .pure (Reader.fieldLine_plain hname)
  refine .bind (field (by decide) (by decide)) fun transport => ?_
  refine .ite (.pure fun htransport => List.forall_mem_singleton.2 htransport) ?_
  refine .bind (field (by decide) (by decide)) fun account => ?_
  refine .bind (field (by decide) (by decide)) fun authenticator => ?_
  refine .bind (field (by decide) (by decide)) fun refresh => .pure ?_
  intro hrefresh hauthenticator haccount htransport
  simp only [List.forall_mem_cons]
  exact ⟨htransport, haccount, hauthenticator, hrefresh, List.forall_mem_nil _⟩

theorem line_parameters {type? : Option Code} (h : ∀ type ∈ type?, r.Line type) :
    ∀ f ∈ (type?.map (Field.plain "params")).toList, r.FieldLine f := by
  cases type? with
  | none => exact List.forall_mem_nil _
  | some type => exact List.forall_mem_singleton.2 (Reader.fieldLine_plain (by decide) (h type rfl))

theorem line_toList {field? : Option Field} (h : ∀ f ∈ field?, r.FieldLine f) :
    ∀ f ∈ field?.toList, r.FieldLine f := fun f hf => h f (Option.mem_toList.1 hf)

end Compiler

/-- The head of an asynchronous function. -/
def Code.functionHead (name : String) (arguments result : Code) : Code :=
  Code.cat ["export async function ", name, arguments.parens, ": Promise<", result, ">"]

/-- The declaration of the type of a handler. -/
def Code.handlerType (name : String) (arguments result : Code) : Code :=
  Code.cat ["export type ", name, " = ", arguments.parens, " => Promise<", result, ">;\n"]

namespace Reader

/-- The code is an asynchronous function of the given name. -/
inductive IsFunction (r : Reader) (name : String) : Code → Prop
  | mk {arguments result : Code} {body : List Statement} (harguments : r.Line arguments)
    (hresult : r.Line result) (hbody : ∀ s ∈ body, r.StatementSound s) :
    IsFunction r name ((Statement.only (Code.functionHead name arguments result) body).code 0)

/-- The code declares the type of a handler under the given name. -/
inductive IsHandlerType (r : Reader) (name : String) : Code → Prop
  | mk {arguments result : Code} (harguments : r.Line arguments) (hresult : r.Line result) :
    IsHandlerType r name (Code.handlerType name arguments result)

variable {r : Reader} {name : String} {code arguments result : Code}

theorem sound_functionHead (hname : name.toList.all Text.isWordPart = true) (hcall : r.MayCall name)
    (harguments : r.Sound arguments) (hresult : r.Sound result) :
    r.Sound (Code.functionHead name arguments result) := by
  have hfits : r.Fits _ ["export async function ", Code.site name, "(", arguments, ")", ": Promise<",
      result, ">"] :=
    .text (.callee (hcall.callee (Text.all_ordinary hname)) (.text (.sound harguments
      (.text (.text (.sound hresult (.text .nil)))))))
  exact (hfits.cat (by decide)).congr (by simp [Code.functionHead, Code.parens])

theorem IsFunction.complete (h : r.IsFunction name code)
    (hname : name.toList.all Text.isWordPart = true) (hcall : r.MayCall name) : r.Complete code := by
  obtain ⟨harguments, hresult, hbody⟩ := h
  exact complete_code 0 _ (.only (sound_functionHead hname hcall harguments.sound hresult.sound) hbody)

theorem IsHandlerType.complete (h : r.IsHandlerType name code)
    (hname : name.toList.all Text.isWordPart = true) : r.Complete code := by
  obtain ⟨harguments, hresult⟩ := h
  exact (Fits.text (.ordinary (Text.all_ordinary hname) (.text (.value (.parens harguments.sound)
    (.text (.sound hresult.sound (.text .nil))))))).catComplete (by decide)

end Reader

namespace Compiler

variable {c : Compiler} (hr : r.Suits c)

section

include hr

/-- The function of a client is one of the name of the operation, with a comment above it. -/
theorem clientCall_function (o : ResolvedOperation) : Writes r (c.clientCall o) fun code =>
    ∃ function, code = Code.site o.operation.docComment ++ function ∧
      r.IsFunction o.functionName function := by
  refine .bind (.lift (callerFields_writes o)) fun caller => ?_
  refine .bind (.lift (parametersType_line hr o .client)) fun parameters => ?_
  refine .bind_read' fun body _ => ?_
  have bodyType : Writes r (body.mapM fun body => (do
      return Field.plain "body" (← c.bodyUnionType body.content) (!body.required) : Write Field))
      fun field? => ∀ f ∈ field?, r.FieldLine f :=
    .mapM_option fun body _ => .bind (.lift (bodyUnionType_line hr body.content)) fun type =>
      .pure (Reader.fieldLine_plain (by decide))
  refine .bind bodyType fun bodyType => .bind_read fun cases _ => ?_
  refine .bind (.lift (.mapM fun case _ => responseType_line hr case)) fun variants => ?_
  refine .bind (.lift (requestStatements_writes hr o body)) fun request => ?_
  refine .bind (.lift (responsesStatement_writes hr cases)) fun response => .pure ?_
  intro hresponse hrequest hvariants hbodyType hparameters hcaller
  have harguments : r.Line (Field.arguments
      (caller ++ (parameters.map (Field.plain "params")).toList ++ bodyType.toList)) :=
    Reader.line_arguments (List.forall_mem_append.2 ⟨List.forall_mem_append.2
      ⟨hcaller, line_parameters hparameters⟩, line_toList hbodyType⟩)
  have hstatus {text : List Char} (h : Lex.Piece.close [.text text] = true ∧ '\n' ∉ text) :
      r.Line (Code.site (String.ofList text)).braced := (Reader.line_given h).braced
  have hresult : r.Line (Code.join " | " (variants ++ ([("status: \"network\"; error: unknown" :
      Code).braced] ++ if o.authenticated then [("status: \"user-cancel\"" : Code).braced,
        ("status: \"unauthenticated\"" : Code).braced] else []))) := by
    refine Reader.line_join ?_ (by decide)
    simp only [List.forall_mem_append]
    refine ⟨hvariants, List.forall_mem_singleton.2 (hstatus (by decide)), ?_⟩
    split
    · exact List.forall_mem_cons.2 ⟨hstatus (by decide),
        List.forall_mem_singleton.2 (hstatus (by decide))⟩
    · exact List.forall_mem_nil _
  exact ⟨_, rfl, .mk harguments hresult
    (List.forall_mem_append.2 ⟨hrequest, List.forall_mem_singleton.2 hresponse⟩)⟩

theorem clientCall_writes (o : ResolvedOperation) (hcall : r.MayCall o.functionName) :
    Writes r (c.clientCall o) r.Complete := by
  refine (clientCall_function hr o).mono fun code hcode => ?_
  obtain ⟨function, rfl, hfunction⟩ := hcode
  exact Reader.Complete.append (Reader.complete_docComment o.operation)
    (hfunction.complete (Name.camel_wordPart o.id) hcall)

theorem handlerType_isHandlerType (o : ResolvedOperation) :
    Writes r (c.handlerType o) (r.IsHandlerType o.handlerType) := by
  refine .bind (.lift (parametersType_line hr o .server)) fun parameters => ?_
  refine .bind_read' fun body _ => ?_
  have bodyField : Writes r (body.mapM fun body => (do
      let type ← c.bodyUnionType body.content
      return Field.plain "body" (if body.required then type else type ++ " | undefined") :
        Write Field)) fun field? => ∀ f ∈ field?, r.FieldLine f := by
    refine .mapM_option fun body _ => ?_
    refine .bind (.lift (bodyUnionType_line hr body.content)) fun type => ?_
    refine .pure fun htype => Reader.fieldLine_plain (by decide) ?_
    split
    · exact htype
    · exact ⟨(Reader.Fits.sound htype.sound (.text .nil)).append (by decide),
        fun hhide => (htype.oneLine hhide).append (Reader.oneLine_site (by decide))⟩
  refine .bind bodyField fun bodyField => .bind_read fun cases _ => ?_
  refine .bind (.lift (.mapM fun case _ => responseType_line hr case)) fun variants => .pure ?_
  intro hvariants hbodyField hparameters
  have hresult : r.Line (if variants.isEmpty then "never" else Code.join " | " variants) := by
    split
    · exact Reader.line_given (by decide)
    · exact Reader.line_join hvariants (by decide)
  exact .mk (Reader.line_arguments (List.forall_mem_append.2
    ⟨line_parameters hparameters, line_toList hbodyField⟩)) hresult

theorem handlerType_writes (o : ResolvedOperation) : Writes r (c.handlerType o) r.Complete :=
  (handlerType_isHandlerType hr o).mono fun _ h => h.complete o.handlerType_wordPart

end

/-! ## Requests to a server -/

section

include hr

theorem readParameter_writes (p : Parameter) : Writes r (c.readParameter p) (ReadSound r) := by
  refine .bind_fresh (by decide) fun raw hraw => .bind (unpack_writes hr p hraw) fun unpacked => ?_
  have haccess : r.Sound (Code.cat ["request.", Code.site p.location.accessor,
      (quoted p.name).parens]) := by
    have haccessor : r.Callee (Code.site p.location.accessor) := by
      cases p.location <;> exact Reader.callee_word (by decide)
    have hfits : r.Fits _ ["request.", Code.site p.location.accessor, "(", quoted p.name, ")"] :=
      .text (.callee haccessor (.text (.complete (Reader.complete_quoted _) (.text .nil))))
    exact (hfits.cat (by decide)).congr (by simp [Code.parens])
  have hvalue (given : Bool) (hunpacked : r.Sound unpacked) : r.Sound (if given then unpacked else
      Code.cat [Code.site raw, " === undefined ? undefined : ", unpacked]) := by
    split
    · exact hunpacked
    · exact sound_ifDefined hraw hunpacked
  have finish {guarded : List Statement} (given : Bool) : Writes r (do
      let parameter ← Compile.fresh "param"
      return (([.constant raw (Code.cat ["request.", Code.site p.location.accessor,
          (quoted p.name).parens])] ++ guarded ++ [.constant parameter (if given then unpacked else
        Code.cat [Code.site raw, " === undefined ? undefined : ", unpacked])] : List Statement),
        Code.cat [quoted p.name, ": ", Code.site parameter]) : Compile (List Statement × Code))
      fun read => (∀ s ∈ guarded, r.StatementSound s) → r.Sound unpacked → ReadSound r read := by
    refine .bind_fresh (by decide) fun parameter hparameter => .pure fun hguarded hunpacked => ?_
    refine ⟨?_, Reader.sound_entry p.name hparameter.sound⟩
    simp only [List.forall_mem_append]
    exact ⟨⟨List.forall_mem_singleton.2 (.constant hraw.value haccess), hguarded⟩,
      List.forall_mem_singleton.2 (.constant hparameter.value (hvalue given hunpacked))⟩
  refine .ite (.bind_pure ((finish _).mono fun _ h => h (List.forall_mem_nil _))) ?_
  refine .bind (.throwMalformed _ _ (Reader.complete_quoted _).sound) fun failure => .bind_pure ?_
  exact (finish _).mono fun _ h hfailure => h (List.forall_mem_singleton.2 (sound_guard hraw hfailure))

theorem readParameters_writes (o : ResolvedOperation) :
    Writes r (c.readParameters o) fun read =>
      (∀ s ∈ read.1, r.StatementSound s) ∧ ∀ argument ∈ read.2, r.Sound (Code.site argument) := by
  refine .ite (.pure ⟨List.forall_mem_nil _, List.forall_mem_nil _⟩) ?_
  refine .bind (.mapM fun p _ => readParameter_writes hr p) fun read => ?_
  refine .bind_fresh (by decide) fun all hall => .pure fun hread => ?_
  obtain ⟨hstatements, hobject⟩ := readAll_sound hread
  exact ⟨List.forall_mem_append.2 ⟨hstatements,
    List.forall_mem_singleton.2 (.constant hall.value hobject)⟩, List.forall_mem_singleton.2 hall.sound⟩

theorem readBody_writes (body : Option RequestBody) :
    Writes r (c.readBody body) fun read =>
      (∀ s ∈ read.1, r.StatementSound s) ∧ ∀ argument ∈ read.2, r.Sound (Code.site argument) := by
  cases body with
  | none => exact .pure ⟨List.forall_mem_nil _, List.forall_mem_nil _⟩
  | some declared =>
    refine .bind_fresh (by decide) fun name hname => ?_
    refine .bind (bodyUnionType_writes hr declared.content) fun type => ?_
    refine .bind_fresh (by decide) fun contentType hcontentType => ?_
    refine .bind (.runtime_callee (by decide)) fun accepts => ?_
    refine .bind (P := fun clauses => ∀ clause ∈ clauses, r.Callee accepts →
      r.Sound clause.1 ∧ ∀ s ∈ clause.2, r.StatementSound s) (.mapM fun variant _ => ?_) fun clauses => ?_
    · obtain ⟨expected, media⟩ := variant
      refine .bind (decodeBody_writes hr _ media (Reader.value_given (by decide))) fun read => ?_
      refine .pure fun ⟨hstatement, hvalue⟩ haccepts => ⟨?_, ?_⟩
      · exact (Reader.value_call haccepts (Reader.sound_pair expected hcontentType.sound)).sound
      · refine List.forall_mem_cons.2 ⟨.line hstatement, List.forall_mem_singleton.2 (.line ?_)⟩
        exact (Reader.Fits.value hname.value (.text (.value (.braced (sound_typed expected hvalue))
          (.text .nil)))).cat (by decide)
    have hmessage : r.Sound (Code.site ("\"unsupported content type \" + " ++ contentType)) := by
      refine Reader.Fits.site ["\"unsupported content type \" + ", contentType]
        (.text (.value hcontentType.value .nil)) (by decide) ?_
      simp [String.join_cons]
    refine .bind (.throwMalformed _ _ hmessage) fun unsupported => ?_
    have code {missing : List Statement} (hmissing : ∀ s ∈ missing, r.StatementSound s)
        (hunsupported : r.Sound unsupported) (hclauses : ∀ clause ∈ clauses, r.Callee accepts →
          r.Sound clause.1 ∧ ∀ s ∈ clause.2, r.StatementSound s) (haccepts : r.Callee accepts)
        (htype : r.Sound type) :
        (∀ s ∈ [Statement.line (Code.cat ["let ", Code.site name, ": ", type,
            " | undefined = undefined;"]),
          .constant contentType "request.contentType",
          .conditional (contentType ++ " !== undefined" : String)
            (Statement.firstOf clauses [.line unsupported])] ++ missing, r.StatementSound s) ∧
          ∀ argument ∈ [name], r.Sound (Code.site argument) := by
      have hdeclared : r.Sound (Code.cat ["let ", Code.site name, ": ", type,
          " | undefined = undefined;"]) :=
        (Reader.Fits.text (.value hname.value (.text (.sound htype (.text .nil))))).cat (by decide)
      have hgiven : r.Sound (Code.site (contentType ++ " !== undefined")) := by
        refine Reader.Fits.site [contentType, " !== undefined"] (.value hcontentType.value (.text .nil))
          (by decide) ?_
        simp [String.join_cons]
      have hfirst := Reader.sound_firstOf (fun clause h => (hclauses clause h haccepts).1)
        (fun clause h => (hclauses clause h haccepts).2)
        (List.forall_mem_singleton.2 (.line hunsupported))
      refine ⟨List.forall_mem_append.2 ⟨?_, hmissing⟩, List.forall_mem_singleton.2 hname.sound⟩
      simp only [List.forall_mem_cons]
      exact ⟨.line hdeclared, .constant hcontentType.value (Reader.sound_given (by decide)),
        .conditional hgiven hfirst, List.forall_mem_nil _⟩
    refine .ite (.bind_pure (.pure (code (List.forall_mem_nil _)))) ?_
    refine .bind (.throwMalformed _ _ (Reader.complete_quoted _).sound) fun failure => .bind_pure ?_
    exact .pure fun hfailure => code (List.forall_mem_singleton.2 (sound_guard hname hfailure))

/-! ## Responses of a server -/

theorem respond_writes (content : Content) {result : String} (hresult : r.Operand result)
    {members : List Code} (hmembers : ∀ m ∈ members, r.Sound m) :
    Writes r (c.respond content result members) fun statements =>
      ∀ s ∈ statements, r.StatementSound s := by
  have hvalue : r.Operand (Code.site (result ++ ".body.value")) := by
    refine .text (Reader.Fits.siteValue [result, ".body.value"] (.value hresult.value (.text .nil))
      (by decide) ?_)
    simp [String.join_cons]
  have full (contentType : String) {encoded : Code} (h : r.Sound encoded) :
      r.Complete ((Code.join ", " (members ++ [Code.cat ["contentType: ", quoted contentType],
        Code.cat ["body: ", encoded]])).braced.returned) := by
    have htype : r.Sound (Code.cat ["contentType: ", quoted contentType]) :=
      (Reader.Fits.text (.complete (Reader.complete_quoted _) .nil)).cat (by decide)
    have hbody : r.Sound (Code.cat ["body: ", encoded]) :=
      (Reader.Fits.text (.sound h .nil)).cat (by decide)
    refine .returned (Reader.Value.braced (Reader.sound_join ?_ (by decide))).sound
    exact List.forall_mem_append.2 ⟨hmembers,
      List.forall_mem_cons.2 ⟨htype, List.forall_mem_singleton.2 hbody⟩⟩
  have encoded (contentType : String) (media : MediaType) : Writes r
      (c.encodeBody (.ofContentType contentType) media (Code.site (result ++ ".body.value"))) r.Sound :=
    encodeBody_writes hr _ media hvalue
  unfold respond
  dsimp only
  split
  case h_1 => exact .pure (List.forall_mem_singleton.2 (returnObject_sound hmembers))
  case h_2 contentType media =>
    refine .bind (encoded contentType media) fun code => .pure fun hcode => ?_
    exact List.forall_mem_singleton.2 (.line (full contentType hcode).sound)
  case h_3 =>
    refine .bind (.runtime_callee (by decide)) fun accepts => ?_
    refine .bind (P := fun cases => ∀ s ∈ cases, r.Callee accepts → r.StatementSound s)
      (.mapM fun variant _ => ?_) fun cases => ?_
    · obtain ⟨contentType, media⟩ := variant
      refine .bind (encoded contentType media) fun code => .pure fun hcode haccepts => .line ?_
      have hfits : r.Fits _ ["case ", quoted contentType, ": if (", Code.site accepts, "(", "request, ",
          quoted contentType, ")", ") ", _, " break;"] :=
        .text (.complete (Reader.complete_quoted _) (.text (.callee haccepts (.text (.text (.complete
          (Reader.complete_quoted _) (.text (.text (.complete (full contentType hcode)
            (.text .nil))))))))))
      exact (hfits.cat (by decide)).congr (by simp [Code.parens])
    refine .bind (.runtime_callee (by decide)) fun refuse => .pure ?_
    intro hrefuse hcases haccepts
    have hswitch : r.Sound (Code.cat ["switch (", Code.site result, ".body.contentType)"]) :=
      (Reader.Fits.text (.value hresult.value (.text .nil))).cat (by decide)
    have hreturn : r.Sound (Code.site ("return " ++ refuse ++ "();")) := by
      refine Reader.Fits.site ["return ", refuse, "();"] (.text (.callee hrefuse (.text .nil)))
        (by decide) ?_
      simp [String.join_cons, String.append_assoc]
    exact List.forall_mem_cons.2 ⟨.only hswitch fun s hs => hcases s hs haccepts,
      List.forall_mem_singleton.2 (.line hreturn)⟩

theorem respondCase_writes {result : String} (hresult : r.Operand result) (case : ResponseCase) :
    Writes r (c.respondCase result case) r.StatementSound := by
  have hvalue : r.Operand (Code.site (result ++ ".headers")) := by
    refine .text (Reader.Fits.siteValue [result, ".headers"] (.value hresult.value (.text .nil))
      (by decide) ?_)
    simp [String.join_cons]
  refine .bind (P := fun pairs => ∀ pair ∈ pairs, r.Sound pair)
    (.mapM fun header _ => headerPair_writes hr _ _ (hvalue.member header.1)) fun headers => ?_
  refine .bind_fresh (by decide) fun packed hpacked => ?_
  refine .bind (respond_writes hr case.content hresult (List.forall_mem_cons.2
    ⟨sound_status _, List.forall_mem_singleton.2 (sound_headers hpacked)⟩)) fun statements => ?_
  refine .pure fun hstatements hheaders => .only (sound_case _) ?_
  refine List.forall_mem_cons.2
    ⟨.typedConstant hpacked.value (Reader.sound_given (by decide)) ?_, hstatements⟩
  exact (Reader.Value.brackets (Reader.sound_join hheaders (by decide))).sound

theorem answer_writes (cases : List ResponseCase) {result : String} (hresult : r.Operand result)
    (arguments : List String) :
    Writes r (c.answer cases result arguments) fun statements =>
      (∀ argument ∈ arguments, r.Sound (Code.site argument)) → ∀ s ∈ statements, r.StatementSound s := by
  refine .bind (.mapM fun case _ => respondCase_writes hr hresult case) fun statements => ?_
  refine .bind (.throwMalformed _ _ (Reader.complete_quoted _).sound) fun failure => .pure ?_
  intro hfailure hstatements harguments
  have hcall : r.Sound (Code.cat ["await handler",
      (Code.join ", " (arguments.map Code.site)).parens]) :=
    (Reader.value_call (Reader.callee_given (by decide))
      (Reader.sound_join (List.forall_mem_map.2 harguments) (by decide))).sound
  have hswitch : r.Sound (Code.cat ["switch (", Code.site result, ".status)"]) :=
    (Reader.Fits.text (.value hresult.value (.text .nil))).cat (by decide)
  refine List.forall_mem_cons.2 ⟨.constant hresult.value hcall, List.forall_mem_singleton.2 ?_⟩
  exact .only hswitch (List.forall_mem_append.2
    ⟨hstatements, List.forall_mem_singleton.2 (.line (sound_default hfailure))⟩)

/-- The function that receives the call is one of its name. -/
theorem endpoint_function (o : ResolvedOperation) {handlerType : String}
    (htype : r.Line handlerType) : Writes r (c.endpoint o handlerType) (r.IsFunction o.endpoint) := by
  refine .bind (.lift (.runtime_line (by decide))) fun request => ?_
  refine .bind (.lift (.runtime_line (by decide))) fun response => ?_
  refine .bind (.lift (readParameters_writes hr o)) fun ⟨readParameters, parameters⟩ => ?_
  refine .bind_read' fun body _ => .bind (.lift (readBody_writes hr body)) fun ⟨readBody, body⟩ => ?_
  refine .bind_fresh' (by decide) fun result hresult => .bind_read fun cases _ => ?_
  refine .bind (.lift (answer_writes hr cases hresult _)) fun answer => .pure ?_
  intro hanswer ⟨hreadBody, hbody⟩ ⟨hreadParameters, hparameters⟩ hresponse hrequest
  have harguments : r.Line (Field.arguments [.plain "handler" handlerType, .plain "request" request]) :=
    Reader.line_arguments (List.forall_mem_cons.2 ⟨Reader.fieldLine_plain (by decide) htype,
      List.forall_mem_singleton.2 (Reader.fieldLine_plain (by decide) hrequest)⟩)
  refine .mk harguments hresponse ?_
  simp only [List.forall_mem_append]
  exact ⟨⟨hreadParameters, hreadBody⟩, hanswer (List.forall_mem_append.2 ⟨hparameters, hbody⟩)⟩

theorem endpoint_writes (o : ResolvedOperation) (hcall : r.MayCall o.endpoint) {handlerType : String}
    (htype : r.Line handlerType) : Writes r (c.endpoint o handlerType) r.Complete :=
  (endpoint_function hr o htype).mono fun _ h => h.complete o.endpoint_wordPart hcall

end

end Compiler

end OpenApi
