import OpenApi.Generate
import OpenApi.Proofs.Files.AuditedFunctions

/-!
The bodies of all files are sound: they are declarations one after the other, each of which is sound by
itself.
-/

namespace OpenApi

variable {r : Audit}

namespace Compiler

variable {c : Compiler} (hr : r.Suits c)

/-! ## Types and validators -/

section

include hr

theorem conversionFunction_writes (name reference : String) (schema : Schema) (d : Direction) :
    Writes r (c.conversionFunction name reference schema d) fun code =>
      r.Sound name → r.Complete code := by
  refine .bind (needsConversion_writes hr d reference) fun needed => ?_
  cases needed with
  | false => exact .pure fun _ _ => rfl
  | true =>
  refine .bind (functionName_writes hr d reference) fun function => ?_
  refine .bind (convert_writes hr d schema (Reader.operand_given (by decide))) fun converted => .pure ?_
  intro hconverted hfunction hneeded hname
  have hcallee := hfunction (hneeded rfl)
  have hreturned := Reader.Complete.returned hconverted
  cases d with
  | parse =>
    have hfits : r.Fits _ ["export function ", function, "(value: any): ", name, " \x7b\n  ",
        converted.returned, "\n\x7d\n\n"] :=
      .text (.callee hcallee (.text (.sound hname (.text (.complete hreturned (.text .nil))))))
    exact (hfits.catComplete (by decide)).congr (by simp [signature])
  | serialize =>
    have hfits : r.Fits _ ["export function ", function, "(value: ", name, "): any", " \x7b\n  ",
        converted.returned, "\n\x7d\n\n"] :=
      .text (.callee hcallee (.text (.sound hname (.text (.text (.complete hreturned
        (.text .nil)))))))
    exact (hfits.catComplete (by decide)).congr (by simp [signature])

theorem typeDeclarations_writes (key : String) (schema : Schema) :
    Writes r (c.typeDeclarations key schema) r.Complete := by
  refine .bind (typeName_writes hr _) fun name => .bind (schemaType_writes hr schema) fun type => ?_
  refine .bind (conversionFunction_writes hr name _ schema .parse) fun parse => ?_
  refine .bind (conversionFunction_writes hr name _ schema .serialize) fun serialize => .pure ?_
  intro hserialize hparse htype hname
  exact (Reader.Fits.text (.sound hname (.text (.sound htype (.text (.complete (hparse hname)
    (.complete (hserialize hname) .nil))))))).catComplete (by decide)

theorem typesBody_writes : Writes r c.typesBody r.Complete := by
  refine .bind (.mapM fun ⟨key, schema⟩ _ => typeDeclarations_writes hr key schema) fun declarations => ?_
  refine .pure fun hdeclarations => ?_
  split
  · exact Reader.complete_given (by decide)
  · exact Reader.complete_cat hdeclarations

end

/-! ## Clients and servers -/

theorem line_serverTypes (o : ResolvedOperation) :
    r.Line (Code.site ("ServerTypes." ++ o.handlerType)) := by
  constructor
  · refine Reader.Fits.site ["ServerTypes.", o.handlerType]
      (.text (.ordinary (Text.all_ordinary o.handlerType_wordPart) .nil)) (by decide) ?_
    simp [String.join_cons]
  · refine fun _ => Reader.oneLine_site ?_
    simp [Text.newline_notMem_of_all (p := Text.isWordPart) (by decide) o.handlerType_wordPart]

theorem complete_routeEntry (o : ResolvedOperation) (hcall : r.MayCall o.endpoint) :
    r.Complete (routeEntry o) := by
  have hhandled : r.Sound (Code.cat ["(request) => ", Code.site o.endpoint,
      (Code.cat ["handlers", (quoted o.functionName).brackets, ", request"]).parens]) := by
    have hfits : r.Fits _ ["(request) => ", Code.site o.endpoint, "(", "handlers", "[",
        quoted o.functionName, "]", ", request", ")"] :=
      .text (.callee (hcall.callee (Text.all_ordinary o.endpoint_wordPart)) (.text (.text (.text
        (.complete (Reader.complete_quoted _) (.text (.text (.text .nil))))))))
    exact (hfits.cat (by decide)).congr (by simp [Code.parens, Code.brackets])
  have hmethod : r.Sound (Code.cat ["method: ", quoted o.method.name]) :=
    (Reader.Fits.text (.complete (Reader.complete_quoted _) .nil)).cat (by decide)
  have hpath : r.Sound (Code.cat ["path: ", quoted (PathTemplate.ofString o.path).route]) :=
    (Reader.Fits.text (.complete (Reader.complete_quoted _) .nil)).cat (by decide)
  have hhandle : r.Sound (Code.cat ["handle: ", Code.cat ["(request) => ", Code.site o.endpoint,
      (Code.cat ["handlers", (quoted o.functionName).brackets, ", request"]).parens]]) :=
    (Reader.Fits.text (.sound hhandled .nil)).cat (by decide)
  have hroute : r.Value (Code.join ", " [Code.cat ["method: ", quoted o.method.name],
      Code.cat ["path: ", quoted (PathTemplate.ofString o.path).route],
      Code.cat ["handle: ", Code.cat ["(request) => ", Code.site o.endpoint,
        (Code.cat ["handlers", (quoted o.functionName).brackets, ", request"]).parens]]]).braced :=
    .braced (Reader.sound_join (List.forall_mem_cons.2 ⟨hmethod, List.forall_mem_cons.2 ⟨hpath,
      List.forall_mem_singleton.2 hhandle⟩⟩) (by decide))
  exact (Reader.Fits.text (.value hroute (.text .nil))).catComplete (by decide)

/-- The fields of all handlers. -/
theorem complete_handlers (operations : List ResolvedOperation) :
    r.Complete (Code.cat (operations.map fun o =>
      Code.cat ["  ", quoted o.functionName, ": ", Code.site o.handlerType, ";\n"])) := by
  refine Reader.complete_cat (List.forall_mem_map.2 fun o _ => ?_)
  exact (Reader.Fits.text (.complete (Reader.complete_quoted _) (.text
    (.ordinary (Text.all_ordinary o.handlerType_wordPart) (.text .nil))))).catComplete (by decide)

section

include hr

theorem clientBody_writes
    (hnames : ∀ operations, c.document.operations = .ok operations →
      ∀ o ∈ operations, r.MayCall o.functionName) : Writes r c.clientBody r.Sound := by
  refine .bind_read' fun operations hoperations => ?_
  refine .bind (.mapM fun o ho => clientCall_writes hr o (hnames _ hoperations o ho)) fun calls => ?_
  refine .ite (.pure fun _ => Reader.sound_given (by decide)) (.pure fun hcalls => ?_)
  refine (Reader.Fits.complete ?_ (.sound (Reader.sound_join (fun call h => (hcalls call h).sound)
    (by decide)) .nil)).append (by decide)
  split
  · exact (Reader.Fits.text (.complete (Reader.complete_quoted _) (.text .nil))).catComplete (by decide)
  · rfl

theorem serverBody_writes
    (hnames : ∀ operations, c.document.operations = .ok operations →
      ∀ o ∈ operations, r.MayCall o.endpoint) : Writes r c.serverBody r.Complete := by
  refine .bind_read' fun operations hoperations => ?_
  have hnames := hnames _ hoperations
  have hline : r.Complete "\n" := Reader.complete_given (by decide)
  have hendpoints : Writes r (operations.mapM fun o => (do
      return (← c.endpoint o ("ServerTypes." ++ o.handlerType)) ++ "\n" : Write Code))
      fun endpoints => ∀ endpoint ∈ endpoints, r.Complete endpoint :=
    .mapM fun o ho => .bind (endpoint_writes hr o (hnames o ho) (line_serverTypes o)) fun _ =>
      .pure fun hendpoint => Reader.Complete.append hendpoint hline
  refine .bind hendpoints fun endpoints => .bind (.lift (.runtime (by decide))) fun route => .pure ?_
  intro hroute hendpoints
  have hentries : r.Complete (Code.cat (operations.map routeEntry)) :=
    Reader.complete_cat (List.forall_mem_map.2 fun o ho => complete_routeEntry o (hnames o ho))
  exact (Reader.Fits.complete (Reader.complete_cat hendpoints) (.text (.sound hroute (.text
    (.complete hentries (.text .nil)))))).catComplete (by decide)

end

end Compiler

end OpenApi
