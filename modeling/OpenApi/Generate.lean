import OpenApi.Config
import OpenApi.File
import OpenApi.File.Client
import OpenApi.File.Server
import OpenApi.File.Types
import OpenApi.File.Validators

/-!
Generating the files for a document. Every file is written on its own: names and imports of one file
do not depend on another.
-/

namespace OpenApi

/-- What is generated, and with what. -/
structure Plan where
  runtimeModule : String
  targets : Targets := {}
  formats : Registry

/-- The plan of a configuration. -/
def Plan.ofConfig (config : Config) : Except ConfigError Plan := do
  let formats ← Registry.ofConfig config
  pure { runtimeModule := config.runtimeModule, targets := config.targets, formats }

namespace Plan

/-- A file whose body a compiler writes. -/
def file (plan : Plan) (path : String) (compiler : Compiler) (siblings : List (String × String))
    (body : Compiler → Write Code) : Report File := do
  let (body, progress) ← (body compiler).run {}
  return { path,
           content := File.contentOf progress.context.usage plan.runtimeModule siblings body }

/-- The files for a document. -/
def generate (plan : Plan) (document : Document) : Report (List File) := do
  let types : Compiler := { document, formats := plan.formats }
  let others : Compiler := { types with qualifier := some "Types" }
  let targets := plan.targets
  if targets.client || targets.server then document.warnRawBodies
  let files (wanted : Bool) (files : Report (List File)) : Report (List File) :=
    if wanted then files else pure []
  let types ← files targets.types do
    pure [← plan.file "types.ts" types [] fun c => c.typesBody]
  let validators ← files targets.validators do
    pure [← plan.file "validators.ts" others [] fun c => c.validatorsBody]
  let client ← files targets.client do
    pure [← plan.file "client.ts" others [] fun c => c.clientBody]
  let server ← files targets.server do
    pure [← plan.file "server-types.ts" others [] fun c => c.handlerTypesBody,
      ← plan.file "server.ts" others [("ServerTypes", "./server-types")] fun c => c.serverBody]
  pure (types ++ validators ++ client ++ server)

end Plan

end OpenApi
