import Lexicon.Generation.Index
import Lexicon.Generation.SourceModule

/-!
# Lexicon.Generation.Generator

Generating documents into files.

A document becomes one file; a run over documents skips those without a record
or an object as their main definition, and writes the indexes of what it has
generated last. What was written before an error stays.

## Main definitions

- `Generator.generate`: the generated file of a document.
- `Generator.run`: generates documents into anything that takes files.
-/

namespace Lexicon

/-- What generated source depends on, the documents apart. -/
structure Generator where
  mapper : TypeMapper
  stubs : Stubs

/-- The generated file of a document. -/
structure GeneratedFile where
  id : Nsid
  path : String
  modulePath : String
  source : String
deriving DecidableEq, Repr

/-- What a run has done: the files in order, and the documents that were skipped. -/
structure RunReport where
  generated : List GeneratedFile
  skipped : List Nsid

namespace Generator

/-- The generated file of a document. -/
def generate (generator : Generator) (doc : Document) : Except GenerationError GeneratedFile := do
  let module ← SourceModule.ofDocument generator.mapper doc
  let source ← (module.render generator.stubs generator.mapper.runtime).mapError .template
  return {
    id := doc.id
    path := generator.mapper.layout.filePath doc.id
    modulePath := generator.mapper.layout.modulePath doc.id
    source }

/-- The source text of the struct of the main definition. -/
def generateDeclaration (generator : Generator) (doc : Document) :
    Except GenerationError String := do
  let declaration ← SourceModule.mainDeclaration generator.mapper doc
  (declaration.render generator.stubs generator.mapper.runtime).mapError .template

/-- Generates documents one after the other and writes each as soon as it is there. -/
def generateEach {σ : Type} (generator : Generator) (writer : Writer σ) (state : σ) :
    List Document → σ × Except GenerationError RunReport
  | [] => (state, .ok { generated := [], skipped := [] })
  | doc :: rest =>
    match generator.generate doc with
    -- Such documents are no fault of the run; all other errors end it.
    | .error (.missingMain _) | .error (.unsupportedMain ..) =>
      let (state, report) := generateEach generator writer state rest
      (state, report.map fun report => { report with skipped := doc.id :: report.skipped })
    | .error error => (state, .error error)
    | .ok file =>
      match writer state file.path file.source with
      | .error error => (state, .error (.writing error))
      | .ok state =>
        let (state, report) := generateEach generator writer state rest
        (state, report.map fun report => { report with generated := file :: report.generated })

/-- Generates documents and writes them, and the indexes behind them. -/
def run {σ : Type} (generator : Generator) (writer : Writer σ) (state : σ)
    (docs : List Document) : σ × Except GenerationError RunReport :=
  match generator.generateEach writer state docs with
  | (state, .error error) => (state, .error error)
  | (state, .ok report) =>
    match Index.write writer state (Index.ofPaths (report.generated.map (·.path))) with
    | (state, .ok ()) => (state, .ok report)
    | (state, .error error) => (state, .error (.writing error))

end Generator

end Lexicon
