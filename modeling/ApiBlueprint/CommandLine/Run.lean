import ApiBlueprint.CommandLine.Invocation
import ApiBlueprint.Config.Discovery
import ApiBlueprint.Files.Import
import ApiBlueprint.Files.Project
import ApiBlueprint.Grammar.Encoding

/-! What the commands do: their output, their exit code and the files after them. -/

namespace ApiBlueprint

inductive CommandError where
  | config (error : ConfigError)
  | compile (error : CompileError)
  /-- The source has no stem that is a text. -/
  | noDestination (source : Path)
  deriving DecidableEq, Repr

namespace CommandError

def message : CommandError → Text
  | config error => error.fullMessage
  | compile error => error.message
  | noDestination source => "cannot derive a destination from ".toList ++ source.text

def exitCode : CommandError → Nat
  | config _ => 1
  | compile error => error.exitCode
  | noDestination _ => 1

end CommandError

structure Outcome where
  code : Nat
  output : Text := []
  error : Text := []
  tree : FileTree

structure Session where
  config : Config
  generator : Generator
  tree : FileTree

namespace Session

def options (session : Session) : CompileOptions := session.config.compileOptions session.tree
def system (session : Session) : FileSystem FileTree := session.config.project.fileSystem

abbrev Answer := Except CommandError Text × FileTree

/-- The format of printed documents: the one that is asked for, or JSON if it is the default. -/
def printFormat (session : Session) : Option PrintFormat → PrintFormat
  | some format => format
  | none => if session.config.defaultFormat = "json".toList then .json else .apib

def printArtifacts (artifacts : List Artifact) : PrintFormat → Text
  | .json => (Json.array (artifacts.map fun artifact => .array artifact.fixtures)).pretty
  | .apib => Text.joinWith ['\n'] (artifacts.map Artifact.markdown)

def compile (session : Session) (paths : List Path) (format : Option PrintFormat) : Answer :=
  let (result, _) :=
    session.system.compileFiles session.tree session.options paths session.generator
  let output := (result.mapError CommandError.compile).map fun compiled =>
    printArtifacts (compiled.map Prod.snd) (session.printFormat format)
  (output, session.tree)

def readDocument (session : Session) (path : Path) : Except CompileError Document := do
  return ⟨← session.system.read session.tree path, some path⟩

def compiledBlueprint (session : Session) (document : Document) : Except CompileError Blueprint :=
  match ({ document } : CompilationUnit).compile session.options session.generator with
  | (.error error, _) => .error error
  | (.ok _, unit, _) => unit.blueprint

def parse (session : Session) (path : Path) : Answer :=
  let blueprint := session.readDocument path >>= session.compiledBlueprint
  ((blueprint.mapError CommandError.compile).map fun blueprint => blueprint.toJson.pretty,
    session.tree)

def destination (config : Config) (source : Path) : Except CommandError Path :=
  match source.stem? >>= OsText.text? with
  | none => .error (.noDestination source)
  | some [] => .error (.noDestination source)
  | some stem => .ok (config.outputFolder.join (.ofText (stem ++ '.' :: config.defaultFormat)))

def distTo (session : Session) (source target : Path) : Answer :=
  match session.readDocument source with
  | .error error => (.error (.compile error), session.tree)
  | .ok document =>
    let outcome :=
      session.system.distDocument session.tree document target session.options session.generator
    ((outcome.result.mapError CommandError.compile).map fun _ => "wrote ".toList ++ target.text,
      outcome.files)

def dist (session : Session) (source : Path) : Option Path → Answer
  | some target => session.distTo source target
  | none =>
    match destination session.config source with
    | .ok target => session.distTo source target
    | .error error => (.error error, session.tree)

def listing (compiled : List (Path × Artifact)) : Text :=
  let lines := compiled.map fun (path, artifact) =>
    path.text ++ '\t' :: Text.ofNat artifact.fixtures.length ++ " fixture(s)".toList
  let summary := Text.ofNat compiled.length ++ " document(s) compiled".toList
  Text.joinWith ['\n'] (lines ++ [summary])

def glob (session : Session) (pattern : Option Text) : Answer :=
  let (result, _) :=
    match pattern with
    | some pattern =>
      session.system.compileGlob session.tree pattern session.config.globOptions session.options
        session.generator
    | none =>
      session.system.compileSources session.tree (session.config.includePatterns.map Glob.text)
        session.config.globOptions session.options session.generator
  ((result.mapError CommandError.compile).map listing, session.tree)

def answer (session : Session) : Command → Answer
  | .compile paths format => session.compile paths format
  | .parse path => session.parse path
  | .dist source target => session.dist source target
  | .glob pattern => session.glob pattern

end Session

namespace Outcome

def ofText (text : Text) (tree : FileTree) : Outcome :=
  ⟨0, if text.getLast? = some '\n' then text else text ++ ['\n'], [], tree⟩

def ofError (error : CommandError) (tree : FileTree) : Outcome :=
  ⟨error.exitCode, [], "apib error: ".toList ++ error.message ++ ['\n'], tree⟩

end Outcome

/-- The seed that is asked for counts more than that of the configuration; without both, the given
generator is used. -/
def Invocation.generator (invocation : Invocation) (config : Config) (fallback : Generator) :
    Generator :=
  match invocation.seed <|> config.seed with
  | some seed => .seeded seed
  | none => fallback

def Invocation.run (invocation : Invocation) (tree : FileTree) (folder : Path) (fallback : Generator) :
    Outcome :=
  match Config.load tree folder invocation.config with
  | .error error => .ofError (.config error) tree
  | .ok config =>
    let session : Session := ⟨config, invocation.generator config fallback, tree⟩
    match session.answer invocation.command with
    | (.ok output, tree) => .ofText output tree
    | (.error error, tree) => .ofError error tree

def versionText : Text := "apib 0.1.0".toList

def helpText : Text :=
  "Compile API Blueprint documents and their JSON fixtures

Usage: apib [OPTIONS] <COMMAND>

Commands:
  compile PATH... [--format json|apib]  print the fixtures or the markdown of documents
  parse PATH                            print the structure of a document as JSON
  dist SOURCE [DEST]                    write a document in the format of its destination
  glob [PATTERN]                        compile the documents that match a pattern

Options:
  --config PATH  a config file over the discovered ones
  --seed N       seed of the placeholder values
  -v, --verbose  tell more
  -h, --help     print this text
  -V, --version  print the version".toList

def misuseText : Text := "Usage: apib [OPTIONS] <COMMAND>\n".toList

def runProgram (arguments : List OsText) (tree : FileTree) (folder : Path) (fallback : Generator) :
    Outcome :=
  match Request.ofArguments arguments with
  | .run invocation => invocation.run tree folder fallback
  | .version => .ofText versionText tree
  | .help => .ofText helpText tree
  | .misuse => ⟨2, [], misuseText, tree⟩

end ApiBlueprint
