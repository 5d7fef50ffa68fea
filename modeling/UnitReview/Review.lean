import UnitReview.Csharp.Reader
import UnitReview.Host.FileSystem
import UnitReview.Metrics
import UnitReview.Result
import UnitReview.Rule.Registry

/-!
# Reviewing a unit

A reviewer joins a reader of source text with a registry of rules. It reads a unit, measures it,
runs the rules and puts the result together. Broken source is no failure: what is wrong with it
comes back as diagnostics.
-/

set_option autoImplicit false

namespace UnitReview

/-- A reader of source text in one language. Reading may fail with a message. -/
structure Provider where
  language : String
  extensions : List String
  read : Text → String → Except String RuleContext

/-- Whether files with the given extension are in the provider's language. -/
def Provider.handles (p : Provider) (extension : String) : Bool := p.extensions.contains extension

/-- The provider of C# with a reader of its trees. -/
def Csharp.providerOf (reader : TreeReader) : Provider where
  language := "csharp"
  extensions := ["cs"]
  read := readUnit reader

/-- The provider of C#. -/
def Csharp.provider : Provider := providerOf grammarReader

/-- Why there is no result. -/
inductive ReviewError where
  | unparsed (displayName message : String)
  | unreadable (path : Host.OsText) (cause : SystemError)
  deriving Repr, DecidableEq

/-- The failure in words, outermost context first. -/
def ReviewError.message : ReviewError → String
  | .unparsed name m => "Failed to parse " ++ name ++ ": " ++ m
  | .unreadable path e => "Failed to read " ++ path.display ++ ": " ++ e.message

/-- A reader with the rules to run on what it reads. -/
structure Reviewer where
  provider : Provider
  registry : Registry

namespace Reviewer

/-- The name of a unit that is given none. -/
def defaultName : String := "input.cs"

/-- The reviewer of C# with all built-in rules, over a reader of trees. -/
def csharp (reader : Csharp.TreeReader) : Reviewer := ⟨Csharp.providerOf reader, Registry.builtIn⟩

/-- The reviewer of C# with all built-in rules. -/
def standard : Reviewer := csharp Csharp.grammarReader

/-- Reviews what a provider has read. -/
def assess (r : Reviewer) (ctx : RuleContext) : ReviewResult :=
  ReviewResult.aggregate ctx.diagnostics (Metrics.compute ctx.unit) (r.registry.run ctx)

/-- Reviews a source text under a name. -/
def reviewText (r : Reviewer) (source : Text) (name : Option String) :
    Except ReviewError ReviewResult :=
  let name := name.getD defaultName
  match r.provider.read source name with
  | .ok ctx => .ok (r.assess ctx)
  | .error m => .error (.unparsed name m)

/-- Reviews a file's content; without a name it goes by its path. -/
def reviewBytes (r : Reviewer) (path : Host.OsText) (bytes : Text.Bytes) (name : Option String) :
    Except ReviewError ReviewResult :=
  r.reviewText (Text.decodeLossy bytes) (some (name.getD path.display))

/-- Reviews the file that a path leads to. -/
def reviewFile (r : Reviewer) (fs : Host.FileSystem) (cwd : Host.Location) (path : Host.OsText)
    (name : Option String) : Except ReviewError ReviewResult :=
  match fs.readFile cwd path with
  | .ok bytes => r.reviewBytes path bytes name
  | .error e => .error (.unreadable path e)

/-- Reviews an input that is a path if it leads to anything, and a source text otherwise. -/
def reviewInput (r : Reviewer) (fs : Host.FileSystem) (cwd : Host.Location) (input : String)
    (name : Option String) : Except ReviewError ReviewResult :=
  if fs.pathExists cwd input then r.reviewFile fs cwd input name
  else r.reviewText input.toList name

end Reviewer

end UnitReview
