import TagSearch.Config
import TagSearch.Preparsed
import TagSearch.QueryPart

/-!
# Query documents

The complete query for a search.  Inside its union, each part has a comment with its labels and one
block for each entity type, in which the clauses of the part and then the bounds have to hold.
Search text, comment and the names of places are put in as they are.
-/

namespace TagSearch

namespace Bounds

/-- The lines that prepare bounds, where `radius` is the one of a search around a place. -/
def setupLines (radius : UInt32) : Bounds → List String
  | area name =>
    ["  <!-- fetch area “" ++ name ++ "” to search in -->",
      "  <id-query \x7b\x7bnominatimArea:" ++ name ++ "\x7d\x7d into=\"area\"/>"]
  | around _ =>
    ["  <!-- adjust the search radius (in meters) here -->",
      "  \x7b\x7bradius=" ++ toString radius.toNat ++ "\x7d\x7d"]
  | bbox => []
  | global => []

/-- The line of a block that restricts it to the bounds. -/
def line? : Bounds → Option String
  | area _ => some "<area-query from=\"area\"/>"
  | around name =>
    some ("<around \x7b\x7bnominatimCoords:" ++ name ++
      "\x7d\x7d radius=\"\x7b\x7bradius\x7d\x7d\"/>")
  | bbox => some "<bbox-query \x7b\x7bbbox\x7d\x7d/>"
  | global => none

end Bounds

/-- A query block: elements of one type for which all its lines hold. -/
structure Block where
  type : EntityType
  /-- The clauses, as they are written. -/
  clauses : List String
  /-- The restriction to the bounds. -/
  bound : Option String
  deriving DecidableEq, Repr

/-- The lines of a block. -/
def Block.lines (b : Block) : List String :=
  ["    <query type=\"" ++ b.type.name ++ "\">"] ++
    (b.clauses ++ b.bound.toList).map (fun line => "      " ++ line) ++ ["    </query>"]

namespace QueryPart

/-- The blocks of a part, one for each of its entity types. -/
def blocks (bound : Option String) (p : QueryPart) : List Block :=
  p.types.toList.map fun t => ⟨t, p.clauses.map (Clause.render t), bound⟩

/-- The comment that names a part. -/
def caption (p : QueryPart) : String :=
  "    <!-- query part for: “" ++ " and ".intercalate p.labels ++ "” -->"

/-- The lines of a part. -/
def lines (bound : Option String) (p : QueryPart) : List String :=
  p.caption :: (p.blocks bound).flatMap Block.lines

end QueryPart

/-- A query document. -/
structure Document where
  /-- The lines of the comment at the head. -/
  remark : List String
  outputFormat : String
  timeout : UInt32
  radius : UInt32
  bounds : Bounds
  parts : List QueryPart
  deriving DecidableEq, Repr

namespace Document

/-- The comment at the head of a document: the given one, or else where the query came from. -/
def remarkLines (attribution search : String) (comment : Option String) : List String :=
  match comment.filter fun c => c ≠ "" with
  | some comment => [comment]
  | none => [attribution, "The original search was:", "“" ++ search ++ "”"]

/-- The blocks inside the union. -/
def blocks (d : Document) : List Block :=
  d.parts.flatMap fun p => p.blocks d.bounds.line?

/-- The lines inside the union. -/
def unionLines (d : Document) : List String :=
  d.parts.flatMap fun p => p.lines d.bounds.line?

/-- The lines before the parts. -/
def openingLines (d : Document) : List String :=
  ["<!--"] ++ d.remark ++ ["-->",
    "<osm-script output=\"" ++ d.outputFormat ++
      "\" timeout=\"" ++ toString d.timeout.toNat ++ "\">"] ++
    d.bounds.setupLines d.radius ++ ["  <!-- gather results -->", "  <union>"]

/-- The lines after the parts. -/
def closingLines : List String :=
  ["  </union>", "  <!-- print results -->", "  <print mode=\"body\"/>",
    "  <recurse type=\"down\"/>", "  <print mode=\"skeleton\" order=\"quadtile\"/>", "</osm-script>"]

/-- The lines of a document. Where a text that was put in has several lines, these are one here. -/
def lines (d : Document) : List String :=
  d.openingLines ++ d.unionLines ++ closingLines

/-- A document as it is written. -/
def render (d : Document) : String :=
  "\n".intercalate d.lines

/-- The document with the given parts. -/
def ofParts (config : Config) (search : String) (comment : Option String) (bounds : Bounds)
    (parts : List QueryPart) : Document where
  remark := remarkLines config.attribution search comment
  outputFormat := config.outputFormat
  timeout := config.timeout
  radius := config.defaultRadius
  bounds := bounds
  parts := parts

section

variable {m : Type → Type} [Monad m] [MonadExceptOf ClauseError m]

/-- The document for a parsed search. -/
def assembleWith (resolve : String → m (Option Resolution)) (config : Config) (search : String)
    (comment : Option String) (parsed : ParsedSearch) : m Document := do
  return ofParts config search comment parsed.bounds (← parsed.query.parts resolve)

end

/-- The document for a parsed search, where phrases mean what the resolver says. -/
def assemble (resolver : Resolver) (config : Config) (search : String) (comment : Option String)
    (parsed : ParsedSearch) : Except ClauseError Document :=
  assembleWith (fun phrase => .ok (resolver.resolve phrase)) config search comment parsed

end Document

/-- Why there is no document for a search. -/
inductive CompileError where
  | parse (error : ParseError)
  | clause (error : ClauseError)
  deriving DecidableEq, Repr

/-- The message for a search without a document. -/
def CompileError.message : CompileError → String
  | parse error => error.message
  | clause error => error.message

section

variable {m : Type → Type} [Monad m]

/-- The document for a search. -/
def Document.constructWith (resolve : String → m (Option Resolution)) (config : Config)
    (parser : Preparsed) (search : String) (comment : Option String) :
    m (Except CompileError Document) :=
  match parser.parse search with
  | .error e => pure (.error (.parse e))
  | .ok parsed => do
    let document ← (assembleWith (fun phrase => ExceptT.lift (resolve phrase)) config search comment
      parsed : ExceptT ClauseError m Document).run
    return document.mapError .clause

end

end TagSearch
