import TagSearch.Document
import TagSearch.OnDemand
import TagSearch.Repair

/-!
# Sessions

A session answers steps one after the other.  Its resolver is built when a step first needs it, and
kept; the current parser is replaced by loading another one.
-/

namespace TagSearch

namespace OnDemand

/-- Looks a phrase up in a resolver that is built on demand. -/
def resolve (phrase : String) : StateM (OnDemand Resolver) (Option Resolution) := do
  return (← OnDemand.get).resolve phrase

/-- Asks a resolver that is built on demand for a suggestion. -/
def suggest (phrase : String) : StateM (OnDemand Resolver) (Option String) := do
  return (← OnDemand.get).suggest phrase

/-- The document for a search, with a resolver that is built on demand. -/
def construct (config : Config) (parser : Preparsed) (search : String) (comment : Option String) :
    StateM (OnDemand Resolver) (Except CompileError Document) :=
  Document.constructWith resolve config parser search comment

/-- The repaired search, with a resolver that is built on demand. -/
def repair (parser : Preparsed) (search : String) :
    StateM (OnDemand Resolver) (Option (List Fragment)) :=
  Repair.repairWith resolve suggest parser.parse search

end OnDemand

/-- What a session holds between its steps. -/
structure Session where
  config : Config
  resolver : OnDemand Resolver
  parser : Option Preparsed := none

namespace Session

/-- What a session can be asked to do. -/
inductive Step where
  /-- Replaces the current parser. -/
  | load (parser : Preparsed)
  /-- Parses a search. -/
  | parse (search : String)
  /-- Writes the document for a search. -/
  | construct (search : String) (comment : Option String)
  /-- Repairs a search. -/
  | repair (search : String)
  /-- Looks a phrase up. -/
  | resolve (phrase : String)
  /-- Asks for a suggestion. -/
  | suggest (phrase : String)
  /-- Asks for the resolver itself. -/
  | get
  /-- Asks for the configuration. -/
  | config

/-- What a session answers. -/
inductive Answer where
  | loaded (search : String)
  | parsed (parsed : ParsedSearch)
  | document (document : Document)
  | repair (fragments : Option (List Fragment))
  | resolution (meaning : Option Resolution)
  | suggestion (phrase : Option String)
  | done
  | config (config : Config)
  /-- There is no parser yet. -/
  | noParser
  | failed (error : CompileError)

/-- Runs a computation on the resolver of a session. -/
def onResolver {α : Type} (x : StateM (OnDemand Resolver) α) (s : Session) : α × Session :=
  let (a, resolver) := x.run s.resolver
  (a, { s with resolver })

/-- Answers a step that needs a parser. -/
def withParser (s : Session) (answer : Preparsed → Answer × Session) : Answer × Session :=
  match s.parser with
  | none => (.noParser, s)
  | some parser => answer parser

/-- Answers a step. -/
def step (s : Session) : Step → Answer × Session
  | .load parser => (.loaded parser.search, { s with parser := some parser })
  | .parse search => s.withParser fun parser =>
    match parser.parse search with
    | .ok parsed => (.parsed parsed, s)
    | .error e => (.failed (.parse e), s)
  | .construct search comment => s.withParser fun parser =>
    match s.onResolver (OnDemand.construct s.config parser search comment) with
    | (.ok document, s) => (.document document, s)
    | (.error e, s) => (.failed e, s)
  | .repair search => s.withParser fun parser =>
    let (fragments, s) := s.onResolver (OnDemand.repair parser search)
    (.repair fragments, s)
  | .resolve phrase =>
    let (meaning, s) := s.onResolver (OnDemand.resolve phrase)
    (.resolution meaning, s)
  | .suggest phrase =>
    let (suggestion, s) := s.onResolver (OnDemand.suggest phrase)
    (.suggestion suggestion, s)
  | .get =>
    let (_, s) := s.onResolver OnDemand.get
    (.done, s)
  | .config => (.config s.config, s)

/-- Answers steps one after the other. -/
def run (s : Session) : List Step → List Answer × Session
  | [] => ([], s)
  | x :: steps =>
    let (answer, s) := s.step x
    let (answers, s) := s.run steps
    (answer :: answers, s)

end Session

end TagSearch
