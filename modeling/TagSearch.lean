import TagSearch.Bounds
import TagSearch.Condition.Basic
import TagSearch.Condition.Canonical
import TagSearch.Condition.Clause
import TagSearch.Condition.Display
import TagSearch.Condition.RelativeDate
import TagSearch.Condition.Wire
import TagSearch.Config
import TagSearch.DataFile
import TagSearch.Document
import TagSearch.Element
import TagSearch.Entity
import TagSearch.Json.Basic
import TagSearch.Json.Number
import TagSearch.Json.Printer
import TagSearch.Json.Quoted
import TagSearch.Json.Reader
import TagSearch.Main
import TagSearch.OnDemand
import TagSearch.ParsedSearch
import TagSearch.Preparsed
import TagSearch.Preset.Basic
import TagSearch.Preset.Table
import TagSearch.Preset.Tags
import TagSearch.Preset.Wire
import TagSearch.QueryPart
import TagSearch.Repair
import TagSearch.Repl
import TagSearch.Request
import TagSearch.Resolver
import TagSearch.SearchTree.Basic
import TagSearch.SearchTree.Postfix
import TagSearch.SearchTree.Terms
import TagSearch.SearchTree.Wire
import TagSearch.Session
import TagSearch.Text.Attribute
import TagSearch.Text.Blank
import TagSearch.Text.CaseProperty
import TagSearch.Text.CodePoint
import TagSearch.Text.EditDistance
import TagSearch.Text.GraphemeExtend
import TagSearch.Text.Inspect
import TagSearch.Text.Lowercase
import TagSearch.Text.LowercaseTable
import TagSearch.Text.Occurrence
import TagSearch.Text.Token
import TagSearch.Text.Unprintable
import TagSearch.Proofs.Assembly
import TagSearch.Proofs.EmittedBlocks
import TagSearch.Proofs.NormalForm
import TagSearch.Proofs.QueryMeaning
import TagSearch.Proofs.Occurrence
import TagSearch.Proofs.RepairAccount
import TagSearch.Proofs.Regions
import TagSearch.Proofs.Confinement
import TagSearch.Proofs.LeafCopies
import TagSearch.Proofs.RepairedPhrases
import TagSearch.Proofs.AssemblyFaults
import TagSearch.Proofs.FieldOrder
import TagSearch.Proofs.RoundTrip
import TagSearch.Proofs.OnDemand
import TagSearch.Proofs.SessionRun
import TagSearch.Proofs.PresetPhrases
import TagSearch.Proofs.LineReplies
import TagSearch.Proofs.CompileFailures
import TagSearch.Proofs.Regrouping
import TagSearch.Proofs.UnionComposition
import TagSearch.Proofs.CanonicalMeaning
import TagSearch.Proofs.ClauseReading
import TagSearch.Proofs.EditDistance
import TagSearch.Proofs.NearestPreset
import TagSearch.Proofs.UnambiguousDisplay
import TagSearch.Proofs.TableExtension
import TagSearch.Proofs.LeafMultiplicity
import TagSearch.Proofs.RelativeDate
import TagSearch.Proofs.RepairOffer
import TagSearch.Proofs.TreeFaults
