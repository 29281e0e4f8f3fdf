import Reflection.Path.Order
import Reflection.Path.Datum
import Reflection.Text.Padding
import Reflection.Schema.TypeReader
import Reflection.Schema.TypeTable
import Reflection.Universe.Sample
import Reflection.Value.Shown
import Reflection.Value.Dump
import Reflection.Value.Equality
import Reflection.Value.Iterator
import Reflection.Value.Sequence
import Reflection.Access.Session
import Reflection.Keyed.TypeMap
import Reflection.Keyed.TypeMemo
import Reflection.Keyed.WordHash
import Reflection.Derive.Expansion
import Reflection.Manifest.Cache
import Reflection.Proofs.Place
import Reflection.Proofs.Declaration
import Reflection.Proofs.Step
import Reflection.Proofs.Source
import Reflection.Proofs.Holding
import Reflection.Proofs.Seek
import Reflection.Proofs.Find
import Reflection.Proofs.Composition
import Reflection.Proofs.Lens
import Reflection.Proofs.Frame
import Reflection.Proofs.Transparency
import Reflection.Proofs.Canonical
import Reflection.Proofs.Stages
import Reflection.Proofs.Typing
import Reflection.Proofs.Forecast
import Reflection.Proofs.Fork
import Reflection.Proofs.Alike
import Reflection.Proofs.Hidden
import Reflection.Proofs.AccessControl
import Reflection.Proofs.Agreement
import Reflection.Proofs.Interchange
import Reflection.Proofs.Atomicity
import Reflection.Proofs.Members
import Reflection.Proofs.Tables
import Reflection.Proofs.Numbers
import Reflection.Proofs.Coincidence
import Reflection.Proofs.Equality
import Reflection.Proofs.ExposedNames
import Reflection.Proofs.CacheKeys
import Reflection.Proofs.CacheContents
import Reflection.Proofs.Trace
import Reflection.Proofs.CacheTrace
import Reflection.Proofs.WrittenTypes
import Reflection.Proofs.SkippedFields
import Reflection.Proofs.Sequences
import Reflection.Proofs.TypeNames
import Reflection.Proofs.Joining
import Reflection.Proofs.TypedAccess
import Reflection.Proofs.LastDeclaration
import Reflection.Proofs.CollectedDocs
import Reflection.Proofs.DocLists
import Reflection.Proofs.EntryOrder
import Reflection.Proofs.WhereClauses
import Reflection.Proofs.LibraryPaths
import Reflection.Proofs.PathOrder
import Reflection.Proofs.SectionSpelling
import Reflection.Proofs.SharedManifests
import Reflection.Proofs.TypeFacts
import Reflection.Proofs.Iteration
import Reflection.Proofs.WordHashing
import Reflection.Proofs.TypeMaps
