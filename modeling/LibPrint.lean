import LibPrint.Binary.Codec
import LibPrint.Code.Class
import LibPrint.Code.Hierarchy
import LibPrint.CommandLine.Execution
import LibPrint.CommandLine.Reading
import LibPrint.Digest.Algorithm
import LibPrint.Digest.Functions
import LibPrint.Error
import LibPrint.Files
import LibPrint.HashTree
import LibPrint.Identify
import LibPrint.Json.Basic
import LibPrint.Json.Reader
import LibPrint.Library.Catalog
import LibPrint.Library.Description
import LibPrint.Library.Format
import LibPrint.Library.Match
import LibPrint.Library.Profile
import LibPrint.Logging.Directive
import LibPrint.Logging.Setup
import LibPrint.Main
import LibPrint.Matching.Candidate
import LibPrint.Matching.TreeMatch
import LibPrint.Number
import LibPrint.Package.Search
import LibPrint.Package.Tree
import LibPrint.Proofs.Binary.Codec
import LibPrint.Proofs.Code.Descriptor
import LibPrint.Proofs.Code.Dump
import LibPrint.Proofs.Code.Elision
import LibPrint.Proofs.Code.Reading
import LibPrint.Proofs.Code.Renaming
import LibPrint.Proofs.CommandLine.Effects
import LibPrint.Proofs.Digest.Length
import LibPrint.Proofs.Files.Soundness
import LibPrint.Proofs.Files.Ways
import LibPrint.Proofs.Files.Writing
import LibPrint.Proofs.HashTree.Arrangement
import LibPrint.Proofs.HashTree.Canonical
import LibPrint.Proofs.HashTree.Content
import LibPrint.Proofs.HashTree.Counting
import LibPrint.Proofs.HashTree.Deduplication
import LibPrint.Proofs.HashTree.Erasure
import LibPrint.Proofs.HashTree.Meaning
import LibPrint.Proofs.HashTree.Renaming
import LibPrint.Proofs.HashTree.Reordering
import LibPrint.Proofs.HashTree.Repetition
import LibPrint.Proofs.HashTree.Restriction
import LibPrint.Proofs.Identify.Gathering
import LibPrint.Proofs.Identify.Run
import LibPrint.Proofs.Json.Grammar
import LibPrint.Proofs.Json.Tokens
import LibPrint.Proofs.Library.Bundling
import LibPrint.Proofs.Library.Catalog
import LibPrint.Proofs.Library.Collecting
import LibPrint.Proofs.Library.Date
import LibPrint.Proofs.Library.Deprecation
import LibPrint.Proofs.Library.Format
import LibPrint.Proofs.Library.Identity
import LibPrint.Proofs.Library.Numbering
import LibPrint.Proofs.Library.Obfuscation
import LibPrint.Proofs.Library.Order
import LibPrint.Proofs.Library.Profile
import LibPrint.Proofs.Library.Transitivity
import LibPrint.Proofs.Matching.Assignment
import LibPrint.Proofs.Matching.Candidate
import LibPrint.Proofs.Matching.Counter
import LibPrint.Proofs.Matching.Deduplication
import LibPrint.Proofs.Matching.Division
import LibPrint.Proofs.Matching.Enumeration
import LibPrint.Proofs.Matching.Exclusion
import LibPrint.Proofs.Matching.Mirror
import LibPrint.Proofs.Matching.Optimum
import LibPrint.Proofs.Matching.Outcome
import LibPrint.Proofs.Matching.Outline
import LibPrint.Proofs.Matching.PartialMatch
import LibPrint.Proofs.Matching.Ranking
import LibPrint.Proofs.Matching.Relocation
import LibPrint.Proofs.Matching.Renaming
import LibPrint.Proofs.Matching.SharedPick
import LibPrint.Proofs.Matching.Similarity
import LibPrint.Proofs.Matching.Verboseness
import LibPrint.Proofs.Package.Anchoring
import LibPrint.Proofs.Package.Comparison
import LibPrint.Proofs.Package.Counting
import LibPrint.Proofs.Package.Fronts
import LibPrint.Proofs.Package.Growth
import LibPrint.Proofs.Package.Inference
import LibPrint.Proofs.Package.Layout
import LibPrint.Proofs.Package.NameSearch
import LibPrint.Proofs.Package.Recording
import LibPrint.Proofs.Package.Relationship
import LibPrint.Proofs.Package.Restriction
import LibPrint.Proofs.Package.Root
import LibPrint.Proofs.Package.Segments
import LibPrint.Proofs.Package.ShapeSearch
import LibPrint.Proofs.Package.Shared
import LibPrint.Proofs.Package.Topmost
import LibPrint.Proofs.Package.Walking
import LibPrint.Proofs.Score.Order
import LibPrint.Proofs.Score.Rounding
import LibPrint.Proofs.Score.Share
import LibPrint.Proofs.Sorting
import LibPrint.Proofs.Store.Listing
import LibPrint.Proofs.Store.Placing
import LibPrint.Proofs.Store.Presence
import LibPrint.Proofs.Store.Recovery
import LibPrint.Proofs.Store.RoundTrip
import LibPrint.Proofs.Store.Saving
import LibPrint.Proofs.Text
import LibPrint.Score
import LibPrint.Settings.Basic
import LibPrint.Settings.Configuration
import LibPrint.Store
import LibPrint.Text.Basic
import LibPrint.Text.Letter
import LibPrint.Text.Table
import LibPrint.Toml.Reader
import LibPrint.Toml.Value
