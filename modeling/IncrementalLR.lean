import IncrementalLR.Text.Point
import IncrementalLR.Text.Length
import IncrementalLR.Text.Utf8
import IncrementalLR.Text.Edit
import IncrementalLR.Text.Escape
import IncrementalLR.Lex.Cursor
import IncrementalLR.Unicode.CodeSet
import IncrementalLR.Unicode.CategoryData
import IncrementalLR.Unicode.PropertyData
import IncrementalLR.Unicode.DerivedPropertyData
import IncrementalLR.Unicode.EmojiData
import IncrementalLR.Unicode.ScriptData
import IncrementalLR.Unicode.AgeData
import IncrementalLR.Unicode.BreakData
import IncrementalLR.Unicode.AliasData
import IncrementalLR.Unicode.NameCharData
import IncrementalLR.Unicode.CaseFoldData
import IncrementalLR.Unicode.Classes
import IncrementalLR.Unicode.Property
import IncrementalLR.Regex.Basic
import IncrementalLR.Regex.Parse
import IncrementalLR.Regex.Utf8Ranges
import IncrementalLR.Regex.Automaton
import IncrementalLR.Regex.Draft
import IncrementalLR.Regex.Compile
import IncrementalLR.Regex.Search
import IncrementalLR.Regex.Determinize
import IncrementalLR.Lex.Pattern
import IncrementalLR.Lex.Table
import IncrementalLR.Lex.Scanner
import IncrementalLR.Language.Basic
import IncrementalLR.Lex.Token
import IncrementalLR.Grammar.Spec
import IncrementalLR.Grammar.Productions
import IncrementalLR.Grammar.ItemSets
import IncrementalLR.Grammar.Follow
import IncrementalLR.Grammar.Table
import IncrementalLR.Tree.Subtree
import IncrementalLR.Tree.Edit
import IncrementalLR.Tree.Node
import IncrementalLR.Tree.Cursor
import IncrementalLR.Tree.Render
import IncrementalLR.Tree.Diff
import IncrementalLR.Language.Patch
import IncrementalLR.Parse.Basic
import IncrementalLR.Parse.Stack
import IncrementalLR.Parse.Reuse
import IncrementalLR.Parse.Recovery
import IncrementalLR.Parse.Run
import IncrementalLR.Parse.Parser
import IncrementalLR.Parse.Session
import IncrementalLR.Proofs.Text.Geometry
import IncrementalLR.Proofs.Tree.Shape
import IncrementalLR.Proofs.Lex.Positions
import IncrementalLR.Proofs.Tree.Spans
import IncrementalLR.Proofs.Parse.Runs
import IncrementalLR.Proofs.Grammar.WellFormed
import IncrementalLR.Proofs.Grammar.Automaton
import IncrementalLR.Proofs.Grammar.Actions
import IncrementalLR.Proofs.Grammar.Derivations
import IncrementalLR.Proofs.Grammar.FirstFollow
import IncrementalLR.Proofs.Grammar.Closure
import IncrementalLR.Proofs.Grammar.Cells
import IncrementalLR.Proofs.Grammar.Ebnf
import IncrementalLR.Proofs.Grammar.Expansion
import IncrementalLR.Proofs.Parse.Steps
import IncrementalLR.Proofs.Parse.LRPath
import IncrementalLR.Proofs.Parse.Recognition
import IncrementalLR.Proofs.Parse.Language
import IncrementalLR.Proofs.Grammar.LexModes
import IncrementalLR.Proofs.Tree.Derived
import IncrementalLR.Proofs.Tree.Edit
import IncrementalLR.Proofs.Parse.Invariant
import IncrementalLR.Proofs.Parse.Soundness
import IncrementalLR.Proofs.Parse.Simulation
import IncrementalLR.Proofs.Tree.EditGeometry
import IncrementalLR.Proofs.Tree.Placement
import IncrementalLR.Proofs.Parse.Repairs
import IncrementalLR.Proofs.Parse.Tiling
import IncrementalLR.Proofs.Lex.Stream
import IncrementalLR.Proofs.Parse.Completion
import IncrementalLR.Proofs.Parse.EndOfInput
import IncrementalLR.Proofs.Grammar.SlrReference
import IncrementalLR.Proofs.Grammar.LeastSets
import IncrementalLR.Proofs.Grammar.Collection
import IncrementalLR.Proofs.Grammar.SlrTable
import IncrementalLR.Proofs.Tree.DiffWalk
import IncrementalLR.Proofs.Tree.ChangedRanges
import IncrementalLR.Proofs.Grammar.FieldMaps
import IncrementalLR.Proofs.Grammar.Labels
import IncrementalLR.Proofs.Parse.FieldMapsKept
import IncrementalLR.Proofs.Tree.CursorFields
import IncrementalLR.Proofs.Parse.FieldNames
import IncrementalLR.Proofs.Parse.TiledRuns
import IncrementalLR.Proofs.Parse.ReusedRuns
import IncrementalLR.Proofs.Parse.FreshSteps
import IncrementalLR.Proofs.Parse.YieldedTrees
import IncrementalLR.Proofs.Lex.LongestMatch
import IncrementalLR.Proofs.Tree.RangeLookup
import IncrementalLR.Proofs.Parse.ReusePath
import IncrementalLR.Proofs.Grammar.NameLookup
import IncrementalLR.Proofs.Lex.Decoding
import IncrementalLR.Proofs.Lex.Columns
import IncrementalLR.Proofs.Tree.CursorNodes
import IncrementalLR.Proofs.Parse.TreeGeometry
import IncrementalLR.Proofs.Tree.CursorChildren
import IncrementalLR.Proofs.Parse.CountedTrees
import IncrementalLR.Proofs.Parse.SkippedRuns
import IncrementalLR.Proofs.Parse.ExaminedTrees
