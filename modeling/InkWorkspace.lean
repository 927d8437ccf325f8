import InkWorkspace.CommandLine
import InkWorkspace.Compiler.Basic
import InkWorkspace.Compiler.Handler
import InkWorkspace.Compiler.Heal
import InkWorkspace.Compiler.Issue
import InkWorkspace.Compiler.Mini
import InkWorkspace.Compiler.Playback
import InkWorkspace.Compiler.Program
import InkWorkspace.Compiler.Staging
import InkWorkspace.Diagnostic
import InkWorkspace.Disk
import InkWorkspace.Editor.Answer
import InkWorkspace.Editor.Markup
import InkWorkspace.Editor.Outline
import InkWorkspace.Editor.Search
import InkWorkspace.Fuzzy.Pattern
import InkWorkspace.Fuzzy.Score
import InkWorkspace.Include.Check
import InkWorkspace.Include.Fresh
import InkWorkspace.Include.Graph
import InkWorkspace.Include.Load
import InkWorkspace.Json.Basic
import InkWorkspace.Json.Double
import InkWorkspace.Json.Parser
import InkWorkspace.Ledger
import InkWorkspace.Line.Comment
import InkWorkspace.Line.Cursor
import InkWorkspace.Line.Divert
import InkWorkspace.Line.Shape
import InkWorkspace.Line.Token
import InkWorkspace.Main
import InkWorkspace.Path
import InkWorkspace.PathMap
import InkWorkspace.Position
import InkWorkspace.Project.Basic
import InkWorkspace.Project.Bundle
import InkWorkspace.Project.Report
import InkWorkspace.Server.Event
import InkWorkspace.Server.Request
import InkWorkspace.Server.Session
import InkWorkspace.Settings.Basic
import InkWorkspace.Settings.Key
import InkWorkspace.Settings.Load
import InkWorkspace.Settings.Toml
import InkWorkspace.Settings.Toml.Quoted
import InkWorkspace.Settings.Toml.Word
import InkWorkspace.Settings.Value
import InkWorkspace.Source.File
import InkWorkspace.Source.Item
import InkWorkspace.Story.Basic
import InkWorkspace.Story.Navigate
import InkWorkspace.Story.Query
import InkWorkspace.Text.CaseTable
import InkWorkspace.Text.Class
import InkWorkspace.Text.Column
import InkWorkspace.Text.Compose
import InkWorkspace.Text.Fold
import InkWorkspace.Text.FoldTable
import InkWorkspace.Text.Grapheme
import InkWorkspace.Text.GraphemeTable
import InkWorkspace.Text.LatinTable
import InkWorkspace.Text.LetterTable
import InkWorkspace.Text.Lines
import InkWorkspace.Text.Lower
import InkWorkspace.Text.LowerTable
import InkWorkspace.Text.MarkTable
import InkWorkspace.Text.NumberTable
import InkWorkspace.Text.PrintTable
import InkWorkspace.Text.Scan
import InkWorkspace.Text.Shown
import InkWorkspace.Text.Utf8
import InkWorkspace.Text.WordTable
import InkWorkspace.Uri
import InkWorkspace.Uri.Domain
import InkWorkspace.Uri.FormTable
import InkWorkspace.Uri.HostName
import InkWorkspace.Uri.Percent
import InkWorkspace.Wire.Editor
import InkWorkspace.Wire.Message
import InkWorkspace.Wire.Params
import InkWorkspace.Wire.Project
import InkWorkspace.Wire.Reply
import InkWorkspace.Wire.Source
import InkWorkspace.Proofs.PathMap
import InkWorkspace.Proofs.Path
import InkWorkspace.Proofs.Disk
import InkWorkspace.Proofs.Source
import InkWorkspace.Proofs.Include.Load
import InkWorkspace.Proofs.Include.Graph
import InkWorkspace.Proofs.Story.Invariant
import InkWorkspace.Proofs.Story.Index
import InkWorkspace.Proofs.Story.Closure
import InkWorkspace.Proofs.Compiler.Heal
import InkWorkspace.Proofs.Story.History
import InkWorkspace.Proofs.Server.EditorText
import InkWorkspace.Proofs.Compiler.Handler
import InkWorkspace.Proofs.Compiler.Declared
import InkWorkspace.Proofs.Compiler.MiniHeal
import InkWorkspace.Proofs.Line
import InkWorkspace.Proofs.Source.Place
import InkWorkspace.Proofs.Story.References
import InkWorkspace.Proofs.Ledger
import InkWorkspace.Proofs.Compiler.OtherFile
import InkWorkspace.Proofs.Line.Inclusion
import InkWorkspace.Proofs.Compiler.Target
import InkWorkspace.Proofs.Compiler.Plan
import InkWorkspace.Proofs.Compiler.Containment
import InkWorkspace.Proofs.Compiler.Retarget
import InkWorkspace.Proofs.Compiler.Scratch
import InkWorkspace.Proofs.Compiler.IncludeClosure
import InkWorkspace.Proofs.Compiler.Unrepaired
import InkWorkspace.Proofs.Include.Reach
import InkWorkspace.Proofs.Story.Reach
import InkWorkspace.Proofs.Compiler.Memoryless
import InkWorkspace.Proofs.Server.CheckedReport
import InkWorkspace.Proofs.Text.EditorLines
import InkWorkspace.Proofs.Line.Target
import InkWorkspace.Proofs.Line.Cursor
import InkWorkspace.Proofs.Source.Body
import InkWorkspace.Proofs.Story.Scope
import InkWorkspace.Proofs.Story.Completion
import InkWorkspace.Proofs.Story.Goto
import InkWorkspace.Proofs.Compiler.AuthorLines
import InkWorkspace.Proofs.Compiler.RootMessage
import InkWorkspace.Proofs.Story.Commute
import InkWorkspace.Proofs.Include.DepthFirst
import InkWorkspace.Proofs.Include.Cycle
import InkWorkspace.Proofs.Line.Grammar
import InkWorkspace.Proofs.Line.Name
import InkWorkspace.Proofs.Source.Partition
import InkWorkspace.Proofs.Source.Ranges
import InkWorkspace.Proofs.Include.Check
import InkWorkspace.Proofs.Source.Fetch
import InkWorkspace.Proofs.Editor.Outline
import InkWorkspace.Proofs.Story.Shadowed
import InkWorkspace.Proofs.Line.Extraction
import InkWorkspace.Proofs.Line.Signature
import InkWorkspace.Proofs.Path.Course
import InkWorkspace.Proofs.Compiler.PassedOn
import InkWorkspace.Proofs.Text.Column
import InkWorkspace.Proofs.Line.Word
import InkWorkspace.Proofs.Editor.Cursor
