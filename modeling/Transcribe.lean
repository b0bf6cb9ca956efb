import Transcribe.Unicode.Table
import Transcribe.Unicode.Category
import Transcribe.Unicode.Script
import Transcribe.Unicode.Property
import Transcribe.Unicode.CaseFold
import Transcribe.Unicode.Age
import Transcribe.Unicode.Segment
import Transcribe.Unicode.Names
import Transcribe.Text.Blank
import Transcribe.Text.Word
import Transcribe.Text.Caseless
import Transcribe.Text.Search
import Transcribe.Text.Quoted
import Transcribe.Markup.Entity
import Transcribe.Markup.Cell
import Transcribe.Markup.Tag
import Transcribe.Markup.Head
import Transcribe.Naming
import Transcribe.Script.Command
import Transcribe.Script.Document
import Transcribe.Log
import Transcribe.Locator
import Transcribe.Php.Code
import Transcribe.Config.Basic
import Transcribe.Config.Fields
import Transcribe.Config.Data
import Transcribe.Config.OfData
import Transcribe.Decimal.Shortest
import Transcribe.Translate.Legacy
import Transcribe.Translate.WebDriver
import Transcribe.Translate.Translator
import Transcribe.Assemble.Template
import Transcribe.Assemble.Stamp
import Transcribe.Assemble.Skeleton
import Transcribe.Files.Fault
import Transcribe.Convert
import Transcribe.Yaml.Syntax
import Transcribe.Yaml.Scanner
import Transcribe.Yaml.Parser
import Transcribe.Yaml.Scalar
import Transcribe.Decimal.Nearest
import Transcribe.Config.OfYaml
import Transcribe.Files.Path
import Transcribe.Files.Tree
import Transcribe.Files.System
import Transcribe.Files.Glob
import Transcribe.Files.Find
import Transcribe.Failure
import Transcribe.Batch
import Transcribe.Cli.Args
import Transcribe.Regex.Property
import Transcribe.Regex.CharSet
import Transcribe.Regex.Ranges
import Transcribe.Regex.Utf8
import Transcribe.Regex.Ast
import Transcribe.Regex.Syntax
import Transcribe.Regex.Search
import Transcribe.Regex.Translate
import Transcribe.Regex.Expr
import Transcribe.Regex.Lower
import Transcribe.Regex.Trie
import Transcribe.Regex.Size
import Transcribe.Regex.Pattern
import Transcribe.Cli.LogFilter
import Transcribe.Cli.Run
import Transcribe.Main
import Transcribe.Proofs.Conversion
import Transcribe.Proofs.Arguments
import Transcribe.Proofs.Refusal
import Transcribe.Proofs.ElementWalk
import Transcribe.Proofs.TableReading
import Transcribe.Proofs.PhpLexing
import Transcribe.Proofs.StepTemplates
import Transcribe.Proofs.RecordedText
import Transcribe.Proofs.Selectors
import Transcribe.Proofs.CellText
import Transcribe.Proofs.BatchRun
import Transcribe.Proofs.OutputPaths
import Transcribe.Proofs.ArgumentSplits
import Transcribe.Proofs.EntityDecoding
import Transcribe.Proofs.TextConditions
import Transcribe.Proofs.TemplateRendering
import Transcribe.Proofs.WaitClosures
import Transcribe.Proofs.PhpRun
import Transcribe.Proofs.PollingLoop
import Transcribe.Proofs.WildcardRegex
import Transcribe.Proofs.MethodBody
import Transcribe.Proofs.TestNames
import Transcribe.Proofs.TagScan
import Transcribe.Proofs.ContextMap
import Transcribe.Proofs.GeneratedFile
