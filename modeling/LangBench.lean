import LangBench.Unicode.Word
import LangBench.Text.Case
import LangBench.Text.Blank
import LangBench.Text.Utf8
import LangBench.Text.Utf16
import LangBench.Text.Line
import LangBench.Path
import LangBench.Error
import LangBench.Extension
import LangBench.Catalogue.Standard
import LangBench.Token
import LangBench.Modeline
import LangBench.Classifier.NaiveBayes
import LangBench.Call
import LangBench.Report.Json
import LangBench.Strategy.Basic
import LangBench.RuleBook.Standard
import LangBench.Runner
import LangBench.Sink.Console
import LangBench.Yaml.Shape
import LangBench.Disk
import LangBench.Bench
import LangBench.Strategy.Scripted
import LangBench.Main
import LangBench.Proofs.Run.Natural
import LangBench.Proofs.Run.Trace
import LangBench.Proofs.Run.Schedule
import LangBench.Proofs.Run.Delivery
import LangBench.Proofs.Run.Calls
import LangBench.Proofs.Run.Reset
import LangBench.Proofs.Sample.Views
import LangBench.Proofs.Text.Utf8
import LangBench.Proofs.Text.Utf16
import LangBench.Proofs.Text.Line
import LangBench.Proofs.Sample.Stored
import LangBench.Proofs.Run.Isolation
import LangBench.Proofs.Run.Transcript
import LangBench.Proofs.Run.Untimed
import LangBench.Proofs.Run.Lockstep
import LangBench.Proofs.Run.Refusal
import LangBench.Proofs.Run.Agreement
import LangBench.Proofs.Run.Standard
import LangBench.Proofs.Catalogue.Lookup
import LangBench.Proofs.Classifier.Training
import LangBench.Proofs.Classifier.Smoothing
import LangBench.Proofs.Corpus.Below
import LangBench.Proofs.Corpus.Walk
import LangBench.Proofs.Corpus.Resolve
import LangBench.Proofs.Corpus.Relisting
import LangBench.Proofs.Corpus.Load
import LangBench.Proofs.Corpus.Training
import LangBench.Proofs.Text.LineEnd
import LangBench.Proofs.Token.LineEnd
import LangBench.Proofs.Sample.LineEnd
import LangBench.Proofs.Catalogue.Answers
import LangBench.Proofs.Report.Label
import LangBench.Proofs.Run.Invocations
import LangBench.Proofs.Run.Labels
import LangBench.Proofs.Text.WellFormed
import LangBench.Proofs.Text.Malformed
import LangBench.Proofs.Token.Reading
import LangBench.Proofs.Token.Comment
import LangBench.Proofs.Token.Identifier
import LangBench.Proofs.Token.Literal
import LangBench.Proofs.Token.Line
import LangBench.Proofs.Text.Word
import LangBench.Proofs.Shebang.Name
import LangBench.Proofs.Shebang.Line
import LangBench.Proofs.Text.Case
import LangBench.Proofs.Catalogue.Extension
import LangBench.Proofs.Catalogue.Validation
import LangBench.Proofs.Modeline.Window
import LangBench.Proofs.Modeline.Emacs
import LangBench.Proofs.Modeline.Vim
import LangBench.Proofs.Unicode.Word
import LangBench.Proofs.RuleBook.FirstMatch
import LangBench.Proofs.Text.Lossy
import LangBench.Proofs.Token.Shape
import LangBench.Proofs.Token.FirstLine
import LangBench.Proofs.Token.Position
import LangBench.Proofs.Text.Trim
import LangBench.Proofs.Classifier.Comparison
import LangBench.Proofs.Classifier.Ranking
import LangBench.Proofs.Measurement.OrderStatistics
import LangBench.Proofs.Measurement.Mean
import LangBench.Proofs.Config.Count
import LangBench.Proofs.Measurement.Display
import LangBench.Proofs.Sink.Writing
import LangBench.Proofs.Sink.Reading
