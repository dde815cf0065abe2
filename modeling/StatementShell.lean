import StatementShell.Statement
import StatementShell.Script
import StatementShell.Inspection
import StatementShell.Session
import StatementShell.Toml.Quoted.RoundTrip
import StatementShell.Settings.Toml
import StatementShell.Main
import StatementShell.Proofs.Brackets
import StatementShell.Proofs.Lexeme
import StatementShell.Proofs.Reading
import StatementShell.Proofs.Traversal
import StatementShell.Proofs.LexicalGrammar
import StatementShell.Proofs.UnitReading
import StatementShell.Proofs.Completability
import StatementShell.Proofs.Segmentation
import StatementShell.Proofs.Performance
import StatementShell.Proofs.Concatenation
import StatementShell.Proofs.LineBoundaries
import StatementShell.Proofs.SplitAgreement
import StatementShell.Proofs.Resumption
import StatementShell.Proofs.LineRanges
import StatementShell.Proofs.LineEndings
import StatementShell.Proofs.SubmittedBuffer
import StatementShell.Proofs.Painting
import StatementShell.Console
import StatementShell.Proofs.CommandDetection
import StatementShell.Proofs.Typing
import StatementShell.Proofs.Resplitting
import StatementShell.Proofs.SessionHistory
import StatementShell.Proofs.OpaqueBodies
import StatementShell.Proofs.QuotedStrings
import StatementShell.Proofs.TomlDocument
import StatementShell.Proofs.SettingsFile
import StatementShell.Proofs.Bracketing
import StatementShell.Proofs.SqlTokenization
import StatementShell.Proofs.PaintedText
import StatementShell.Proofs.Transcripts
import StatementShell.Proofs.LineStream
import StatementShell.Proofs.Registers
import StatementShell.Proofs.RegisterInvariant
import StatementShell.Proofs.EffectiveSettings
