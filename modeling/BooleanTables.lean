import BooleanTables.CommandLine.Run
import BooleanTables.Main
import BooleanTables.Page.Basic
import BooleanTables.Session.Memory
import BooleanTables.Proofs.Formula.Meaning
import BooleanTables.Proofs.Table.Numbering
import BooleanTables.Proofs.Table.Rows
import BooleanTables.Proofs.Parsing.Grammar
import BooleanTables.Proofs.Lexing.Longest
import BooleanTables.Proofs.Parsing.Outline
import BooleanTables.Proofs.Lexing.Chunks
import BooleanTables.Proofs.Lexing.Cover
import BooleanTables.Proofs.Lexing.Signs
import BooleanTables.Proofs.Parsing.RoundTrip
import BooleanTables.Proofs.Session.Outcomes
import BooleanTables.Proofs.Session.InStep
import BooleanTables.Proofs.Session.Failures
import BooleanTables.Proofs.Table.Models
import BooleanTables.Proofs.Lexing.Offsets
import BooleanTables.Proofs.Session.Shown
import BooleanTables.Proofs.Table.Places
import BooleanTables.Proofs.Page.Reload
import BooleanTables.Proofs.Lexing.Matching
import BooleanTables.Proofs.Parsing.Roots
import BooleanTables.Proofs.Parsing.Variables
import BooleanTables.Proofs.Parsing.Viable
import BooleanTables.Proofs.Lexing.Blanks
import BooleanTables.Proofs.Lexing.Unmatchable
import BooleanTables.Proofs.Parsing.Composition
import BooleanTables.Proofs.Parsing.Messages
import BooleanTables.Proofs.Parsing.Positions
import BooleanTables.Proofs.Parsing.Respelling
import BooleanTables.Proofs.Lexing.CaseFolding
import BooleanTables.Proofs.Lexicon.Collisions
import BooleanTables.Proofs.Session.Synchronized
import BooleanTables.Proofs.Formula.Strictness
import BooleanTables.Proofs.Table.Readings
import BooleanTables.Proofs.Table.Circuits
import BooleanTables.Proofs.Parsing.Renaming
import BooleanTables.Proofs.Session.Retries
import BooleanTables.Proofs.Formula.Readability
import BooleanTables.Proofs.CommandLine.Runs
import BooleanTables.Proofs.Grid.Elements
import BooleanTables.Proofs.Lexicon.NormalForm
