import IdPattern.Main
import IdPattern.Scanner
import IdPattern.Pattern.Faults
import IdPattern.Pattern.Grammar
import IdPattern.Pattern.Log
import IdPattern.Pattern.Json
import IdPattern.Json.Text
import IdPattern.Embed.Expansion
import IdPattern.Proofs.Runs
import IdPattern.Proofs.Quotes
import IdPattern.Proofs.Steps
import IdPattern.Proofs.Grammar
import IdPattern.Proofs.Faults
import IdPattern.Proofs.FaultSpans
import IdPattern.Proofs.Canonical
import IdPattern.Proofs.Composition
import IdPattern.Proofs.Render
import IdPattern.Proofs.Beginnings
import IdPattern.Proofs.OffsetTable
import IdPattern.Embed.Lexeme
import IdPattern.Proofs.Lexemes
import IdPattern.Proofs.Spellings
import IdPattern.Embed.Reading
import IdPattern.Proofs.Constants
import IdPattern.Proofs.Expansion
import IdPattern.Proofs.FaultPlaces
import IdPattern.Proofs.JsonText
import IdPattern.Pattern.Stored
import IdPattern.Proofs.Stored
import IdPattern.Proofs.Values
import IdPattern.Proofs.Tokens
import IdPattern.Proofs.Walks
import IdPattern.Proofs.Tokenisation
import IdPattern.Pattern.Positions
import IdPattern.Proofs.Positions
import IdPattern.Proofs.Diagnosis
import IdPattern.Proofs.Counters
import IdPattern.Proofs.Misfits
import IdPattern.Proofs.Contents
import IdPattern.Proofs.Carets
import IdPattern.Embed.Positions
import IdPattern.Proofs.CodePoints
import IdPattern.Proofs.OffsetPlaces
