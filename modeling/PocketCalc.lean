import PocketCalc.CommandLine.Session
import PocketCalc.Expression.Evaluate
import PocketCalc.Arithmetic.Outcome
import PocketCalc.Format
import PocketCalc.Keypad.Field
import PocketCalc.Keypad.Press
import PocketCalc.Log.Errors
import PocketCalc.Log.History
import PocketCalc.Main
import PocketCalc.Number.Numeral
import PocketCalc.Number.Written
import PocketCalc.Text.Blank
import PocketCalc.Text.CaseFold
import PocketCalc.Text.Digit
import PocketCalc.Text.Letter
import PocketCalc.Text.Quoted
import PocketCalc.Proofs.Infix
import PocketCalc.Proofs.Grammar
import PocketCalc.Proofs.Numeral
import PocketCalc.Proofs.Plain
import PocketCalc.Proofs.Keypad.Sound
import PocketCalc.Proofs.Keypad.Run
import PocketCalc.Proofs.Chain
import PocketCalc.Proofs.Keypad.Agreement
import PocketCalc.Proofs.Keypad.Preview
import PocketCalc.Proofs.Keypad.Pending
import PocketCalc.Proofs.Keypad.Refusal
import PocketCalc.Proofs.Keypad.Invariant
import PocketCalc.Proofs.Keypad.ScopeValue
import PocketCalc.Proofs.Keypad.Recorded
import PocketCalc.Proofs.Keypad.Alarm
import PocketCalc.Proofs.Keypad.Coherence
import PocketCalc.Proofs.Keypad.Cleared
import PocketCalc.Proofs.Keypad.Result
import PocketCalc.Proofs.Keypad.Bookkeeping
import PocketCalc.Proofs.Keypad.Replacement
import PocketCalc.Proofs.Keypad.Undo
import PocketCalc.Proofs.Keypad.Restart
import PocketCalc.Proofs.Spacing
import PocketCalc.Proofs.Finite
import PocketCalc.Proofs.Respelling
import PocketCalc.Proofs.Retention
import PocketCalc.Proofs.CommandLine.Expressions
import PocketCalc.Proofs.CommandLine.Keys
import PocketCalc.Proofs.Conversion
import PocketCalc.Proofs.Cutting
import PocketCalc.Proofs.Rereading
import PocketCalc.Proofs.TrailNumber
import PocketCalc.Proofs.EntryText
import PocketCalc.Proofs.UsableOperands
import PocketCalc.Proofs.Domain
import PocketCalc.Proofs.Keypad.EntryLength
import PocketCalc.Proofs.Keypad.SignToggle
import PocketCalc.Proofs.Keypad.Determined
import PocketCalc.Proofs.Tally
import PocketCalc.Proofs.Mean
import PocketCalc.Proofs.ReducedNumeral
import PocketCalc.Expression.Program
import PocketCalc.Proofs.Breaks
