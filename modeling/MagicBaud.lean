import MagicBaud.Main
import MagicBaud.Proofs.Handles
import MagicBaud.Proofs.Openers
import MagicBaud.Proofs.Process
import MagicBaud.Proofs.Verbosity
import MagicBaud.Proofs.Messages
import MagicBaud.Proofs.Verdict
import MagicBaud.Proofs.Fitting
import MagicBaud.Proofs.Numerals
import MagicBaud.Proofs.Rendering
import MagicBaud.Proofs.Rereading
import MagicBaud.Proofs.Hexadecimal
import MagicBaud.Proofs.Lines
import MagicBaud.Proofs.Listing
import MagicBaud.Proofs.ConfigText
import MagicBaud.Proofs.Precedence
import MagicBaud.Proofs.Appending
import MagicBaud.Proofs.Spelling
import MagicBaud.Proofs.Casing
import MagicBaud.Proofs.Naming
import MagicBaud.Proofs.Lookup
import MagicBaud.Proofs.Transcript
import MagicBaud.Proofs.Pieces
import MagicBaud.Proofs.Acceptance
import MagicBaud.Proofs.Recovery
import MagicBaud.Proofs.Colours
import MagicBaud.Proofs.Figures
import MagicBaud.Proofs.Deduction
import MagicBaud.Proofs.Layering
import MagicBaud.Proofs.Insertion
import MagicBaud.Proofs.Exchange
import MagicBaud.Proofs.Overlong
import MagicBaud.Proofs.SettleTime
