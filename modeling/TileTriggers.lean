import TileTriggers.Main
import TileTriggers.Map.History
import TileTriggers.Proofs.Map.Grid
import TileTriggers.Proofs.Map.Invariant
import TileTriggers.Proofs.Map.Load
import TileTriggers.Proofs.Map.Pool
import TileTriggers.Proofs.Map.RoundTrip
import TileTriggers.Proofs.Map.Slots
import TileTriggers.Proofs.Map.Sound
import TileTriggers.Proofs.Map.Tiles
import TileTriggers.Proofs.Fallible
import TileTriggers.Proofs.Payload.BigEndian
import TileTriggers.Proofs.Payload.Correspondence
import TileTriggers.Proofs.Payload.Field
import TileTriggers.Proofs.Payload.Inverse
import TileTriggers.Proofs.Schema
import TileTriggers.Proofs.Script.Arguments
import TileTriggers.Proofs.Script.Layout
import TileTriggers.Proofs.Script.Line
import TileTriggers.Proofs.Script.RoundTrip
import TileTriggers.Proofs.Script.Spelling
import TileTriggers.Proofs.Script.Token
import TileTriggers.Proofs.Text.Ascii
import TileTriggers.Proofs.Text.Decimal
import TileTriggers.Proofs.Text.Trim
import TileTriggers.Proofs.Vocabulary
import TileTriggers.Proofs.Payload.Delimited
import TileTriggers.Proofs.Map.Cut
import TileTriggers.Proofs.Map.Damage
import TileTriggers.Proofs.Map.Truncation
import TileTriggers.Proofs.Map.Normal
import TileTriggers.Proofs.Map.Rotation
import TileTriggers.Proofs.Map.Paint
import TileTriggers.Proofs.Script.Diagnosis
import TileTriggers.Proofs.Tool.Transaction
import TileTriggers.Proofs.Script.TokenGrammar
import TileTriggers.Proofs.Script.ArgumentGrammar
import TileTriggers.Proofs.Text.Run
import TileTriggers.Proofs.Map.Search
import TileTriggers.Proofs.Map.Resize
import TileTriggers.Proofs.Script.Listing
import TileTriggers.Proofs.Tables
import TileTriggers.Proofs.Map.Capacity
import TileTriggers.Proofs.Map.Listing
import TileTriggers.Proofs.Map.Numbering
import TileTriggers.Proofs.Payload.Consumption
import TileTriggers.Proofs.Script.Splice
import TileTriggers.Proofs.Script.Caseless
import TileTriggers.Proofs.Map.Clashes
import TileTriggers.Proofs.Map.Fill
