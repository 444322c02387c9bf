import DroneTactics.Amount
import DroneTactics.Board.Basic
import DroneTactics.Board.Control
import DroneTactics.Board.Entity
import DroneTactics.Board.Lane
import DroneTactics.Board.Roster
import DroneTactics.Board.StatRule
import DroneTactics.Board.Stats
import DroneTactics.Comparison
import DroneTactics.Definition.Basic
import DroneTactics.Definition.Decode
import DroneTactics.Definition.Decoded
import DroneTactics.Definition.Dump
import DroneTactics.Definition.Integer
import DroneTactics.Definition.Load
import DroneTactics.Definition.Validation
import DroneTactics.Definition.Vocabulary
import DroneTactics.Document.Json.Reader
import DroneTactics.Document.Json.Writer
import DroneTactics.Document.Moment
import DroneTactics.Document.Value
import DroneTactics.Number.Binary64
import DroneTactics.Number.Shortest
import DroneTactics.Playability
import DroneTactics.Proofs.Board.Arrangement
import DroneTactics.Proofs.Board.Control
import DroneTactics.Proofs.Board.Labels
import DroneTactics.Proofs.Board.Lane
import DroneTactics.Proofs.Board.LaneGraph
import DroneTactics.Proofs.Board.MovedOnce
import DroneTactics.Proofs.Board.MovedTwice
import DroneTactics.Proofs.Board.Relocation
import DroneTactics.Proofs.Board.Station
import DroneTactics.Proofs.Comparison
import DroneTactics.Proofs.Definition.Accepted
import DroneTactics.Proofs.Definition.Loading
import DroneTactics.Proofs.Definition.Reading
import DroneTactics.Proofs.Definition.RoundTrip
import DroneTactics.Proofs.Definition.Validity
import DroneTactics.Proofs.Definition.Written
import DroneTactics.Proofs.Document.Equality
import DroneTactics.Proofs.Document.Order
import DroneTactics.Proofs.Document.Rank
import DroneTactics.Proofs.Fault
import DroneTactics.Proofs.Listing
import DroneTactics.Proofs.Playability
import DroneTactics.Proofs.Selection.Answered
import DroneTactics.Proofs.Selection.Arrangement
import DroneTactics.Proofs.Selection.BothSides
import DroneTactics.Proofs.Selection.CardStep
import DroneTactics.Proofs.Selection.Charted
import DroneTactics.Proofs.Selection.EarlierCost
import DroneTactics.Proofs.Selection.Forward
import DroneTactics.Proofs.Selection.GroupMove
import DroneTactics.Proofs.Selection.HiddenHand
import DroneTactics.Proofs.Selection.LegalPlay
import DroneTactics.Proofs.Selection.Located
import DroneTactics.Proofs.Selection.MoveStep
import DroneTactics.Proofs.Selection.PaidTwice
import DroneTactics.Proofs.Selection.Presence
import DroneTactics.Proofs.Selection.Provenance
import DroneTactics.Proofs.Selection.Record
import DroneTactics.Proofs.Selection.Resemblance
import DroneTactics.Proofs.Selection.Run
import DroneTactics.Proofs.Selection.SafeMove
import DroneTactics.Proofs.Selection.Seats
import DroneTactics.Proofs.Selection.SingleMove
import DroneTactics.Proofs.Selection.SpentOnce
import DroneTactics.Proofs.Selection.Toggle
import DroneTactics.Proofs.Selection.Unambiguous
import DroneTactics.Proofs.Selection.Vanished
import DroneTactics.Proofs.Selection.Waiting
import DroneTactics.Proofs.Targeting.Cap
import DroneTactics.Proofs.Targeting.Capacity
import DroneTactics.Proofs.Targeting.Choice
import DroneTactics.Proofs.Targeting.Companion
import DroneTactics.Proofs.Targeting.Conjunction
import DroneTactics.Proofs.Targeting.Demand
import DroneTactics.Proofs.Targeting.Eligible
import DroneTactics.Proofs.Targeting.Mobility
import DroneTactics.Proofs.Targeting.Muster
import DroneTactics.Proofs.Targeting.Namesake
import DroneTactics.Proofs.Targeting.Offer
import DroneTactics.Proofs.Targeting.PaidByMoving
import DroneTactics.Proofs.Targeting.Payment
import DroneTactics.Proofs.Targeting.Preview
import DroneTactics.Proofs.Targeting.Resemblance
import DroneTactics.Proofs.Targeting.Scope
import DroneTactics.Proofs.Targeting.SecondRule
import DroneTactics.Proofs.Targeting.Slots
import DroneTactics.Proofs.Targeting.Standing
import DroneTactics.Proofs.Targeting.Unambiguous
import DroneTactics.Proofs.Targeting.UnknownWords
import DroneTactics.Rules
import DroneTactics.Selection.CardFlow
import DroneTactics.Selection.Event
import DroneTactics.Selection.MoveFlow
import DroneTactics.Targeting.Offer
import DroneTactics.Targeting.Preview
import DroneTactics.Targeting.Referee
import DroneTactics.Targeting.Restriction
import DroneTactics.Targeting.Scope
import DroneTactics.Targeting.Secondary
import DroneTactics.Targeting.Situation
import DroneTactics.Targeting.Target
import DroneTactics.Text.Base64
import DroneTactics.Text.Digits
import DroneTactics.Text.Numeral
import DroneTactics.Text.Printable
import DroneTactics.Text.Quoted
import DroneTactics.Text.Surrogate
import DroneTactics.Yaml.Atom
import DroneTactics.Yaml.Collection
import DroneTactics.Yaml.Cursor
import DroneTactics.Yaml.Document
import DroneTactics.Yaml.Graph
import DroneTactics.Yaml.Kind
import DroneTactics.Yaml.Merge
import DroneTactics.Yaml.Node
import DroneTactics.Yaml.Object
import DroneTactics.Yaml.Reader
import DroneTactics.Yaml.Scalar
import DroneTactics.Yaml.Timestamp
import DroneTactics.Yaml.Token
import DroneTactics.Yaml.Tokens
