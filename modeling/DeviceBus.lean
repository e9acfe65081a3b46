import DeviceBus.Amqp.Queue
import DeviceBus.Gateway.Run
import DeviceBus.Hub.Schedule
import DeviceBus.Main
import DeviceBus.Mqtt.Run
import DeviceBus.Routes.Run
import DeviceBus.Severity
import DeviceBus.Proofs.Coap.Fields
import DeviceBus.Proofs.Coap.Options
import DeviceBus.Proofs.Coap.Datagram
import DeviceBus.Proofs.Registry
import DeviceBus.Proofs.Broker
import DeviceBus.Proofs.Broker.Changes
import DeviceBus.Proofs.Broker.Fanout
import DeviceBus.Proofs.Broker.Dealt
import DeviceBus.Proofs.Broker.Groups
import DeviceBus.Proofs.Envelope
import DeviceBus.Proofs.Roster
import DeviceBus.Proofs.Hub.Moves
import DeviceBus.Proofs.Facade
import DeviceBus.Proofs.Hub.Ledger
import DeviceBus.Proofs.Hub.Books
import DeviceBus.Proofs.Hub.Entries
import DeviceBus.Proofs.Hub.Handles
import DeviceBus.Proofs.Hub.Perform
import DeviceBus.Proofs.Hub.Onward
import DeviceBus.Proofs.Hub.Claims
import DeviceBus.Proofs.Hub.Lives
import DeviceBus.Proofs.Hub.Guards
import DeviceBus.Proofs.Hub.Cancels
import DeviceBus.Proofs.Hub.Closing
import DeviceBus.Proofs.Hub.Settled
import DeviceBus.Proofs.Hub.Served
import DeviceBus.Proofs.Gateway.Keeps
import DeviceBus.Proofs.Gateway.Registrations
import DeviceBus.Proofs.Gateway.Runs
import DeviceBus.Proofs.Gateway.Endings
import DeviceBus.Proofs.Gateway.Paths
import DeviceBus.Proofs.Hub.Effects
import DeviceBus.Proofs.Gateway.Warrants
import DeviceBus.Proofs.Broker.Taps
import DeviceBus.Proofs.Gateway.Frames
import DeviceBus.Proofs.Gateway.Isolation
import DeviceBus.Proofs.Subject.Dialects
import DeviceBus.Proofs.Gateway.Crossings
import DeviceBus.Proofs.Gateway.Actions
import DeviceBus.Proofs.Gateway.Turns
import DeviceBus.Proofs.Gateway.Observing
import DeviceBus.Proofs.Gateway.Values
import DeviceBus.Proofs.Hub.Standing
import DeviceBus.Proofs.Gateway.Mail
import DeviceBus.Proofs.Gateway.Notices
import DeviceBus.Proofs.Gateway.Draining
import DeviceBus.Proofs.Observe.Acks
import DeviceBus.Proofs.Gateway.Outcomes
import DeviceBus.Proofs.Gateway.Phases
import DeviceBus.Proofs.Gateway.Exchanges
import DeviceBus.Proofs.Gateway.Accounts
import DeviceBus.Proofs.Gateway.Questions
import DeviceBus.Proofs.Gateway.Silence
import DeviceBus.Proofs.Gateway.Cancelling
import DeviceBus.Proofs.Gateway.Neighbours
import DeviceBus.Proofs.Gateway.Pairing
import DeviceBus.Proofs.Mqtt.Journal
import DeviceBus.Proofs.Mqtt.Bookkeeping
import DeviceBus.Proofs.Mqtt.Dispatch
import DeviceBus.Proofs.Text.Base64Url
import DeviceBus.Proofs.Json.Strings
import DeviceBus.Proofs.Json.Values
import DeviceBus.Proofs.Access.Token
import DeviceBus.Proofs.Broker.Ownership
import DeviceBus.Proofs.Registry.Flat
import DeviceBus.Proofs.Mqtt.Rota
import DeviceBus.Proofs.Broker.Rota
import DeviceBus.Proofs.Balance
import DeviceBus.Proofs.Observe.Sequence
import DeviceBus.Proofs.Coap.Grammar
import DeviceBus.Proofs.Gateway.Schedule
import DeviceBus.Proofs.Subject.Patterns
import DeviceBus.Proofs.Broker.Fairness
import DeviceBus.Proofs.Gateway.Replies
import DeviceBus.Proofs.Broker.Retapped
import DeviceBus.Proofs.Facade.Beside
import DeviceBus.Proofs.Hub.Beside
import DeviceBus.Proofs.Hub.Undone
import DeviceBus.Proofs.Amqp.Queue
import DeviceBus.Proofs.CommandLine.Publishing
import DeviceBus.Proofs.Gateway.Observers
import DeviceBus.Proofs.Coap.Observe
import DeviceBus.Proofs.Subject.Levels
import DeviceBus.Proofs.Routes
