import MessageExchange.Correlation.Run
import MessageExchange.Correlation.Session
import MessageExchange.Main
import MessageExchange.Outbound.Line
import MessageExchange.Proofs.Correlation.Seating
import MessageExchange.Proofs.Correlation.Waiting
import MessageExchange.Proofs.Correlation.Keeping
import MessageExchange.Proofs.Correlation.Listening
import MessageExchange.Proofs.Correlation.Occupancy
import MessageExchange.Proofs.Correlation.Isolation
import MessageExchange.Proofs.Correlation.Leftovers
import MessageExchange.Proofs.Correlation.Beats
import MessageExchange.Proofs.Correlation.Sweeping
import MessageExchange.Proofs.Correlation.Aftermath
import MessageExchange.Proofs.Correlation.Lateness
import MessageExchange.Proofs.Correlation.Pruning
import MessageExchange.Proofs.Correlation.Agreement
import MessageExchange.Proofs.Outbound.Courses
import MessageExchange.Proofs.Outbound.Lines
import MessageExchange.Proofs.Outbound.Tally
import MessageExchange.Proofs.Outbound.Log
import MessageExchange.Proofs.Outbound.Replay
import MessageExchange.Proofs.Outbound.Returns
import MessageExchange.Proofs.Outbound.Intake
import MessageExchange.Proofs.Outbound.Draining
import MessageExchange.Proofs.Outbound.Backlog
import MessageExchange.Proofs.Outbound.Punctual
import MessageExchange.Proofs.Gateway.Courses
import MessageExchange.Proofs.Gateway.Moves
import MessageExchange.Proofs.Gateway.Shutdown
import MessageExchange.Proofs.Gateway.Stages
import MessageExchange.Proofs.Gateway.Closing
import MessageExchange.Proofs.Gateway.Later
import MessageExchange.Proofs.Gateway.Matching
import MessageExchange.Proofs.Network.Traffic
import MessageExchange.Proofs.Network.Views
import MessageExchange.Proofs.Network.Ownership
import MessageExchange.Proofs.Network.Exclusive
import MessageExchange.Proofs.Network.Relaying
import MessageExchange.Proofs.Network.Loopback
import MessageExchange.Proofs.Network.Courses
import MessageExchange.Proofs.Network.Interleaving
import MessageExchange.Proofs.Network.Runs
import MessageExchange.Proofs.Network.Serving
import MessageExchange.Proofs.Registry.Catalogs
import MessageExchange.Proofs.Inbound.Dispatch
import MessageExchange.Proofs.Base64.Canonical
import MessageExchange.Proofs.Notification.Expiry
import MessageExchange.Proofs.Route.Drafts
import MessageExchange.Proofs.Route.Histories
import MessageExchange.Proofs.Route.EndpointFile
import MessageExchange.Proofs.Route.Selection
import MessageExchange.Proofs.Payload.Tokens
import MessageExchange.Proofs.Cli.Outcome
