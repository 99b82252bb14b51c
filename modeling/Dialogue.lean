import Dialogue.Conversation.Locks
import Dialogue.Graph.Lint
import Dialogue.Message.Provider
import Dialogue.Proofs.Booking.Capacity
import Dialogue.Proofs.Booking.Coherence
import Dialogue.Proofs.Booking.Interview
import Dialogue.Proofs.Booking.LastPlaces
import Dialogue.Proofs.Booking.Lateness
import Dialogue.Proofs.Booking.Offers
import Dialogue.Proofs.Booking.Pressed
import Dialogue.Proofs.Chain.Boundary
import Dialogue.Proofs.Chain.Circle
import Dialogue.Proofs.Delivery.Redelivery
import Dialogue.Proofs.Delivery.EntryChains
import Dialogue.Proofs.Delivery.Spent
import Dialogue.Proofs.Delivery.Refusals
import Dialogue.Proofs.Graph.Replies
import Dialogue.Proofs.Http.Guard
import Dialogue.Rehearsal.Reply
import Dialogue.Rehearsal.Script
import Dialogue.Rehearsal.World
import Dialogue.Storage.Bookings
import Dialogue.Storage.Channels
import Dialogue.Storage.Conversations
import Dialogue.Storage.Workflows
import Dialogue.Web.Router
import Dialogue.Web.Settings
import Dialogue.Proofs.Booking.Declined
import Dialogue.Proofs.Delivery.Stores
import Dialogue.Proofs.Delivery.Acknowledged
import Dialogue.Proofs.Delivery.FirstText
import Dialogue.Proofs.Json.Record
import Dialogue.Proofs.Graph.Contents
import Dialogue.Proofs.Graph.Stored
import Dialogue.Proofs.Ident.Written
import Dialogue.Proofs.Storage.Workflows
import Dialogue.Proofs.Conversation.Context
import Dialogue.Proofs.Delivery.Undated
import Dialogue.Proofs.Delivery.Holdings
import Dialogue.Proofs.Delivery.Apart
import Dialogue.Proofs.Delivery.Splitting
import Dialogue.Proofs.Http.Domains
import Dialogue.Proofs.Graph.Answerable
import Dialogue.Proofs.Storage.Crowding
import Dialogue.Proofs.Booking.Soonest
import Dialogue.Proofs.Booking.Shown
import Dialogue.Proofs.Delivery.Told
import Dialogue.Proofs.Template.Marker
import Dialogue.Proofs.Template.Document
import Dialogue.Proofs.Http.Query
import Dialogue.Proofs.Http.Arrival
import Dialogue.Proofs.Graph.Components
import Dialogue.Proofs.Graph.Positions
import Dialogue.Proofs.Chain.Calls
import Dialogue.Proofs.Conversation.Exclusion
import Dialogue.Proofs.Graph.NodeData
import Dialogue.Proofs.Delivery.Vetted
import Dialogue.Proofs.Booking.Variables
import Dialogue.Proofs.Graph.Handles
import Dialogue.Proofs.Booking.Lasting
import Dialogue.Proofs.Ident.Order
import Dialogue.Proofs.Json.Paths
import Dialogue.Proofs.Json.Brackets
import Dialogue.Proofs.Graph.Building
