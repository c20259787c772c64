import Outbox.Main
import Outbox.Rehearsal.Basic
import Outbox.Json.Document
import Outbox.Proofs.Results
import Outbox.Proofs.Store.Refinement
import Outbox.Proofs.Store.Queries
import Outbox.Proofs.Store.History
import Outbox.Proofs.Store.Reopening
import Outbox.Proofs.Store.Gains
import Outbox.Proofs.Sync.Attempt
import Outbox.Proofs.Sync.Exits
import Outbox.Proofs.Sync.Disclosure
import Outbox.Proofs.Sync.Draining
import Outbox.Proofs.Fleet.Basic
import Outbox.Proofs.Fleet.Invariant
import Outbox.Proofs.Fleet.Acknowledgement
import Outbox.Proofs.Fleet.Order
import Outbox.Proofs.Fleet.Retention
import Outbox.Proofs.Fleet.Counting
import Outbox.Proofs.Files.Removal
import Outbox.Proofs.Credential.Gates
import Outbox.Proofs.Session.Basic
import Outbox.Proofs.Session.Refusal
import Outbox.Proofs.Background.Basic
import Outbox.Proofs.Background.Exclusion
import Outbox.Proofs.Text.Utf8
import Outbox.Proofs.Ingest.Lines
import Outbox.Proofs.Ingest.Importing
import Outbox.Proofs.Json.Text
import Outbox.Proofs.Json.Number
import Outbox.Proofs.Json.Record
import Outbox.Proofs.Upload.Wire
import Outbox.Proofs.Background.Handles
import Outbox.Proofs.Background.Idleness
import Outbox.Proofs.Background.Cancellation
import Outbox.Proofs.Session.Erasure
import Outbox.Proofs.Http.Conversation
import Outbox.Proofs.Collector.Answers
import Outbox.Proofs.Collector.Calls
import Outbox.Proofs.Session.Harmless
import Outbox.Proofs.Session.Locked
import Outbox.Proofs.Sync.Uploading
import Outbox.Proofs.Command.Syncing
import Outbox.Proofs.Command.Furnished
import Outbox.Proofs.Json.Grammar
import Outbox.Proofs.Json.Strings
import Outbox.Proofs.Json.Numerals
import Outbox.Proofs.Json.Skipping
import Outbox.Proofs.Json.Spelling
import Outbox.Proofs.Json.Understanding
import Outbox.Proofs.Json.Description
import Outbox.Proofs.Json.Refusal
import Outbox.Proofs.Event.Meaning
import Outbox.Proofs.Store.Delivery
import Outbox.Proofs.Fleet.Retrying
import Outbox.Proofs.Fleet.Ending
import Outbox.Proofs.Ingest.Triggering
import Outbox.Proofs.Upload.Location
import Outbox.Proofs.Store.Views
import Outbox.Proofs.Ingest.Capturing
import Outbox.Proofs.Credential.Cell
import Outbox.Proofs.Domain.Plain
import Outbox.Proofs.Http.Host
import Outbox.Proofs.Http.Destination
import Outbox.Proofs.Collector.Address
import Outbox.Proofs.Sync.Statistics
import Outbox.Proofs.Store.Migration
