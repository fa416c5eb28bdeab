import TracePilot.Library.Resumption
import TracePilot.Library.Scan
import TracePilot.Library.Outbox
import TracePilot.Values.Json
import TracePilot.Values.Wire
import TracePilot.Library.Table
import TracePilot.Backend.InvestigationRuns
import TracePilot.Backend.Containment
import TracePilot.Backend.Rounds
import TracePilot.Backend.AuditReader
import TracePilot.Backend.Bursts
import TracePilot.Backend.Detectors
import TracePilot.Backend.Destinations
import TracePilot.Backend.Timeline
import TracePilot.Backend.Truncation
import TracePilot.Backend.Lookback
import TracePilot.Backend.Findings
import TracePilot.Backend.Snapshots
import TracePilot.Backend.Listings
import TracePilot.Backend.Storage
import TracePilot.Backend.Requests
import TracePilot.Backend.Lifecycle
import TracePilot.Backend.Replay
import TracePilot.Backend.Grounding
import TracePilot.Backend.DemoQuestions
import TracePilot.Backend.DemoCitations
import TracePilot.Backend.Described
import TracePilot.Backend.ToolSchemas
import TracePilot.Backend.LetterCase
import TracePilot.Backend.OpenAI
import TracePilot.Backend.Conversations
import TracePilot.Collector.Delivery
import TracePilot.Collector.Exchange
import TracePilot.Collector.Tracing
import TracePilot.Collector.Connections
import TracePilot.Collector.Structures
import TracePilot.Collector.Detection
import TracePilot.Simulator.Incident
