import CommandMesh.Config
import CommandMesh.Json.Sorted
import CommandMesh.Mesh.Session
import CommandMesh.Report.Node
import CommandMesh.Script.Body
import CommandMesh.Script.Handler
import CommandMesh.Text.Ascii
import CommandMesh.Text.Masked
import CommandMesh.Wire.Catalogue
import CommandMesh.Proofs.Election.Climb
import CommandMesh.Proofs.Election.Collision
import CommandMesh.Proofs.Election.Incumbent
import CommandMesh.Proofs.Election.Lockstep
import CommandMesh.Proofs.Election.Partners
import CommandMesh.Proofs.Node.Agenda
import CommandMesh.Proofs.Router.Cache
import CommandMesh.Proofs.Waitlist.Settlement
import CommandMesh.Proofs.Node.Departure
import CommandMesh.Proofs.Node.Callers
import CommandMesh.Proofs.Node.Desk
import CommandMesh.Proofs.Node.Leftovers
import CommandMesh.Proofs.Node.Withdrawal
import CommandMesh.Proofs.Wire.Binary
import CommandMesh.Proofs.Json.Spelling
import CommandMesh.Proofs.Json.Lexing
import CommandMesh.Proofs.Json.Parsing
import CommandMesh.Proofs.Wire.Json
import CommandMesh.Proofs.Wire.Payload
import CommandMesh.Proofs.Mesh.Traffic
import CommandMesh.Proofs.Mesh.Deal
import CommandMesh.Proofs.Mesh.Exchange
import CommandMesh.Proofs.Mesh.Answer
import CommandMesh.Proofs.Node.Handling
import CommandMesh.Proofs.Node.Faults
import CommandMesh.Proofs.Node.Discretion
import CommandMesh.Proofs.Node.Activity
import CommandMesh.Proofs.Node.Reception
import CommandMesh.Proofs.Roster.Enrolment
import CommandMesh.Proofs.Bus.Delivery
import CommandMesh.Proofs.Node.Footing
import CommandMesh.Proofs.Node.Holdings
import CommandMesh.Proofs.Node.Guard
import CommandMesh.Proofs.Node.Restart
import CommandMesh.Proofs.Node.Chronicle
import CommandMesh.Proofs.Schedule.Runs
import CommandMesh.Proofs.Mesh.Removal
import CommandMesh.Proofs.Mesh.Timekeeping
import CommandMesh.Proofs.Election.Contest
import CommandMesh.Proofs.Election.Repetition
import CommandMesh.Proofs.Election.Standby
import CommandMesh.Proofs.Node.Keys
import CommandMesh.Proofs.Config
import CommandMesh.Proofs.Node.Separation
import CommandMesh.Proofs.Mesh.Retries
import CommandMesh.Proofs.Backoff
