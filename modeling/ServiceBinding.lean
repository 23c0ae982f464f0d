import ServiceBinding.Config
import ServiceBinding.Net.Client
import ServiceBinding.Net.Server
import ServiceBinding.Sample.Modules
import ServiceBinding.Sample.Script
import ServiceBinding.Session
import ServiceBinding.Shape.Description
import ServiceBinding.Proofs.Dispatch.Container
import ServiceBinding.Proofs.Dispatch.Conventions
import ServiceBinding.Proofs.Dispatch.Failure
import ServiceBinding.Proofs.Wire.SelfDelimiting
import ServiceBinding.Proofs.Wire.Size
import ServiceBinding.Proofs.Wire.Parsing
import ServiceBinding.Proofs.Wire.Canonical
import ServiceBinding.Proofs.Dispatch.Serving
import ServiceBinding.Proofs.Net.Frame
import ServiceBinding.Proofs.Net.Message
import ServiceBinding.Proofs.Net.Call
import ServiceBinding.Proofs.Activity.Turns
import ServiceBinding.Proofs.Dispatch.InFlight
import ServiceBinding.Proofs.Net.Transit
import ServiceBinding.Proofs.Net.Delivery
import ServiceBinding.Proofs.Registration
import ServiceBinding.Proofs.Response.FirstMatch
import ServiceBinding.Proofs.Dispatch.Returned
import ServiceBinding.Proofs.Dispatch.Outbound
import ServiceBinding.Proofs.Session.Log
import ServiceBinding.Proofs.Session.Entry
import ServiceBinding.Proofs.Session.Outcome
import ServiceBinding.Proofs.Session.Collision
import ServiceBinding.Proofs.Duration
import ServiceBinding.Proofs.Net.TimeToLive
import ServiceBinding.Proofs.Response.Runs
import ServiceBinding.Proofs.Dispatch.Events
import ServiceBinding.Proofs.Net.Headers
import ServiceBinding.Proofs.ServiceName
import ServiceBinding.Proofs.Session.Report
