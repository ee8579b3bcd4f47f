import VehicleLink.Text.Blank
import VehicleLink.Text.LetterCase
import VehicleLink.Text.Quoted
import VehicleLink.Text.Utf8
import VehicleLink.Text.FormEncoding
import VehicleLink.Decimal.Layout
import VehicleLink.Decimal.Reading
import VehicleLink.Json.Shape
import VehicleLink.Json.Writer
import VehicleLink.Report.Status
import VehicleLink.Report.Trips
import VehicleLink.Report.Destinations
import VehicleLink.Timestamp
import VehicleLink.Vehicle.Figure
import VehicleLink.Vehicle.Opening
import VehicleLink.Vehicle.Service
import VehicleLink.Vehicle.Summary
import VehicleLink.Charging.Edit
import VehicleLink.Log
import VehicleLink.Web.Endpoint
import VehicleLink.Web.Session
import VehicleLink.Channel.Command
import VehicleLink.Settings.Config
import VehicleLink.Settings.Environment
import VehicleLink.Bridge.Answer
import VehicleLink.Bridge.Order
import VehicleLink.Polling
import VehicleLink.Program.Run
import VehicleLink.Rehearsal.Folder
import VehicleLink.Rehearsal.Script
import VehicleLink.Main
import VehicleLink.Proofs.Json.Members
import VehicleLink.Proofs.Json.Values
import VehicleLink.Proofs.Json.Kept
import VehicleLink.Proofs.Decimal.Digits
import VehicleLink.Proofs.Json.Numerals
import VehicleLink.Proofs.Json.Grammar
import VehicleLink.Proofs.Json.Parsing
import VehicleLink.Proofs.Json.Written
import VehicleLink.Proofs.Json.Readings
import VehicleLink.Proofs.Json.Records
import VehicleLink.Proofs.Charging.Planners
import VehicleLink.Proofs.Charging.RoundTrip
import VehicleLink.Proofs.Text.Cutting
import VehicleLink.Proofs.Text.Lines
import VehicleLink.Proofs.Text.Utf8
import VehicleLink.Proofs.Charging.TimeView
import VehicleLink.Proofs.Polling.SentProfiles
import VehicleLink.Proofs.Json.Mentions
import VehicleLink.Proofs.Json.Closed
import VehicleLink.Proofs.Json.Rewriting
import VehicleLink.Proofs.Report.ReadBack
import VehicleLink.Proofs.Report.Rewriting
import VehicleLink.Proofs.Bridge.Steps
import VehicleLink.Proofs.Bridge.Incidents
import VehicleLink.Proofs.Bridge.Reports
import VehicleLink.Proofs.Bridge.Hiding
import VehicleLink.Proofs.Bridge.Anonymity
import VehicleLink.Proofs.Bridge.Likeness
import VehicleLink.Proofs.Bridge.Unread
import VehicleLink.Proofs.Polling.Schedule
import VehicleLink.Proofs.Web.Courses
import VehicleLink.Proofs.Web.Retries
import VehicleLink.Proofs.Web.Tokens
import VehicleLink.Proofs.Bridge.Publication
import VehicleLink.Proofs.Json.Difference
import VehicleLink.Proofs.Charging.Locality
import VehicleLink.Proofs.Charging.ClockTimes
import VehicleLink.Proofs.Bridge.Payloads
import VehicleLink.Proofs.Bridge.Failures
import VehicleLink.Proofs.Bridge.Independence
import VehicleLink.Proofs.Polling.Serving
import VehicleLink.Proofs.Channel.Input
import VehicleLink.Proofs.Polling.Delivery
import VehicleLink.Proofs.Decimal.Counts
import VehicleLink.Proofs.Bridge.Contents
import VehicleLink.Proofs.Bridge.Browsing
import VehicleLink.Proofs.Bridge.Lengths
import VehicleLink.Proofs.Charging.Weekdays
import VehicleLink.Proofs.Charging.Commuting
import VehicleLink.Proofs.Charging.ShownTimes
import VehicleLink.Proofs.Bridge.Redelivery
import VehicleLink.Proofs.Bridge.Addressing
import VehicleLink.Proofs.Channel.Lines
import VehicleLink.Proofs.Calendar.Order
import VehicleLink.Proofs.Calendar.Days
import VehicleLink.Proofs.Calendar.ReadBack
import VehicleLink.Proofs.Calendar.Offsets
import VehicleLink.Proofs.Vehicle.NextService
import VehicleLink.Proofs.Vehicle.OneWay
import VehicleLink.Proofs.Timestamp
import VehicleLink.Proofs.Vehicle.Opening
import VehicleLink.Proofs.Vehicle.DueMonths
import VehicleLink.Proofs.Settings.Interval
import VehicleLink.Proofs.Web.Lifetimes
import VehicleLink.Proofs.Settings.Assignments
import VehicleLink.Proofs.Settings.Precedence
import VehicleLink.Proofs.Text.LetterCase
import VehicleLink.Proofs.Settings.Arguments
import VehicleLink.Proofs.Settings.Offences
import VehicleLink.Proofs.Settings.Acceptance
