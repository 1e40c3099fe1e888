import VehiclesOnline.Library.Trimming
import VehiclesOnline.Library.Text
import VehiclesOnline.Library.Ascii
import VehiclesOnline.Library.UpperCase
import VehiclesOnline.Library.Utf8
import VehiclesOnline.Library.Utf16
import VehiclesOnline.Library.Base64
import VehiclesOnline.Library.Sha1
import VehiclesOnline.Library.BlockMode
import VehiclesOnline.Library.FormUrlEncoded
import VehiclesOnline.Library.Json
import VehiclesOnline.Library.KeyValue
import VehiclesOnline.Library.StableSort
import VehiclesOnline.Library.Pattern
import VehiclesOnline.Library.Regex
import VehiclesOnline.Library.Uri
import VehiclesOnline.Library.CivilCalendar
import VehiclesOnline.Library.DateFormat
import VehiclesOnline.Library.Effects
import VehiclesOnline.Library.Observation
import VehiclesOnline.Library.Log
import VehiclesOnline.Library.Transition
import VehiclesOnline.Session.Cookies
import VehiclesOnline.Session.Encryption
import VehiclesOnline.Session.ClientSideSession
import VehiclesOnline.Session.Specification
import VehiclesOnline.Session.Refinement
import VehiclesOnline.Session.Separation
import VehiclesOnline.Session.Malleability
import VehiclesOnline.Session.TrackingIds
import VehiclesOnline.Session.SessionFilter
import VehiclesOnline.Session.Healing
import VehiclesOnline.Session.FirstResponse
import VehiclesOnline.Session.Concurrency
import VehiclesOnline.Session.Expiry
import VehiclesOnline.Csrf.Semantics
import VehiclesOnline.Csrf.Correctness
import VehiclesOnline.Wizard.Models
import VehiclesOnline.Wizard.Calendar
import VehiclesOnline.Wizard.Dates
import VehiclesOnline.Wizard.Instants
import VehiclesOnline.Wizard.Addresses
import VehiclesOnline.Wizard.Services
import VehiclesOnline.Wizard.Forms
import VehiclesOnline.Wizard.Mappings
import VehiclesOnline.Wizard.Submissions
import VehiclesOnline.Wizard.Registration
import VehiclesOnline.Wizard.Responses
import VehiclesOnline.Wizard.Controllers
import VehiclesOnline.Wizard.Application
import VehiclesOnline.Wizard.Simulation
import VehiclesOnline.Wizard.Answers
import VehiclesOnline.Wizard.Frames
import VehiclesOnline.Wizard.Vehicle
import VehiclesOnline.Wizard.Steps
import VehiclesOnline.Wizard.Runs
import VehiclesOnline.Wizard.Disposal
import VehiclesOnline.Wizard.Parts
import VehiclesOnline.Wizard.Equivalence
import VehiclesOnline.Wizard.DisposeForm
import VehiclesOnline.Wizard.DateOrder
import VehiclesOnline.Wizard.YearDropDown
import VehiclesOnline.Wizard.ErrorReplacement
import VehiclesOnline.Wizard.BruteForce
import VehiclesOnline.Wizard.Logs
import VehiclesOnline.Wizard.Domain
import VehiclesOnline.Wizard.Transactions
import VehiclesOnline.Wizard.Outcomes
import VehiclesOnline.Wizard.LookupOutcomes
import VehiclesOnline.Wizard.Redirects
import VehiclesOnline.Wizard.CarryOver
import VehiclesOnline.Wizard.StartOver
import VehiclesOnline.Wizard.AddressLookup
import VehiclesOnline.Wizard.AddressList
import VehiclesOnline.Wizard.DisposalAddress
import VehiclesOnline.Wizard.TraderForms
import VehiclesOnline.Wizard.Trimmers
import VehiclesOnline.Wizard.Postcodes
import VehiclesOnline.Wizard.ManualAddress
import VehiclesOnline.Wizard.TradeDetails
import VehiclesOnline.Wizard.Survey
import VehiclesOnline.Wizard.Browsing
import VehiclesOnline.Wizard.SurveyInterval
import VehiclesOnline.Wizard.AccessLog
import VehiclesOnline.Wizard.Timestamps
import VehiclesOnline.Library.Snapshots
import VehiclesOnline.Wizard.InFlight
import VehiclesOnline.Wizard.Interleavings
import VehiclesOnline.Wizard.Failures
import VehiclesOnline.Csrf.Admission
import VehiclesOnline.Wizard.Pipeline
import VehiclesOnline.Wizard.HttpTraffic
import VehiclesOnline.Wizard.SentForms
import VehiclesOnline.Wizard.GenuineForms
import VehiclesOnline.Wizard.ForgedRequests
import VehiclesOnline.Wizard.TracedCalls
import VehiclesOnline.Wizard.Receipts
