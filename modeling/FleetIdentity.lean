import FleetIdentity.Http.Server
import FleetIdentity.Assertion.Signer
import FleetIdentity.Log.Filter
import FleetIdentity.Settings.Source
import FleetIdentity.Store.Location
import FleetIdentity.Proofs.Text.Utf8
import FleetIdentity.Proofs.Text.Lines
import FleetIdentity.Proofs.Encoding.Base64
import FleetIdentity.Proofs.Assertion.HeaderGrammar
import FleetIdentity.Proofs.Assertion.Verification
import FleetIdentity.Proofs.Assertion.Framing
import FleetIdentity.Proofs.Assertion.SignedStream
import FleetIdentity.Proofs.Assertion.Resigning
import FleetIdentity.Proofs.Store.Rows
import FleetIdentity.Proofs.Store.Soundness
import FleetIdentity.Proofs.Service.EnrollmentPair
import FleetIdentity.Proofs.Service.StoreCalls
import FleetIdentity.Proofs.Store.Answers
import FleetIdentity.Proofs.Service.Outcomes
import FleetIdentity.Proofs.Service.EnrolledDevice
import FleetIdentity.Proofs.Http.Step
import FleetIdentity.Proofs.Http.EnrollmentTrace
import FleetIdentity.Proofs.Service.RegisteredDevice
import FleetIdentity.Proofs.Store.Agreement
import FleetIdentity.Proofs.Store.Tables
import FleetIdentity.Proofs.Store.Consistency
import FleetIdentity.Proofs.Store.Calls
import FleetIdentity.Proofs.Store.Reads
import FleetIdentity.Proofs.Store.Writes
import FleetIdentity.Proofs.Service.EnrollmentFlow
import FleetIdentity.Store.Steps
import FleetIdentity.Proofs.Store.Steps
import FleetIdentity.Proofs.Http.Atomicity
import FleetIdentity.Proofs.Store.Tenants
import FleetIdentity.Proofs.Http.TenantIsolation
import FleetIdentity.Proofs.Service.Operations
import FleetIdentity.Proofs.Service.Runs
import FleetIdentity.Proofs.Asn1.Elements
import FleetIdentity.Proofs.Pki.Moments
import FleetIdentity.Proofs.Pki.Names
import FleetIdentity.Proofs.Pki.PemBlocks
import FleetIdentity.Proofs.Asn1.StrictElements
import FleetIdentity.Proofs.Pki.KeyFiles
import FleetIdentity.Proofs.Pki.Certificates
import FleetIdentity.Proofs.Pki.Requests
import FleetIdentity.Proofs.Pki.ChainOfTrust
import FleetIdentity.Store.Statements
import FleetIdentity.Proofs.Store.Statements
import FleetIdentity.Proofs.Store.CallSteps
import FleetIdentity.Proofs.Store.OneDevice
import FleetIdentity.Proofs.Service.StatusUpdates
import FleetIdentity.Proofs.Service.EnrollmentChecks
import FleetIdentity.Proofs.Store.Histories
import FleetIdentity.Proofs.Service.Interleaving
import FleetIdentity.Proofs.Service.KeySecrecy
import FleetIdentity.Proofs.Http.KeySecrecy
import FleetIdentity.Proofs.Pki.RebuiltNames
import FleetIdentity.Proofs.Pki.ExternalRoot
import FleetIdentity.Proofs.Assertion.Concatenation
import FleetIdentity.Proofs.Assertion.TrustedKeys
import FleetIdentity.Proofs.Store.ListingOrder
import FleetIdentity.Proofs.Store.UnreadableRows
import FleetIdentity.Proofs.Service.WriteInvariants
import FleetIdentity.Proofs.Service.UnreadableRows
import FleetIdentity.Proofs.Pki.PemDocuments
import FleetIdentity.Proofs.Settings.Values
import FleetIdentity.Proofs.Settings.Layers
import FleetIdentity.Proofs.Pki.NameTypes
import FleetIdentity.Proofs.Pki.NameTexts
import FleetIdentity.Proofs.Pki.NamesAlike
import FleetIdentity.Proofs.Pki.IssuerNames
import FleetIdentity.Proofs.Datum.JsonText
import FleetIdentity.Proofs.Datum.Records
import FleetIdentity.Proofs.Datum.JsonForms
