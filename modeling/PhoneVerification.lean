import PhoneVerification.Config.Page
import PhoneVerification.Flow.Run
import PhoneVerification.Flow.Script
import PhoneVerification.Main
import PhoneVerification.Proofs.Flow.Plan
import PhoneVerification.Proofs.Flow.Planned
import PhoneVerification.Proofs.Text.Strip
import PhoneVerification.Proofs.Verification.LinkCode
import PhoneVerification.Proofs.Verification.LinkGrammar
import PhoneVerification.Proofs.Flow.History
import PhoneVerification.Proofs.Flow.Consistency
import PhoneVerification.Proofs.Flow.Numbers
import PhoneVerification.Proofs.Flow.Alike
import PhoneVerification.Proofs.Flow.FreshAttempt
import PhoneVerification.Proofs.Flow.Handoff
import PhoneVerification.Proofs.Flow.Refusal
import PhoneVerification.Proofs.Issuance.Polling
import PhoneVerification.Proofs.Coupling
import PhoneVerification.Proofs.Http.Counterpart
import PhoneVerification.Proofs.Verification.Answers
import PhoneVerification.Proofs.Flow.Leeway
import PhoneVerification.Proofs.Flow.SideBySide
import PhoneVerification.Proofs.Flow.FailureClass
import PhoneVerification.Proofs.PhoneNumber.Masked
import PhoneVerification.Proofs.Issuance.Counterpart
import PhoneVerification.Proofs.Flow.Secrecy
import PhoneVerification.Proofs.Flow.ConfirmedAtOnce
import PhoneVerification.Proofs.Flow.UpToDate
import PhoneVerification.Proofs.Flow.PendingForms
import PhoneVerification.Proofs.Text.Utf8
import PhoneVerification.Proofs.Http.Form
import PhoneVerification.Proofs.Verification.PostedForms
import PhoneVerification.Proofs.Text.Digits
import PhoneVerification.Proofs.PhoneNumber.Verifiable
import PhoneVerification.Proofs.Text.Octets
import PhoneVerification.Proofs.Json.NumberLiteral
import PhoneVerification.Proofs.Json.StringLiteral
import PhoneVerification.Proofs.Json.Spelling
import PhoneVerification.Proofs.Json.Shape
import PhoneVerification.Proofs.Config.Written
import PhoneVerification.Proofs.Cli.PrintedConfig
import PhoneVerification.Proofs.Flow.Guise
import PhoneVerification.Proofs.Flow.Abreast
import PhoneVerification.Proofs.Verification.RetryHeader
import PhoneVerification.Proofs.Flow.RetryAdvice
import PhoneVerification.Proofs.Flow.Presentation
import PhoneVerification.Proofs.PhoneNumber.Spelling
import PhoneVerification.Proofs.Flow.LinkRequest
import PhoneVerification.Proofs.Flow.StatusAtRest
import PhoneVerification.Proofs.Cli.Conversation
import PhoneVerification.Proofs.PhoneNumber.AllowedRegions
import PhoneVerification.Proofs.Verification.LinkSpelling
import PhoneVerification.Proofs.RetryWindow.Announced
import PhoneVerification.Proofs.Message.Rendering
import PhoneVerification.Proofs.Flow.StartingOver
import PhoneVerification.Proofs.Verification.ErrorName
import PhoneVerification.Proofs.Verification.Endpoints
import PhoneVerification.Proofs.Json.ReadBack
import PhoneVerification.Proofs.RetryWindow.DelaySeconds
import PhoneVerification.Proofs.Config.Checked
import PhoneVerification.Proofs.Config.Fields
import PhoneVerification.Proofs.Config.GivenFields
import PhoneVerification.Proofs.Cli.GivenSettings
import PhoneVerification.Proofs.Cli.LoadedConfig
import PhoneVerification.Proofs.Reading
import PhoneVerification.Proofs.Text.Pieces
import PhoneVerification.Proofs.Text.Letters
import PhoneVerification.Proofs.Text.Capitals
import PhoneVerification.Proofs.Flow.TypedCode
import PhoneVerification.Proofs.Url.Encoded
import PhoneVerification.Proofs.Url.RootedPath
import PhoneVerification.Proofs.Url.NumericHost
import PhoneVerification.Proofs.Url.AsciiName
import PhoneVerification.Proofs.Url.ReadHost
import PhoneVerification.Proofs.Url.WellFormed
import PhoneVerification.Proofs.Url.Authority
import PhoneVerification.Proofs.Url.ReadBack
import PhoneVerification.Proofs.Config.ResolvedBase
