import CallCapture.Session.Run
import CallCapture.Proofs.Action
import CallCapture.Proofs.History
import CallCapture.Proofs.Course
import CallCapture.Proofs.Follow
import CallCapture.Proofs.Gate
import CallCapture.Proofs.Captures
import CallCapture.Proofs.Commands
import CallCapture.Proofs.Evaluation
import CallCapture.Proofs.Reach
import CallCapture.Proofs.Levels
import CallCapture.Proofs.Restoration
import CallCapture.Proofs.Recording
import CallCapture.Proofs.Exactness
import CallCapture.Proofs.Release
import CallCapture.Proofs.Steps
import CallCapture.Proofs.Orderly
import CallCapture.Proofs.Interleaving
import CallCapture.Proofs.EmissionLog
import CallCapture.Proofs.Protocol
import CallCapture.Proofs.Reentrancy
import CallCapture.Proofs.Outermost
import CallCapture.Proofs.JsonReading
import CallCapture.Proofs.JsonRoundTrip
import CallCapture.Proofs.FileTree
import CallCapture.Proofs.ManifestFiles
import CallCapture.Proofs.DiskAgreement
import CallCapture.Proofs.FailedEmission
import CallCapture.Proofs.SpacedText
import CallCapture.Proofs.PlainReading
import CallCapture.Proofs.QuotedReading
import CallCapture.Proofs.BlockReading
import CallCapture.Proofs.TokenStream
import CallCapture.Proofs.TokenSteps
import CallCapture.Proofs.ScalarTokens
import CallCapture.Proofs.BlockTokens
import CallCapture.Proofs.ExplicitKeys
import CallCapture.Proofs.NameStyles
import CallCapture.Proofs.AcceptableNames
import CallCapture.Proofs.DocumentTokens
import CallCapture.Proofs.DocumentWalk
import CallCapture.Proofs.PreferenceDecoding
import CallCapture.Proofs.DecodedUnits
import CallCapture.Proofs.PreferencesSaved
import CallCapture.Proofs.Registrations
import CallCapture.Proofs.Calls
import CallCapture.Proofs.Transparency
import CallCapture.Proofs.Asides
import CallCapture.Proofs.Frames
import CallCapture.Proofs.Dispatches
import CallCapture.Proofs.ForeignEnds
import CallCapture.Proofs.EvaluationSteps
import CallCapture.Proofs.SignatureText
import CallCapture.Proofs.CapturedLines
import CallCapture.Proofs.FlagTable
import CallCapture.Proofs.Towers
import CallCapture.Proofs.AloofActions
import CallCapture.Proofs.AloofCommands
import CallCapture.Proofs.FlagReads
import CallCapture.Proofs.Rests
import CallCapture.Proofs.ScopeSampling
import CallCapture.Proofs.CaptureSets
import CallCapture.Proofs.OwnManifest
import CallCapture.Proofs.VerboseLog
