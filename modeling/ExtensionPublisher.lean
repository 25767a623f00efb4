import ExtensionPublisher.Main
import ExtensionPublisher.Proofs.Wait.Course
import ExtensionPublisher.Proofs.Wait.Outcome
import ExtensionPublisher.Proofs.Wait.Turns
import ExtensionPublisher.Proofs.Wait.Bounds
import ExtensionPublisher.Proofs.Wait.Cancellation
import ExtensionPublisher.Proofs.Http.Recorded
import ExtensionPublisher.Proofs.Client.Blame
import ExtensionPublisher.Proofs.Client.Recorded
import ExtensionPublisher.Proofs.Program.Ending
import ExtensionPublisher.Proofs.Url.Path
import ExtensionPublisher.Proofs.Url.Division
import ExtensionPublisher.Proofs.Client.Resource
import ExtensionPublisher.Proofs.Http.Resource
import ExtensionPublisher.Proofs.Http.First
import ExtensionPublisher.Proofs.Client.Single
import ExtensionPublisher.Proofs.Client.Polling
import ExtensionPublisher.Proofs.Xml.Prefix
import ExtensionPublisher.Proofs.Answer.Truncation
import ExtensionPublisher.Proofs.Wait.Patience
import ExtensionPublisher.Proofs.Client.Questions
import ExtensionPublisher.Proofs.Text.Trim
import ExtensionPublisher.Proofs.Xml.Markup
import ExtensionPublisher.Proofs.Xml.Scanned
import ExtensionPublisher.Proofs.Xml.Grammar
import ExtensionPublisher.Proofs.Xml.Spelling
import ExtensionPublisher.Proofs.Xml.Spacing
import ExtensionPublisher.Proofs.Xml.Fields
import ExtensionPublisher.Proofs.Answer.RoundTrip
import ExtensionPublisher.Proofs.Answer.Manifest
import ExtensionPublisher.Proofs.Wait.Endless
import ExtensionPublisher.Proofs.Text.Utf8
import ExtensionPublisher.Proofs.Http.Delivered
import ExtensionPublisher.Proofs.Client.Interchange
import ExtensionPublisher.Proofs.Xml.Children
import ExtensionPublisher.Proofs.Xml.Records
import ExtensionPublisher.Proofs.Answer.Complete
import ExtensionPublisher.Proofs.Xml.Arranged
import ExtensionPublisher.Proofs.Answer.Arrangement
import ExtensionPublisher.Proofs.Answer.Rooted
import ExtensionPublisher.Proofs.Client.Direct
import ExtensionPublisher.Proofs.Manifest.Form
import ExtensionPublisher.Proofs.Manifest.Placeholder
import ExtensionPublisher.Proofs.Client.Named
import ExtensionPublisher.Proofs.Program.Submission
import ExtensionPublisher.Proofs.Http.Escaped
import ExtensionPublisher.Proofs.Answer.Reasons
import ExtensionPublisher.Proofs.Certificate.Joined
import ExtensionPublisher.Proofs.Certificate.Pair
import ExtensionPublisher.Proofs.Wait.Clock
import ExtensionPublisher.Proofs.Wait.Succession
import ExtensionPublisher.Proofs.Listing.Regions
import ExtensionPublisher.Proofs.Wait.Decision
import ExtensionPublisher.Proofs.CommandLine.Given
import ExtensionPublisher.Proofs.CommandLine.Choice
import ExtensionPublisher.Proofs.Certificate.Written
import ExtensionPublisher.Proofs.Certificate.Bundle
