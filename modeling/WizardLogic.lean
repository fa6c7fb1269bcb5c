import WizardLogic.Engine.Custom
import WizardLogic.Engine.Event
import WizardLogic.Remote.Client
import WizardLogic.State.Views
import WizardLogic.Store.Directory
import WizardLogic.Store.Memory
import WizardLogic.Proofs.Document.RoundTrip
import WizardLogic.Proofs.Run.Loops
import WizardLogic.Proofs.Condition.NegationNormal
import WizardLogic.Proofs.Run.Rearranged
import WizardLogic.Proofs.Json.RoundTrip
import WizardLogic.Proofs.Template.Image
import WizardLogic.Proofs.Template.RoundTrip
import WizardLogic.Proofs.Document.Nulls
import WizardLogic.Proofs.Store.RoundTrip
import WizardLogic.Proofs.Siblings.Deletion
import WizardLogic.Proofs.Run.Session
import WizardLogic.Proofs.Descriptor.Registration
import WizardLogic.Proofs.Descriptor.Offline
import WizardLogic.Proofs.Run.Trace
import WizardLogic.Proofs.Run.Bindings
import WizardLogic.Proofs.Condition.Equality
import WizardLogic.Proofs.Condition.Remote
import WizardLogic.Proofs.Run.Failure
import WizardLogic.Proofs.Run.Choice
import WizardLogic.Proofs.State.Views
import WizardLogic.Proofs.Remote.Request
import WizardLogic.Proofs.Remote.Headers
import WizardLogic.Proofs.Remote.JsonBody
import WizardLogic.Proofs.Context.Nested
import WizardLogic.Proofs.Remote.Texts
import WizardLogic.Proofs.Run.StepName
import WizardLogic.Proofs.Template.Lenient
import WizardLogic.Proofs.Condition.FirstKey
import WizardLogic.Proofs.Store.Listing
import WizardLogic.Proofs.Settings.Kinds
import WizardLogic.Proofs.Siblings.Exact
import WizardLogic.Proofs.Run.Dispatch
import WizardLogic.Proofs.Settings.Precedence
