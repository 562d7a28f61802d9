import Pipework.Net.RequestId
import Pipework.Proofs.App.Matching
import Pipework.Proofs.Builder.Agreement
import Pipework.Proofs.Builder.Cut
import Pipework.Proofs.Builder.Nested
import Pipework.Proofs.Builder.Outline
import Pipework.Proofs.Builder.Retarget
import Pipework.Proofs.Config.Override
import Pipework.Proofs.Conversion.Reach
import Pipework.Proofs.Engine.Bag
import Pipework.Proofs.Host.Bootstrap
import Pipework.Proofs.Session.Course
import Pipework.Proofs.Stage.NextParameter
import Pipework.Proofs.Telemetry.Installation
import Pipework.Proofs.Value.Invocation
import Pipework.Proofs.Workshop.Account
import Pipework.Proofs.Workshop.Sharing
