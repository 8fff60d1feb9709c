import Wiring.Component.Draft
import Wiring.Container.Creation
import Wiring.Settings.Load
import Wiring.Proofs.Invocation.Recursion
import Wiring.Proofs.Container.Rollback
import Wiring.Proofs.Container.Cycle
import Wiring.Proofs.Container.Crew
import Wiring.Proofs.Container.Forest
import Wiring.Proofs.Container.Cancellation
import Wiring.Proofs.Container.Replacement
import Wiring.Proofs.Container.Outliving
import Wiring.Proofs.Container.Furnishing
import Wiring.Proofs.Handover.Arguments
import Wiring.Proofs.Definition.Fallback
import Wiring.Proofs.Definition.Enclosure
import Wiring.Proofs.Invocation.Life
import Wiring.Proofs.Catalog.Roster
import Wiring.Proofs.Definition.Resolution
import Wiring.Proofs.Definition.Wrapping
import Wiring.Proofs.Definition.Interleaved
import Wiring.Proofs.Injection.Once
import Wiring.Proofs.Definition.Transparent
import Wiring.Proofs.Container.Depth
import Wiring.Proofs.Container.Tour
import Wiring.Proofs.Container.Belonging
import Wiring.Proofs.Injection.Cut
import Wiring.Proofs.Definition.Outcome
import Wiring.Proofs.Container.Blame
import Wiring.Proofs.Component.Demands
import Wiring.Proofs.Definition.Callbacks
import Wiring.Proofs.Definition.Dispatch
import Wiring.Proofs.Definition.Enlisting
import Wiring.Proofs.Invocation.Enrolled
import Wiring.Proofs.Invocation.Parameters
import Wiring.Proofs.Definition.Declared
import Wiring.Proofs.Invocation.Slot
import Wiring.Proofs.Settings.Load
import Wiring.Proofs.Text.Quoted
