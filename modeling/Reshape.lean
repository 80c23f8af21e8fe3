import Reshape.Transform
import Reshape.Value.Equality
import Reshape.Document.Options
import Reshape.Store.Builder
import Reshape.Proofs.Depth
import Reshape.Proofs.Lookups
import Reshape.Proofs.Acyclic
import Reshape.Proofs.Traceback
import Reshape.Proofs.AttachedFailure
import Reshape.Proofs.Context
import Reshape.Proofs.FanOut
import Reshape.Proofs.UserCode
import Reshape.Proofs.Locality
import Reshape.Proofs.Recovery
import Reshape.Proofs.PathRendering
import Reshape.Proofs.Building
import Reshape.Proofs.Extension
import Reshape.Proofs.Independence
import Reshape.Proofs.Encoding
import Reshape.Proofs.JsonTokens
import Reshape.Proofs.RoundTrip
import Reshape.Proofs.Selection
import Reshape.Proofs.Keywise
import Reshape.Proofs.Elementwise
import Reshape.Proofs.WorkingValue
import Reshape.Proofs.RecordView
import Reshape.Proofs.PathFusion
import Reshape.Proofs.ReducerGrammar
import Reshape.Proofs.MapFusion
import Reshape.Proofs.Nesting
import Reshape.Proofs.PathFaults
import Reshape.Proofs.FormFields
import Reshape.Proofs.Shorthand
import Reshape.Proofs.Propagation
import Reshape.Proofs.Validation
import Reshape.Proofs.Equality
import Reshape.Proofs.NumericKeys
