import LateBinding.Config.Disk
import LateBinding.Session
import LateBinding.Symbol.Interleaving
import LateBinding.Symbol.Registry
import LateBinding.Proofs.Text.Odometer
import LateBinding.Proofs.Text.Orbit
import LateBinding.Proofs.Text.Order
import LateBinding.Proofs.Text.Counting
import LateBinding.Proofs.Text.Literal
import LateBinding.Proofs.Symbol.Canonical
import LateBinding.Proofs.Symbol.Client
import LateBinding.Proofs.Symbol.Accounting
import LateBinding.Proofs.Symbol.Interleaving
import LateBinding.Proofs.Symbol.Display
import LateBinding.Proofs.Symbol.Grammar
import LateBinding.Proofs.Text.Utf8
import LateBinding.Proofs.Symbol.Bytes
import LateBinding.Proofs.Value.Nesting
import LateBinding.Proofs.Value.Equality
import LateBinding.Proofs.Value.Identity
import LateBinding.Proofs.Value.Display
import LateBinding.Proofs.Value.Intact
import LateBinding.Proofs.Machine.Contract
import LateBinding.Proofs.Method.Scalar
import LateBinding.Proofs.Method.Text
import LateBinding.Proofs.Method.Container
import LateBinding.Proofs.Method.System
import LateBinding.Proofs.Method.Contract
import LateBinding.Proofs.Machine.Frame
import LateBinding.Proofs.Machine.Definitions
import LateBinding.Proofs.Machine.Dispatch
import LateBinding.Proofs.Machine.Responding
import LateBinding.Proofs.Machine.Message
import LateBinding.Proofs.Machine.Conversion
import LateBinding.Proofs.Method.Equality
import LateBinding.Proofs.Machine.Effect
import LateBinding.Proofs.Machine.Binding
import LateBinding.Proofs.Machine.Calling
import LateBinding.Proofs.Machine.Safety
import LateBinding.Proofs.Machine.Naming
import LateBinding.Proofs.Method.Blind
import LateBinding.Proofs.Method.Likeness
import LateBinding.Proofs.Method.Part
import LateBinding.Proofs.Pattern.Search
import LateBinding.Proofs.Method.Offset
import LateBinding.Proofs.Method.Selection
import LateBinding.Proofs.Method.StringConversion
import LateBinding.Proofs.Method.Affix
import LateBinding.Proofs.Storing
import LateBinding.Proofs.Value.Unchanged
import LateBinding.Proofs.Method.Mapping
import LateBinding.Proofs.Renaming.Value
import LateBinding.Proofs.Renaming.Machine
import LateBinding.Proofs.Renaming.Text
import LateBinding.Proofs.Renaming.Container
import LateBinding.Proofs.Renaming.Send
import LateBinding.Proofs.Renaming.Configuration
import LateBinding.Proofs.Number.Shortest
import LateBinding.Proofs.Number.DoubleText
import LateBinding.Proofs.Text.Casing
import LateBinding.Proofs.Text.Collation
import LateBinding.Proofs.Method.Comparison
import LateBinding.Proofs.Method.ImplicitConversion
import LateBinding.Proofs.Value.Showing
import LateBinding.Proofs.Value.Growth
import LateBinding.Proofs.Method.Display
import LateBinding.Proofs.Machine.Attributes
import LateBinding.Proofs.Method.Sending
import LateBinding.Proofs.Machine.Forwarding
import LateBinding.Proofs.Accounts.Lookup
import LateBinding.Proofs.Config.Disk
