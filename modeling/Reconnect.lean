import Reconnect.Binary64.Bits
import Reconnect.Binary64.Text
import Reconnect.Jitter
import Reconnect.Pacer.Run
import Reconnect.Policy
import Reconnect.Preset
import Reconnect.Proofs.Binary64.Order
import Reconnect.Proofs.Binary64.Power
import Reconnect.Proofs.Duration.Seconds
import Reconnect.Proofs.Policy.Cap
import Reconnect.Proofs.Policy.Growth
import Reconnect.Proofs.Policy.IntegerGrowth
import Reconnect.Proofs.Jitter.Draws
import Reconnect.Proofs.Pacer.Run
import Reconnect.Proofs.Policy.JitterRange
import Reconnect.Proofs.Pacer.Envelope
import Reconnect.Proofs.Pacer.ExactRamp
import Reconnect.Proofs.Pacer.Counts
import Reconnect.Proofs.Pacer.Budget
import Reconnect.Proofs.Pacer.Lockstep
import Reconnect.Proofs.Pacer.FreshStart
import Reconnect.Proofs.Pacer.NoFeedback
import Reconnect.Proofs.Decimal
import Reconnect.Proofs.Duration.Text
import Reconnect.Proofs.Pacer.Waits
import Reconnect.Proofs.Pacer.Log
import Reconnect.Proofs.Pacer.Words
import Reconnect.Proofs.Binary64.Text
import Reconnect.Proofs.Binary64.Bits
import Reconnect.Proofs.Fault.Wording
import Reconnect.Proofs.Binary64.Place
import Reconnect.Proofs.Binary64.Unit
import Reconnect.Proofs.Policy.Equality
import Reconnect.Proofs.Pacer.Equality
import Reconnect.Proofs.Binary64.PowerError
import Reconnect.Proofs.Policy.Accuracy
import Reconnect.Proofs.Binary64.Sign
import Reconnect.Proofs.Policy.ZeroBase
import Reconnect.Proofs.Policy.Shrinking
import Reconnect.Proofs.Policy.Saturation
import Reconnect.Proofs.Policy.Mirror
import Reconnect.Proofs.Pacer.Sweep
import Reconnect.Proofs.Text.Blank
import Reconnect.Proofs.Preset.Spelling
import Reconnect.Proofs.Duration.Closest
import Reconnect.Proofs.Duration.RoundTrip
