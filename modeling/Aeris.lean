import Aeris.Scheduler.EmergencyChain
import Aeris.Tunnel.SecureChannel
import Aeris.Settlement.CostWindow
import Aeris.Settlement.RequestSafety
import Aeris.Scheduler.AttemptBudget
import Aeris.Runtime.LeaseSafety
import Aeris.Runtime.UsageLimitSafety
import Aeris.Runtime.QueueSafety
import Aeris.Kiro.AnswerText
import Aeris.Routing.MutationSafety
import Aeris.Usage.DeadLetterBudget
import Aeris.Usage.WorkerDelivery
import Aeris.Tunnel.RequestFlowSafety
import Aeris.Tunnel.HubSafety
import Aeris.Wallet.AdminAdjustment
import Aeris.Wallet.RefundSafety
import Aeris.Formats.ClaudeEmitterSafety
import Aeris.Formats.UsageConversion
import Aeris.Settlement.RecoverySafety
import Aeris.Settlement.AttemptAtomicity
import Aeris.Settlement.DailyQuota
import Aeris.Billing.TokenQuantities
import Aeris.Kiro.DecoderLiveness
import Aeris.Privacy.Redaction
