import ApiGateway.Proof.WithdrawSettlement
import ApiGateway.Proof.PayoutApproval
import ApiGateway.Proof.WalletCoherence
import ApiGateway.Proof.CommissionLevels
import ApiGateway.Proof.RealtimeTasks
import ApiGateway.Proof.SunoTasks
import ApiGateway.Proof.SubscriptionRefund
import ApiGateway.Proof.SubscriptionGroups
import ApiGateway.Proof.VipSnapshot
import ApiGateway.Proof.BucketOwners
import ApiGateway.Proof.BucketRaces
import ApiGateway.Proof.ReferralForest
import ApiGateway.Proof.HeaderOverride
import ApiGateway.Proof.TieredBilling
import ApiGateway.Proof.GroupPricing
import ApiGateway.Proof.ClaudeProtocol
import ApiGateway.Proof.ClaudeTranslate
import ApiGateway.Proof.ResponsesToChat
import ApiGateway.Proof.QiniuFunding
import ApiGateway.Proof.GrantedQuota
import ApiGateway.Proof.SubscriptionOrders
import ApiGateway.Proof.Fetch
import ApiGateway.Proof.PhoneVerification
import ApiGateway.Proof.LocalUsage
import ApiGateway.Proof.PiggyAmounts
import ApiGateway.Proof.SubscriptionUsage
import ApiGateway.Proof.SubscriptionJobs
import ApiGateway.Proof.ModelRateLimit
import ApiGateway.Proof.StreamScanner
import ApiGateway.Proof.ParamOverride
import ApiGateway.Proof.ExprCache
import ApiGateway.Proof.BatchUpdate
import ApiGateway.Proof.ChannelKeys
import ApiGateway.Proof.MemoryRateLimit
import ApiGateway.Proof.ThinkTags
import ApiGateway.Proof.ChannelAffinity
import ApiGateway.Proof.PiggyCrypto
