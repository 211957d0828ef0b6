import ApiGateway.Lib.Decimal

/-!
# Groups, retries and prices

A token of the group `auto` is served by the first of the user's automatic groups that has a
channel, and a retry may move on to the next one. Prices are multiplied by the ratio of the group.

The price of a request is worked out before the first attempt: by ratios per token, by a fixed
price, or by a tiered expression, which is put into a snapshot together with the ratio of the group.
When a retry selects a channel the ratio in the price data is worked out again.
-/

namespace ApiGateway

open Decimal

/-! ## Group ratios -/

structure GroupSettings where
  groupRatio : String → Option ℚ := fun _ => none
  /-- The ratio of a group for the users of another one. -/
  groupGroupRatio : String → String → Option ℚ := fun _ _ => none
  quotaPerUnit : ℚ := 500000

def GroupSettings.getGroupRatio (settings : GroupSettings) (group : String) : ℚ :=
  (settings.groupRatio group).getD 1

/-- The ratio a user of `userGroup` pays in `usingGroup`. -/
def GroupSettings.ratioOf (settings : GroupSettings) (userGroup usingGroup : String) : ℚ :=
  (settings.groupGroupRatio userGroup usingGroup).getD (settings.getGroupRatio usingGroup)

/-! ## Prices -/

/-- The price data, without the group. -/
structure ModelRates where
  usePrice : Bool := false
  modelPrice : ℚ := 0
  modelRatio : ℚ := 0
  completionRatio : ℚ := 0
  cacheRatio : ℚ := 0
  imageRatio : ℚ := 0
  cacheCreationRatio : ℚ := 0
  cacheCreation5mRatio : ℚ := 0
  cacheCreation1hRatio : ℚ := 0
  otherRatios : List ℚ := []

/-- How a model is priced. A tiered expression gives a cost for the estimate and for the
actual tokens, or fails. -/
inductive ModelPricing (Params : Type) where
  | rates (rates : ModelRates)
  | tiered (estimate : ℚ) (cost : Params → Option ℚ)

structure BillingSnapshot (Params : Type) where
  cost : Params → Option ℚ
  groupRatio : ℚ
  estimatedQuotaBeforeGroup : ℚ
  estimatedQuotaAfterGroup : ℤ
  quotaPerUnit : ℚ

def quotaRound (q : ℚ) : ℤ := round0 q

section Relay

variable {Params : Type}

/-- What the relay info and the context have about groups and prices. -/
structure PricedInfo (Params : Type) where
  userGroup : String
  usingGroup : String
  /-- The automatic group in the context. -/
  autoGroup : Option String := none
  autoGroupIndex : Nat := 0
  retry : Nat := 0
  resetNextTry : Bool := false
  /-- The group whose channel was selected last. -/
  servingGroup : String
  rates : ModelRates := {}
  groupRatio : ℚ := 1
  snapshot : Option (BillingSnapshot Params) := none

/-- The ratio of the group in the context, which becomes the group in use. -/
def handleGroupRatio (settings : GroupSettings) (info : PricedInfo Params) :
    ℚ × PricedInfo Params :=
  let usingGroup := info.autoGroup.getD info.usingGroup
  (settings.ratioOf info.userGroup usingGroup, { info with usingGroup := usingGroup })

def modelPriceHelper (settings : GroupSettings) (pricing : ModelPricing Params)
    (info : PricedInfo Params) : PricedInfo Params :=
  let ratio := (handleGroupRatio settings info).1
  let info := (handleGroupRatio settings info).2
  match pricing with
  | .rates rates => { info with rates := rates, groupRatio := ratio }
  | .tiered estimate cost =>
    let quotaBeforeGroup := estimate / 1000000 * settings.quotaPerUnit
    { info with
      rates := {}
      groupRatio := ratio
      snapshot := some
        { cost := cost
          groupRatio := ratio
          estimatedQuotaBeforeGroup := quotaBeforeGroup
          estimatedQuotaAfterGroup := quotaRound (quotaBeforeGroup * ratio)
          quotaPerUnit := settings.quotaPerUnit } }

/-! ## Selecting a channel -/

structure SelectSettings where
  retryTimes : Nat
  crossGroupRetry : Bool
  autoGroups : List String

/-- Search the groups from index `i` on. `available group priority` says whether the group
has a channel for the model. -/
def selectFrom (settings : SelectSettings) (available : String → Nat → Bool) (start : Nat) :
    Nat → List String → PricedInfo Params → Option (PricedInfo Params)
  | _, [], _ => none
  | i, group :: groups, info =>
    let priorityRetry := if start < i then 0 else info.retry
    if available group priorityRetry then
      let info := { info with autoGroup := some group, servingGroup := group }
      if settings.crossGroupRetry ∧ settings.retryTimes ≤ priorityRetry then
        some { info with autoGroupIndex := i + 1, retry := 0, resetNextTry := true }
      else some { info with autoGroupIndex := i }
    else
      selectFrom settings available start (i + 1) groups
        { info with autoGroupIndex := i + 1, retry := 0 }

def cacheGetRandomSatisfiedChannel (settings : SelectSettings) (available : String → Nat → Bool)
    (info : PricedInfo Params) : Option (PricedInfo Params) :=
  selectFrom settings available info.autoGroupIndex info.autoGroupIndex
    (settings.autoGroups.drop info.autoGroupIndex) info

def increaseRetry (info : PricedInfo Params) : PricedInfo Params :=
  if info.resetNextTry then { info with resetNextTry := false }
  else { info with retry := info.retry + 1 }

inductive SelectErr where
  | noAvailableChannel
deriving DecidableEq

/-- A retry: the counter goes up, a channel is selected, and the ratio in the price data is
worked out again. -/
def retryChannel (settings : GroupSettings) (select : SelectSettings)
    (available : String → Nat → Bool) (info : PricedInfo Params) :
    Except SelectErr (PricedInfo Params) :=
  match cacheGetRandomSatisfiedChannel select available (increaseRetry info) with
  | none => .error .noAvailableChannel
  | some info' =>
    let refreshed := handleGroupRatio settings info'
    .ok { refreshed.2 with groupRatio := refreshed.1 }

/-! ## Settlement -/

/-- The tokens of a text request by kind, and the price of the tools it called. -/
structure TextTokens where
  promptTokens : ℚ
  completionTokens : ℚ
  totalTokens : ℚ
  cacheTokens : ℚ := 0
  cacheCreationTokens : ℚ := 0
  cacheCreationTokens5m : ℚ := 0
  cacheCreationTokens1h : ℚ := 0
  imageTokens : ℚ := 0
  audioTokens : ℚ := 0
  audioInputPrice : ℚ := 0
  isClaude : Bool := false
  toolPrice : ℚ := 0

variable (tokens : TextTokens)

/-- The price of the tools for a group. -/
def TextTokens.surcharge (groupRatio quotaPerUnit : ℚ) : ℚ :=
  tokens.toolPrice * groupRatio * quotaPerUnit

def TextTokens.creationWithRatio (rates : ModelRates) : ℚ :=
  if tokens.isClaude then
    max (tokens.cacheCreationTokens - tokens.cacheCreationTokens5m -
        tokens.cacheCreationTokens1h) 0 * rates.cacheCreationRatio +
      tokens.cacheCreationTokens5m * rates.cacheCreation5mRatio +
      tokens.cacheCreationTokens1h * rates.cacheCreation1hRatio
  else tokens.cacheCreationTokens * rates.cacheCreationRatio

/-- Prompt tokens that are charged as such. -/
def TextTokens.baseTokens : ℚ :=
  tokens.promptTokens -
    (if tokens.isClaude then 0 else tokens.cacheTokens + tokens.cacheCreationTokens) -
    tokens.imageTokens - (if 0 < tokens.audioInputPrice then tokens.audioTokens else 0)

def calculateTextQuota (rates : ModelRates) (groupRatio quotaPerUnit : ℚ)
    (tokens : TextTokens) : ℤ :=
  let ratio := rates.modelRatio * groupRatio
  let others := rates.otherRatios.prod
  let quota :=
    if rates.usePrice then
      round0 ((rates.modelPrice * quotaPerUnit * groupRatio +
        tokens.surcharge groupRatio quotaPerUnit) * others)
    else
      let audioQuota := if 0 < tokens.audioInputPrice then
          tokens.audioInputPrice / 1000000 * tokens.audioTokens * groupRatio * quotaPerUnit
        else 0
      let promptQuota := tokens.baseTokens + tokens.cacheTokens * rates.cacheRatio +
        tokens.imageTokens * rates.imageRatio + tokens.creationWithRatio rates
      let total := ((promptQuota + tokens.completionTokens * rates.completionRatio) * ratio +
        tokens.surcharge groupRatio quotaPerUnit + audioQuota) * others
      round0 (if ratio ≠ 0 ∧ total ≤ 0 then 1 else total)
  if tokens.totalTokens = 0 then 0
  else if ratio ≠ 0 ∧ quota = 0 then 1
  else quota

/-- The quota of the expression, with the tools on top. One that fails is settled at what was
pre-consumed, or at the estimate. -/
def tieredTextQuota (snapshot : BillingSnapshot Params) (params : Params)
    (finalPreConsumedQuota : ℤ) (surcharge : ℚ) : ℤ :=
  match snapshot.cost params with
  | some cost =>
    let quotaBeforeGroup := cost / 1000000 * snapshot.quotaPerUnit
    if surcharge = 0 then quotaRound (quotaBeforeGroup * snapshot.groupRatio)
    else round0 (quotaBeforeGroup * snapshot.groupRatio + surcharge)
  | none =>
    let quota := if finalPreConsumedQuota ≤ 0 then snapshot.estimatedQuotaAfterGroup
      else finalPreConsumedQuota
    if surcharge = 0 then quota else quota + round0 surcharge

/-- The quota a text request is settled at. -/
def postTextConsumeQuota (settings : GroupSettings) (info : PricedInfo Params)
    (tokens : TextTokens) (params : Params) (finalPreConsumedQuota : ℤ) : ℤ :=
  match info.snapshot with
  | none => calculateTextQuota info.rates info.groupRatio settings.quotaPerUnit tokens
  | some snapshot =>
    tieredTextQuota snapshot params finalPreConsumedQuota
      (tokens.surcharge info.groupRatio settings.quotaPerUnit)

end Relay

end ApiGateway
