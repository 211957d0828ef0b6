import ApiGateway.Lib.Runs
import ApiGateway.Relay.GroupPricing

/-!
# The serving group prices the request

Three things say which group a request is priced by: the group in the context, the ratio in the
price data, and the ratio in the snapshot of a tiered expression. A retry keeps the first two with
the group that serves. The third stays with the group of the first attempt.
-/

namespace ApiGateway

open Runs

variable {Params : Type} {settings : GroupSettings} {select : SelectSettings}
variable {info info' : PricedInfo Params}
variable {available : String → Nat → Bool} {first : String}

/-- The relay info priced at a ratio: in the price data, and in the snapshot with the estimate
that goes with it. -/
def PricedInfo.pricedAt (info : PricedInfo Params) (ratio : ℚ) : PricedInfo Params :=
  { info with
    groupRatio := ratio
    snapshot := info.snapshot.map fun snapshot =>
      { snapshot with
        groupRatio := ratio
        estimatedQuotaAfterGroup := quotaRound (snapshot.estimatedQuotaBeforeGroup * ratio) } }

/-- What holds of the relay info all along, where `first` is the group of the first attempt. -/
structure PricedInv (settings : GroupSettings) (first : String) (info : PricedInfo Params) :
    Prop where
  /-- The group in the context is the one that serves. -/
  context : info.autoGroup = some info.servingGroup
  ratio : info.groupRatio = settings.ratioOf info.userGroup info.servingGroup
  /-- The snapshot is priced for the first group. -/
  snapshot : ∀ snapshot, info.snapshot = some snapshot →
    snapshot.groupRatio = settings.ratioOf info.userGroup first ∧
    snapshot.estimatedQuotaAfterGroup =
      quotaRound (snapshot.estimatedQuotaBeforeGroup * settings.ratioOf info.userGroup first)

theorem modelPriceHelper_inv (pricing : ModelPricing Params)
    (hcontext : info.autoGroup = some info.servingGroup)
    (hsnapshot : ∀ rates, pricing = .rates rates → info.snapshot = none) :
    PricedInv settings info.servingGroup (modelPriceHelper settings pricing info) := by
  cases pricing with
  | rates rates =>
    refine ⟨hcontext, ?_, fun snapshot h => ?_⟩
    · simp [modelPriceHelper, handleGroupRatio, hcontext]
    · have h' : info.snapshot = some snapshot := h
      rw [hsnapshot rates rfl] at h'
      cases h'
  | tiered =>
    refine ⟨hcontext, ?_, fun snapshot h => ?_⟩
    · simp [modelPriceHelper, handleGroupRatio, hcontext]
    simp only [modelPriceHelper, handleGroupRatio, hcontext, Option.some.injEq] at h
    subst h
    exact ⟨rfl, rfl⟩

/-! ## Retries -/

/-- What selecting a channel leaves alone. -/
structure SelectFrame (info info' : PricedInfo Params) : Prop where
  userGroup : info'.userGroup = info.userGroup
  rates : info'.rates = info.rates
  snapshot : info'.snapshot = info.snapshot

theorem selectFrom_some {start i : Nat} {groups : List String}
    (h : selectFrom select available start i groups info = some info') :
    info'.autoGroup = some info'.servingGroup ∧ SelectFrame info info' := by
  induction groups generalizing i info with
  | nil => exact nomatch h
  | cons _ _ ih =>
    unfold selectFrom at h
    dsimp only at h
    generalize (if start < i then 0 else info.retry) = priorityRetry at h
    split at h
    · split at h <;> obtain rfl := Option.some.inj h
      · exact ⟨rfl, rfl, rfl, rfl⟩
      · exact ⟨rfl, rfl, rfl, rfl⟩
    · obtain ⟨hcontext, hframe⟩ := ih h
      exact ⟨hcontext, hframe.userGroup, hframe.rates, hframe.snapshot⟩

theorem retryChannel_ok (h : retryChannel settings select available info = .ok info') :
    info'.autoGroup = some info'.servingGroup ∧
    info'.groupRatio = settings.ratioOf info'.userGroup info'.servingGroup ∧
    SelectFrame info info' := by
  unfold retryChannel at h
  cases hselect : cacheGetRandomSatisfiedChannel select available (increaseRetry info) with
  | none =>
    rw [hselect] at h
    cases h
  | some =>
    rw [hselect] at h
    obtain rfl := Except.ok.inj h
    obtain ⟨hcontext, hframe⟩ := selectFrom_some hselect
    have hretry : SelectFrame info (increaseRetry info) := by
      unfold increaseRetry
      split <;> exact ⟨rfl, rfl, rfl⟩
    refine ⟨hcontext, ?_, ?_⟩
    · simp [handleGroupRatio, hcontext]
    · exact ⟨hframe.userGroup.trans hretry.userGroup, hframe.rates.trans hretry.rates,
        hframe.snapshot.trans hretry.snapshot⟩

theorem PricedInv.retry (h : PricedInv settings first info)
    (hstep : retryChannel settings select available info = .ok info') :
    PricedInv settings first info' := by
  obtain ⟨hcontext, hratio, hframe⟩ := retryChannel_ok hstep
  refine ⟨hcontext, hratio, fun snapshot hsnapshot => ?_⟩
  rw [hframe.snapshot] at hsnapshot
  rw [hframe.userGroup]
  exact h.snapshot snapshot hsnapshot

/-- The relay info after a sequence of retries, each with the channels there were. -/
def afterRetries (settings : GroupSettings) (select : SelectSettings)
    (retries : List (String → Nat → Bool)) (info : PricedInfo Params) : PricedInfo Params :=
  run (retryChannel settings select) retries info

theorem PricedInv.afterRetries (h : PricedInv settings first info)
    (retries : List (String → Nat → Bool)) :
    PricedInv settings first (afterRetries settings select retries info) :=
  run_induction (fun _ _ _ h _ hstep => h.retry hstep) h
    (along_of_forall fun _ _ _ => trivial)

theorem afterRetries_frame (retries : List (String → Nat → Bool)) :
    SelectFrame info (afterRetries settings select retries info) := by
  refine run_induction
    ?_ ⟨rfl, rfl, rfl⟩ (along_of_forall fun _ _ _ => trivial)
  intro available s s' hs _ hstep
  obtain ⟨-, -, hframe⟩ := retryChannel_ok hstep
  exact ⟨hframe.userGroup.trans hs.userGroup, hframe.rates.trans hs.rates,
    hframe.snapshot.trans hs.snapshot⟩

/-! ## Settlement -/

/-- Priced at the ratio of the serving group, but for the snapshot of another group. -/
theorem PricedInv.pricedAt_eq (h : PricedInv settings first info) (hsame : info.snapshot ≠ none →
      settings.ratioOf info.userGroup first =
        settings.ratioOf info.userGroup info.servingGroup) :
    info.pricedAt (settings.ratioOf info.userGroup info.servingGroup) = info := by
  have hsnapshot : (info.snapshot.map fun snapshot =>
      { snapshot with
        groupRatio := settings.ratioOf info.userGroup info.servingGroup
        estimatedQuotaAfterGroup := quotaRound (snapshot.estimatedQuotaBeforeGroup *
          settings.ratioOf info.userGroup info.servingGroup) }) = info.snapshot := by
    cases hs : info.snapshot with
    | none => rfl
    | some snapshot =>
      obtain ⟨hratio, hestimate⟩ := h.snapshot snapshot hs
      rw [hsame (by simp [hs])] at hratio hestimate
      rw [Option.map_some, ← hestimate, ← hratio]
  unfold PricedInfo.pricedAt
  rw [hsnapshot, ← h.ratio]

/-- **The serving group prices the request.** After any retries, the quota is that of the request
priced at the ratio of the group that served in the end: always where the model is priced by ratios
or a fixed price, and for a tiered expression where that group and the first have the same ratio, or
where the request is priced again before it is settled. -/
theorem serving_group_prices_request (settings : GroupSettings) (select : SelectSettings)
    (pricing : ModelPricing Params) (start : PricedInfo Params)
    (hcontext : start.autoGroup = some start.servingGroup) (hsnapshot : start.snapshot = none)
    (retries : List (String → Nat → Bool)) (info : PricedInfo Params)
    (hinfo : afterRetries settings select retries
      (modelPriceHelper settings pricing start) = info)
    (tokens : TextTokens) (params : Params) (preConsumed : ℤ) :
    ((∀ estimate cost, pricing = .tiered estimate cost →
        settings.ratioOf start.userGroup start.servingGroup =
          settings.ratioOf start.userGroup info.servingGroup) →
      postTextConsumeQuota settings info tokens params preConsumed =
        postTextConsumeQuota settings
          (info.pricedAt (settings.ratioOf start.userGroup info.servingGroup))
          tokens params preConsumed) ∧
    postTextConsumeQuota settings (modelPriceHelper settings pricing info) tokens params
        preConsumed =
      postTextConsumeQuota settings ((modelPriceHelper settings pricing info).pricedAt
          (settings.ratioOf start.userGroup info.servingGroup))
        tokens params preConsumed := by
  have hinv : PricedInv settings start.servingGroup info := by
    rw [← hinfo]
    exact (modelPriceHelper_inv pricing hcontext fun _ _ => hsnapshot).afterRetries retries
  have hframe : SelectFrame (modelPriceHelper settings pricing start) info := by
    rw [← hinfo]
    exact afterRetries_frame retries
  have huser : info.userGroup = start.userGroup := by
    rw [hframe.userGroup]
    cases pricing with
    | rates | tiered => rfl
  constructor
  · intro hsame
    have hpriced : info.pricedAt (settings.ratioOf info.userGroup info.servingGroup) = info := by
      refine hinv.pricedAt_eq fun hsome => ?_
      cases pricing with
      | rates =>
        -- without a tiered expression there is no snapshot
        refine absurd ?_ hsome
        rw [hframe.snapshot]
        exact hsnapshot
      | tiered estimate cost =>
        rw [huser]
        exact hsame estimate cost rfl
    rw [← huser, hpriced]
  have hagain : PricedInv settings info.servingGroup (modelPriceHelper settings pricing info) := by
    refine modelPriceHelper_inv pricing hinv.context fun rates hrates => ?_
    subst hrates
    rw [hframe.snapshot]
    exact hsnapshot
  have hserving : (modelPriceHelper settings pricing info).servingGroup =
      info.servingGroup := by
    cases pricing with
    | rates | tiered => rfl
  have huser' : (modelPriceHelper settings pricing info).userGroup = start.userGroup := by
    rw [← huser]
    cases pricing with
    | rates | tiered => rfl
  have hpriced := hagain.pricedAt_eq fun _ => by rw [hserving]
  rw [huser', hserving] at hpriced
  rw [hpriced]

/-! ### Two groups -/

/-- Group `pro` costs twice as much as group `basic`. -/
def pricedGroups : GroupSettings where
  groupRatio := fun group => if group = "pro" then some 2 else some 1

def twoAutoGroups : SelectSettings where
  retryTimes := 1
  crossGroupRetry := true
  autoGroups := ["basic", "pro"]

/-- A request that was given a channel of group `basic`. -/
def basicStart : PricedInfo Unit :=
  { userGroup := "default", usingGroup := "auto", autoGroup := some "basic"
    servingGroup := "basic" }

/-- An expression that costs 1000 whatever the tokens. -/
def flatTiered : ModelPricing Unit := .tiered 1000 fun _ => some 1000

def perToken : ModelPricing Unit := .rates { modelRatio := 1, completionRatio := 1 }

def someTokens : TextTokens := { promptTokens := 300, completionTokens := 200, totalTokens := 500 }

/-- Only group `pro` has a channel left. -/
def onlyPro : List (String → Nat → Bool) := [fun group _ => group == "pro"]

theorem serving_group_prices_request_pro :
    postTextConsumeQuota pricedGroups (afterRetries pricedGroups twoAutoGroups onlyPro
      (modelPriceHelper pricedGroups perToken basicStart)) someTokens () 0 =
    postTextConsumeQuota pricedGroups ((afterRetries pricedGroups twoAutoGroups onlyPro
      (modelPriceHelper pricedGroups perToken basicStart)).pricedAt
        (pricedGroups.ratioOf "default" (afterRetries pricedGroups twoAutoGroups onlyPro
          (modelPriceHelper pricedGroups perToken basicStart)).servingGroup)) someTokens () 0 :=
  (serving_group_prices_request pricedGroups twoAutoGroups perToken basicStart rfl rfl onlyPro _ rfl
    someTokens () 0).1 fun _ _ h => nomatch h

/-- **A tiered model is charged at the ratio of the group that failed**: 500 of group `basic`, where
group `pro` served, for 1000. -/
theorem tiered_priced_by_first_group :
    (afterRetries pricedGroups twoAutoGroups onlyPro
      (modelPriceHelper pricedGroups flatTiered basicStart)).servingGroup = "pro" ∧
    postTextConsumeQuota pricedGroups (afterRetries pricedGroups twoAutoGroups onlyPro
      (modelPriceHelper pricedGroups flatTiered basicStart)) someTokens () 0 = 500 ∧
    postTextConsumeQuota pricedGroups ((afterRetries pricedGroups twoAutoGroups onlyPro
      (modelPriceHelper pricedGroups flatTiered basicStart)).pricedAt
        (pricedGroups.ratioOf "default" "pro")) someTokens () 0 = 1000 :=
  ⟨by decide +kernel, by decide +kernel, by decide +kernel⟩

end ApiGateway
