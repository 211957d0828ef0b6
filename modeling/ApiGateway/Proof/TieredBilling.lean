import ApiGateway.Service.TieredBilling

/-!
# The parameters do not depend on the report

Every input token should be counted once: in the variable of its category if the expression has one,
in `p` if not. Claude
reports keep `p` at the plain text, so they are right only where the expression prices every
category that occurs. And one that does not split the cache creation loses it.
-/

namespace ApiGateway

/-- What a request consumed. -/
structure Consumption where
  text : Nat
  cacheRead : Nat
  creation5m : Nat
  creation1h : Nat
  output : Nat

variable {k : Consumption} {used : UsedVars}

def Consumption.input (k : Consumption) : Int :=
  k.text + k.cacheRead + k.creation5m + k.creation1h

/-- How a consumption is reported, with the two marks of its format. -/
inductive UsageReport where
  /-- Not marked, for a request that was not sent in the Claude format. -/
  | openai
  /-- Marked as OpenAI, whatever the format of the request. -/
  | openaiMarked (finalRequestIsClaude : Bool)
  /-- From a Claude response, with the cache creation split by its lifetime or not. -/
  | claude (split finalRequestIsClaude : Bool)
  /-- In the Claude format and not marked, for a request that was sent in it. -/
  | claudeUnmarked

def Consumption.openaiUsage (k : Consumption) (semantic : UsageSemantic) : Usage where
  promptTokens := k.input
  completionTokens := k.output
  cachedTokens := k.cacheRead
  cachedCreationTokens := k.creation5m + k.creation1h
  usageSemantic := semantic

def Consumption.claudeUsage (k : Consumption) (split : Bool) : ClaudeUsage where
  inputTokens := k.text
  outputTokens := k.output
  cacheReadInputTokens := k.cacheRead
  cacheCreationInputTokens := k.creation5m + k.creation1h
  cacheCreation := if split then some ⟨k.creation5m, k.creation1h⟩ else none

def UsageReport.usage (k : Consumption) : UsageReport → Usage
  | .openai => k.openaiUsage .unset
  | .openaiMarked _ => k.openaiUsage .openai
  | .claude split _ => handleClaudeResponseData (k.claudeUsage split)
  | .claudeUnmarked =>
    { promptTokens := k.text
      completionTokens := k.output
      cachedTokens := k.cacheRead
      cachedCreationTokens := k.creation5m + k.creation1h }

def UsageReport.finalRequestIsClaude : UsageReport → Bool
  | .openai => false
  | .openaiMarked final => final
  | .claude _ final => final
  | .claudeUnmarked => true

def UsageReport.params (report : UsageReport) (k : Consumption) (used : UsedVars) : TokenParams :=
  postTextTokenParams report.finalRequestIsClaude (report.usage k) used

structure SameParams (a b : TokenParams) : Prop where
  p : a.p = b.p
  c : a.c = b.c
  len : a.len = b.len
  cr : a.cr = b.cr
  creation : a.cc + a.cc1h = b.cc + b.cc1h

/-- Every input token is counted in `p` or in a variable of the expression, and once. -/
def CountedOnce (k : Consumption) (used : UsedVars) (params : TokenParams) : Prop :=
  params.p + priced used.cr params.cr + priced used.cc params.cc +
    priced used.cc1h params.cc1h = k.input

/-- The categories that occur and that the expression has to price itself. -/
def UsageReport.Fits (k : Consumption) (used : UsedVars) : UsageReport → Prop
  | .openai | .openaiMarked _ => True
  | .claude true _ =>
    (used.cr = true ∨ k.cacheRead = 0) ∧
    (used.cc = true ∨ k.creation5m + k.creation1h = 0) ∧
    (used.cc1h = true ∨ k.creation1h = 0)
  | .claude false _ => (used.cr = true ∨ k.cacheRead = 0) ∧ k.creation5m + k.creation1h = 0
  | .claudeUnmarked =>
    (used.cr = true ∨ k.cacheRead = 0) ∧ (used.cc = true ∨ k.creation5m + k.creation1h = 0)

/-! ## The parameters of each report -/

theorem priced_cases (used : Bool) (tokens : Int) :
    used = true ∧ priced used tokens = tokens ∨ used = false ∧ priced used tokens = 0 := by
  cases used with
  | true => exact .inl ⟨rfl, rfl⟩
  | false => exact .inr ⟨rfl, rfl⟩

theorem clamp_of_nonneg {n : Int} (h : 0 ≤ n) : (if n < 0 then 0 else n) = n :=
  if_neg (by omega)

theorem openaiUsage_params (semantic : UsageSemantic) (hsem : semantic ≠ .anthropic) :
    buildTieredTokenParams (k.openaiUsage semantic) false used =
      { p := k.input - priced used.cr k.cacheRead - priced used.cc (k.creation5m + k.creation1h)
        c := k.output
        len := k.input
        cr := k.cacheRead
        cc := k.creation5m + k.creation1h
        cc1h := 0, img := 0, imgO := 0, ai := 0, ao := 0 } := by
  have hzero : ∀ used, priced used 0 = 0 := by intro used; cases used <;> rfl
  have hp : 0 ≤ k.input - priced used.cr k.cacheRead -
      priced used.cc (k.creation5m + k.creation1h) := by
    rcases priced_cases used.cr k.cacheRead with ⟨-, hcr⟩ | ⟨-, hcr⟩ <;>
      rcases priced_cases used.cc (k.creation5m + k.creation1h) with ⟨-, hcc⟩ | ⟨-, hcc⟩ <;>
      rw [Consumption.input] <;> omega
  have hc : (0 : Int) ≤ k.output := by omega
  simp only [buildTieredTokenParams, Consumption.openaiUsage, hsem, hzero, Bool.false_eq_true,
    if_false, Int.sub_zero, clamp_of_nonneg hp, clamp_of_nonneg hc]

theorem countedOnce_openai (semantic : UsageSemantic) (hsem : semantic ≠ .anthropic) :
    CountedOnce k used (buildTieredTokenParams (k.openaiUsage semantic) false used) := by
  rw [openaiUsage_params semantic hsem]
  have hzero : priced used.cc1h 0 = 0 := by cases used.cc1h <;> rfl
  simp only [CountedOnce]
  omega

variable {params : TokenParams}

/-- A report in the Claude format, by the creation tokens `cc` and `cc1h` it leaves. -/
theorem claude_right_iff (hp : params.p = k.text) (hc : params.c = k.output)
    (hcr : params.cr = k.cacheRead)
    (hlen : params.len = k.text + params.cr + params.cc + params.cc1h) :
    SameParams params (UsageReport.params .openai k used) ∧ CountedOnce k used params ↔
      (used.cr = true ∨ k.cacheRead = 0) ∧
      (used.cc = true ∨ k.creation5m + k.creation1h = 0) ∧
      params.cc + params.cc1h = k.creation5m + k.creation1h ∧
      k.text + priced used.cr params.cr + priced used.cc params.cc +
        priced used.cc1h params.cc1h = k.input := by
  rw [show UsageReport.params .openai k used = _ from openaiUsage_params .unset (by decide)]
  constructor
  · rintro ⟨⟨hsp, -, -, -, hcreation⟩, hcounted⟩
    dsimp only at hsp hcreation
    unfold CountedOnce at hcounted
    rw [hp] at hcounted
    refine ⟨?_, ?_, by omega, hcounted⟩
    · rcases priced_cases used.cr k.cacheRead with ⟨huse, -⟩ | ⟨-, hcr0⟩
      · exact .inl huse
      · rcases priced_cases used.cc (k.creation5m + k.creation1h) with ⟨-, hcc⟩ | ⟨-, hcc⟩ <;>
          rw [Consumption.input] at hsp <;> right <;> omega
    rcases priced_cases used.cc (k.creation5m + k.creation1h) with ⟨huse, -⟩ | ⟨-, hcc0⟩
    · exact .inl huse
    · rcases priced_cases used.cr k.cacheRead with ⟨-, hcr'⟩ | ⟨-, hcr'⟩ <;>
        rw [Consumption.input] at hsp <;> right <;> omega
  rintro ⟨huseCr, huseCc, hcreation, hcounted⟩
  refine ⟨⟨?_, hc, ?_, hcr, ?_⟩, ?_⟩
  · dsimp only
    rcases priced_cases used.cr k.cacheRead with ⟨hu, hcr'⟩ | ⟨hu, hcr'⟩ <;>
      rcases priced_cases used.cc (k.creation5m + k.creation1h) with ⟨hv, hcc⟩ | ⟨hv, hcc⟩ <;>
      rw [hu] at huseCr <;> rw [hv] at huseCc <;> rw [Consumption.input] <;>
      simp at huseCr huseCc <;> omega
  · dsimp only
    rw [hlen, Consumption.input]
    omega
  · dsimp only
    omega
  · unfold CountedOnce
    rw [hp]
    exact hcounted

theorem claude_params_of_report {usage : Usage}
    (hparams : params = buildTieredTokenParams usage true used) (hp : usage.promptTokens = k.text)
    (hc : usage.completionTokens = k.output) (hcr : usage.cachedTokens = k.cacheRead) :
    params.p = k.text ∧ params.c = k.output ∧ params.cr = k.cacheRead ∧
    params.len = k.text + params.cr + params.cc + params.cc1h := by
  subst hparams
  simp only [buildTieredTokenParams, hp, hc, hcr, if_true]
  exact ⟨if_neg (by omega), if_neg (by omega), by simp⟩

/-- The plain text and the tokens that `cr`, `cc` and `cc1h` price are the whole input when
each category that occurs is priced. -/
theorem priced_sum_iff (used : UsedVars) (text : Nat) {cr cc : Nat} (cc1h : Nat)
    (hcr : used.cr = true ∨ cr = 0) (hcc : used.cc = true ∨ cc = 0) :
    (text : Int) + priced used.cr cr + priced used.cc cc + priced used.cc1h cc1h =
      text + cr + cc + cc1h ↔ used.cc1h = true ∨ cc1h = 0 := by
  have hcr' : priced used.cr cr = cr := by
    rcases hcr with h | h
    · simp [priced, h]
    · simp [priced, h]
  have hcc' : priced used.cc cc = cc := by
    rcases hcc with h | h
    · simp [priced, h]
    · simp [priced, h]
  rw [hcr', hcc']
  rcases priced_cases used.cc1h cc1h with ⟨huse, h⟩ | ⟨huse, h⟩
  · rw [h]
    exact iff_of_true rfl (.inl huse)
  rw [h, huse]
  constructor
  · intro hsum
    exact .inr (by omega)
  · rintro (hfalse | hzero)
    · cases hfalse
    · omega

/-- **Tiered billing and the format of the report.** The parameters of a report are those of the
OpenAI report and count every input token once exactly when the report is in the OpenAI format, or
the expression prices the categories that occur and nothing was put into the cache that the report
does not split. -/
theorem tiered_params_right_iff (report : UsageReport) (k : Consumption) (used : UsedVars) :
    SameParams (report.params k used) (UsageReport.params .openai k used) ∧
      CountedOnce k used (report.params k used) ↔ report.Fits k used := by
  cases report with
  | openai =>
    refine iff_of_true ⟨⟨rfl, rfl, rfl, rfl, rfl⟩, ?_⟩ trivial
    exact countedOnce_openai .unset (by decide)
  | openaiMarked =>
    refine iff_of_true ⟨?_, ?_⟩ trivial
    · exact ⟨rfl, rfl, rfl, rfl, rfl⟩
    · exact countedOnce_openai .openai (by decide)
  | claude split final =>
    have hparams : UsageReport.params (.claude split final) k used =
        buildTieredTokenParams (handleClaudeResponseData (k.claudeUsage split)) true used := rfl
    obtain ⟨hp, hc, hcr, hlen⟩ := claude_params_of_report hparams rfl rfl rfl
    refine (claude_right_iff hp hc hcr hlen).trans ?_
    rw [hcr]
    cases split with
    | true =>
      -- the split survives: `cc` and `cc1h` are the two lifetimes
      constructor
      · rintro ⟨hcr, hcc, -, hsum⟩
        exact ⟨hcr, hcc, (priced_sum_iff used k.text k.creation1h hcr
          (hcc.imp_right (by omega))).mp hsum⟩
      · rintro ⟨hcr, hcc, hcc1h⟩
        exact ⟨hcr, hcc, rfl, (priced_sum_iff used k.text k.creation1h hcr
          (hcc.imp_right (by omega))).mpr hcc1h⟩
    | false =>
      -- without the split no creation tokens are left
      have hcc : (UsageReport.params (.claude false final) k used).cc = 0 := rfl
      have hcc1h : (UsageReport.params (.claude false final) k used).cc1h = 0 := rfl
      rw [hcc, hcc1h, Consumption.input]
      constructor
      · rintro ⟨hcr, -, hnone, -⟩
        exact ⟨hcr, by omega⟩
      rintro ⟨hcr, hnone⟩
      refine ⟨hcr, .inr hnone, by omega, ?_⟩
      have hsum : k.text + priced used.cr k.cacheRead + priced used.cc 0 +
          priced used.cc1h 0 = k.text + k.cacheRead + 0 + 0 :=
        (priced_sum_iff used k.text 0 hcr (.inr rfl)).mpr (.inr rfl)
      omega
  | claudeUnmarked =>
    have hparams : UsageReport.params .claudeUnmarked k used =
        buildTieredTokenParams (UsageReport.usage k .claudeUnmarked) true used := rfl
    obtain ⟨hp, hc, hcr, hlen⟩ := claude_params_of_report hparams rfl rfl rfl
    refine (claude_right_iff hp hc hcr hlen).trans ?_
    -- the total stands in `cc`
    have hcc : (UsageReport.params .claudeUnmarked k used).cc =
        ((k.creation5m + k.creation1h : Nat) : Int) := by
      rfl
    have hcc1h : (UsageReport.params .claudeUnmarked k used).cc1h = ((0 : Nat) : Int) := rfl
    rw [hcr, hcc, hcc1h, Consumption.input]
    constructor
    · rintro ⟨hcr, hcc, -⟩
      exact ⟨hcr, hcc⟩
    rintro ⟨hcr, hcc⟩
    have hsum := (priced_sum_iff used k.text 0 hcr hcc).mpr (.inr rfl)
    refine ⟨hcr, hcc, by omega, ?_⟩
    omega

/-- **The same consumption, priced differently.** Without cache variables 200 tokens read from the
cache are in `p` of the OpenAI report and nowhere in the Claude report; and 1000 tokens written to
the cache are lost where Claude does not split them. -/
theorem claude_report_loses_tokens :
    (UsageReport.params .openai ⟨800, 200, 0, 0, 500⟩ {}).p = 1000 ∧
    (UsageReport.params (.claude true true) ⟨800, 200, 0, 0, 500⟩ {}).p = 800 ∧
    (UsageReport.params .openai ⟨800, 0, 1000, 0, 500⟩
      { cr := true, cc := true, cc1h := true }).len = 1800 ∧
    (UsageReport.params (.claude false true) ⟨800, 0, 1000, 0, 500⟩
      { cr := true, cc := true, cc1h := true }).len = 800 ∧
    (UsageReport.params (.claude false true) ⟨800, 0, 1000, 0, 500⟩
      { cr := true, cc := true, cc1h := true }).cc = 0 := by
  decide

end ApiGateway
