
/-!
# Token parameters of a tiered billing expression

An expression prices tokens by category: `p` and `c` are the input and output tokens it does not
price by a variable of their own. In the OpenAI format the prompt tokens include every category, in
the Claude format they are the plain text only.
-/

namespace ApiGateway

inductive UsageSemantic where
  | unset
  | openai
  | anthropic
deriving DecidableEq

structure Usage where
  promptTokens : Int
  completionTokens : Int
  cachedTokens : Int := 0
  cachedCreationTokens : Int := 0
  imageTokens : Int := 0
  audioTokens : Int := 0
  completionImageTokens : Int := 0
  completionAudioTokens : Int := 0
  usageSemantic : UsageSemantic := .unset
  claudeCacheCreation5mTokens : Int := 0
  claudeCacheCreation1hTokens : Int := 0
deriving DecidableEq

structure ClaudeCacheCreationUsage where
  ephemeral5mInputTokens : Int
  ephemeral1hInputTokens : Int

structure ClaudeUsage where
  inputTokens : Int
  outputTokens : Int
  cacheReadInputTokens : Int := 0
  cacheCreationInputTokens : Int := 0
  cacheCreation : Option ClaudeCacheCreationUsage := none

def ClaudeUsage.getCacheCreation5mTokens (u : ClaudeUsage) : Int :=
  (u.cacheCreation.map (·.ephemeral5mInputTokens)).getD 0

def ClaudeUsage.getCacheCreation1hTokens (u : ClaudeUsage) : Int :=
  (u.cacheCreation.map (·.ephemeral1hInputTokens)).getD 0

/-- The usage a Claude response is billed by. -/
def handleClaudeResponseData (u : ClaudeUsage) : Usage where
  promptTokens := u.inputTokens
  completionTokens := u.outputTokens
  usageSemantic := .anthropic
  cachedTokens := u.cacheReadInputTokens
  cachedCreationTokens := u.cacheCreationInputTokens
  claudeCacheCreation5mTokens := u.getCacheCreation5mTokens
  claudeCacheCreation1hTokens := u.getCacheCreation1hTokens

/-- The usage says its format itself, or it is that of the request sent upstream. -/
def usageSemanticFromUsage (finalRequestIsClaude : Bool) (usage : Usage) : UsageSemantic :=
  if usage.usageSemantic ≠ .unset then usage.usageSemantic
  else if finalRequestIsClaude then .anthropic
  else .openai

/-- The variables an expression refers to. -/
structure UsedVars where
  cr : Bool := false
  cc : Bool := false
  cc1h : Bool := false
  img : Bool := false
  ai : Bool := false
  imgO : Bool := false
  ao : Bool := false

structure TokenParams where
  p : Int
  c : Int
  len : Int
  cr : Int
  cc : Int
  cc1h : Int
  img : Int
  imgO : Int
  ai : Int
  ao : Int
deriving DecidableEq

/-- What is taken off for a category the expression prices itself. -/
def priced (used : Bool) (tokens : Int) : Int := if used then tokens else 0

def buildTieredTokenParams (usage : Usage) (isClaudeUsageSemantic : Bool) (used : UsedVars) :
    TokenParams :=
  let cr := usage.cachedTokens
  let cc5m := if usage.usageSemantic = .anthropic then usage.claudeCacheCreation5mTokens
    else usage.cachedCreationTokens
  let cc1h := if usage.usageSemantic = .anthropic then usage.claudeCacheCreation1hTokens else 0
  let len := if isClaudeUsageSemantic then usage.promptTokens + cr + cc5m + cc1h
    else usage.promptTokens
  let p := if isClaudeUsageSemantic then usage.promptTokens
    else usage.promptTokens - priced used.cr cr - priced used.cc cc5m - priced used.cc1h cc1h -
      priced used.img usage.imageTokens - priced used.ai usage.audioTokens
  let c := if isClaudeUsageSemantic then usage.completionTokens
    else usage.completionTokens - priced used.imgO usage.completionImageTokens -
      priced used.ao usage.completionAudioTokens
  { p := if p < 0 then 0 else p
    c := if c < 0 then 0 else c
    len := len
    cr := cr
    cc := cc5m
    cc1h := cc1h
    img := usage.imageTokens
    imgO := usage.completionImageTokens
    ai := usage.audioTokens
    ao := usage.completionAudioTokens }

/-- The parameters a text request is settled with. -/
def postTextTokenParams (finalRequestIsClaude : Bool) (usage : Usage) (used : UsedVars) :
    TokenParams :=
  buildTieredTokenParams usage
    (usageSemanticFromUsage finalRequestIsClaude usage == .anthropic) used

end ApiGateway
