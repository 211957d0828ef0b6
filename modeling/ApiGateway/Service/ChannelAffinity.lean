import ApiGateway.Lib.Decimal
import ApiGateway.Lib.Glob

/-!
# Channel affinity keys

A channel that served a request is remembered under a key built from the rule that matched and
from the request. All rules share one cache, in memory or on a Redis server. Texts are lists of
characters.
-/

namespace ApiGateway

open List Decimal

structure ChannelAffinityRule where
  name : List Char
  includeUsingGroup : Bool := true
  includeModelName : Bool := true
  includeRuleName : Bool := true

/-- The parts of a key before the value. -/
def affinityParts (rule : ChannelAffinityRule) (modelName usingGroup : List Char) :
    List (List Char) :=
  (if rule.includeRuleName ∧ rule.name ≠ [] then [rule.name] else []) ++
    (if rule.includeModelName ∧ modelName ≠ [] then [modelName] else []) ++
    if rule.includeUsingGroup ∧ usingGroup ≠ [] then [usingGroup] else []

def buildChannelAffinityCacheKeySuffix (rule : ChannelAffinityRule)
    (modelName usingGroup affinityValue : List Char) : List Char :=
  [':'].intercalate (affinityParts rule modelName usingGroup ++ [affinityValue])

/-- The namespace with its colon. -/
def channelAffinityPrefix : List Char := "new-api:channel_affinity:v1:".toList

/-- `Namespace.FullKey` -/
def affinityFullKey (key : List Char) : List Char :=
  let key := trimChars key
  if key = [] then []
  else if channelAffinityPrefix.isPrefixOf key then key
  else channelAffinityPrefix ++ key.dropWhile (· = ':')

/-- An entry is known by the request that wrote it. -/
structure AffinityEntry where
  rule : ChannelAffinityRule
  modelName : List Char
  usingGroup : List Char
  affinityValue : List Char
  channelID : Nat

/-- The full key, which passes through `FullKey` again on its way into the cache. -/
def AffinityEntry.key (e : AffinityEntry) : List Char :=
  affinityFullKey (channelAffinityPrefix ++
    buildChannelAffinityCacheKeySuffix e.rule e.modelName e.usingGroup e.affinityValue)

def recordChannelAffinity (e : AffinityEntry) (cache : List AffinityEntry) : List AffinityEntry :=
  cache.filter (·.key ≠ e.key) ++ [e]

/-- The beginning of the keys that are deleted, with its colon. -/
def deletedPrefix (keyPrefix : List Char) : List Char :=
  let fullPrefix := affinityFullKey keyPrefix
  if fullPrefix.getLast? = some ':' then fullPrefix else fullPrefix ++ [':']

/-- The bytes a server has of a text. -/
def utf8 (t : List Char) : List UInt8 := t.flatMap String.utf8EncodeChar

/-- In memory the beginning of a key is compared, a server is sent a pattern. -/
def deletesKey (redisOn : Bool) (keyPrefix key : List Char) : Bool :=
  if redisOn then Glob.fits (Glob.parse (utf8 (deletedPrefix keyPrefix) ++ utf8 ['*'])) (utf8 key)
  else (deletedPrefix keyPrefix).isPrefixOf key

/-- What stays. -/
def deleteByPrefix (redisOn : Bool) (keyPrefix : List Char) (cache : List AffinityEntry) :
    List AffinityEntry :=
  if affinityFullKey keyPrefix = [] then cache
  else cache.filter fun e => !deletesKey redisOn keyPrefix e.key

def clearChannelAffinityCacheByRuleName (redisOn : Bool) (rules : List ChannelAffinityRule)
    (ruleName : List Char) (cache : List AffinityEntry) : Except String (List AffinityEntry) :=
  let ruleName := trimChars ruleName
  if ruleName = [] then .error "rule_name 不能为空"
  else
    match rules.find? (trimChars ·.name = ruleName) with
    | none => .error "未知规则名称"
    | some matchedRule =>
      if matchedRule.includeRuleName then .ok (deleteByPrefix redisOn ruleName cache)
      else .error "该规则未启用 include_rule_name，无法按规则清空缓存"

end ApiGateway
