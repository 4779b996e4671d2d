import TenonVpn.IPRange
import Mathlib.Logic.Function.Iterate

/-! The rules of a TCP connect session and `RuleManager.match`: the first rule with an
adapter decides and is cached in the session. -/
namespace TenonVpn

inductive AdapterFactory
  | shadowsocks
  | direct
deriving DecidableEq

/-- `DomainListRule.MatchCriterion`; a regular expression is given by what it finds. -/
inductive MatchCriterion
  | regex (firstMatch : Text → Bool)
  | domainPrefix (text : Text)
  | suffix (text : Text)
  | keyword (text : Text)
  | complete (text : Text)

def MatchCriterion.matchDomain (criterion : MatchCriterion) (domain : Text) : Bool :=
  match criterion with
  | .regex firstMatch => firstMatch domain
  | .domainPrefix text => Text.hasPrefix domain text
  | .suffix text => Text.hasSuffix domain text
  | .keyword text => Text.contains domain text
  | .complete text => domain = text

inductive Rule
  | allRule (adapterFactory : AdapterFactory)
  | countryRule (countryCode : Text) (matching : Bool) (adapterFactory : AdapterFactory)
  | dnsFailRule (adapterFactory : AdapterFactory)
  | domainListRule (adapterFactory : AdapterFactory) (matchCriteria : List MatchCriterion)
  | ipRangeListRule (adapterFactory : AdapterFactory) (ranges : List IPRange)

structure ConnectSession where
  host : Text
  ipAddress : Text
  country : Text
  matchedRule : Option Rule

namespace Rule

def directRule : Rule := allRule .direct

def adapterFactory : Rule → AdapterFactory
  | allRule factory | countryRule _ _ factory | dnsFailRule factory
  | domainListRule factory _ | ipRangeListRule factory _ => factory

def isDomainList : Rule → Bool
  | domainListRule _ _ => true
  | _ => false

def matchCriteria : Rule → List MatchCriterion
  | domainListRule _ criteria => criteria
  | _ => []

def matchSession (inet : InetPton) (session : ConnectSession) : Rule → Option AdapterFactory
  | allRule factory => some factory
  | countryRule code matching factory =>
    if decide (session.country ≠ code) ≠ matching then some factory else none
  | dnsFailRule factory => if session.ipAddress = [] then some factory else none
  | domainListRule factory criteria =>
    if criteria.any (fun criterion => criterion.matchDomain session.host) then some factory else none
  | ipRangeListRule factory ranges =>
    match IPAddress.fromString inet session.ipAddress with
    | none => none
    | some ip => if ranges.any (fun range => range.contains ip) then some factory else none

variable {inet : InetPton} {session : ConnectSession} {rule : Rule}

theorem matchSession_adapterFactory {factory : AdapterFactory}
    (found : rule.matchSession inet session = some factory) : factory = rule.adapterFactory := by
  cases rule with
  | allRule _ => exact (Option.some.inj found).symm
  | ipRangeListRule _ ranges =>
    simp only [matchSession] at found
    split at found
    · cases found
    · split at found <;> cases found
      rfl
  | countryRule _ _ _ | dnsFailRule _ | domainListRule _ _ =>
    simp only [matchSession] at found
    split at found <;> cases found
    rfl

theorem matchSession_cached (cached : Option Rule) :
    rule.matchSession inet {session with matchedRule := cached} = rule.matchSession inet session := by
  cases rule <;> rfl

end Rule

structure RuleManager where
  rules : List Rule

namespace RuleManager

def fromRules (rules : List Rule) (appendDirect : Bool) : RuleManager :=
  if appendDirect = true ∨ rules.length = 0 then ⟨rules ++ [Rule.directRule]⟩ else ⟨rules⟩

def firstMatch (inet : InetPton) (session : ConnectSession) : List Rule → Option (Rule × AdapterFactory)
  | [] => none
  | rule :: rest =>
    match rule.matchSession inet session with
    | some factory => some (rule,factory)
    | none => firstMatch inet session rest

/-- `match(_ session:)`, with the session that it leaves. -/
def matchSession (inet : InetPton) (manager : RuleManager) (session : ConnectSession) :
    ConnectSession × Option AdapterFactory :=
  match session.matchedRule with
  | some rule => (session,rule.matchSession inet session)
  | none =>
    match firstMatch inet session manager.rules with
    | some (rule,factory) => ({session with matchedRule := some rule},some factory)
    | none => (session,none)

variable {inet : InetPton} {session : ConnectSession} {rules : List Rule}

theorem firstMatch_some {rule : Rule} {factory : AdapterFactory}
    (found : firstMatch inet session rules = some (rule,factory)) :
    rule ∈ rules ∧ rule.matchSession inet session = some factory := by
  induction rules with
  | nil => cases found
  | cons first rest ih =>
    simp only [firstMatch] at found
    split at found
    · next held =>
      cases found
      exact ⟨List.mem_cons_self,held⟩
    · obtain ⟨member,matched⟩ := ih found
      exact ⟨List.mem_cons_of_mem _ member,matched⟩

theorem firstMatch_allRule {factory : AdapterFactory} (member : .allRule factory ∈ rules) :
    ∃ found, firstMatch inet session rules = some found := by
  induction rules with
  | nil => simp at member
  | cons first rest ih =>
    simp only [firstMatch]
    split
    · exact ⟨_,rfl⟩
    · next silent =>
      rcases List.mem_cons.mp member with rfl | member
      · simp [Rule.matchSession] at silent
      · exact ih member

/-- Once a rule has matched, every later call answers from the cache what the first one did. -/
theorem matchSession_iterate {manager : RuleManager} {rule : Rule} {factory : AdapterFactory}
    (fresh : session.matchedRule = none)
    (found : firstMatch inet session manager.rules = some (rule,factory)) (calls : Nat) :
    (manager.matchSession inet ((fun s => (manager.matchSession inet s).1)^[calls] session)).2 = some factory := by
  have matched := (firstMatch_some found).2
  have first : manager.matchSession inet session = ({session with matchedRule := some rule},some factory) := by
    simp [matchSession,fresh,found]
  have cached : manager.matchSession inet {session with matchedRule := some rule} =
      ({session with matchedRule := some rule},some factory) := by
    simp only [matchSession,Rule.matchSession_cached,matched]
  cases calls with
  | zero => rw [Function.iterate_zero,id_eq,first]
  | succ calls =>
    rw [Function.iterate_succ_apply,first]
    have fixed : (fun s => (manager.matchSession inet s).1) {session with matchedRule := some rule} =
        {session with matchedRule := some rule} := congrArg Prod.fst cached
    rw [Function.iterate_fixed fixed,cached]

end RuleManager
end TenonVpn
