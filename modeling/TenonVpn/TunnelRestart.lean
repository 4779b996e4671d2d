import TenonVpn.PacketTunnel

/-! Calls of `startTunnel` within one process of the extension. Each call extends the
keyword arrays of the provider, also with the country of its configuration, and builds the
rules from all that they hold. -/
namespace TenonVpn

namespace RuleManager

def route (inet : InetPton) (session : ConnectSession) (rules : List Rule) : Option AdapterFactory :=
  (firstMatch inet session rules).map Prod.snd

variable {inet : InetPton} {session : ConnectSession}

theorem route_cons (rule : Rule) (rest : List Rule) :
    route inet session (rule :: rest) = (rule.matchSession inet session).or (route inet session rest) := by
  rw [route,firstMatch]
  cases rule.matchSession inet session <;> rfl

theorem route_append (first second : List Rule) :
    route inet session (first ++ second) = (route inet session first).or (route inet session second) := by
  induction first with
  | nil => rfl
  | cons rule rest ih => rw [List.cons_append,route_cons,route_cons,ih,Option.or_assoc]

theorem route_none {rules : List Rule} (silent : ∀ rule ∈ rules, rule.matchSession inet session = none) :
    route inet session rules = none := by
  induction rules with
  | nil => rfl
  | cons rule rest ih =>
    rw [route_cons,silent rule List.mem_cons_self,Option.none_or]
    exact ih (fun other member => silent other (List.mem_cons_of_mem rule member))

theorem matchSession_route (manager : RuleManager) (fresh : session.matchedRule = none) :
    (manager.matchSession inet session).2 = route inet session manager.rules := by
  rw [matchSession,fresh,route]
  cases firstMatch inet session manager.rules <;> rfl

end RuleManager

namespace PacketTunnelProvider
open RuleManager

def fresh : PacketTunnelProvider := ⟨[],[]⟩

def startTunnel (lowercased : Text → Text) (provider : PacketTunnelProvider) (conf : Settings) :
    PacketTunnelProvider where
  domainKeyWords := provider.domainKeyWords ++ startKeyWords
  domainNotKeyWords := provider.domainNotKeyWords ++ ["weixin".toList,"qq".toList,lowercased conf.localCountry]

/-- After earlier calls every session is routed as in a process that only saw the last configuration. -/
def RoutesFresh (inet : InetPton) (lowercased : Text → Text) (earlier : List Settings) (conf : Settings)
    (value : Yaml) : Prop :=
  ∀ manager alone,
    ruleManager inet lowercased (earlier.foldl (startTunnel lowercased) fresh) conf value = some manager →
    ruleManager inet lowercased fresh conf value = some alone →
    ∀ session : ConnectSession, session.matchedRule = none →
      (manager.matchSession inet session).2 = (alone.matchSession inet session).2

/-- The keyword of an earlier country cannot decide: it is empty, or every host with it
has another keyword of the lists as well. -/
def Absorbed (lowercased : Text → Text) (conf : Settings) (keyword : Text) : Prop :=
  keyword = [] ∨ ∃ word ∈ startKeyWords ++ ["weixin".toList,"qq".toList,lowercased conf.localCountry],
    Text.contains keyword word = true

variable {inet : InetPton} {lowercased : Text → Text}

theorem mem_domainKeyWords {earlier : List Settings} {provider : PacketTunnelProvider} {word : Text}
    (member : word ∈ (earlier.foldl (startTunnel lowercased) provider).domainKeyWords) :
    word ∈ provider.domainKeyWords ∨ word ∈ startKeyWords := by
  induction earlier generalizing provider with
  | nil => exact Or.inl member
  | cons conf rest ih =>
    rcases ih member with kept | added
    · exact List.mem_append.mp kept
    · exact Or.inr added

theorem mem_domainNotKeyWords {earlier : List Settings} {provider : PacketTunnelProvider} {word : Text} :
    word ∈ (earlier.foldl (startTunnel lowercased) provider).domainNotKeyWords ↔
      word ∈ provider.domainNotKeyWords ∨
        ∃ conf ∈ earlier, word ∈ ["weixin".toList,"qq".toList,lowercased conf.localCountry] := by
  induction earlier generalizing provider with
  | nil => simp
  | cons conf rest ih =>
    rw [List.foldl_cons,ih,startTunnel,List.mem_append,or_assoc]
    simp only [List.exists_mem_cons_iff]

theorem keywords_matchSession (factory : AdapterFactory) (words : List Text) (session : ConnectSession) :
    (Rule.domainListRule factory (words.map .keyword)).matchSession inet session =
      if ∃ word ∈ words, Text.contains session.host word = true then some factory else none := by
  simp only [Rule.matchSession,List.any_map,List.any_eq_true]
  rfl

theorem parseRule_silent {directAdapter : AdapterFactory} {each : Yaml} {rule : Rule} {session : ConnectSession}
    (unresolved : IPAddress.fromString inet session.ipAddress = none)
    (parses : parseRule inet directAdapter each = some (some rule)) : rule.matchSession inet session = none := by
  by_cases type : (each.get "type").string? = some "domainlist".toList
  · obtain ⟨adapter,built⟩ := parseRule_domainList parses type
    cases built
    rfl
  · simp only [parseRule,Option.bind_eq_bind,Option.bind_eq_some_iff] at parses
    obtain ⟨adapter,-,named,read,parses⟩ := parses
    rw [if_neg (fun same => type (by rw [read,same]))] at parses
    split at parses
    · simp only [ipRangeListRule,Option.bind_eq_some_iff,Option.some.injEq,Option.map_eq_some_iff] at parses
      obtain ⟨_,_,_,_,_,⟨_,_,rfl⟩,rfl⟩ := parses
      simp only [Rule.matchSession,unresolved]
    · cases parses

theorem userRules_parts {provider : PacketTunnelProvider} {conf : Settings} {value : Yaml} {rules : List Rule}
    (accepted : userRules inet lowercased provider conf value = some rules) :
    ∃ parsed nodes, (∀ other, userRules inet lowercased other conf value = some (parsed ++
        builtInRules lowercased other conf.localCountry (directAdapterFactory conf.useGlobalMode) nodes)) ∧
      ∀ session : ConnectSession, IPAddress.fromString inet session.ipAddress = none →
        nodes.matchSession inet session = none ∧ ∀ rule ∈ parsed, rule.matchSession inet session = none := by
  simp only [userRules,Option.bind_eq_bind,Option.bind_eq_some_iff] at accepted
  obtain ⟨file,found,parsed,parses,nodes,listed,-⟩ := accepted
  refine ⟨parsed.reduceOption,nodes,fun other => ?_,fun session unresolved => ⟨?_,fun rule member => ?_⟩⟩
  · simp only [userRules,found,parses,listed,Option.bind_eq_bind,Option.bind_some]
  · obtain ⟨ranges,-,rfl⟩ := Option.map_eq_some_iff.mp listed
    simp only [Rule.matchSession,unresolved]
  · have built : some (some rule) ∈ file.map (parseRule inet (directAdapterFactory conf.useGlobalMode)) := by
      rw [mapM_eq_some_iff.mp parses]
      exact List.mem_map_of_mem (List.reduceOption_mem_iff.mp member)
    obtain ⟨each,-,read⟩ := List.mem_map.mp built
    exact parseRule_silent unresolved read

theorem route_builtInRules (provider : PacketTunnelProvider) (localCountry : Text) (directAdapter : AdapterFactory)
    (nodes : Rule) (session : ConnectSession) :
    route inet session (builtInRules lowercased provider localCountry directAdapter nodes) =
      if ∃ word ∈ provider.domainKeyWords ++ startKeyWords, Text.contains session.host word = true then
        some .shadowsocks
      else if ∃ word ∈ provider.domainNotKeyWords ++ ["weixin".toList,"qq".toList,lowercased localCountry],
          Text.contains session.host word = true then some directAdapter
      else route inet session [nodes,.countryRule localCountry true directAdapter,
        .countryRule "--".toList true .shadowsocks,.dnsFailRule .shadowsocks,.allRule .shadowsocks] := by
  rw [builtInRules,route_cons,keywords_matchSession,route_cons,keywords_matchSession]
  split
  · rfl
  · split <;> rfl

theorem domainKeyWords_accumulated (earlier : List Settings) (host : Text) :
    (∃ word ∈ (earlier.foldl (startTunnel lowercased) fresh).domainKeyWords ++ startKeyWords,
        Text.contains host word = true) ↔ ∃ word ∈ startKeyWords, Text.contains host word = true := by
  constructor
  · rintro ⟨word,member,found⟩
    rcases List.mem_append.mp member with kept | added
    · exact ⟨word,(mem_domainKeyWords kept).resolve_left List.not_mem_nil,found⟩
    · exact ⟨word,added,found⟩
  · rintro ⟨word,member,found⟩
    exact ⟨word,List.mem_append_right _ member,found⟩

theorem domainNotKeyWords_accumulated (earlier : List Settings) (host country : Text) :
    (∃ word ∈ (earlier.foldl (startTunnel lowercased) fresh).domainNotKeyWords ++
        ["weixin".toList,"qq".toList,country], Text.contains host word = true) ↔
      (∃ word ∈ ["weixin".toList,"qq".toList,country], Text.contains host word = true) ∨
        ∃ old ∈ earlier, Text.contains host (lowercased old.localCountry) = true := by
  constructor
  · rintro ⟨word,member,found⟩
    rcases List.mem_append.mp member with kept | added
    · obtain ⟨old,before,listed⟩ := (mem_domainNotKeyWords.mp kept).resolve_left List.not_mem_nil
      simp only [List.mem_cons,List.not_mem_nil,or_false] at listed
      rcases listed with rfl | rfl | rfl
      · exact Or.inl ⟨_,by simp,found⟩
      · exact Or.inl ⟨_,by simp,found⟩
      · exact Or.inr ⟨old,before,found⟩
    · exact Or.inl ⟨word,added,found⟩
  · rintro (⟨word,member,found⟩ | ⟨old,before,found⟩)
    · exact ⟨word,List.mem_append_right _ member,found⟩
    · exact ⟨_,List.mem_append_left _ (mem_domainNotKeyWords.mpr (Or.inr ⟨old,before,by simp⟩)),found⟩

/-- All that the earlier calls leave to the built-in rules are the keywords of their countries. -/
theorem route_accumulated (earlier : List Settings) (localCountry : Text) (directAdapter : AdapterFactory)
    (nodes : Rule) (session : ConnectSession) :
    route inet session (builtInRules lowercased (earlier.foldl (startTunnel lowercased) fresh) localCountry
        directAdapter nodes) =
      if ∃ word ∈ startKeyWords, Text.contains session.host word = true then some .shadowsocks
      else if (∃ word ∈ ["weixin".toList,"qq".toList,lowercased localCountry],
            Text.contains session.host word = true) ∨
          ∃ old ∈ earlier, Text.contains session.host (lowercased old.localCountry) = true then some directAdapter
      else route inet session [nodes,.countryRule localCountry true directAdapter,
        .countryRule "--".toList true .shadowsocks,.dnsFailRule .shadowsocks,.allRule .shadowsocks] := by
  rw [route_builtInRules]
  simp only [domainKeyWords_accumulated,domainNotKeyWords_accumulated]

theorem route_fresh (localCountry : Text) (directAdapter : AdapterFactory) (nodes : Rule) (session : ConnectSession) :
    route inet session (builtInRules lowercased fresh localCountry directAdapter nodes) =
      if ∃ word ∈ startKeyWords, Text.contains session.host word = true then some .shadowsocks
      else if ∃ word ∈ ["weixin".toList,"qq".toList,lowercased localCountry],
          Text.contains session.host word = true then some directAdapter
      else route inet session [nodes,.countryRule localCountry true directAdapter,
        .countryRule "--".toList true .shadowsocks,.dnsFailRule .shadowsocks,.allRule .shadowsocks] := by
  have alone := @route_accumulated inet lowercased [] localCountry directAdapter nodes session
  simp only [List.not_mem_nil,false_and,exists_false,or_false] at alone
  exact alone

theorem contains_trans {host keyword word : Text} (outer : Text.contains host keyword = true)
    (inner : Text.contains keyword word = true) : Text.contains host word = true := by
  simp only [Text.contains,Bool.and_eq_true,decide_eq_true_eq] at outer inner ⊢
  exact ⟨inner.1,inner.2.trans outer.2⟩

theorem Absorbed.known {conf : Settings} {keyword host : Text} (absorbed : Absorbed lowercased conf keyword)
    (found : Text.contains host keyword = true) :
    (∃ word ∈ startKeyWords, Text.contains host word = true) ∨
      ∃ word ∈ ["weixin".toList,"qq".toList,lowercased conf.localCountry], Text.contains host word = true := by
  rcases absorbed with empty | ⟨word,listed,inside⟩
  · rw [empty] at found
    cases found
  · have outer := contains_trans found inside
    rcases List.mem_append.mp listed with start | last
    · exact Or.inl ⟨word,start,outer⟩
    · exact Or.inr ⟨word,last,outer⟩

theorem route_absorbed {earlier : List Settings} {conf : Settings} (directAdapter : AdapterFactory) (nodes : Rule)
    (absorbed : ∀ old ∈ earlier, Absorbed lowercased conf (lowercased old.localCountry)) (session : ConnectSession) :
    route inet session (builtInRules lowercased (earlier.foldl (startTunnel lowercased) fresh) conf.localCountry
        directAdapter nodes) =
      route inet session (builtInRules lowercased fresh conf.localCountry directAdapter nodes) := by
  rw [route_accumulated,route_fresh]
  by_cases known : ∃ word ∈ startKeyWords, Text.contains session.host word = true
  · rw [if_pos known,if_pos known]
  · have remembered (old : Settings) (before : old ∈ earlier)
        (found : Text.contains session.host (lowercased old.localCountry) = true) :
        ∃ word ∈ ["weixin".toList,"qq".toList,lowercased conf.localCountry],
          Text.contains session.host word = true := ((absorbed old before).known found).resolve_left known
    rw [if_neg known,if_neg known]
    congr 1
    exact propext (or_iff_left_of_imp fun ⟨old,before,found⟩ => remembered old before found)

/-- A host with the keyword of an earlier country and no other goes to the direct adapter
after a restart, and on to the later rules in a fresh process. -/
theorem route_remembered {earlier : List Settings} {conf old : Settings} (before : old ∈ earlier)
    (directAdapter : AdapterFactory) (nodes : Rule) (session : ConnectSession)
    (found : Text.contains session.host (lowercased old.localCountry) = true)
    (apart : ¬∃ word ∈ startKeyWords ++ ["weixin".toList,"qq".toList,lowercased conf.localCountry],
      Text.contains session.host word = true) :
    route inet session (builtInRules lowercased (earlier.foldl (startTunnel lowercased) fresh) conf.localCountry
        directAdapter nodes) = some directAdapter ∧
      route inet session (builtInRules lowercased fresh conf.localCountry directAdapter nodes) =
        route inet session [nodes,.countryRule conf.localCountry true directAdapter,
          .countryRule "--".toList true .shadowsocks,.dnsFailRule .shadowsocks,.allRule .shadowsocks] := by
  have unknown : ¬∃ word ∈ startKeyWords, Text.contains session.host word = true :=
    fun ⟨word,member,found⟩ => apart ⟨word,List.mem_append_left _ member,found⟩
  have forgotten : ¬∃ word ∈ ["weixin".toList,"qq".toList,lowercased conf.localCountry],
      Text.contains session.host word = true :=
    fun ⟨word,member,found⟩ => apart ⟨word,List.mem_append_right _ member,found⟩
  rw [route_accumulated,route_fresh,if_neg unknown,if_neg unknown,if_neg forgotten,if_pos (Or.inr ⟨old,before,found⟩)]
  exact ⟨rfl,rfl⟩

theorem route_global {provider : PacketTunnelProvider} {conf : Settings} {value : Yaml} {rules : List Rule}
    (accepted : userRules inet lowercased provider conf value = some rules) (isGlobal : conf.useGlobalMode = true)
    (session : ConnectSession) : route inet session rules = some .shadowsocks := by
  obtain ⟨⟨rule,factory⟩,found⟩ := @firstMatch_allRule inet session _ _ (allRule_mem accepted)
  obtain ⟨member,matched⟩ := firstMatch_some found
  have adapter := userRules_adapterFactory accepted rule member
  rw [isGlobal,directAdapterFactory,if_pos rfl,or_self] at adapter
  rw [route,found,Option.map_some,Rule.matchSession_adapterFactory matched,adapter]

/-- A host that is the keyword of an earlier country, and whose address is unknown, goes to
the direct adapter after a restart and to the other one in a fresh process. -/
theorem route_unabsorbed {earlier : List Settings} {conf old : Settings} (before : old ∈ earlier)
    (unabsorbed : ¬Absorbed lowercased conf (lowercased old.localCountry)) (nodes : Rule) (session : ConnectSession)
    (host : session.host = lowercased old.localCountry) (address : session.ipAddress = [])
    (country : session.country ≠ conf.localCountry) (silent : nodes.matchSession inet session = none) :
    route inet session (builtInRules lowercased (earlier.foldl (startTunnel lowercased) fresh) conf.localCountry
        .direct nodes) = some .direct ∧
      route inet session (builtInRules lowercased fresh conf.localCountry .direct nodes) = some .shadowsocks := by
  obtain ⟨filled,apart⟩ := not_or.mp unabsorbed
  rw [← host] at filled apart
  have itself : Text.contains session.host (lowercased old.localCountry) = true := by
    rw [← host,Text.contains]
    simp [filled]
  obtain ⟨direct,later⟩ := route_remembered before .direct nodes session itself apart
  refine ⟨direct,later.trans ?_⟩
  have abroad : (Rule.countryRule conf.localCountry true .direct).matchSession inet session = none := by
    simp [Rule.matchSession,country]
  have failed : (Rule.dnsFailRule .shadowsocks).matchSession inet session = some .shadowsocks := by
    simp [Rule.matchSession,address]
  rw [route_cons,silent,route_cons,abroad,route_cons,route_cons,failed]
  cases found : (Rule.countryRule "--".toList true .shadowsocks).matchSession inet session with
  | none => rfl
  | some factory => rw [Rule.matchSession_adapterFactory found]; rfl

/-- A restart routes like a fresh start exactly in global mode, or where the keyword of no
earlier country can decide. -/
theorem routesFresh_iff (unresolved : IPAddress.fromString inet [] = none) {conf : Settings} {value : Yaml}
    (accepted : (ruleManager inet lowercased fresh conf value).isSome = true) (earlier : List Settings) :
    RoutesFresh inet lowercased earlier conf value ↔ conf.useGlobalMode = true ∨
      ∀ old ∈ earlier, Absorbed lowercased conf (lowercased old.localCountry) := by
  obtain ⟨alone,built⟩ := Option.isSome_iff_exists.mp accepted
  obtain ⟨parsed,nodes,rules,silent⟩ := userRules_parts (ruleManager_some built)
  have aloneRules := Option.some.inj ((ruleManager_some built).symm.trans (rules fresh))
  constructor
  · intro same
    by_cases isGlobal : conf.useGlobalMode = true
    · exact Or.inl isGlobal
    · refine Or.inr fun old before => ?_
      by_contra unabsorbed
      obtain ⟨manager,restarted⟩ : ∃ manager,
          ruleManager inet lowercased (earlier.foldl (startTunnel lowercased) fresh) conf value = some manager := by
        rw [ruleManager,rules]
        exact ⟨_,rfl⟩
      have managerRules := Option.some.inj ((ruleManager_some restarted).symm.trans (rules _))
      let session : ConnectSession := ⟨lowercased old.localCountry,[],conf.localCountry ++ ['x'],none⟩
      have direct : directAdapterFactory conf.useGlobalMode = .direct := by simp [directAdapterFactory,isGlobal]
      obtain ⟨quiet,file⟩ := silent session unresolved
      have abroad : session.country ≠ conf.localCountry := by simp [session]
      obtain ⟨after,before'⟩ := route_unabsorbed before unabsorbed nodes session rfl rfl abroad quiet
      have routed := same manager alone restarted built session rfl
      rw [matchSession_route manager rfl,matchSession_route alone rfl,managerRules,aloneRules,direct,route_append,
        route_append,route_none file,Option.none_or,Option.none_or,after,before'] at routed
      cases routed
  · intro settled manager alone' restarted built' session uncached
    have managerRules := ruleManager_some restarted
    rw [matchSession_route manager uncached,matchSession_route alone' uncached]
    rcases settled with isGlobal | absorbed
    · rw [route_global managerRules isGlobal,route_global (ruleManager_some built') isGlobal]
    · have same : alone'.rules = parsed ++ builtInRules lowercased fresh conf.localCountry
          (directAdapterFactory conf.useGlobalMode) nodes :=
        Option.some.inj ((ruleManager_some built').symm.trans (rules fresh))
      rw [Option.some.inj (managerRules.symm.trans (rules _)),same,route_append,route_append,
        route_absorbed _ nodes absorbed session]

def inCountry (country : String) : Settings := {VpnManager.launched.settings with localCountry := country.toList}

def lowercase (text : Text) : Text := text.map Char.toLower

theorem routesFresh_us : RoutesFresh dottedQuad lowercase [inCountry "US"] (inCountry "US")
    (.dictionary [("rule".toList,.array [])]) ↔ (inCountry "US").useGlobalMode = true ∨
      ∀ old ∈ [inCountry "US"], Absorbed lowercase (inCountry "US") (lowercase old.localCountry) :=
  routesFresh_iff rfl (ruleManager_isSome rfl rfl (dottedQuad_nodeRanges _)) _

theorem ruleManager_empty (conf : Settings) {nodes : Rule}
    (listed : ipRangeListRule inet (directAdapterFactory conf.useGlobalMode) nodeRanges = some nodes)
    (provider : PacketTunnelProvider) : ∃ manager,
      ruleManager inet lowercased provider conf (.dictionary [("rule".toList,.array [])]) = some manager ∧
        manager.rules = builtInRules lowercased provider conf.localCountry
          (directAdapterFactory conf.useGlobalMode) nodes := by
  have rules : userRules inet lowercased provider conf (.dictionary [("rule".toList,.array [])]) = some
      (builtInRules lowercased provider conf.localCountry (directAdapterFactory conf.useGlobalMode) nodes) := by
    simp only [userRules,listed]
    rfl
  have built : ruleManager inet lowercased provider conf (.dictionary [("rule".toList,.array [])]) =
      some (RuleManager.fromRules (builtInRules lowercased provider conf.localCountry
        (directAdapterFactory conf.useGlobalMode) nodes) false) := by
    rw [ruleManager,rules]
    rfl
  exact ⟨_,built,Option.some.inj ((ruleManager_some built).symm.trans rules)⟩

/-- After a restart from the United States to China the keyword `us` sends a host to the direct adapter. -/
theorem startTunnel_remembers : ¬RoutesFresh dottedQuad lowercase [inCountry "US"] (inCountry "CN")
    (.dictionary [("rule".toList,.array [])]) := by
  intro same
  let session : ConnectSession := ⟨"usatoday.com".toList,"23.45.67.89".toList,"US".toList,none⟩
  have foreign : (ipRangeListRule dottedQuad .direct nodeRanges).map (Rule.matchSession dottedQuad session) =
      some none := by decide +kernel
  have apart : ¬∃ word ∈ startKeyWords ++ ["weixin".toList,"qq".toList,lowercase (inCountry "CN").localCountry],
      Text.contains session.host word = true := by decide +kernel
  obtain ⟨nodes,listed,silent⟩ := Option.map_eq_some_iff.mp foreign
  obtain ⟨manager,restarted,managerRules⟩ := ruleManager_empty (inCountry "CN") listed
    ([inCountry "US"].foldl (startTunnel lowercase) fresh)
  obtain ⟨alone,built,aloneRules⟩ := ruleManager_empty (inCountry "CN") listed fresh
  have american : Text.contains session.host (lowercase (inCountry "US").localCountry) = true := by decide
  obtain ⟨direct,later⟩ := route_remembered List.mem_cons_self .direct nodes session american apart
  have relayed : route dottedQuad session [nodes,.countryRule (inCountry "CN").localCountry true .direct,
      .countryRule "--".toList true .shadowsocks,.dnsFailRule .shadowsocks,.allRule .shadowsocks] =
        some .shadowsocks := by
    rw [route_cons,silent,Option.none_or]
    decide
  have routed := same manager alone restarted built session rfl
  rw [matchSession_route manager rfl,matchSession_route alone rfl,managerRules,aloneRules] at routed
  cases direct.symm.trans (routed.trans (later.trans relayed))

end PacketTunnelProvider
end TenonVpn
