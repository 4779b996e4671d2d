import TenonVpn.Rule
import TenonVpn.VpnManager
import Mathlib.Data.List.ReduceOption

/-! The rule list of `PacketTunnelProvider.startTunnel`: the rules of the YAML file in
their order, then the built-in ones. In global mode the direct adapter of the list is the
Shadowsocks one. -/
namespace TenonVpn

theorem mapM_eq_some_iff {α β : Type*} {f : α → Option β} {xs : List α} {ys : List β} :
    xs.mapM f = some ys ↔ xs.map f = ys.map some := by
  induction xs generalizing ys with
  | nil => cases ys <;> simp
  | cons x rest ih =>
    cases ys with
    | nil => simp [Option.bind_eq_some_iff]
    | cons y ys =>
      simp only [List.mapM_cons,List.map_cons,List.cons.injEq,← ih]
      cases f x <;> cases rest.mapM f <;> simp

/-- A parsed YAML value; of a dictionary, the entries under text keys. -/
inductive Yaml
  | null
  | bool (value : Bool)
  | int (value : Int)
  | double (bits : UInt64)
  | string (value : Text)
  | array (items : List Yaml)
  | dictionary (entries : List (Text × Yaml))

namespace Yaml

def get (value : Yaml) (key : String) : Yaml :=
  match value with
  | dictionary entries => (entries.lookup key.toList).getD null
  | _ => null

def string? : Yaml → Option Text
  | string value => some value
  | _ => none

def array? : Yaml → Option (List Yaml)
  | array items => some items
  | _ => none

end Yaml

/-- The keyword arrays of the provider, which every `startTunnel` extends. -/
structure PacketTunnelProvider where
  domainKeyWords : List Text
  domainNotKeyWords : List Text

namespace PacketTunnelProvider

def startKeyWords : List Text :=
  ["google","youtube","facebook","wikipedia","twitter","live","yahoo","reddit","netflix","blogspot","bing",
   "instagram","zoom","twitch","fc2","xhamster","tumblr","pinterest","amazon","pornhub","xvideos","imgur",
   "thepiratebay","whatsapp","amazonaws","dailymotion","medium","quora","bbc","nytimes","vimeo",
   "theguardian","slideshare","deviantart","telegram","soundcloud","washingtonpost","slack","nicovideo",
   "archive","scribd","line","mega","xing","hardsextube","drtuber","wikimedia","bloomberg","e-hentai",
   "goodreads","flickr","huffpost","duckduckgo","wattpad","spiegel","independent","wsj","Feedly","yomiuri",
   "reuters","PChome","nikkeibp","nbcnews","disqus","badoo","exhentai","eporner","appledaily","nintendo",
   "technorati","archiveofourown","pixiv","viber","nordvpn","scmp","plurk","economist","rfi","change",
   "smh","Internet","voanews","inoreader","nbc","rfa","pbworks","straitstimes","theepochtimes","moegirl",
   "sony","aljazeera","worldcat","tapatalk","hbo","Flipboard","wikiquote","minghui","ndr","boxun",
   "akinator","wikiversity","ntdtv","1688","Shield","tvb","getlantern","hrw","wikileaks","theinitium",
   "sonymusic","kadokawa","shadowsocks","openvpn","gab","allmovie","amnesty","rferl","wikinews",
   "torproject","rsf","tvr","livestation","akamai","greatfire","falundafa","dalailama","americanbar",
   "freetibet","tibet","rri","sluggn","citizenpowerforchina","spotify","pandora","imdb","hulu",
   "steampowered","blizzard","tripadvisor","airbnb","ted","udemy","coursera","snapchat","linkddin",
   "wikihow","wikioedia","ebay","paypal","blogger","wordpress","pixabay","nationalgeographic","smallpdf",
   "stackoverflow","github","digitalocean","godaddy","tenonvpn","tenon"].map String.toList

def nodeRanges : List Text :=
  ["42.51.39.113/32","42.51.33.89/32","42.51.41.173/32","113.17.169.103/32","113.17.169.105/32",
   "113.17.169.106/32","113.17.169.93/32","113.17.169.94/32","113.17.169.95/32","216.108.227.52/32",
   "216.108.231.102/32","216.108.231.103/32","216.108.231.105/32","216.108.231.19/32","3.12.73.217/32",
   "3.137.186.226/32","3.22.68.200/32","3.138.121.98/32","18.188.190.127/32","54.198.157.144/32",
   "3.81.161.170/32","35.153.74.125/32"].map String.toList

def directAdapterFactory (useGlobalMode : Bool) : AdapterFactory :=
  if useGlobalMode then .shadowsocks else .direct

/-- The body of the loop over a domain list. It traps on an entry of less than two
characters, and `raw_dom[...index]` includes the second character. -/
def parseCriterion (rawDom : Text) : Option (Option MatchCriterion) :=
  if rawDom.length < 2 then none
  else
    let typeStr := rawDom.take 2
    let url := rawDom.drop 2
    if typeStr = ['s'] then some (some (.suffix url))
    else if typeStr = ['k'] then some (some (.keyword url))
    else if typeStr = ['p'] then some (some (.domainPrefix url))
    else some none

def parseCriteria (entries : List Yaml) : Option (List MatchCriterion) :=
  (entries.mapM (fun dom : Yaml => dom.string?.bind parseCriterion)).map List.reduceOption

def ipRangeListRule (inet : InetPton) (adapter : AdapterFactory) (ranges : List Text) : Option Rule :=
  (ranges.mapM (IPRange.withString inet)).toOption.map (.ipRangeListRule adapter)

def parseAdapter (directAdapter : AdapterFactory) (each : Yaml) : Option AdapterFactory :=
  (each.get "adapter").string?.map (fun adapter => if adapter = "direct".toList then directAdapter else .shadowsocks)

/-- One rule of the file; none where a forced value is missing, and no rule for another type. -/
def parseRule (inet : InetPton) (directAdapter : AdapterFactory) (each : Yaml) : Option (Option Rule) := do
  let adapter ← parseAdapter directAdapter each
  let ruleType ← (each.get "type").string?
  if ruleType = "domainlist".toList then
    let criteria ← parseCriteria (← (each.get "criteria").array?)
    some (some (.domainListRule adapter criteria))
  else if ruleType = "iplist".toList then
    let ipArray ← (← (each.get "criteria").array?).mapM Yaml.string?
    some (some (← ipRangeListRule inet adapter ipArray))
  else some none

variable (inet : InetPton) (lowercased : Text → Text) (provider : PacketTunnelProvider)

def builtInRules (localCountry : Text) (directAdapter : AdapterFactory) (nodes : Rule) : List Rule :=
  [.domainListRule .shadowsocks ((provider.domainKeyWords ++ startKeyWords).map .keyword),
    .domainListRule directAdapter ((provider.domainNotKeyWords ++
      ["weixin".toList,"qq".toList,lowercased localCountry]).map .keyword),
    nodes,
    .countryRule localCountry true directAdapter,
    .countryRule "--".toList true .shadowsocks,
    .dnsFailRule .shadowsocks,
    .allRule .shadowsocks]

/-- `UserRules` of `startTunnel`, for a configuration and its loaded `ymal_conf`; none
where `startTunnel` traps. -/
def userRules (conf : Settings) (value : Yaml) : Option (List Rule) := do
  let directAdapter := directAdapterFactory conf.useGlobalMode
  let file ← (value.get "rule").array?
  let parsed ← file.mapM (parseRule inet directAdapter)
  let nodes ← ipRangeListRule inet directAdapter nodeRanges
  some (parsed.reduceOption ++ builtInRules lowercased provider conf.localCountry directAdapter nodes)

def ruleManager (conf : Settings) (value : Yaml) : Option RuleManager :=
  (userRules inet lowercased provider conf value).map (fun rules => RuleManager.fromRules rules false)

variable {inet lowercased provider}

theorem userRules_some {conf : Settings} {value : Yaml} {rules : List Rule}
    (accepted : userRules inet lowercased provider conf value = some rules) :
    ∃ (file : List Yaml) (parsed : List (Option Rule)) (nodes : Rule), (value.get "rule").array? = some file ∧
      file.map (parseRule inet (directAdapterFactory conf.useGlobalMode)) = parsed.map some ∧
      nodes.adapterFactory = directAdapterFactory conf.useGlobalMode ∧ nodes.isDomainList = false ∧
      rules = parsed.reduceOption ++ builtInRules lowercased provider conf.localCountry
        (directAdapterFactory conf.useGlobalMode) nodes := by
  simp only [userRules,Option.bind_eq_bind,Option.bind_eq_some_iff,mapM_eq_some_iff,Option.some.injEq] at accepted
  obtain ⟨file,found,parsed,parses,nodes,listed,rfl⟩ := accepted
  obtain ⟨ranges,-,rfl⟩ := Option.map_eq_some_iff.mp listed
  exact ⟨file,parsed,_,found,parses,rfl,rfl,rfl⟩

theorem parseRule_adapterFactory {directAdapter : AdapterFactory} {each : Yaml} {rule : Rule}
    (parses : parseRule inet directAdapter each = some (some rule)) :
    parseAdapter directAdapter each = some rule.adapterFactory := by
  simp only [parseRule,Option.bind_eq_bind,Option.bind_eq_some_iff] at parses
  obtain ⟨adapter,named,type,-,parses⟩ := parses
  split at parses
  · simp only [Option.bind_eq_some_iff,Option.some.injEq] at parses
    obtain ⟨_,_,_,_,rfl⟩ := parses
    exact named
  · split at parses
    · simp only [ipRangeListRule,Option.bind_eq_some_iff,Option.some.injEq,Option.map_eq_some_iff] at parses
      obtain ⟨_,_,_,_,_,⟨_,_,rfl⟩,rfl⟩ := parses
      exact named
    · cases parses

theorem userRules_adapterFactory {conf : Settings} {value : Yaml} {rules : List Rule}
    (accepted : userRules inet lowercased provider conf value = some rules) :
    ∀ rule ∈ rules, rule.adapterFactory = .shadowsocks ∨
      rule.adapterFactory = directAdapterFactory conf.useGlobalMode := by
  obtain ⟨file,parsed,nodes,-,parses,chosen,-,rfl⟩ := userRules_some accepted
  intro rule member
  rcases List.mem_append.mp member with listed | builtIn
  · have built : some (some rule) ∈ file.map (parseRule inet (directAdapterFactory conf.useGlobalMode)) := by
      rw [parses]
      exact List.mem_map_of_mem (List.reduceOption_mem_iff.mp listed)
    obtain ⟨each,-,parsed⟩ := List.mem_map.mp built
    obtain ⟨adapter,-,named⟩ := Option.map_eq_some_iff.mp (parseRule_adapterFactory parsed)
    rw [← named]
    split
    · exact Or.inr rfl
    · exact Or.inl rfl
  · simp only [builtInRules,List.mem_cons,List.not_mem_nil,or_false] at builtIn
    rcases builtIn with rfl | rfl | rfl | rfl | rfl | rfl | rfl
    · exact Or.inl rfl
    · exact Or.inr rfl
    · exact Or.inr chosen
    · exact Or.inr rfl
    · exact Or.inl rfl
    · exact Or.inl rfl
    · exact Or.inl rfl

theorem allRule_mem {conf : Settings} {value : Yaml} {rules : List Rule}
    (accepted : userRules inet lowercased provider conf value = some rules) :
    .allRule .shadowsocks ∈ rules := by
  obtain ⟨_,_,_,_,_,_,_,rfl⟩ := userRules_some accepted
  simp [builtInRules]

theorem ruleManager_some {conf : Settings} {value : Yaml} {manager : RuleManager}
    (accepted : ruleManager inet lowercased provider conf value = some manager) :
    userRules inet lowercased provider conf value = some manager.rules := by
  obtain ⟨rules,found,rfl⟩ := Option.map_eq_some_iff.mp accepted
  have member := allRule_mem found
  have filled : rules.length ≠ 0 := by
    rw [ne_eq,List.length_eq_zero_iff]
    exact List.ne_nil_of_mem member
  simp [RuleManager.fromRules,filled,found]

/-- Every call of `match` for a session without a cached rule returns an adapter factory,
and in global mode the Shadowsocks one. -/
theorem ruleManager_matchSession {conf : Settings} {value : Yaml} {manager : RuleManager}
    (accepted : ruleManager inet lowercased provider conf value = some manager)
    {session : ConnectSession} (fresh : session.matchedRule = none) (calls : Nat) :
    ∃ factory, (manager.matchSession inet ((fun s => (manager.matchSession inet s).1)^[calls] session)).2 =
      some factory ∧ (conf.useGlobalMode = true → factory = .shadowsocks) := by
  have rules := ruleManager_some accepted
  obtain ⟨⟨rule,factory⟩,found⟩ := RuleManager.firstMatch_allRule (allRule_mem rules)
  refine ⟨factory,RuleManager.matchSession_iterate fresh found calls,fun isGlobal => ?_⟩
  obtain ⟨member,matched⟩ := RuleManager.firstMatch_some found
  rw [Rule.matchSession_adapterFactory matched]
  have adapter := userRules_adapterFactory rules rule member
  rwa [isGlobal,directAdapterFactory,if_pos rfl,or_self] at adapter

def dottedQuad : InetPton where
  v4 string := match Text.components '.' string with
    | [a,b,c,d] => do
      let a ← Text.unsigned 10 256 a
      let b ← Text.unsigned 10 256 b
      let c ← Text.unsigned 10 256 c
      let d ← Text.unsigned 10 256 d
      some (BitVec.ofNat 32 (((a*256+b)*256+c)*256+d))
    | _ => none
  v6 _ := none

/-- A file with one domain list of one entry, such as `s,apple.com` of `NEKitRule.conf`. -/
def fileOf (entry : String) : List Yaml :=
  [.dictionary [("type".toList,.string "domainlist".toList),("adapter".toList,.string "direct".toList),
    ("criteria".toList,.array [.string entry.toList])]]

def settingsOf (useGlobalMode : Bool) : Settings :=
  {VpnManager.launched.settings with localCountry := "US".toList, useGlobalMode}

theorem dottedQuad_nodeRanges (adapter : AdapterFactory) :
    (ipRangeListRule dottedQuad adapter nodeRanges).isSome = true := by
  rw [ipRangeListRule,Option.isSome_map]
  decide +kernel

theorem ruleManager_isSome {conf : Settings} {value : Yaml} {file : List Yaml} {parsed : List (Option Rule)}
    (found : (value.get "rule").array? = some file)
    (parses : file.mapM (parseRule inet (directAdapterFactory conf.useGlobalMode)) = some parsed)
    (listed : (ipRangeListRule inet (directAdapterFactory conf.useGlobalMode) nodeRanges).isSome = true) :
    (ruleManager inet lowercased provider conf value).isSome = true := by
  obtain ⟨nodes,listed⟩ := Option.isSome_iff_exists.mp listed
  simp [ruleManager,userRules,found,parses,listed]

theorem ruleManager_apple (useGlobalMode : Bool) : (ruleManager dottedQuad id ⟨[],[]⟩ (settingsOf useGlobalMode)
    (.dictionary [("rule".toList,.array (fileOf "s,apple.com"))])).isSome = true :=
  ruleManager_isSome rfl rfl (dottedQuad_nodeRanges _)

theorem ruleManager_matchSession_apple : ∃ manager, ruleManager dottedQuad id ⟨[],[]⟩ (settingsOf true)
    (.dictionary [("rule".toList,.array (fileOf "s,apple.com"))]) = some manager ∧ ∀ calls, ∃ factory,
      (manager.matchSession dottedQuad ((fun s => (manager.matchSession dottedQuad s).1)^[calls]
        ⟨"apple.com".toList,"17.253.144.10".toList,"US".toList,none⟩)).2 = some factory ∧
      ((settingsOf true).useGlobalMode = true → factory = .shadowsocks) := by
  obtain ⟨manager,accepted⟩ := Option.isSome_iff_exists.mp (ruleManager_apple true)
  exact ⟨manager,accepted,fun calls => ruleManager_matchSession accepted rfl calls⟩

/-- What the rule file means by an entry of a domain list: `s,x`, `k,x` or `p,x`. -/
def stated : Text → Option MatchCriterion
  | kind :: ',' :: x =>
    if x = [] then none
    else match kind with
      | 's' => some (.suffix x)
      | 'k' => some (.keyword x)
      | 'p' => some (.domainPrefix x)
      | _ => none
  | _ => none

def domainEntries (each : Yaml) : List Text :=
  if (each.get "type").string? = some "domainlist".toList then
    (((each.get "criteria").array?).getD []).filterMap Yaml.string?
  else []

def Lists (each : Yaml) (host : Text) : Prop :=
  ∃ entry ∈ domainEntries each, ∃ criterion ∈ stated entry, criterion.matchDomain host = true

structure DomainRulesMeant (inet : InetPton) (directAdapter : AdapterFactory) (file : List Yaml)
    (manager : RuleManager) : Prop where
  criteria : ∀ each ∈ file, ∀ rule, parseRule inet directAdapter each = some (some rule) →
    ∀ entry ∈ domainEntries each, ∀ criterion ∈ stated entry, criterion ∈ rule.matchCriteria
  routing : ∀ before each after, file = before ++ each :: after →
    ∀ session : ConnectSession, session.matchedRule = none → Lists each session.host →
    (∀ earlier ∈ before, ¬Lists earlier session.host) →
    (∀ earlier ∈ before, ∀ rule, parseRule inet directAdapter earlier = some (some rule) →
      rule.isDomainList = false → rule.matchSession inet session = none) →
    (manager.matchSession inet session).2 = parseAdapter directAdapter each

theorem parseCriterion_none {rawDom : Text} {parsed : Option MatchCriterion}
    (parses : parseCriterion rawDom = some parsed) : parsed = none := by
  unfold parseCriterion at parses
  split at parses
  · cases parses
  · next long =>
    have two : (rawDom.take 2).length = 2 := by
      rw [List.length_take]
      omega
    have other (c : Char) : rawDom.take 2 ≠ [c] := fun same => by simp [same] at two
    simp only [other,if_false] at parses
    exact (Option.some.inj parses).symm

theorem parseCriteria_nil {entries : List Yaml} {criteria : List MatchCriterion}
    (parses : parseCriteria entries = some criteria) : criteria = [] := by
  obtain ⟨parsed,each,rfl⟩ := Option.map_eq_some_iff.mp parses
  rw [mapM_eq_some_iff] at each
  refine List.eq_nil_iff_forall_not_mem.mpr fun criterion member => ?_
  have listed : some (some criterion) ∈ parsed.map some :=
    List.mem_map_of_mem (List.reduceOption_mem_iff.mp member)
  rw [← each] at listed
  obtain ⟨dom,-,read⟩ := List.mem_map.mp listed
  obtain ⟨rawDom,-,parsed⟩ := Option.bind_eq_some_iff.mp read
  exact absurd (parseCriterion_none parsed) (by simp)

theorem parseRule_domainList {directAdapter : AdapterFactory} {each : Yaml} {rule : Option Rule}
    (parses : parseRule inet directAdapter each = some rule)
    (type : (each.get "type").string? = some "domainlist".toList) :
    ∃ adapter, rule = some (.domainListRule adapter []) := by
  simp only [parseRule,type,Option.bind_eq_bind,Option.bind_eq_some_iff,Option.some.injEq] at parses
  obtain ⟨adapter,_,_,rfl,parses⟩ := parses
  rw [if_pos rfl] at parses
  simp only [Option.bind_eq_some_iff,Option.some.injEq] at parses
  obtain ⟨_,_,criteria,parsed,rfl⟩ := parses
  rw [parseCriteria_nil parsed]
  exact ⟨adapter,rfl⟩

/-- The domain rules mean what they say exactly where the file states none. -/
theorem domainRulesMeant_iff {conf : Settings} {value : Yaml} {file : List Yaml} {manager : RuleManager}
    (found : (value.get "rule").array? = some file)
    (accepted : ruleManager inet lowercased provider conf value = some manager) :
    DomainRulesMeant inet (directAdapterFactory conf.useGlobalMode) file manager ↔
      ∀ each ∈ file, ∀ entry ∈ domainEntries each, stated entry = none := by
  obtain ⟨file',parsed,nodes,found',parses,-⟩ := userRules_some (ruleManager_some accepted)
  obtain rfl : file = file' := Option.some.inj (found.symm.trans found')
  constructor
  · intro meant each member entry listed
    by_contra states
    obtain ⟨criterion,stated⟩ := Option.ne_none_iff_exists'.mp states
    have type : (each.get "type").string? = some "domainlist".toList := by
      unfold domainEntries at listed
      split at listed
      · assumption
      · simp at listed
    have built : parseRule inet (directAdapterFactory conf.useGlobalMode) each ∈ parsed.map some := by
      rw [← parses]
      exact List.mem_map_of_mem member
    obtain ⟨rule,-,read⟩ := List.mem_map.mp built
    obtain ⟨adapter,rfl⟩ := parseRule_domainList read.symm type
    exact absurd (meant.criteria each member _ read.symm entry listed criterion stated) List.not_mem_nil
  · intro silent
    refine ⟨fun each member rule _ entry listed criterion stated => ?_,
      fun before each after split session _ ⟨entry,listed,criterion,stated,_⟩ => ?_⟩
    · rw [silent each member entry listed] at stated
      cases stated
    · have member : each ∈ file := by simp [split]
      rw [silent each member entry listed] at stated
      cases stated

theorem domainRulesMeant_localhost : ∃ manager, ruleManager dottedQuad id ⟨[],[]⟩ (settingsOf false)
    (.dictionary [("rule".toList,.array (fileOf "localhost"))]) = some manager ∧
      DomainRulesMeant dottedQuad (directAdapterFactory false) (fileOf "localhost") manager := by
  have loads : (ruleManager dottedQuad id ⟨[],[]⟩ (settingsOf false)
      (.dictionary [("rule".toList,.array (fileOf "localhost"))])).isSome = true :=
    ruleManager_isSome rfl rfl (dottedQuad_nodeRanges _)
  obtain ⟨manager,accepted⟩ := Option.isSome_iff_exists.mp loads
  refine ⟨manager,accepted,(domainRulesMeant_iff rfl accepted).mpr fun each member entry listed => ?_⟩
  rw [List.mem_singleton.mp member] at listed
  rw [List.mem_singleton.mp listed]
  rfl

/-- The rule built for the entry `s,apple.com` has no criteria. -/
theorem domainRules_dropped : ∃ manager, ruleManager dottedQuad id ⟨[],[]⟩ (settingsOf false)
    (.dictionary [("rule".toList,.array (fileOf "s,apple.com"))]) = some manager ∧
      ¬DomainRulesMeant dottedQuad (directAdapterFactory false) (fileOf "s,apple.com") manager := by
  obtain ⟨manager,accepted⟩ := Option.isSome_iff_exists.mp (ruleManager_apple false)
  refine ⟨manager,accepted,fun meant => ?_⟩
  have built := meant.criteria _ (List.mem_singleton.mpr rfl) (.domainListRule .direct []) rfl
    "s,apple.com".toList (List.mem_singleton.mpr rfl) (.suffix "apple.com".toList) rfl
  exact absurd built List.not_mem_nil

end PacketTunnelProvider
end TenonVpn
