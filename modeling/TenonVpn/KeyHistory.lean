import TenonVpn.Recharge

/-! The two copies of the private key: the history `all_private_key` in the user defaults and
the value in the keychain item. `keeped_private_kyes` is never filled, so the history holds
the last key alone, and `SavePrivateKey` wipes the keychain copy that it wrote first. -/
namespace TenonVpn
open TenonP2pLib

inductive KeyCall
  | savePrivateKey (prikeyIn : Text)
  | getPrivateKey
  | restart

/-- The calls that concern either copy. -/
inductive StoreCall
  | key (call : KeyCall)
  | resetPrivateKey (answer prikey : Text)
  | getBalance (ledger : Ledger)

namespace TenonP2pLib

def installed (item : Option KeychainItemData) (group : UserDefaults) : TenonApp :=
  launch ⟨KeychainItemWrapper.initWithIdentifier item,UserDefaults.empty,group,⟨0,0,[],-1,-1,[],[],[]⟩⟩

/-- The keys that `SavePrivateKey` accepts are reported. -/
def performKey (app : TenonApp) : KeyCall → List Text × TenonApp
  | .savePrivateKey prikeyIn =>
    let (saved,accepted) := savePrivateKey app prikeyIn
    (if accepted then [Text.trimming ' ' prikeyIn] else [],saved)
  | .getPrivateKey => ([],(getPrivateKey app).1)
  | .restart => ([],launch app)

def keyCalls : Machine TenonApp KeyCall Text where
  step app call := ((performKey app call).1,some (performKey app call).2)

/-- A trap in `GetBalance` ends the process. -/
def performStore (app : TenonApp) : StoreCall → TenonApp
  | .key call => (performKey app call).2
  | .resetPrivateKey answer prikey => (resetPrivateKey (fun _ => answer) app prikey).1
  | .getBalance ledger =>
    let (keychain,balance) := getBalance app.keychain ledger
    if balance.isSome then {app with keychain} else launch {app with keychain}

def storeCalls : Machine TenonApp StoreCall Empty := ⟨fun app call => ([],some (performStore app call))⟩

/-- The distinct accepted keys in order of last acceptance, latest first. -/
def lastAccepted : Monitor (List Text) Text := ⟨fun keys key => key :: keys.erase key,fun _ _ => True⟩

/-- The stored history is the bounded list of the accepted keys. -/
structure History (state : TenonApp × List Text) : Prop where
  stored : (state.1.standard.string keyAllPrivateKey).getD [] = [','].intercalate state.2
  bounded : state.2.length ≤ 3
  latest : (getPrivateKey state.1).2 = state.2.head?.getD []

/-- A key that is accepted while `keeped_private_kyes` is empty. -/
def accepted : KeyCall → Option Text
  | .savePrivateKey prikeyIn =>
    if (Text.trimming ' ' prikeyIn).length = 64 then some (Text.trimming ' ' prikeyIn) else none
  | .getPrivateKey | .restart => none

/-- The whole history is one key, and it survives the splitting at commas. -/
def OneKey (keys : List Text) : Prop := ∀ key ∈ keys, ',' ∉ key ∧ ∀ other ∈ keys, other = key

theorem getPrivateKey_answer (app : TenonApp) : (getPrivateKey app).2 = (storedKeys app.standard).head?.getD [] := by
  unfold getPrivateKey
  split <;> next stored => rw [stored]; rfl

theorem getPrivateKey_frame (app : TenonApp) :
    (getPrivateKey app).1.standard = app.standard ∧ (getPrivateKey app).1.p2p = app.p2p := by
  unfold getPrivateKey
  split <;> exact ⟨rfl,rfl⟩

theorem launch_frame (app : TenonApp) :
    (launch app).standard = app.standard ∧ (launch app).p2p.keepedPrivateKyes = [] := by
  unfold launch
  dsimp only
  constructor
  · rw [(getPrivateKey_frame _).1]
  · rw [(getPrivateKey_frame _).2]

theorem savedDefaults_string (group : UserDefaults) (key : Text) :
    (savedDefaults group key []).string keyAllPrivateKey = some key := by
  have other : keyAllPrivateKey ≠ keyLeftFreeUseTimeMilli := by decide
  simp [savedDefaults,UserDefaults.string,UserDefaults.set,Function.update_of_ne other]

theorem takes_iff {app : TenonApp} (empty : app.p2p.keepedPrivateKyes = []) {prikeyIn : Text} :
    ViewController.Takes app prikeyIn ↔ (Text.trimming ' ' prikeyIn).length = 64 := by
  simp [ViewController.Takes,empty]

/-- With an empty list `SavePrivateKey` accepts a key by its length, and stores it alone. -/
theorem savePrivateKey_accepted {app : TenonApp} {prikeyIn : Text} (empty : app.p2p.keepedPrivateKyes = [])
    (full : (Text.trimming ' ' prikeyIn).length = 64) : savePrivateKey app prikeyIn = ({app with
      keychain := (app.keychain.perform (.setKeyChainPrikey prikeyIn)).perform .clearKeyChain
      standard := savedDefaults app.group (Text.trimming ' ' prikeyIn) []},true) := by
  rw [ViewController.savePrivateKey_takes ((takes_iff empty).mpr full)]
  obtain ⟨keychain,standard,group,timestamp,amount,gid,days,balance,account,privateKey,keeped⟩ := app
  cases empty
  rfl

theorem savePrivateKey_refused {app : TenonApp} {prikeyIn : Text} (empty : app.p2p.keepedPrivateKyes = [])
    (short : (Text.trimming ' ' prikeyIn).length ≠ 64) : savePrivateKey app prikeyIn =
      ({app with keychain := app.keychain.perform (.setKeyChainPrikey prikeyIn)},false) := by
  rw [ViewController.savePrivateKey_rejects (mt (takes_iff empty).mp short)]
  simp [short]

theorem performKey_accepted {app : TenonApp} {call : KeyCall} {key : Text} (empty : app.p2p.keepedPrivateKyes = [])
    (taken : accepted call = some key) : (performKey app call).1 = [key] ∧ key.length = 64 ∧
      (performKey app call).2.standard = savedDefaults app.group key [] ∧
      (performKey app call).2.p2p.keepedPrivateKyes = [] := by
  cases call with
  | savePrivateKey prikeyIn =>
    obtain ⟨full,same⟩ := Option.ite_none_right_eq_some.mp taken
    cases same
    rw [performKey,savePrivateKey_accepted empty full]
    exact ⟨rfl,full,rfl,empty⟩
  | getPrivateKey => cases taken
  | restart => cases taken

theorem performKey_ignored {app : TenonApp} {call : KeyCall} (empty : app.p2p.keepedPrivateKyes = [])
    (ignored : accepted call = none) : (performKey app call).1 = [] ∧
      (performKey app call).2.standard = app.standard ∧
      (performKey app call).2.p2p.keepedPrivateKyes = [] := by
  cases call with
  | savePrivateKey prikeyIn =>
    have short : (Text.trimming ' ' prikeyIn).length ≠ 64 := fun full => by simp [accepted,full] at ignored
    rw [performKey,savePrivateKey_refused empty short]
    exact ⟨rfl,rfl,empty⟩
  | getPrivateKey =>
    obtain ⟨standard,p2p⟩ := getPrivateKey_frame app
    exact ⟨rfl,standard,p2p ▸ empty⟩
  | restart => exact ⟨rfl,launch_frame app⟩

theorem history_single {app : TenonApp} {key : Text} (full : key.length = 64)
    (stored : app.standard.string keyAllPrivateKey = some key) : History (app,[key]) ↔ ',' ∉ key := by
  have present : key ≠ [] := by
    rintro rfl
    cases full
  have answer : (getPrivateKey app).2 = (Text.split ',' key).head?.getD [] := by
    rw [getPrivateKey_answer,storedKeys,stored]
    rfl
  constructor
  · intro history
    exact (Text.head_split_eq_iff present).mp (answer.symm.trans history.latest)
  · intro free
    refine ⟨by simp [stored],by simp,?_⟩
    exact answer.trans ((Text.head_split_eq_iff present).mpr free)

theorem history_two {app : TenonApp} {key : Text} {keys : List Text}
    (stored : app.standard.string keyAllPrivateKey = some key) (more : keys ≠ []) : ¬History (app,key :: keys) := by
  intro history
  have joined := congrArg List.length history.stored
  rw [stored,Option.getD_some,List.intercalate_cons_of_ne_nil more] at joined
  simp only [List.length_append,List.length_singleton] at joined
  omega

theorem history_empty {app : TenonApp} (stored : app.standard.string keyAllPrivateKey = none) : History (app,[]) where
  stored := by simp [stored]
  bounded := by simp
  latest := by
    rw [getPrivateKey_answer,storedKeys,stored]
    rfl

/-- What the run has stored so far: nothing, or the one key accepted. -/
structure Alone (state : TenonApp × List Text) : Prop where
  empty : state.1.p2p.keepedPrivateKyes = []
  stored : state.2 = [] ∧ state.1.standard.string keyAllPrivateKey = none ∨
    ∃ key, state.2 = [key] ∧ key.length = 64 ∧ ',' ∉ key ∧ state.1.standard.string keyAllPrivateKey = some key

theorem Alone.history {state : TenonApp × List Text} (alone : Alone state) : History state := by
  obtain ⟨app,keys⟩ := state
  rcases alone.stored with ⟨rfl,absent⟩ | ⟨key,rfl,full,free,stored⟩
  · exact history_empty absent
  · exact (history_single full stored).mpr free

theorem Alone.oneKey {app : TenonApp} {keys : List Text} (alone : Alone (app,keys)) : OneKey keys := by
  rcases alone.stored with ⟨rfl,-⟩ | ⟨key,rfl,-,free,-⟩
  · simp [OneKey]
  · simpa [OneKey] using free

theorem visits_cons (app : TenonApp) (keys : List Text) (call : KeyCall) (rest : List KeyCall) :
    (keyCalls.watch lastAccepted).Visits History (app,keys) (call :: rest) ↔
      History (app,keys) ∧ (keyCalls.watch lastAccepted).Visits History
        ((performKey app call).2,lastAccepted.after keys (performKey app call).1) rest := by
  simp [Machine.Visits,Machine.watch,keyCalls]

/-- The induction is on the calls; the run stays in `Alone` up to the first key that breaks it. -/
theorem visits_history_iff {app : TenonApp} {keys : List Text} {calls : List KeyCall} (alone : Alone (app,keys)) :
    (keyCalls.watch lastAccepted).Visits History (app,keys) calls ↔ OneKey (keys ++ calls.filterMap accepted) := by
  induction calls generalizing app keys with
  | nil => simpa [Machine.Visits,alone.history] using alone.oneKey
  | cons call rest ih =>
    rw [visits_cons,and_iff_right alone.history]
    cases taken : accepted call with
    | none =>
      obtain ⟨silent,same,empty⟩ := performKey_ignored alone.empty taken
      rw [silent,List.filterMap_cons_none taken]
      refine ih ⟨empty,?_⟩
      rw [same]
      exact alone.stored
    | some key =>
      obtain ⟨said,full,saved,empty⟩ := performKey_accepted alone.empty taken
      have stored : (performKey app call).2.standard.string keyAllPrivateKey = some key := by
        rw [saved,savedDefaults_string]
      have single (free : ',' ∉ key) : Alone ((performKey app call).2,[key]) :=
        ⟨empty,Or.inr ⟨key,rfl,full,free,stored⟩⟩
      rw [said,List.filterMap_cons_some taken]
      rcases alone.stored with ⟨rfl,-⟩ | ⟨first,rfl,-,free,-⟩
      · by_cases free : ',' ∉ key
        · exact ih (single free)
        · refine iff_of_false (fun visits => free ((history_single full stored).mp visits.first)) (fun one => ?_)
          exact free (one key List.mem_cons_self).1
      · by_cases same : first = key
        · subst same
          have again : lastAccepted.after [first] [first] = [first] := by simp [lastAccepted,Monitor.after]
          rw [again,ih (single free)]
          simp [OneKey]
        · have two : lastAccepted.after [first] [key] = [key,first] := by
            simp [lastAccepted,Monitor.after,List.erase_cons_tail,same]
          rw [two]
          refine iff_of_false (fun visits => history_two stored (by simp) visits.first) (fun one => same ?_)
          exact (one key (by simp)).2 first List.mem_cons_self

theorem installed_frame (item : Option KeychainItemData) (group : UserDefaults) :
    (installed item group).standard.string keyAllPrivateKey = none ∧
      (installed item group).p2p.keepedPrivateKyes = [] := by
  obtain ⟨standard,empty⟩ := launch_frame ⟨KeychainItemWrapper.initWithIdentifier item,UserDefaults.empty,group,
    ⟨0,0,[],-1,-1,[],[],[]⟩⟩
  exact ⟨by rw [installed,standard]; rfl,empty⟩

theorem installed_alone (item : Option KeychainItemData) (group : UserDefaults) : Alone (installed item group,[]) :=
  ⟨(installed_frame item group).2,Or.inl ⟨rfl,(installed_frame item group).1⟩⟩

/-- The history is the bounded list of all accepted keys exactly where one key is accepted at
most, however often, and has no comma. -/
theorem history_iff (item : Option KeychainItemData) (group : UserDefaults) (calls : List KeyCall) :
    (keyCalls.watch lastAccepted).Visits History (installed item group,[]) calls ↔
      OneKey (calls.filterMap accepted) :=
  visits_history_iff (installed_alone item group)

theorem second_key_replaces : ¬∀ item group calls,
    (keyCalls.watch lastAccepted).Visits History (installed item group,[]) calls := by
  intro kept
  have visits := kept none .empty [.savePrivateKey (List.replicate 64 '1'),.savePrivateKey (List.replicate 64 '2')]
  have one := (visits_history_iff (installed_alone none .empty)).mp visits
  exact absurd ((one (List.replicate 64 '1') (by decide)).2 (List.replicate 64 '2') (by decide)) (by decide)

/-- Where the history has a key, the keychain item holds it too. -/
def Agree (app : TenonApp) : Prop :=
  storedKeys app.standard ≠ [] →
    app.keychain.item.map KeychainItemData.valueData = some (getPrivateKey app).2

def acceptedBy : StoreCall → Option Text
  | .key call => accepted call
  | .resetPrivateKey answer prikey =>
    if (Text.split ',' answer).length = 2 then accepted (.savePrivateKey prikey) else none
  | .getBalance _ => none

theorem performKey_wipes {app : TenonApp} {call : KeyCall} {key : Text} (empty : app.p2p.keepedPrivateKyes = [])
    (taken : accepted call = some key) : (performKey app call).2.keychain.item = none := by
  cases call with
  | savePrivateKey prikeyIn =>
    obtain ⟨full,-⟩ := Option.ite_none_right_eq_some.mp taken
    rw [performKey,savePrivateKey_accepted empty full]
    rfl
  | getPrivateKey => cases taken
  | restart => cases taken

theorem resetPrivateKey_frame (answer prikey : Text) (app : TenonApp) :
    (resetPrivateKey (fun _ => answer) app prikey).1 =
      if (Text.split ',' answer).length = 2 then
        (performKey {app with p2p := {app.p2p with
          privateKey := prikey
          accountId := ((Text.split ',' answer)[1]?).getD []}} (.savePrivateKey prikey)).2
      else app := by
  unfold resetPrivateKey
  split
  · next first account fields => simp [fields,performKey]
  · next other =>
    rw [if_neg]
    intro two
    obtain ⟨first,account,fields⟩ := List.length_eq_two.mp two
    exact other first account fields

theorem performStore_accepted {app : TenonApp} {call : StoreCall} {key : Text} (empty : app.p2p.keepedPrivateKyes = [])
    (taken : acceptedBy call = some key) : (performStore app call).keychain.item = none ∧
      (performStore app call).standard = savedDefaults app.group key [] ∧
      (performStore app call).p2p.keepedPrivateKyes = [] := by
  cases call with
  | key call =>
    obtain ⟨-,-,saved,kept⟩ := performKey_accepted empty taken
    exact ⟨performKey_wipes empty taken,saved,kept⟩
  | resetPrivateKey answer prikey =>
    obtain ⟨two,taken⟩ := Option.ite_none_right_eq_some.mp taken
    rw [performStore,resetPrivateKey_frame,if_pos two]
    generalize changed : ({app with p2p := _} : TenonApp) = other
    have empty' : other.p2p.keepedPrivateKyes = [] := changed ▸ empty
    have group : other.group = app.group := by rw [← changed]
    obtain ⟨-,-,saved,kept⟩ := performKey_accepted empty' taken
    exact ⟨performKey_wipes empty' taken,group ▸ saved,kept⟩
  | getBalance ledger => cases taken

theorem performStore_ignored {app : TenonApp} {call : StoreCall} (empty : app.p2p.keepedPrivateKyes = [])
    (ignored : acceptedBy call = none) : (performStore app call).standard = app.standard ∧
      (performStore app call).p2p.keepedPrivateKyes = [] := by
  cases call with
  | key call => exact (performKey_ignored empty ignored).2
  | resetPrivateKey answer prikey =>
    rw [performStore,resetPrivateKey_frame]
    split
    · next two =>
      generalize changed : ({app with p2p := _} : TenonApp) = other
      have empty' : other.p2p.keepedPrivateKyes = [] := changed ▸ empty
      have standard : other.standard = app.standard := by rw [← changed]
      rw [acceptedBy,if_pos two] at ignored
      exact standard ▸ (performKey_ignored empty' ignored).2
    · exact ⟨rfl,empty⟩
  | getBalance ledger =>
    rw [performStore]
    dsimp only
    split
    · exact ⟨rfl,empty⟩
    · exact launch_frame _

theorem visits_agree_iff {app : TenonApp} {calls : List StoreCall} (empty : app.p2p.keepedPrivateKyes = [])
    (unset : storedKeys app.standard = []) : storeCalls.Visits Agree app calls ↔
      ∀ call ∈ calls, ∀ key ∈ acceptedBy call, ∀ c ∈ key, c = ',' := by
  induction calls generalizing app with
  | nil =>
    have agrees : Agree app := fun present => absurd unset present
    simpa [Machine.Visits] using agrees
  | cons call rest ih =>
    have agrees : Agree app := fun present => absurd unset present
    have visits : storeCalls.Visits Agree app (call :: rest) ↔
        storeCalls.Visits Agree (performStore app call) rest := by
      simp [Machine.Visits,storeCalls,agrees]
    rw [visits,List.forall_mem_cons]
    cases taken : acceptedBy call with
    | none =>
      obtain ⟨same,kept⟩ := performStore_ignored empty taken
      have unset' : storedKeys (performStore app call).standard = [] := by rw [same,unset]
      have later := ih kept unset'
      rw [later]
      simp
    | some key =>
      obtain ⟨wiped,saved,kept⟩ := performStore_accepted empty taken
      have stored : storedKeys (performStore app call).standard = Text.split ',' key := by
        rw [storedKeys,saved,savedDefaults_string]
        rfl
      by_cases commas : ∀ c ∈ key, c = ','
      · have unset' : storedKeys (performStore app call).standard = [] := by
          rw [stored,Text.split_eq_nil_iff.mpr commas]
        have later := ih kept unset'
        rw [later]
        simpa using fun _ => commas
      · refine iff_of_false (fun visited => ?_) (fun all => commas (all.1 key rfl))
        have disagrees := visited.first (by rw [stored]; exact mt Text.split_eq_nil_iff.mp commas)
        rw [wiped] at disagrees
        cases disagrees

/-- The copies agree in every state exactly where no key but one of commas alone is accepted. -/
theorem copies_agree_iff (item : Option KeychainItemData) (group : UserDefaults) (calls : List StoreCall) :
    storeCalls.Visits Agree (installed item group) calls ↔
      ∀ call ∈ calls, ∀ key ∈ acceptedBy call, ∀ c ∈ key, c = ',' := by
  obtain ⟨unset,empty⟩ := installed_frame item group
  refine visits_agree_iff empty ?_
  rw [storedKeys,unset]
  rfl

theorem saved_key_disagrees : ¬∀ item group calls, storeCalls.Visits Agree (installed item group) calls := by
  intro agree
  obtain ⟨unset,empty⟩ := installed_frame none .empty
  have unset' : storedKeys (installed none .empty).standard = [] := by
    rw [storedKeys,unset]
    rfl
  have commas := (visits_agree_iff empty unset').mp (agree none .empty [.key (.savePrivateKey (List.replicate 64 '1'))])
  exact absurd (commas _ List.mem_cons_self (List.replicate 64 '1') (by decide) '1' (by decide)) (by decide)

end TenonP2pLib
end TenonVpn
