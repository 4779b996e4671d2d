import TenonVpn.Recharge

/-! What the turns of `World.turn` can do. A turn either handles a batch of exactly one
`Purchased` transaction (`Handles`), and then perhaps stores a completion (`Completes`),
or it is one of `turn_cases`: quiet, a `GetBalance` or a change of the key. -/
namespace TenonVpn

def Page.Selects (page : Page) : Option Plan → Prop
  | none => page.selectIdx = -1 ∧ page.selectAppleGoodsID = []
  | some plan => page.selectIdx = plan.selectIdx ∧ page.selectAppleGoodsID = plan.selectAppleGoodsID

def Effect.Stores : Effect → Prop
  | .recording _ _ | .recorded _ | .post (.complete _ _ _ _) => True
  | _ => False

namespace World
open TenonP2pLib

/-- The main queue comes to a batch of exactly one transaction, which is `Purchased`. -/
def Handles (w : World) (environment : Environment) (index : Nat) (transaction : SKPaymentTransaction) :
    RechargeEvent → Prop
  | .mainQueue answered => answered = environment ∧
    w.mainQueue.head? = some (.updatedTransactions index [transaction]) ∧
    transaction.transactionState = .purchased
  | _ => False

/-- An effect that leaves the keychain and the history alone and touches no paid
transaction but those that a posted completion or a queued block has. -/
def Quiet (w : World) : Effect → Prop
  | .finishTransaction transaction =>
    transaction.transactionState ≠ .purchased ∨ .finishTransaction transaction ∈ w.mainQueue
  | .dispatch (.finishTransaction transaction) =>
    ∃ account receipt type, .complete transaction account receipt type ∈ w.posts
  | .addPage page => page.Selects none
  | .setPage index page => (∃ plan, page.Selects (some plan)) ∨
    ∃ before, w.pages[index]? = some before ∧ ∀ choice, before.Selects choice → page.Selects choice
  | .setApp _ | .keychain _ | .confirmed | .rekeyed => False
  | .recording _ _ | .recorded _ | .post (.complete _ _ _ _) => False
  | _ => True

/-- The keychain operations of a change of the key; where they drop the records the turn
notes it. -/
def KeyOps (ops : List KeychainOp) (noted : List Effect) : Prop :=
  noted = [] ∧ (∀ op ∈ ops, ∃ prikey, op = .setKeyChainPrikey prikey) ∨
    noted = [.rekeyed] ∧
      (ops = keylessOps ∨ ∀ op ∈ ops, (∃ prikey, op = .setKeyChainPrikey prikey) ∨ op = .clearKeyChain)

theorem handles_or (w : World) (event : RechargeEvent) :
    (∃ environment index transaction, w.Handles environment index transaction event) ∨
      ∀ environment index transaction, ¬w.Handles environment index transaction event := by
  by_cases handled : ∃ environment index transaction, w.Handles environment index transaction event
  · exact Or.inl handled
  · exact Or.inr (fun environment index transaction handles => handled ⟨environment,index,transaction,handles⟩)

theorem forall_onPage {w : World} {index : Nat} {effects : Page → List Effect} {P : Effect → Prop}
    (each : ∀ page, w.pages[index]? = some page → ∀ o ∈ effects page, P o) : ∀ o ∈ w.onPage index effects, P o := by
  unfold onPage
  split
  · simp
  · next page found => exact each page found

theorem quiet_tapPlan {w : World} (index : Nat) (page : Page) (plan : Plan) (timestamp : Text) :
    ∀ o ∈ RechargeViewController.tapPlan w index page plan timestamp, w.Quiet o := by
  refine List.forall_mem_cons.mpr ⟨Or.inl ⟨plan,rfl,rfl⟩,?_⟩
  split <;> simp [Quiet]

theorem quiet_requestRechargeInterface {w : World} {index : Nat} {before page : Page}
    (found : w.pages[index]? = some before) (same : ∀ choice, before.Selects choice → page.Selects choice) :
    ∀ o ∈ RechargeViewController.requestRechargeInterface w index page, w.Quiet o := by
  unfold RechargeViewController.requestRechargeInterface
  split
  · refine List.forall_mem_singleton.mpr (Or.inr ⟨before,found,fun choice selects => ?_⟩)
    cases choice <;> exact same _ selects
  · simp [Quiet]

theorem quiet_productsResponse {w : World} (page : Page) (products : List Text) :
    ∀ o ∈ RechargeViewController.productsResponse page products, w.Quiet o := by
  unfold RechargeViewController.productsResponse
  split
  · split <;> simp [Quiet]
  · simp

theorem quiet_authAnswer {w : World} {post : Post} (posted : post ∈ w.posts) :
    ∀ o ∈ RechargeViewController.authAnswer post, w.Quiet o := by
  cases post with
  | complete transaction account receipt type =>
    exact List.forall_mem_singleton.mpr ⟨account,receipt,type,posted⟩
  | retry page account receipt type => simp [RechargeViewController.authAnswer,Quiet]
  | mainRetry account receipt type => simp [RechargeViewController.authAnswer]

variable (ccSha256 : Text → Fin 32 → Fin 256)

theorem quiet_runBlock {w : World} {environment : Environment} {block : Block} (queued : block ∈ w.mainQueue)
    (other : ∀ index transaction, block = .updatedTransactions index [transaction] →
      transaction.transactionState ≠ .purchased) :
    ∀ o ∈ RechargeViewController.runBlock ccSha256 w environment block, w.Quiet o := by
  cases block with
  | orderToApplePay index =>
    simp only [RechargeViewController.runBlock]
    split
    · simp
    · split <;> simp [Quiet]
  | updatedTransactions index transactions =>
    simp only [RechargeViewController.runBlock,RechargeViewController.updatedTransactions]
    split
    · next tran =>
      have unpaid := other index tran rfl
      split
      · next purchased => exact absurd purchased unpaid
      all_goals simp_all [Quiet]
    · simp
  | finishTransaction transaction => exact List.forall_mem_singleton.mpr (Or.inr queued)
  | scheduleRechargeTimer index =>
    simp only [RechargeViewController.runBlock]
    split
    · simp
    · next page found =>
      exact List.forall_mem_singleton.mpr (Or.inr ⟨page,found,fun choice selects => by cases choice <;> exact selects⟩)

def KeyTurn (w : World) (effects : List Effect) : Prop :=
  ∃ app ops noted, effects = .setApp app :: noted ∧ app.keychain = w.app.keychain.performs ops ∧ KeyOps ops noted

theorem keyTurn_getPrivateKey (w : World) : w.KeyTurn (turn ccSha256 w .getPrivateKey) := by
  simp only [turn,getPrivateKey]
  cases storedKeys w.app.standard with
  | nil => exact ⟨_,keylessOps,_,rfl,rfl,Or.inr ⟨rfl,Or.inl rfl⟩⟩
  | cons first rest => exact ⟨_,[],_,rfl,rfl,Or.inl ⟨rfl,by simp⟩⟩

theorem savePrivateKey_keychain (app : TenonApp) (prikey : Text) : (savePrivateKey app prikey).1.keychain =
    app.keychain.performs (.setKeyChainPrikey prikey ::
      if (savePrivateKey app prikey).2 then [.clearKeyChain] else []) := by
  by_cases takes : ViewController.Takes app prikey
  · rw [ViewController.savePrivateKey_takes takes]
    rfl
  · rw [ViewController.savePrivateKey_rejects takes]
    rfl

theorem keyTurn_savePrivateKey (w : World) (prikey : Text) :
    w.KeyTurn (turn ccSha256 w (.savePrivateKey prikey)) := by
  refine ⟨_,_,_,rfl,savePrivateKey_keychain w.app prikey,?_⟩
  cases (savePrivateKey w.app prikey).2 with
  | false => exact Or.inl ⟨rfl,by simp⟩
  | true => exact Or.inr ⟨rfl,Or.inr (by simp)⟩

theorem savePrivateKey_result {app changed : TenonApp}
    (same : changed.p2p.keepedPrivateKyes = app.p2p.keepedPrivateKyes) (prikey : Text) :
    (savePrivateKey changed prikey).2 = (savePrivateKey app prikey).2 := by
  unfold savePrivateKey
  simp only [same]
  split
  · rfl
  · split <;> rfl

theorem resetPrivateKey_keychain (reset : Text → Text) (app : TenonApp) (prikey : Text) :
    (TenonP2pLib.resetPrivateKey reset app prikey).1.keychain = app.keychain.performs
      (if (TenonP2pLib.resetPrivateKey reset app prikey).2 then
        .setKeyChainPrikey prikey :: if (savePrivateKey app prikey).2 then [.clearKeyChain] else []
      else []) := by
  unfold TenonP2pLib.resetPrivateKey
  split
  · next first account answer =>
    have kept : (savePrivateKey {app with p2p := {app.p2p with
        privateKey := prikey, accountId := account}} prikey).2 = (savePrivateKey app prikey).2 :=
      savePrivateKey_result (by rfl) prikey
    simp only [if_true,savePrivateKey_keychain,kept]
  · rfl

theorem keyTurn_libResetPrivateKey (w : World) (reset : Text → Text) (prikey : Text) :
    w.KeyTurn (turn ccSha256 w (.libResetPrivateKey reset prikey)) := by
  refine ⟨_,_,_,rfl,resetPrivateKey_keychain reset w.app prikey,?_⟩
  cases (TenonP2pLib.resetPrivateKey reset w.app prikey).2 with
  | false => exact Or.inl ⟨by simp,by simp⟩
  | true =>
    cases (savePrivateKey w.app prikey).2 with
    | false => exact Or.inl ⟨by simp,by simp⟩
    | true => exact Or.inr ⟨by simp,Or.inr (by simp)⟩

theorem controller_resetPrivateKey_keychain (reset : Text → Text) (app : TenonApp) (ss : Text) :
    ∃ ops, (ViewController.resetPrivateKey reset app ss).1.keychain = app.keychain.performs ops ∧
      KeyOps ops (if ss ≠ app.p2p.privateKey ∧ ss.length = 64 ∧ (savePrivateKey app ss).2 then [.rekeyed] else []) := by
  unfold ViewController.resetPrivateKey
  by_cases same : ss = app.p2p.privateKey
  · exact ⟨[],by simp [same,KeychainManager.performs],Or.inl ⟨by simp [same],by simp⟩⟩
  by_cases size : ss.length = 64
  swap
  · exact ⟨[],by simp [same,size,KeychainManager.performs],Or.inl ⟨by simp [size],by simp⟩⟩
  have written := savePrivateKey_keychain app ss
  simp only [same,size,if_false,ne_eq,not_true_eq_false,not_false_eq_true,true_and]
  rcases saving : savePrivateKey app ss with ⟨saved,taken⟩
  rw [saving] at written
  cases taken with
  | false => exact ⟨_,written,Or.inl ⟨rfl,by simp⟩⟩
  | true =>
    have rewritten := resetPrivateKey_keychain reset saved ss
    simp only at written
    rw [written,← KeychainManager.performs_append] at rewritten
    rcases resetting : TenonP2pLib.resetPrivateKey reset saved ss with ⟨done,answered⟩
    rw [resetting] at rewritten
    simp only [resetting]
    cases answered with
    | false => exact ⟨_,rewritten,Or.inr ⟨rfl,Or.inr (by simp)⟩⟩
    | true =>
      refine ⟨_,rewritten,Or.inr ⟨rfl,Or.inr ?_⟩⟩
      cases (savePrivateKey saved ss).2 <;> simp

theorem keyTurn_resetPrivateKey (w : World) (reset : Text → Text) (ss : Text) :
    w.KeyTurn (turn ccSha256 w (.resetPrivateKey reset ss)) := by
  obtain ⟨ops,written,keys⟩ := controller_resetPrivateKey_keychain reset w.app ss
  exact ⟨_,ops,_,rfl,written,keys⟩

/-- A turn that handles no paid transaction is quiet, or a `GetBalance` before quiet
effects, or a change of the key. -/
theorem turn_cases {w : World} {event : RechargeEvent}
    (other : ∀ environment index transaction, ¬w.Handles environment index transaction event) :
    (∀ o ∈ turn ccSha256 w event, w.Quiet o) ∨
      (∃ ledger rest, turn ccSha256 w event = getBalanceTurn w.app.keychain ledger rest ∧
        ∀ balance, ∀ o ∈ rest balance, w.Quiet o) ∨
      w.KeyTurn (turn ccSha256 w event) := by
  cases event with
  | viewDidLoad => exact Or.inl (List.forall_mem_singleton.mpr ⟨rfl,rfl⟩)
  | viewDidDisappear index =>
    refine Or.inl (forall_onPage (fun page found => List.forall_mem_singleton.mpr (Or.inr ⟨page,found,?_⟩)))
    exact fun choice selects => by cases choice <;> exact selects
  | tapPlan index plan timestamp =>
    exact Or.inl (forall_onPage (fun page _ => quiet_tapPlan index page plan timestamp))
  | productsResponse request products =>
    refine Or.inl ?_
    simp only [turn]
    split
    · simp
    · exact List.forall_mem_cons.mpr ⟨trivial,forall_onPage (fun page _ => quiet_productsResponse page products)⟩
  | beginTransaction payment =>
    refine Or.inl ?_
    simp only [turn]
    split <;> simp [Quiet]
  | changeState identifier state =>
    refine Or.inl ?_
    simp only [turn]
    split <;> simp [Quiet]
  | updatedTransactions index identifiers =>
    refine Or.inl (forall_onPage (fun page _ => ?_))
    simp only
    split <;> simp [Quiet]
  | mainQueue environment =>
    refine Or.inl ?_
    simp only [turn]
    split
    · simp
    · next block rest queued =>
      refine List.forall_mem_cons.mpr ⟨trivial,quiet_runBlock ccSha256 (by simp [queued]) ?_⟩
      rintro index transaction rfl purchased
      exact other environment index transaction ⟨rfl,by simp [queued],purchased⟩
  | authAnswer post status =>
    refine Or.inl ?_
    simp only [turn]
    split
    · simp
    · next answered found =>
      exact List.forall_mem_cons.mpr ⟨trivial,quiet_authAnswer (List.mem_of_getElem? found)⟩
  | rechargeTimer index =>
    refine Or.inl (forall_onPage (fun page found => ?_))
    split
    · have same (choice) (selects : page.Selects choice) :
          {page with rechargeTimer := false}.Selects choice := by cases choice <;> exact selects
      exact List.forall_mem_cons.mpr ⟨Or.inr ⟨page,found,same⟩,quiet_requestRechargeInterface found same⟩
    · simp
  | mainRequestRechargeInterface ledger =>
    simp only [turn,MainViewController.requestRechargeInterface]
    split
    · exact Or.inr (Or.inl ⟨ledger,_,rfl,by simp [Quiet]⟩)
    · exact Or.inl (by simp)
  | getBalance ledger => exact Or.inr (Or.inl ⟨ledger,_,rfl,by simp⟩)
  | getPrivateKey => exact Or.inr (Or.inr (keyTurn_getPrivateKey ccSha256 w))
  | savePrivateKey prikey => exact Or.inr (Or.inr (keyTurn_savePrivateKey ccSha256 w prikey))
  | libResetPrivateKey reset prikey =>
    exact Or.inr (Or.inr (keyTurn_libResetPrivateKey ccSha256 w reset prikey))
  | resetPrivateKey reset ss => exact Or.inr (Or.inr (keyTurn_resetPrivateKey ccSha256 w reset ss))
  | restart => exact Or.inl (List.forall_mem_singleton.mpr trivial)

def Plain (w : World) (o : Effect) : Prop :=
  w.Quiet o ∨ (∃ app, o = .setApp app) ∨ (∃ op, o = .keychain op) ∨ o = .confirmed ∨ o = .rekeyed ∨ o = .restart

theorem mem_getBalanceTurn {manager : KeychainManager} {ledger : Ledger} {rest : Nat → List Effect} {o : Effect}
    (member : o ∈ getBalanceTurn manager ledger rest) :
    (∃ op, o = .keychain op) ∨ o = .confirmed ∨ o = .restart ∨
      ∃ balance, (getBalance manager ledger).2 = some balance ∧ o ∈ rest balance := by
  unfold getBalanceTurn at member
  rcases List.mem_append.mp member with before | after
  · rcases List.mem_append.mp before with written | confirmed
    · obtain ⟨op,_,rfl⟩ := List.mem_map.mp written
      exact Or.inl ⟨op,rfl⟩
    · split at confirmed <;> simp_all
  · cases result : (getBalance manager ledger).2 with
    | none => simp_all
    | some balance => exact Or.inr (Or.inr (Or.inr ⟨balance,rfl,by simpa [result] using after⟩))

theorem plain_turn {w : World} {event : RechargeEvent}
    (other : ∀ environment index transaction, ¬w.Handles environment index transaction event) :
    ∀ o ∈ turn ccSha256 w event, w.Plain o := by
  intro o member
  rcases turn_cases ccSha256 other with quiet | ⟨ledger,rest,balanced,quiet⟩ | ⟨app,ops,noted,keyed,_,keys⟩
  · exact Or.inl (quiet o member)
  · rw [balanced] at member
    rcases mem_getBalanceTurn member with written | rfl | rfl | ⟨balance,_,after⟩
    · exact Or.inr (Or.inr (Or.inl written))
    · simp [Plain]
    · simp [Plain]
    · exact Or.inl (quiet balance o after)
  · rw [keyed] at member
    rcases List.mem_cons.mp member with rfl | noted_member
    · simp [Plain]
    · rcases keys with ⟨rfl,_⟩ | ⟨rfl,_⟩
      · simp at noted_member
      · simp_all [Plain]

theorem handles_turn {w : World} {environment : Environment} {index : Nat}
    {transaction : SKPaymentTransaction} {event : RechargeEvent}
    (handles : w.Handles environment index transaction event) : turn ccSha256 w event =
      .dequeue :: .finishTransaction transaction :: w.onPage index (fun page =>
        RechargeViewController.completeTransaction ccSha256 w index page transaction environment) := by
  cases event with
  | mainQueue answered =>
    obtain ⟨rfl,head,purchased⟩ := handles
    cases queued : w.mainQueue with
    | nil => simp [queued] at head
    | cons block rest =>
      obtain rfl : block = .updatedTransactions index [transaction] := by simpa [queued] using head
      simp only [turn,queued,RechargeViewController.runBlock,RechargeViewController.updatedTransactions,purchased]
      rfl
  | _ => exact handles.elim

/-- `completeTransaction` comes to its writes: the page is there, the response parses,
`GetBalance` returns and there is a receipt. -/
structure Completes (w : World) (event : RechargeEvent) (index : Nat) (page : Page)
    (transaction : SKPaymentTransaction) (environment : Environment) (receipt : Text) (balance : Nat) : Prop where
  handles : w.Handles environment index transaction event
  page : w.pages[index]? = some page
  verified : environment.verify = .json
  returned : (getBalance w.app.keychain environment.ledger).2 = some balance
  receipt : environment.receipt = some receipt

def balanceEffects (manager : KeychainManager) (ledger : Ledger) : List Effect :=
  (getBalanceOps manager ledger).map .keychain ++ if getBalanceOps manager ledger = [] then [] else [.confirmed]

def beforeStore (w : World) (index : Nat) (page : Page) (transaction : SKPaymentTransaction)
    (environment : Environment) : List Effect :=
  [.dequeue,.finishTransaction transaction,.setPage index {page with receipt := environment.receipt}] ++
    balanceEffects w.app.keychain environment.ledger

theorem completes_turn {w : World} {event : RechargeEvent} {index : Nat} {page : Page}
    {transaction : SKPaymentTransaction} {environment : Environment} {receipt : Text} {balance : Nat}
    (completes : w.Completes event index page transaction environment receipt balance) :
    turn ccSha256 w event = w.beforeStore index page transaction environment ++
      RechargeViewController.storeTurn w.app.p2p.accountId
        (RechargeViewController.completion ccSha256 page transaction receipt environment.date balance)
        environment.ledger := by
  rw [handles_turn ccSha256 completes.handles]
  simp only [onPage,completes.page,RechargeViewController.completeTransaction,completes.verified,getBalanceTurn,
    completes.returned,completes.receipt,balanceEffects,beforeStore]
  simp

theorem mem_handles_turn {w : World} {environment : Environment} {index : Nat}
    {transaction : SKPaymentTransaction} {event : RechargeEvent} {o : Effect}
    (handles : w.Handles environment index transaction event) (member : o ∈ turn ccSha256 w event) :
    o = .dequeue ∨ o = .finishTransaction transaction ∨ o = .dispatch (.finishTransaction transaction) ∨
      (∃ page, w.pages[index]? = some page ∧ o = .setPage index {page with receipt := environment.receipt}) ∨
      (∃ op, o = .keychain op) ∨ o = .confirmed ∨ o = .restart ∨
      ∃ page receipt balance, w.Completes event index page transaction environment receipt balance ∧
        o ∈ RechargeViewController.storeTurn w.app.p2p.accountId
          (RechargeViewController.completion ccSha256 page transaction receipt environment.date balance)
          environment.ledger := by
  rw [handles_turn ccSha256 handles] at member
  rcases List.mem_cons.mp member with rfl | member
  · simp
  rcases List.mem_cons.mp member with rfl | member
  · simp
  cases found : w.pages[index]? with
  | none => simp [onPage,found] at member
  | some page =>
    simp only [onPage,found,RechargeViewController.completeTransaction] at member
    rcases List.mem_cons.mp member with rfl | member
    · simp
    cases verified : environment.verify with
    | noData =>
      obtain rfl : o = .dispatch (.finishTransaction transaction) := by simpa [verified] using member
      simp
    | unparseable =>
      obtain rfl : o = .finishTransaction transaction := by simpa [verified] using member
      simp
    | json =>
      simp only [verified] at member
      rcases mem_getBalanceTurn member with ⟨op,rfl⟩ | rfl | rfl | ⟨balance,returned,after⟩
      · simp
      · simp
      · simp
      cases receipt : environment.receipt with
      | none =>
        obtain rfl : o = .restart := by simpa [receipt] using after
        simp
      | some text =>
        simp only [receipt] at after
        iterate 7 right
        exact ⟨page,text,balance,⟨handles,found,verified,returned,receipt⟩,after⟩

theorem stores_turn {w : World} {event : RechargeEvent} {o : Effect} (stores : o.Stores)
    (member : o ∈ turn ccSha256 w event) : ∃ index page transaction environment receipt balance,
      w.Completes event index page transaction environment receipt balance ∧
        o ∈ RechargeViewController.storeTurn w.app.p2p.accountId
          (RechargeViewController.completion ccSha256 page transaction receipt environment.date balance)
          environment.ledger := by
  rcases w.handles_or event with ⟨environment,index,transaction,handles⟩ | other
  · rcases mem_handles_turn ccSha256 handles member with
      rfl | rfl | rfl | ⟨_,_,rfl⟩ | ⟨_,rfl⟩ | rfl | rfl | ⟨page,receipt,balance,completes,after⟩
    · exact stores.elim
    · exact stores.elim
    · exact stores.elim
    · exact stores.elim
    · exact stores.elim
    · exact stores.elim
    · exact stores.elim
    · exact ⟨index,page,transaction,environment,receipt,balance,completes,after⟩
  · rcases plain_turn ccSha256 other o member with quiet | ⟨_,rfl⟩ | ⟨_,rfl⟩ | rfl | rfl | rfl
    · unfold Effect.Stores at stores
      split at stores
      · exact quiet.elim
      · exact quiet.elim
      · exact quiet.elim
      · exact stores.elim
    all_goals exact stores.elim

theorem mem_storeTurn {account : Text} {completion : Completion} {ledger : Ledger} {o : Effect} (stores : o.Stores)
    (member : o ∈ RechargeViewController.storeTurn account completion ledger) :
    o = .recording completion ledger ∨ o = .recorded completion ∨
      o = .post (.complete completion.transaction account completion.receipt completion.type) := by
  unfold RechargeViewController.storeTurn at member
  rcases List.mem_append.mp member with before | after
  · rcases List.mem_cons.mp before with rfl | written
    · exact Or.inl rfl
    · obtain ⟨op,_,rfl⟩ := List.mem_map.mp written
      exact stores.elim
  · simpa using Or.inr after

end World
end TenonVpn
