import TenonVpn.BalanceDisplay

/-! `RechargeViewController` with StoreKit: plan taps, product requests, payments, the
transaction observer and `completeTransaction`, together with the other users of the
keychain record. Every event is answered by a turn of effects; the blocks that the code
dispatches wait in the main queue. -/
namespace TenonVpn
open TenonP2pLib

inductive TransactionState
  | purchasing
  | purchased
  | failed
  | restored
  | deferred
deriving DecidableEq

structure SKPaymentTransaction where
  identifier : Nat
  productIdentifier : Text
  transactionState : TransactionState
deriving DecidableEq

structure SKPayment where
  productIdentifier : Text
  applicationUsername : Text
deriving DecidableEq

inductive Plan
  | month
  | quarter
  | year
deriving DecidableEq

namespace Plan

def selectIdx : Plan → Int
  | month => 1
  | quarter => 2
  | year => 3

def selectAppleGoodsID : Plan → Text
  | month => "801e6fc815664187b410b0a1672e6bbb".toList
  | quarter => "ba84d7514e76446eb8e424c475a4d9b8".toList
  | year => "f2893f61745d48638e14281b63d55f2e".toList

def amount : Plan → Nat
  | month => 1990
  | quarter => 5950
  | year => 23800

end Plan

def amountOf (selectIdx : Int) : Nat :=
  if selectIdx = 1 then 1990
  else if selectIdx = 2 then 5950
  else if selectIdx = 3 then 23800
  else 1990

structure Page where
  selectIdx : Int
  selectAppleGoodsID : Text
  applepayProducID : Text
  receipt : Option Text
  observing : Bool
  rechargeTimer : Bool
deriving DecidableEq

/-- A block in the main queue; a page is given by its place. -/
inductive Block
  | orderToApplePay (page : Nat)
  | updatedTransactions (page : Nat) (transactions : List SKPaymentTransaction)
  | finishTransaction (transaction : SKPaymentTransaction)
  | scheduleRechargeTimer (page : Nat)
deriving DecidableEq

/-- A request to `/appleIAPAuth`: of `completeTransaction`, of a page's
`requestRechargeInterface` or of the main page's. -/
inductive Post
  | complete (transaction : SKPaymentTransaction) (account receipt : Text) (type : Int)
  | retry (page : Nat) (account receipt : Text) (type : Int)
  | mainRetry (account receipt : Text) (type : Int)
deriving DecidableEq

structure Completion where
  transaction : SKPaymentTransaction
  receipt : Text
  type : Int
  record : RechargeRecord
deriving DecidableEq

/-- The app and StoreKit. The last two fields are history: the completion that is stored
and that the ledger has not confirmed, and whether a call since then has dropped the
keychain's records (an accepting `SavePrivateKey`, or `GetPrivateKey` without a key). -/
structure World where
  app : TenonApp
  pages : List Page
  mainQueue : List Block
  requests : List (Nat × Text)
  payments : List SKPayment
  /-- The transactions that StoreKit has not been told to finish. -/
  unfinished : List SKPaymentTransaction
  nextIdentifier : Nat
  posts : List Post
  pending : Option Completion
  rekeyed : Bool

inductive Effect
  | setApp (app : TenonApp)
  | keychain (op : KeychainOp)
  | addPage (page : Page)
  | setPage (index : Nat) (page : Page)
  | dispatch (block : Block)
  | dequeue
  | request (page : Nat) (goods : Text)
  | takeRequest (index : Nat)
  | addPayment (payment : SKPayment)
  | takePayment (index : Nat)
  /-- StoreKit adds the transaction to its queue, or changes its state. -/
  | transaction (transaction : SKPaymentTransaction)
  | finishTransaction (transaction : SKPaymentTransaction)
  | post (post : Post)
  | takePost (index : Nat)
  /-- `completeTransaction` is about to store, after `GetBalance` has read the ledger. -/
  | recording (completion : Completion) (ledger : Ledger)
  | recorded (completion : Completion)
  | confirmed
  | rekeyed
  /-- The process ends and the app is started again. -/
  | restart

inductive VerifyReceipt
  | noData
  | unparseable
  | json
deriving DecidableEq

structure Environment where
  canMakePayments : Bool
  receipt : Option Text
  verify : VerifyReceipt
  ledger : Ledger
  date : DateText

inductive RechargeEvent
  | viewDidLoad
  | viewDidDisappear (page : Nat)
  | tapPlan (page : Nat) (plan : Plan) (timestamp : Text)
  | productsResponse (request : Nat) (products : List Text)
  | beginTransaction (payment : Nat)
  | changeState (identifier : Nat) (state : TransactionState)
  /-- StoreKit delivers those of the unfinished transactions to a page. -/
  | updatedTransactions (page : Nat) (identifiers : List Nat)
  | mainQueue (environment : Environment)
  | authAnswer (post : Nat) (status : Int)
  | rechargeTimer (page : Nat)
  | mainRequestRechargeInterface (ledger : Ledger)
  | getBalance (ledger : Ledger)
  | getPrivateKey
  | savePrivateKey (prikey : Text)
  | libResetPrivateKey (reset : Text → Text) (prikey : Text)
  | resetPrivateKey (reset : Text → Text) (ss : Text)
  | restart

namespace TenonP2pLib

/-- A new process: the keychain dictionary is read from the item and `init` asks for the key. -/
def launch (app : TenonApp) : TenonApp :=
  let started := {app with
    keychain := KeychainItemWrapper.initWithIdentifier app.keychain.item
    p2p := ⟨0,0,[],-1,-1,[],[],[]⟩}
  let (asked,privateKey) := getPrivateKey started
  {asked with p2p := {asked.p2p with privateKey}}

/-- `GetBalance`, which ends the process where it traps, and what comes after it. -/
def getBalanceTurn (manager : KeychainManager) (ledger : Ledger) (rest : Nat → List Effect) : List Effect :=
  let ops := getBalanceOps manager ledger
  ops.map .keychain ++ (if ops = [] then [] else [.confirmed]) ++
    match (getBalance manager ledger).2 with
    | none => [.restart]
    | some balance => rest balance

end TenonP2pLib

namespace World

def restart (w : World) : World :=
  {w with
    app := launch w.app
    pages := []
    mainQueue := []
    requests := []
    posts := []
    rekeyed := w.rekeyed || storedKeys w.app.standard = []}

/-- The keychain dictionary holds the receipt, the type and the record of the completion. -/
def Remembers (manager : KeychainManager) (completion : Completion) : Prop :=
  manager.getKeyChainReceipt = completion.receipt ∧
    manager.keychainItemData.type = some completion.type ∧
    manager.getKeyChainTranscate = completion.record.text

instance (manager : KeychainManager) (completion : Completion) : Decidable (Remembers manager completion) :=
  inferInstanceAs (Decidable (_ ∧ _ ∧ _))

/-- The persistent item holds them. -/
def Persists (manager : KeychainManager) (completion : Completion) : Prop :=
  ∃ stored ∈ manager.item, stored.account = completion.receipt ∧ stored.type = some completion.type ∧
    stored.label = completion.record.text

instance (manager : KeychainManager) (completion : Completion) : Decidable (Persists manager completion) :=
  inferInstanceAs (Decidable (∃ _ ∈ _,_))

def perform (w : World) : Effect → World
  | .setApp app => {w with app}
  | .keychain op => {w with app := {w.app with keychain := w.app.keychain.perform op}}
  | .addPage page => {w with pages := w.pages ++ [page]}
  | .setPage index page => {w with pages := w.pages.set index page}
  | .dispatch block => {w with mainQueue := w.mainQueue ++ [block]}
  | .dequeue => {w with mainQueue := w.mainQueue.tail}
  | .request page goods => {w with requests := w.requests ++ [(page,goods)]}
  | .takeRequest index => {w with requests := w.requests.eraseIdx index}
  | .addPayment payment => {w with payments := w.payments ++ [payment]}
  | .takePayment index => {w with payments := w.payments.eraseIdx index}
  | .transaction transaction => {w with
    unfinished := w.unfinished.filter (fun other => other.identifier ≠ transaction.identifier) ++ [transaction]
    nextIdentifier := max w.nextIdentifier (transaction.identifier + 1)}
  | .finishTransaction transaction => {w with
    unfinished := w.unfinished.filter (fun other => other.identifier ≠ transaction.identifier)}
  | .post post => {w with posts := w.posts ++ [post]}
  | .takePost index => {w with posts := w.posts.eraseIdx index}
  -- what the dictionary remembers is not written again, so a dropped item stays dropped
  | .recording completion _ => {w with rekeyed := w.rekeyed && decide (Remembers w.app.keychain completion)}
  | .recorded completion => {w with pending := some completion}
  | .confirmed => {w with pending := none}
  | .rekeyed => {w with rekeyed := true}
  | .restart => w.restart

end World

namespace RechargeViewController

def viewDidLoad (w : World) : List Effect :=
  let empty := w.app.keychain.getKeyChainReceipt.length = 0
  [.addPage ⟨-1,[],[],none,empty,!empty⟩]

def requestRechargeInterface (w : World) (index : Nat) (page : Page) : List Effect :=
  if w.app.keychain.getKeyChainReceipt.length = 0 then [.setPage index {page with observing := true}]
  else [.post (.retry index w.app.p2p.accountId w.app.keychain.getKeyChainReceipt
    w.app.keychain.getKeyChainType)]

def tapPlan (w : World) (index : Nat) (page : Page) (plan : Plan) (timestamp : Text) : List Effect :=
  .setPage index {page with
    selectIdx := plan.selectIdx
    selectAppleGoodsID := plan.selectAppleGoodsID
    applepayProducID := w.app.p2p.accountId ++ timestamp} ::
  if w.app.keychain.getKeyChainReceipt.length ≠ 0 then [] else [.dispatch (.orderToApplePay index)]

/-- `productsRequest:didReceiveResponse:`; a payment without a product ends the process. -/
def productsResponse (page : Page) (products : List Text) : List Effect :=
  if products.length ≠ 0 then
    match (products.filter (fun product => product = page.selectAppleGoodsID)).getLast? with
    | some requestProduct => [.addPayment ⟨requestProduct,page.applepayProducID⟩]
    | none => [.restart]
  else []

variable (ccSha256 : Text → Fin 32 → Fin 256)

def completion (page : Page) (transaction : SKPaymentTransaction) (receipt : Text) (date : DateText)
    (balance : Nat) : Completion :=
  ⟨transaction,receipt,page.selectIdx,
    ⟨date,amountOf page.selectIdx,balance,sha256HashForText ccSha256 receipt⟩⟩

def storeTurn (account : Text) (completion : Completion) (ledger : Ledger) : List Effect :=
  .recording completion ledger ::
    (recordOps completion.receipt completion.type completion.record).map .keychain ++
    [.recorded completion,.post (.complete completion.transaction account completion.receipt completion.type)]

/-- `completeTransaction:`. Hashing a missing receipt ends the process. -/
def completeTransaction (w : World) (index : Nat) (page : Page) (transaction : SKPaymentTransaction)
    (environment : Environment) : List Effect :=
  .setPage index {page with receipt := environment.receipt} ::
    match environment.verify with
    | .noData => [.dispatch (.finishTransaction transaction)]
    | .unparseable => [.finishTransaction transaction]
    | .json => getBalanceTurn w.app.keychain environment.ledger fun balance =>
      match environment.receipt with
      -- `strlen` of the missing text
      | none => [.restart]
      | some receipt => storeTurn w.app.p2p.accountId
        (completion ccSha256 page transaction receipt environment.date balance) environment.ledger

def updatedTransactions (w : World) (index : Nat) (transactions : List SKPaymentTransaction)
    (environment : Environment) : List Effect :=
  match transactions with
  | [tran] =>
    match tran.transactionState with
    | .purchased => .finishTransaction tran ::
      match w.pages[index]? with
      | none => []
      | some page => completeTransaction ccSha256 w index page tran environment
    | .failed => [.finishTransaction tran]
    | .purchasing => []
    | .restored | .deferred => [.finishTransaction tran]
  -- a batch of several transactions closes the page and leaves them unfinished
  | _ => []

def runBlock (w : World) (environment : Environment) : Block → List Effect
  | .orderToApplePay index =>
    match w.pages[index]? with
    | none => []
    | some page => if environment.canMakePayments then [.request index page.selectAppleGoodsID] else []
  | .updatedTransactions index transactions => updatedTransactions ccSha256 w index transactions environment
  | .finishTransaction transaction => [.finishTransaction transaction]
  | .scheduleRechargeTimer index =>
    match w.pages[index]? with
    | none => []
    | some page => [.setPage index {page with rechargeTimer := true}]

/-- The callbacks of the requests. Every answer to `completeTransaction` finishes the transaction. -/
def authAnswer (post : Post) : List Effect :=
  match post with
  | .complete transaction _ _ _ => [.dispatch (.finishTransaction transaction)]
  | .retry page _ _ _ => [.dispatch (.scheduleRechargeTimer page)]
  | .mainRetry _ _ _ => []

end RechargeViewController

namespace MainViewController

def requestRechargeInterface (w : World) (ledger : Ledger) : List Effect :=
  if 0 < w.app.keychain.getKeyChainReceipt.length then
    getBalanceTurn w.app.keychain ledger fun localAmount =>
      let type := if localAmount = 1990 then 1 else if localAmount = 5950 then 2
        else if localAmount = 23800 then 3 else 1
      let cleared := (getBalance w.app.keychain ledger).1
      [.post (.mainRetry w.app.p2p.accountId cleared.getKeyChainReceipt type)]
  else []

end MainViewController

namespace World
variable (ccSha256 : Text → Fin 32 → Fin 256)

def onPage (w : World) (index : Nat) (turn : Page → List Effect) : List Effect :=
  match w.pages[index]? with
  | none => []
  | some page => turn page

def turn (w : World) : RechargeEvent → List Effect
  | .viewDidLoad => RechargeViewController.viewDidLoad w
  | .viewDidDisappear index => w.onPage index fun page => [.setPage index {page with observing := false}]
  | .tapPlan index plan timestamp => w.onPage index fun page =>
    RechargeViewController.tapPlan w index page plan timestamp
  | .productsResponse request products =>
    match w.requests[request]? with
    | none => []
    | some (index,_) => .takeRequest request :: w.onPage index fun page =>
      RechargeViewController.productsResponse page products
  | .beginTransaction payment =>
    match w.payments[payment]? with
    | none => []
    | some paid => [.takePayment payment,.transaction ⟨w.nextIdentifier,paid.productIdentifier,.purchasing⟩]
  | .changeState identifier state =>
    match w.unfinished.find? (fun transaction => transaction.identifier = identifier) with
    | none => []
    | some transaction => [.transaction {transaction with transactionState := state}]
  | .updatedTransactions index identifiers => w.onPage index fun page =>
    let delivered := w.unfinished.filter (fun transaction => transaction.identifier ∈ identifiers)
    if page.observing ∧ delivered ≠ [] then [.dispatch (.updatedTransactions index delivered)] else []
  | .mainQueue environment =>
    match w.mainQueue with
    | [] => []
    | block :: _ => .dequeue :: RechargeViewController.runBlock ccSha256 w environment block
  | .authAnswer post _ =>
    match w.posts[post]? with
    | none => []
    | some answered => .takePost post :: RechargeViewController.authAnswer answered
  | .rechargeTimer index => w.onPage index fun page =>
    if page.rechargeTimer then
      .setPage index {page with rechargeTimer := false} ::
        RechargeViewController.requestRechargeInterface w index {page with rechargeTimer := false}
    else []
  | .mainRequestRechargeInterface ledger => MainViewController.requestRechargeInterface w ledger
  | .getBalance ledger => getBalanceTurn w.app.keychain ledger fun _ => []
  | .getPrivateKey => .setApp (getPrivateKey w.app).1 ::
    if storedKeys w.app.standard = [] then [.rekeyed] else []
  | .savePrivateKey prikey => .setApp (savePrivateKey w.app prikey).1 ::
    if (savePrivateKey w.app prikey).2 then [.rekeyed] else []
  | .libResetPrivateKey reset prikey => .setApp (TenonP2pLib.resetPrivateKey reset w.app prikey).1 ::
    if (TenonP2pLib.resetPrivateKey reset w.app prikey).2 ∧ (savePrivateKey w.app prikey).2 then [.rekeyed] else []
  | .resetPrivateKey reset ss => .setApp (ViewController.resetPrivateKey reset w.app ss).1 ::
    if ss ≠ w.app.p2p.privateKey ∧ ss.length = 64 ∧ (savePrivateKey w.app ss).2 then [.rekeyed] else []
  | .restart => [.restart]

def recharge : Machine World RechargeEvent (World × Effect) := Machine.ofTurns perform (turn ccSha256)

/-- The same with crashes, each followed by a restart, at any point of a turn. -/
def rechargeWithCrashes : Machine World (RechargeEvent × Option Nat) (World × Effect) :=
  Machine.ofCutTurns perform (turn ccSha256) restart

/-- The first launch after an installation; an older one may have left a keychain item. -/
def installed (item : Option KeychainItemData) (group : UserDefaults) : World where
  app := launch ⟨KeychainItemWrapper.initWithIdentifier item,UserDefaults.empty,group,⟨0,0,[],-1,-1,[],[],[]⟩⟩
  pages := []
  mainQueue := []
  requests := []
  payments := []
  unfinished := []
  nextIdentifier := 0
  posts := []
  pending := none
  rekeyed := false

/-- What a user, StoreKit and the main queue do for the purchase of a plan that is paid at once. -/
def purchase (page : Nat) (plan : Plan) (identifier : Nat) (environment : Environment) : List RechargeEvent :=
  [.tapPlan page plan [],.mainQueue environment,.productsResponse 0 [plan.selectAppleGoodsID],
    .beginTransaction 0,.changeState identifier .purchased,.updatedTransactions page [identifier],
    .mainQueue environment]

def firstReceipt : Text := "Zmlyc3Q=".toList

def secondReceipt : Text := "c2Vjb25k".toList

def receiptSha256 (text : Text) (byte : Fin 32) : Fin 256 :=
  let digest := if text = firstReceipt then 0x32da5526c7638c912ec1bee1e558692936236ed012ce6cecc03a1db93d1eb6fc
    else 0xd4b961cf700e82240babe79b7f45477effc847671cf3db06a945f5668b4655ee
  Fin.ofNat 256 (digest / 256^(31 - byte.val))

def answering (verify : VerifyReceipt) (receipt : Text) : Environment where
  canMakePayments := true
  receipt := some receipt
  verify
  ledger := ⟨0,[]⟩
  date := ⟨"01-02 03:04".toList,by decide,by decide⟩

end World
end TenonVpn
