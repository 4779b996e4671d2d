import TenonVpn.VpnPayment

/-! The balances on the screens: `MainViewController.refreshFreeView`,
`RechargeViewController.loadUI` and the two branches of `getLeftDays`, over runs of
`requestData` ticks, refreshes and recharges. A `Reading` is one computation of a
balance with the state it reads, and `Reading.value` is what the code computes there. -/
namespace TenonVpn
open TenonP2pLib

namespace MainViewController

def showBalance (manager : KeychainManager) (ledger : Ledger) : Option Nat := do
  let (keychain,balance) := getBalance manager ledger
  some (((← balance) + (← getLocalAmount keychain)) % 2^64)

end MainViewController

namespace RechargeViewController

def rowBalance (manager : KeychainManager) (ledger : Ledger) : Option Nat :=
  if manager.getKeyChainTranscate.length = 0 then none
  else do
    let array := Text.components ',' manager.getKeyChainTranscate
    let balance ← (getBalance manager ledger).2
    let limited := if balanceLimit < balance then 0 else balance
    let localAmount := Text.leading (-2147483648) 2147483647 (← array[2]?)
    let _ ← array[4]?
    some (((limited : Int) + localAmount) % 2^64).toNat

end RechargeViewController

/-- Where a balance is computed: `show_balance` of `refreshFreeView`, the label that
`reloadBalance` sets, the pending row, and the two branches of `getLeftDays`. -/
inductive Place
  | freeView
  | label
  | pendingRow
  | days
  | paidDays
deriving DecidableEq

structure Reading where
  place : Place
  keychain : KeychainManager
  nowBalance : Int
  ledger : Ledger

namespace Reading

def value (reading : Reading) : Option Int :=
  match reading.place with
  | .freeView => (MainViewController.showBalance reading.keychain reading.ledger).map Int.ofNat
  | .pendingRow => (RechargeViewController.rowBalance reading.keychain reading.ledger).map Int.ofNat
  | .label | .days => (getBalance reading.keychain reading.ledger).2.map Int.ofNat
  | .paidDays => do
    let (keychain,balance) := getBalance reading.keychain reading.ledger
    let _ ← balance
    some (reading.nowBalance + (← getLocalAmount keychain))

def Right (reading : Reading) : Prop :=
  ∃ slot : Slot, slot.In reading.keychain ∧ ∀ value ∈ reading.value, value = slot.countedBalance reading.ledger

/-- Nothing is pending where the code adds the amount to a balance that includes it. -/
def Once (reading : Reading) : Prop :=
  ∀ slot : Slot, slot.In reading.keychain → slot.countedBalance reading.ledger < 2^64 →
    match reading.place with
    | .freeView => slot.pendingAmount reading.ledger = 0
    | .pendingRow => slot.amount = 0
    | .label | .days => True
    | .paidDays => reading.nowBalance = limitedBalance reading.ledger

end Reading

structure Refresh where
  ledger : Ledger
  answers : Answers
  reload : Reload

inductive ScreenEvent
  | requestData (tick : Tick)
  | refreshFreeView (isFree : Bool) (refresh : Refresh)
  | reloadBalance (reload : Reload)
  | loadUI (ledger : Ledger)
  | recharge (receipt : Text) (type : Int) (record : RechargeRecord)

namespace TenonP2pLib

/-- How far `getLeftDays` comes before it reads the second balance: not past a conversion
that traps, and not into a period that is over. -/
def beforePaidDays (ledger : Ledger) (now : Int) (app : TenonApp) : Option Int := do
  let _ ← int32 ((← int64 (← (getBalance app.keychain ledger).2)).tdiv minPayforVpnTenon)
  if Running app.p2p now then int32 (paidDays app.p2p now) else none

def leftDaysReadings (ledger : Ledger) (now : Int) (app : TenonApp) : List Reading :=
  ⟨.days,app.keychain,app.p2p.nowBalance,ledger⟩ ::
    match beforePaidDays ledger now app with
    | none => []
    | some _ => [⟨.paidDays,app.keychain,app.p2p.nowBalance,ledger⟩]

def payforVpnReadings (answers : Answers) (app : TenonApp) : List Reading :=
  leftDaysReadings answers.ledger answers.now (payforVpnDue answers app).2

end TenonP2pLib

namespace MainViewController

def reloadReadings (reload : Reload) (app : TenonApp) : List Reading :=
  (if 0 < app.p2p.vipLeftDays then leftDaysReadings reload.left reload.now app else []) ++
    match reloadDays reload app with
    | none => []
    | some counted => [⟨.label,counted.keychain,counted.p2p.nowBalance,reload.shown⟩]

/-- The state in which `refreshFreeView` comes to `reloadBalance`. Without days it
shows a constant until then. -/
def refreshed (isFree : Bool) (refresh : Refresh) (app : TenonApp) : Option TenonApp :=
  if isFree = false ∧ 0 ≤ app.p2p.vipLeftDays then do
    let _ ← showBalance app.keychain refresh.ledger
    (payforVpn refresh.answers {app with keychain := (getBalance app.keychain refresh.ledger).1}).2
  else some app

def refreshFreeView (isFree : Bool) (refresh : Refresh) (app : TenonApp) : List Reading × Option TenonApp :=
  let balance := if isFree = false ∧ 0 ≤ app.p2p.vipLeftDays then
      ⟨.freeView,app.keychain,app.p2p.nowBalance,refresh.ledger⟩ ::
        match showBalance app.keychain refresh.ledger with
        | none => []
        | some _ => payforVpnReadings refresh.answers
          {app with keychain := (getBalance app.keychain refresh.ledger).1}
    else []
  match refreshed isFree refresh app with
  | none => (balance,none)
  | some shown => (balance ++ reloadReadings refresh.reload shown,
      (reloadBalance refresh.reload shown).map Prod.fst)

end MainViewController

namespace ViewController

def notifyReadings (app : TenonApp) (tick : Tick) : List Reading :=
  match getBalance app.keychain tick.ledger with
  | (_,none) => []
  | (keychain,some balance) =>
    match int64 balance,tick.observer with
    | some nowBalance,some reload =>
      if balance ≠ 2^64-1 ∧ app.p2p.nowBalance ≠ nowBalance then
        MainViewController.reloadReadings reload {app with keychain}
      else []
    | _,_ => []

def requestDataReadings (app : TenonApp) (tick : Tick) : List Reading :=
  notifyReadings app tick ++
    match arrive app tick with
    | none => []
    | some received => payforVpnReadings tick.answers received

end ViewController

def recordOps (receipt : Text) (type : Int) (record : RechargeRecord) : List KeychainOp :=
  [.setKeyChainReceipt receipt,.setKeyChainType type,.setKeyChainTranscate record.text]

def screens : Machine TenonApp ScreenEvent Reading where
  step app
    | .requestData tick => (ViewController.requestDataReadings app tick,(ViewController.requestData app tick).2)
    | .refreshFreeView isFree refresh => MainViewController.refreshFreeView isFree refresh app
    | .reloadBalance reload => (MainViewController.reloadReadings reload app,
        (MainViewController.reloadBalance reload app).map Prod.fst)
    | .loadUI ledger => ([⟨.pendingRow,app.keychain,app.p2p.nowBalance,ledger⟩],
        if app.keychain.getKeyChainTranscate.length = 0 then some app
        else (RechargeViewController.rowBalance app.keychain ledger).map
          (fun _ => {app with keychain := (getBalance app.keychain ledger).1}))
    | .recharge receipt type record => ([],some
        {app with keychain := app.keychain.performs (recordOps receipt type record)})

namespace Reading
variable {slot : Slot} {manager : KeychainManager}

theorem settled_lt {ledger : Ledger} (small : slot.countedBalance ledger < 2^64) :
    (slot.settle ledger).amount < 2^64 := by
  have : slot.countedBalance ledger = limitedBalance ledger + (slot.settle ledger).amount := rfl
  omega

theorem showBalance_in (holds : slot.In manager) (ledger : Ledger) :
    MainViewController.showBalance manager ledger = if slot.countedBalance ledger < 2^64 then
      some ((slot.countedBalance ledger + slot.pendingAmount ledger) % 2^64) else none := by
  obtain ⟨settled,balance⟩ := getBalance_in holds ledger
  simp only [MainViewController.showBalance,balance,getLocalAmount_in settled]
  by_cases small : slot.countedBalance ledger < 2^64
  · rw [if_pos small,if_pos small,if_pos (settled_lt small)]
    rfl
  · rw [if_neg small,if_neg small]
    rfl

theorem rowBalance_in {record : RechargeRecord} (holds : Slot.In (some record) manager) (ledger : Ledger) :
    RechargeViewController.rowBalance manager ledger =
      if Slot.countedBalance ledger (some record) < 2^64 then
        some (((if balanceLimit < Slot.countedBalance ledger (some record) then 0
          else Slot.countedBalance ledger (some record) : Nat) + min 2147483647 record.amount) % 2^64)
      else none := by
  have text : manager.getKeyChainTranscate = record.text := holds
  have clamped : max (-2147483648) (min (2147483647 : Int) record.amount) =
      (min 2147483647 record.amount : Nat) := by omega
  simp only [RechargeViewController.rowBalance,(getBalance_in holds ledger).2,text,record.components_text,
    List.length_eq_zero_iff,record.text_ne_nil,if_false]
  by_cases small : Slot.countedBalance ledger (some record) < 2^64
  · rw [if_pos small,if_pos small]
    simp only [Option.bind_eq_bind,Option.bind_some,List.getElem?_cons_succ,List.getElem?_cons_zero,
      Text.leading_decimal,Option.some.injEq]
    rw [clamped]
    omega
  · rw [if_neg small,if_neg small]
    rfl

theorem paidDays_in (holds : slot.In manager) (nowBalance : Int) (ledger : Ledger) :
    value ⟨.paidDays,manager,nowBalance,ledger⟩ = if slot.countedBalance ledger < 2^64 then
      some (nowBalance + slot.pendingAmount ledger) else none := by
  obtain ⟨settled,balance⟩ := getBalance_in holds ledger
  simp only [value,balance,getLocalAmount_in settled]
  by_cases small : slot.countedBalance ledger < 2^64
  · rw [if_pos small,if_pos small,if_pos (settled_lt small)]
    rfl
  · rw [if_neg small,if_neg small]
    rfl

theorem right_iff (reading : Reading) (holds : slot.In reading.keychain) :
    reading.Right ↔ ∀ value ∈ reading.value, value = slot.countedBalance reading.ledger := by
  refine ⟨fun ⟨slot',holds',right⟩ => ?_,fun right => ⟨slot,holds,right⟩⟩
  have same : slot' = slot := Slot.label_injective (holds'.symm.trans holds)
  rwa [same] at right

theorem once_iff (reading : Reading) (holds : slot.In reading.keychain) :
    reading.Once ↔ (slot.countedBalance reading.ledger < 2^64 → match reading.place with
      | .freeView => slot.pendingAmount reading.ledger = 0
      | .pendingRow => slot.amount = 0
      | .label | .days => True
      | .paidDays => reading.nowBalance = limitedBalance reading.ledger) := by
  refine ⟨fun once => once slot holds,fun once slot' holds' => ?_⟩
  have same : slot' = slot := Slot.label_injective (holds'.symm.trans holds)
  rwa [same]

private theorem forall_mem_ite {value : Int} {fits : Prop} [Decidable fits] (P : Int → Prop) :
    (∀ found ∈ (if fits then some value else none), P found) ↔ (fits → P value) := by
  by_cases holds : fits <;> simp [holds]

theorem right_iff_once (reading : Reading) (holds : slot.In reading.keychain) :
    reading.Right ↔ reading.Once := by
  rw [right_iff reading holds,once_iff reading holds]
  obtain ⟨place,keychain,nowBalance,ledger⟩ := reading
  dsimp only at holds ⊢
  have sum : slot.countedBalance ledger = limitedBalance ledger + slot.pendingAmount ledger := rfl
  cases place with
  | label =>
    simp only [value,(getBalance_in holds ledger).2,apply_ite,Option.map_some,Option.map_none,forall_mem_ite]
    simp
  | days =>
    simp only [value,(getBalance_in holds ledger).2,apply_ite,Option.map_some,Option.map_none,forall_mem_ite]
    simp
  | freeView =>
    simp only [value,showBalance_in holds,apply_ite,Option.map_some,Option.map_none,forall_mem_ite]
    refine imp_congr_right fun small => ?_
    simp only [Int.ofNat_eq_natCast]
    omega
  | paidDays =>
    rw [paidDays_in holds,forall_mem_ite]
    refine imp_congr_right fun small => ?_
    omega
  | pendingRow =>
    cases slot with
    | none =>
      have empty : keychain.getKeyChainTranscate = [] := holds
      simp [value,RechargeViewController.rowBalance,empty,Slot.amount]
    | some record =>
      simp only [value,rowBalance_in holds,apply_ite,Option.map_some,Option.map_none,forall_mem_ite]
      refine imp_congr_right fun small => ?_
      have limited := limitedBalance_le ledger
      have amount : Slot.amount (some record) = record.amount := rfl
      have pending := Slot.pendingAmount_le ledger (some record)
      have limit : balanceLimit = 1844674407370955161 := rfl
      simp only [Int.ofNat_eq_natCast,amount] at pending ⊢
      by_cases large : balanceLimit < Slot.countedBalance ledger (some record)
      · rw [if_pos large]
        omega
      · rw [if_neg large]
        omega

end Reading
def Recorded (manager : KeychainManager) : Prop := ∃ slot : Slot, slot.In manager

theorem recorded_getBalance {manager : KeychainManager} (recorded : Recorded manager) (ledger : Ledger) :
    Recorded (getBalance manager ledger).1 :=
  recorded.elim fun slot holds => ⟨slot.settle ledger,settle_in holds ledger⟩

namespace TenonP2pLib
variable {app : TenonApp}

theorem getLeftDays_keychain {ledger : Ledger} {now : Int} {left : TenonApp}
    (done : getLeftDays ledger now app = some left) : left.keychain = (getBalance app.keychain ledger).1 := by
  simp only [getLeftDays,Option.bind_eq_bind,Option.bind_eq_some_iff] at done
  obtain ⟨_,_,_,_,_,_,done⟩ := done
  split at done
  · simp only [Option.bind_eq_some_iff,Option.some.injEq] at done
    obtain ⟨_,_,_,_,_,_,_,_,_,_,_,_,rfl⟩ := done
    rfl
  · cases done
    rfl

theorem payforVpnDue_keychain (answers : Answers) : (payforVpnDue answers app).2.keychain = app.keychain := by
  unfold payforVpnDue payforVipTrans
  split
  · dsimp only
    split
    · exact (checkVip_p2p answers.checkVip app).1
    split <;> exact (checkVip_p2p answers.checkVip app).1
  · rfl

theorem payforVpn_keychain {answers : Answers} {next : TenonApp}
    (done : (payforVpn answers app).2 = some next) :
    next.keychain = (getBalance app.keychain answers.ledger).1 := by
  unfold payforVpn at done
  dsimp only at done
  cases left : getLeftDays answers.ledger answers.now (payforVpnDue answers app).2 with
  | none => simp [left] at done
  | some counted =>
    have keychain := getLeftDays_keychain left
    rw [payforVpnDue_keychain] at keychain
    simp only [left] at done
    split at done
    · cases done
      exact keychain
    · cases done
      exact (checkVip_p2p answers.checkVipAgain counted).1.trans keychain

theorem leftDaysReadings_recorded (ledger : Ledger) (now : Int) (recorded : Recorded app.keychain) :
    ∀ reading ∈ leftDaysReadings ledger now app, Recorded reading.keychain := by
  unfold leftDaysReadings
  split <;> simp [recorded]

theorem payforVpnReadings_recorded (answers : Answers) (recorded : Recorded app.keychain) :
    ∀ reading ∈ payforVpnReadings answers app, Recorded reading.keychain :=
  leftDaysReadings_recorded _ _ (by rwa [payforVpnDue_keychain])

end TenonP2pLib

namespace MainViewController
variable {app : TenonApp}

theorem reloadDays_recorded {reload : Reload} {counted : TenonApp} (recorded : Recorded app.keychain)
    (done : reloadDays reload app = some counted) : Recorded counted.keychain := by
  unfold reloadDays at done
  split at done
  · rw [getLeftDays_keychain done]
    exact recorded_getBalance recorded reload.left
  · cases done
    exact recorded

theorem reloadBalance_recorded {reload : Reload} {next : TenonApp} (recorded : Recorded app.keychain)
    (done : (reloadBalance reload app).map Prod.fst = some next) : Recorded next.keychain := by
  simp only [reloadBalance,Option.bind_eq_bind,Option.map_eq_some_iff,Option.bind_eq_some_iff] at done
  obtain ⟨_,⟨counted,days,_,_,reloaded⟩,rfl⟩ := done
  cases reloaded
  exact recorded_getBalance (reloadDays_recorded recorded days) reload.shown

theorem reloadReadings_recorded (reload : Reload) (recorded : Recorded app.keychain) :
    ∀ reading ∈ reloadReadings reload app, Recorded reading.keychain := by
  intro reading member
  rcases List.mem_append.mp member with days | label
  · split at days
    · exact leftDaysReadings_recorded _ _ recorded reading days
    · simp at days
  · cases counted : reloadDays reload app with
    | none => simp [counted] at label
    | some counted' =>
      simp only [counted,List.mem_singleton] at label
      rw [label]
      exact reloadDays_recorded recorded counted

theorem refreshed_recorded {isFree : Bool} {refresh : Refresh} {shown : TenonApp}
    (recorded : Recorded app.keychain) (done : refreshed isFree refresh app = some shown) :
    Recorded shown.keychain := by
  unfold refreshed at done
  split at done
  · simp only [Option.bind_eq_bind,Option.bind_eq_some_iff] at done
    obtain ⟨_,_,done⟩ := done
    rw [payforVpn_keychain done]
    exact recorded_getBalance (recorded_getBalance recorded _) _
  · cases done
    exact recorded

theorem refreshFreeView_recorded (isFree : Bool) (refresh : Refresh) (recorded : Recorded app.keychain) :
    (∀ reading ∈ (refreshFreeView isFree refresh app).1, Recorded reading.keychain) ∧
      ∀ next, (refreshFreeView isFree refresh app).2 = some next → Recorded next.keychain := by
  have balance : ∀ reading ∈ (if isFree = false ∧ 0 ≤ app.p2p.vipLeftDays then
      (⟨.freeView,app.keychain,app.p2p.nowBalance,refresh.ledger⟩ : Reading) ::
        match showBalance app.keychain refresh.ledger with
        | none => []
        | some _ => payforVpnReadings refresh.answers
          {app with keychain := (getBalance app.keychain refresh.ledger).1}
      else []), Recorded reading.keychain := by
    intro reading member
    split at member
    · rcases List.mem_cons.mp member with rfl | member
      · exact recorded
      · split at member
        · simp at member
        · exact payforVpnReadings_recorded _ (recorded_getBalance recorded _) reading member
    · simp at member
  unfold refreshFreeView
  dsimp only
  cases done : refreshed isFree refresh app with
  | none => exact ⟨balance,fun next impossible => by simp at impossible⟩
  | some shown =>
    have recorded' := refreshed_recorded recorded done
    refine ⟨fun reading member => ?_,fun next => reloadBalance_recorded recorded'⟩
    rcases List.mem_append.mp member with shown' | reloaded
    · exact balance reading shown'
    · exact reloadReadings_recorded _ recorded' reading reloaded

end MainViewController

namespace ViewController
variable {app : TenonApp}

theorem notify_recorded {nowBalance : Int} {observer : Option Reload} {notified : TenonApp}
    (recorded : Recorded app.keychain) (done : notify nowBalance observer app = some notified) :
    Recorded notified.keychain := by
  unfold notify at done
  split at done
  · split at done
    · exact MainViewController.reloadBalance_recorded recorded done
    · cases done
      exact recorded
  · cases done
    exact recorded

theorem arrive_recorded {tick : Tick} {received : TenonApp} (recorded : Recorded app.keychain)
    (done : received ∈ arrive app tick) : Recorded received.keychain := by
  have read := recorded_getBalance recorded tick.ledger
  unfold arrive at done
  rcases found : getBalance app.keychain tick.ledger with ⟨keychain,_ | balance⟩
  · simp [found] at done
  · rw [found] at read
    simp only [found,receive,Option.bind_eq_bind,Option.mem_def,Option.ite_none_left_eq_some,
      Option.bind_eq_some_iff] at done
    obtain ⟨-,_,_,notified,observed,received⟩ := done
    have kept : Recorded notified.keychain := notify_recorded read observed
    cases received
    exact kept

theorem notifyReadings_recorded (tick : Tick) (recorded : Recorded app.keychain) :
    ∀ reading ∈ notifyReadings app tick, Recorded reading.keychain := by
  intro reading member
  have read := recorded_getBalance recorded tick.ledger
  unfold notifyReadings at member
  rcases found : getBalance app.keychain tick.ledger with ⟨keychain,_ | balance⟩
  · simp [found] at member
  · rw [found] at read
    simp only [found] at member
    split at member
    · split at member
      · exact MainViewController.reloadReadings_recorded _ read reading member
      · simp at member
    · simp at member

theorem requestDataReadings_recorded (tick : Tick) (recorded : Recorded app.keychain) :
    ∀ reading ∈ requestDataReadings app tick, Recorded reading.keychain := by
  intro reading member
  rcases List.mem_append.mp member with notified | paid
  · exact notifyReadings_recorded tick recorded reading notified
  · cases arrived : arrive app tick with
    | none => simp [arrived] at paid
    | some received =>
      simp only [arrived] at paid
      exact payforVpnReadings_recorded _ (arrive_recorded recorded arrived) reading paid

theorem requestData_recorded {tick : Tick} {next : TenonApp} (recorded : Recorded app.keychain)
    (done : (requestData app tick).2 = some next) : Recorded next.keychain := by
  have read := recorded_getBalance recorded tick.ledger
  have arrived : ∀ received ∈ arrive app tick, Recorded received.keychain := fun _ => arrive_recorded recorded
  unfold requestData at done
  unfold arrive at arrived
  rcases found : getBalance app.keychain tick.ledger with ⟨keychain,_ | balance⟩
  · simp [found] at done
  · rw [found] at read arrived
    simp only [found] at done arrived
    split at done
    · cases done
      exact read
    · next ordinary =>
      rw [if_neg ordinary] at arrived
      cases received : receive balance tick.observer {app with keychain} with
      | none => simp [received] at done
      | some received' =>
        simp only [received] at done
        rw [payforVpn_keychain done]
        exact recorded_getBalance (arrived received' received) _

end ViewController

theorem screens_recorded {app : TenonApp} (event : ScreenEvent) (recorded : Recorded app.keychain) :
    (∀ reading ∈ (screens.step app event).1, Recorded reading.keychain) ∧
      ∀ next, (screens.step app event).2 = some next → Recorded next.keychain := by
  cases event with
  | requestData tick =>
    exact ⟨ViewController.requestDataReadings_recorded tick recorded,
      fun next => ViewController.requestData_recorded recorded⟩
  | refreshFreeView isFree refresh => exact MainViewController.refreshFreeView_recorded isFree refresh recorded
  | reloadBalance reload =>
    exact ⟨MainViewController.reloadReadings_recorded reload recorded,
      fun next => MainViewController.reloadBalance_recorded recorded⟩
  | loadUI ledger =>
    refine ⟨by simp [screens,recorded],fun next done => ?_⟩
    simp only [screens] at done
    split at done
    · cases done
      exact recorded
    · obtain ⟨_,_,rfl⟩ := Option.map_eq_some_iff.mp done
      exact recorded_getBalance recorded ledger
  | recharge receipt type record =>
    refine ⟨by simp [screens],fun next done => ?_⟩
    cases done
    refine ⟨some record,?_⟩
    simp [recordOps,Slot.In,Slot.label,KeychainManager.performs,KeychainManager.getKeyChainTranscate,
      KeychainManager.perform_data]

/-- The balances of a run are right exactly when no computation adds a pending amount
to a balance that already includes it. -/
theorem screens_right_iff_once {app : TenonApp} {run : List ScreenEvent} (start : Recorded app.keychain) :
    (∀ reading ∈ screens.outputs app run, reading.Right) ↔ ∀ reading ∈ screens.outputs app run, reading.Once := by
  have keeps : screens.Keeps (fun app => Recorded app.keychain) (fun _ _ => True) :=
    fun app event next recorded _ => (screens_recorded event recorded).2 next
  have recorded : ∀ reading ∈ screens.outputs app run, Recorded reading.keychain :=
    keeps.outputs (fun app event recorded => (screens_recorded event recorded).1) start run
  refine forall₂_congr fun reading member => ?_
  obtain ⟨slot,holds⟩ := recorded reading member
  exact reading.right_iff_once holds

def unlisted : RechargeRecord :=
  ⟨⟨"02-08 10:00".toList,by decide,by decide⟩,1990,2090,⟨List.replicate 64 'a',by decide,by decide⟩⟩

def afterRecharge : KeychainManager :=
  ViewController.launched.keychain.performs (recordOps "receipt".toList 1 unlisted)

/-- The label shows a stored amount once, 2090 with a ledger balance of 100. -/
theorem screens_right_on_label :
    (∀ reading ∈ screens.outputs ViewController.launched
      [.recharge "receipt".toList 1 unlisted,.reloadBalance ⟨⟨100,[]⟩,0,⟨100,[]⟩⟩], reading.Right) ∧
      Reading.value ⟨.label,afterRecharge,-1,⟨100,[]⟩⟩ = some 2090 := by
  have readings : screens.outputs ViewController.launched
      [.recharge "receipt".toList 1 unlisted,.reloadBalance ⟨⟨100,[]⟩,0,⟨100,[]⟩⟩] =
      [⟨.label,afterRecharge,-1,⟨100,[]⟩⟩] := rfl
  have start : Recorded ViewController.launched.keychain := ⟨none,rfl⟩
  have holds : Slot.In (some unlisted) afterRecharge := rfl
  refine ⟨(screens_right_iff_once start).mpr ?_,?_⟩
  · rw [readings]
    intro reading member
    rw [List.mem_singleton.mp member]
    exact fun _ _ _ => trivial
  · rw [Reading.value,(getBalance_in holds _).2]
    decide

/-- With a ledger balance of 100 the pending row shows 4080 instead of 2090. -/
theorem screens_counted_twice :
    ¬∀ reading ∈ screens.outputs ViewController.launched
      [.recharge "receipt".toList 1 unlisted,.loadUI ⟨100,[]⟩], reading.Right := by
  intro right
  have row := right ⟨.pendingRow,afterRecharge,-1,⟨100,[]⟩⟩ (List.mem_singleton.mpr rfl)
  have holds : Slot.In (some unlisted) afterRecharge := rfl
  have once := (Reading.right_iff_once _ holds).mp row (some unlisted) holds
  exact absurd (once (by decide)) (by decide)

end TenonVpn
