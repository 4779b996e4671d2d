import TenonVpn.PrivateKey
import TenonVpn.Machine
import Mathlib.Order.Basic
import Mathlib.Algebra.Order.Ring.Int

/-! The VPN payment of `TenonP2pLib` and its retries: `CheckVip`, `PayforVipTrans`,
`getLeftDays` and `PayforVpn`, run by the ticks of `ViewController.requestData`.
The gid that `LibP2P.payforVpn` returns is the key under which a retry continues the
same purchase. -/
namespace TenonVpn

def int64Max : Int := 9223372036854775807

def int32 (n : Int) : Option Int := if -2147483648 ≤ n ∧ n ≤ 2147483647 then some n else none

def int64 (n : Int) : Option Int := if -9223372036854775808 ≤ n ∧ n ≤ int64Max then some n else none

/-- The calls of a run that concern the payment: what `LibP2P.payforVpn` is given
and answers, and the time that `CheckVip` returns. -/
inductive Call
  | payforVpn (acc gid : Text) (amount : Int) (answer : Text)
  | checkVip (time : Int)
deriving DecidableEq

/-- What the network, the clock and `arc4random` answer during one `PayforVpn`, call by call. -/
structure Answers where
  checkVip : Text
  account : Fin 4
  payforVpn : Text
  ledger : Ledger
  now : Int
  checkVipAgain : Text

structure Reload where
  left : Ledger
  now : Int
  shown : Ledger

/-- One `requestData`: the ledger that its own `GetBalance` reads, the answers to the
observer of `NOTIFICATION_BALANCE` if the main page is there, and those to `PayforVpn`. -/
structure Tick where
  ledger : Ledger
  observer : Option Reload
  answers : Answers

namespace TenonP2pLib

def payforVpnAccountsArr : Fin 4 → Text
  | 0 => "f64e0d4feebb5283e79a1dfee640a276420a08ce6a8fbef5572e616e24c2cf18".toList
  | 1 => "7ff017f63dc70770fcfe7b336c979c7fc6164e9653f32879e55fcead90ddf13f".toList
  | 2 => "6dce73798afdbaac6b94b79014b15dcc6806cb693cf403098d8819ac362fa237".toList
  | 3 => "b5be6f0090e4f5d40458258ed9adf843324c0327145c48b55091f33673d2d5a4".toList

def minPayforVpnTenon : Int := 66

def dayMsec : Int := 3600 * 1000 * 24

def saveVipStatus (app : TenonApp) : TenonApp :=
  let timed := app.standard.set (.number app.p2p.payforTimestamp) "vip_status_payfor_tm".toList
  {app with standard := timed.set (.number app.p2p.payforAmount) "vip_status_payfor_amount".toList}

def checkVip (answer : Text) (app : TenonApp) : TenonApp × Int :=
  match Text.split ',' answer with
  | [time,amount] =>
    let tmpPayforTimestamp := (Text.int64 time).getD int64Max
    if tmpPayforTimestamp = app.p2p.payforTimestamp then (app,app.p2p.payforTimestamp)
    else
      let p2p := {app.p2p with
        payforAmount := (Text.int64 amount).getD 0
        payforTimestamp := (Text.int64 time).getD int64Max}
      (saveVipStatus {app with p2p},p2p.payforTimestamp)
  | _ => (app,int64Max)

def payforVipTrans (answers : Answers) (app : TenonApp) : List Call × TenonApp :=
  let acc := payforVpnAccountsArr answers.account
  if acc.isEmpty then ([],app)
  else
    let days := min (app.p2p.nowBalance.tdiv minPayforVpnTenon) 30
    let amount := days * minPayforVpnTenon
    if amount ≤ 0 ∨ app.p2p.nowBalance < amount then ([],app)
    else ([.payforVpn acc app.p2p.payforGid amount answers.payforVpn],
      {app with p2p := {app.p2p with payforGid := answers.payforVpn}})

def paidDays (p2p : TenonP2pLib) (now : Int) : Int :=
  p2p.payforTimestamp.tdiv dayMsec + p2p.payforAmount.tdiv minPayforVpnTenon - now.tdiv dayMsec

def Running (p2p : TenonP2pLib) (now : Int) : Prop :=
  p2p.payforTimestamp ≠ int64Max ∧ 0 < paidDays p2p now

instance (p2p : TenonP2pLib) (now : Int) : Decidable (Running p2p now) := inferInstanceAs (Decidable (_ ∧ _))

/-- `getLeftDays`, which leaves its result in `vip_left_days`; none where a conversion traps. -/
def getLeftDays (ledger : Ledger) (now : Int) (app : TenonApp) : Option TenonApp := do
  let (keychain,balance) := getBalance app.keychain ledger
  let days ← int32 ((← int64 (← balance)).tdiv minPayforVpnTenon)
  if Running app.p2p now then
    let basis ← int64 (app.p2p.nowBalance + (← int64 (← getLocalAmount keychain)))
    let left ← int32 ((← int32 (paidDays app.p2p now)) + (← int32 (basis.tdiv minPayforVpnTenon)))
    some {app with keychain, p2p := {app.p2p with payforGid := [], vipLeftDays := left}}
  else some {app with keychain, p2p := {app.p2p with vipLeftDays := days}}

/-- The first half of `PayforVpn`, up to `getLeftDays`. -/
def payforVpnDue (answers : Answers) (app : TenonApp) : List Call × TenonApp :=
  if minPayforVpnTenon ≤ app.p2p.nowBalance ∧
      (app.p2p.payforTimestamp = int64Max ∨ app.p2p.payforTimestamp = 0) then
    let (checked,time) := checkVip answers.checkVip app
    let (calls,paid) := payforVipTrans answers checked
    (.checkVip time :: calls,paid)
  else ([],app)

def payforVpn (answers : Answers) (app : TenonApp) : List Call × Option TenonApp :=
  let (calls,due) := payforVpnDue answers app
  match getLeftDays answers.ledger answers.now due with
  | none => (calls,none)
  | some left =>
    if 0 < left.p2p.vipLeftDays then (calls,some {left with p2p := {left.p2p with payforGid := []}})
    else
      let (checked,time) := checkVip answers.checkVipAgain left
      (calls ++ [.checkVip time],some checked)

end TenonP2pLib

namespace MainViewController

def reloadDays (reload : Reload) (app : TenonApp) : Option TenonApp :=
  if 0 < app.p2p.vipLeftDays then TenonP2pLib.getLeftDays reload.left reload.now app else some app

/-- The balance part of `reloadBalance`: the state it leaves and the balance of the label. -/
def reloadBalance (reload : Reload) (app : TenonApp) : Option (TenonApp × Nat) := do
  let counted ← reloadDays reload app
  let (keychain,balance) := TenonP2pLib.getBalance counted.keychain reload.shown
  some ({counted with keychain},← balance)

end MainViewController

namespace ViewController

def notify (nowBalance : Int) (observer : Option Reload) (app : TenonApp) : Option TenonApp :=
  match observer with
  | some reload =>
    if app.p2p.nowBalance ≠ nowBalance then (MainViewController.reloadBalance reload app).map Prod.fst
    else some app
  | none => some app

def receive (balance : Nat) (observer : Option Reload) (app : TenonApp) : Option TenonApp := do
  let nowBalance ← int64 balance
  let notified ← notify nowBalance observer app
  some {notified with p2p := {notified.p2p with nowBalance}}

/-- `requestData`, which does nothing with the balance `UInt64.max`. -/
def requestData (app : TenonApp) (tick : Tick) : List Call × Option TenonApp :=
  match TenonP2pLib.getBalance app.keychain tick.ledger with
  | (_,none) => ([],none)
  | (keychain,some balance) =>
    if balance = 2^64-1 then ([],some {app with keychain})
    else match receive balance tick.observer {app with keychain} with
      | none => ([],none)
      | some received => TenonP2pLib.payforVpn tick.answers received

def ticks : Machine TenonApp Tick Call := ⟨requestData⟩

end ViewController

namespace Call

def Reports : Call → Prop
  | .checkVip time => time ≠ 0 ∧ time ≠ int64Max
  | .payforVpn .. => False

instance : DecidablePred Reports
  | .checkVip time => inferInstanceAs (Decidable (time ≠ 0 ∧ time ≠ int64Max))
  | .payforVpn .. => inferInstanceAs (Decidable False)

/-- A call has returned a gid and no payment time has been reported since. -/
def Outstanding (calls : List Call) : Prop :=
  ∃ before acc gid amount answer after, calls = before ++ .payforVpn acc gid amount answer :: after ∧
    answer ≠ [] ∧ ∀ call ∈ after, ¬call.Reports

/-- While a gid is outstanding, each payment passes what the payment before it returned. -/
def OneGid (calls : List Call) : Prop :=
  ∀ before acc gid amount answer between acc' gid' amount' answer' after,
    calls = before ++ .payforVpn acc gid amount answer :: (between ++ .payforVpn acc' gid' amount' answer' :: after) →
    (∀ call ∈ between, ∃ time, call = .checkVip time) →
    Outstanding (before ++ .payforVpn acc gid amount answer :: between) → gid' = answer

def purchase : Monitor (Option Text) Call where
  next previous
    | .payforVpn _ _ _ answer => if previous = none ∧ answer = [] then none else some answer
    | .checkVip time => if (checkVip time).Reports then none else previous
  ok previous
    | .payforVpn _ gid _ _ => ∀ answer ∈ previous, gid = answer
    | .checkVip _ => True

theorem purchase_unreported {calls : List Call} (unreported : ∀ call ∈ calls, ¬call.Reports)
    {previous : Option Text} (open' : previous ≠ none) : purchase.after previous calls ≠ none := by
  induction calls generalizing previous with
  | nil => exact open'
  | cons call rest ih =>
    refine ih (fun later member => unreported later (List.mem_cons_of_mem _ member)) ?_
    have silent := unreported call List.mem_cons_self
    cases call with
    | payforVpn acc gid amount answer => simp [purchase,open']
    | checkVip time => simpa [purchase,silent] using open'

theorem purchase_outstanding {calls : List Call} (outstanding : Outstanding calls)
    (previous : Option Text) : purchase.after previous calls ≠ none := by
  obtain ⟨before,acc,gid,amount,answer,after,rfl,returned,unreported⟩ := outstanding
  rw [Monitor.after_append]
  exact purchase_unreported unreported (by simp [purchase,returned])

theorem purchase_between {calls : List Call} (checks : ∀ call ∈ calls, ∃ time, call = .checkVip time)
    {previous : Option Text} {answer : Text} (left : answer ∈ purchase.after previous calls) :
    answer ∈ previous := by
  induction calls generalizing previous with
  | nil => exact left
  | cons call rest ih =>
    have kept := ih (fun later member => checks later (List.mem_cons_of_mem _ member)) left
    obtain ⟨time,rfl⟩ := checks call List.mem_cons_self
    simp only [purchase] at kept
    split at kept
    · simp at kept
    · exact kept

theorem oneGid_of_accepts {calls : List Call} (accepts : purchase.Accepts none calls) : OneGid calls := by
  rintro before acc gid amount answer between acc' gid' amount' answer' after rfl checks outstanding
  rw [← List.cons_append,← List.append_assoc,Monitor.accepts_append] at accepts
  obtain ⟨-,ok,-⟩ := accepts
  obtain ⟨previous,read⟩ := Option.ne_none_iff_exists'.mp (purchase_outstanding outstanding none)
  have returned : previous = answer := by
    have held : previous ∈ purchase.after none (before ++ .payforVpn acc gid amount answer :: between) := read
    rw [Monitor.after_append] at held
    have first := purchase_between checks held
    simp only [purchase] at first
    split at first
    · simp at first
    · exact (Option.some.inj first).symm
  exact (ok previous read).trans returned

end Call

namespace TenonP2pLib

theorem checkVip_p2p (answer : Text) (app : TenonApp) :
    (checkVip answer app).1.keychain = app.keychain ∧
      (checkVip answer app).1.p2p.payforGid = app.p2p.payforGid ∧
      (checkVip answer app).1.p2p.vipLeftDays = app.p2p.vipLeftDays ∧
      (checkVip answer app).1.p2p.nowBalance = app.p2p.nowBalance := by
  unfold checkVip
  split
  · dsimp only
    split <;> exact ⟨rfl,rfl,rfl,rfl⟩
  · exact ⟨rfl,rfl,rfl,rfl⟩

theorem getLeftDays_p2p {ledger : Ledger} {now : Int} {app left : TenonApp}
    (done : getLeftDays ledger now app = some left) :
    (Running app.p2p now → left.p2p.payforGid = []) ∧
    (¬Running app.p2p now → left.p2p.payforGid = app.p2p.payforGid ∧
      ∃ balance, (getBalance app.keychain ledger).2 = some balance ∧
        left.p2p.vipLeftDays = (balance : Int).tdiv minPayforVpnTenon) := by
  unfold getLeftDays at done
  revert done
  cases (getBalance app.keychain ledger) with
  | mk keychain balance =>
    intro done
    simp only [Option.bind_eq_bind,Option.bind_eq_some_iff] at done
    obtain ⟨balance,rfl,wide,fits,days,narrow,done⟩ := done
    refine ⟨fun running => ?_,fun resting => ?_⟩
    · rw [if_pos running] at done
      simp only [Option.bind_eq_some_iff,Option.some.injEq] at done
      obtain ⟨_,_,_,_,_,_,_,_,_,_,_,_,rfl⟩ := done
      rfl
    · rw [if_neg resting] at done
      cases done
      have same : wide = balance := by
        simp only [int64] at fits
        split at fits <;> simp_all
      have same' : days = wide.tdiv minPayforVpnTenon := by
        simp only [int32] at narrow
        split at narrow <;> simp_all
      exact ⟨rfl,balance,rfl,by rw [same',same]⟩

def Held (previous : Option Text) (app : TenonApp) : Prop :=
  ∀ answer ∈ previous, app.p2p.payforGid = answer

theorem payforVipTrans_held (answers : Answers) {previous : Option Text} {app : TenonApp}
    (held : Held previous app) :
    Call.purchase.Accepts previous (payforVipTrans answers app).1 ∧
      Held (Call.purchase.after previous (payforVipTrans answers app).1) (payforVipTrans answers app).2 ∧
      (payforVipTrans answers app).2.p2p.vipLeftDays = app.p2p.vipLeftDays := by
  unfold payforVipTrans
  dsimp only
  split
  · exact ⟨trivial,held,rfl⟩
  split
  · exact ⟨trivial,held,rfl⟩
  refine ⟨⟨held,trivial⟩,fun answer left => ?_,rfl⟩
  simp only [Monitor.after,List.foldl_cons,List.foldl_nil,Call.purchase] at left
  split at left
  · simp at left
  · exact Option.some.inj left

theorem held_checkVip (answer : Text) {previous : Option Text} {app : TenonApp} (time : Int)
    (held : Held previous app) :
    Held (Call.purchase.next previous (.checkVip time)) (checkVip answer app).1 := by
  intro gid left
  rw [(checkVip_p2p answer app).2.1]
  simp only [Call.purchase] at left
  split at left
  · simp at left
  · exact held gid left

theorem payforVpnDue_held (answers : Answers) {previous : Option Text} {app : TenonApp}
    (held : Held previous app) :
    Call.purchase.Accepts previous (payforVpnDue answers app).1 ∧
      Held (Call.purchase.after previous (payforVpnDue answers app).1) (payforVpnDue answers app).2 := by
  unfold payforVpnDue
  split
  · obtain ⟨accepts,after,-⟩ := payforVipTrans_held answers (held_checkVip answers.checkVip _ held)
    exact ⟨⟨trivial,accepts⟩,after⟩
  · exact ⟨trivial,held⟩

def Poor (ledger : Ledger) (now : Int) (app : TenonApp) : Prop :=
  ¬Running app.p2p now ∧ ∀ balance ∈ (getBalance app.keychain ledger).2, balance < 66

theorem payforVpn_held (answers : Answers) {previous : Option Text} {app : TenonApp}
    (held : Held previous app)
    (spared : Call.purchase.after previous (payforVpnDue answers app).1 ≠ none →
      Poor answers.ledger answers.now (payforVpnDue answers app).2) :
    Call.purchase.Accepts previous (payforVpn answers app).1 ∧
      ∀ next, (payforVpn answers app).2 = some next →
        Held (Call.purchase.after previous (payforVpn answers app).1) next ∧
        (Call.purchase.after previous (payforVpn answers app).1 ≠ none → next.p2p.vipLeftDays ≤ 0) := by
  obtain ⟨accepts,after⟩ := payforVpnDue_held answers held
  unfold payforVpn
  revert accepts after spared
  generalize payforVpnDue answers app = due
  obtain ⟨calls,due⟩ := due
  intro spared accepts after
  dsimp only at spared accepts after ⊢
  cases done : getLeftDays answers.ledger answers.now due with
  | none => exact ⟨accepts,fun next impossible => by simp at impossible⟩
  | some left =>
    obtain ⟨-,resting⟩ := getLeftDays_p2p done
    -- with a gid outstanding nothing was cleared and no day is left
    have kept (outstanding : Call.purchase.after previous calls ≠ none) :
        left.p2p.payforGid = due.p2p.payforGid ∧ left.p2p.vipLeftDays ≤ 0 := by
      obtain ⟨idle,poor⟩ := spared outstanding
      obtain ⟨gid,balance,read,days⟩ := resting idle
      refine ⟨gid,?_⟩
      have below := poor balance read
      exact (days.trans (Int.tdiv_eq_zero_of_lt (by omega) (by simp only [minPayforVpnTenon]; omega))).le
    dsimp only
    split
    · next positive =>
      have closed : Call.purchase.after previous calls = none := by
        by_contra outstanding
        have := (kept outstanding).2
        omega
      refine ⟨accepts,fun next found => ?_⟩
      rw [closed]
      exact ⟨fun answer impossible => by simp at impossible,fun absurd' => (absurd' rfl).elim⟩
    · next idle =>
      refine ⟨(Monitor.accepts_append _ _ _ _).mpr ⟨accepts,trivial,trivial⟩,fun next found => ?_⟩
      cases found
      have held' : Held (Call.purchase.after previous calls) left := by
        intro answer member
        rw [(kept (by rw [member]; simp)).1]
        exact after answer member
      rw [Monitor.after_append]
      refine ⟨held_checkVip _ _ held',fun _ => ?_⟩
      rw [(checkVip_p2p answers.checkVipAgain left).2.2.1]
      omega

end TenonP2pLib

namespace ViewController
open TenonP2pLib

theorem receive_p2p {balance : Nat} {observer : Option Reload} {app received : TenonApp}
    (idle : app.p2p.vipLeftDays ≤ 0) (done : receive balance observer app = some received) :
    received.p2p.payforGid = app.p2p.payforGid ∧ received.p2p.vipLeftDays = app.p2p.vipLeftDays := by
  simp only [receive,Option.bind_eq_bind,Option.bind_eq_some_iff] at done
  obtain ⟨wide,-,notified,observed,done⟩ := done
  cases done
  have days (reload : Reload) : MainViewController.reloadDays reload app = some app := if_neg (by omega)
  simp only [notify,MainViewController.reloadBalance,days] at observed
  split at observed
  · split at observed
    · simp only [Option.bind_eq_bind,Option.bind_some,Option.map_eq_some_iff,Option.bind_eq_some_iff] at observed
      obtain ⟨_,⟨_,_,reloaded⟩,rfl⟩ := observed
      cases reloaded
      exact ⟨rfl,rfl⟩
    · cases observed
      exact ⟨rfl,rfl⟩
  · cases observed
    exact ⟨rfl,rfl⟩

def arrive (app : TenonApp) (tick : Tick) : Option TenonApp :=
  match getBalance app.keychain tick.ledger with
  | (_,none) => none
  | (keychain,some balance) =>
    if balance = 2^64-1 then none else receive balance tick.observer {app with keychain}

/-- No gid is outstanding when `PayforVpn` comes to `getLeftDays`, or there is neither a
paid period nor a balance of 66 or more there. -/
def Spared (state : TenonApp × Option Text) (tick : Tick) : Prop :=
  ∀ received ∈ arrive state.1 tick,
    Call.purchase.after state.2 (payforVpnDue tick.answers received).1 ≠ none →
    Poor tick.answers.ledger tick.answers.now (payforVpnDue tick.answers received).2

def Open (state : TenonApp × Option Text) : Prop :=
  Held state.2 state.1 ∧ (state.2 ≠ none → state.1.p2p.vipLeftDays ≤ 0)

theorem requestData_open {app : TenonApp} {previous : Option Text} {tick : Tick}
    (start : Open (app,previous)) (spared : Spared (app,previous) tick) :
    Call.purchase.Accepts previous (requestData app tick).1 ∧ ∀ next, (requestData app tick).2 = some next →
      Open (next,Call.purchase.after previous (requestData app tick).1) := by
  simp only [Spared,arrive] at spared
  unfold requestData
  revert spared
  obtain ⟨keychain,balance⟩ := getBalance app.keychain tick.ledger
  intro spared
  cases balance with
  | none => exact ⟨trivial,fun next impossible => by simp at impossible⟩
  | some balance =>
    dsimp only
    split
    · refine ⟨trivial,fun next found => ?_⟩
      cases found
      exact start
    · next ordinary =>
      cases done : receive balance tick.observer {app with keychain} with
      | none => exact ⟨trivial,fun next impossible => by simp at impossible⟩
      | some received =>
        have held : Held previous received := by
          intro answer member
          have idle : ({app with keychain} : TenonApp).p2p.vipLeftDays ≤ 0 := start.2 (by rw [member]; simp)
          rw [(receive_p2p idle done).1]
          exact start.1 answer member
        exact payforVpn_held tick.answers held (spared received (by dsimp only; rw [if_neg ordinary]; exact done))

theorem requestData_oneGid {app : TenonApp} {run : List Tick}
    (along : (ticks.watch Call.purchase).Along Spared (app,none) run) :
    Call.OneGid (ticks.outputs app run) := by
  have keeps : (ticks.watch Call.purchase).Keeps Open Spared := by
    rintro ⟨app,previous⟩ tick next inv spared stepped
    obtain ⟨app',taken,rfl⟩ := Machine.watch_step stepped
    exact (requestData_open inv spared).2 app' taken
  have start : Open (app,none) :=
    ⟨fun answer impossible => by simp at impossible,fun absurd' => (absurd' rfl).elim⟩
  exact Call.oneGid_of_accepts (ticks.accepts_of_along Call.purchase keeps
    (fun app previous tick inv spared => (requestData_open inv spared).1) start along)

def tickOf (left : Nat) (answer : Text) : Tick where
  ledger := ⟨100,[]⟩
  observer := none
  answers := ⟨[],0,answer,⟨left,[]⟩,1600000000000,[]⟩

def launched : TenonApp where
  keychain := KeychainItemWrapper.initWithIdentifier none
  standard := UserDefaults.empty
  group := UserDefaults.empty
  p2p := ⟨0,0,[],-1,-1,"account".toList,List.replicate 64 '1',[]⟩

theorem requestData_oneGid_deducted :
    Call.OneGid (ticks.outputs launched [tickOf 0 "gid".toList,tickOf 0 "gid".toList]) := by
  refine requestData_oneGid ⟨?_,fun next stepped => ⟨?_,fun _ _ => trivial⟩⟩
  · rintro received arrived -
    cases arrived
    exact ⟨by decide,by decide⟩
  · cases stepped
    rintro received arrived -
    cases arrived
    exact ⟨by decide,by decide⟩

/-- The balance of 100 still stands when `getLeftDays` reads it, so the first gid is dropped
and the second tick pays under another one. -/
theorem requestData_two_gids :
    ¬Call.OneGid (ticks.outputs launched [tickOf 100 "first".toList,tickOf 100 "second".toList]) := by
  intro oneGid
  have kept := oneGid [.checkVip int64Max] (payforVpnAccountsArr 0) [] 66 "first".toList
    [.checkVip int64Max] (payforVpnAccountsArr 0) [] 66 "second".toList [] rfl
    (fun call member => ⟨_,List.mem_singleton.mp member⟩)
    ⟨[.checkVip int64Max],_,_,_,_,[.checkVip int64Max],rfl,by decide,by decide⟩
  exact absurd kept (by decide)

end ViewController
end TenonVpn
