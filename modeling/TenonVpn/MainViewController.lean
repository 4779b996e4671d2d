import TenonVpn.FreeTime
import TenonVpn.VpnManager

/-! `MainViewController` with `VpnManager`, and the extension that ticks while the tunnel
runs. Taps, timers, notifications and the blocks put on the main queue come in any order;
a notification is an event for each observer. Each load of the page, also the one of
`reloadLanguage`, adds a timer and an observer. -/
namespace TenonVpn.FreeUse

inductive CodeTimer
  | getCodeTime
  | incFreeGetCodeTime
deriving DecidableEq

/-- A block that waits for the main queue: the end of `DoClickConnect` or `DoClickDisconnect`,
or what `connectVpn` does after five seconds. -/
inductive MainBlock
  | doClickConnect
  | doClickDisconnect
  | showLinked
deriving DecidableEq

structure MainViewController where
  manager : VpnManager
  blocks : List MainBlock
  left : Nat
  today : Nat
  vipLeftDays : Int
  isLink : Bool
  loadingTime : Int
  codeTimer : Option CodeTimer
  outoftimeShowed : Bool
  prevShowInsAdTimestamp : Nat
  rewardedInterstitialAd : Bool
  /-- The repeating timers of the page, each with whether it is due. -/
  timers : List Bool
  /-- The process of the extension while it runs, with whether its timer is due. -/
  tunnel : Option Bool

inductive MainEvent
  | viewDidLoad
  | showAdsTimer (index : Nat)
  | notificationBalance
  | refreshFreeView
  | linkBtnClicked
  | didSelectRow
  | clickIncreaseFreeTime
  | codeTimer (nowTm : Nat) (isReady : Bool)
  | insAdLoaded
  | userDidEarnReward (amount : Int)
  | insAdReward (loaded : Bool)
  | mainQueue (index : Nat) (nodes : Option Settings)
  | manager (event : VpnEvent)
  | setVipLeftDays (days : Int)
  | second
  | tunnelStarts
  | tick (nowDayTm : Nat)
  | tunnelStops

inductive Act
  | second
  | charge (amount : Nat)
  | doClickDisconnect
  | disconnect
  | connected
  | command (command : Command)
deriving DecidableEq

namespace MainViewController

def isVip (s : MainViewController) : Bool := 0 < s.vipLeftDays

def userStartedVpn (s : MainViewController) : Bool := s.manager.vpnConnected

def isConnected (s : MainViewController) : Bool :=
  s.manager.vpnStatus = .connecting || s.manager.vpnStatus = .on

def doClickConnect (s : MainViewController) : MainViewController :=
  {s with manager := {s.manager with vpnConnected := false}, blocks := s.blocks ++ [.doClickConnect]}

def doClickDisconnect (s : MainViewController) : List Act × MainViewController :=
  ([.doClickDisconnect],
    {s with manager := {s.manager with vpnConnected := false}, blocks := s.blocks ++ [.doClickDisconnect]})

def disconnectVpn (s : MainViewController) : List Act × MainViewController :=
  if 0 < s.loadingTime then ([],s)
  else if s.isLink then
    let asked := doClickDisconnect s
    (asked.1,{asked.2 with isLink := false})
  else ([],s)

def addtagBtnClicked (s : MainViewController) : MainViewController :=
  {s with loadingTime := 7, codeTimer := some .getCodeTime}

def connectVpn (s : MainViewController) : MainViewController :=
  if 0 < s.loadingTime then s
  else
    let started := addtagBtnClicked (doClickConnect s)
    {started with blocks := started.blocks ++ [.showLinked]}

def linkBtnClicked (s : MainViewController) : List Act × MainViewController :=
  if s.left ≤ 1000 then ([],{s with outoftimeShowed := true})
  else
    let shown := {s with outoftimeShowed := false}
    if s.isLink then disconnectVpn shown else ([],connectVpn shown)

def clickIncreaseFreeTime (s : MainViewController) : MainViewController :=
  {s with loadingTime := 7, codeTimer := some .incFreeGetCodeTime}

def charge (s : MainViewController) : List Act × MainViewController :=
  if s.isLink = false ∧ 1000 ≤ s.left then ([.charge 1000],{s with left := s.left - 1000}) else ([],s)

def reloadBalance (s : MainViewController) : List Act × MainViewController :=
  if s.isVip then ([],if s.left < 2000 then {s with left := 3600 * 1000} else s)
  else
    let charged := charge s
    if charged.2.left ≤ 1000 then
      let asked := disconnectVpn charged.2
      (charged.1 ++ asked.1,{asked.2 with isLink := false, outoftimeShowed := true})
    else charged

def stopCountdown (s : MainViewController) : MainViewController := {s with codeTimer := none, loadingTime := 0}

def linked (s : MainViewController) : MainViewController := {stopCountdown s with isLink := true}

def reloadVPNStatus (s : MainViewController) : MainViewController :=
  if s.userStartedVpn && s.isVip then linked s else {s with isLink := false}

def initUI (s : MainViewController) : MainViewController := if s.isConnected then {s with isLink := true} else s

def viewDidLoad (s : MainViewController) : List Act × MainViewController :=
  let shown := reloadBalance (initUI {s with rewardedInterstitialAd := false})
  (shown.1,{shown.2 with timers := shown.2.timers ++ [false], outoftimeShowed := false})

def sinceAd (nowTm : Nat) (s : MainViewController) : Nat := (nowTm + 2^64 - s.prevShowInsAdTimestamp) % 2^64

def countDown (s : MainViewController) : MainViewController :=
  let counted := {s with loadingTime := s.loadingTime - 1}
  if 0 < counted.loadingTime then counted
  else if counted.userStartedVpn then {counted with codeTimer := none}
  else {counted with isLink := false, codeTimer := none}

def getCodeTime (nowTm : Nat) (s : MainViewController) : MainViewController :=
  let shown :=
    if s.rewardedInterstitialAd && !s.isVip && s.userStartedVpn && 30000 ≤ sinceAd nowTm s then
      linked {s with prevShowInsAdTimestamp := nowTm, rewardedInterstitialAd := false}
    else s
  countDown (if shown.userStartedVpn && (shown.isVip || sinceAd nowTm shown < 30000) then linked shown else shown)

def countDownAd (s : MainViewController) : MainViewController :=
  let counted := {s with loadingTime := s.loadingTime - 1}
  if 0 < counted.loadingTime then counted else {counted with codeTimer := none}

def incFreeGetCodeTime (isReady : Bool) (s : MainViewController) : MainViewController :=
  let adShowd := if !s.isVip && isReady then stopCountdown s else s
  countDownAd (if adShowd.userStartedVpn && adShowd.isVip then stopCountdown adShowd else adShowd)

def updates (manager : VpnManager) : VpnEvent → Bool
  | .statusDidChange _ => manager.observerAdded
  | .complete index report =>
    manager.pending[index]? = some .vpnInit && (report.managers.getD []).isEmpty = false
  | _ => false

def acts (manager : VpnManager) (event : VpnEvent) : List Act :=
  (match event with
    | .disconnect => [.disconnect]
    | _ => []) ++
  (VpnManager.step manager event).1.map .command ++
  (if manager.vpnStatus ≠ .on ∧ (VpnManager.step manager event).2.vpnStatus = .on then [.connected] else [])

/-- A write of `vpnStatus` is posted at once, in `updateVPNStatus` before `vpn_connected` is
set again. -/
def onManager (event : VpnEvent) (s : MainViewController) : List Act × MainViewController :=
  let next := (VpnManager.step s.manager event).2
  let posted :=
    if s.timers = [] then s
    else if updates s.manager event then reloadVPNStatus {s with manager := {next with vpnConnected := false}}
    else if event matches .setVpnStatusOff then reloadVPNStatus {s with manager := next}
    else s
  (acts s.manager event,{posted with manager := next})

def andThen (first second : MainViewController → List Act × MainViewController) (s : MainViewController) :
    List Act × MainViewController :=
  ((first s).1 ++ (second (first s).2).1,(second (first s).2).2)

/-- `ConnectVpn` of `ViewController`, with the nodes that it found. -/
def swiftConnectVpn (nodes : Option Settings) (s : MainViewController) : List Act × MainViewController :=
  match nodes with
  | none => ([],s)
  | some settings => andThen (onManager (.configure settings)) (andThen (onManager .disconnect) (onManager .connect)) s

def block (nodes : Option Settings) (s : MainViewController) : MainBlock → List Act × MainViewController
  | .doClickConnect => if s.manager.vpnStatus = .off then swiftConnectVpn nodes s else onManager .disconnect s
  | .doClickDisconnect => if s.manager.vpnStatus = .off then ([],s) else onManager .disconnect s
  | .showLinked => ([],if !s.isLink && s.userStartedVpn then {s with isLink := true} else s)

def tick (nowDayTm : Nat) (s : MainViewController) : List Act × MainViewController :=
  if 1000 ≤ s.left then
    ([.charge 1000],
      if s.today = nowDayTm then {s with left := s.left - 1000, tunnel := some false}
      else {s with left := 3600 * 1000, today := nowDayTm, tunnel := some false})
  else ([],{s with tunnel := none})

def onPage (s : MainViewController) (result : List Act × MainViewController) :
    List Act × Option MainViewController :=
  if s.timers = [] then ([],none) else (result.1,some result.2)

def step (s : MainViewController) : MainEvent → List Act × Option MainViewController
  | .viewDidLoad => ((viewDidLoad s).1,some (viewDidLoad s).2)
  | .showAdsTimer index =>
    if s.timers[index]? = some true then
      let shown := reloadBalance {s with timers := s.timers.set index false}
      (shown.1,some shown.2)
    else ([],none)
  | .notificationBalance => onPage s (reloadBalance s)
  | .refreshFreeView => onPage s (reloadBalance s)
  | .linkBtnClicked => onPage s (linkBtnClicked s)
  | .didSelectRow => onPage s ((doClickDisconnect s).1,{(doClickDisconnect s).2 with isLink := false})
  | .clickIncreaseFreeTime => onPage s ([],clickIncreaseFreeTime s)
  | .codeTimer nowTm isReady =>
    ([],s.codeTimer.map fun
      | .getCodeTime => getCodeTime nowTm s
      | .incFreeGetCodeTime => incFreeGetCodeTime isReady s)
  | .insAdLoaded => ([],some {s with rewardedInterstitialAd := true})
  | .userDidEarnReward amount => ([],some {s with left := s.left + FreeTime.reward amount})
  | .insAdReward loaded => ([],some {s with left := s.left + FreeTime.insAdReward loaded})
  | .mainQueue index nodes =>
    match s.blocks[index]? with
    | none => ([],none)
    | some first =>
      let ran := block nodes {s with blocks := s.blocks.eraseIdx index} first
      (ran.1,some ran.2)
  | .manager event => ((onManager event s).1,some (onManager event s).2)
  | .setVipLeftDays days => ([],some {s with vipLeftDays := days})
  | .second => ([.second],some {s with timers := s.timers.map fun _ => true, tunnel := s.tunnel.map fun _ => true})
  | .tunnelStarts => ([],if s.tunnel = none then some {s with tunnel := some true} else none)
  | .tick nowDayTm => if s.tunnel = some true then ((tick nowDayTm s).1,some (tick nowDayTm s).2) else ([],none)
  | .tunnelStops => ([],some {s with tunnel := none})

def main : Machine MainViewController MainEvent Act := ⟨step⟩

def launched (left today : Nat) (days : Int) (tunnel : Option Bool) : MainViewController where
  manager := VpnManager.launched
  blocks := []
  left := left
  today := today
  vipLeftDays := days
  isLink := false
  loadingTime := 0
  codeTimer := none
  outoftimeShowed := false
  prevShowInsAdTimestamp := 0
  rewardedInterstitialAd := false
  timers := []
  tunnel := tunnel

/-- The state in which the event runs `reloadBalance`, if it does. -/
def reloads (s : MainViewController) : MainEvent → Option MainViewController
  | .viewDidLoad => some (initUI {s with rewardedInterstitialAd := false})
  | .showAdsTimer index =>
    if s.timers[index]? = some true then some {s with timers := s.timers.set index false} else none
  | .notificationBalance | .refreshFreeView => if s.timers = [] then none else some s
  | _ => none

theorem step_of_reloads {s t : MainViewController} {event : MainEvent} (reloaded : s.reloads event = some t) :
    ∃ timers shown, step s event =
      ((reloadBalance t).1,some {(reloadBalance t).2 with timers := timers, outoftimeShowed := shown}) := by
  cases event with
  | viewDidLoad =>
    cases reloaded
    exact ⟨_,_,rfl⟩
  | showAdsTimer index =>
    simp only [reloads,Option.ite_none_right_eq_some,Option.some.injEq] at reloaded
    obtain ⟨due,rfl⟩ := reloaded
    refine ⟨(reloadBalance {s with timers := s.timers.set index false}).2.timers,
      (reloadBalance {s with timers := s.timers.set index false}).2.outoftimeShowed,?_⟩
    simp only [step,if_pos due]
  | notificationBalance =>
    simp only [reloads,Option.ite_none_left_eq_some,Option.some.injEq] at reloaded
    obtain ⟨loaded,rfl⟩ := reloaded
    refine ⟨(reloadBalance s).2.timers,(reloadBalance s).2.outoftimeShowed,?_⟩
    simp only [step,onPage,if_neg loaded]
  | refreshFreeView =>
    simp only [reloads,Option.ite_none_left_eq_some,Option.some.injEq] at reloaded
    obtain ⟨loaded,rfl⟩ := reloaded
    refine ⟨(reloadBalance s).2.timers,(reloadBalance s).2.outoftimeShowed,?_⟩
    simp only [step,onPage,if_neg loaded]
  | _ => cases reloaded

theorem step_of_unloaded {s : MainViewController} {event : MainEvent} (unloaded : s.reloads event = none)
    (calls : (∃ index, event = .showAdsTimer index) ∨ event = .notificationBalance ∨ event = .refreshFreeView) :
    step s event = ([],none) := by
  rcases calls with ⟨index,rfl⟩ | rfl | rfl
  · simp only [reloads,ite_eq_right_iff,reduceCtorEq,imp_false] at unloaded
    simp only [step,if_neg unloaded]
  · simp only [reloads,ite_eq_left_iff,reduceCtorEq,imp_false,not_not] at unloaded
    simp only [step,onPage,if_pos unloaded]
  · simp only [reloads,ite_eq_left_iff,reduceCtorEq,imp_false,not_not] at unloaded
    simp only [step,onPage,if_pos unloaded]

end MainViewController
end TenonVpn.FreeUse
