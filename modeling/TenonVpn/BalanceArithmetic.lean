import TenonVpn.Recharge
import TenonVpn.Checked

/-! The balance and day arithmetic with every trap of the fixed-width operations:
`requestData`'s copy of the balance and `getLeftDays`, which narrows days to 32 bits. The
balance limit of `GetBalance` keeps its sum within 64 bits, and is too high for the days. -/
namespace TenonVpn
open TenonP2pLib Slot Checked

namespace Trapping

/-- What `requestData` stores in `now_balance`. -/
def requestData (balance : Nat) (nowBalance : Int) : Option Int :=
  if balance ≠ 2^64-1 then narrow 64 balance else some nowBalance

def getLeftDays (ledger : Ledger) (now : Int) (app : TenonApp) : Option TenonApp := do
  let (keychain,balance) := getBalance app.keychain ledger
  let days ← narrow 32 (← div 64 (← narrow 64 (← balance)) minPayforVpnTenon)
  let daysTimestamp ← div 64 app.p2p.payforTimestamp dayMsec
  let daysCur ← div 64 (← narrow 64 now) dayMsec
  let vipDays ← div 64 app.p2p.payforAmount minPayforVpnTenon
  let ends ← if app.p2p.payforTimestamp ≠ int64Max then add 64 daysTimestamp vipDays else some daysCur
  if daysCur < ends then
    let paid ← narrow 32 (← sub 64 (← add 64 daysTimestamp vipDays) daysCur)
    let basis ← add 64 app.p2p.nowBalance (← narrow 64 (← getLocalAmount keychain))
    let left ← add 32 paid (← narrow 32 (← div 64 basis minPayforVpnTenon))
    some {app with keychain, p2p := {app.p2p with payforGid := [], vipLeftDays := left}}
  else some {app with keychain, p2p := {app.p2p with vipLeftDays := days}}

end Trapping

/-- The pending record is one that `completeTransaction` stores, and the numbers are Int64
values; `now_balance` is its initial -1 or an earlier result of `GetBalance`. -/
structure Sound (slot : Slot) (app : TenonApp) : Prop where
  pending : slot.In app.keychain
  planned : ∀ record ∈ slot, ∃ selectIdx, record.amount = amountOf selectIdx
  payforTimestamp : Fits 64 app.p2p.payforTimestamp
  payforAmount : Fits 64 app.p2p.payforAmount
  nowBalance : -1 ≤ app.p2p.nowBalance ∧ app.p2p.nowBalance ≤ balanceLimit + 23800

/-- The days of the balance fit in 32 bits, and while a paid period runs so does its rest with
the days of the last balance and the pending amount. -/
def Narrow (slot : Slot) (ledger : Ledger) (now : Int) (app : TenonApp) : Prop :=
  countedBalance ledger slot < 66 * 2^31 ∧ (Running app.p2p now →
    paidDays app.p2p now + (app.p2p.nowBalance + pendingAmount ledger slot).tdiv 66 < 2^31)

def NeverTraps (ledger : Ledger) (now : Int) (app : TenonApp) : Prop :=
  (∃ balance, (getBalance app.keychain ledger).2 = some balance ∧
    (Trapping.requestData balance app.p2p.nowBalance).isSome = true) ∧
  (Trapping.getLeftDays ledger now app).isSome = true

theorem amountOf_le (selectIdx : Int) : amountOf selectIdx ≤ 23800 := by
  unfold amountOf
  split
  · decide
  split
  · decide
  split <;> decide

theorem int32_eq_narrow (n : Int) : int32 n = narrow 32 n := by
  unfold int32 narrow
  congr 1
  exact propext (by rw [fits_32]; omega)

theorem int64_eq_narrow (n : Int) : int64 n = narrow 64 n := by
  unfold int64 narrow int64Max
  congr 1
  exact propext (by rw [fits_64]; omega)

namespace Sound
variable {slot : Slot} {app : TenonApp}

theorem amount_le (sound : Sound slot app) : slot.amount ≤ 23800 := by
  cases slot with
  | none => exact Nat.zero_le _
  | some record =>
    obtain ⟨selectIdx,paid⟩ := sound.planned record rfl
    exact le_of_eq_of_le paid (amountOf_le selectIdx)

theorem pending_le (sound : Sound slot app) (ledger : Ledger) : pendingAmount ledger slot ≤ 23800 :=
  le_trans (pendingAmount_le ledger slot) sound.amount_le

theorem counted_le (sound : Sound slot app) (ledger : Ledger) :
    countedBalance ledger slot ≤ balanceLimit + 23800 :=
  Nat.add_le_add (limitedBalance_le ledger) (sound.pending_le ledger)

/-- `GetBalance` does not trap, and `GetLocalAmount` after it gives what is still pending. -/
theorem getBalance_eq (sound : Sound slot app) (ledger : Ledger) :
    (getBalance app.keychain ledger).2 = some (countedBalance ledger slot) ∧
      getLocalAmount (getBalance app.keychain ledger).1 = some (pendingAmount ledger slot) := by
  obtain ⟨settled,counted⟩ := getBalance_in sound.pending ledger
  have limit := sound.counted_le ledger
  have small := sound.pending_le ledger
  unfold balanceLimit at limit
  constructor
  · rw [counted,if_pos (by omega)]
  · have held : (settle ledger slot).amount = pendingAmount ledger slot := rfl
    rw [getLocalAmount_in settled,held,if_pos (by omega)]

theorem counted_fits (sound : Sound slot app) (ledger : Ledger) : Fits 64 (countedBalance ledger slot) := by
  have limit := sound.counted_le ledger
  unfold balanceLimit at limit
  rw [fits_64]
  omega

theorem pending_fits (sound : Sound slot app) (ledger : Ledger) : Fits 64 (pendingAmount ledger slot) := by
  have few := sound.pending_le ledger
  rw [fits_64]
  omega

theorem basis_fits (sound : Sound slot app) (ledger : Ledger) :
    Fits 64 (app.p2p.nowBalance + pendingAmount ledger slot) := by
  have limit := sound.nowBalance
  have small := sound.pending_le ledger
  unfold balanceLimit at limit
  rw [fits_64]
  omega

/-- The days of an Int64 time or amount leave room for sums of a few of them. -/
theorem days_fit (sound : Sound slot app) {now : Int} (clock : Fits 64 now) :
    Fits 64 (app.p2p.payforTimestamp.tdiv dayMsec + app.p2p.payforAmount.tdiv minPayforVpnTenon) ∧
      Fits 64 (paidDays app.p2p now) := by
  have within {c n : Int} (wide : 4 ≤ c) (fits : Fits 64 n) : -2^61 ≤ n.tdiv c ∧ n.tdiv c ≤ 2^61 := by
    obtain ⟨low,high⟩ := fits_64.mp fits
    exact tdiv_within (by omega) (by omega) (by omega)
  have started := within (c := dayMsec) (by decide) sound.payforTimestamp
  have paid := within (c := minPayforVpnTenon) (by decide) sound.payforAmount
  have today := within (c := dayMsec) (by decide) clock
  unfold paidDays
  rw [fits_64,fits_64]
  omega

theorem getLeftDays_eq (sound : Sound slot app) (ledger : Ledger) {now : Int} (clock : Fits 64 now) :
    Trapping.getLeftDays ledger now app = TenonP2pLib.getLeftDays ledger now app := by
  obtain ⟨counted,waiting⟩ := sound.getBalance_eq ledger
  obtain ⟨ends,rest⟩ := sound.days_fit clock
  have daysBalance := sound.counted_fits ledger
  have basis := sound.basis_fits ledger
  have small := sound.pending_fits ledger
  have positive : 0 < minPayforVpnTenon := by decide
  have day : 0 < dayMsec := by decide
  unfold Trapping.getLeftDays TenonP2pLib.getLeftDays
  revert counted waiting
  generalize getBalance app.keychain ledger = answer
  obtain ⟨keychain,balance⟩ := answer
  rintro rfl waiting
  simp -implicitDefEqProofs only [Option.bind_eq_bind,Option.bind_some,int64_eq_narrow,int32_eq_narrow,
    narrow_fits daysBalance,div_fits daysBalance positive,div_fits sound.payforTimestamp day,
    narrow_fits clock,div_fits clock day,div_fits sound.payforAmount positive]
  refine Option.bind_congr fun days _ => ?_
  by_cases never : app.p2p.payforTimestamp = int64Max
  · have resting : ¬Running app.p2p now := fun running => running.1 never
    simp -implicitDefEqProofs only [never,resting,ne_eq,not_true_eq_false,if_false,lt_irrefl]
  · have added := narrow_fits ends
    have subtracted := narrow_fits rest
    have summed := narrow_fits basis
    have later : Running app.p2p now ↔ now.tdiv dayMsec <
        app.p2p.payforTimestamp.tdiv dayMsec + app.p2p.payforAmount.tdiv minPayforVpnTenon := by
      unfold Running paidDays
      simp only [ne_eq,never,not_false_eq_true,true_and]
      omega
    unfold paidDays at subtracted
    rw [if_pos never]
    simp -implicitDefEqProofs only [add,sub,added,subtracted,Option.bind_some,← later]
    by_cases running : Running app.p2p now
    · rw [if_pos running,if_pos running]
      dsimp only at waiting
      simp -implicitDefEqProofs only [waiting,narrow_fits small,summed,div_fits basis positive,Option.bind_some,
        paidDays]
    · rw [if_neg running,if_neg running]

theorem days_fits_iff (balance : Nat) : Fits 32 ((balance : Int).tdiv minPayforVpnTenon) ↔ balance < 66 * 2^31 := by
  rw [minPayforVpnTenon,Int.tdiv_eq_ediv_of_nonneg (by omega),fits_32]
  omega

theorem days_nonneg (sound : Sound slot app) (ledger : Ledger) :
    0 ≤ (app.p2p.nowBalance + pendingAmount ledger slot).tdiv minPayforVpnTenon := by
  have least : -1 ≤ app.p2p.nowBalance + pendingAmount ledger slot := by
    have bound := sound.nowBalance.1
    omega
  exact Int.tdiv_le_tdiv (c := minPayforVpnTenon) (by decide) least

theorem getLeftDays_isSome_iff (sound : Sound slot app) (ledger : Ledger) (now : Int) :
    (TenonP2pLib.getLeftDays ledger now app).isSome = true ↔ Narrow slot ledger now app := by
  obtain ⟨counted,waiting⟩ := sound.getBalance_eq ledger
  have daysBalance := sound.counted_fits ledger
  have basis := sound.basis_fits ledger
  have nonneg := sound.days_nonneg ledger
  have small := sound.pending_fits ledger
  unfold TenonP2pLib.getLeftDays Narrow
  revert counted waiting
  generalize getBalance app.keychain ledger = answer
  obtain ⟨keychain,balance⟩ := answer
  rintro rfl waiting
  simp -implicitDefEqProofs only [Option.bind_eq_bind,Option.bind_some,int64_eq_narrow,int32_eq_narrow,
    narrow_fits daysBalance,← days_fits_iff]
  by_cases wide : Fits 32 ((countedBalance ledger slot : Int).tdiv minPayforVpnTenon)
  · rw [narrow_fits wide,Option.bind_some,and_iff_right wide]
    by_cases running : Running app.p2p now
    · dsimp only at waiting
      rw [if_pos running]
      simp -implicitDefEqProofs only [waiting,narrow_fits small,narrow_fits basis,Option.bind_some,
        narrow_summands _ (Int.le_of_lt running.2) nonneg,running,true_imp_iff]
      rw [narrow_bind_isSome fun _ => rfl,fits_nonneg (Int.add_nonneg (Int.le_of_lt running.2) nonneg)]
      rfl
    · simp [running]
  · rw [narrow_none wide,Option.bind_none]
    exact ⟨fun impossible => Bool.noConfusion impossible,fun fits => absurd fits.1 wide⟩

theorem requestData_isSome (sound : Sound slot app) (ledger : Ledger) :
    (Trapping.requestData (countedBalance ledger slot) app.p2p.nowBalance).isSome = true := by
  unfold Trapping.requestData
  split
  · exact narrow_isSome.mpr (sound.counted_fits ledger)
  · rfl

theorem neverTraps_iff (sound : Sound slot app) (ledger : Ledger) {now : Int} (clock : Fits 64 now) :
    NeverTraps ledger now app ↔ Narrow slot ledger now app := by
  rw [NeverTraps,sound.getLeftDays_eq ledger clock,sound.getLeftDays_isSome_iff ledger now,
    (sound.getBalance_eq ledger).1]
  exact and_iff_right ⟨_,rfl,sound.requestData_isSome ledger⟩

theorem frame {other : TenonApp} (sound : Sound slot app) (keychain : other.keychain = app.keychain)
    (timestamp : other.p2p.payforTimestamp = app.p2p.payforTimestamp)
    (amount : other.p2p.payforAmount = app.p2p.payforAmount) (balance : other.p2p.nowBalance = app.p2p.nowBalance) :
    Sound slot other :=
  ⟨keychain ▸ sound.pending,sound.planned,timestamp ▸ sound.payforTimestamp,amount ▸ sound.payforAmount,
    balance ▸ sound.nowBalance⟩

theorem settle (sound : Sound slot app) (ledger : Ledger) :
    Sound (slot.settle ledger) {app with keychain := (getBalance app.keychain ledger).1} := by
  refine ⟨settle_in sound.pending ledger,fun record kept => ?_,sound.payforTimestamp,sound.payforAmount,
    sound.nowBalance⟩
  exact sound.planned record (Option.mem_filter_iff.mp kept).1

theorem fits_int64 (text : Text) {default : Int} (fits : Fits 64 default) :
    Fits 64 ((Text.int64 text).getD default) := by
  cases read : Text.int64 text with
  | none => exact fits
  | some value =>
    obtain ⟨low,high⟩ := Text.integer_range read
    exact fits_64.mpr (by simp only [Option.getD_some]; omega)

theorem checkVip (sound : Sound slot app) (answer : Text) : Sound slot (checkVip answer app).1 := by
  unfold TenonP2pLib.checkVip
  split
  · next time amount fields =>
    dsimp only
    split
    · exact sound
    · exact ⟨sound.pending,sound.planned,fits_int64 time (by decide),fits_int64 amount (by decide),sound.nowBalance⟩
  · exact sound

theorem getLeftDays {left : TenonApp} (sound : Sound slot app) {ledger : Ledger} {now : Int}
    (done : getLeftDays ledger now app = some left) : Sound (slot.settle ledger) left := by
  have settled := sound.settle ledger
  have same : left.keychain = (getBalance app.keychain ledger).1 ∧
      left.p2p.payforTimestamp = app.p2p.payforTimestamp ∧ left.p2p.payforAmount = app.p2p.payforAmount ∧
      left.p2p.nowBalance = app.p2p.nowBalance := by
    unfold TenonP2pLib.getLeftDays at done
    simp only [Option.bind_eq_bind,Option.bind_eq_some_iff] at done
    obtain ⟨_,_,_,_,_,_,done⟩ := done
    split at done
    · simp only [Option.bind_eq_some_iff,Option.some.injEq] at done
      obtain ⟨_,_,_,_,_,_,_,_,_,_,_,_,rfl⟩ := done
      exact ⟨rfl,rfl,rfl,rfl⟩
    · cases done
      exact ⟨rfl,rfl,rfl,rfl⟩
  exact settled.frame same.1 same.2.1 same.2.2.1 same.2.2.2

theorem payforVpnDue (sound : Sound slot app) (answers : Answers) : Sound slot (payforVpnDue answers app).2 := by
  unfold TenonP2pLib.payforVpnDue
  split
  · have checked := sound.checkVip answers.checkVip
    unfold payforVipTrans
    dsimp only
    split
    · exact checked
    split
    · exact checked
    · exact checked.frame rfl rfl rfl rfl
  · exact sound

theorem payforVpn {next : TenonApp} (sound : Sound slot app) {answers : Answers}
    (done : (payforVpn answers app).2 = some next) : Sound (slot.settle answers.ledger) next := by
  unfold TenonP2pLib.payforVpn at done
  dsimp only at done
  split at done
  · cases done
  · next left counted =>
    have kept := (sound.payforVpnDue answers).getLeftDays counted
    split at done
    · cases done
      exact kept.frame rfl rfl rfl rfl
    · cases done
      exact kept.checkVip answers.checkVipAgain

theorem reloadBalance {reload : Reload} {shown : TenonApp × Nat} (sound : Sound slot app)
    (done : MainViewController.reloadBalance reload app = some shown) : ∃ slot, Sound slot shown.1 := by
  simp only [MainViewController.reloadBalance,Option.bind_eq_bind,Option.bind_eq_some_iff,Option.some.injEq] at done
  obtain ⟨counted,days,balance,-,rfl⟩ := done
  unfold MainViewController.reloadDays at days
  split at days
  · exact ⟨_,(sound.getLeftDays days).settle reload.shown⟩
  · cases days
    exact ⟨_,sound.settle reload.shown⟩

theorem notify {nowBalance : Int} {observer : Option Reload} {notified : TenonApp} (sound : Sound slot app)
    (done : ViewController.notify nowBalance observer app = some notified) : ∃ slot, Sound slot notified := by
  unfold ViewController.notify at done
  split at done
  · split at done
    · obtain ⟨shown,reloaded,rfl⟩ := Option.map_eq_some_iff.mp done
      exact sound.reloadBalance reloaded
    · cases done
      exact ⟨slot,sound⟩
  · cases done
    exact ⟨slot,sound⟩

theorem receive {balance : Nat} {observer : Option Reload} {received : TenonApp} (sound : Sound slot app)
    (limit : balance ≤ balanceLimit + 23800) (done : ViewController.receive balance observer app = some received) :
    ∃ slot, Sound slot received := by
  simp only [ViewController.receive,Option.bind_eq_bind,Option.bind_eq_some_iff,Option.some.injEq] at done
  obtain ⟨nowBalance,wide,notified,observed,rfl⟩ := done
  obtain ⟨slot,kept⟩ := sound.notify observed
  refine ⟨slot,kept.pending,kept.planned,kept.payforTimestamp,kept.payforAmount,?_⟩
  obtain ⟨-,same⟩ := Option.ite_none_right_eq_some.mp wide
  cases same
  have least : -1 ≤ (balance : Int) := by omega
  exact ⟨least,Int.ofNat_le.mpr limit⟩

/-- Soundness is kept by every `requestData`, whatever the network answers. -/
theorem requestData {tick : Tick} {next : TenonApp} (sound : Sound slot app)
    (done : (ViewController.requestData app tick).2 = some next) : ∃ slot, Sound slot next := by
  have counted := (sound.getBalance_eq tick.ledger).1
  have settled := sound.settle tick.ledger
  unfold ViewController.requestData at done
  revert done counted settled
  generalize TenonP2pLib.getBalance app.keychain tick.ledger = answer
  obtain ⟨keychain,balance⟩ := answer
  rintro done rfl settled
  dsimp only at done
  split at done
  · cases done
    exact ⟨_,settled⟩
  · split at done
    · cases done
    · next received arrived =>
      obtain ⟨slot,kept⟩ := settled.receive (sound.counted_le tick.ledger) arrived
      exact ⟨_,kept.payforVpn done⟩

end Sound

theorem ticks_sound {app : TenonApp} (start : ∃ slot, Sound slot app) (run : List Tick) :
    ViewController.ticks.Visits (fun app => ∃ slot, Sound slot app) app run := by
  have keeps : ViewController.ticks.Keeps (fun app => ∃ slot, Sound slot app) (fun _ _ => True) := by
    rintro app tick next ⟨slot,sound⟩ - stepped
    exact sound.requestData stepped
  exact keeps.visits start run

theorem launched_sound : Sound none ViewController.launched where
  pending := rfl
  planned := by simp
  payforTimestamp := by decide
  payforAmount := by decide
  nowBalance := by decide

/-- No computation traps exactly where the days fit in 32 bits. -/
theorem arithmetic_traps_iff {slot : Slot} {app : TenonApp} (sound : Sound slot app) (ledger : Ledger) (answer : Text)
    {now : Int} (clock : Fits 64 now) :
    NeverTraps ledger now (checkVip answer app).1 ↔ Narrow slot ledger now (checkVip answer app).1 :=
  (sound.checkVip answer).neverTraps_iff ledger clock

theorem launched_traps_iff :
    NeverTraps ⟨5000,[]⟩ 1600000000000 (checkVip "1600000000000,1980".toList ViewController.launched).1 ↔
      Narrow none ⟨5000,[]⟩ 1600000000000 (checkVip "1600000000000,1980".toList ViewController.launched).1 :=
  arithmetic_traps_iff launched_sound ⟨5000,[]⟩ "1600000000000,1980".toList (by decide)

/-- A balance of 2^31 days is far below the limit of `GetBalance`. -/
theorem wide_balance_traps :
    ¬∀ slot app ledger answer now, Sound slot app → Fits 64 now →
      NeverTraps ledger now (checkVip answer app).1 := by
  intro never
  have kept := never none ViewController.launched ⟨66 * 2^31,[]⟩ [] 0 launched_sound (by decide)
  have narrow := ((launched_sound.checkVip []).neverTraps_iff ⟨66 * 2^31,[]⟩ (by decide)).mp kept
  exact absurd narrow.1 (by decide)

end TenonVpn
