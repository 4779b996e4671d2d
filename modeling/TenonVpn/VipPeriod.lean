import TenonVpn.VpnPayment

/-! When `PayforVpn` pays. It asks whether a payment is due before it asks the network, and
not again afterwards; and it takes a payment as due only while no payment time is known,
so that a period which has run out is not renewed. -/
namespace TenonVpn

def Call.Pays : Call → Prop
  | .payforVpn .. => True
  | .checkVip _ => False

namespace TenonP2pLib

def Unpaid (p2p : TenonP2pLib) : Prop := p2p.payforTimestamp = int64Max ∨ p2p.payforTimestamp = 0

instance (p2p : TenonP2pLib) : Decidable (Unpaid p2p) := inferInstanceAs (Decidable (_ ∨ _))

def Due (p2p : TenonP2pLib) : Prop := minPayforVpnTenon ≤ p2p.nowBalance ∧ Unpaid p2p

instance (p2p : TenonP2pLib) : Decidable (Due p2p) := inferInstanceAs (Decidable (_ ∧ _))

def Confirms (answer : Text) : Prop :=
  ∃ time amount paid, Text.split ',' answer = [time,amount] ∧ Text.int64 time = some paid ∧
    paid ≠ int64Max ∧ paid ≠ 0

theorem payforVipTrans_pays (answers : Answers) {app : TenonApp} (rich : minPayforVpnTenon ≤ app.p2p.nowBalance) :
    ∃ amount, (payforVipTrans answers app).1 =
        [.payforVpn (payforVpnAccountsArr answers.account) app.p2p.payforGid amount answers.payforVpn] ∧
      0 < amount ∧ minPayforVpnTenon ∣ amount ∧ amount ≤ app.p2p.nowBalance ∧ amount ≤ 30 * minPayforVpnTenon := by
  have account : (payforVpnAccountsArr answers.account).isEmpty = false := by
    generalize answers.account = account
    revert account
    decide
  let amount := min (app.p2p.nowBalance.tdiv minPayforVpnTenon) 30 * minPayforVpnTenon
  have enough : (66 : Int) ≤ app.p2p.nowBalance := rich
  have days : amount = min (app.p2p.nowBalance / 66) 30 * 66 := by
    rw [← Int.tdiv_eq_ediv_of_nonneg (by omega)]
    rfl
  have positive : 0 < amount := by omega
  have affordable : amount ≤ app.p2p.nowBalance := by omega
  have bounded : amount ≤ 30 * minPayforVpnTenon := by
    change amount ≤ 30 * 66
    omega
  refine ⟨amount,?_,positive,Dvd.intro_left _ rfl,affordable,bounded⟩
  have pays : ¬(amount ≤ 0 ∨ app.p2p.nowBalance < amount) := by omega
  simp only [payforVipTrans,account,Bool.false_eq_true,if_false]
  rw [if_neg pays]

theorem payforVpn_calls (answers : Answers) (app : TenonApp) (call : Call) :
    call ∈ (payforVpn answers app).1 ∧ call.Pays ↔ call ∈ (payforVpnDue answers app).1 ∧ call.Pays := by
  unfold payforVpn
  generalize payforVpnDue answers app = due
  obtain ⟨calls,due⟩ := due
  dsimp only
  cases getLeftDays answers.ledger answers.now due with
  | none => rfl
  | some left =>
    dsimp only
    split
    · rfl
    · simp only [List.mem_append,List.mem_singleton]
      constructor
      · rintro ⟨member | rfl,pays⟩
        · exact ⟨member,pays⟩
        · exact pays.elim
      · exact fun ⟨member,pays⟩ => ⟨Or.inl member,pays⟩

theorem payforVpnDue_calls (answers : Answers) (app : TenonApp) (call : Call) :
    call ∈ (payforVpnDue answers app).1 ∧ call.Pays ↔
      Due app.p2p ∧ call ∈ (payforVipTrans answers (checkVip answers.checkVip app).1).1 := by
  unfold payforVpnDue
  split
  · next due =>
    have rich : minPayforVpnTenon ≤ (checkVip answers.checkVip app).1.p2p.nowBalance := by
      rw [(checkVip_p2p answers.checkVip app).2.2.2]
      exact due.1
    obtain ⟨amount,paid,-⟩ := payforVipTrans_pays answers rich
    constructor
    · rintro ⟨member,pays⟩
      rcases List.mem_cons.mp member with rfl | issued
      · exact pays.elim
      · exact ⟨due,issued⟩
    · rintro ⟨-,issued⟩
      refine ⟨List.mem_cons_of_mem _ issued,?_⟩
      rw [paid] at issued
      rw [List.mem_singleton.mp issued]
      trivial
  · next idle =>
    exact ⟨fun ⟨impossible,_⟩ => absurd impossible List.not_mem_nil,fun ⟨due,_⟩ => absurd due idle⟩

theorem payforVpn_pays_iff (answers : Answers) (app : TenonApp) :
    (∃ call ∈ (payforVpn answers app).1, call.Pays) ↔ Due app.p2p := by
  simp only [payforVpn_calls,payforVpnDue_calls]
  constructor
  · rintro ⟨call,due,-⟩
    exact due
  · intro due
    have rich : minPayforVpnTenon ≤ (checkVip answers.checkVip app).1.p2p.nowBalance := by
      rw [(checkVip_p2p answers.checkVip app).2.2.2]
      exact due.1
    obtain ⟨amount,paid,-⟩ := payforVipTrans_pays answers rich
    exact ⟨_,due,by rw [paid]; exact List.mem_singleton_self _⟩

theorem checkVip_unpaid {answer : Text} {app : TenonApp} (unpaid : Unpaid app.p2p) :
    Unpaid (checkVip answer app).1.p2p ↔ ¬Confirms answer := by
  unfold checkVip
  split
  · next time amount pieces =>
    have confirms : Confirms answer ↔
        ¬((Text.int64 time).getD int64Max = int64Max ∨ (Text.int64 time).getD int64Max = 0) := by
      constructor
      · rintro ⟨time',amount',paid,pieces',read,known,some'⟩
        rw [pieces] at pieces'
        cases pieces'
        rw [read]
        exact not_or.mpr ⟨known,some'⟩
      · intro reported
        obtain ⟨known,some'⟩ := not_or.mp reported
        cases read : Text.int64 time with
        | none => exact absurd (by rw [read]; rfl) known
        | some paid =>
          rw [read] at known some'
          exact ⟨time,amount,paid,pieces,read,known,some'⟩
    dsimp only
    split
    · next same =>
      rw [confirms,not_not,same]
      rfl
    · rw [confirms,not_not]
      rfl
  · next other =>
    refine ⟨fun _ ⟨time,amount,_,pieces,_⟩ => other time amount pieces,fun _ => unpaid⟩

/-- Every payment follows a refresh that reports none, and is a multiple of the minimum
within the balance and 30 days. -/
def IssuedDue (answers : Answers) (app : TenonApp) : Prop :=
  ∀ acc gid amount answer, .payforVpn acc gid amount answer ∈ (payforVpn answers app).1 →
    Unpaid (checkVip answers.checkVip app).1.p2p ∧ 0 < amount ∧ minPayforVpnTenon ∣ amount ∧
      amount ≤ app.p2p.nowBalance ∧ amount ≤ 30 * minPayforVpnTenon

/-- The refresh comes too late: a payment that it reports does not stop the next one. -/
theorem issuedDue_iff (answers : Answers) (app : TenonApp) :
    IssuedDue answers app ↔ (Due app.p2p → ¬Confirms answers.checkVip) := by
  constructor
  · intro issued due
    obtain ⟨call,member,pays⟩ := (payforVpn_pays_iff answers app).mpr due
    cases call with
    | checkVip _ => exact pays.elim
    | payforVpn acc gid amount answer =>
      exact (checkVip_unpaid due.2).mp (issued acc gid amount answer member).1
  · intro spared acc gid amount answer member
    obtain ⟨member,-⟩ := (payforVpn_calls answers app _).mp ⟨member,trivial⟩
    obtain ⟨due,issued⟩ := (payforVpnDue_calls answers app _).mp ⟨member,trivial⟩
    have balance := (checkVip_p2p answers.checkVip app).2.2.2
    obtain ⟨paid,calls,bounds⟩ := payforVipTrans_pays answers (balance.symm ▸ due.1)
    rw [calls] at issued
    cases List.mem_singleton.mp issued
    rw [balance] at bounds
    exact ⟨(checkVip_unpaid due.2).mpr (spared due),bounds⟩

/-- The refresh confirms a payment of the day, and the next one is issued all the same. -/
theorem payforVpn_confirmed : ¬IssuedDue ⟨"1600000000000,66".toList,0,"gid".toList,⟨34,[]⟩,1600000000000,[]⟩
    {ViewController.launched with p2p := {ViewController.launched.p2p with nowBalance := 100}} := by
  intro issued
  obtain ⟨unpaid,-⟩ := issued (payforVpnAccountsArr 0) [] 66 "gid".toList (by decide)
  exact absurd unpaid (by decide)

end TenonP2pLib

namespace ViewController
open TenonP2pLib

/-- A tick with a balance of 66 or more pays if no paid period is running. -/
def Renewed (app : TenonApp) (tick : Tick) : Prop :=
  ∀ received ∈ arrive app tick, minPayforVpnTenon ≤ received.p2p.nowBalance →
    ¬Running received.p2p tick.answers.now → ∃ call ∈ (requestData app tick).1, call.Pays

/-- No payment time is stored, unless the balance is too small or the paid period is running. -/
def Unexpired (app : TenonApp) (tick : Tick) : Prop :=
  ∀ received ∈ arrive app tick, minPayforVpnTenon ≤ received.p2p.nowBalance →
    ¬Running received.p2p tick.answers.now → Unpaid received.p2p

theorem requestData_arrive {app received : TenonApp} {tick : Tick} (arrived : received ∈ arrive app tick) :
    requestData app tick = payforVpn tick.answers received := by
  unfold arrive at arrived
  unfold requestData
  revert arrived
  obtain ⟨keychain,balance⟩ := getBalance app.keychain tick.ledger
  cases balance with
  | none => exact fun impossible => absurd impossible (by simp)
  | some balance =>
    dsimp only
    intro arrived
    split at arrived
    · simp at arrived
    · next ordinary =>
      rw [if_neg ordinary,Option.mem_def.mp arrived]

theorem renewed_iff (app : TenonApp) (tick : Tick) : Renewed app tick ↔ Unexpired app tick := by
  constructor
  · intro renewed received arrived rich resting
    have paid := renewed received arrived rich resting
    rw [requestData_arrive arrived,payforVpn_pays_iff] at paid
    exact paid.2
  · intro unexpired received arrived rich resting
    rw [requestData_arrive arrived,payforVpn_pays_iff]
    exact ⟨rich,unexpired received arrived rich resting⟩

/-- Along a run every period is renewed exactly while none has expired with its time known. -/
theorem ticks_renewed_iff (app : TenonApp) (run : List Tick) :
    ticks.Along Renewed app run ↔ ticks.Along Unexpired app run := by
  have keeps : ticks.Keeps (fun _ => True) Renewed := Machine.keeps_true _
  exact Machine.along_iff keeps (fun app tick _ => renewed_iff app tick) trivial

/-- The payment of the first tick is reported at its end; a hundred days later the balance of
100 keeps the user a VIP without a payment. -/
theorem ticks_not_renewed : ¬ticks.Along Renewed launched
    [⟨⟨100,[]⟩,none,⟨[],0,"gid".toList,⟨34,[]⟩,1600000000000,"1600000000000,66".toList⟩⟩,
      ⟨⟨100,[]⟩,none,⟨[],0,"gid".toList,⟨100,[]⟩,1608640000000,[]⟩⟩] := by
  rintro ⟨-,later⟩
  obtain ⟨second,-⟩ := later _ rfl
  obtain ⟨call,member,-⟩ := second _ rfl (by decide) (by decide)
  exact absurd member List.not_mem_nil

end ViewController
end TenonVpn
