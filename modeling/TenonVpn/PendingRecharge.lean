import TenonVpn.RechargeTurn

/-! The pending completion between `completeTransaction` and the ledger. `Kept` relates
the keychain to it after every turn; that the persistent item keeps the completion and
that no other transaction replaces it follow, each as far as the code goes. -/
namespace TenonVpn.World
open Machine TenonP2pLib KeychainManager

/-- What the keychain has to do with the pending completion, between turns. -/
structure Kept (w : World) : Prop where
  coherent : Coherent w.app.keychain
  label : w.app.keychain.getKeyChainTranscate = [] ∨
    ∃ completion ∈ w.pending, w.app.keychain.getKeyChainTranscate = completion.record.text
  stored : w.rekeyed = false → ∀ completion ∈ w.pending,
    w.app.keychain.item ≠ none ∧ Remembers w.app.keychain completion

theorem getPrivateKey_keychain (app : TenonApp) : (getPrivateKey app).1.keychain =
    if storedKeys app.standard = [] then app.keychain.performs keylessOps else app.keychain := by
  unfold getPrivateKey
  cases storedKeys app.standard <;> rfl

theorem keylessOps_label (manager : KeychainManager) :
    (manager.performs keylessOps).getKeyChainTranscate = [] := by
  simp [keylessOps,performs,getKeyChainTranscate,perform_data]

theorem init_data {manager : KeychainManager} (coherent : Coherent manager) (persisted : manager.item ≠ none) :
    (KeychainItemWrapper.initWithIdentifier manager.item).keychainItemData = manager.keychainItemData := by
  obtain ⟨stored,held⟩ := Option.ne_none_iff_exists'.mp persisted
  simp [KeychainItemWrapper.initWithIdentifier,held,coherent stored held]

theorem kept_restart {w : World} (kept : Kept w) : Kept w.restart := by
  have launched : w.restart.app.keychain = (getPrivateKey {w.app with
      keychain := KeychainItemWrapper.initWithIdentifier w.app.keychain.item
      p2p := ⟨0,0,[],-1,-1,[],[],[]⟩}).1.keychain := rfl
  rw [getPrivateKey_keychain] at launched
  by_cases keyless : storedKeys w.app.standard = []
  -- without a key `GetPrivateKey` empties the record of the new process
  · rw [if_pos keyless] at launched
    refine ⟨?_,Or.inl ?_,fun rekeyed => ?_⟩
    · rw [launched]
      exact coherent_performs _ _ (coherent_init _)
    · rw [launched]
      exact keylessOps_label _
    · simp [restart,keyless] at rekeyed
  rw [if_neg keyless] at launched
  refine ⟨?_,?_,fun rekeyed completion pending => ?_⟩
  · rw [launched]
    exact coherent_init _
  · rw [launched]
    by_cases persisted : w.app.keychain.item = none
    · exact Or.inl (by simp [persisted,KeychainItemWrapper.initWithIdentifier,getKeyChainTranscate,resetKeychainItem])
    · have data := init_data kept.coherent persisted
      simpa only [getKeyChainTranscate,data,restart] using kept.label
  · have before : w.rekeyed = false := by simpa [restart,keyless] using rekeyed
    obtain ⟨persisted,remembers⟩ := kept.stored before completion pending
    have data := init_data kept.coherent persisted
    rw [launched]
    refine ⟨persisted,?_⟩
    simpa only [Remembers,getKeyChainReceipt,getKeyChainTranscate,data] using remembers

theorem kept_quiet {origin w : World} {o : Effect} (quiet : origin.Quiet o) (kept : Kept w) :
    Kept (w.perform o) := by
  cases o with
  | setApp app => exact quiet.elim
  | keychain op => exact quiet.elim
  | recording completion ledger => exact quiet.elim
  | recorded completion => exact quiet.elim
  | confirmed => exact quiet.elim
  | rekeyed => exact quiet.elim
  | restart => exact kept_restart kept
  | _ => exact ⟨kept.coherent,kept.label,kept.stored⟩

theorem foldl_keychain (w : World) (ops : List KeychainOp) : (ops.map Effect.keychain).foldl perform w =
    {w with app := {w.app with keychain := w.app.keychain.performs ops}} := by
  induction ops generalizing w with
  | nil => rfl
  | cons op rest ih => exact ih _

theorem foldl_balanceEffects (w : World) (ledger : Ledger) :
    (balanceEffects w.app.keychain ledger).foldl perform w =
      {w with
        app := {w.app with keychain := w.app.keychain.performs (getBalanceOps w.app.keychain ledger)}
        pending := if getBalanceOps w.app.keychain ledger = [] then w.pending else none} := by
  rw [balanceEffects,List.foldl_append,foldl_keychain]
  split <;> rfl

theorem getBalanceOps_cases (manager : KeychainManager) (ledger : Ledger) : getBalanceOps manager ledger = [] ∨
    getBalanceOps manager ledger =
      [.setKeyChainType 0,.setKeyChainReceipt [],.setKeyChainTranscate [],.clearKeyChain] := by
  unfold getBalanceOps
  split
  · split
    · split
      · exact Or.inr rfl
      · exact Or.inl rfl
    · exact Or.inl rfl
  · exact Or.inl rfl

theorem kept_balanceEffects {w : World} (kept : Kept w) (ledger : Ledger) :
    Kept ((balanceEffects w.app.keychain ledger).foldl perform w) := by
  rw [foldl_balanceEffects]
  rcases getBalanceOps_cases w.app.keychain ledger with none | cleared
  · rw [none]
    exact ⟨kept.coherent,kept.label,kept.stored⟩
  · refine ⟨coherent_performs _ _ kept.coherent,Or.inl ?_,?_⟩
    · simp [cleared,performs,getKeyChainTranscate,perform_data]
    · simp [cleared]

theorem kept_getBalanceTurn {w : World} (kept : Kept w) (ledger : Ledger) {rest : Nat → List Effect}
    (later : ∀ balance state, Kept state → Kept ((rest balance).foldl perform state)) :
    Kept ((getBalanceTurn w.app.keychain ledger rest).foldl perform w) := by
  have settled := kept_balanceEffects kept ledger
  unfold balanceEffects at settled
  simp only [getBalanceTurn]
  rw [List.foldl_append]
  cases (getBalance w.app.keychain ledger).2 with
  | none => exact kept_restart settled
  | some balance => exact later balance _ settled

theorem kept_keyTurn {w : World} {effects : List Effect} (kept : Kept w) (keyed : w.KeyTurn effects) :
    Kept (effects.foldl perform w) := by
  obtain ⟨app,ops,noted,rfl,keychain,keys⟩ := keyed
  have coherent : Coherent app.keychain := by
    rw [keychain]
    exact coherent_performs _ _ kept.coherent
  rcases keys with ⟨rfl,only⟩ | ⟨rfl,dropped⟩
  · obtain ⟨prikey,data⟩ := performs_key_data w.app.keychain ops (fun op member => Or.inl (only op member))
    rw [← keychain] at data
    refine ⟨coherent,?_,fun rekeyed completion pending => ?_⟩
    · simpa only [List.foldl_cons,List.foldl_nil,perform,getKeyChainTranscate,data] using kept.label
    · obtain ⟨persisted,remembers⟩ := kept.stored rekeyed completion pending
      refine ⟨?_,?_⟩
      · have setters : .clearKeyChain ∉ ops := fun member => by
          obtain ⟨_,clear⟩ := only _ member
          cases clear
        have persists := performs_persists w.app.keychain ops setters persisted
        rwa [← keychain] at persists
      · simpa only [List.foldl_cons,List.foldl_nil,perform,Remembers,getKeyChainReceipt,getKeyChainTranscate,data]
          using remembers
  · refine ⟨coherent,?_,fun rekeyed => by cases rekeyed⟩
    change app.keychain.getKeyChainTranscate = [] ∨ ∃ completion ∈ w.pending,
      app.keychain.getKeyChainTranscate = completion.record.text
    rcases dropped with rfl | only
    · rw [keychain]
      exact Or.inl (keylessOps_label _)
    · obtain ⟨prikey,data⟩ := performs_key_data w.app.keychain ops only
      rw [← keychain] at data
      simpa only [getKeyChainTranscate,data] using kept.label

/-- Storing writes unless the dictionary remembers the completion, and then, if no change
of the key has dropped the item, the item is there. -/
theorem kept_storeTurn {w : World} (kept : Kept w) (account : Text) (completion : Completion) (ledger : Ledger) :
    Kept ((RechargeViewController.storeTurn account completion ledger).foldl perform w) := by
  have folded : (RechargeViewController.storeTurn account completion ledger).foldl perform w =
      {w with
        app := {w.app with keychain :=
          w.app.keychain.performs (recordOps completion.receipt completion.type completion.record)}
        posts := w.posts ++ [.complete completion.transaction account completion.receipt completion.type]
        pending := some completion
        rekeyed := w.rekeyed && decide (Remembers w.app.keychain completion)} := rfl
  rw [folded]
  have data : (w.app.keychain.performs
      (recordOps completion.receipt completion.type completion.record)).keychainItemData =
      {w.app.keychain.keychainItemData with
        account := completion.receipt, type := some completion.type, label := completion.record.text} := by
    simp [recordOps,performs,perform_data]
  have setters : .clearKeyChain ∉ recordOps completion.receipt completion.type completion.record := by
    simp [recordOps]
  refine ⟨coherent_performs _ _ kept.coherent,Or.inr ⟨completion,rfl,?_⟩,fun rekeyed other pending => ?_⟩
  · simp only [getKeyChainTranscate,data]
  obtain rfl : completion = other := Option.some.inj pending
  refine ⟨?_,?_⟩
  swap
  · simp only [Remembers,getKeyChainReceipt,getKeyChainTranscate,data,and_self]
  by_cases remembers : Remembers w.app.keychain completion
  -- nothing is written, so the item has to be there: the record that is remembered was pending
  · have before : w.rekeyed = false := by simpa [remembers] using rekeyed
    apply performs_persists _ _ setters
    rcases kept.label with empty | ⟨held,pending,_⟩
    · exact absurd (remembers.2.2.symm.trans empty) completion.record.text_ne_nil
    · exact (kept.stored before held pending).1
  -- some setter changes the dictionary, and from there on it is written through
  · apply performs_persists_of_ne _ _ setters
    intro same
    rw [data] at same
    exact remembers ⟨(congrArg KeychainItemData.account same).symm,(congrArg KeychainItemData.type same).symm,
      (congrArg KeychainItemData.label same).symm⟩

variable (ccSha256 : Text → Fin 32 → Fin 256)

theorem kept_turn {w : World} (kept : Kept w) (event : RechargeEvent) :
    Kept ((turn ccSha256 w event).foldl perform w) := by
  rcases w.handles_or event with ⟨environment,index,transaction,handles⟩ | other
  · rw [handles_turn ccSha256 handles,List.foldl_cons,List.foldl_cons]
    unfold onPage
    split
    · exact ⟨kept.coherent,kept.label,kept.stored⟩
    · next page found =>
      have begun : Kept (((w.perform .dequeue).perform (.finishTransaction transaction)).perform
          (.setPage index {page with receipt := environment.receipt})) :=
        ⟨kept.coherent,kept.label,kept.stored⟩
      simp only [RechargeViewController.completeTransaction,List.foldl_cons]
      cases environment.verify with
      | noData => exact ⟨begun.coherent,begun.label,begun.stored⟩
      | unparseable => exact ⟨begun.coherent,begun.label,begun.stored⟩
      | json =>
        refine kept_getBalanceTurn begun environment.ledger (fun balance state settled => ?_)
        cases environment.receipt with
        | none => exact kept_restart settled
        | some receipt => exact kept_storeTurn settled _ _ _
  · rcases turn_cases ccSha256 other with quiet | ⟨ledger,rest,balanced,quiet⟩ | keyed
    · exact foldl_keeps (fun o member _ => kept_quiet (quiet o member)) kept
    · rw [balanced]
      exact kept_getBalanceTurn kept ledger (fun balance state settled =>
        foldl_keeps (fun o member _ => kept_quiet (quiet balance o member)) settled)
    · exact kept_keyTurn kept keyed

theorem keeps_kept (P : World → RechargeEvent → Prop) : (recharge ccSha256).Keeps Kept P :=
  keeps_ofTurns (fun _ event kept _ => kept_turn ccSha256 kept event)

theorem kept_installed (item : Option KeychainItemData) (group : UserDefaults) : Kept (installed item group) := by
  refine ⟨?_,Or.inl ?_,fun _ completion pending => by cases pending⟩
  · exact coherent_performs _ keylessOps (coherent_init item)
  · exact keylessOps_label (KeychainItemWrapper.initWithIdentifier item)

def Durable (w : World) : Prop := ∀ completion ∈ w.pending, Persists w.app.keychain completion

instance : DecidablePred Durable := fun _ => inferInstanceAs (Decidable (∀ _ ∈ _,_))

theorem durable_of_kept {w : World} (kept : Kept w) (rekeyed : w.rekeyed = false) : Durable w := by
  intro completion pending
  obtain ⟨persisted,receipt,type,label⟩ := kept.stored rekeyed completion pending
  obtain ⟨stored,held⟩ := Option.ne_none_iff_exists'.mp persisted
  rw [kept.coherent stored held] at held
  exact ⟨_,held,receipt,type,label⟩

/-- A pending completion stays in the persistent keychain unless a change of the key or
a start without a key drops the records. -/
theorem recharge_durable (item : Option KeychainItemData) (group : UserDefaults) (events : List RechargeEvent) :
    (recharge ccSha256).Visits (fun w => w.rekeyed = false → Durable w) (installed item group) events :=
  Visits.imp (fun _ kept => durable_of_kept kept)
    ((keeps_kept ccSha256 _).visits (kept_installed item group) events)

/-- A purchase and a new key, and a purchase before there is a key. -/
theorem recharge_dropped :
    ¬(recharge receiptSha256).Visits Durable (installed none .empty)
      (.viewDidLoad :: purchase 0 .month 0 (answering .json firstReceipt) ++
        [.savePrivateKey (List.replicate 64 '1')]) ∧
    ¬(recharge receiptSha256).Visits Durable (installed none .empty)
      (.viewDidLoad :: purchase 0 .month 0 (answering .json firstReceipt) ++ [.getPrivateKey]) := by
  constructor
  · intro visits
    exact absurd (visits_ofTurns visits) (by decide +kernel)
  · intro visits
    exact absurd (visits_ofTurns visits) (by decide +kernel)

/-- `completeTransaction` replaces no pending record that the ledger does not list by
that of another transaction. -/
def NotOverwritten : World × Effect → Prop
  | (w,.recording completion ledger) => ∀ stored ∈ w.pending,
    w.app.keychain.getKeyChainTranscate = stored.record.text →
      Slot.confirmed stored.record ledger ∨ stored.transaction.identifier = completion.transaction.identifier
  | _ => True

/-- Where `completeTransaction` comes to its writes, the record field is empty, or its
`GetBalance` clears it, or it is about the same transaction. -/
def Unoccupied (w : World) (event : RechargeEvent) : Prop :=
  ∀ index page transaction environment receipt balance,
    w.Completes event index page transaction environment receipt balance →
      w.app.keychain.getKeyChainTranscate = [] ∨ getBalanceOps w.app.keychain environment.ledger ≠ [] ∨
        ∃ stored ∈ w.pending, stored.transaction.identifier = transaction.identifier

theorem foldl_beforeStore (w : World) (index : Nat) (page : Page) (transaction : SKPaymentTransaction)
    (environment : Environment) :
    ((w.beforeStore index page transaction environment).foldl perform w).app.keychain =
        w.app.keychain.performs (getBalanceOps w.app.keychain environment.ledger) ∧
      ((w.beforeStore index page transaction environment).foldl perform w).pending =
        if getBalanceOps w.app.keychain environment.ledger = [] then w.pending else none := by
  have settled := foldl_balanceEffects (((w.perform .dequeue).perform (.finishTransaction transaction)).perform
    (.setPage index {page with receipt := environment.receipt})) environment.ledger
  rw [beforeStore,List.foldl_append]
  exact ⟨congrArg (fun state => state.app.keychain) settled,congrArg World.pending settled⟩

theorem recording_state {w state : World} {event : RechargeEvent} {recorded : Completion} {ledger : Ledger}
    (member : (state,.recording recorded ledger) ∈ trace perform w (turn ccSha256 w event)) :
    ∃ index page environment receipt balance,
      w.Completes event index page recorded.transaction environment receipt balance ∧
        ledger = environment.ledger ∧
        state = (w.beforeStore index page recorded.transaction environment).foldl perform w := by
  obtain ⟨index,page,transaction,environment,receipt,balance,completes,_⟩ :=
    stores_turn ccSha256 (show (Effect.recording recorded ledger).Stores from trivial) (mem_of_mem_trace member)
  rw [completes_turn ccSha256 completes,trace_append] at member
  rcases List.mem_append.mp member with early | member
  · have effect := mem_of_mem_trace early
    rw [beforeStore,balanceEffects] at effect
    split at effect <;> simp at effect
  rcases List.mem_cons.mp member with here | late
  · obtain ⟨rfl,effect⟩ := Prod.mk.inj here
    obtain ⟨rfl,rfl⟩ := Effect.recording.inj effect
    exact ⟨index,page,environment,receipt,balance,completes,rfl,rfl⟩
  · have effect := mem_of_mem_trace late
    simp at effect

theorem unoccupied_iff {w : World} (kept : Kept w) (event : RechargeEvent) :
    w.Unoccupied event ↔ ∀ o ∈ ((recharge ccSha256).step w event).1, NotOverwritten o := by
  constructor
  · rintro unoccupied ⟨state,o⟩ member
    cases o with
    | recording recorded ledger =>
      intro stored pending holds
      obtain ⟨index,page,environment,receipt,balance,completes,rfl,rfl⟩ := recording_state ccSha256 member
      obtain ⟨keychain,rest⟩ := foldl_beforeStore w index page recorded.transaction environment
      rw [rest] at pending
      rw [keychain] at holds
      by_cases unlisted : getBalanceOps w.app.keychain environment.ledger = []
      swap
      · simp [unlisted] at pending
      rw [if_pos unlisted] at pending
      rw [unlisted] at holds
      rcases unoccupied index page _ environment receipt balance completes with empty | listed | ⟨held,pending',same⟩
      · exact absurd (holds.symm.trans empty) stored.record.text_ne_nil
      · exact absurd unlisted listed
      · obtain rfl := Option.some.inj (pending.symm.trans pending')
        exact Or.inr same
    | _ => trivial
  · intro good index page transaction environment receipt balance completes
    by_cases unlisted : getBalanceOps w.app.keychain environment.ledger = []
    swap
    · exact Or.inr (Or.inl unlisted)
    rcases kept.label with empty | ⟨stored,pending,holds⟩
    · exact Or.inl empty
    have recorded := good _ (mem_trace.mpr ⟨_,_,completes_turn ccSha256 completes,rfl⟩) stored
    obtain ⟨keychain,rest⟩ := foldl_beforeStore w index page transaction environment
    rw [rest,if_pos unlisted,keychain,unlisted] at recorded
    rcases recorded pending holds with listed | same
    · have slot : Slot.In (some stored.record) w.app.keychain := holds
      rw [getBalanceOps_in slot] at unlisted
      simp [listed] at unlisted
    · exact Or.inr (Or.inr ⟨stored,pending,same⟩)

/-- A pending recharge is never overwritten exactly along the runs in which each
completion finds no other pending one. -/
theorem notOverwritten_iff (item : Option KeychainItemData) (group : UserDefaults) (events : List RechargeEvent) :
    (∀ o ∈ (recharge ccSha256).outputs (installed item group) events, NotOverwritten o) ↔
      (recharge ccSha256).Along Unoccupied (installed item group) events := by
  rw [forall_outputs]
  exact (along_iff (keeps_kept ccSha256 _) (fun w event kept => unoccupied_iff ccSha256 kept event)
    (kept_installed item group)).symm

def overlapping : List RechargeEvent :=
  .viewDidLoad :: (purchase 0 .month 0 (answering .json firstReceipt)).take 4 ++
    (purchase 0 .quarter 1 (answering .json firstReceipt)).take 4 ++
    (purchase 0 .month 0 (answering .json firstReceipt)).drop 4 ++
    (purchase 0 .quarter 1 (answering .json secondReceipt)).drop 4

theorem pending_overwritten :
    ¬∀ o ∈ (recharge receiptSha256).outputs (installed none .empty) overlapping, NotOverwritten o := by
  intro good
  have overwritten := good (_,.recording _ _) (List.mem_iff_getElem?.mpr ⟨33,rfl⟩)
  rcases overwritten _ rfl rfl with listed | same
  · exact absurd listed (by decide +kernel)
  · exact absurd same (by decide +kernel)

end TenonVpn.World
