import TenonVpn.Text
import TenonVpn.Machine

/-! `VpnManager`: `connect`, `disconnect`, the background loop of
`loadAndCreatePrividerManager` and the completions of the preference calls, each of
which may arrive at any later point. A profile stands for one `NETunnelProviderManager`. -/
namespace TenonVpn

inductive VPNStatus
  | off
  | connecting
  | on
  | disconnecting
deriving DecidableEq

inductive ConnectionStatus
  | invalid
  | disconnected
  | connecting
  | connected
  | reasserting
  | disconnecting
deriving DecidableEq

structure Settings where
  ipAddress : Text
  port : Int
  password : Text
  algorithm : Text
  publicKey : Text
  encMethod : Text
  routeNodes : Text
  exRouteNodes : Text
  vpnNodes : Text
  localCountry : Text
  choosedCountry : Text
  useSmartRoute : Bool
  useGlobalMode : Bool
deriving DecidableEq

abbrev Profile := Nat

/-- A preference call whose completion has not run yet, with what its handler does. -/
inductive PreferenceCall
  | loadAndCreatePrividerManager
  | saveToPreferences (manager : Profile)
  | loadFromPreferences (manager : Profile)
  | disconnect
  | addVPNStatusObserver
  | vpnInit
deriving DecidableEq

/-- What a completion reports: the profiles of a load (none with an error), whether a
save or a load of one profile failed, and the status of the first profile. -/
structure Report where
  managers : Option (List Profile)
  failed : Bool
  status : ConnectionStatus

/-- Where the background loop stands: before its test of `stop_queue`, before its test
of `vpnStatus`, or before the save. -/
inductive Position
  | stopQueue
  | vpnStatus
  | save
deriving DecidableEq

inductive VpnEvent
  | connect
  | disconnect
  | vpnInit
  | configure (settings : Settings)
  | setVpnStatusOff
  | statusDidChange (status : ConnectionStatus)
  | complete (index : Nat) (report : Report)
  | queue

inductive Command
  | startVPNTunnel (manager : Profile)
  | stopVPNTunnel (manager : Profile)
  | removeFromPreferences (manager : Profile)
deriving DecidableEq

structure VpnManager where
  settings : Settings
  stopQueue : Bool
  vpnStatus : VPNStatus
  vpnConnected : Bool
  observerAdded : Bool
  pending : List PreferenceCall
  running : Option (Profile × Position)
  waiting : List Profile
  providerConfiguration : Profile → Option Settings
  created : Profile

namespace VpnManager

def addVPNStatusObserver (s : VpnManager) : VpnManager :=
  if s.observerAdded then s else {s with pending := .addVPNStatusObserver :: s.pending}

def updateVPNStatus (status : ConnectionStatus) (s : VpnManager) : VpnManager :=
  match status with
  | .connected => {s with vpnStatus := .on, vpnConnected := true}
  | .connecting | .reasserting => {s with vpnStatus := .connecting, vpnConnected := false}
  | .disconnecting => {s with vpnStatus := .disconnecting, vpnConnected := false}
  | .disconnected | .invalid => {s with vpnStatus := .off, vpnConnected := false}

def setRulerConfig (manager : Profile) (s : VpnManager) : VpnManager :=
  {s with providerConfiguration := fun other =>
    if other = manager then some s.settings else s.providerConfiguration other}

def delDupConfig (managers : List Profile) : List Command :=
  if 1 < managers.length then managers.map .removeFromPreferences else []

/-- The body of `loadAndCreatePrividerManager` once the profiles are loaded: it saves the
first or a new profile and puts a loop on the serial queue. -/
def useManager (manager : Profile) (s : VpnManager) : VpnManager :=
  let configured := setRulerConfig manager s
  {configured with
    pending := .saveToPreferences manager :: configured.pending
    waiting := configured.waiting ++ [manager]}

def handle (call : PreferenceCall) (report : Report) (s : VpnManager) : List Command × VpnManager :=
  match call with
  | .loadAndCreatePrividerManager =>
    match report.managers with
    | none => ([],s)
    | some (manager :: rest) => (delDupConfig (manager :: rest),useManager manager s)
    | some [] => ([],useManager s.created {s with created := s.created + 1})
  | .saveToPreferences manager => ([],{s with pending := .loadFromPreferences manager :: s.pending})
  | .loadFromPreferences manager =>
    if report.failed then ([],s) else ([.startVPNTunnel manager],addVPNStatusObserver s)
  | .disconnect =>
    match report.managers with
    | some (manager :: _) => ([.stopVPNTunnel manager],s)
    | _ => ([],s)
  | .addVPNStatusObserver =>
    match report.managers with
    | some (_ :: _) => ([],{s with observerAdded := true})
    | _ => ([],s)
  | .vpnInit =>
    match report.managers with
    | some (_ :: _) => ([],updateVPNStatus report.status s)
    | _ => ([],s)

def queue (s : VpnManager) : VpnManager :=
  match s.running with
  | none =>
    match s.waiting with
    | [] => s
    | manager :: rest => {s with running := some (manager,.stopQueue), waiting := rest}
  | some (manager,.stopQueue) =>
    if s.stopQueue then {s with running := none} else {s with running := some (manager,.vpnStatus)}
  | some (manager,.vpnStatus) =>
    if s.vpnStatus = .on then {s with running := some (manager,.save)}
    else {s with running := some (manager,.stopQueue)}
  | some (manager,.save) =>
    let configured := setRulerConfig manager s
    {configured with
      pending := .saveToPreferences manager :: configured.pending
      running := some (manager,.stopQueue)}

def step (s : VpnManager) : VpnEvent → List Command × VpnManager
  | .connect => ([],{s with stopQueue := false, pending := .loadAndCreatePrividerManager :: s.pending})
  | .disconnect => ([],{s with stopQueue := true, pending := .disconnect :: s.pending})
  | .vpnInit => ([],addVPNStatusObserver {s with pending := .vpnInit :: s.pending})
  | .configure settings => ([],{s with settings})
  | .setVpnStatusOff => ([],{s with vpnStatus := .off})
  | .statusDidChange status => ([],if s.observerAdded then updateVPNStatus status s else s)
  | .complete index report =>
    match s.pending[index]? with
    | none => ([],s)
    | some call => handle call report {s with pending := s.pending.eraseIdx index}
  | .queue => ([],queue s)

def vpn : Machine VpnManager VpnEvent Command where
  step s event := ((step s event).1,some (step s event).2)

theorem addVPNStatusObserver_vpnStatus (s : VpnManager) : (addVPNStatusObserver s).vpnStatus = s.vpnStatus := by
  unfold addVPNStatusObserver
  split <;> rfl

theorem handle_vpnStatus {call : PreferenceCall} (report : Report) (s : VpnManager)
    (unread : call = .vpnInit → (report.managers.getD []).isEmpty = true) :
    (handle call report s).2.vpnStatus = s.vpnStatus := by
  cases call with
  | loadAndCreatePrividerManager =>
    simp only [handle]
    split <;> rfl
  | saveToPreferences manager => rfl
  | loadFromPreferences manager =>
    simp only [handle]
    split
    · rfl
    · exact addVPNStatusObserver_vpnStatus s
  | disconnect =>
    simp only [handle]
    split <;> rfl
  | addVPNStatusObserver =>
    simp only [handle]
    split <;> rfl
  | vpnInit =>
    simp only [handle]
    split
    · next managers => simp [managers] at unread
    · rfl

theorem queue_vpnStatus (s : VpnManager) : (queue s).vpnStatus = s.vpnStatus := by
  unfold queue
  split
  · split <;> rfl
  · split <;> rfl
  · split <;> rfl
  · rfl

/-- After `disconnect`, a run without `connect` starts no tunnel. -/
def DisconnectWins (s : VpnManager) : Prop :=
  ∀ run : List VpnEvent, (∀ event ∈ run, event ≠ .connect) →
    ∀ manager, .startVPNTunnel manager ∉ vpn.outputs s (.disconnect :: run)

def Idle : PreferenceCall → Prop
  | .loadAndCreatePrividerManager | .saveToPreferences _ | .loadFromPreferences _ => False
  | .disconnect | .addVPNStatusObserver | .vpnInit => True

/-- No chain of `connect` or of the loop is under way. -/
structure Quiet (s : VpnManager) : Prop where
  pending : ∀ call ∈ s.pending, Idle call
  running : ∀ manager position, s.running = some (manager,position) → position = .stopQueue

theorem outputs_cons (s : VpnManager) (event : VpnEvent) (run : List VpnEvent) :
    vpn.outputs s (event :: run) = (step s event).1 ++ vpn.outputs (step s event).2 run := rfl

structure Stopped (s : VpnManager) : Prop extends Quiet s where
  stopQueue : s.stopQueue = true

theorem idle_handle {call : PreferenceCall} {s : VpnManager} (report : Report) (idle : Idle call)
    (stopped : Stopped s) : Stopped (handle call report s).2 ∧
      ∀ manager, .startVPNTunnel manager ∉ (handle call report s).1 := by
  cases call with
  | loadAndCreatePrividerManager => exact idle.elim
  | saveToPreferences manager => exact idle.elim
  | loadFromPreferences manager => exact idle.elim
  | disconnect =>
    simp only [handle]
    split <;> exact ⟨stopped,by simp⟩
  | addVPNStatusObserver =>
    simp only [handle]
    split
    · exact ⟨⟨⟨stopped.pending,stopped.running⟩,stopped.stopQueue⟩,by simp⟩
    · exact ⟨stopped,by simp⟩
  | vpnInit =>
    simp only [handle]
    split
    · refine ⟨?_,by simp⟩
      cases report.status <;> exact ⟨⟨stopped.pending,stopped.running⟩,stopped.stopQueue⟩
    · exact ⟨stopped,by simp⟩

theorem stopped_queue {s : VpnManager} (stopped : Stopped s) : Stopped (queue s) := by
  unfold queue
  split
  · split
    · exact stopped
    · refine ⟨⟨stopped.pending,fun manager position found => ?_⟩,stopped.stopQueue⟩
      cases found
      rfl
  · rw [if_pos stopped.stopQueue]
    exact ⟨⟨stopped.pending,fun manager position found => by simp at found⟩,stopped.stopQueue⟩
  · next manager found => exact absurd (stopped.running manager _ found) (by decide)
  · next manager found => exact absurd (stopped.running manager _ found) (by decide)

theorem stopped_step {s : VpnManager} {event : VpnEvent} (stopped : Stopped s) (other : event ≠ .connect) :
    Stopped (step s event).2 ∧ ∀ manager, .startVPNTunnel manager ∉ (step s event).1 := by
  cases event with
  | connect => exact absurd rfl other
  | disconnect =>
    refine ⟨⟨⟨fun call member => ?_,stopped.running⟩,rfl⟩,by simp [step]⟩
    rcases List.mem_cons.mp member with rfl | member
    · trivial
    · exact stopped.pending call member
  | vpnInit =>
    refine ⟨?_,by simp [step]⟩
    have initial : ∀ call ∈ PreferenceCall.vpnInit :: s.pending, Idle call := by
      intro call member
      rcases List.mem_cons.mp member with rfl | member
      · trivial
      · exact stopped.pending call member
    simp only [step,addVPNStatusObserver]
    split
    · exact ⟨⟨initial,stopped.running⟩,stopped.stopQueue⟩
    · refine ⟨⟨fun call member => ?_,stopped.running⟩,stopped.stopQueue⟩
      rcases List.mem_cons.mp member with rfl | member
      · trivial
      · exact initial call member
  | configure settings => exact ⟨⟨⟨stopped.pending,stopped.running⟩,stopped.stopQueue⟩,by simp [step]⟩
  | setVpnStatusOff => exact ⟨⟨⟨stopped.pending,stopped.running⟩,stopped.stopQueue⟩,by simp [step]⟩
  | statusDidChange status =>
    refine ⟨?_,by simp [step]⟩
    simp only [step]
    split
    · cases status <;> exact ⟨⟨stopped.pending,stopped.running⟩,stopped.stopQueue⟩
    · exact stopped
  | complete index report =>
    simp only [step]
    cases found : s.pending[index]? with
    | none => exact ⟨stopped,by simp⟩
    | some call =>
      refine idle_handle report (stopped.pending call (List.mem_of_getElem? found)) ?_
      exact ⟨⟨fun other member => stopped.pending other (List.mem_of_mem_eraseIdx member),stopped.running⟩,
        stopped.stopQueue⟩
  | queue => exact ⟨stopped_queue stopped,by simp [step]⟩

theorem stopped_outputs {s : VpnManager} {run : List VpnEvent} (stopped : Stopped s)
    (others : ∀ event ∈ run, event ≠ .connect) :
    ∀ manager, .startVPNTunnel manager ∉ vpn.outputs s run := by
  intro manager
  induction run generalizing s with
  | nil => simp [Machine.outputs]
  | cons event rest ih =>
    obtain ⟨stays,silent⟩ := stopped_step stopped (others event List.mem_cons_self)
    rw [outputs_cons,List.mem_append,not_or]
    exact ⟨silent manager,ih stays fun later member => others later (List.mem_cons_of_mem _ member)⟩

def Starts (s : VpnManager) : Prop :=
  ∃ run : List VpnEvent, (∀ event ∈ run, event ≠ .connect) ∧ ∃ manager, .startVPNTunnel manager ∈ vpn.outputs s run

theorem disconnectWins_iff (s : VpnManager) : DisconnectWins s ↔ ¬Starts (step s .disconnect).2 := by
  have first (run : List VpnEvent) : vpn.outputs s (.disconnect :: run) =
      vpn.outputs (step s .disconnect).2 run := rfl
  simp only [DisconnectWins,Starts,first,not_exists,not_and]

theorem starts_step {s : VpnManager} (event : VpnEvent) (other : event ≠ .connect)
    (starts : Starts (step s event).2) : Starts s := by
  obtain ⟨run,others,manager,started⟩ := starts
  refine ⟨event :: run,fun later member => ?_,manager,?_⟩
  · rcases List.mem_cons.mp member with rfl | member
    · exact other
    · exact others later member
  · rw [outputs_cons]
    exact List.mem_append_right _ started

def success : Report := ⟨some [0],false,.connected⟩

theorem starts_of_loadFromPreferences {s : VpnManager} {index : Nat} {manager : Profile}
    (found : s.pending[index]? = some (.loadFromPreferences manager)) : Starts s := by
  refine ⟨[.complete index success],by simp,manager,?_⟩
  rw [outputs_cons]
  simp [step,found,handle,success]

theorem starts_of_saveToPreferences {s : VpnManager} {index : Nat} {manager : Profile}
    (found : s.pending[index]? = some (.saveToPreferences manager)) : Starts s := by
  have next : (step s (.complete index success)).2.pending[0]? = some (.loadFromPreferences manager) := by
    simp [step,found,handle]
  exact starts_step (.complete index success) (by simp) (starts_of_loadFromPreferences next)

theorem starts_of_loadAndCreatePrividerManager {s : VpnManager} {index : Nat}
    (found : s.pending[index]? = some .loadAndCreatePrividerManager) : Starts s := by
  have next : (step s (.complete index success)).2.pending[0]? = some (.saveToPreferences 0) := by
    simp [step,found,handle,success,useManager]
  exact starts_step (.complete index success) (by simp) (starts_of_saveToPreferences next)

theorem starts_of_save {s : VpnManager} {manager : Profile} (found : s.running = some (manager,.save)) :
    Starts s := by
  have next : (step s .queue).2.pending[0]? = some (.saveToPreferences manager) := by
    simp [step,queue,found]
  exact starts_step .queue (by simp) (starts_of_saveToPreferences next)

theorem starts_of_vpnStatus {s : VpnManager} {manager : Profile}
    (found : s.running = some (manager,.vpnStatus)) : Starts s := by
  have seen {t : VpnManager} (running : t.running = some (manager,.vpnStatus)) (on : t.vpnStatus = .on) :
      Starts t := by
    have next : (step t .queue).2.running = some (manager,.save) := by simp [step,queue,running,on]
    exact starts_step .queue (by simp) (starts_of_save next)
  -- the status of a running tunnel is read by `vpn_init`, behind a new observer if there is none
  refine starts_step .vpnInit (by simp) ?_
  cases observed : s.observerAdded with
  | true =>
    refine starts_step (.complete 0 success) (by simp) (seen ?_ ?_) <;>
      simp [step,addVPNStatusObserver,observed,handle,success,updateVPNStatus,found]
  | false =>
    refine starts_step (.complete 1 success) (by simp) (seen ?_ ?_) <;>
      simp [step,addVPNStatusObserver,observed,handle,success,updateVPNStatus,found]

theorem starts_of_pending {s : VpnManager} {call : PreferenceCall} (member : call ∈ s.pending)
    (busy : ¬Idle call) : Starts s := by
  obtain ⟨index,found⟩ := List.mem_iff_getElem?.mp member
  cases call with
  | loadAndCreatePrividerManager => exact starts_of_loadAndCreatePrividerManager found
  | saveToPreferences manager => exact starts_of_saveToPreferences found
  | loadFromPreferences manager => exact starts_of_loadFromPreferences found
  | disconnect => exact absurd trivial busy
  | addVPNStatusObserver => exact absurd trivial busy
  | vpnInit => exact absurd trivial busy

/-- `disconnect` wins exactly where no chain of `connect` or of the loop is under way. -/
theorem disconnectWins_iff_quiet (s : VpnManager) : DisconnectWins s ↔ Quiet s := by
  rw [disconnectWins_iff]
  constructor
  · intro silent
    refine ⟨fun call member => ?_,fun manager position found => ?_⟩
    · by_contra busy
      exact silent (starts_of_pending (List.mem_cons_of_mem _ member) busy)
    · cases position with
      | stopQueue => rfl
      | vpnStatus =>
        have after : (step s .disconnect).2.running = some (manager,.vpnStatus) := found
        exact absurd (starts_of_vpnStatus after) silent
      | save =>
        have after : (step s .disconnect).2.running = some (manager,.save) := found
        exact absurd (starts_of_save after) silent
  · rintro quiet ⟨run,others,manager,started⟩
    have stopped : Stopped (step s .disconnect).2 := by
      refine ⟨⟨fun call member => ?_,quiet.running⟩,rfl⟩
      rcases List.mem_cons.mp member with rfl | member
      · trivial
      · exact quiet.pending call member
    exact stopped_outputs stopped others manager started

def launched : VpnManager where
  settings := ⟨[],0,[],[],"public_key".toList,"enc_method".toList,[],[],[],[],[],true,false⟩
  stopQueue := false
  vpnStatus := .off
  vpnConnected := false
  observerAdded := false
  pending := []
  running := none
  waiting := []
  providerConfiguration := fun _ => none
  created := 0

/-- `disconnect` comes right after `connect`, before the profiles are loaded. -/
theorem disconnect_loses : ¬DisconnectWins (step launched .connect).2 := by
  intro wins
  refine wins [.complete 1 success,.complete 0 success,.complete 0 success] (by simp) 0 ?_
  exact List.mem_singleton.mpr rfl

/-- The profile that a state configures with the settings, saves next, and starts once it is
saved and loaded again. -/
structure InUse (settings : Settings) (s : VpnManager) (manager : Profile) : Prop where
  configured : s.providerConfiguration manager = some settings
  saved : s.pending.head? = some (.saveToPreferences manager)
  started : vpn.outputs s [.complete 0 success,.complete 0 success] = [.startVPNTunnel manager]

/-- When the stored profiles are loaded, the removal of all but the one in use is requested. -/
def KeepsInUse (s : VpnManager) (managers : List Profile) (failed : Bool) (status : ConnectionStatus) : Prop :=
  let loaded := handle .loadAndCreatePrividerManager ⟨some managers,failed,status⟩ s
  ∃ kept, InUse s.settings loaded.2 kept ∧
    ∀ manager, .removeFromPreferences manager ∈ loaded.1 ↔ manager ∈ managers ∧ manager ≠ kept

theorem inUse_useManager (manager : Profile) (s : VpnManager) : InUse s.settings (useManager manager s) manager where
  configured := by simp [useManager,setRulerConfig]
  saved := rfl
  started := rfl

theorem InUse.unique {settings : Settings} {s : VpnManager} {first second : Profile} (left : InUse settings s first)
    (right : InUse settings s second) : first = second := by
  have same := left.saved.symm.trans right.saved
  cases same
  rfl

theorem mem_delDupConfig {managers : List Profile} {manager : Profile} :
    .removeFromPreferences manager ∈ delDupConfig managers ↔ 1 < managers.length ∧ manager ∈ managers := by
  unfold delDupConfig
  split
  · next several => simp [several]
  · next few => simp [few]

/-- The loop of `delDupConfig` starts at the first profile, which is the one in use: the code
keeps it exactly if there are no duplicates. -/
theorem keepsInUse_iff (s : VpnManager) (managers : List Profile) (failed : Bool) (status : ConnectionStatus) :
    KeepsInUse s managers failed status ↔ managers.length ≤ 1 := by
  cases managers with
  | nil =>
    have used := inUse_useManager s.created {s with created := s.created + 1}
    refine iff_of_true ⟨s.created,used,fun manager => ?_⟩ (Nat.zero_le 1)
    exact iff_of_false List.not_mem_nil (fun listed => List.not_mem_nil listed.1)
  | cons first rest =>
    have used := inUse_useManager first s
    constructor
    · rintro ⟨kept,inUse,removed⟩
      obtain rfl := used.unique inUse
      by_contra several
      have requested : .removeFromPreferences first ∈ delDupConfig (first :: rest) :=
        mem_delDupConfig.mpr ⟨Nat.not_le.mp several,List.mem_cons_self⟩
      exact ((removed first).mp requested).2 rfl
    · intro few
      refine ⟨first,used,fun manager => ?_⟩
      have single : rest = [] := List.length_eq_zero_iff.mp (Nat.le_zero.mp (Nat.le_of_succ_le_succ few))
      cases single
      refine iff_of_false (fun requested => ?_) (fun listed => listed.2 (List.mem_singleton.mp listed.1))
      have asked : .removeFromPreferences manager ∈ delDupConfig [first] := requested
      exact Nat.lt_irrefl 1 (mem_delDupConfig.mp asked).1

/-- Of two stored profiles both are removed, and the first of them is started. -/
theorem removes_inUse : vpn.outputs launched
      [.connect,.complete 0 ⟨some [1,2],false,.disconnected⟩,.complete 0 success,.complete 0 success] =
        [.removeFromPreferences 1,.removeFromPreferences 2,.startVPNTunnel 1] ∧
    ¬KeepsInUse launched [1,2] false .disconnected := by
  refine ⟨rfl,?_⟩
  rintro ⟨kept,inUse,removed⟩
  obtain rfl := (inUse_useManager 1 launched).unique inUse
  have requested : .removeFromPreferences 1 ∈ delDupConfig [1,2] := by decide
  exact ((removed 1).mp requested).2 rfl

end VpnManager
end TenonVpn
