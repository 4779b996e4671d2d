import TenonVpn.NodeStore

/-! What the node operations leave, and that each gives back the lock that it takes, except
for a `getVpnNodes` that finds `vpn_nodes` unset. -/
namespace TenonVpn

namespace NodeOperation
open Program ShadowsocksAdapter Machine

/-- The country for which the operation chooses a VPN node. -/
def chooses (store : NodeStore) : NodeOperation → Option Text
  | getOneVpnNode country => some country
  | chooseVpnNode => some store.choosedCountry
  | _ => none

/-- The operation gives back the lock that it takes. -/
def Releases (s : Locked NodeLock NodeStore) (operation : NodeOperation) : Prop :=
  operation = getVpnNodes → s.store.vpnNodes ≠ none

/-- What an operation leaves where it returns. -/
structure Leaves (s : Locked NodeLock NodeStore) (operation : NodeOperation)
    (t : Locked NodeLock NodeStore) : Prop where
  released : Releases s operation → t.held = s.held
  taken : ¬Releases s operation → t.held = .vpnNodes :: s.held
  vpnNodes : t.store.vpnNodes = s.store.vpnNodes
  chosen : match operation.chooses s.store with
    | some country => t.store = s.store.choose country
    | none => t.store.chosen = s.store.chosen

theorem releases_of_ne {s : Locked NodeLock NodeStore} {operation : NodeOperation} (other : operation ≠ getVpnNodes) :
    Releases s operation := fun same => absurd same other

variable {E : Stop NodeLock → Prop} {s : Locked NodeLock NodeStore}

theorem leaves_of_ne {operation : NodeOperation} {store : NodeStore} (other : operation ≠ getVpnNodes)
    (unset : store.vpnNodes = s.store.vpnNodes) (chosen : match operation.chooses s.store with
      | some country => store = s.store.choose country
      | none => store.chosen = s.store.chosen) : Leaves s operation ⟨s.held,store⟩ :=
  ⟨fun _ => rfl,fun taken => absurd (releases_of_ne other) taken,unset,chosen⟩

theorem leaves_redrawn {t : Locked NodeLock NodeStore} {operation : NodeOperation} (other : operation ≠ getVpnNodes)
    (none : operation.chooses s.store = none) (redrawn : Redrawn s t) : Leaves s operation t := by
  obtain ⟨held,random,store⟩ := redrawn
  refine ⟨fun _ => held,fun taken => absurd (releases_of_ne other) taken,by rw [store],?_⟩
  rw [none,store]
  rfl

theorem vpnNodes_choose (store : NodeStore) (country : Text) : (store.choose country).vpnNodes = store.vpnNodes := by
  unfold NodeStore.choose
  split
  · rfl
  · next nodes listed =>
    cases entryAt nodes (store.random 0) <;> rfl

theorem getVpnNodes_ensures (busy : .vpnNodes ∈ s.held → E (.blocked .vpnNodes)) :
    Ensures E getVpnNodes.perform (fun _ t => Leaves s getVpnNodes t) s := by
  refine ensures_map.mpr (ensures_bind.mpr (ensures_lock busy fun _ => ?_))
  rw [ensures_bind,ensures_load]
  cases unset : s.store.vpnNodes with
  | none => exact ensures_pure.mpr ⟨fun released => absurd unset (released rfl),fun _ => rfl,rfl,rfl⟩
  | some nodes =>
    simp only
    rw [ensures_bind,ensures_unlock,ensures_pure,List.erase_cons_head]
    exact ⟨fun _ => rfl,fun taken => absurd (fun _ => by simp [unset]) taken,rfl,rfl⟩

theorem perform_ensures (busy : ∀ key ∈ s.held, E (.blocked key)) (trap : E .trapped) (operation : NodeOperation) :
    Ensures E operation.perform (fun _ t => Leaves s operation t) s := by
  cases operation with
  | setLocalCountry country =>
    exact ensures_map.mpr (ensures_update (busy _) (leaves_of_ne (by simp) rfl rfl))
  | setChoosedCountry country =>
    exact ensures_map.mpr (ensures_update (busy _) (leaves_of_ne (by simp) rfl rfl))
  | setRouteNodes nodes =>
    apply ensures_map.mpr
    rw [ShadowsocksAdapter.setRouteNodes]
    split
    · exact ensures_pure.mpr (leaves_of_ne (by simp) rfl rfl)
    · exact ensures_update (busy _) (leaves_of_ne (by simp) rfl rfl)
  | setVpnNodes nodes =>
    exact ensures_map.mpr (ensures_update (busy _) (leaves_of_ne (by simp) rfl rfl))
  | getVpnNodes => exact getVpnNodes_ensures (busy _)
  | getRouteNode =>
    refine ensures_map.mpr (getRouteNode_ensures ([],0) ?_)
    apply (firstUsable_ensures (busy _) trap _ _).imp
    exact fun _ t kept => leaves_redrawn (by simp) rfl kept.1
  | getOneRouteNode country =>
    apply ensures_map.mpr
    apply (getOneRouteNode_ensures (busy _) (fun _ => trap)).imp
    exact fun _ t kept => leaves_redrawn (by simp) rfl kept.2.2
  | getOneVpnNode country =>
    apply ensures_map.mpr
    apply (getOneVpnNode_ensures (busy _) (fun _ => trap)).imp
    rintro _ t rfl
    exact leaves_of_ne (by simp) (vpnNodes_choose _ _) rfl
  | chooseVpnNode =>
    refine ensures_map.mpr (ensures_bind.mpr (ensures_load.mpr ?_))
    apply (getOneVpnNode_ensures (busy _) (fun _ => trap)).imp
    rintro _ t rfl
    exact leaves_of_ne (by simp) (vpnNodes_choose _ _) rfl

theorem step_leaves (busy : ∀ key ∈ s.held, E (.blocked key)) (trap : E .trapped) (operation : NodeOperation) :
    (∀ next, (nodeStore.step s operation).2 = some next → Leaves s operation next) ∧
      ∀ stop, .error stop ∈ (nodeStore.step s operation).1 → E stop := by
  obtain ⟨returned,stopped⟩ := ensures_iff.mp (perform_ensures busy trap operation)
  simp only [nodeStore]
  cases performed : operation.perform s with
  | error stop =>
    refine ⟨fun _ impossible => absurd impossible (by simp),fun other member => ?_⟩
    cases List.mem_singleton.mp member
    exact stopped stop performed
  | ok result =>
    obtain ⟨answer,t⟩ := result
    refine ⟨fun next same => ?_,fun _ member => absurd (List.mem_singleton.mp member) (by simp)⟩
    cases same
    exact returned answer t performed

theorem stays_free {s next : Locked NodeLock NodeStore} {operation : NodeOperation} (free : s.held = [])
    (stepped : (nodeStore.step s operation).2 = some next) : Releases s operation ↔ next.held = [] := by
  have busy : ∀ key ∈ s.held, False := by simp [free]
  obtain ⟨leaves,-⟩ := step_leaves (E := (· = .trapped)) (fun key held => (busy key held).elim) rfl operation
  obtain ⟨released,taken,-,-⟩ := leaves next stepped
  refine ⟨fun releases => (released releases).trans free,fun after => ?_⟩
  by_contra keeps
  rw [taken keeps] at after
  cases after

/-- No lock is held between the operations, and none blocks, exactly as long as no `getVpnNodes`
finds `vpn_nodes` unset. -/
theorem locks_released_iff (store : NodeStore) (operations : List NodeOperation) :
    nodeStore.Along Releases ⟨[],store⟩ operations ↔
      nodeStore.Visits (fun s => s.held = []) ⟨[],store⟩ operations ∧
        ∀ key, .error (.blocked key) ∉ nodeStore.outputs ⟨[],store⟩ operations := by
  have visits : nodeStore.Along Releases ⟨[],store⟩ operations ↔
      nodeStore.Visits (fun s => s.held = []) ⟨[],store⟩ operations := by
    refine (keeps_true nodeStore).along_iff_visits (fun s operation next _ free => stays_free free) ?_ trivial rfl
      operations
    rintro s operation - free ended rfl unset
    have busy : .vpnNodes ∈ s.held → False := by simp [free]
    obtain ⟨answer,next,performed,-⟩ := ensures_returned.mp (getVpnNodes_ensures (E := fun _ => False) busy)
    simp only [nodeStore,performed] at ended
    cases ended
  rw [visits]
  refine ⟨fun kept => ⟨kept,fun key blocked => ?_⟩,And.left⟩
  have keeps : nodeStore.Keeps (fun s => s.held = []) Releases :=
    fun s operation next free releases stepped => (stays_free free stepped).mp releases
  refine Along.outputs keeps (fun o => o ≠ .error (.blocked key)) ?_ rfl (visits.mpr kept) _ blocked rfl
  rintro s operation free - o member rfl
  have busy : ∀ held ∈ s.held, False := by simp [free]
  have stopped := (step_leaves (E := (· = .trapped)) (fun key held => (busy key held).elim) rfl operation).2
  cases stopped _ member

/-- Nothing sets `vpn_nodes`, so every `getVpnNodes` of the app keeps its lock. -/
theorem releases_iff_unset {s : Locked NodeLock NodeStore} (unset : s.store.vpnNodes = none)
    (operations : List NodeOperation) :
    nodeStore.Along Releases s operations ↔ nodeStore.Along (fun _ operation => operation ≠ getVpnNodes) s operations := by
  refine along_iff (I := fun s => s.store.vpnNodes = none) ?_ ?_ unset
  · intro s operation next unset _ stepped
    obtain ⟨leaves,-⟩ := step_leaves (E := fun _ => True) (fun _ _ => trivial) trivial operation
    exact (leaves next stepped).vpnNodes.trans unset
  · exact fun s operation unset => ⟨fun releases same => releases same unset,fun other => releases_of_ne other⟩

theorem left_locked :
    ¬nodeStore.Visits (fun s => s.held = []) ⟨[],.initial fun _ => 0⟩ [getVpnNodes] ∧
      .error (.blocked .vpnNodes) ∈ nodeStore.outputs ⟨[],.initial fun _ => 0⟩ [getVpnNodes,chooseVpnNode] := by
  decide

end NodeOperation
end TenonVpn
