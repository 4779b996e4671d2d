import TenonVpn.Renaming
import TenonVpn.Text

/-! The country of the app: `InitP2p` and `viewDidLoad` take the country that the client
reports and put it through the client's table of default routes. -/
namespace TenonVpn

structure P2pNetwork where
  localCountry : Text
  prikey : Text
  accountId : Text
  defRoute : Text

/-- What the two write: the statics of the controller, and the country of the `VpnManager`. -/
structure LocalAccount where
  localCountry : Text
  localPrivateKey : Text
  localAccountId : Text
  managerCountry : Text
deriving DecidableEq

namespace ViewController

/-- The loop over the table, which compares with the country that it assigns. -/
def mapDefRoute (defRoute localCountry : Text) : Text :=
  (Text.split ';' defRoute).foldl (fun localCountry item =>
    match Text.split ':' item with
    | [key,route] => if key = localCountry then route else localCountry
    | _ => localCountry) localCountry

def initP2p (res : P2pNetwork) (s : LocalAccount) : Int × LocalAccount :=
  if res.localCountry.isEmpty then (-1,s)
  else
    let localCountry := mapDefRoute res.defRoute res.localCountry
    (0,{s with localCountry,localPrivateKey := res.prikey,localAccountId := res.accountId,managerCountry := localCountry})

def viewDidLoad (res : P2pNetwork) (s : LocalAccount) : LocalAccount :=
  if res.localCountry.isEmpty then s
  else
    let localCountry := mapDefRoute res.defRoute res.localCountry
    {s with localCountry,localPrivateKey := res.prikey,localAccountId := res.accountId,managerCountry := localCountry}

def routeItem (item : Text) : Option (Text × Text) :=
  match Text.split ':' item with
  | [key,route] => some (key,route)
  | _ => none

def routeEntries (defRoute : Text) : List (Text × Text) := (Text.split ';' defRoute).filterMap routeItem

theorem mapDefRoute_eq (defRoute localCountry : Text) :
    mapDefRoute defRoute localCountry = Renaming.chase (routeEntries defRoute) localCountry := by
  rw [mapDefRoute,routeEntries]
  induction Text.split ';' defRoute generalizing localCountry with
  | nil => rfl
  | cons item items ih =>
    rw [List.foldl_cons,ih,List.filterMap_cons,routeItem]
    rcases Text.split ':' item with _ | ⟨key,_ | ⟨route,_ | ⟨third,rest⟩⟩⟩ <;> rfl

/-- A text that can stand for a country or a route in a table. -/
def Plain (text : Text) : Prop := text ≠ [] ∧ ':' ∉ text ∧ ';' ∉ text

theorem plain_of_mem {defRoute key route : Text} (member : (key,route) ∈ routeEntries defRoute) :
    Plain key ∧ Plain route := by
  obtain ⟨item,listed,read⟩ := List.mem_filterMap.mp member
  have noSemicolon := (Text.mem_split listed).2.1
  rw [routeItem] at read
  split at read
  · next first second cut =>
    cases read
    have left := Text.mem_split (cut ▸ List.mem_cons_self : key ∈ Text.split ':' item)
    have right := Text.mem_split (cut ▸ List.mem_cons_of_mem _ List.mem_cons_self : route ∈ Text.split ':' item)
    exact ⟨⟨left.1,left.2.1,fun inside => noSemicolon (left.2.2 _ inside)⟩,
      right.1,right.2.1,fun inside => noSemicolon (right.2.2 _ inside)⟩
  · cases read

def tableOf (entries : List (Text × Text)) : Text :=
  (entries.map fun entry => entry.1 ++ ':' :: entry.2).flatMap (· ++ [';'])

theorem routeEntries_tableOf {entries : List (Text × Text)}
    (plain : ∀ entry ∈ entries, Plain entry.1 ∧ Plain entry.2) : routeEntries (tableOf entries) = entries := by
  have cut : Text.split ';' (tableOf entries) = entries.map fun entry => entry.1 ++ ':' :: entry.2 := by
    refine Text.split_flatMap fun field member => ?_
    obtain ⟨entry,listed,rfl⟩ := List.mem_map.mp member
    obtain ⟨⟨-,-,key⟩,-,-,route⟩ := plain entry listed
    exact ⟨by simp,by simp [key,route]⟩
  rw [routeEntries,cut,List.filterMap_map]
  refine (List.filterMap_congr fun entry listed => ?_).trans List.filterMap_some
  obtain ⟨⟨filled,colon,-⟩,filled',colon',-⟩ := plain entry listed
  rw [Function.comp_apply,routeItem,Text.split_pair ⟨filled,colon⟩ ⟨filled',colon'⟩]

/-- The controller ends with the table's image of the reported country, for this order of
the table's entries and for every other. -/
structure AppliedOnce (load : P2pNetwork → LocalAccount → LocalAccount) (res : P2pNetwork) (s : LocalAccount) :
    Prop where
  image : (load res s).localCountry = Renaming.image (routeEntries res.defRoute) res.localCountry
  ordered : ∀ defRoute, (routeEntries defRoute).Perm (routeEntries res.defRoute) →
    (load {res with defRoute} s).localCountry = (load res s).localCountry

theorem localCountry_initP2p (res : P2pNetwork) (s : LocalAccount) (reported : res.localCountry ≠ []) :
    (initP2p res s).2.localCountry = Renaming.chase (routeEntries res.defRoute) res.localCountry := by
  rw [initP2p,if_neg (by simpa using reported)]
  exact mapDefRoute_eq _ _

theorem localCountry_viewDidLoad (res : P2pNetwork) (s : LocalAccount) (reported : res.localCountry ≠ []) :
    (viewDidLoad res s).localCountry = Renaming.chase (routeEntries res.defRoute) res.localCountry := by
  rw [viewDidLoad,if_neg (by simpa using reported)]
  exact mapDefRoute_eq _ _

variable {res : P2pNetwork}

theorem appliedOnce_of_chase {load : P2pNetwork → LocalAccount → LocalAccount}
    (final : ∀ res s, res.localCountry ≠ [] →
      (load res s).localCountry = Renaming.chase (routeEntries res.defRoute) res.localCountry)
    (distinct : ((routeEntries res.defRoute).map Prod.fst).Nodup) (reported : res.localCountry ≠ []) (s : LocalAccount) :
    AppliedOnce load res s ↔ ¬Renaming.Chained (routeEntries res.defRoute) res.localCountry := by
  rw [← Renaming.chase_perm_iff distinct]
  constructor
  · intro once other perm
    have plain : ∀ entry ∈ other, Plain entry.1 ∧ Plain entry.2 :=
      fun entry member => plain_of_mem (perm.mem_iff.mp member)
    have same := once.ordered (tableOf other) (by rwa [routeEntries_tableOf plain])
    have passed := final {res with defRoute := tableOf other} s reported
    rw [routeEntries_tableOf plain] at passed
    exact passed.symm.trans (same.trans once.image)
  · intro every
    have image := (final res s reported).trans (every _ (.refl _))
    refine ⟨image,fun defRoute perm => ?_⟩
    exact ((final {res with defRoute} s reported).trans (every _ perm)).trans image.symm

/-- A table with distinct countries is applied once, by either function, exactly if the
image of the reported country has no other image in the table. -/
theorem appliedOnce_iff (distinct : ((routeEntries res.defRoute).map Prod.fst).Nodup)
    (reported : res.localCountry ≠ []) (s : LocalAccount) :
    (AppliedOnce (fun res s => (initP2p res s).2) res s ↔
      ¬Renaming.Chained (routeEntries res.defRoute) res.localCountry) ∧
    (AppliedOnce viewDidLoad res s ↔ ¬Renaming.Chained (routeEntries res.defRoute) res.localCountry) :=
  ⟨appliedOnce_of_chase localCountry_initP2p distinct reported s,
    appliedOnce_of_chase localCountry_viewDidLoad distinct reported s⟩

/-- In the order in which the table has them: either function ends with the image exactly if
no entry after the country's own passes the image on, unless the entries lead back to it. -/
theorem localCountry_eq_image_iff (distinct : ((routeEntries res.defRoute).map Prod.fst).Nodup)
    (reported : res.localCountry ≠ []) (s : LocalAccount) :
    ((initP2p res s).2.localCountry = Renaming.image (routeEntries res.defRoute) res.localCountry ↔
      Renaming.Settled (routeEntries res.defRoute) res.localCountry) ∧
    ((viewDidLoad res s).localCountry = Renaming.image (routeEntries res.defRoute) res.localCountry ↔
      Renaming.Settled (routeEntries res.defRoute) res.localCountry) := by
  rw [localCountry_initP2p res s reported,localCountry_viewDidLoad res s reported]
  exact ⟨Renaming.chase_eq_image_iff distinct,Renaming.chase_eq_image_iff distinct⟩

def reportedNetwork (country defRoute : String) : P2pNetwork := ⟨country.toList,[],[],defRoute.toList⟩

def noAccount : LocalAccount := ⟨[],[],[],[]⟩

theorem appliedOnce_unchained : AppliedOnce viewDidLoad (reportedNetwork "CN" "CN:SG;DE:US") noAccount :=
  (appliedOnce_iff (by decide) (by decide) noAccount).2.mpr (by decide)

/-- The chain from `CN` through `SG` is followed to its end. -/
theorem not_appliedOnce_chained :
    (initP2p (reportedNetwork "CN" "CN:SG;SG:US") noAccount).2.localCountry = "US".toList ∧
    (viewDidLoad (reportedNetwork "CN" "CN:SG;SG:US") noAccount).localCountry = "US".toList ∧
    ¬AppliedOnce (fun res s => (initP2p res s).2) (reportedNetwork "CN" "CN:SG;SG:US") noAccount ∧
    ¬AppliedOnce viewDidLoad (reportedNetwork "CN" "CN:SG;SG:US") noAccount := by
  refine ⟨by decide,by decide,fun once => ?_,fun once => ?_⟩
  · exact absurd once.image (by decide)
  · exact absurd once.image (by decide)

end ViewController
end TenonVpn
