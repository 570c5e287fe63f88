import ScanCheck.Harness.Suite
import ScanCheck.Mock.Route
import ScanCheck.Proofs.Http.Target

namespace ScanCheck.Mock

namespace Route

/-- The path of a route, name by name. -/
def names : Route → List String
  | .scan segment => ["", "rest", "clamav", "scan", .ofList segment, ""]
  | .analysis segment => ["", "rest", "klocwork", "submit", .ofList segment, ""]
  | .submissions => ["", "rest", "submissions"]
  | .probe .ok => ["", "probe", "ok"]
  | .probe .missing => ["", "probe", "missing"]
  | .probe .notJson => ["", "probe", "not-json"]
  | .probe .echo => ["", "probe", "echo"]

theorem ofPath_eq_some_iff {path : List (List Char)} {route : Route} :
    ofPath path = some route ↔ path = route.names.map String.toList := by
  have named : path = route.names.map String.toList ↔ path.map String.ofList = route.names := by
    constructor
    · intro same
      simp [same, Function.comp_def]
    · intro same
      simp [← same, Function.comp_def]
  rw [named, ofPath]
  constructor
  · intro found
    split at found
    all_goals cases found
    all_goals rename_i same
    all_goals simp [same, names]
  · intro same
    cases route with
    | scan | analysis | submissions => simp [same, names]
    | probe asked => cases asked <;> simp [same, names]

end Route

/-- A service with the names in front of the username on its route, the route, and the endpoint to get there. -/
inductive Entrance : String → List String → (List Char → Route) → (HarnessConfig → String) → Prop
  | scan : Entrance "clamav" ["rest", "clamav", "scan"] .scan Harness.scanEndpoint
  | analysis : Entrance "klocwork" ["rest", "klocwork", "submit"] .analysis Harness.analysisEndpoint

namespace Entrance

variable {service : String} {fixed : List String} {route : List Char → Route} {endpoint : HarnessConfig → String}
  {config : HarnessConfig}

/-- The segments of the endpoint, if the username is one of them. -/
def segments (fixed : List String) (username : String) : List (List Char) :=
  (fixed ++ [username, ""]).map String.toList

theorem toList_joined {front : String} (cut : front.toList = Target.join (fixed.map String.toList) ++ ['/'])
    (username : String) : (front ++ username ++ "/").toList = Target.join (segments fixed username) := by
  have back : "/".toList = ['/'] := by decide +kernel
  have last : "".toList = [] := rfl
  rw [String.toList_append, String.toList_append, cut, back, segments, List.map_append]
  simp only [Target.join, List.map_cons, List.map_nil, List.flatMap_append, List.flatMap_cons, List.flatMap_nil, last,
    List.append_assoc, List.singleton_append, List.append_nil]

variable (entrance : Entrance service fixed route endpoint)

include entrance

theorem toList_endpoint : (endpoint config).toList = Target.join (segments fixed config.username) := by
  cases entrance with
  | scan => exact toList_joined (by decide +kernel) config.username
  | analysis => exact toList_joined (by decide +kernel) config.username

theorem whole_fixed : ∀ segment ∈ fixed.map String.toList, Target.Whole segment := by
  have plain : ∀ segment ∈ fixed.map String.toList, Target.isPlain segment = true := by
    cases entrance with
    | scan => decide +kernel
    | analysis => decide +kernel
  exact fun segment member => Target.whole_of_isPlain (plain segment member)

theorem ofPath_eq_some_iff {rest : List (List Char)} {found : Route} :
    Route.ofPath ([] :: (fixed.map String.toList ++ rest)) = some found ↔
      ∃ segment, rest = [segment, []] ∧ found = route segment := by
  rw [Route.ofPath_eq_some_iff]
  constructor
  · intro same
    cases entrance with
    | scan =>
        cases found with
        | scan segment => exact ⟨segment, by simpa [Route.names] using same, rfl⟩
        | analysis | submissions => simp [Route.names] at same
        | probe asked => cases asked <;> simp [Route.names] at same
    | analysis =>
        cases found with
        | analysis segment => exact ⟨segment, by simpa [Route.names] using same, rfl⟩
        | scan | submissions => simp [Route.names] at same
        | probe asked => cases asked <;> simp [Route.names] at same
  · intro behind
    obtain ⟨segment, rfl, rfl⟩ := behind
    cases entrance <;> simp [Route.names]

theorem isPath_iff : Target.IsPath (endpoint config).toList (segments fixed config.username) ↔
    Target.Whole config.username.toList := by
  have last : Target.Whole [] := Target.whole_of_isPlain rfl
  rw [entrance.toList_endpoint, Target.isPath_join_iff, segments, List.map_append, List.forall_mem_append,
    and_iff_right entrance.whole_fixed]
  simp [last]

/-- What an endpoint leads to, if anything, is the route of its own service. -/
theorem find?_eq_some_iff {found : Route} : Route.find? (endpoint config) = some found ↔ ∃ segment,
    Text.fields '/' (Target.withoutQuery (config.username.toList ++ ['/'])) = [segment, []] ∧
      found = route segment := by
  have cut : (endpoint config).toList =
      Target.join (fixed.map String.toList) ++ '/' :: (config.username.toList ++ ['/']) := by
    rw [entrance.toList_endpoint]
    simp [segments, Target.join]
  rw [Route.find?, cut, Target.path_join_append entrance.whole_fixed, entrance.ofPath_eq_some_iff]

theorem find?_of_whole (whole : Target.Whole config.username.toList) :
    Route.find? (endpoint config) = some (route config.username.toList) := by
  have made := entrance.isPath_iff.mpr whole
  have rooted : (endpoint config).toList.head? = some '/' := by
    rw [entrance.toList_endpoint]
    cases entrance <;> rfl
  have behind : segments fixed config.username = fixed.map String.toList ++ [config.username.toList, []] := by
    simp [segments]
  rw [Route.find?, made.path rooted, behind, entrance.ofPath_eq_some_iff]
  exact ⟨_, rfl, rfl⟩

end Entrance

end ScanCheck.Mock
