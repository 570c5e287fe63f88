import Mathlib.Data.List.Perm.Basic
import Mathlib.Logic.Relation
import ScanCheck.Payload
import ScanCheck.Proofs.Codec.Views
import ScanCheck.Proofs.Json.Compact
import ScanCheck.Proofs.Json.Truncation

namespace ScanCheck

open Json (Unrepeated Written)

theorem Codec.Projects.of_eq {α : Type} {codec : Codec α} {project other : Json → Option α} {clear narrow : Json → Prop}
    (projects : codec.Projects project clear) (same : ∀ tree, project tree = other tree)
    (weaker : ∀ tree, narrow tree → clear tree) : codec.Projects other narrow :=
  fun depth tree text spells clear => same tree ▸ projects depth tree text spells (weaker tree clear)

theorem Views.given_none {α : Type} (project : Json → Option α) (tree : Option Json) :
    given project none tree = tree.bind project := by
  cases tree <;> rfl

/-- The component that an untyped value holds, if all its fields are there with their types. -/
def Component.ofJson? (value : Json) : Option Component := do
  let name ← value.textAt? "name"
  let kind ← value.textAt? "type"
  let branch ← value.textAt? "branch"
  let url ← value.textAt? "url"
  some { name, kind, branch, url }

def ScanPayload.ofJson? (value : Json) : Option ScanPayload := do
  let project ← value.textAt? "project"
  let components ← (value.itemsAt? "components").bind (·.mapM Component.ofJson?)
  some { project, components }

def AnalysisPayload.ofJson? (value : Json) : Option AnalysisPayload := do
  let project ← value.textAt? "project"
  let component ← value.textAt? "component"
  let url ← value.textAt? "url"
  let kwScanLink ← value.textAt? "kw_scan_link"
  some { project, component, url, kwScanLink }

/-- Only the members of its fields count for what an object holds. -/
theorem Component.ofJson?_congr {value other : Json}
    (same : ∀ name ∈ ["name", "type", "branch", "url"], value.textAt? name = other.textAt? name) :
    ofJson? value = ofJson? other := by
  simp only [List.forall_mem_cons] at same
  obtain ⟨name, kind, branch, url, -⟩ := same
  rw [ofJson?, ofJson?, name, kind, branch, url]

theorem AnalysisPayload.ofJson?_congr {value other : Json}
    (same : ∀ name ∈ ["project", "component", "url", "kw_scan_link"], value.textAt? name = other.textAt? name) :
    ofJson? value = ofJson? other := by
  simp only [List.forall_mem_cons] at same
  obtain ⟨project, component, url, kwScanLink, -⟩ := same
  rw [ofJson?, ofJson?, project, component, url, kwScanLink]

theorem ScanPayload.ofJson?_congr {value other : Json} (project : value.textAt? "project" = other.textAt? "project")
    (components : (value.itemsAt? "components").bind (·.mapM Component.ofJson?) =
      (other.itemsAt? "components").bind (·.mapM Component.ofJson?)) : ofJson? value = ofJson? other := by
  rw [ofJson?, ofJson?, project, components]

def Component.names : List String := ["name", "type", "branch", "url"]

def ScanPayload.names : List String := ["project", "components"]

def AnalysisPayload.names : List String := ["project", "component", "url", "kw_scan_link"]

/-- The value is no array, and if it is an object, it gives no field twice. -/
structure Component.Clear (value : Json) : Prop where
  notArray : value.items? = none
  unrepeated : ∀ members, value = .object members → Unrepeated Component.names members

/-- The members of an object give no field twice, neither there nor in a component. -/
structure ScanPayload.Clear (members : List (String × Json)) : Prop where
  unrepeated : Unrepeated ScanPayload.names members
  components : ∀ items, ("components", .array items) ∈ members → ∀ item ∈ items, Component.Clear item

def AnalysisPayload.Clear (members : List (String × Json)) : Prop := Unrepeated AnalysisPayload.names members

/-- Records of four texts differ in the names of their fields only. -/
theorem Codec.texts_projects {α : Type} (first second third fourth : String)
    (distinct : [first, second, third, fourth].Nodup) (ofRow : Row [String, String, String, String] → α)
    (toRow : α → Row [String, String, String, String]) :
    (Codec.record (.cons first .string none (.cons second .string none
      (.cons third .string none (.cons fourth .string none .nil)))) ofRow toRow).Projects
      (fun value => do
        let first ← value.textAt? first
        let second ← value.textAt? second
        let third ← value.textAt? third
        let fourth ← value.textAt? fourth
        some (ofRow (first, second, third, fourth, ())))
      fun value => value.items? = none ∧
        ∀ members, value = .object members → Unrepeated [first, second, third, fourth] members := by
  refine (Codec.record_projects (.cons _ _ Codec.string_projects (.cons _ _ Codec.string_projects
    (.cons _ _ Codec.string_projects (.cons _ _ Codec.string_projects .nil)))) ?names ofRow toRow).of_eq ?same ?weaker
  case names => exact distinct
  case same =>
    intro tree
    cases tree with
    | object members =>
        simp only [Json.members?, Option.bind_some, Views.row, Views.given_none, Json.textAt?, Json.member?_object]
        cases (members.lookup first).bind Json.text? <;> cases (members.lookup second).bind Json.text? <;>
          cases (members.lookup third).bind Json.text? <;> cases (members.lookup fourth).bind Json.text? <;> rfl
    | _ => rfl
  case weaker =>
    rintro tree ⟨notArray, unrepeated⟩
    refine ⟨notArray, fun members object => ⟨unrepeated members object, fun member _ => ?_⟩⟩
    exact ⟨fun _ => trivial, fun _ => trivial, fun _ => trivial, fun _ => trivial, trivial⟩

theorem Component.codec_projects : Component.codec.Projects ofJson? Clear :=
  (Codec.texts_projects "name" "type" "branch" "url" (by decide) _ _).of_eq (fun _ => rfl)
    fun _ clear => ⟨clear.notArray, clear.unrepeated⟩

theorem AnalysisPayload.codec_projects :
    AnalysisPayload.codec.Projects ofJson? fun tree => ∃ members, tree = .object members ∧ Clear members := by
  refine (Codec.texts_projects "project" "component" "url" "kw_scan_link" (by decide) _ _).of_eq (fun _ => rfl) ?_
  rintro tree ⟨members, rfl, clear⟩
  refine ⟨rfl, fun others same => ?_⟩
  cases same
  exact clear

theorem ScanPayload.codec_projects :
    ScanPayload.codec.Projects ofJson? fun tree => ∃ members, tree = .object members ∧ Clear members := by
  refine (Codec.record_projects (.cons _ _ Codec.string_projects (.cons _ _ Component.codec_projects.list .nil))
    (by decide) _ _).of_eq ?same ?weaker
  case same =>
    intro tree
    cases tree with
    | object members =>
        simp only [Json.members?, Option.bind_some, Views.row, Views.given_none, ofJson?, Json.textAt?, Json.itemsAt?,
          Json.member?_object]
        rw [Option.bind_assoc (members.lookup "components") Json.items? (·.mapM Component.ofJson?)]
        cases (members.lookup "project").bind Json.text? <;>
          cases (members.lookup "components").bind fun tree => tree.items?.bind (·.mapM Component.ofJson?) <;> rfl
    | _ => rfl
  case weaker =>
    rintro tree ⟨members, rfl, clear⟩
    refine ⟨rfl, fun others same => ?_⟩
    cases same
    refine ⟨clear.unrepeated, fun member inside => ⟨fun _ => trivial, fun named items array item within => ?_, trivial⟩⟩
    obtain ⟨name, value⟩ := member
    subst named array
    exact clear.components items inside item within

theorem Component.ofJson?_sorted {value : Json} (clear : Component.Clear value) :
    ofJson? value.sorted = ofJson? value := by
  cases value with
  | object members => exact ofJson?_congr fun _ => Json.textAt?_sorted (clear.unrepeated members rfl)
  | array items => cases clear.notArray
  | _ => rfl

theorem AnalysisPayload.ofJson?_sorted {members : List (String × Json)} (clear : AnalysisPayload.Clear members) :
    ofJson? (Json.object members).sorted = ofJson? (.object members) :=
  ofJson?_congr fun _ => Json.textAt?_sorted clear

theorem mapM_map_of_mem {α β γ : Type} {change : α → β} {first : β → Option γ} {second : α → Option γ} {values : List α}
    (same : ∀ value ∈ values, first (change value) = second value) :
    (values.map change).mapM first = values.mapM second := by
  induction values with
  | nil => rfl
  | cons value values ih =>
      obtain ⟨own, others⟩ := List.forall_mem_cons.mp same
      rw [List.map_cons, List.mapM_cons, List.mapM_cons, own, ih others]

theorem ScanPayload.ofJson?_sorted {members : List (String × Json)} (clear : ScanPayload.Clear members) :
    ofJson? (Json.object members).sorted = ofJson? (.object members) := by
  have known : "components" ∈ ScanPayload.names := by decide
  refine ofJson?_congr (Json.textAt?_sorted clear.unrepeated (by decide)) ?_
  rw [Json.itemsAt?_sorted clear.unrepeated known]
  cases found : (Json.object members).itemsAt? "components" with
  | none => rfl
  | some items =>
      have listed := Json.mem_of_itemsAt? clear.unrepeated known found
      exact mapM_map_of_mem fun item inside => Component.ofJson?_sorted (clear.components items listed item inside)

/-- One change to the members of a payload or of one of its components. -/
inductive ScanPayload.Rearranged : List (String × Json) → List (String × Json) → Prop
  | payload {members others : List (String × Json)} (rearranged : Json.Rearranged ScanPayload.names members others) :
      Rearranged members others
  | component {front back : List (String × Json)} {before after : List Json} {members others : List (String × Json)}
      (rearranged : Json.Rearranged Component.names members others) :
      Rearranged (front ++ ("components", .array (before ++ .object members :: after)) :: back)
        (front ++ ("components", .array (before ++ .object others :: after)) :: back)

theorem Component.Clear.alike {members others : List (String × Json)} (same : Json.SameFields names members others)
    (clear : Clear (.object members)) : Clear (.object others) := by
  refine ⟨rfl, fun found object => ?_⟩
  cases object
  exact same.unrepeated.mp (clear.unrepeated members rfl)

theorem Component.ofJson?_alike {members others : List (String × Json)} (same : Json.SameFields names members others)
    (clear : Clear (.object members)) : ofJson? (.object members) = ofJson? (.object others) :=
  ofJson?_congr fun _ known => same.textAt? (clear.unrepeated members rfl) known

/-- Two objects hold the same, should one of them be clear. -/
structure Alike {α : Type} (project : Json → Option α) (isClear : List (String × Json) → Prop)
    (members others : List (String × Json)) : Prop where
  clear : isClear members ↔ isClear others
  value : isClear members → project (.object members) = project (.object others)

/-- What one change keeps, any changes keep, in whatever direction each of them is made. -/
theorem alike_of_chain {α : Type} {project : Json → Option α} {clear : List (String × Json) → Prop}
    {rearranged : List (String × Json) → List (String × Json) → Prop}
    (step : ∀ members others, rearranged members others → Alike project clear members others)
    {members others : List (String × Json)} (chain : Relation.EqvGen rearranged members others) :
    Alike project clear members others := by
  induction chain with
  | rel members others rearranged => exact step members others rearranged
  | refl members => exact ⟨Iff.rfl, fun _ => rfl⟩
  | symm members others _ ih => exact ⟨ih.clear.symm, fun clear => (ih.value (ih.clear.mpr clear)).symm⟩
  | trans members between others _ _ first second =>
      exact ⟨first.clear.trans second.clear,
        fun clear => (first.value clear).trans (second.value (first.clear.mp clear))⟩

namespace ScanPayload

theorem alike_payload {members others : List (String × Json)} (same : Json.SameFields names members others) :
    Alike ofJson? Clear members others := by
  have known : "components" ∈ names := by decide
  refine ⟨⟨fun clear => ?_, fun clear => ?_⟩, fun clear => ?_⟩
  · exact ⟨same.unrepeated.mp clear.unrepeated,
      fun items inside => clear.components items ((same.given _ known _).mpr inside)⟩
  · exact ⟨same.unrepeated.mpr clear.unrepeated,
      fun items inside => clear.components items ((same.given _ known _).mp inside)⟩
  · refine ofJson?_congr (same.textAt? clear.unrepeated (by decide)) ?_
    rw [Json.itemsAt?, Json.itemsAt?, Json.member?_object, Json.member?_object, same.lookup clear.unrepeated known]

section Component

variable {front back : List (String × Json)} {before after : List Json} {members others : List (String × Json)}
  (same : Json.SameFields Component.names members others)

include same

theorem clear_component
    (clear : Clear (front ++ ("components", .array (before ++ .object members :: after)) :: back)) :
    Clear (front ++ ("components", .array (before ++ .object others :: after)) :: back) := by
  have own := clear.components _ (List.mem_append_right _ List.mem_cons_self)
  refine ⟨?_, fun items inside item within => ?_⟩
  · simpa [Json.Unrepeated] using clear.unrepeated
  · rcases List.mem_append.mp inside with inFront | here
    · exact clear.components items (List.mem_append_left _ inFront) item within
    rcases List.mem_cons.mp here with this | inBack
    · cases this
      rcases List.mem_append.mp within with isBefore | behind
      · exact own item (List.mem_append_left _ isBefore)
      rcases List.mem_cons.mp behind with rfl | isAfter
      · exact (own _ (List.mem_append_right _ List.mem_cons_self)).alike same
      · exact own item (List.mem_append_right _ (List.mem_cons_of_mem _ isAfter))
    · exact clear.components items (List.mem_append_right _ (List.mem_cons_of_mem _ inBack)) item within

theorem alike_component : Alike ofJson? Clear
    (front ++ ("components", .array (before ++ .object members :: after)) :: back)
    (front ++ ("components", .array (before ++ .object others :: after)) :: back) := by
  refine ⟨⟨clear_component same, clear_component same.symm⟩, fun clear => ?_⟩
  have own := clear.components _ (List.mem_append_right _ List.mem_cons_self) (.object members)
    (List.mem_append_right _ List.mem_cons_self)
  have held := Component.ofJson?_alike same own
  refine ofJson?_congr ?_ ?_
  · simp [Json.textAt?, Json.member?_object, List.lookup_append, List.lookup_cons]
  · simp only [Json.itemsAt?, Json.member?_object, List.lookup_append, List.lookup_cons, BEq.rfl]
    cases front.lookup "components" with
    | some tree => rfl
    | none => simp [Json.items?, List.mapM_append, List.mapM_cons, held]

end Component

theorem alike_of_rearranged (members others : List (String × Json)) (rearranged : Rearranged members others) :
    Alike ofJson? Clear members others := by
  cases rearranged with
  | payload rearranged => exact alike_payload rearranged.sameFields
  | component rearranged => exact alike_component rearranged.sameFields

end ScanPayload

theorem AnalysisPayload.alike_of_rearranged (members others : List (String × Json))
    (rearranged : Json.Rearranged names members others) : Alike ofJson? Clear members others := by
  have same := rearranged.sameFields
  exact ⟨same.unrepeated, fun clear => ofJson?_congr fun _ known => same.textAt? clear known⟩

section Decoded

variable {α : Type} [Codec.Wording] {codec : Codec α} {project : Json → Option α}

/-- The payload that a value holds, or else the error of a client that cannot decode the body for its type. -/
def projected (codec : Codec α) (body : Bytes) (value : Option α) : Except ClientError α :=
  (Json.orMistyped value).mapError (codec.malformed body)

theorem parseJson_projected {clear : Json → Prop} (projects : codec.Projects project clear) {tree : Json} {body : Bytes}
    (written : Written tree body) (isClear : clear tree) :
    parseJson codec { status := 200, body } = projected codec body (project tree) := by
  obtain ⟨before, text, after, rfl, blank, behind, spells⟩ := written
  exact congrArg (Except.mapError _) (Json.readAll_yields (projects _ _ _ spells isClear) blank behind)

/-- A body is decoded as the projection of its untyped value, and every other body with the same members up to order
and up to members that are no fields is decoded as the projection of this very value. -/
structure DecodesProjection (codec : Codec α) (project : Json → Option α)
    (rearranged : List (String × Json) → List (String × Json) → Prop) (body : Bytes) (value : Json)
    (members : List (String × Json)) : Prop where
  decoded : parseJson codec { status := 200, body } = projected codec body (project value)
  rearranged : ∀ others other, Written (.object others) other → Relation.EqvGen rearranged members others →
    parseJson codec { status := 200, body := other } = projected codec other (project value)

theorem decodesProjection {clear : List (String × Json) → Prop}
    {rearranged : List (String × Json) → List (String × Json) → Prop}
    (projects : codec.Projects project fun tree => ∃ members, tree = .object members ∧ clear members)
    (sorts : ∀ members, clear members → project (Json.object members).sorted = project (.object members))
    (step : ∀ members others, rearranged members others → Alike project clear members others)
    {body : Bytes} {members : List (String × Json)} (written : Written (.object members) body)
    (isClear : clear members) :
    DecodesProjection codec project rearranged body (Json.object members).sorted members := by
  have decoded := parseJson_projected projects written ⟨members, rfl, isClear⟩
  refine ⟨by rw [decoded, sorts members isClear], fun others other otherWritten chain => ?_⟩
  have alike := alike_of_chain step chain
  rw [sorts members isClear, alike.value isClear]
  exact parseJson_projected projects otherWritten ⟨others, rfl, alike.clear.mp isClear⟩

end Decoded

/-- A body with an object is the text of some members; if these give no field twice, the body is decoded as a
payload exactly if its untyped value holds one. -/
theorem payloads_projected [Codec.Wording] {body : Bytes} {entries : List (String × Json)}
    (accepted : parseJson Codec.json { status := 200, body } = .ok (.object entries)) :
    (∃ members, Written (.object members) body) ∧
    ∀ members, Written (.object members) body →
      (ScanPayload.Clear members → DecodesProjection ScanPayload.codec ScanPayload.ofJson? ScanPayload.Rearranged body
        (.object entries) members) ∧
      (AnalysisPayload.Clear members → DecodesProjection AnalysisPayload.codec AnalysisPayload.ofJson?
        (Json.Rearranged AnalysisPayload.names) body (.object entries) members) := by
  obtain ⟨tree, written, value⟩ := parseJson_json_eq_ok_iff.mp accepted
  refine ⟨?_, fun members spelled => ?_⟩
  · cases tree with
    | object members => exact ⟨members, written⟩
    | array items => simp at value
    | _ => cases value
  · have sorted : Json.object entries = (Json.object members).sorted := by
      have read := parseJson_json_eq_ok_iff.mpr ⟨_, spelled, rfl⟩
      exact Except.ok.inj (accepted.symm.trans read)
    rw [sorted]
    exact ⟨decodesProjection ScanPayload.codec_projects (fun _ => ScanPayload.ofJson?_sorted)
        ScanPayload.alike_of_rearranged spelled,
      decodesProjection AnalysisPayload.codec_projects (fun _ => AnalysisPayload.ofJson?_sorted)
        AnalysisPayload.alike_of_rearranged spelled⟩

/-- A payload with a member that is no field, and the same payload without it and in another order. -/
theorem payloads_projected_of_rearranged :
    let _ : Codec.Wording := { json := fun _ _ => "", toml := fun _ _ => "" }
    let component : Json :=
      .object [("url", .text "u"), ("name", .text "lib"), ("type", .text "git"), ("branch", .text "main")]
    let first : Json := .object [("project", .text "app"), ("ci", .null), ("components", .array [component])]
    let second : Json := .object [("components", .array [component]), ("project", .text "app")]
    let payload : ScanPayload :=
      { project := "app", components := [{ name := "lib", kind := "git", branch := "main", url := "u" }] }
    parseJson ScanPayload.codec { status := 200, body := utf8 first.compact } = .ok payload ∧
      parseJson ScanPayload.codec { status := 200, body := utf8 second.compact } = .ok payload := by
  intro words component first second payload
  have components : (Json.array [component]).Every Json.Plain := by
    have plain : component.Every Json.Plain := Json.plain_object (by decide) (by simp [Json.plain_text])
    exact Json.plain_array (by simp [plain])
  have firstWritten : Written first (utf8 first.compact) := by
    have nests : first.NestsWithin 4 := by simp [first, component, Json.NestsWithin, Json.children]
    exact Json.written_compact (Json.plain_object (by decide) (by simp [Json.plain_text, Json.plain_null, components]))
      (nests.mono (by decide))
  have secondWritten : Written second (utf8 second.compact) := by
    have nests : second.NestsWithin 4 := by simp [second, component, Json.NestsWithin, Json.children]
    exact Json.written_compact (Json.plain_object (by decide) (by simp [Json.plain_text, components]))
      (nests.mono (by decide))
  have clear : ScanPayload.Clear [("project", .text "app"), ("ci", .null), ("components", .array [component])] := by
    refine ⟨by decide, fun items inside item within => ?_⟩
    obtain rfl : items = [component] := by simpa using inside
    obtain rfl := List.mem_singleton.mp within
    refine ⟨rfl, fun members same => ?_⟩
    obtain rfl := Json.object.inj same
    decide
  have chain : Relation.EqvGen ScanPayload.Rearranged
      [("project", .text "app"), ("ci", .null), ("components", .array [component])]
      [("components", .array [component]), ("project", .text "app")] := by
    refine .trans _ [("project", .text "app"), ("components", .array [component])] _
      (.symm _ _ (.rel _ _ ?_)) (.rel _ _ ?_)
    · exact .payload (@Json.Rearranged.added _ [("project", .text "app")] _ "ci" .null (by decide))
    · exact .payload (.permuted (.swap _ _ _))
  have accepted := parseJson_json_eq_ok_iff.mpr ⟨first, firstWritten, Json.object_foldl _⟩
  obtain ⟨decoded, rearranged⟩ := ((payloads_projected accepted).2 _ firstWritten).1 clear
  rw [Json.object_foldl, ScanPayload.ofJson?_sorted clear] at decoded
  have other := rearranged _ _ secondWritten chain
  rw [Json.object_foldl, ScanPayload.ofJson?_sorted clear] at other
  exact ⟨decoded, other⟩

end ScanCheck
