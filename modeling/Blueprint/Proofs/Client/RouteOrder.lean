import Mathlib.Data.String.Basic
import Blueprint.Client.Routes
import Blueprint.Proofs.Ranking

/-!
The order of routes. A path is more general than another if it agrees with it but for parameters, so
that the router would take its route for every address of the other, were it listed first. Of two such
pages the more special one comes first exactly if its path is the smaller text: a literal segment
that starts with a letter stands behind a parameter, because the colon is smaller than letters.
-/

namespace Blueprint.RoutePath

/-- A segment that stands for any text. -/
def IsParameter (segment : List Char) : Prop := segment.head? = some ':'

instance (segment : List Char) : Decidable (IsParameter segment) := by
  unfold IsParameter
  infer_instance

/-- A path is more general than another: segment by segment it is the same or has a parameter, and
at least once it has a parameter where the other has a literal. -/
structure Generalizes (general special : List Char) : Prop where
  each : List.Forall₂ (fun segment given => segment = given ∨ IsParameter segment)
    (segments general) (segments special)
  literal : ∃ (place : Nat) (segment given : List Char), (segments general)[place]? = some segment ∧
    (segments special)[place]? = some given ∧ IsParameter segment ∧ ¬ IsParameter given

namespace Generalizes

variable {general special : List Char}

private theorem length_segments (covers : Generalizes general special) :
    (segments general).length = (segments special).length := covers.each.length_eq

theorem ne (covers : Generalizes general special) : special ≠ general := by
  rintro rfl
  obtain ⟨place, segment, given, one, other, parameter, literal⟩ := covers.literal
  obtain rfl := Option.some.inj (one.symm.trans other)
  exact literal parameter

theorem nonempty (covers : Generalizes general special) : special ≠ [] ∧ general ≠ [] := by
  obtain ⟨place, segment, given, one, other, _⟩ := covers.literal
  constructor
  · rintro rfl
    simp [segments] at other
  · rintro rfl
    simp [segments] at one

end Generalizes

end Blueprint.RoutePath

namespace Blueprint.Client

open Design ClientCode Generation

section Order

theorem routesBefore_iff {first second : Page} : routesBefore first second = true ↔
    segmentCount second.path < segmentCount first.path ∨
      segmentCount first.path = segmentCount second.path ∧ first.path ≤ second.path := by
  simp [routesBefore]

private theorem routesBefore_total (first second : Page) :
    (routesBefore first second || routesBefore second first) = true := by
  rw [Bool.or_eq_true, routesBefore_iff, routesBefore_iff]
  rcases lt_trichotomy (segmentCount first.path) (segmentCount second.path) with less | same | more
  · exact Or.inr (Or.inl less)
  · rcases le_total first.path second.path with below | above
    · exact Or.inl (Or.inr ⟨same, below⟩)
    · exact Or.inr (Or.inr ⟨same.symm, above⟩)
  · exact Or.inl (Or.inl more)

theorem routesBefore_trans (first second third : Page) (one : routesBefore first second = true)
    (two : routesBefore second third = true) : routesBefore first third = true := by
  rw [routesBefore_iff] at one two ⊢
  rcases one with more | ⟨same, below⟩
  · rcases two with again | ⟨equal, _⟩
    · exact Or.inl (again.trans more)
    · exact Or.inl (equal ▸ more)
  · rcases two with more | ⟨equal, again⟩
    · exact Or.inl (same ▸ more)
    · exact Or.inr ⟨same.trans equal, below.trans again⟩

private theorem pairwise_routedPages (registry : Registry) :
    (routedPages registry).Pairwise fun first second => routesBefore first second = true :=
  List.pairwise_mergeSort routesBefore_trans routesBefore_total _

theorem mem_routedPages {registry : Registry} {page : Page} : page ∈ routedPages registry ↔
    page ∈ registry.pages.map (·.unit) ∧ page.path ≠ "" := by
  simp [routedPages]

/-- Of two pages whose paths differ but have the same number of segments, the one with the smaller
path comes first. -/
theorem sublist_routedPages_iff {registry : Registry} {first second : Page}
    (one : first ∈ routedPages registry) (other : second ∈ routedPages registry)
    (counted : segmentCount first.path = segmentCount second.path)
    (apart : first.path ≠ second.path) :
    [first, second].Sublist (routedPages registry) ↔ first.path < second.path := by
  have ordered {before after : Page} (listed : [before, after].Sublist (routedPages registry))
      (same : segmentCount before.path = segmentCount after.path) : before.path ≤ after.path := by
    have sorted := List.pairwise_pair.mp ((pairwise_routedPages registry).sublist listed)
    rcases routesBefore_iff.mp sorted with more | ⟨_, below⟩
    · omega
    · exact below
  constructor
  · exact fun listed => lt_of_le_of_ne (ordered listed counted) apart
  · intro below
    rcases sublist_or_sublist (fun same => apart (congrArg Page.path same)) one other with
      listed | listed
    · exact listed
    · exact absurd (ordered listed counted.symm) (not_le.mpr below)

theorem lt_iff_of_difference {first second : String} {front rest others : List Char} {c d : Char}
    (one : first.toList = front ++ c :: rest) (other : second.toList = front ++ d :: others)
    (apart : c ≠ d) : first < second ↔ c < d := by
  rw [String.lt_iff_toList_lt, one, other]
  clear one other
  induction front with
  | nil => simp [List.cons_lt_cons_iff, apart]
  | cons head front ih => simp [ih]

end Order

section Text

/-- A text shows one part before another. -/
def ShowsInOrder (text first second : String) : Prop :=
  ∃ front between back, text = front ++ first ++ between ++ second ++ back

theorem exists_intercalate_of_mem {joint text : String} {texts : List String}
    (listed : text ∈ texts) : ∃ front back, joint.intercalate texts = front ++ text ++ back := by
  induction texts with
  | nil => cases listed
  | cons head texts ih =>
    cases texts with
    | nil =>
      obtain rfl := List.mem_singleton.mp listed
      exact ⟨"", "", by simp⟩
    | cons second texts =>
      rw [String.intercalate_cons_cons]
      rcases List.mem_cons.mp listed with rfl | later
      · exact ⟨"", joint ++ joint.intercalate (second :: texts), by simp [String.append_assoc]⟩
      · obtain ⟨front, back, same⟩ := ih later
        exact ⟨head ++ joint ++ front, back, by simp only [same, String.append_assoc]⟩

/-- Joined texts show their parts in order. -/
theorem showsInOrder_intercalate {joint first second : String} {texts : List String}
    (ordered : [first, second].Sublist texts) :
    ShowsInOrder (joint.intercalate texts) first second := by
  induction texts with
  | nil => cases ordered
  | cons head texts ih =>
    cases texts with
    | nil => exact absurd ordered.length_le (by simp)
    | cons next texts =>
      rw [String.intercalate_cons_cons]
      cases ordered with
      | cons _ later =>
        obtain ⟨front, between, back, same⟩ := ih later
        exact ⟨head ++ joint ++ front, between, back, by simp only [same, String.append_assoc]⟩
      | cons_cons _ later =>
        have listed : second ∈ next :: texts := List.singleton_sublist.mp later
        obtain ⟨front, back, same⟩ : ∃ front back,
            joint.intercalate (next :: texts) = front ++ second ++ back :=
          exists_intercalate_of_mem listed
        exact ⟨"", joint ++ front, back, by simp [same, String.append_assoc]⟩

theorem stripEnd_append {front back : String} {c : Char} (last : back.toList.getLast? = some c)
    (visible : Text.isBlank c = false) : Text.stripEnd (front ++ back) = front ++ back := by
  obtain ⟨letters, same⟩ := List.getLast?_eq_some_iff.mp last
  rw [Text.stripEnd, Text.trimEnd, String.toList_append, same, ← List.append_assoc,
    List.reverse_append, List.reverse_singleton, List.singleton_append,
    List.dropWhile_cons_of_neg (by simp [visible]), List.reverse_cons, List.reverse_reverse,
    List.append_assoc, ← same, ← String.toList_append, String.ofList_toList]

/-- A file without classes shows its imports and then its statement. -/
theorem exists_render_addStatement (imported : Import) (name front : String) {back : String}
    {c : Char} (last : back.toList.getLast? = some c) (visible : Text.isBlank c = false) :
    ∃ lead, ((({ name, imports := [imported] } : Source).addStatement (front ++ back)).render) =
      lead ++ (front ++ back) ++ "\n" := by
  have shown : Text.isBlankString (front ++ back) = false := by
    have listed : c ∈ back.toList := List.mem_of_getLast? last
    rw [Text.isBlankString, Text.isBlankText, Bool.eq_false_iff, ne_eq, List.all_eq_true]
    intro blank
    have hidden := blank c (by simp [listed])
    rw [visible] at hidden
    cases hidden
  rw [Source.addStatement, if_neg (by simp [shown]), stripEnd_append last visible]
  refine ⟨imported.render ++ "\n\n", ?_⟩
  by_cases core : imported.module = coreModule
  · simp [Source.render, core, Text.unlines, String.append_assoc]
  · simp [Source.render, core, Text.unlines, String.append_assoc]

/-- The file of the routes shows their texts, each on lines of its own. -/
theorem exists_routes_text (registry : Registry) (nonempty : routedPages registry ≠ []) :
    ∃ front back, (generateRoutes registry).outcome = .ok (.text (front ++ ",\n".intercalate
      ((routeTexts (defaultPath registry (routedPages registry)) (routedPages registry)).map
        ("  " ++ ·)) ++ back)) := by
  have written : (generateRoutes registry).outcome = .ok (.text
      ((({ name := "app.routes", imports := [⟨"@angular/router", ["Routes"], none⟩] } :
        Source).addStatement (routesStatement (routeTexts
          (defaultPath registry (routedPages registry)) (routedPages registry)))).render)) := rfl
  have filled : (routeTexts (defaultPath registry (routedPages registry))
      (routedPages registry)).isEmpty = false := by
    simp [routeTexts, nonempty]
  have last : "\n];".toList.getLast? = some ';' := by decide
  obtain ⟨lead, rendered⟩ := exists_render_addStatement ⟨"@angular/router", ["Routes"], none⟩
    "app.routes" ("export const routes: Routes = [\n" ++ ",\n".intercalate
      ((routeTexts (defaultPath registry (routedPages registry)) (routedPages registry)).map
        ("  " ++ ·))) last (by decide)
  refine ⟨lead ++ "export const routes: Routes = [\n", "\n];" ++ "\n", ?_⟩
  rw [written, routesStatement, if_neg (by simp [filled]), rendered]
  simp only [String.append_assoc]

/-- The file of the routes shows the routes of pages in the order of the pages. -/
theorem exists_routes_inOrder {registry : Registry} {first second : Page}
    (ordered : [first, second].Sublist (routedPages registry)) :
    ∃ text, (generateRoutes registry).outcome = .ok (.text text) ∧
      ShowsInOrder text (pageRoute first) (pageRoute second) := by
  have nonempty : routedPages registry ≠ [] := fun none => by
    rw [none] at ordered
    cases ordered
  obtain ⟨lead, tail, written⟩ := exists_routes_text registry nonempty
  refine ⟨_, written, ?_⟩
  have listed : ["  " ++ pageRoute first, "  " ++ pageRoute second].Sublist
      ((routeTexts (defaultPath registry (routedPages registry)) (routedPages registry)).map
        ("  " ++ ·)) :=
    ((ordered.map pageRoute).trans (List.sublist_append_right _ _)).map ("  " ++ ·)
  obtain ⟨front, between, back, same⟩ :
      ShowsInOrder (",\n".intercalate _) ("  " ++ pageRoute first) ("  " ++ pageRoute second) :=
    showsInOrder_intercalate listed
  exact ⟨lead ++ front ++ "  ", between ++ "  ", back ++ tail, by
    simp only [same, String.append_assoc]⟩

end Text

section Precedence

/-- Of two routed pages of which one has the more general path, the more special one comes first in
the list of pages exactly if its path is the smaller text, and the file of the routes shows the two
in the order of the list. Where the paths first differ in a literal against a parameter, the special
page comes first exactly if the literal starts with a character below the colon. -/
theorem special_first_iff_lt (registry : Registry) (special general : Page)
    (one : special ∈ registry.pages.map (·.unit)) (other : general ∈ registry.pages.map (·.unit))
    (covers : RoutePath.Generalizes general.path.toList special.path.toList) :
    ([special, general].Sublist (routedPages registry) ↔ special.path < general.path) ∧
    (∃ text, (generateRoutes registry).outcome = .ok (.text text) ∧
      if special.path < general.path then ShowsInOrder text (pageRoute special) (pageRoute general)
      else ShowsInOrder text (pageRoute general) (pageRoute special)) ∧
    ∀ front c rest others, special.path.toList = front ++ c :: rest →
      general.path.toList = front ++ ':' :: others → c ≠ ':' →
      ([special, general].Sublist (routedPages registry) ↔ c < ':') := by
  have apart : special.path ≠ general.path := fun same => covers.ne (congrArg String.toList same)
  have counted : segmentCount special.path = segmentCount general.path :=
    covers.length_segments.symm
  have routed : special ∈ routedPages registry :=
    mem_routedPages.mpr ⟨one, fun none => covers.nonempty.1 (by rw [none]; rfl)⟩
  have routedToo : general ∈ routedPages registry :=
    mem_routedPages.mpr ⟨other, fun none => covers.nonempty.2 (by rw [none]; rfl)⟩
  have first := sublist_routedPages_iff routed routedToo counted apart
  refine ⟨first, ?_, fun front c rest others mine theirs literal =>
    first.trans (lt_iff_of_difference mine theirs literal)⟩
  by_cases below : special.path < general.path
  · obtain ⟨text, written, shown⟩ := exists_routes_inOrder (first.mpr below)
    exact ⟨text, written, by rwa [if_pos below]⟩
  · have above : general.path < special.path := lt_of_le_of_ne (not_lt.mp below) (Ne.symm apart)
    obtain ⟨text, written, shown⟩ := exists_routes_inOrder
      ((sublist_routedPages_iff routedToo routed counted.symm (Ne.symm apart)).mpr above)
    exact ⟨text, written, by rwa [if_neg below]⟩

/-- The report of any year and the report of one year, chapter by chapter. -/
def anyYear : Page := { offset := 0, name := "AnyYear", path := "/reports/:year/:chapter" }

def jubilee : Page := { offset := 0, name := "Jubilee", path := "/reports/2024/:chapter" }

/-- A supplier, and the form for another one. -/
def supplierPage : Page := { offset := 0, name := "Supplier", path := "/suppliers/:id" }

def supplierForm : Page := { offset := 0, name := "SupplierForm", path := "/suppliers/new" }

/-- A client with these pages. -/
def visited : Registry where
  units := Registry.declare none false 0
    [.page anyYear, .page supplierPage, .page jubilee, .page supplierForm]
  distinct := by decide

private theorem generalizes_anyYear :
    RoutePath.Generalizes anyYear.path.toList jubilee.path.toList := by
  have one : RoutePath.segments anyYear.path.toList =
    ["reports".toList, ":year".toList, ":chapter".toList] := by decide +kernel
  have other : RoutePath.segments jubilee.path.toList =
    ["reports".toList, "2024".toList, ":chapter".toList] := by decide
  constructor
  · rw [one, other]
    exact .cons (.inl rfl) (.cons (.inr (by decide)) (.cons (.inl rfl) .nil))
  · rw [one, other]
    exact ⟨1, _, _, rfl, rfl, by decide, by decide⟩

/-- A year starts below the colon, so its report comes first. -/
theorem special_first_iff_lt_jubilee :
    (jubilee ∈ visited.pages.map (·.unit) ∧ anyYear ∈ visited.pages.map (·.unit) ∧
      RoutePath.Generalizes anyYear.path.toList jubilee.path.toList) ∧
    [jubilee, anyYear].Sublist (routedPages visited) := by
  have one : jubilee ∈ visited.pages.map (·.unit) :=
    List.mem_cons_of_mem _ (List.mem_cons_of_mem _ List.mem_cons_self)
  have other : anyYear ∈ visited.pages.map (·.unit) := List.mem_cons_self
  refine ⟨⟨one, other, generalizes_anyYear⟩, ?_⟩
  obtain ⟨_, _, first⟩ := special_first_iff_lt visited jubilee anyYear one other generalizes_anyYear
  exact (first "/reports/".toList '2' "024/:chapter".toList "year/:chapter".toList (by decide)
    (by decide) (by decide)).mpr (by decide)

/-- The route of any supplier comes before the form for a new one, which it hides. -/
theorem special_route_hidden :
    RoutePath.Generalizes supplierPage.path.toList supplierForm.path.toList ∧
      supplierForm ∈ visited.pages.map (·.unit) ∧ supplierPage ∈ visited.pages.map (·.unit) ∧
      [supplierPage, supplierForm].Sublist (routedPages visited) ∧
      ¬ [supplierForm, supplierPage].Sublist (routedPages visited) := by
  have one : RoutePath.segments supplierPage.path.toList = ["suppliers".toList, ":id".toList] := by
    decide +kernel
  have other : RoutePath.segments supplierForm.path.toList =
    ["suppliers".toList, "new".toList] := by decide
  have covers : RoutePath.Generalizes supplierPage.path.toList supplierForm.path.toList := by
    constructor
    · rw [one, other]
      exact .cons (.inl rfl) (.cons (.inr (by decide)) .nil)
    · rw [one, other]
      exact ⟨1, _, _, rfl, rfl, by decide, by decide⟩
  have form : supplierForm ∈ visited.pages.map (·.unit) :=
    List.mem_cons_of_mem _ (List.mem_cons_of_mem _ (List.mem_cons_of_mem _ List.mem_cons_self))
  have page : supplierPage ∈ visited.pages.map (·.unit) :=
    List.mem_cons_of_mem _ List.mem_cons_self
  have formRouted : supplierForm ∈ routedPages visited := mem_routedPages.mpr ⟨form, by decide⟩
  have pageRouted : supplierPage ∈ routedPages visited := mem_routedPages.mpr ⟨page, by decide⟩
  have counted : segmentCount supplierPage.path = segmentCount supplierForm.path :=
    covers.length_segments
  refine ⟨covers, form, page, ?_, ?_⟩
  · rw [sublist_routedPages_iff pageRouted formRouted counted (by decide)]
    decide
  · rw [sublist_routedPages_iff formRouted pageRouted counted.symm (by decide)]
    decide

end Precedence

end Blueprint.Client
