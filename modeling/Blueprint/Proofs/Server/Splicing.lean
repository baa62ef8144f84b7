import Blueprint.Proofs.ServerCode.Editing
import Blueprint.Server.BusinessObject

/-!
Splices in a class of operations. Every splice looks for its place in a method that earlier splices
have changed; even so each operation holds what it held at first, with the spliced statements around
the statement that touches the data source, in the order in which they came.
-/

namespace Blueprint.Server.BusinessObject

open Design ServerCode

/-- What is spliced into each operation, before and behind its call of the data source. -/
def Splices : Type := String → SplicePosition → List Statement

/-- The splices with further statements at one place. -/
def Splices.extend (splices : Splices) (method : String) (position : SplicePosition)
    (statements : List Statement) : Splices := fun other place =>
  if other = method ∧ place = position then splices other place ++ statements
  else splices other place

/-- A method of a class: one that stays as it is, or an operation that takes splices. -/
inductive Member where
  | plain (method : Statement)
  | operation (operation : Operation)

namespace Member

def name? : Member → Option String
  | plain method => method.functionName?
  | operation shape => some shape.name

/-- The statement of a member with its splices. -/
def statement (splices : Splices) : Member → Statement
  | plain method => method
  | operation shape =>
    classMethod shape.name shape.params shape.returns
      (shape.before ++ splices shape.name .before ++
        shape.store :: (splices shape.name .after ++ shape.after))

theorem functionName?_statement (splices : Splices) (member : Member) :
    (member.statement splices).functionName? = member.name? := by
  cases member <;> rfl

end Member

/-- A class before behaviors are added: what stands ahead of its methods, and its methods. Names of
methods are distinct, and an operation touches the data source in one place. -/
structure ClassSkeleton where
  attributes : List Statement
  members : List Member
  unnamed : ∀ statement ∈ attributes, statement.functionName? = none ∧ statement.isPass = false
  named : ∀ member ∈ members, member.name? ≠ none
  distinct : (members.map Member.name?).Nodup
  quiet : ∀ operation, .operation operation ∈ members →
    ∀ statement ∈ operation.before, statement.usesStore = false
  touches : ∀ operation, .operation operation ∈ members → operation.store.usesStore = true

/-- The statements of a class with splices and added methods. -/
def ClassSkeleton.body (skeleton : ClassSkeleton) (splices : Splices) (added : List Statement) :
    List Statement :=
  skeleton.attributes ++ skeleton.members.map (Member.statement splices) ++ added

/-- A module holds a class with these splices and added methods, and counts the splices behind the
calls of the data source. -/
structure Layout (skeleton : ClassSkeleton) (className : String) (splices : Splices)
    (added : List Statement) (module : Module) : Prop where
  found : module.findClass? className =
    some (.classDef className [] [] [] (skeleton.body splices added))
  counted : ∀ operation, .operation operation ∈ skeleton.members →
    module.afterCount (className, operation.name) = (splices operation.name .after).length
  quiet : ∀ operation, .operation operation ∈ skeleton.members →
    ∀ statement ∈ splices operation.name .before, statement.usesStore = false
  addedKept : ∀ statement ∈ added, statement.isPass = false

section Splice

variable {skeleton : ClassSkeleton} {className : String} {splices : Splices}
  {added : List Statement} {module : Module} {operation : Operation}

theorem Layout.of_same {changed : Module} (layout : Layout skeleton className splices added module)
    (same : module.SameClasses changed) : Layout skeleton className splices added changed where
  found := (same.classes className).trans layout.found
  counted := by
    intro operation member
    rw [Module.afterCount, same.splices]
    exact layout.counted operation member
  quiet := layout.quiet
  addedKept := layout.addedKept

/-- The place of an operation in its class: no statement ahead of it has its name. -/
private theorem body_split (member : .operation operation ∈ skeleton.members)
    (added : List Statement) :
    ∃ front back : List Member,
      (∀ other ∈ front, other.name? ≠ some operation.name) ∧
      (∀ other ∈ back, other.name? ≠ some operation.name) ∧
      (∀ splices : Splices, skeleton.body splices added =
        (skeleton.attributes ++ front.map (Member.statement splices)) ++
          (Member.operation operation).statement splices ::
            (back.map (Member.statement splices) ++ added)) ∧
      ∀ splices : Splices, ∀ statement ∈
        skeleton.attributes ++ front.map (Member.statement splices),
        (statement.functionName? == some operation.name) = false := by
  obtain ⟨front, back, split⟩ := List.append_of_mem member
  have distinct := skeleton.distinct
  rw [split, List.map_append, List.map_cons, List.nodup_append, List.nodup_cons] at distinct
  obtain ⟨_, ⟨backFresh, _⟩, apart⟩ := distinct
  have frontFresh : ∀ other ∈ front, other.name? ≠ some operation.name := by
    intro other present same
    exact apart other.name? (List.mem_map_of_mem present) (some operation.name)
      List.mem_cons_self same
  refine ⟨front, back, frontFresh, ?_, ?_, ?_⟩
  · intro other present same
    apply backFresh
    rw [show (Member.operation operation).name? = other.name? from same.symm]
    exact List.mem_map_of_mem present
  · intro splices
    simp [ClassSkeleton.body, split]
  · intro splices statement present
    rcases List.mem_append.mp present with ahead | earlier
    · simp [(skeleton.unnamed statement ahead).1]
    · obtain ⟨other, inFront, same⟩ := List.mem_map.mp earlier
      rw [← same, Member.functionName?_statement]
      simpa using frontFresh other inFront

private theorem insertAll_append {α : Type} (items front back : List α) :
    Module.insertAll items front.length (front ++ back) = front ++ items ++ back := by
  simp [Module.insertAll]

/-- The statements of an operation after one more splice. -/
private theorem insert_splice (position : SplicePosition) (statements : List Statement) :
    Module.changeFunctionBody
        (Module.insertAll statements (match position with
          | .before => (operation.before ++ splices operation.name .before).length
          | .after => (operation.before ++ splices operation.name .before).length + 1 +
              (splices operation.name .after).length))
        ((Member.operation operation).statement splices) =
      (Member.operation operation).statement
        (splices.extend operation.name position statements) := by
  cases position with
  | before =>
    have placed := insertAll_append statements
      (operation.before ++ splices operation.name .before)
      (operation.store :: (splices operation.name .after ++ operation.after))
    simp only [Member.statement, classMethod, Module.changeFunctionBody, placed]
    simp [Splices.extend]
  | after =>
    have placed := insertAll_append statements
      (operation.before ++ splices operation.name .before ++
        operation.store :: splices operation.name .after) operation.after
    have size : (operation.before ++ splices operation.name .before ++
        operation.store :: splices operation.name .after).length =
        (operation.before ++ splices operation.name .before).length + 1 +
          (splices operation.name .after).length := by
      simp only [List.length_append, List.length_cons]
      omega
    rw [size, List.append_assoc, List.cons_append] at placed
    simp only [Member.statement, classMethod, Module.changeFunctionBody, placed]
    simp [Splices.extend]

private theorem statement_extend_of_ne {other : Member} {name : String}
    (differs : other.name? ≠ some name) (position : SplicePosition)
    (statements : List Statement) :
    other.statement (splices.extend name position statements) = other.statement splices := by
  cases other with
  | plain method => rfl
  | operation shape =>
    have distinct : shape.name ≠ name := by
      intro same
      exact differs (congrArg some same)
    simp [Member.statement, Splices.extend, distinct]

private theorem body_extend (member : .operation operation ∈ skeleton.members)
    (position : SplicePosition) (statements : List Statement) :
    Module.changeFirst (fun statement => statement.functionName? == some operation.name)
        (Module.changeFunctionBody (Module.insertAll statements (match position with
          | .before => (operation.before ++ splices operation.name .before).length
          | .after => (operation.before ++ splices operation.name .before).length + 1 +
              (splices operation.name .after).length)))
        (skeleton.body splices added) =
      skeleton.body (splices.extend operation.name position statements) added := by
  obtain ⟨front, back, frontFresh, backFresh, split, skipped⟩ := body_split member added
  have keeps {members : List Member}
      (fresh : ∀ other ∈ members, other.name? ≠ some operation.name) :
      members.map (Member.statement (splices.extend operation.name position statements)) =
        members.map (Member.statement splices) := by
    apply List.map_congr_left
    intro other present
    exact statement_extend_of_ne (fresh other present) position statements
  rw [split, split, Module.changeFirst_append_cons (skipped splices) (by simp [Member.statement,
    classMethod, Statement.functionName?]), insert_splice, keeps frontFresh, keeps backFresh]

/-- The call of the data source stands behind what was spliced in before it. -/
private theorem storeIndex_of_layout (layout : Layout skeleton className splices added module)
    (member : .operation operation ∈ skeleton.members) :
    module.storeIndex className operation.name =
      .ok (operation.before ++ splices operation.name .before).length := by
  obtain ⟨front, back, _, _, split, skipped⟩ := body_split member added
  have method : module.getMethod className operation.name =
      .ok ((Member.operation operation).statement splices) := by
    have first : (skeleton.body splices added).find?
        (fun statement => statement.functionName? == some operation.name) =
        some ((Member.operation operation).statement splices) := by
      rw [split]
      apply Module.find?_append_cons (skipped splices)
      simp [Member.statement, classMethod, Statement.functionName?]
    simp [Module.getMethod, Module.getClass_of_found layout.found, Module.findFunction?, first,
      bind, Except.bind, pure, Except.pure]
  have ahead : ∀ statement ∈ operation.before ++ splices operation.name .before,
      statement.usesStore = false := by
    intro statement present
    rcases List.mem_append.mp present with own | spliced
    · exact skeleton.quiet operation member statement own
    · exact layout.quiet operation member statement spliced
  have place : (operation.before ++ splices operation.name .before ++
      operation.store :: (splices operation.name .after ++ operation.after)).findIdx?
      Statement.usesStore = some (operation.before ++ splices operation.name .before).length :=
    Module.findIdx?_append_cons ahead (skeleton.touches operation member)
  simp only [Module.storeIndex, method, bind, Except.bind]
  simp only [Member.statement, classMethod, Module.functionBody, place]
  rfl

private theorem lookup_filter_of_ne {key other : String × String} (differs : other ≠ key)
    (entries : List ((String × String) × Nat)) :
    (entries.filter (·.1 != key)).lookup other = entries.lookup other := by
  induction entries with
  | nil => rfl
  | cons entry entries ih =>
    obtain ⟨found, count⟩ := entry
    by_cases same : found = key
    · subst same
      have passed : (other == found) = false := beq_eq_false_iff_ne.mpr differs
      simp [List.lookup_cons, passed, ih]
    · simp [same, List.lookup_cons, ih]

private theorem afterCount_splice {changed : Module} {key : String × String} {count : Nat}
    (spliced : changed.afterSplices = (key, count) :: module.afterSplices.filter (·.1 != key))
    (other : String × String) :
    changed.afterCount other = if other = key then count else module.afterCount other := by
  by_cases same : other = key
  · simp [Module.afterCount, spliced, same]
  · simp only [Module.afterCount, spliced, same, ↓reduceIte, List.lookup_cons,
      beq_eq_false_iff_ne.mpr same, lookup_filter_of_ne same]

private theorem placeholder_quiet (number : Nat) :
    (Module.placeholder number).usesStore = false := rfl

/-- A splice adds its statements behind the earlier splices at its place and keeps its body. -/
theorem Layout.splice (layout : Layout skeleton className splices added module)
    (member : .operation operation ∈ skeleton.members) (position : SplicePosition)
    (lead : List Statement) (leadQuiet : ∀ statement ∈ lead, statement.usesStore = false)
    (body : String) :
    ∃ changed, module.spliceStatements className operation.name position lead body = .ok changed ∧
      Layout skeleton className (splices.extend operation.name position
        (lead ++ [Module.placeholder module.bodies.length])) added changed ∧
      changed.bodies = module.bodies ++ [body] := by
  have anchor := storeIndex_of_layout layout member
  have count := layout.counted operation member
  simp only [Module.spliceStatements, anchor, count, bind, Except.bind, pure, Except.pure,
    Module.keepBody]
  refine ⟨_, rfl, ⟨?_, ?_, ?_, layout.addedKept⟩, rfl⟩
  · have kept : ({ module with bodies := module.bodies ++ [body] } : Module).findClass? className =
        some (.classDef className [] [] [] (skeleton.body splices added)) := layout.found
    have changed := Module.findClass?_changeClass kept (Module.changeFirst
      (fun statement => statement.functionName? == some operation.name)
      (Module.changeFunctionBody (Module.insertAll
        (lead ++ [Module.placeholder module.bodies.length]) (match position with
          | .before => (operation.before ++ splices operation.name .before).length
          | .after => (operation.before ++ splices operation.name .before).length + 1 +
              (splices operation.name .after).length))))
    rw [body_extend member position] at changed
    cases position <;> exact changed
  · intro other present
    have earlier := layout.counted other present
    cases position with
    | before =>
      have unchanged : splices.extend operation.name .before
          (lead ++ [Module.placeholder module.bodies.length]) other.name .after =
          splices other.name .after := by simp [Splices.extend]
      rw [unchanged, ← earlier]
      rfl
    | after =>
      rw [afterCount_splice rfl, earlier]
      by_cases same : other.name = operation.name
      · simp [Splices.extend, same]
      · simp [Splices.extend, same]
  · intro other present statement spliced
    unfold Splices.extend at spliced
    split at spliced
    · rcases List.mem_append.mp spliced with earlier | new
      · exact layout.quiet other present statement earlier
      · rcases List.mem_append.mp new with inLead | last
        · exact leadQuiet statement inLead
        · rw [List.mem_singleton.mp last]
          exact placeholder_quiet _
    · exact layout.quiet other present statement spliced

/-- Appending a method leaves the other statements of the class alone. -/
theorem Layout.append (layout : Layout skeleton className splices added module)
    {method : Statement} (kept : method.isPass = false) :
    Layout skeleton className splices (added ++ [method])
      (module.appendMethod className method) where
  found := by
    have changed := Module.findClass?_changeClass layout.found
      (fun body => body.filter (!·.isPass) ++ [method])
    have whole : (skeleton.body splices added).filter (!·.isPass) =
        skeleton.body splices added := by
      apply List.filter_eq_self.mpr
      intro statement present
      rcases List.mem_append.mp present with own | appended
      · rcases List.mem_append.mp own with ahead | inMembers
        · simp [(skeleton.unnamed statement ahead).2]
        · obtain ⟨member, inside, same⟩ := List.mem_map.mp inMembers
          have named := skeleton.named member inside
          rw [← Member.functionName?_statement splices, same] at named
          cases statement with
          | pass => exact absurd rfl named
          | _ => rfl
      · simp [layout.addedKept statement appended]
    rw [whole] at changed
    have longer : skeleton.body splices (added ++ [method]) =
        skeleton.body splices added ++ [method] := by
      simp [ClassSkeleton.body]
    rw [longer]
    exact changed
  counted := layout.counted
  quiet := layout.quiet
  addedKept := by
    intro statement present
    rcases List.mem_append.mp present with earlier | last
    · exact layout.addedKept statement earlier
    · rw [List.mem_singleton.mp last]
      exact kept

/-- The name under which spliced code knows the class. -/
def modelBinding : Statement := .bind "model" (.name "cls")

private theorem modelBinding_quiet : modelBinding.usesStore = false := rfl

/-- The splices with one body spliced into some methods; the bodies are kept one after the other. -/
def Splices.extendAll (splices : Splices) (methods : List String) (position : SplicePosition)
    (number : Nat) : Splices := fun other place =>
  if other ∈ methods ∧ place = position then
    splices other place ++ [modelBinding, Module.placeholder (number + methods.idxOf other)]
  else splices other place

private theorem extendAll_cons (splices : Splices) {method : String} {methods : List String}
    (fresh : method ∉ methods) (position : SplicePosition) (number : Nat) :
    (splices.extend method position [modelBinding, Module.placeholder number]).extendAll methods
        position (number + 1) =
      splices.extendAll (method :: methods) position number := by
  funext other place
  by_cases here : other = method
  · subst here
    simp [Splices.extendAll, Splices.extend, fresh]
  · have later : number + 1 + methods.idxOf other =
        number + (method :: methods).idxOf other := by
      rw [List.idxOf_cons, beq_eq_false_iff_ne.mpr (Ne.symm here)]
      simp only [cond_false]
      omega
    simp [Splices.extendAll, Splices.extend, here, later]

/-- A lifecycle behavior is spliced into its operations one after the other. -/
theorem Layout.spliceInto (layout : Layout skeleton className splices added module)
    {methods : List String} (distinct : methods.Nodup)
    (present : ∀ method ∈ methods, ∃ operation,
      .operation operation ∈ skeleton.members ∧ operation.name = method)
    (position : SplicePosition) (body : String) :
    ∃ changed, Server.spliceInto className position body methods module = .ok changed ∧
      Layout skeleton className (splices.extendAll methods position module.bodies.length)
        added changed ∧
      changed.bodies = module.bodies ++ List.replicate methods.length body := by
  induction methods generalizing module splices with
  | nil =>
    have same : splices.extendAll [] position module.bodies.length = splices := by
      funext other place
      simp [Splices.extendAll]
    exact ⟨module, rfl, by rw [same]; exact layout, by simp⟩
  | cons method methods ih =>
    obtain ⟨fresh, later⟩ := List.nodup_cons.mp distinct
    obtain ⟨operation, member, rfl⟩ := present method List.mem_cons_self
    obtain ⟨spliced, success, between, bodies⟩ := layout.splice member position
      [modelBinding] (by simp [modelBinding_quiet]) body
    obtain ⟨changed, finished, final, allBodies⟩ := ih between later
      fun other inside => present other (List.mem_cons_of_mem _ inside)
    refine ⟨changed, ?_, ?_, ?_⟩
    · simp only [Server.spliceInto]
      exact bind_eq_ok_iff.mpr ⟨spliced, success, finished⟩
    · rw [bodies, List.length_append] at final
      rw [← extendAll_cons splices fresh]
      exact final
    · rw [allBodies, bodies, List.append_assoc]
      rfl

end Splice

end Blueprint.Server.BusinessObject
