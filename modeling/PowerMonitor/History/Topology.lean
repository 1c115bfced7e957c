import Mathlib.Data.Fintype.Card
import Mathlib.Data.String.Basic
import Mathlib.Logic.Relation
import PowerMonitor.History.Records

/-! The sensors of a history query and the circuits they measure.

A circuit inside another one is measured twice when both have sensors. A site total leaves out the inner one,
and all but the last of several sensors on one circuit; other scopes are refused or marked.
-/

set_option autoImplicit false
namespace PowerMonitor.History
open Library Relation

structure Circuit where
  id : String
  parentId : Option String := none
  deriving DecidableEq, Repr

/-- Identifiers are never empty. -/
structure ScopeDevice where
  id : String
  circuitId : Option String := none
  deriving DecidableEq, Repr

section Circuits
variable (circuits : List Circuit)

/-- `circuits.get(id)` -/
def getCircuit (id : String) : Option Circuit := circuits.find? fun circuit => circuit.id = id

/-- Circuits that no walk has come to yet. -/
def unvisited (visited : List String) : List Circuit := circuits.filter fun circuit => circuit.id ∉ visited

theorem unvisited_lt {visited : List String} {id : String} {circuit : Circuit} (found : getCircuit circuits id = some circuit)
    (fresh : id ∉ visited) : (unvisited circuits (id :: visited)).length < (unvisited circuits visited).length := by
  have member := List.mem_of_find?_eq_some found
  have named : circuit.id = id := by simpa using List.find?_some found
  have within : unvisited circuits (id :: visited) = (unvisited circuits visited).filter fun other => other.id ≠ id := by
    rw [unvisited, unvisited, List.filter_filter]
    apply List.filter_congr
    intro other _
    simp [not_or, eq_comm]
  rw [within]
  refine List.length_filter_lt_length_iff_exists.mpr ⟨circuit, ?_, by simp [named]⟩
  exact List.mem_filter.mpr ⟨member, by simpa [named] using fresh⟩

/-- The walk up from a circuit; it stops at a circuit it has seen. -/
def climb (ancestor : String) (current : Option Circuit) (visited : List String) : Bool :=
  match current with
  | none => false
  | some circuit =>
      match circuit.parentId with
      | none => false
      | some parent =>
          if fresh : parent ∉ visited then
            if parent = ancestor then true
            else
              match found : getCircuit circuits parent with
              | none => false
              | some next =>
                  have := unvisited_lt circuits found fresh
                  climb ancestor (some next) (parent :: visited)
          else false
termination_by (unvisited circuits visited).length

/-- `_circuit_ancestor` -/
def circuitAncestor (childId possibleAncestor : Option String) : Bool :=
  match childId, possibleAncestor with
  | some child, some ancestor =>
      if child = ancestor then true else climb circuits ancestor (getCircuit circuits child) []
  | _, _ => false

def conflicting (left right : ScopeDevice) : Bool :=
  left.id = right.id ||
    (left.circuitId.isSome && right.circuitId.isSome &&
      (circuitAncestor circuits left.circuitId right.circuitId || circuitAncestor circuits right.circuitId left.circuitId))

/-- `_overlap_pairs` -/
def overlapPairs : List ScopeDevice → List (ScopeDevice × ScopeDevice)
  | [] => []
  | left :: rest => ((rest.filter (conflicting circuits left)).map fun right => (left, right)) ++ overlapPairs rest

/-- The sensor of a pair that a site total leaves out. -/
def excludedOf (pair : ScopeDevice × ScopeDevice) : String :=
  if circuitAncestor circuits pair.1.circuitId pair.2.circuitId then pair.1.id
  else if circuitAncestor circuits pair.2.circuitId pair.1.circuitId then pair.2.id
  else max pair.1.id pair.2.id

/-! ## The scope -/

structure ScopeWarning where
  code : String
  message : String
  deviceIds : List String
  deriving DecidableEq, Repr

structure ResolvedScope where
  devices : List ScopeDevice
  excludedDeviceIds : List String
  warnings : List ScopeWarning
  overlap : Bool
  deriving DecidableEq, Repr

structure ScopeProblem where
  problem : ProblemError
  warnings : List ScopeWarning

def sortedIds (ids : List String) : List String := sortByKey id ids.dedup

@[simp] theorem mem_sortedIds {ids : List String} {item : String} : item ∈ sortedIds ids ↔ item ∈ ids := by
  rw [sortedIds, mem_sortByKey, List.mem_dedup]

def warnIf (condition : Bool) (warning : ScopeWarning) (warnings : List ScopeWarning) : List ScopeWarning :=
  if condition then warnings ++ [warning] else warnings

def exclusionWarning (excluded : List String) : ScopeWarning :=
  ⟨"topology_items_excluded", "Overlapping child or duplicate sensors were excluded from the site total.", excluded⟩

def incompleteWarning (unassigned : List ScopeDevice) : ScopeWarning :=
  ⟨"topology_incomplete", "One or more sensors have no circuit assignment; overlap cannot be fully verified.",
    unassigned.map ScopeDevice.id⟩

def overlapWarning (conflicts : List (ScopeDevice × ScopeDevice)) : ScopeWarning :=
  ⟨"topology_overlap", "Selected parent, child, or duplicate circuit measurements overlap.",
    sortedIds (conflicts.flatMap fun pair => [pair.1.id, pair.2.id])⟩

/-- `resolve_history_scope` from the selected devices on. -/
def resolveTopology (siteScope : Bool) (displayMode : DisplayMode) (devices : List ScopeDevice)
    (warnings : List ScopeWarning) : Except ScopeProblem ResolvedScope :=
  let found := overlapPairs circuits devices
  let exclusion := siteScope && !found.isEmpty
  let excluded := if exclusion then sortedIds (found.map (excludedOf circuits)) else []
  let kept := devices.filter fun device => device.id ∉ excluded
  let conflicts := overlapPairs circuits kept
  let unassigned := kept.filter fun device => device.circuitId.isNone
  let warned := warnIf (!conflicts.isEmpty) (overlapWarning conflicts) <|
    warnIf (!unassigned.isEmpty) (incompleteWarning unassigned) <|
    warnIf exclusion (exclusionWarning excluded) warnings
  if conflicts ≠ [] ∧ displayMode ≠ .individual then
    .error ⟨⟨422, "Overlapping history selection",
      "Combined totals cannot include parent/child or duplicate circuit measurements", "history_topology_overlap", [], []⟩,
      warned⟩
  else .ok ⟨kept, excluded, warned, !conflicts.isEmpty⟩

/-! ## Ancestors -/

/-- The circuit map has the second circuit as the parent of the first. -/
def ParentOf (child parent : String) : Prop := ∃ circuit, getCircuit circuits child = some circuit ∧ circuit.parentId = some parent

def Acyclic : Prop := ∀ id, ¬ TransGen (ParentOf circuits) id id

/-- The first circuit lies in the second, or is the second. -/
def Within (inner outer : String) : Prop := inner = outer ∨ TransGen (ParentOf circuits) inner outer

/-- The two sensors measure a common load: their circuits are equal or one is an ancestor of the other. -/
def Overlap (left right : ScopeDevice) : Prop :=
  ∃ first ∈ left.circuitId, ∃ second ∈ right.circuitId, Within circuits first second ∨ Within circuits second first

/-- The first sensor's load is measured by the second too. -/
def MeasuredBy (inner outer : ScopeDevice) : Prop :=
  ∃ first ∈ inner.circuitId, ∃ second ∈ outer.circuitId, Within circuits first second

end Circuits

section Ancestors
variable {circuits : List Circuit}

theorem ParentOf.unique {child parent other : String} (first : ParentOf circuits child parent)
    (second : ParentOf circuits child other) : parent = other := by
  obtain ⟨circuit, found, is⟩ := first
  obtain ⟨_, again, is'⟩ := second
  cases found.symm.trans again
  exact Option.some.inj (is.symm.trans is')

/-- Above a circuit there is its parent, and what is above its parent. -/
theorem transGen_parent_iff {child parent ancestor : String} (step : ParentOf circuits child parent) :
    TransGen (ParentOf circuits) child ancestor ↔ parent = ancestor ∨ TransGen (ParentOf circuits) parent ancestor := by
  constructor
  · intro above
    obtain ⟨next, first, rest⟩ := TransGen.head'_iff.mp above
    obtain rfl := step.unique first
    exact reflTransGen_iff_eq_or_transGen.mp rest |>.imp_left Eq.symm
  · rintro (rfl | above)
    · exact .single step
    · exact .head step above

/-- The walk finds what is above the circuit: it never comes back to one it has seen. -/
theorem climb_iff (acyclic : Acyclic circuits) {ancestor child : String} {visited : List String}
    (passed : ∀ id ∈ visited, ReflTransGen (ParentOf circuits) id child) :
    climb circuits ancestor (getCircuit circuits child) visited = true ↔ TransGen (ParentOf circuits) child ancestor := by
  induction fewer : (unvisited circuits visited).length using Nat.strong_induction_on generalizing child visited with
  | _ count ih =>
      have stop (missing : ∀ parent, ¬ ParentOf circuits child parent) :
          ¬ TransGen (ParentOf circuits) child ancestor := by
        intro above
        obtain ⟨next, first, _⟩ := TransGen.head'_iff.mp above
        exact missing next first
      cases here : getCircuit circuits child with
      | none =>
          rw [climb]
          refine iff_of_false Bool.false_ne_true (stop ?_)
          rintro parent ⟨circuit, found, -⟩
          simp [here] at found
      | some circuit =>
          rw [climb]
          cases up : circuit.parentId with
          | none =>
              refine iff_of_false Bool.false_ne_true (stop ?_)
              rintro parent ⟨other, found, is⟩
              cases here.symm.trans found
              simp [up] at is
          | some parent =>
              have step : ParentOf circuits child parent := ⟨circuit, here, up⟩
              have fresh : parent ∉ visited := by
                intro seen
                exact acyclic child (TransGen.head' step (passed parent seen))
              rw [transGen_parent_iff step]
              dsimp only
              rw [dif_pos fresh]
              by_cases same : parent = ancestor
              · simp [same]
              · rw [if_neg same, or_iff_right same]
                have later : ∀ id ∈ parent :: visited, ReflTransGen (ParentOf circuits) id parent := by
                  intro id member
                  cases List.mem_cons.mp member with
                  | inl first => exact first ▸ .refl
                  | inr seen => exact (passed id seen).tail step
                split
                · rename_i missing
                  refine iff_of_false Bool.false_ne_true ?_
                  intro above
                  obtain ⟨next, ⟨other, found, -⟩, _⟩ := TransGen.head'_iff.mp above
                  simp [missing] at found
                · rename_i next found
                  rw [← found]
                  exact ih _ (fewer ▸ unvisited_lt circuits found fresh) later rfl

theorem circuitAncestor_iff (acyclic : Acyclic circuits) {childId possibleAncestor : Option String} :
    circuitAncestor circuits childId possibleAncestor = true ↔
      ∃ child ∈ childId, ∃ ancestor ∈ possibleAncestor, Within circuits child ancestor := by
  cases childId with
  | none => simp [circuitAncestor]
  | some child =>
      cases possibleAncestor with
      | none => simp [circuitAncestor]
      | some ancestor =>
          simp only [circuitAncestor, Option.mem_def, Option.some.injEq, exists_eq_left', Within]
          split
          · rename_i same
            simp [same]
          · rename_i differs
            rw [climb_iff acyclic (by simp), or_iff_right differs]

/-- Two circuits of an acyclic map cannot lie in each other. -/
theorem not_within_of_above (acyclic : Acyclic circuits) {inner outer : String}
    (above : TransGen (ParentOf circuits) inner outer) : ¬ Within circuits outer inner := by
  rintro (rfl | back)
  · exact acyclic _ above
  · exact acyclic _ (above.trans back)

theorem conflicting_iff (acyclic : Acyclic circuits) {left right : ScopeDevice} (differs : left.id ≠ right.id) :
    conflicting circuits left right = true ↔ Overlap circuits left right := by
  simp only [conflicting, differs, decide_false, Bool.false_or, Bool.and_eq_true, Bool.or_eq_true,
    circuitAncestor_iff acyclic, Overlap]
  constructor
  · rintro ⟨-, ⟨first, isFirst, second, isSecond, within⟩ | ⟨second, isSecond, first, isFirst, within⟩⟩
    · exact ⟨first, isFirst, second, isSecond, .inl within⟩
    · exact ⟨first, isFirst, second, isSecond, .inr within⟩
  · rintro ⟨first, isFirst, second, isSecond, within⟩
    refine ⟨⟨Option.isSome_of_mem isFirst, Option.isSome_of_mem isSecond⟩, within.imp ?_ ?_⟩
    · exact fun inside => ⟨first, isFirst, second, isSecond, inside⟩
    · exact fun inside => ⟨second, isSecond, first, isFirst, inside⟩

end Ancestors

/-! ## What a site total keeps -/

section Exclusion
variable {circuits : List Circuit} {devices : List ScopeDevice}

theorem mem_overlapPairs {pair : ScopeDevice × ScopeDevice} : pair ∈ overlapPairs circuits devices ↔
    ∃ left right : Fin devices.length, left < right ∧ pair = (devices.get left, devices.get right) ∧
      conflicting circuits (devices.get left) (devices.get right) = true := by
  induction devices with
  | nil => simp [overlapPairs]
  | cons head rest ih =>
      rw [overlapPairs, List.mem_append, ih]
      constructor
      · rintro (here | ⟨left, right, ordered, rfl, conflict⟩)
        · obtain ⟨other, found, rfl⟩ := List.mem_map.mp here
          obtain ⟨member, conflict⟩ := List.mem_filter.mp found
          obtain ⟨place, rfl⟩ := List.mem_iff_get.mp member
          exact ⟨0, place.succ, Fin.succ_pos place, rfl, conflict⟩
        · exact ⟨left.succ, right.succ, Fin.succ_lt_succ_iff.mpr ordered, rfl, conflict⟩
      · rintro ⟨left, right, ordered, rfl, conflict⟩
        obtain ⟨place, rfl⟩ := Fin.exists_succ_eq.mpr (Fin.ne_zero_of_lt ordered)
        cases left using Fin.cases with
        | zero =>
            exact .inl (List.mem_map.mpr ⟨_, List.mem_filter.mpr ⟨List.get_mem rest place, conflict⟩, rfl⟩)
        | succ left => exact .inr ⟨left, place, Fin.succ_lt_succ_iff.mp ordered, rfl, conflict⟩

variable (circuits devices) in
/-- The second sensor makes the first one superfluous: it is on a circuit around the first one's, or later on the
same circuit. -/
def Supersedes (inner outer : Fin devices.length) : Prop :=
  ∃ first ∈ (devices.get inner).circuitId, ∃ second ∈ (devices.get outer).circuitId,
    TransGen (ParentOf circuits) first second ∨ (first = second ∧ inner < outer)

theorem Supersedes.trans {first second third : Fin devices.length} (left : Supersedes circuits devices first second)
    (right : Supersedes circuits devices second third) : Supersedes circuits devices first third := by
  obtain ⟨inner, isInner, middle, isMiddle, below⟩ := left
  obtain ⟨again, isAgain, outer, isOuter, above⟩ := right
  obtain rfl : middle = again := Option.some.inj (isMiddle.symm.trans isAgain)
  refine ⟨inner, isInner, outer, isOuter, ?_⟩
  rcases below with up | ⟨rfl, before⟩
  · rcases above with further | ⟨rfl, -⟩
    · exact .inl (up.trans further)
    · exact .inl up
  · exact above.imp_right fun same => ⟨same.1, before.trans same.2⟩

theorem Supersedes.measuredBy {inner outer : Fin devices.length} (above : Supersedes circuits devices inner outer) :
    MeasuredBy circuits (devices.get inner) (devices.get outer) := by
  obtain ⟨first, isFirst, second, isSecond, up⟩ := above
  exact ⟨first, isFirst, second, isSecond, up.symm.imp And.left id⟩

theorem supersedes_of_overlap {left right : Fin devices.length} (ordered : left < right)
    (overlap : Overlap circuits (devices.get left) (devices.get right)) :
    Supersedes circuits devices left right ∨ Supersedes circuits devices right left := by
  obtain ⟨first, isFirst, second, isSecond, (same | up) | (same | up)⟩ := overlap
  · exact .inl ⟨first, isFirst, second, isSecond, .inr ⟨same, ordered⟩⟩
  · exact .inl ⟨first, isFirst, second, isSecond, .inl up⟩
  · exact .inl ⟨first, isFirst, second, isSecond, .inr ⟨same.symm, ordered⟩⟩
  · exact .inr ⟨second, isSecond, first, isFirst, .inl up⟩

variable (acyclic : Acyclic circuits)
include acyclic

theorem Supersedes.irrefl (place : Fin devices.length) : ¬ Supersedes circuits devices place place := by
  rintro ⟨first, isFirst, second, isSecond, up | ⟨-, before⟩⟩
  · obtain rfl : first = second := Option.some.inj (isFirst.symm.trans isSecond)
    exact acyclic first up
  · exact lt_irrefl _ before

theorem supersedes_wellFounded : WellFounded fun outer inner => Supersedes circuits devices inner outer := by
  have trans : IsTrans (Fin devices.length) fun outer inner => Supersedes circuits devices inner outer :=
    ⟨fun _ _ _ first second => second.trans first⟩
  have irrefl : Std.Irrefl fun outer inner : Fin devices.length => Supersedes circuits devices inner outer :=
    ⟨fun place => Supersedes.irrefl acyclic place⟩
  exact Finite.wellFounded_of_trans_of_irrefl _

variable (distinct : (devices.map ScopeDevice.id).Nodup)
include distinct

omit acyclic in
theorem place_of_id {first second : Fin devices.length} (same : (devices.get first).id = (devices.get second).id) :
    first = second := by
  have injective := List.nodup_iff_injective_get.mp distinct
  have places : (⟨first.val, by simp⟩ : Fin (devices.map ScopeDevice.id).length) = ⟨second.val, by simp⟩ :=
    injective (by simpa using same)
  have values := congrArg Fin.val places
  exact Fin.ext values

/-- Exactly the sensors that another one supersedes are excluded. -/
theorem excluded_iff (place : Fin devices.length) :
    (devices.get place).id ∈ (overlapPairs circuits devices).map (excludedOf circuits) ↔
      ∃ outer, Supersedes circuits devices place outer := by
  have apart (left right : Fin devices.length) (ordered : left < right) :
      (devices.get left).id ≠ (devices.get right).id := fun same => ordered.ne (place_of_id distinct same)
  rw [List.mem_map]
  constructor
  · rintro ⟨_, member, chosen⟩
    obtain ⟨left, right, ordered, rfl, conflict⟩ := mem_overlapPairs.mp member
    have overlap := (conflicting_iff acyclic (apart left right ordered)).mp conflict
    unfold excludedOf at chosen
    split at chosen
    · -- The earlier one lies within the later one's circuit.
      rename_i inside
      obtain rfl := place_of_id distinct chosen
      obtain ⟨first, isFirst, second, isSecond, same | up⟩ := (circuitAncestor_iff acyclic).mp inside
      · exact ⟨right, first, isFirst, second, isSecond, .inr ⟨same, ordered⟩⟩
      · exact ⟨right, first, isFirst, second, isSecond, .inl up⟩
    · rename_i outside
      have above : Supersedes circuits devices right left := by
        rcases supersedes_of_overlap ordered overlap with ⟨first, isFirst, second, isSecond, up⟩ | above
        · exact absurd ((circuitAncestor_iff acyclic).mpr ⟨first, isFirst, second, isSecond, up.symm.imp And.left id⟩) outside
        · exact above
      rw [if_pos ((circuitAncestor_iff acyclic).mpr above.measuredBy)] at chosen
      obtain rfl := place_of_id distinct chosen
      exact ⟨left, above⟩
  · rintro ⟨outer, above⟩
    have within := (circuitAncestor_iff acyclic).mpr above.measuredBy
    obtain ⟨first, isFirst, second, isSecond, up⟩ := above
    rcases lt_trichotomy place outer with before | rfl | after
    · refine ⟨_, mem_overlapPairs.mpr ⟨place, outer, before, rfl, ?_⟩, by rw [excludedOf, if_pos within]⟩
      exact (conflicting_iff acyclic (apart _ _ before)).mpr
        ⟨first, isFirst, second, isSecond, .inl (up.symm.imp And.left id)⟩
    · exact absurd ⟨first, isFirst, second, isSecond, up⟩ (Supersedes.irrefl acyclic place)
    · -- The later one is excluded only for lying strictly within the earlier one's circuit.
      have strictly : TransGen (ParentOf circuits) first second := up.resolve_right fun same => after.not_gt same.2
      have outside : ¬ circuitAncestor circuits (devices.get outer).circuitId (devices.get place).circuitId = true := by
        rw [circuitAncestor_iff acyclic]
        rintro ⟨second', isSecond', first', isFirst', back⟩
        obtain rfl : second = second' := Option.some.inj (isSecond.symm.trans isSecond')
        obtain rfl : first = first' := Option.some.inj (isFirst.symm.trans isFirst')
        exact not_within_of_above acyclic strictly back
      refine ⟨_, mem_overlapPairs.mpr ⟨outer, place, after, rfl, ?_⟩, by rw [excludedOf, if_neg outside, if_pos within]⟩
      exact (conflicting_iff acyclic (apart _ _ after)).mpr ⟨second, isSecond, first, isFirst, .inr (.inr strictly)⟩

omit distinct in
/-- Every sensor is kept, or superseded by one that is. -/
theorem exists_kept (place : Fin devices.length) :
    (¬ ∃ outer, Supersedes circuits devices place outer) ∨
      ∃ outer, Supersedes circuits devices place outer ∧ ¬ ∃ next, Supersedes circuits devices outer next := by
  induction place using (supersedes_wellFounded acyclic).induction with
  | _ place ih =>
      by_cases excluded : ∃ outer, Supersedes circuits devices place outer
      · obtain ⟨outer, above⟩ := excluded
        rcases ih outer above with kept | ⟨next, further, kept⟩
        · exact .inr ⟨outer, above, kept⟩
        · exact .inr ⟨next, above.trans further, kept⟩
      · exact .inl excluded

end Exclusion

section Site
variable {circuits : List Circuit} {devices : List ScopeDevice}

variable (circuits devices) in
/-- The sensors of a site total. -/
def siteDevices : List ScopeDevice :=
  devices.filter fun device => device.id ∉ (overlapPairs circuits devices).map (excludedOf circuits)

variable (acyclic : Acyclic circuits) (distinct : (devices.map ScopeDevice.id).Nodup)
include acyclic distinct

theorem get_mem_siteDevices (place : Fin devices.length) :
    devices.get place ∈ siteDevices circuits devices ↔ ¬ ∃ outer, Supersedes circuits devices place outer := by
  rw [siteDevices, List.mem_filter, and_iff_right (List.get_mem devices place), decide_eq_true_eq,
    excluded_iff acyclic distinct]

theorem siteDevices_apart {first second : ScopeDevice} (firstKept : first ∈ siteDevices circuits devices)
    (secondKept : second ∈ siteDevices circuits devices) (differs : first ≠ second) : ¬ Overlap circuits first second := by
  obtain ⟨left, rfl⟩ := List.mem_iff_get.mp (List.mem_of_mem_filter firstKept)
  obtain ⟨right, rfl⟩ := List.mem_iff_get.mp (List.mem_of_mem_filter secondKept)
  rw [get_mem_siteDevices acyclic distinct] at firstKept secondKept
  intro overlap
  rcases lt_trichotomy left right with before | same | after
  · exact (supersedes_of_overlap before overlap).elim (fun above => firstKept ⟨_, above⟩) fun above => secondKept ⟨_, above⟩
  · exact differs (congrArg devices.get same)
  · have swapped : Overlap circuits (devices.get right) (devices.get left) := by
      obtain ⟨inner, isInner, outer, isOuter, within⟩ := overlap
      exact ⟨outer, isOuter, inner, isInner, within.symm⟩
    exact (supersedes_of_overlap after swapped).elim (fun above => secondKept ⟨_, above⟩) fun above => firstKept ⟨_, above⟩

theorem siteDevices_cover {device : ScopeDevice} (member : device ∈ devices)
    (excluded : device ∉ siteDevices circuits devices) :
    ∃ kept ∈ siteDevices circuits devices, MeasuredBy circuits device kept := by
  obtain ⟨place, rfl⟩ := List.mem_iff_get.mp member
  rw [get_mem_siteDevices acyclic distinct] at excluded
  obtain ⟨outer, above, kept⟩ := (exists_kept acyclic place).resolve_left excluded
  exact ⟨_, (get_mem_siteDevices acyclic distinct outer).mpr kept, above.measuredBy⟩

theorem overlapPairs_siteDevices : overlapPairs circuits (siteDevices circuits devices) = [] := by
  have keptDistinct : ((siteDevices circuits devices).map ScopeDevice.id).Nodup :=
    distinct.sublist (List.filter_sublist.map _)
  rw [List.eq_nil_iff_forall_not_mem]
  intro pair member
  obtain ⟨left, right, ordered, -, conflict⟩ := mem_overlapPairs.mp member
  have ids : ((siteDevices circuits devices).get left).id ≠ ((siteDevices circuits devices).get right).id :=
    fun same => ordered.ne (place_of_id keptDistinct same)
  exact siteDevices_apart acyclic distinct (List.get_mem _ _) (List.get_mem _ _) (fun same => ids (congrArg _ same))
    ((conflicting_iff acyclic ids).mp conflict)

theorem resolveTopology_site (displayMode : DisplayMode) (warnings : List ScopeWarning) :
    ∃ resolved, resolveTopology circuits true displayMode devices warnings = .ok resolved ∧
      resolved.devices = siteDevices circuits devices := by
  have same : (devices.filter fun device => device.id ∉
      if (true && !(overlapPairs circuits devices).isEmpty) = true then
        sortedIds ((overlapPairs circuits devices).map (excludedOf circuits)) else []) = siteDevices circuits devices := by
    apply List.filter_congr
    intro device _
    cases shape : overlapPairs circuits devices <;> simp
  unfold resolveTopology
  dsimp only
  rw [same, if_neg fun failed => failed.1 (overlapPairs_siteDevices acyclic distinct)]
  exact ⟨_, rfl, rfl⟩

end Site

/-- A site total takes no load twice and drops none: of the sensors it keeps no two overlap, and each it leaves
out is on the circuit of one it keeps, or inside it. -/
theorem site_total_resolved {circuits : List Circuit} (acyclic : Acyclic circuits) {devices : List ScopeDevice}
    (distinct : (devices.map ScopeDevice.id).Nodup) (displayMode : DisplayMode) (warnings : List ScopeWarning) :
    ∃ resolved, resolveTopology circuits true displayMode devices warnings = .ok resolved ∧
      (∀ first ∈ resolved.devices, ∀ second ∈ resolved.devices, first ≠ second → ¬ Overlap circuits first second) ∧
      ∀ device ∈ devices, device ∉ resolved.devices → ∃ kept ∈ resolved.devices, MeasuredBy circuits device kept := by
  obtain ⟨resolved, done, same⟩ := resolveTopology_site acyclic distinct displayMode warnings
  refine ⟨resolved, done, ?_, ?_⟩ <;> rw [same]
  · exact fun first firstKept second secondKept differs => siteDevices_apart acyclic distinct firstKept secondKept differs
  · exact fun device member excluded => siteDevices_cover acyclic distinct member excluded

/-- A panel with a branch, and a sensor on each, and a second one on the panel. -/
theorem panel_and_branch_resolved :
    let circuits : List Circuit := [⟨"main", none⟩, ⟨"branch", some "main"⟩]
    let devices : List ScopeDevice := [⟨"a", some "branch"⟩, ⟨"b", some "main"⟩, ⟨"c", some "main"⟩]
    ∃ resolved, resolveTopology circuits true .combined devices [] = .ok resolved ∧
      (∀ first ∈ resolved.devices, ∀ second ∈ resolved.devices, first ≠ second → ¬ Overlap circuits first second) ∧
      ∀ device ∈ devices, device ∉ resolved.devices → ∃ kept ∈ resolved.devices, MeasuredBy circuits device kept := by
  refine site_total_resolved ?_ (by decide) .combined []
  -- Only the branch has a parent, and the parent has none.
  have steps : ∀ child parent, ParentOf [⟨"main", none⟩, ⟨"branch", some "main"⟩] child parent →
      child = "branch" ∧ parent = "main" := by
    rintro child parent ⟨circuit, found, up⟩
    have member := List.mem_of_find?_eq_some found
    have named : circuit.id = child := by simpa using List.find?_some found
    rcases List.mem_cons.mp member with rfl | member
    · cases up
    · obtain rfl := List.mem_singleton.mp member
      exact ⟨named.symm, (Option.some.inj up).symm⟩
  intro id above
  obtain ⟨_, first, _⟩ := TransGen.head'_iff.mp above
  obtain ⟨_, _, last⟩ := TransGen.tail'_iff.mp above
  have start := (steps _ _ first).1
  have finish := (steps _ _ last).2
  rw [start] at finish
  exact absurd finish (by decide)

end PowerMonitor.History
