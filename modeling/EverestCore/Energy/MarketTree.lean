import EverestCore.Energy.Market
import Mathlib.Algebra.BigOperators.Group.List.Basic

/-! The market places of a request tree, which refer to their parents by
address. A market place is built inside the vector of its parent, and moves
when that vector grows: its own children then refer to where it was. -/
namespace EverestCore.Energy
open Data Machine

/-- A reference to a market place: to the place itself, or to memory that it (or
a copy of it) no longer occupies. -/
inductive MarketRef where
  | live (place : Place)
  | dangling (place : Place)
  deriving DecidableEq, Repr

/-- The storage of a vector: its capacity, and how often it has been replaced. -/
structure Storage where
  capacity : ℕ := 0
  generation : ℕ := 0
  deriving DecidableEq, Repr

/-- What was sold at every market place, in every slot. -/
abbrev Ledger (g : Globals) := Place → Slot g → ScheduleResEntry

def emptyLedger (g : Globals) : Ledger g := fun _ => emptyScheduleRes g

/-- `schedule_add` in one slot. -/
def addLimits (a b : ScheduleResEntry) : ScheduleResEntry :=
  { a with limitsToRoot := {
      acMaxCurrentA := match b.limitsToRoot.acMaxCurrentA with
        | some ampere => some (ampere + a.limitsToRoot.acMaxCurrentA.getD 0)
        | none => a.limitsToRoot.acMaxCurrentA
      totalPowerW := match b.limitsToRoot.totalPowerW with
        | some watt => some (watt + a.limitsToRoot.totalPowerW.getD 0)
        | none => a.limitsToRoot.totalPowerW
      acMaxPhaseCount := match b.limitsToRoot.acMaxPhaseCount, a.limitsToRoot.acMaxPhaseCount with
        | some new, some old => if new > old then some new else some old
        | _, old => old } }

/-- `schedule_add`. A phase count cannot be added where there was none: the absent
value is assigned to as if it were there, which throws. -/
def scheduleAdd {g : Globals} (a b : Slot g → ScheduleResEntry) :
    Option (Slot g → ScheduleResEntry) :=
  if ∃ i, (b i).limitsToRoot.acMaxPhaseCount.isSome ∧
      (a i).limitsToRoot.acMaxPhaseCount.isNone then none
  else some fun i => addLimits (a i) (b i)

mutual

/-- The overload of `get_list_of_evses` that adds to a list. It walks through
copies of the children, which are gone when it returns. -/
def collectEvses (isLive : Bool) (place : Place) : EnergyFlowRequest → List MarketRef
  | .node value children =>
      (if value.nodeType = .evse then [if isLive then .live place else .dangling place] else []) ++
        collectFromCopies place 0 children

def collectFromCopies (place : Place) (i : ℕ) : List EnergyFlowRequest → List MarketRef
  | [] => []
  | child :: rest => collectEvses false (i :: place) child ++ collectFromCopies place (i + 1) rest

end

/-- `Market::get_list_of_evses` at the root, which walks through the children
themselves. -/
def getListOfEvses (request : EnergyFlowRequest) : List MarketRef :=
  (if request.value.nodeType = .evse then [.live []] else []) ++
    request.children.zipIdx.flatMap fun (child, i) => collectEvses true [i] child

section Memory

/-! The capacity that a full vector gets is chosen by the implementation of the
standard library. -/
variable (grow : ℕ → ℕ)

/-- The storage of a vector after so many elements have been added one by one. -/
def storageAfter : ℕ → Storage
  | 0 => {}
  | size + 1 =>
      let s := storageAfter size
      if size = s.capacity then ⟨grow s.capacity, s.generation + 1⟩ else s

/-- A child has been moved since it was built, as one of `count`. -/
def relocated (count child : ℕ) : Bool :=
  (storageAfter grow (child + 1)).generation ≠ (storageAfter grow count).generation

def childCount (request : EnergyFlowRequest) (place : Place) : ℕ :=
  ((request.subtree? place).map fun above => above.children.length).getD 0

/-- `Market::parent`: the address that the parent had when the child was built.
The root does not move. -/
def parent (request : EnergyFlowRequest) : Place → Option MarketRef
  | [] => none
  | [_] => some (.live [])
  | _ :: child :: place =>
      some (if relocated grow (childCount request place) child then .dangling (child :: place)
        else .live (child :: place))

/-- `Market::trade`. There is no result if a reference on the way is stale. -/
def trade {g : Globals} (request : EnergyFlowRequest) (traded : Slot g → ScheduleResEntry) :
    Place → Ledger g → Option (Ledger g)
  | [], sold => do
      let root ← scheduleAdd (sold []) traded
      return Function.update sold [] root
  | i :: place, sold => do
      let here ← scheduleAdd (sold (i :: place)) traded
      match parent grow request (i :: place) with
      | some (.live _) => trade request traded place (Function.update sold (i :: place) here)
      | _ => none

/-- A schedule as brokers trade it: without a number of phases. -/
def NoPhaseCount {g : Globals} (traded : Slot g → ScheduleResEntry) : Prop :=
  ∀ i, (traded i).limitsToRoot.acMaxPhaseCount = none

/-- A trade is booked at its place and at all places above. -/
def book {g : Globals} (traded : Slot g → ScheduleResEntry) (place : Place) (sold : Ledger g) :
    Ledger g :=
  fun above => if above <:+ place then fun i => addLimits (sold above i) (traded i)
    else sold above

/-- Without a phase count, sold schedules are added entry by entry, and the addition never throws.
-/
theorem scheduleAdd_of_noPhaseCount {g : Globals} (a : Slot g → ScheduleResEntry)
    {b : Slot g → ScheduleResEntry} (hPhases : NoPhaseCount b) :
    scheduleAdd a b = some fun i => addLimits (a i) (b i) := by
  rw [scheduleAdd]
  rw [if_neg]
  rintro ⟨i, hSome, -⟩
  simp [hPhases i] at hSome

/-- At the root the way up ends. -/
theorem book_nil {g : Globals} (traded : Slot g → ScheduleResEntry) (sold : Ledger g) :
    book traded [] sold =
      Function.update sold [] fun i => addLimits (sold [] i) (traded i) := by
  funext above
  by_cases hRoot : above = []
  · subst hRoot
    simp [book]
  · simp [book, hRoot]

/-- A sale is entered here, and then at all market places above. -/
theorem book_cons {g : Globals} (traded : Slot g → ScheduleResEntry) (j : ℕ) (place : Place)
    (sold : Ledger g) :
    book traded (j :: place) sold = book traded place
      (Function.update sold (j :: place) fun i => addLimits (sold (j :: place) i) (traded i)) := by
  funext above
  by_cases hHere : above = j :: place
  · subst hHere
    have hShort : ¬ j :: place <:+ place := fun h => absurd h.length_le (by simp)
    simp [book, hShort]
  · simp [book, List.suffix_cons_iff, hHere]

/-- Whenever a trade is defined, it is booked along the real tree. -/
theorem trade_eq_book {g : Globals} {request : EnergyFlowRequest}
    {traded : Slot g → ScheduleResEntry} (hPhases : NoPhaseCount traded) {place : Place}
    {sold next : Ledger g} (hTrade : trade grow request traded place sold = some next) :
    next = book traded place sold := by
  induction place generalizing sold with
  | nil =>
      rw [trade, scheduleAdd_of_noPhaseCount _ hPhases] at hTrade
      rw [book_nil]
      exact (Option.some.inj hTrade).symm
  | cons j place ih =>
      rw [trade, scheduleAdd_of_noPhaseCount _ hPhases] at hTrade
      simp only [Option.bind_eq_bind, Option.bind_some] at hTrade
      split at hTrade
      · rw [book_cons]
        exact ih hTrade
      · cases hTrade

/-- A trade is defined if every reference on the way to the root is live. -/
theorem trade_of_parents {g : Globals} {request : EnergyFlowRequest}
    {traded : Slot g → ScheduleResEntry} (hPhases : NoPhaseCount traded) {place : Place}
    (hParents : ∀ j above, j :: above <:+ place →
      parent grow request (j :: above) = some (.live above)) (sold : Ledger g) :
    trade grow request traded place sold = some (book traded place sold) := by
  induction place generalizing sold with
  | nil =>
      rw [trade, scheduleAdd_of_noPhaseCount _ hPhases, book_nil]
      rfl
  | cons j place ih =>
      have hParent := hParents j place (List.suffix_refl _)
      rw [trade, scheduleAdd_of_noPhaseCount _ hPhases, book_cons, hParent]
      exact ih (fun j above h => hParents j above (h.trans (List.suffix_cons _ _))) _

/-! What was sold, as a plain number: where nothing is entered, nothing was sold. -/

def soldCurrent (sold : ScheduleResEntry) : ℚ := sold.limitsToRoot.acMaxCurrentA.getD 0

def soldPower (sold : ScheduleResEntry) : ℚ := sold.limitsToRoot.totalPowerW.getD 0

@[simp] theorem soldCurrent_addLimits (a b : ScheduleResEntry) :
    soldCurrent (addLimits a b) = soldCurrent a + soldCurrent b := by
  unfold soldCurrent addLimits
  cases b.limitsToRoot.acMaxCurrentA with
  | none => simp
  | some ampere => simp [add_comm]

@[simp] theorem soldPower_addLimits (a b : ScheduleResEntry) :
    soldPower (addLimits a b) = soldPower a + soldPower b := by
  unfold soldPower addLimits
  cases b.limitsToRoot.totalPowerW with
  | none => simp
  | some watt => simp [add_comm]

/-- A trade made at a place. -/
abbrev PlacedTrade (g : Globals) := Place × (Slot g → ScheduleResEntry)

/-- One trade after the other, beginning with a new market. -/
def tradeAll {g : Globals} (request : EnergyFlowRequest) (trades : List (PlacedTrade g)) :
    Option (Ledger g) :=
  run? (fun sold (t : PlacedTrade g) => trade grow request t.2 t.1 sold) (emptyLedger g) trades

/-- What trades at or below a place add up to. -/
def sumBelow {g : Globals} (amount : ScheduleResEntry → ℚ) (trades : List (PlacedTrade g))
    (place : Place) (i : Slot g) : ℚ :=
  ((trades.filter fun t => place <:+ t.1).map fun t => amount (t.2 i)).sum

/-- A further trade counts for the market places on its way to the root, and for no others. -/
theorem sumBelow_snoc {g : Globals} (amount : ScheduleResEntry → ℚ)
    (trades : List (PlacedTrade g)) (t : PlacedTrade g) (place : Place) (i : Slot g) :
    sumBelow amount (trades ++ [t]) place i =
      sumBelow amount trades place i + if place <:+ t.1 then amount (t.2 i) else 0 := by
  unfold sumBelow
  by_cases hBelow : place <:+ t.1 <;> simp [List.filter_append, hBelow]

/-- Every node sells what is traded at or below it. -/
structure Conserved {g : Globals} (trades : List (PlacedTrade g)) (sold : Ledger g) : Prop where
  current : ∀ place i, soldCurrent (sold place i) = sumBelow soldCurrent trades place i
  power : ∀ place i, soldPower (sold place i) = sumBelow soldPower trades place i

/-- Before the first trade every account is empty. -/
theorem conserved_nil (g : Globals) : Conserved [] (emptyLedger g) :=
  ⟨fun _ _ => rfl, fun _ _ => rfl⟩

/-- The accounts stay equal to the sums of the trades below them. -/
theorem conserved_book {g : Globals} {trades : List (PlacedTrade g)} {sold : Ledger g}
    (h : Conserved trades sold) (t : PlacedTrade g) :
    Conserved (trades ++ [t]) (book t.2 t.1 sold) := by
  constructor
  · intro place i
    rw [sumBelow_snoc, ← h.current, book]
    split_ifs <;> simp
  · intro place i
    rw [sumBelow_snoc, ← h.power, book]
    split_ifs <;> simp

/-- The parent reference of every node is its parent. -/
def ParentsLive (request : EnergyFlowRequest) : Prop :=
  ∀ i place, (request.subtree? (i :: place)).isSome →
    parent grow request (i :: place) = some (.live place)

/-- On the way from a place to the root every parent reference is the parent. -/
def WayLive (request : EnergyFlowRequest) (place : Place) : Prop :=
  ∀ j above, j :: above <:+ place → parent grow request (j :: above) = some (.live above)

/-- If all references are live, so is every way to the root. -/
theorem ParentsLive.wayLive {request : EnergyFlowRequest} (hParents : ParentsLive grow request)
    {place : Place} (hPlace : (request.subtree? place).isSome) : WayLive grow request place :=
  fun j above hWay => hParents j above (RoseTree.subtree?_isSome_of_suffix hWay hPlace)

/-- Trades of any number are all defined, and conserve what was sold. The induction is on the
trades. -/
theorem tradeAll_of_parentsLive {g : Globals} {request : EnergyFlowRequest}
    (hParents : ParentsLive grow request) (trades : List (PlacedTrade g))
    (hTrades : ∀ t ∈ trades, (request.subtree? t.1).isSome ∧ NoPhaseCount t.2) :
    ∃ sold, tradeAll grow request trades = some sold ∧ Conserved trades sold := by
  induction trades using List.reverseRecOn with
  | nil => exact ⟨_, rfl, conserved_nil g⟩
  | append_singleton trades t ih =>
      obtain ⟨sold, hSold, hConserved⟩ := ih fun t' h => hTrades t' (by simp [h])
      obtain ⟨hPlace, hPhases⟩ := hTrades t (by simp)
      refine ⟨book t.2 t.1 sold, ?_, conserved_book hConserved t⟩
      exact (run?_snoc_eq_some _).mpr
        ⟨sold, hSold, trade_of_parents grow hPhases (hParents.wayLive grow hPlace) sold⟩

/-! When the references are live. -/

/-- One more child either fits into the vector or makes it grow. -/
theorem storageAfter_succ (size : ℕ) :
    storageAfter grow (size + 1) =
      if size = (storageAfter grow size).capacity then
        ⟨grow (storageAfter grow size).capacity, (storageAfter grow size).generation + 1⟩
      else storageAfter grow size := rfl

/-- The storage never goes back to an earlier generation. -/
theorem generation_mono {first second : ℕ} (h : first ≤ second) :
    (storageAfter grow first).generation ≤ (storageAfter grow second).generation := by
  induction second, h using Nat.le_induction with
  | base => exact le_rfl
  | succ size _ ih =>
      apply ih.trans
      rw [storageAfter_succ]
      split_ifs
      · exact Nat.le_succ _
      · exact le_rfl

/-- The vector is full before its last element is added, so that a child that was
added before moves. -/
def GrowsAfter (count child : ℕ) : Prop :=
  ∃ size, child < size ∧ size < count ∧ size = (storageAfter grow size).capacity

/-- A child has moved if the vector has grown after it was put in. -/
theorem relocated_iff {count child : ℕ} (hChild : child < count) :
    relocated grow count child = true ↔ GrowsAfter grow count child := by
  unfold relocated GrowsAfter
  rw [decide_eq_true_iff]
  induction count, hChild using Nat.le_induction with
  | base =>
      apply iff_of_false (by simp)
      rintro ⟨size, hAfter, hBefore, -⟩
      omega
  | succ count hChild ih =>
      have hMono : (storageAfter grow (child + 1)).generation ≤
          (storageAfter grow count).generation := generation_mono grow hChild
      rw [storageAfter_succ grow count]
      split_ifs with hFull
      · refine iff_of_true ?_ ⟨count, hChild, Nat.lt_succ_self _, hFull⟩
        dsimp only
        omega
      · rw [ih]
        constructor
        · rintro ⟨size, hAfter, hBefore, hSize⟩
          exact ⟨size, hAfter, by omega, hSize⟩
        · rintro ⟨size, hAfter, hBefore, hSize⟩
          refine ⟨size, hAfter, ?_, hSize⟩
          rcases Nat.lt_succ_iff_lt_or_eq.mp hBefore with hLess | rfl
          · exact hLess
          · exact absurd hSize hFull

/-- The children of a market place are numbered without gaps. -/
theorem subtree?_cons_isSome_iff {request : EnergyFlowRequest} {i : ℕ} {place : Place} :
    (request.subtree? (i :: place)).isSome ↔ i < childCount request place := by
  rw [RoseTree.subtree?_cons, childCount]
  cases request.subtree? place with
  | none => simp
  | some above => simp

/-- The references are live exactly if no node with children moves. -/
theorem parentsLive_iff {request : EnergyFlowRequest} :
    ParentsLive grow request ↔
      ∀ child place, childCount request (child :: place) ≠ 0 →
        ¬ GrowsAfter grow (childCount request place) child := by
  have hInside {child : ℕ} {place : Place} (h : childCount request (child :: place) ≠ 0) :
      child < childCount request place := by
    rw [← subtree?_cons_isSome_iff]
    by_contra hNone
    simp [childCount, Option.not_isSome_iff_eq_none.mp hNone] at h
  constructor
  · intro h child place hChildren
    have hParent := h 0 (child :: place)
      (subtree?_cons_isSome_iff.mpr (Nat.pos_of_ne_zero hChildren))
    rw [← relocated_iff grow (hInside hChildren)]
    intro hMoved
    simp [parent, hMoved] at hParent
  · intro h i place hPlace
    cases place with
    | nil => rfl
    | cons child place =>
        have hChildren : childCount request (child :: place) ≠ 0 := by
          have := subtree?_cons_isSome_iff.mp hPlace
          omega
        have hStays := h child place hChildren
        rw [← relocated_iff grow (hInside hChildren)] at hStays
        rw [parent, if_neg hStays]

/-- The way from a place to the root is live exactly if no node on it moves, between the
place itself, to which nothing on the way refers, and the root, which stays. -/
theorem wayLive_iff {request : EnergyFlowRequest} {place : Place}
    (hPlace : (request.subtree? place).isSome) :
    WayLive grow request place ↔
      ∀ j child above, j :: child :: above <:+ place →
        ¬ GrowsAfter grow (childCount request above) child := by
  have hInside {j child : ℕ} {above : Place} (hWay : j :: child :: above <:+ place) :
      child < childCount request above :=
    subtree?_cons_isSome_iff.mp
      (RoseTree.subtree?_isSome_of_suffix ((List.suffix_cons j _).trans hWay) hPlace)
  constructor
  · intro hLive j child above hWay hMoved
    have hParent := hLive j (child :: above) hWay
    rw [← relocated_iff grow (hInside hWay)] at hMoved
    simp [parent, hMoved] at hParent
  · intro hStays j above hWay
    cases above with
    | nil => rfl
    | cons child above =>
        have hStay := hStays j child above hWay
        rw [← relocated_iff grow (hInside hWay)] at hStay
        rw [parent, if_neg hStay]

/-- A live parent reference is the parent. -/
theorem parent_eq_live {request : EnergyFlowRequest} {j : ℕ} {place above : Place}
    (h : parent grow request (j :: place) = some (.live above)) : above = place := by
  cases place with
  | nil =>
      cases h
      rfl
  | cons child place =>
      rw [parent] at h
      split_ifs at h
      · cases h
      · cases h
        rfl

/-- The way of a child is live if its own reference is, and the way of its parent. -/
theorem wayLive_cons_iff {request : EnergyFlowRequest} {j : ℕ} {place : Place} :
    WayLive grow request (j :: place) ↔
      parent grow request (j :: place) = some (.live place) ∧ WayLive grow request place := by
  constructor
  · intro hLive
    exact ⟨hLive j place List.suffix_rfl,
      fun j' above hWay => hLive j' above (hWay.trans (List.suffix_cons j place))⟩
  · rintro ⟨hParent, hRest⟩ j' above hWay
    rcases List.suffix_cons_iff.mp hWay with hHere | hWay
    · cases hHere
      exact hParent
    · exact hRest j' above hWay

/-- Nothing but the root is above a place of depth one. -/
theorem wayLive_of_length_le_one {request : EnergyFlowRequest} {place : Place}
    (hFlat : place.length ≤ 1) : WayLive grow request place := by
  intro j above hWay
  have hLength := hWay.length_le
  rw [List.length_cons] at hLength
  obtain rfl : above = [] := List.eq_nil_of_length_eq_zero (by omega)
  rfl

end Memory

/-- The reference that `get_list_of_evses` gives for an EVSE at a place. -/
def placeRef (place : Place) : MarketRef :=
  if place.length ≤ 1 then .live place else .dangling place

/-- The references to the EVSEs among the nodes of a walk. -/
def evseRefs (visits : List (Place × RequestNode)) : List MarketRef :=
  (visits.filter fun visit => visit.2.nodeType = .evse).map fun visit => placeRef visit.1

/-- The list of EVSEs is put together from parts of the walk. -/
theorem evseRefs_append (first second : List (Place × RequestNode)) :
    evseRefs (first ++ second) = evseRefs first ++ evseRefs second := by
  rw [evseRefs, List.filter_append, List.map_append]
  rfl

/-- Only EVSEs are listed. -/
theorem evseRefs_cons (place : Place) (node : RequestNode) (rest : List (Place × RequestNode)) :
    evseRefs ((place, node) :: rest) =
      (if node.nodeType = .evse then [placeRef place] else []) ++ evseRefs rest := by
  unfold evseRefs
  by_cases hEvse : node.nodeType = .evse <;> simp [hEvse]

/-- Two market places are never listed as the same one. -/
theorem placeRef_injective : Function.Injective placeRef := by
  intro first second h
  unfold placeRef at h
  split_ifs at h
  · exact MarketRef.live.inj h
  · exact MarketRef.dangling.inj h

/-- The loop over the copies as a single equation. -/
theorem collectFromCopies_eq (place : Place) (i : ℕ) (children : List EnergyFlowRequest) :
    collectFromCopies place i children =
      (children.zipIdx i).flatMap fun (child, j) => collectEvses false (j :: place) child := by
  induction children generalizing i with
  | nil => rfl
  | cons child rest ih => rw [collectFromCopies, ih, List.zipIdx_cons, List.flatMap_cons]

/-- The market place itself comes first, and then its children. -/
theorem collectEvses_node (isLive : Bool) (place : Place) (value : RequestNode)
    (children : List EnergyFlowRequest) :
    collectEvses isLive place (.node value children) =
      (if value.nodeType = .evse then [if isLive then .live place else .dangling place] else []) ++
        children.zipIdx.flatMap fun (child, i) => collectEvses false (i :: place) child := by
  rw [collectEvses, collectFromCopies_eq]

/-- If every child lists its EVSEs, all children together do. -/
theorem flatMap_eq_evseRefs (place : Place) {children : List EnergyFlowRequest}
    {collect : EnergyFlowRequest × ℕ → List MarketRef}
    (h : ∀ child ∈ children, ∀ i, collect (child, i) = evseRefs (child.walk (i :: place)))
    (first : ℕ) :
    (children.zipIdx first).flatMap collect =
      evseRefs ((children.zipIdx first).flatMap fun (child, i) => child.walk (i :: place)) := by
  induction children generalizing first with
  | nil => rfl
  | cons child rest ih =>
      rw [List.zipIdx_cons, List.flatMap_cons, List.flatMap_cons, evseRefs_append,
        h child (by simp), ih fun c hc => h c (by simp [hc])]

/-- Below the first level, the list is made from copies of the market places, whose references
dangle. The induction is on the tree. -/
theorem collectEvses_eq_evseRefs (request : EnergyFlowRequest) (place : Place) (isLive : Bool)
    (hPlace : place ≠ []) (hLive : isLive = decide (place.length ≤ 1)) :
    collectEvses isLive place request = evseRefs (request.walk place) := by
  induction request using RoseTree.induct generalizing place isLive with
  | hNode value children ih =>
      have hDeep (i : ℕ) : false = decide ((i :: place).length ≤ 1) := by
        have hLength := List.length_pos_iff.mpr hPlace
        rw [List.length_cons, eq_comm, decide_eq_false_iff_not]
        omega
      rw [collectEvses_node, RoseTree.walk_node, evseRefs_cons,
        flatMap_eq_evseRefs place fun child hChild i =>
          ih child hChild (i :: place) false (by simp) (hDeep i)]
      simp only [placeRef, hLive, decide_eq_true_eq]

/-- The whole list, from the root on. -/
theorem getListOfEvses_eq_evseRefs (request : EnergyFlowRequest) :
    getListOfEvses request = evseRefs (request.walk []) := by
  obtain ⟨value, children⟩ := request
  rw [getListOfEvses, RoseTree.walk_node, evseRefs_cons,
    flatMap_eq_evseRefs [] fun child _ i =>
      collectEvses_eq_evseRefs child [i] true (by simp) rfl]
  rfl

/-- The walk visits each place with its value. -/
theorem mem_walk_root {request : EnergyFlowRequest} {place : Place} {node : RequestNode} :
    (place, node) ∈ request.walk [] ↔ request.value? place = some node := by
  rw [RoseTree.mem_walk]
  constructor
  · rintro ⟨below, rfl, hNode⟩
    rwa [List.append_nil]
  · intro hNode
    exact ⟨place, by simp, hNode⟩

instance (grow : ℕ → ℕ) (request : EnergyFlowRequest) : Decidable (ParentsLive grow request) :=
  decidable_of_iff
    (∀ visit ∈ request.walk [], visit.1 = [] ∨
      parent grow request visit.1 = some (.live visit.1.tail)) <| by
    constructor
    · intro h i place hPlace
      obtain ⟨subtree, hSubtree⟩ := Option.isSome_iff_exists.mp hPlace
      have hNode : request.value? (i :: place) = some subtree.value := by
        rw [RoseTree.value?, hSubtree]
        rfl
      rcases h _ (mem_walk_root.mpr hNode) with hRoot | hParent
      · cases hRoot
      · exact hParent
    · rintro h ⟨place, node⟩ hVisit
      cases place with
      | nil => exact .inl rfl
      | cons i place =>
          right
          apply h
          have hNode := mem_walk_root.mp hVisit
          rw [RoseTree.value?] at hNode
          rw [← Option.isSome_map, hNode]
          rfl

/-- Exactly the EVSEs of the tree are listed. -/
theorem mem_getListOfEvses {request : EnergyFlowRequest} {ref : MarketRef} :
    ref ∈ getListOfEvses request ↔ ∃ place, IsEvse request place ∧ ref = placeRef place := by
  simp only [getListOfEvses_eq_evseRefs, evseRefs, List.mem_map, List.mem_filter,
    decide_eq_true_eq]
  constructor
  · rintro ⟨⟨place, node⟩, ⟨hWalk, hEvse⟩, rfl⟩
    exact ⟨place, ⟨node, mem_walk_root.mp hWalk, hEvse⟩, rfl⟩
  · rintro ⟨place, ⟨node, hNode, hEvse⟩, rfl⟩
    exact ⟨(place, node), ⟨mem_walk_root.mpr hNode, hEvse⟩, rfl⟩

/-- No reference is given twice. -/
theorem nodup_getListOfEvses (request : EnergyFlowRequest) : (getListOfEvses request).Nodup := by
  have hPlaces : (((request.walk []).filter fun visit => visit.2.nodeType = .evse).map
      Prod.fst).Nodup :=
    (RoseTree.nodup_walk [] request).sublist (List.filter_sublist.map _)
  have hRefs := hPlaces.map placeRef_injective
  rw [List.map_map] at hRefs
  rw [getListOfEvses_eq_evseRefs]
  exact hRefs

section Memory

variable (grow : ℕ → ℕ)

/-- The market on which the brokers trade is the request tree. -/
structure MarketIsTree (request : EnergyFlowRequest) : Prop where
  evse_listed_once : ∀ place, IsEvse request place →
    (getListOfEvses request).count (.live place) = 1
  listed_are_evses : ∀ ref ∈ getListOfEvses request, ∃ place, IsEvse request place ∧
    ref = .live place
  parents : ParentsLive grow request
  conserved : ∀ (g : Globals) (trades : List (PlacedTrade g)),
    (∀ t ∈ trades, IsEvse request t.1 ∧ NoPhaseCount t.2) →
      ∃ sold, tradeAll grow request trades = some sold ∧ Conserved trades sold

/-- The market is the request tree exactly if no EVSE is deeper than the children
of the root, and no node with children is moved by a later sibling. -/
theorem marketIsTree_iff (request : EnergyFlowRequest) :
    MarketIsTree grow request ↔
      (∀ place, IsEvse request place → place.length ≤ 1) ∧
      (∀ child place, childCount request (child :: place) ≠ 0 →
        ¬ GrowsAfter grow (childCount request place) child) := by
  constructor
  · intro h
    refine ⟨fun place hEvse => ?_, (parentsLive_iff grow).mp h.parents⟩
    obtain ⟨_, _, hRef⟩ := h.listed_are_evses _ (mem_getListOfEvses.mpr ⟨place, hEvse, rfl⟩)
    by_contra hDeep
    simp [placeRef, hDeep] at hRef
  · rintro ⟨hFlat, hStays⟩
    have hParents := (parentsLive_iff grow).mpr hStays
    refine ⟨fun place hEvse => ?_, fun ref hRef => ?_, hParents, fun g trades hTrades => ?_⟩
    · apply List.count_eq_one_of_mem (nodup_getListOfEvses request)
      exact mem_getListOfEvses.mpr ⟨place, hEvse, by simp [placeRef, hFlat place hEvse]⟩
    · obtain ⟨place, hEvse, rfl⟩ := mem_getListOfEvses.mp hRef
      exact ⟨place, hEvse, by simp [placeRef, hFlat place hEvse]⟩
    · refine tradeAll_of_parentsLive grow hParents trades fun t ht => ?_
      exact ⟨(hTrades t ht).1.subtree?_isSome, (hTrades t ht).2⟩

end Memory

/-- A full vector doubles its capacity. -/
def doubleCapacity (capacity : ℕ) : ℕ := if capacity = 0 then 1 else 2 * capacity

/-- An EVSE behind two fuses: the only reference to it is to a copy. -/
theorem marketIsTree_fails_at_depth_two :
    ¬ MarketIsTree doubleCapacity
      (.node { uuid := "grid", nodeType := .generic }
        [.node { uuid := "fuse", nodeType := .generic }
          [.node { uuid := "evse", nodeType := .evse } []]]) := by
  intro h
  have hOnce := h.evse_listed_once [0, 0] ⟨{ uuid := "evse", nodeType := .evse }, rfl, rfl⟩
  exact absurd hOnce (by decide)

end EverestCore.Energy
