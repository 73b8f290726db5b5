import EverestCore.Data.RoseTree
import EverestCore.Machine.Runs
import Mathlib.Algebra.BigOperators.Group.Finset.Basic
import Mathlib.Data.List.Pairwise
import Mathlib.Order.Basic

/-! Values that the nodes of a tree pass on to its root. A node keeps the trees that its
children have sent last, and sends them on together with what it tells of itself. The messages
of one node arrive in their order, those of different nodes in any order. -/
namespace EverestCore.Machine
open Data

universe u v

section Trees

variable {α : Type u}

/-- No node of the first tree is missing in the second one, or has gone back there. -/
def Older [Preorder α] (first second : RoseTree α) : Prop :=
  ∀ place v, first.value? place = some v → ∃ w, second.value? place = some w ∧ v ≤ w

/-- Every tree is as old as itself. -/
theorem Older.refl [Preorder α] (tree : RoseTree α) : Older tree tree :=
  fun _ v h => ⟨v, h, le_rfl⟩

/-- A tree that is older than an older one is older. -/
theorem Older.trans [Preorder α] {first second third : RoseTree α} (h : Older first second)
    (h' : Older second third) : Older first third := by
  intro place v hv
  obtain ⟨w, hw, hvw⟩ := h place v hv
  obtain ⟨x, hx, hwx⟩ := h' place w hw
  exact ⟨x, hx, hvw.trans hwx⟩

/-- What stands below a node stands in one of its children. -/
theorem value?_node_snoc (v : α) (children : List (RoseTree α)) (place : Place) (i : ℕ) :
    (RoseTree.node v children).value? (place ++ [i]) =
      children[i]?.bind fun child => child.value? place := by
  rw [RoseTree.value?, RoseTree.subtree?_snoc, RoseTree.children_node, Option.map_bind]
  rfl

/-- The places on the way to a node are there. -/
theorem value?_above {tree : RoseTree α} {j : ℕ} {q : Place} {v : α}
    (h : tree.value? (j :: q) = some v) : ∃ u, tree.value? q = some u := by
  rw [RoseTree.value?, RoseTree.subtree?_cons, Option.map_bind] at h
  obtain ⟨u, hu, -⟩ := Option.bind_eq_some_iff.mp h
  exact ⟨u.value, by rw [RoseTree.value?, hu]; rfl⟩

/-- A tree is older if its root and its children are. -/
theorem older_node [Preorder α] {v w : α} {children children' : List (RoseTree α)} (hValue : v ≤ w)
    (hChildren : ∀ (i : ℕ) c, children[i]? = some c → ∃ d, children'[i]? = some d ∧ Older c d) :
    Older (.node v children) (.node w children') := by
  intro place x hx
  rcases List.eq_nil_or_concat' place with rfl | ⟨below, i, rfl⟩
  · cases hx
    exact ⟨w, rfl, hValue⟩
  · rw [value?_node_snoc] at hx ⊢
    obtain ⟨c, hc, hBelow⟩ := Option.bind_eq_some_iff.mp hx
    obtain ⟨d, hd, hOlder⟩ := hChildren i c hc
    rw [hd]
    exact hOlder below x hBelow

/-- Every node of the tree is something that a place has said, below something that the place
above has said. -/
structure Authentic (tells : Place → α → Prop) (place : Place) (tree : RoseTree α) : Prop where
  root : tells place tree.value
  below : ∀ j q u v, tree.value? q = some u → tree.value? (j :: q) = some v →
    ∃ i p, tells p u ∧ tells (i :: p) v

/-- What is authentic stays so as more is told. -/
theorem Authentic.mono {tells tells' : Place → α → Prop} {place : Place} {tree : RoseTree α}
    (h : Authentic tells place tree) (hMono : ∀ p v, tells p v → tells' p v) :
    Authentic tells' place tree where
  root := hMono _ _ h.root
  below j q u v hu hv := by
    obtain ⟨i, p, hAbove, hBelow⟩ := h.below j q u v hu hv
    exact ⟨i, p, hMono _ _ hAbove, hMono _ _ hBelow⟩

/-- A tree is authentic if its root has been told by the place, and each child is the tree of a
place below. -/
theorem authentic_node {tells : Place → α → Prop} {place : Place} {v : α}
    {children : List (RoseTree α)} (hValue : tells place v)
    (hChildren : ∀ c ∈ children, ∃ i, Authentic tells (i :: place) c) :
    Authentic tells place (.node v children) where
  root := hValue
  below j q u w hu hw := by
    rcases List.eq_nil_or_concat' q with rfl | ⟨q, l, rfl⟩
    · cases hu
      rw [← List.nil_append [j], value?_node_snoc] at hw
      obtain ⟨c, hc, hw⟩ := Option.bind_eq_some_iff.mp hw
      obtain ⟨i, hChild⟩ := hChildren c (List.mem_of_getElem? hc)
      cases hw
      exact ⟨i, place, hValue, hChild.root⟩
    · rw [← List.cons_append, value?_node_snoc] at hw
      rw [value?_node_snoc] at hu
      obtain ⟨c, hc, hw⟩ := Option.bind_eq_some_iff.mp hw
      rw [hc, Option.bind_some] at hu
      obtain ⟨i, hChild⟩ := hChildren c (List.mem_of_getElem? hc)
      exact hChild.below j q u w hu hw

variable {K : Type v} (key : α → K)

/-- The children of every node have different keys. -/
def SiblingsDiffer (tree : RoseTree α) : Prop :=
  ∀ q j j' u v, tree.value? (j :: q) = some u → tree.value? (j' :: q) = some v →
    key u = key v → j = j'

/-- Siblings differ in a tree if the children do, and siblings differ in each of them. -/
theorem siblingsDiffer_node {v : α} {children : List (RoseTree α)}
    (hKeys : (children.map fun c => key c.value).Nodup)
    (hChildren : ∀ c ∈ children, SiblingsDiffer key c) :
    SiblingsDiffer key (.node v children) := by
  intro q j j' u w hu hw hKey
  rcases List.eq_nil_or_concat' q with rfl | ⟨q, l, rfl⟩
  · rw [← List.nil_append [j], value?_node_snoc] at hu
    rw [← List.nil_append [j'], value?_node_snoc] at hw
    obtain ⟨c, hc, hu⟩ := Option.bind_eq_some_iff.mp hu
    obtain ⟨d, hd, hw⟩ := Option.bind_eq_some_iff.mp hw
    cases hu
    cases hw
    obtain ⟨hj, hc⟩ := List.getElem?_eq_some_iff.mp hc
    obtain ⟨hj', hd⟩ := List.getElem?_eq_some_iff.mp hd
    have hMap {k : ℕ} (hk : k < children.length) :
        k < (children.map fun c => key c.value).length := by rwa [List.length_map]
    apply (@List.Nodup.getElem_inj_iff _ _ hKeys j (hMap hj) j' (hMap hj')).mp
    simpa [hc, hd] using hKey
  · rw [← List.cons_append, value?_node_snoc] at hu hw
    obtain ⟨c, hc, hu⟩ := Option.bind_eq_some_iff.mp hu
    rw [hc, Option.bind_some] at hw
    exact hChildren c (List.mem_of_getElem? hc) q j j' u w hu hw hKey

end Trees

section Upsert

variable {α : Type u} {K : Type v} [DecidableEq K] (key : α → K)

/-- A tree that arrives takes the place of those with its key, or is added behind. -/
def upsert (e : RoseTree α) (children : List (RoseTree α)) : List (RoseTree α) :=
  if ∃ c ∈ children, key c.value = key e.value then
    children.map fun c => if key c.value = key e.value then e else c
  else children ++ [e]

variable {key} {e : RoseTree α} {children : List (RoseTree α)}

/-- The children after a tree has arrived are that tree, and those with other keys. -/
theorem mem_upsert {c : RoseTree α} (h : c ∈ upsert key e children) :
    c = e ∨ c ∈ children ∧ key c.value ≠ key e.value := by
  unfold upsert at h
  split at h
  · obtain ⟨d, hd, rfl⟩ := List.mem_map.mp h
    split
    · exact .inl rfl
    · next hKey => exact .inr ⟨hd, hKey⟩
  · next hNew =>
    rcases List.mem_append.mp h with h | h
    · exact .inr ⟨h, fun hKey => hNew ⟨c, h, hKey⟩⟩
    · exact .inl (List.mem_singleton.mp h)

/-- The keys of the children stay different as a tree arrives. -/
theorem keys_upsert_nodup (h : (children.map fun c => key c.value).Nodup) :
    ((upsert key e children).map fun c => key c.value).Nodup := by
  unfold upsert
  split
  · rw [List.map_map]
    have hSame : ((fun c : RoseTree α => key c.value) ∘
        fun c => if key c.value = key e.value then e else c) = fun c => key c.value := by
      funext c
      simp only [Function.comp_apply]
      split
      · next hKey => exact hKey.symm
      · rfl
    rwa [hSame]
  · next hNew =>
    rw [List.map_append, List.nodup_append]
    refine ⟨h, List.nodup_singleton _, ?_⟩
    rintro k hk _ hNewKey rfl
    obtain ⟨c, hc, hKey⟩ := List.mem_map.mp hk
    exact hNew ⟨c, hc, hKey.trans (List.mem_singleton.mp hNewKey)⟩

/-- Of the trees with its key, the new one is left. -/
theorem filter_upsert_self (hKeys : (children.map fun c => key c.value).Nodup) :
    (upsert key e children).filter (fun c => key c.value = key e.value) = [e] := by
  have hMem : e ∈ upsert key e children := by
    unfold upsert
    split
    · next hOld =>
      obtain ⟨c, hc, hKey⟩ := hOld
      exact List.mem_map.mpr ⟨c, hc, if_pos hKey⟩
    · simp
  have hNodup : ((upsert key e children).map fun c => key c.value).Nodup := keys_upsert_nodup hKeys
  apply List.perm_singleton.mp
  rw [List.perm_ext_iff_of_nodup (hNodup.of_map _ |>.filter _) (List.nodup_singleton _)]
  intro c
  rw [List.mem_filter, List.mem_singleton, decide_eq_true_iff]
  constructor
  · rintro ⟨hc, hKey⟩
    exact List.inj_on_of_nodup_map hNodup hc hMem hKey
  · rintro rfl
    exact ⟨hMem, rfl⟩

/-- Trees with other keys stay as they are. -/
theorem filter_upsert_other {k : K} (hk : key e.value ≠ k) :
    (upsert key e children).filter (fun c => key c.value = k) =
      children.filter fun c => key c.value = k := by
  unfold upsert
  split
  · rw [List.filter_map]
    have hOnly : ∀ c ∈ children.filter (fun c => decide (key c.value = k)),
        (if key c.value = key e.value then e else c) = c := by
      intro c hc
      have hKey : key c.value = k := by simpa using (List.mem_filter.mp hc).2
      exact if_neg fun hSame => hk (hSame.symm.trans hKey)
    have hSame : ((fun c : RoseTree α => decide (key c.value = k)) ∘
        fun c => if key c.value = key e.value then e else c) =
          fun c => decide (key c.value = k) := by
      funext c
      simp only [Function.comp_apply]
      split
      · next hKey => rw [hKey]
      · rfl
    rw [hSame, List.map_congr_left hOnly, List.map_id']
  · rw [List.filter_append, List.filter_singleton]
    simp [hk]

/-- A tree that is not older than the one with its key ages no child. -/
theorem older_upsert [Preorder α]
    (hOlder : ∀ c ∈ children, key c.value = key e.value → Older c e) {i : ℕ} {c : RoseTree α}
    (hc : children[i]? = some c) : ∃ d, (upsert key e children)[i]? = some d ∧ Older c d := by
  unfold upsert
  split
  · rw [List.getElem?_map, hc]
    by_cases hKey : key c.value = key e.value
    · exact ⟨e, by simp [hKey], hOlder c (List.mem_of_getElem? hc) hKey⟩
    · exact ⟨c, by simp [hKey], .refl c⟩
  · refine ⟨c, ?_, .refl c⟩
    rw [List.getElem?_append_left (List.getElem?_eq_some_iff.mp hc).1, hc]

end Upsert

/-- Nodes of a tree that pass on what they and their children say. -/
structure Relay (α : Type u) where
  own : Place → α
  children : Place → List (RoseTree α)
  inFlight : Place → List (RoseTree α)
  arrived : Option (RoseTree α)

namespace Relay

variable {α : Type u}

/-- What a node would send now. -/
def current (s : Relay α) (place : Place) : RoseTree α := .node (s.own place) (s.children place)

/-- Nothing has been sent yet. -/
def start (own : Place → α) : Relay α where
  own := own
  children _ := []
  inFlight _ := []
  arrived := none

/-- A node tells something new of itself. -/
def publish (place : Place) (value : α) (s : Relay α) : Relay α :=
  { s with
    own := Function.update s.own place value
    inFlight := Function.update s.inFlight place
      (s.inFlight place ++ [.node value (s.children place)]) }

variable {K : Type v} [DecidableEq K] (key : α → K)

/-- A message is taken to the node above, or out at the root. -/
def receive (place : Place) (message : RoseTree α) (rest : List (RoseTree α)) (s : Relay α) :
    Relay α :=
  let s := { s with inFlight := Function.update s.inFlight place rest }
  match place with
  | [] => { s with arrived := some message }
  | _ :: above =>
      { s with
        children := Function.update s.children above (upsert key message (s.children above)) }

variable (keyOf : Place → K)

/-- What the node above, or who listens at the root, has last got from a node. -/
def seen (s : Relay α) : Place → List (RoseTree α)
  | [] => s.arrived.toList
  | i :: above => (s.children above).filter fun c => key c.value = keyOf (i :: above)

/-- The messages of a node that are still about. -/
def about (s : Relay α) (place : Place) : List (RoseTree α) :=
  s.seen key keyOf place ++ s.inFlight place

end Relay

/-- What the places tell has their keys, which are different. -/
structure Naming {α : Type u} {K : Type v} (key : α → K) (valid : Place → Prop)
    (keyOf : Place → K) (tells : Place → α → Prop) : Prop where
  told_valid : ∀ p v, tells p v → valid p
  told_key : ∀ p v, tells p v → key v = keyOf p
  above : ∀ i p, valid (i :: p) → valid p
  injective : ∀ p q, valid p → valid q → keyOf p = keyOf q → p = q

section Places

variable {α : Type u} {K : Type v} {key : α → K} {valid : Place → Prop} {keyOf : Place → K}
  {tells : Place → α → Prop} {tree : RoseTree α}

/-- Values with the same key have been told by the same place. -/
theorem Naming.place_eq (hNaming : Naming key valid keyOf tells) {p p' : Place} {v w : α}
    (hv : tells p v) (hw : tells p' w) (hKey : key v = key w) : p = p' := by
  apply hNaming.injective p p' (hNaming.told_valid p v hv) (hNaming.told_valid p' w hw)
  rw [← hNaming.told_key p v hv, ← hNaming.told_key p' w hw, hKey]

/-- Every node of an authentic tree has been told by some place. -/
theorem Authentic.exists_tells (h : Authentic tells [] tree) {q : Place} {v : α}
    (hv : tree.value? q = some v) : ∃ p, tells p v := by
  cases q with
  | nil =>
      cases hv
      exact ⟨[], h.root⟩
  | cons j q =>
      obtain ⟨u, hu⟩ := value?_above hv
      obtain ⟨i, p, -, hBelow⟩ := h.below j q u v hu hv
      exact ⟨i :: p, hBelow⟩

variable (h : Authentic tells [] tree) (hNaming : Naming key valid keyOf tells)

include h hNaming

/-- Above a node of the tree stand exactly the places above its own. -/
theorem Authentic.above_iff {p p' q' : Place} {w : α} (hw : tree.value? q' = some w)
    (hTells : tells p' w) :
    p <:+ p' ↔ ∃ q v, q <:+ q' ∧ tree.value? q = some v ∧ tells p v := by
  induction q' generalizing p' w with
  | nil =>
      cases hw
      obtain rfl := hNaming.place_eq hTells h.root rfl
      constructor
      · intro hp
        rw [List.suffix_nil.mp hp]
        exact ⟨[], tree.value, List.suffix_refl _, rfl, h.root⟩
      · rintro ⟨q, v, hq, hv, hp⟩
        rw [List.suffix_nil.mp hq] at hv
        cases hv
        rw [hNaming.place_eq hp h.root rfl]
  | cons j q' ih =>
      obtain ⟨u, hu⟩ := value?_above hw
      obtain ⟨i, p₀, hAbove, hBelow⟩ := h.below j q' u w hu hw
      obtain rfl := hNaming.place_eq hTells hBelow rfl
      rw [List.suffix_cons_iff, ih hu hAbove]
      constructor
      · rintro (rfl | ⟨q, v, hq, hv, hp⟩)
        · exact ⟨j :: q', w, List.suffix_refl _, hw, hBelow⟩
        · exact ⟨q, v, hq.trans (List.suffix_cons _ _), hv, hp⟩
      · rintro ⟨q, v, hq, hv, hp⟩
        rcases List.suffix_cons_iff.mp hq with rfl | hq
        · rw [hw] at hv
          cases hv
          exact .inl (hNaming.place_eq hp hBelow rfl)
        · exact .inr ⟨q, v, hq, hv, hp⟩

variable (hDiffer : SiblingsDiffer key tree)

include hDiffer

/-- Two nodes with one key would be the same node, as their places would be, and so all above. -/
theorem Authentic.injective {q q' : Place} {v w : α} (hv : tree.value? q = some v)
    (hw : tree.value? q' = some w) (hKey : key v = key w) : q = q' := by
  induction q generalizing q' v w with
  | nil =>
      cases q' with
      | nil => rfl
      | cons j' q' =>
          cases hv
          obtain ⟨u, hu⟩ := value?_above hw
          obtain ⟨i, p, -, hBelow⟩ := h.below j' q' u w hu hw
          cases hNaming.place_eq h.root hBelow hKey
  | cons j q ih =>
      obtain ⟨u, hu⟩ := value?_above hv
      obtain ⟨i, p, hTells, hBelow⟩ := h.below j q u v hu hv
      cases q' with
      | nil =>
          cases hw
          cases hNaming.place_eq hBelow h.root hKey
      | cons j' q' =>
          obtain ⟨u', hu'⟩ := value?_above hw
          obtain ⟨i', p', hTells', hBelow'⟩ := h.below j' q' u' w hu' hw
          obtain ⟨-, rfl⟩ := List.cons.inj (hNaming.place_eq hBelow hBelow' hKey)
          have hSame : key u = key u' := by
            rw [hNaming.told_key p u hTells, hNaming.told_key p u' hTells']
          obtain rfl := ih hu hu' hSame
          rw [hDiffer q j j' v w hv hw hKey]

/-- The tree is in the order of the places. -/
theorem Authentic.suffix_iff {p p' q q' : Place} {v w : α} (hv : tree.value? q = some v)
    (hw : tree.value? q' = some w) (hp : tells p v) (hp' : tells p' w) :
    q <:+ q' ↔ p <:+ p' := by
  rw [h.above_iff hNaming hw hp']
  constructor
  · exact fun hq => ⟨q, v, hq, hv, hp⟩
  · rintro ⟨q₀, u, hq₀, hu, hTells⟩
    have hKey : key u = key v := by rw [hNaming.told_key p u hTells, hNaming.told_key p v hp]
    exact h.injective hNaming hDiffer hu hv hKey ▸ hq₀

end Places

namespace Relay

variable {α : Type u} {K : Type v} [DecidableEq K] (key : α → K) (valid : Place → Prop)
  (keyOf : Place → K) (tells : Place → α → Prop)

/-- What holds of the nodes at all times, also between a reception and what is sent on it. -/
structure Sound [Preorder α] (s : Relay α) : Prop where
  children : ∀ p, ∀ c ∈ s.children p, ∃ i, valid (i :: p) ∧ c ∈ s.about key keyOf (i :: p)
  keys : ∀ p, ((s.children p).map fun c => key c.value).Nodup
  chained : ∀ p, valid p → (s.about key keyOf p).Pairwise Older
  older : ∀ p, valid p → ∀ t ∈ s.about key keyOf p, Older t (s.current p)
  authentic : ∀ p, valid p → ∀ t ∈ s.about key keyOf p, Authentic tells p t
  differ : ∀ p, valid p → ∀ t ∈ s.about key keyOf p, SiblingsDiffer key t

/-- The newest message of a node is what it would send now. -/
def Newest (s : Relay α) (place : Place) : Prop :=
  ∀ t, (s.about key keyOf place).getLast? = some t → t = s.current place

variable {key valid keyOf tells} {s : Relay α}

/-- At the start there is no message that could be out of date. -/
theorem newest_start (own : Place → α) (place : Place) : Newest key keyOf (start own) place := by
  intro t h
  cases place <;> cases h

/-- A place that publishes a value has it. -/
theorem own_publish_self (place : Place) (value : α) : (s.publish place value).own place = value :=
  Function.update_self _ _ _

/-- The other places keep their values. -/
theorem own_publish_other {place other : Place} (h : other ≠ place) (value : α) :
    (s.publish place value).own other = s.own other :=
  Function.update_of_ne h _ _

/-- What is published is only in flight, and seen by nobody yet. -/
theorem seen_publish (place other : Place) (value : α) :
    (s.publish place value).seen key keyOf other = s.seen key keyOf other := by
  cases other <;> rfl

/-- The published tree is the last message of its place. -/
theorem about_publish_self (place : Place) (value : α) :
    (s.publish place value).about key keyOf place =
      s.about key keyOf place ++ [.node value (s.children place)] := by
  rw [about, about, List.append_assoc, seen_publish]
  congr 1
  exact Function.update_self _ _ _

/-- The messages of the other places stay. -/
theorem about_publish_other {place other : Place} (h : other ≠ place) (value : α) :
    (s.publish place value).about key keyOf other = s.about key keyOf other := by
  rw [about, about, seen_publish]
  congr 1
  exact Function.update_of_ne h _ _

/-- A place would send again what it has just published. -/
theorem current_publish_self (place : Place) (value : α) :
    (s.publish place value).current place = .node value (s.children place) := by
  simp only [current, publish, Function.update_self]

/-- The other places would send what they would have sent before. -/
theorem current_publish_other {place other : Place} (h : other ≠ place) (value : α) :
    (s.publish place value).current other = s.current other := by
  simp only [current, publish, Function.update_of_ne h]

/-- The messages that are about are those from before, and the published one. -/
theorem mem_about_publish {place other : Place} {value : α} {t : RoseTree α}
    (h : t ∈ (s.publish place value).about key keyOf other) :
    t ∈ s.about key keyOf other ∨ other = place ∧ t = .node value (s.children place) := by
  by_cases hOther : other = place
  · subst hOther
    rw [about_publish_self, List.mem_append, List.mem_singleton] at h
    exact h.imp_right fun hNew => ⟨rfl, hNew⟩
  · rw [about_publish_other hOther] at h
    exact .inl h

/-- A place that publishes is up to date. The others are so if they were. -/
theorem newest_publish {place other : Place} {value : α}
    (h : other ≠ place → Newest key keyOf s other) :
    Newest key keyOf (s.publish place value) other := by
  intro t ht
  by_cases hOther : other = place
  · subst hOther
    rw [about_publish_self, List.getLast?_concat] at ht
    rw [current_publish_self]
    exact (Option.some.inj ht).symm
  · rw [about_publish_other hOther] at ht
    rw [current_publish_other hOther]
    exact h hOther t ht

/-- After a place has published there is a message of it about. -/
theorem about_publish_ne_nil {place p : Place} {value : α}
    (h : place ≠ p → s.about key keyOf place ≠ []) :
    (s.publish p value).about key keyOf place ≠ [] := by
  by_cases hSelf : place = p
  · subst hSelf
    rw [about_publish_self]
    simp
  · rw [about_publish_other hSelf]
    exact h hSelf

section Receive

variable {place : Place} {message : RoseTree α} {rest : List (RoseTree α)}

/-- A message that is received is all that is left of what came before it. -/
theorem about_receive_self (hKeys : ∀ p, ((s.children p).map fun c => key c.value).Nodup)
    (hKey : key message.value = keyOf place) :
    (s.receive key place message rest).about key keyOf place = message :: rest := by
  have hInFlight : (s.receive key place message rest).inFlight place = rest := by
    cases place <;> simp only [receive, Function.update_self]
  rw [about, hInFlight, ← List.singleton_append]
  congr 1
  cases place with
  | nil => rfl
  | cons i above =>
      simp only [seen, receive, Function.update_self, ← hKey]
      exact filter_upsert_self (hKeys above)

/-- The messages of other nodes do not notice. -/
theorem about_receive_other {other : Place} (hOther : other ≠ place)
    (hKey : key message.value ≠ keyOf other) :
    (s.receive key place message rest).about key keyOf other = s.about key keyOf other := by
  have hInFlight : (s.receive key place message rest).inFlight other = s.inFlight other := by
    cases place <;> simp only [receive, Function.update_of_ne hOther]
  rw [about, about, hInFlight]
  congr 1
  cases place with
  | nil =>
      cases other with
      | nil => exact absurd rfl hOther
      | cons j above => rfl
  | cons i above =>
      cases other with
      | nil => rfl
      | cons j place =>
          by_cases hAbove : place = above
          · subst hAbove
            simp only [seen, receive, Function.update_self]
            exact filter_upsert_other hKey
          · simp only [seen, receive, Function.update_of_ne hAbove]

/-- A message that is received changes the value of no place. -/
theorem own_receive (place : Place) (message : RoseTree α) (rest : List (RoseTree α)) :
    (s.receive key place message rest).own = s.own := by
  cases place <;> rfl

/-- A place that receives nothing would send what it would have sent before. -/
theorem current_receive {other : Place} (h : ∀ i, place ≠ i :: other) :
    (s.receive key place message rest).current other = s.current other := by
  cases place with
  | nil => rfl
  | cons i above =>
      have hAbove : other ≠ above := fun hSame => h i (hSame ▸ rfl)
      simp only [current, receive, Function.update_of_ne hAbove]

end Receive

variable [Preorder α]

/-- At the start nothing has been said. -/
theorem sound_start (own : Place → α) : Sound key valid keyOf tells (start own) where
  children _ _ h := by cases h
  keys _ := List.nodup_nil
  chained p _ := by cases p <;> exact List.Pairwise.nil
  older p _ t h := by cases p <;> cases h
  authentic p _ t h := by cases p <;> cases h
  differ p _ t h := by cases p <;> cases h

/-- What a node would send is authentic if its own part is. -/
theorem Sound.authentic_current (h : Sound key valid keyOf tells s) {place : Place} {value : α}
    (hTells : tells place value) : Authentic tells place (.node value (s.children place)) := by
  apply authentic_node hTells
  intro c hc
  obtain ⟨i, hValid, hAbout⟩ := h.children place c hc
  exact ⟨i, h.authentic _ hValid c hAbout⟩

/-- In what a place would send siblings differ. -/
theorem Sound.differ_current (h : Sound key valid keyOf tells s) (place : Place) (value : α) :
    SiblingsDiffer key (.node value (s.children place)) := by
  apply siblingsDiffer_node key (h.keys place)
  intro c hc
  obtain ⟨i, hValid, hAbout⟩ := h.children place c hc
  exact h.differ _ hValid c hAbout

/-- What a node would send after it has changed its own part is not older. -/
theorem older_current {place : Place} {value : α} (hOwn : s.own place ≤ value) :
    Older (s.current place) (.node value (s.children place)) :=
  older_node hOwn fun _ c hc => ⟨c, hc, .refl c⟩

/-- Publishing a value that is told, and newer than the last one, keeps what holds of the nodes. -/
theorem Sound.publish (h : Sound key valid keyOf tells s) {place : Place} {value : α}
    (hTells : tells place value) (hOwn : s.own place ≤ value) :
    Sound key valid keyOf tells (s.publish place value) where
  children p c hc := by
    obtain ⟨i, hValid, hAbout⟩ := h.children p c hc
    refine ⟨i, hValid, ?_⟩
    by_cases hOther : i :: p = place
    · subst hOther
      rw [about_publish_self]
      exact List.mem_append_left _ hAbout
    · rw [about_publish_other hOther]
      exact hAbout
  keys := h.keys
  chained p hValid := by
    by_cases hOther : p = place
    · subst hOther
      rw [about_publish_self, List.pairwise_append]
      refine ⟨h.chained p hValid, List.pairwise_singleton _ _, ?_⟩
      intro t ht d hd
      rw [List.mem_singleton.mp hd]
      exact (h.older p hValid t ht).trans (older_current hOwn)
    · rw [about_publish_other hOther]
      exact h.chained p hValid
  older p hValid t ht := by
    have hCurrent : Older (s.current p) ((s.publish place value).current p) := by
      by_cases hOther : p = place
      · subst hOther
        rw [current_publish_self]
        exact older_current hOwn
      · rw [current_publish_other hOther]
        exact .refl _
    rcases mem_about_publish ht with hOld | ⟨rfl, rfl⟩
    · exact (h.older p hValid t hOld).trans hCurrent
    · rw [current_publish_self]
      exact .refl _
  authentic p hValid t ht := by
    rcases mem_about_publish ht with hOld | ⟨rfl, rfl⟩
    · exact h.authentic p hValid t hOld
    · exact h.authentic_current hTells
  differ p hValid t ht := by
    rcases mem_about_publish ht with hOld | ⟨rfl, rfl⟩
    · exact h.differ p hValid t hOld
    · exact h.differ_current p value

section Receive

variable {place : Place} {message : RoseTree α} {rest : List (RoseTree α)}

/-- The messages of a place have its key. -/
theorem Sound.key_of_about (h : Sound key valid keyOf tells s)
    (hNaming : Naming key valid keyOf tells) {p : Place} (hValid : valid p) {t : RoseTree α}
    (ht : t ∈ s.about key keyOf p) : key t.value = keyOf p :=
  hNaming.told_key p _ (h.authentic p hValid t ht).root

variable (h : Sound key valid keyOf tells s) (hNaming : Naming key valid keyOf tells)
  (hPlace : valid place) (hMessage : s.inFlight place = message :: rest)

include h hNaming hPlace hMessage

/-- A place whose message is received keeps that message and those behind it. The others keep
theirs. -/
theorem Sound.about_receive {p : Place} (hValid : valid p) :
    (s.receive key place message rest).about key keyOf p =
      if p = place then message :: rest else s.about key keyOf p := by
  have hAbout : message ∈ s.about key keyOf place := by
    rw [about, hMessage]
    simp
  have hKey := h.key_of_about hNaming hPlace hAbout
  split
  · next hSelf =>
    rw [hSelf]
    exact about_receive_self h.keys hKey
  · next hOther =>
    apply about_receive_other hOther
    rw [hKey]
    exact fun hSame => hOther (hNaming.injective _ _ hPlace hValid hSame).symm

/-- Reception takes messages away and adds none. -/
theorem Sound.about_receive_sublist {p : Place} (hValid : valid p) :
    List.Sublist ((s.receive key place message rest).about key keyOf p)
      (s.about key keyOf p) := by
  rw [h.about_receive hNaming hPlace hMessage hValid]
  split
  · next hSelf =>
    rw [about, hSelf, hMessage]
    exact List.sublist_append_right _ _
  · exact List.Sublist.refl _

/-- What a node would send is not older after a reception. -/
theorem Sound.older_receive (p : Place) :
    Older (s.current p) ((s.receive key place message rest).current p) := by
  cases place with
  | nil => exact .refl _
  | cons i above =>
      by_cases hAbove : p = above
      · subst hAbove
        apply older_node
        · exact le_rfl
        · intro j c hc
          simp only [receive, Function.update_self]
          apply older_upsert _ hc
          intro d hd hKey
          have hAbout : message ∈ s.about key keyOf (i :: p) := by
            rw [about, hMessage]
            simp
          have hSeen : d ∈ s.seen key keyOf (i :: p) := by
            rw [seen, List.mem_filter, decide_eq_true_iff]
            exact ⟨hd, hKey.trans (h.key_of_about hNaming hPlace hAbout)⟩
          have hChained := h.chained _ hPlace
          rw [about, hMessage, List.pairwise_append] at hChained
          exact hChained.2.2 d hSeen message List.mem_cons_self
      · rw [current_receive fun j hSame => hAbove (List.cons.inj hSame).2.symm]
        exact .refl _

/-- A reception keeps what holds of the nodes. -/
theorem Sound.receive : Sound key valid keyOf tells (s.receive key place message rest) where
  children p c hc := by
    cases place with
    | nil =>
        obtain ⟨i, hValid, hAbout⟩ := h.children p c hc
        refine ⟨i, hValid, ?_⟩
        rw [h.about_receive hNaming hPlace hMessage hValid, if_neg (List.cons_ne_nil _ _)]
        exact hAbout
    | cons i above =>
        have hOld (hc : c ∈ s.children p)
            (hKey : p = above → key c.value ≠ keyOf (i :: above)) :
            ∃ j, valid (j :: p) ∧
              c ∈ (s.receive key (i :: above) message rest).about key keyOf (j :: p) := by
          obtain ⟨j, hValid, hAbout⟩ := h.children p c hc
          refine ⟨j, hValid, ?_⟩
          rw [h.about_receive hNaming hPlace hMessage hValid, if_neg]
          · exact hAbout
          · intro hSame
            apply hKey (List.cons.inj hSame).2
            rw [h.key_of_about hNaming hValid hAbout, hSame]
        by_cases hAbove : p = above
        · subst hAbove
          simp only [Relay.receive, Function.update_self] at hc
          have hAbout : message ∈ s.about key keyOf (i :: p) := by
            rw [about, hMessage]
            simp
          rcases mem_upsert hc with rfl | ⟨hc, hKey⟩
          · refine ⟨i, hPlace, ?_⟩
            rw [h.about_receive hNaming hPlace hMessage hPlace, if_pos rfl]
            exact List.mem_cons_self
          · apply hOld hc
            intro _
            rw [← h.key_of_about hNaming hPlace hAbout]
            exact hKey
        · apply hOld _ fun hSame => absurd hSame hAbove
          simpa only [Relay.receive, Function.update_of_ne hAbove] using hc
  keys p := by
    cases place with
    | nil => exact h.keys p
    | cons i above =>
        by_cases hAbove : p = above
        · subst hAbove
          simp only [Relay.receive, Function.update_self]
          exact keys_upsert_nodup (h.keys p)
        · simp only [Relay.receive, Function.update_of_ne hAbove]
          exact h.keys p
  chained p hValid :=
    (h.chained p hValid).sublist (h.about_receive_sublist hNaming hPlace hMessage hValid)
  older p hValid t ht :=
    (h.older p hValid t ((h.about_receive_sublist hNaming hPlace hMessage hValid).subset ht)).trans
      (h.older_receive hNaming hPlace hMessage p)
  authentic p hValid t ht :=
    h.authentic p hValid t ((h.about_receive_sublist hNaming hPlace hMessage hValid).subset ht)
  differ p hValid t ht :=
    h.differ p hValid t ((h.about_receive_sublist hNaming hPlace hMessage hValid).subset ht)

/-- Only the node that has received something has news that it did not send. -/
theorem Sound.newest_receive {p : Place} (hValid : valid p) (hNewest : Newest key keyOf s p)
    (hAbove : ∀ i, place ≠ i :: p) :
    Newest key keyOf (s.receive key place message rest) p := by
  intro t ht
  rw [current_receive hAbove]
  apply hNewest t
  rw [h.about_receive hNaming hPlace hMessage hValid] at ht
  split at ht
  · next hSelf =>
    rw [about, hSelf, hMessage, List.getLast?_append, ht]
    rfl
  · exact ht

end Receive

/-- What holds of the nodes after every input. Those that are not live may have received
something that they did not pass on. -/
structure Invariant (key : α → K) (valid live : Place → Prop) (keyOf : Place → K)
    (tells : Place → α → Prop) (s : Relay α) : Prop where
  sound : Sound key valid keyOf tells s
  newest : ∀ p, valid p → live p → Newest key keyOf s p
  silent : ∀ p, ¬valid p → s.inFlight p = []

variable {live : Place → Prop}

/-- The invariant holds at the start. -/
theorem invariant_start (own : Place → α) : Invariant key valid live keyOf tells (start own) :=
  ⟨sound_start own, fun p _ _ => newest_start own p, fun _ _ => rfl⟩

/-- What holds of the nodes stays so as more is told. -/
theorem Sound.mono {tells' : Place → α → Prop} (h : Sound key valid keyOf tells s)
    (hMono : ∀ p v, tells p v → tells' p v) : Sound key valid keyOf tells' s where
  children := h.children
  keys := h.keys
  chained := h.chained
  older := h.older
  authentic p hValid t ht := (h.authentic p hValid t ht).mono hMono
  differ := h.differ

/-- The invariant stays as more is told and less is live. -/
theorem Invariant.mono {tells' : Place → α → Prop} {live' : Place → Prop}
    (h : Invariant key valid live keyOf tells s) (hMono : ∀ p v, tells p v → tells' p v)
    (hLive : ∀ p, live' p → live p) : Invariant key valid live' keyOf tells' s where
  sound := h.sound.mono hMono
  newest p hValid hLive' := h.newest p hValid (hLive p hLive')
  silent := h.silent

/-- Publishing keeps the invariant. -/
theorem Invariant.publish (h : Invariant key valid live keyOf tells s)
    (hNaming : Naming key valid keyOf tells) {place : Place} {value : α}
    (hTells : tells place value) (hOwn : s.own place ≤ value) :
    Invariant key valid live keyOf tells (s.publish place value) where
  sound := h.sound.publish hTells hOwn
  newest p hValid hLive := newest_publish fun _ => h.newest p hValid hLive
  silent p hInvalid := by
    have hOther : p ≠ place := fun hSame =>
      hInvalid (hSame ▸ hNaming.told_valid place value hTells)
    exact (Function.update_of_ne hOther _ _).trans (h.silent p hInvalid)

/-- The node above has to send what it has received, or it is not live any more. -/
theorem Invariant.receive (h : Invariant key valid live keyOf tells s)
    (hNaming : Naming key valid keyOf tells) {place : Place} {message : RoseTree α}
    {rest : List (RoseTree α)} (hMessage : s.inFlight place = message :: rest) :
    Invariant key valid (fun p => live p ∧ ∀ i, place ≠ i :: p) keyOf tells
      (s.receive key place message rest) := by
  have hPlace : valid place := by
    by_contra hInvalid
    cases (h.silent place hInvalid).symm.trans hMessage
  refine ⟨h.sound.receive hNaming hPlace hMessage, ?_, ?_⟩
  · intro p hValid hLive
    exact h.sound.newest_receive hNaming hPlace hMessage hValid (h.newest p hValid hLive.1) hLive.2
  · intro p hInvalid
    have hOther : p ≠ place := fun hSame => hInvalid (hSame ▸ hPlace)
    have hSilent := h.silent p hInvalid
    cases place <;> simpa only [Relay.receive, Function.update_of_ne hOther] using hSilent

/-- What has arrived at the root only becomes newer. -/
theorem Invariant.arrived_receive (h : Invariant key valid live keyOf tells s) {place : Place}
    {message : RoseTree α} {rest : List (RoseTree α)}
    (hMessage : s.inFlight place = message :: rest) {t : RoseTree α} (ht : s.arrived = some t) :
    ∃ t', (s.receive key place message rest).arrived = some t' ∧ Older t t' := by
  cases place with
  | nil =>
      refine ⟨message, rfl, ?_⟩
      have hRoot : valid [] := by
        by_contra hInvalid
        cases (h.silent [] hInvalid).symm.trans hMessage
      have hChained := h.sound.chained [] hRoot
      rw [about, hMessage, seen, ht, List.pairwise_append] at hChained
      exact hChained.2.2 t (by simp) message List.mem_cons_self
  | cons i above => exact ⟨t, ht, .refl t⟩

/-- A node that has sent something is heard of from then on. -/
theorem Invariant.about_receive_ne_nil (h : Invariant key valid live keyOf tells s)
    (hNaming : Naming key valid keyOf tells) {place p : Place} {message : RoseTree α}
    {rest : List (RoseTree α)} (hMessage : s.inFlight p = message :: rest) (hValid : valid place)
    (hAbout : s.about key keyOf place ≠ []) :
    (s.receive key p message rest).about key keyOf place ≠ [] := by
  have hFrom : valid p := by
    by_contra hInvalid
    cases (h.silent p hInvalid).symm.trans hMessage
  rw [h.sound.about_receive hNaming hFrom hMessage hValid]
  split
  · exact List.cons_ne_nil _ _
  · exact hAbout

end Relay

/-- A tree that shows every place with what it tells of itself, below the place above it. Only the
order in which the children of a node stand is left open. -/
structure Mirrors {α : Type u} {K : Type v} (key : α → K) (valid : Place → Prop)
    (own : Place → α) (tree : RoseTree α) : Prop where
  root : tree.value? [] = some (own [])
  below : ∀ j q v, tree.value? (j :: q) = some v →
    ∃ i p, valid (i :: p) ∧ tree.value? q = some (own p) ∧ v = own (i :: p)
  above : ∀ i p q, valid (i :: p) → tree.value? q = some (own p) →
    ∃ j, tree.value? (j :: q) = some (own (i :: p))
  differ : SiblingsDiffer key tree

namespace Relay

variable {α : Type u} [Preorder α] {K : Type v} [DecidableEq K] {key : α → K}
  {valid live : Place → Prop} {keyOf : Place → K} {tells : Place → α → Prop} {s : Relay α}

/-- What a place would send is about, once it has spoken. -/
theorem Invariant.current_mem_about (h : Invariant key valid live keyOf tells s)
    (hLive : ∀ p, valid p → live p) (hSpoken : ∀ p, valid p → s.about key keyOf p ≠ [])
    {p : Place} (hValid : valid p) : s.current p ∈ s.about key keyOf p := by
  obtain ⟨last, hLast⟩ := Option.isSome_iff_exists.mp
    (List.getLast?_isSome.mpr (hSpoken p hValid))
  rw [← h.newest p hValid (hLive p hValid) last hLast]
  exact List.mem_of_getLast? hLast

section Quiet

variable (h : Invariant key valid live keyOf tells s) (hLive : ∀ p, valid p → live p)
  (hQuiet : ∀ p, s.inFlight p = [])

include h hLive hQuiet

/-- When nothing is on its way, all that is known of a node is what it would send now. -/
theorem Invariant.mem_about_of_quiet (hNaming : Naming key valid keyOf tells) {p : Place}
    (hValid : valid p) {t : RoseTree α} (ht : t ∈ s.about key keyOf p) : t = s.current p := by
  obtain ⟨last, hLast⟩ := Option.isSome_iff_exists.mp
    (List.getLast?_isSome.mpr (List.ne_nil_of_mem ht))
  rw [← h.newest p hValid (hLive p hValid) last hLast]
  have hMem := List.mem_of_getLast? hLast
  have hKey : key t.value = key last.value := by
    rw [h.sound.key_of_about hNaming hValid ht, h.sound.key_of_about hNaming hValid hMem]
  rw [about, hQuiet, List.append_nil] at ht hMem
  cases p with
  | nil => exact (Option.mem_toList.mp ht).symm.trans (Option.mem_toList.mp hMem) |> Option.some.inj
  | cons i above =>
      exact List.inj_on_of_nodup_map (h.sound.keys above) (List.mem_filter.mp ht).1
        (List.mem_filter.mp hMem).1 hKey

/-- What stands in a message of the root are messages of the places. -/
theorem Invariant.subtree?_current (hNaming : Naming key valid keyOf tells) (hRoot : valid [])
    {q : Place} {t : RoseTree α} (ht : (s.current []).subtree? q = some t) :
    ∃ p, valid p ∧ t = s.current p := by
  induction q generalizing t with
  | nil => exact ⟨[], hRoot, (Option.some.inj ht).symm⟩
  | cons j q ih =>
      rw [RoseTree.subtree?_cons] at ht
      obtain ⟨u, hu, hChild⟩ := Option.bind_eq_some_iff.mp ht
      obtain ⟨p, -, rfl⟩ := ih hu
      obtain ⟨i, hValid, hAbout⟩ := h.sound.children p t (List.mem_of_getElem? hChild)
      exact ⟨i :: p, hValid, h.mem_about_of_quiet hLive hQuiet hNaming hValid hAbout⟩

/-- When nothing is on its way and every node has sent something, what has arrived at the root is
the tree of all nodes. -/
theorem Invariant.mirrors (hNaming : Naming key valid keyOf tells) (hRoot : valid [])
    (hSpoken : ∀ p, valid p → s.about key keyOf p ≠ []) :
    ∃ t, s.arrived = some t ∧ Mirrors key valid s.own t := by
  have hKeys (p : Place) (hValid : valid p) : key (s.own p) = keyOf p :=
    h.sound.key_of_about hNaming hValid (h.current_mem_about hLive hSpoken hValid)
  refine ⟨s.current [], ?_, rfl, ?_, ?_, ?_⟩
  · have hAbout := h.current_mem_about hLive hSpoken hRoot
    rw [about, hQuiet, List.append_nil] at hAbout
    exact Option.mem_toList.mp hAbout
  · intro j q v hv
    rw [RoseTree.value?, RoseTree.subtree?_cons, Option.map_bind] at hv
    obtain ⟨u, hu, hChild⟩ := Option.bind_eq_some_iff.mp hv
    obtain ⟨c, hc, rfl⟩ := Option.map_eq_some_iff.mp hChild
    obtain ⟨p, -, rfl⟩ := h.subtree?_current hLive hQuiet hNaming hRoot hu
    obtain ⟨i, hValid, hAbout⟩ := h.sound.children p c (List.mem_of_getElem? hc)
    refine ⟨i, p, hValid, ?_, ?_⟩
    · rw [RoseTree.value?, hu]
      rfl
    · rw [h.mem_about_of_quiet hLive hQuiet hNaming hValid hAbout]
      rfl
  · intro i p q hValid hAbove
    obtain ⟨u, hu, hOwn⟩ := Option.map_eq_some_iff.mp hAbove
    obtain ⟨p', hValid', rfl⟩ := h.subtree?_current hLive hQuiet hNaming hRoot hu
    have hSame : p' = p := by
      apply hNaming.injective p' p hValid' (hNaming.above i p hValid)
      rw [← hKeys p' hValid', ← hKeys p (hNaming.above i p hValid)]
      exact congrArg key hOwn
    subst hSame
    have hAbout := h.current_mem_about hLive hSpoken hValid
    rw [about, hQuiet, List.append_nil] at hAbout
    obtain ⟨j, hj⟩ := List.getElem?_of_mem (List.mem_filter.mp hAbout).1
    refine ⟨j, ?_⟩
    rw [RoseTree.value?, RoseTree.subtree?_cons, hu]
    change (s.children p')[j]?.map RoseTree.value = _
    rw [hj]
    rfl
  · exact h.sound.differ_current [] (s.own [])

end Quiet

/-! How far the messages have to go. -/

section Pending

omit [Preorder α]

variable {places : Finset Place} {place : Place} (hPlace : place ∈ places)

/-- The hops that the messages in flight have before them. -/
def pending (places : Finset Place) (s : Relay α) : ℕ :=
  ∑ p ∈ places, (s.inFlight p).length * (p.length + 1)

include hPlace

/-- Messages that are in flight from one place count where they are. -/
theorem pending_eq (s : Relay α) :
    s.pending places = (s.inFlight place).length * (place.length + 1) +
      s.pending (places.erase place) :=
  (Finset.add_sum_erase _ _ hPlace).symm

omit hPlace in
/-- Messages of a place do not count among the other places. -/
theorem pending_erase_congr {s next : Relay α}
    (h : ∀ p, p ≠ place → next.inFlight p = s.inFlight p) :
    next.pending (places.erase place) = s.pending (places.erase place) := by
  apply Finset.sum_congr rfl
  intro p hp
  rw [h p (Finset.ne_of_mem_erase hp)]

/-- A message that is published has all its hops before it. -/
theorem pending_publish (value : α) (s : Relay α) :
    (s.publish place value).pending places = s.pending places + (place.length + 1) := by
  have hOthers : (s.publish place value).pending (places.erase place) =
      s.pending (places.erase place) :=
    pending_erase_congr fun p hp => Function.update_of_ne hp _ _
  have hHere : ((s.publish place value).inFlight place).length =
      (s.inFlight place).length + 1 := by
    simp only [publish, Function.update_self, List.length_append, List.length_singleton]
  rw [pending_eq hPlace, pending_eq hPlace, hOthers, hHere, Nat.succ_mul]
  omega

/-- A message that is received no longer counts with its hops. -/
theorem pending_receive {s : Relay α} {message : RoseTree α} {rest : List (RoseTree α)}
    (hMessage : s.inFlight place = message :: rest) :
    (s.receive key place message rest).pending places + (place.length + 1) =
      s.pending places := by
  have hInFlight : (s.receive key place message rest).inFlight =
      Function.update s.inFlight place rest := by
    cases place <;> rfl
  have hOthers : (s.receive key place message rest).pending (places.erase place) =
      s.pending (places.erase place) :=
    pending_erase_congr fun p hp => by rw [hInFlight, Function.update_of_ne hp]
  rw [pending_eq hPlace, pending_eq hPlace, hOthers, hInFlight, Function.update_self, hMessage,
    List.length_cons, Nat.succ_mul]
  omega

end Pending

end Relay

end EverestCore.Machine
