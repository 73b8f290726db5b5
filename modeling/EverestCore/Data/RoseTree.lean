import Mathlib.Data.List.Nodup
import Mathlib.Data.List.Infix

/-! Trees with any number of children at each node. A place in a tree is the
list of child indices that leads to it, the last step first: so the parent of
`i :: place` is `place`, and the places above a place are its suffixes. -/
namespace EverestCore.Data

universe u

inductive RoseTree (α : Type u) where
  | node (value : α) (children : List (RoseTree α))

abbrev Place := List ℕ

namespace RoseTree

variable {α : Type u}

def value : RoseTree α → α
  | node value _ => value

def children : RoseTree α → List (RoseTree α)
  | node _ children => children

@[simp] theorem children_node (value : α) (children : List (RoseTree α)) :
    (node value children).children = children := rfl

/-- What holds of a node whenever it holds of all its children holds of every
tree. -/
theorem induct {motive : RoseTree α → Prop}
    (hNode : ∀ value children, (∀ child ∈ children, motive child) →
      motive (node value children)) : ∀ tree, motive tree
  | node value children => hNode value children fun child _ => induct hNode child

/-- The tree that hangs at a place. -/
def subtree? (tree : RoseTree α) : Place → Option (RoseTree α)
  | [] => some tree
  | i :: place => (tree.subtree? place).bind fun above => above.children[i]?

@[simp] theorem subtree?_nil (tree : RoseTree α) : tree.subtree? [] = some tree := rfl

/-- The last step down is a step to a child. -/
theorem subtree?_cons (tree : RoseTree α) (i : ℕ) (place : Place) :
    tree.subtree? (i :: place) = (tree.subtree? place).bind fun above => above.children[i]? := rfl

/-- The value at a place. -/
def value? (tree : RoseTree α) (place : Place) : Option α :=
  (tree.subtree? place).map RoseTree.value

/-- The last index of a place is the first step from the root. -/
theorem subtree?_snoc (tree : RoseTree α) (place : Place) (i : ℕ) :
    tree.subtree? (place ++ [i]) = tree.children[i]?.bind fun child => child.subtree? place := by
  induction place with
  | nil => simp [subtree?]
  | cons j place ih =>
      rw [List.cons_append, subtree?_cons, ih]
      cases tree.children[i]? with
      | none => rfl
      | some child => rfl

/-- A place above a place of the tree is a place of the tree. -/
theorem subtree?_isSome_of_suffix {tree : RoseTree α} {above place : Place}
    (hAbove : above <:+ place) (hPlace : (tree.subtree? place).isSome) :
    (tree.subtree? above).isSome := by
  induction place with
  | nil =>
      rw [List.suffix_nil.mp hAbove]
      exact hPlace
  | cons i place ih =>
      rcases List.suffix_cons_iff.mp hAbove with rfl | hAbove
      · exact hPlace
      · apply ih hAbove
        rw [subtree?_cons] at hPlace
        exact Option.isSome_of_isSome_bind hPlace

mutual

/-- The nodes of a tree that hangs at a place, each before its children. -/
def walk (place : Place) : RoseTree α → List (Place × α)
  | node value children => (place, value) :: walkChildren place 0 children

def walkChildren (place : Place) (i : ℕ) : List (RoseTree α) → List (Place × α)
  | [] => []
  | child :: rest => walk (i :: place) child ++ walkChildren place (i + 1) rest

end

/-- The children with their numbers, each with its own walk. -/
theorem walkChildren_eq (place : Place) (i : ℕ) (children : List (RoseTree α)) :
    walkChildren place i children =
      (children.zipIdx i).flatMap fun (child, j) => walk (j :: place) child := by
  induction children generalizing i with
  | nil => rfl
  | cons child rest ih => rw [walkChildren, ih, List.zipIdx_cons, List.flatMap_cons]

/-- The walk as a single equation, without the mutual recursion. -/
theorem walk_node (place : Place) (value : α) (children : List (RoseTree α)) :
    walk place (node value children) =
      (place, value) :: children.zipIdx.flatMap fun (child, i) => walk (i :: place) child := by
  rw [walk, walkChildren_eq]

/-- The walk visits exactly the places of the tree. -/
theorem mem_walk {tree : RoseTree α} {place target : Place} {value : α} :
    (target, value) ∈ walk place tree ↔
      ∃ below, target = below ++ place ∧ tree.value? below = some value := by
  induction tree using induct generalizing place with
  | hNode v children ih =>
      rw [walk_node, List.mem_cons, List.mem_flatMap]
      constructor
      · rintro (hHere | ⟨⟨child, i⟩, hChild, hWalk⟩)
        · cases hHere
          exact ⟨[], rfl, rfl⟩
        · have hGet := List.mem_zipIdx_iff_getElem?.mp hChild
          obtain ⟨below, rfl, hBelow⟩ := (ih child (List.mem_of_getElem? hGet)).mp hWalk
          refine ⟨below ++ [i], by simp, ?_⟩
          rw [value?, subtree?_snoc, children_node, hGet]
          exact hBelow
      · rintro ⟨below, rfl, hBelow⟩
        rcases List.eq_nil_or_concat' below with rfl | ⟨below, i, rfl⟩
        · cases hBelow
          exact Or.inl rfl
        · rw [value?, subtree?_snoc, children_node, Option.map_bind] at hBelow
          obtain ⟨child, hGet, hChild⟩ := Option.bind_eq_some_iff.mp hBelow
          refine Or.inr ⟨(child, i), List.mem_zipIdx_iff_getElem?.mpr hGet, ?_⟩
          refine (ih child (List.mem_of_getElem? hGet)).mpr ⟨below, by simp, hChild⟩

/-- Places in two different children of a node are different. -/
theorem index_eq_of_append_eq {below below' place : Place} {i j : ℕ}
    (h : below ++ i :: place = below' ++ j :: place) : i = j := by
  have hLength := congrArg List.length h
  simp only [List.length_append, List.length_cons] at hLength
  have hTail := (List.append_inj h (by omega)).2
  exact (List.cons.inj hTail).1

/-- What is found below the children has the place of one of them at its end. -/
theorem mem_walkChildren {place target : Place} {i : ℕ} {children : List (RoseTree α)}
    (h : target ∈ (walkChildren place i children).map Prod.fst) :
    ∃ below j, i ≤ j ∧ target = below ++ j :: place := by
  rw [walkChildren_eq, List.mem_map] at h
  obtain ⟨⟨target, value⟩, hMem, rfl⟩ := h
  obtain ⟨⟨child, j⟩, hChild, hWalk⟩ := List.mem_flatMap.mp hMem
  obtain ⟨below, rfl, -⟩ := mem_walk.mp hWalk
  exact ⟨below, j, (List.mem_zipIdx hChild).1, rfl⟩

/-- The walks of two children have nothing in common, since their places end differently. -/
theorem nodup_walkChildren (place : Place) (children : List (RoseTree α))
    (hChildren : ∀ child ∈ children, ∀ place, ((walk place child).map Prod.fst).Nodup) (i : ℕ) :
    ((walkChildren place i children).map Prod.fst).Nodup := by
  induction children generalizing i with
  | nil => exact List.nodup_nil
  | cons child rest ih =>
      rw [walkChildren, List.map_append, List.nodup_append]
      refine ⟨hChildren child (by simp) _, ih (fun c hc => hChildren c (by simp [hc])) _, ?_⟩
      rintro target hFirst _ hRest rfl
      obtain ⟨⟨target, value⟩, hMem, rfl⟩ := List.mem_map.mp hFirst
      obtain ⟨below, rfl, -⟩ := mem_walk.mp hMem
      obtain ⟨below', j, hj, hEq⟩ := mem_walkChildren hRest
      have hIndex := index_eq_of_append_eq hEq
      omega

/-- The walk visits no place twice. -/
theorem nodup_walk (place : Place) (tree : RoseTree α) :
    ((walk place tree).map Prod.fst).Nodup := by
  induction tree using induct generalizing place with
  | hNode v children ih =>
      rw [walk, List.map_cons, List.nodup_cons]
      refine ⟨?_, nodup_walkChildren place children (fun child hChild => ih child hChild) 0⟩
      intro hMem
      obtain ⟨below, j, -, hEq⟩ := mem_walkChildren hMem
      have hLength := congrArg List.length hEq
      simp only [List.length_append, List.length_cons] at hLength
      omega

section Map

variable {β : Type u} (f : α → β)

mutual

/-- The same tree with other values. -/
def map : RoseTree α → RoseTree β
  | node value children => node (f value) (mapChildren children)

def mapChildren : List (RoseTree α) → List (RoseTree β)
  | [] => []
  | child :: rest => map child :: mapChildren rest

end

/-- The map as a single equation. -/
theorem mapChildren_eq (children : List (RoseTree α)) :
    mapChildren f children = children.map (map f) := by
  induction children with
  | nil => rfl
  | cons child rest ih => rw [mapChildren, ih, List.map_cons]

/-- A map keeps the shape of a tree. -/
theorem children_map (tree : RoseTree α) : (tree.map f).children = tree.children.map (map f) := by
  obtain ⟨value, children⟩ := tree
  rw [map, children_node, children_node, mapChildren_eq]

/-- A map keeps the places of a tree. -/
theorem subtree?_map (tree : RoseTree α) (place : Place) :
    (tree.map f).subtree? place = (tree.subtree? place).map (map f) := by
  induction place with
  | nil => rfl
  | cons i place ih =>
      rw [subtree?_cons, subtree?_cons, ih]
      cases tree.subtree? place with
      | none => rfl
      | some above => simp [children_map]

/-- A value is mapped where it stands. -/
theorem value?_map (tree : RoseTree α) (place : Place) :
    (tree.map f).value? place = (tree.value? place).map f := by
  rw [value?, value?, subtree?_map]
  cases tree.subtree? place with
  | none => rfl
  | some subtree =>
      obtain ⟨value, children⟩ := subtree
      rfl

end Map

end RoseTree
end EverestCore.Data
