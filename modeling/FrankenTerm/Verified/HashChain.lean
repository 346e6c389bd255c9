import Mathlib

/-!
# Hash chains

A hash chain is a list of nodes in which every node stores the digest of its
predecessor, and the first node stores a fixed start value.  Nothing here says
what a digest is: `hash` is any function on nodes and `prev` reads the stored
link, so no result depends on collision resistance.

Two operations keep a chain: appending a node that stores the current tip, and
rewriting one node followed by `relink`, which walks the rest of the list and
stores the recomputed digests.

## Main results

* `linked_append` — a chain is cut at any point into two chains.
* `linked_relink` — `relink` restores the chain, whatever it was given.
* `map_relink` — `relink` changes nothing but the links.
* `Linked.prev_getElem` — every node stores its predecessor's digest.
-/

namespace FrankenTerm.Verified.HashChain

variable {α δ : Type} (hash prev : α → δ)

/-- The nodes are linked when the predecessor of the first one has digest `start`. -/
def Linked : δ → List α → Prop
  | _, [] => True
  | start, node :: rest => prev node = start ∧ Linked (hash node) rest

/-- The digest a next node has to store. -/
def tip : δ → List α → δ
  | start, [] => start
  | _, node :: rest => tip (hash node) rest

@[simp] theorem tip_append (start : δ) (front back : List α) :
    tip hash start (front ++ back) = tip hash (tip hash start front) back := by
  induction front generalizing start with
  | nil => rfl
  | cons node _ ih => exact ih (hash node)

theorem tip_eq_getLast? (start : δ) (nodes : List α) :
    tip hash start nodes = (nodes.getLast?.map hash).getD start := by
  induction nodes generalizing start with
  | nil => rfl
  | cons node rest ih =>
    show tip hash (hash node) rest = _
    rw [ih (hash node)]
    cases h : rest.getLast? with
    | none => simp_all [List.getLast?_eq_none_iff]
    | some => simp [List.getLast?_cons, h]

/-- A chain is cut at any point into two chains. -/
theorem linked_append (start : δ) (front back : List α) :
    Linked hash prev start (front ++ back) ↔
      Linked hash prev start front ∧ Linked hash prev (tip hash start front) back := by
  induction front generalizing start with
  | nil => simp [Linked, tip]
  | cons node front ih =>
    show _ ∧ Linked hash prev (hash node) (front ++ back) ↔ _
    rw [ih (hash node), ← and_assoc]
    rfl

variable {hash prev}

/-- Every node but the first stores its predecessor's digest. -/
theorem Linked.prev_getElem {start : δ} {nodes : List α} (h : Linked hash prev start nodes)
    {i : Nat} {node next : α} (hNode : nodes[i]? = some node)
    (hNext : nodes[i + 1]? = some next) : prev next = hash node := by
  induction nodes generalizing start i with
  | nil => simp at hNode
  | cons _ rest ih =>
    cases i with
    | succ => exact ih h.2 hNode hNext
    | zero =>
      cases rest with
      | nil => simp at hNext
      | cons =>
        simp only [List.getElem?_cons_zero, List.getElem?_cons_succ,
          Option.some.injEq] at hNode hNext
        rw [← hNode, ← hNext]
        exact h.2.1

/-- The first node stores the start value. -/
theorem Linked.prev_head {start : δ} {nodes : List α} (h : Linked hash prev start nodes)
    {node : α} (hNode : nodes.head? = some node) : prev node = start := by
  cases nodes with
  | nil => simp at hNode
  | cons =>
    simp only [List.head?_cons, Option.some.injEq] at hNode
    exact hNode ▸ h.1

section Relink

variable (hash) (setPrev : δ → α → α)

/-- Store the recomputed digests from the front to the back. -/
def relink : δ → List α → List α
  | _, [] => []
  | start, node :: rest => setPrev start node :: relink (hash (setPrev start node)) rest

/-- `relink` restores the chain. -/
theorem linked_relink (hSet : ∀ start node, prev (setPrev start node) = start)
    (start : δ) (nodes : List α) :
    Linked hash prev start (relink hash setPrev start nodes) := by
  induction nodes generalizing start with
  | nil => trivial
  | cons node _ ih => exact ⟨hSet start node, ih _⟩

/-- A view of the nodes that does not see the links is not changed by `relink`. -/
theorem map_relink {β : Type} (view : α → β)
    (hView : ∀ start node, view (setPrev start node) = view node)
    (start : δ) (nodes : List α) :
    (relink hash setPrev start nodes).map view = nodes.map view := by
  induction nodes generalizing start with
  | nil => rfl
  | cons _ _ ih => simp [relink, hView, ih]

end Relink

end FrankenTerm.Verified.HashChain
