import Mathlib
import KeyedComposite.Markup.Node

/-! # Walking an element tree

Equal subtrees may stand at several places of a tree, so a node is told apart by its
address: the child indices on the way down from the root (`subtreeAt`). The nodes above an
address (`above`) are the subtrees at its proper prefixes, the root first. Document order
is the lexicographic order of addresses: a node comes before the nodes below it, and the
nodes below one child before those below a later child.

`visits` walks a tree once per address, in document order, and pairs the node at each
address with the nodes above it (`visits_every_address_once_in_order`). So `preorder` lists
the nodes at the addresses in that order and `find` keeps those of a local name.
-/
namespace KeyedComposite.Markup.Node

def subtreeAt (t : Node) : List Nat → Option Node
  | [] => some t
  | i :: p => t.children[i]?.bind (·.subtreeAt p)

@[simp] theorem subtreeAt_nil (t : Node) : t.subtreeAt [] = some t := rfl

@[simp] theorem subtreeAt_cons (t : Node) (i : Nat) (p : List Nat) :
    t.subtreeAt (i :: p) = t.children[i]?.bind (·.subtreeAt p) := rfl

/-- The nodes on the way from the root down to the parent of an address, the root first:
the subtrees at the address's proper prefixes, shortest first. -/
def above (t : Node) (p : List Nat) : List Node := p.inits.dropLast.filterMap t.subtreeAt

@[simp] theorem above_nil (t : Node) : t.above [] = [] := rfl

theorem above_cons {t c : Node} {i : Nat} (hc : t.children[i]? = some c) (p : List Nat) :
    t.above (i :: p) = t :: c.above p := by
  have hinits : p.inits.map (i :: ·) ≠ [] := by cases p <;> simp
  rw [above, List.inits_cons, List.dropLast_cons_of_ne_nil hinits,
    List.filterMap_cons_some (subtreeAt_nil t), ← List.map_dropLast, List.filterMap_map]
  congr 1
  apply List.filterMap_congr
  intro q _
  simp [hc]

mutual
/-- The addresses of a tree in document order: the root, then the addresses within each
child in turn. -/
def addresses : Node → List (List Nat)
  | .mk _ _ cs => [] :: addressesFrom 0 cs

def addressesFrom (i : Nat) : List Node → List (List Nat)
  | [] => []
  | c :: cs => c.addresses.map (i :: ·) ++ addressesFrom (i + 1) cs
end

theorem mem_addressesFrom {i : Nat} {cs : List Node} {p : List Nat} :
    p ∈ addressesFrom i cs ↔ ∃ j q c, p = (i + j) :: q ∧ cs[j]? = some c ∧ q ∈ c.addresses := by
  induction cs generalizing i with
  | nil => simp [addressesFrom]
  | cons c cs ih =>
    rw [addressesFrom, List.mem_append, List.mem_map, ih]
    constructor
    · rintro (⟨q, hq, rfl⟩ | ⟨j, q, d, rfl, hd, hq⟩)
      · exact ⟨0, q, c, rfl, rfl, hq⟩
      · exact ⟨j + 1, q, d, by rw [Nat.add_right_comm, Nat.add_assoc], hd, hq⟩
    · rintro ⟨_ | j, q, d, rfl, hd, hq⟩
      · exact .inl ⟨q, Option.some.inj hd ▸ hq, rfl⟩
      · exact .inr ⟨j, q, d, by rw [Nat.add_right_comm, Nat.add_assoc], hd, hq⟩

theorem mem_addresses {t : Node} {p : List Nat} : p ∈ t.addresses ↔ (t.subtreeAt p).isSome := by
  induction p generalizing t with
  | nil => cases t; simp [addresses]
  | cons i p ih =>
    obtain ⟨n, a, cs⟩ := t
    simp only [addresses, List.mem_cons, reduceCtorEq, false_or, mem_addressesFrom,
      Nat.zero_add, List.cons.injEq, subtreeAt_cons, children]
    constructor
    · rintro ⟨_, _, c, ⟨rfl, rfl⟩, hc, hq⟩
      simpa [hc] using ih.mp hq
    · intro h
      obtain ⟨c, hc⟩ := Option.isSome_iff_exists.mp (Option.isSome_of_isSome_bind h)
      rw [hc, Option.bind_some] at h
      exact ⟨i, p, c, ⟨rfl, rfl⟩, hc, ih.mpr h⟩

theorem head_le_of_mem_addressesFrom {i : Nat} {cs : List Node} {p : List Nat}
    (h : p ∈ addressesFrom i cs) : ∃ j q, p = j :: q ∧ i ≤ j := by
  obtain ⟨j, q, -, rfl, -⟩ := mem_addressesFrom.mp h
  exact ⟨i + j, q, rfl, Nat.le_add_right i j⟩

mutual
theorem addresses_sorted : ∀ t : Node, t.addresses.Pairwise (· < ·)
  | .mk _ _ cs => by
    rw [addresses, List.pairwise_cons]
    refine ⟨fun p hp => ?_, addressesFrom_sorted 0 cs⟩
    obtain ⟨j, q, rfl, -⟩ := head_le_of_mem_addressesFrom hp
    exact List.nil_lt_cons j q

theorem addressesFrom_sorted : ∀ (i : Nat) (cs : List Node), (addressesFrom i cs).Pairwise (· < ·)
  | _, [] => List.Pairwise.nil
  | i, c :: cs => by
    rw [addressesFrom, List.pairwise_append]
    refine ⟨(addresses_sorted c).map _ fun p q h => List.cons_lt_cons_iff.mpr (.inr ⟨rfl, h⟩),
      addressesFrom_sorted (i + 1) cs, ?_⟩
    intro p hp q hq
    obtain ⟨p', -, rfl⟩ := List.mem_map.mp hp
    obtain ⟨j, q', rfl, hj⟩ := head_le_of_mem_addressesFrom hq
    exact List.cons_lt_cons_iff.mpr (.inl (by omega))
end

example : (Node.mk ⟨"", "a"⟩ [] [.mk ⟨"", "b"⟩ [] [], .mk ⟨"", "c"⟩ [] [.mk ⟨"", "d"⟩ [] []]]
    ).addresses = [[], [0], [1], [1, 0]] := rfl

/-- A visit of `t` stands for the address `p`: its node is the one there, and its ancestors
are the given ones followed by the nodes above `p`. -/
def VisitAt (t : Node) (ancestors : List Node) (v : Node × List Node) (p : List Nat) : Prop :=
  t.subtreeAt p = some v.1 ∧ v.2 = ancestors ++ t.above p

theorem visitAt_cons {t c : Node} {i : Nat} (hc : t.children[i]? = some c)
    {ancestors : List Node} {v : Node × List Node} {q : List Nat}
    (h : VisitAt c (ancestors ++ [t]) v q) : VisitAt t ancestors v (i :: q) := by
  obtain ⟨hnode, hpath⟩ := h
  refine ⟨by simp [hc, hnode], ?_⟩
  rw [hpath, above_cons hc, List.append_assoc, List.singleton_append]

mutual
theorem visits_forall₂ : ∀ (ancestors : List Node) (t : Node),
    List.Forall₂ (VisitAt t ancestors) (visits ancestors t) t.addresses
  | ancestors, .mk n a cs => by
    rw [visits, addresses, List.forall₂_cons]
    exact ⟨⟨rfl, by simp⟩, visitsAll_forall₂ ancestors (.mk n a cs) 0 cs (List.drop_zero)⟩

theorem visitsAll_forall₂ : ∀ (ancestors : List Node) (t : Node) (i : Nat) (cs : List Node),
    t.children.drop i = cs →
    List.Forall₂ (VisitAt t ancestors) (visitsAll (ancestors ++ [t]) cs) (addressesFrom i cs)
  | _, _, _, [], _ => by rw [visitsAll, addressesFrom]; exact List.Forall₂.nil
  | ancestors, t, i, c :: cs, hdrop => by
    have hc : t.children[i]? = some c := by
      rw [← Nat.add_zero i, ← List.getElem?_drop, hdrop]
      rfl
    have hrest : t.children.drop (i + 1) = cs := by
      rw [← List.tail_drop, hdrop, List.tail_cons]
    rw [visitsAll, addressesFrom]
    refine List.rel_append ?_ (visitsAll_forall₂ ancestors t (i + 1) cs hrest)
    rw [List.forall₂_map_right_iff]
    exact (visits_forall₂ (ancestors ++ [t]) c).imp fun _ _ h => visitAt_cons hc h
end

theorem map_fst_eq_filterMap {t : Node} {ancestors : List Node} :
    ∀ {vs : List (Node × List Node)} {ps : List (List Nat)},
      List.Forall₂ (VisitAt t ancestors) vs ps → vs.map (·.1) = ps.filterMap t.subtreeAt
  | [], [], .nil => rfl
  | _ :: _, _ :: _, .cons h hs => by
    rw [List.map_cons, List.filterMap_cons_some h.1, map_fst_eq_filterMap hs]

/-- A walk visits every address of the tree once, in document order, with the node there
and the path of nodes from the root down to its parent; so `find` returns the nodes of a
local name in document order. -/
theorem visits_every_address_once_in_order (root : Node) :
    ∃ ps : List (List Nat), ps.Pairwise (· < ·) ∧ (∀ p, p ∈ ps ↔ (root.subtreeAt p).isSome) ∧
      List.Forall₂ (fun v p => root.subtreeAt p = some v.1 ∧ v.2 = root.above p)
        (visits [] root) ps ∧
      ∀ key, root.find key = (ps.filterMap root.subtreeAt).filter (·.localName == key) := by
  have hwalk := visits_forall₂ [] root
  refine ⟨root.addresses, addresses_sorted root, fun p => mem_addresses, ?_, fun key => ?_⟩
  · exact hwalk.imp fun _ _ h => ⟨h.1, by rw [h.2, List.nil_append]⟩
  · rw [find, preorder, map_fst_eq_filterMap hwalk]

end KeyedComposite.Markup.Node
