import Mathlib.Logic.Function.Basic
import MediaPipeline.Graph.Partition

/-!
The groups of a node list. Splitting a list by kind forgets only how the kinds were mixed: each group
has all nodes of its kind in their order, the list is an interleaving of the five groups, and it is
an interleaving of no other five.
-/

namespace MediaPipeline

/-! ### Interleavings -/

/-- All elements of a family of lists in a row, those of each list in their order. -/
inductive Interleaves {ι α : Type} [DecidableEq ι] : (ι → List α) → List α → Prop
  | nil : Interleaves (fun _ => []) []
  | cons {parts : ι → List α} {xs : List α} (i : ι) (x : α) : Interleaves parts xs →
    Interleaves (Function.update parts i (x :: parts i)) (x :: xs)

/-- Where every list has the elements of one key, an interleaving tells which lists these are. -/
theorem Interleaves.eq_filter {ι α : Type} [DecidableEq ι] {key : α → ι} {parts : ι → List α}
    {xs : List α} (h : Interleaves parts xs) (hkey : ∀ i, ∀ x ∈ parts i, key x = i) (i : ι) :
    parts i = xs.filter fun x => key x = i := by
  induction h generalizing i with
  | nil => rfl
  | @cons parts xs j x _ ih =>
      have hx : key x = j := hkey j x (by simp)
      have hparts : ∀ i, ∀ y ∈ parts i, key y = i := by
        intro i y hy
        refine hkey i y ?_
        by_cases hi : i = j
        · subst hi
          simp [hy]
        · rwa [Function.update_of_ne hi]
      rw [List.filter_cons, ← ih hparts i]
      by_cases hi : i = j
      · subst hi
        simp [hx]
      · rw [Function.update_of_ne hi, if_neg]
        simpa [hx] using Ne.symm hi

/-! ### The groups of a partition -/

namespace Partition

variable {p q : Partition}

/-- The nodes of one kind. -/
def group (p : Partition) : NodeKind → List Node
  | .input => p.inputs.map .input
  | .option => p.options.map .option
  | .filter => p.filters.map .filter
  | .global => p.globals.map .global
  | .output => p.outputs.map .output

theorem kind_of_mem_group {k : NodeKind} {n : Node} (h : n ∈ p.group k) : n.kind = k := by
  cases k <;>
  · obtain ⟨m, -, rfl⟩ := List.mem_map.mp h
    rfl

theorem group_injective (h : p.group = q.group) : p = q := by
  have hgroup (k : NodeKind) : p.group k = q.group k := congrFun h k
  rw [mk.injEq]
  exact ⟨(List.map_inj_right fun _ _ => Node.input.inj).mp (hgroup .input),
    (List.map_inj_right fun _ _ => Node.option.inj).mp (hgroup .option),
    (List.map_inj_right fun _ _ => Node.filter.inj).mp (hgroup .filter),
    (List.map_inj_right fun _ _ => Node.global.inj).mp (hgroup .global),
    (List.map_inj_right fun _ _ => Node.output.inj).mp (hgroup .output)⟩

/-- A node goes in front of the group of its kind and leaves the others alone. -/
theorem group_cons (node : Node) (p : Partition) :
    (cons node p).group =
      Function.update p.group node.kind (node :: p.group node.kind) := by
  funext k
  cases node <;> cases k <;> rfl

theorem interleaves_cons {nodes : List Node} (node : Node) (h : Interleaves p.group nodes) :
    Interleaves (cons node p).group (node :: nodes) := by
  rw [group_cons]
  exact h.cons node.kind node

theorem interleaves_ofNodes (nodes : List Node) : Interleaves (ofNodes nodes).group nodes := by
  induction nodes with
  | nil =>
      have hempty : empty.group = fun _ => [] := by
        funext k
        cases k <;> rfl
      exact hempty ▸ Interleaves.nil
  | cons node nodes ih => exact interleaves_cons node ih

theorem group_ofNodes (nodes : List Node) (k : NodeKind) :
    (ofNodes nodes).group k = nodes.filter fun n => n.kind = k :=
  (interleaves_ofNodes nodes).eq_filter (fun _ _ hn => kind_of_mem_group hn) k

/-- Read from the front, each further node goes behind those of its kind. -/
theorem group_concat (nodes : List Node) (node : Node) :
    (ofNodes (nodes ++ [node])).group =
      Function.update (ofNodes nodes).group node.kind
        ((ofNodes nodes).group node.kind ++ [node]) := by
  funext k
  rw [group_ofNodes, List.filter_append, ← group_ofNodes]
  by_cases hk : k = node.kind
  · subst hk
    simp
  · rw [Function.update_of_ne hk]
    simp [Ne.symm hk]

theorem eq_ofNodes_of_interleaves {nodes : List Node} (h : Interleaves p.group nodes) :
    p = ofNodes nodes := by
  refine group_injective (funext fun k => ?_)
  rw [group_ofNodes]
  exact h.eq_filter (fun _ _ hn => kind_of_mem_group hn) k

theorem length_ofNodes (nodes : List Node) : (ofNodes nodes).length = nodes.length := by
  induction nodes with
  | nil => rfl
  | cons node nodes ih => rw [ofNodes_cons, length_cons, ih, List.length_cons]

end Partition

/-- A partition keeps every occurrence of every node, in the order of the nodes of its kind, and
nothing else; so it does at every moment while the list is read. Its groups are the only ones that
the list is an interleaving of, so that they have together as many nodes as the list, and none
exactly if the list is empty. -/
theorem partition_lossless (nodes : List Node) :
    (∀ k, (Partition.ofNodes nodes).group k = nodes.filter fun n => n.kind = k) ∧
    (∀ node, (Partition.ofNodes (nodes ++ [node])).group =
      Function.update (Partition.ofNodes nodes).group node.kind
        ((Partition.ofNodes nodes).group node.kind ++ [node])) ∧
    (∀ p : Partition, Interleaves p.group nodes ↔ p = Partition.ofNodes nodes) ∧
    (Partition.ofNodes nodes).length = nodes.length ∧
    ((Partition.ofNodes nodes).isEmpty = true ↔ nodes = []) := by
  refine ⟨Partition.group_ofNodes nodes, Partition.group_concat nodes,
    fun p => ⟨Partition.eq_ofNodes_of_interleaves, ?_⟩, Partition.length_ofNodes nodes, ?_⟩
  · rintro rfl
    exact Partition.interleaves_ofNodes nodes
  · rw [Partition.isEmpty, Partition.length_ofNodes, beq_iff_eq, List.length_eq_zero_iff]

/-- Equal nodes are kept as often as they occur; how they were mixed with others is forgotten. -/
example :
    Partition.ofNodes [.input ⟨"a.mp4", 0⟩, .option ⟨"-t", "10", []⟩, .input ⟨"a.mp4", 0⟩] =
      Partition.ofNodes [.option ⟨"-t", "10", []⟩, .input ⟨"a.mp4", 0⟩, .input ⟨"a.mp4", 0⟩] := rfl

end MediaPipeline
