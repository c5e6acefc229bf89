import Mathlib.Data.Set.Card
import MapQuery.Proofs.DataSet.Inside

/-!
# The number of nodes of a way

A way is asked for its number of nodes. The answer is the length of what it lists, less one where the last node
closes the way. A node that comes again anywhere else counts each time.

* `Geometry.opened` — what a way lists, up to the node that closes it.
* `Geometry.toFinset_opened` — no node is lost with the one that closes the way.
* `Consistent.ncard_lists`, `Consistent.countNodes_eq` — how many nodes there are, and how many are counted.
* `Reachable.nodes_counted_once` — when the two agree.
-/

namespace MapQuery

namespace Geometry

/-- What a way lists, up to the node that closes it. -/
def opened (nodes : List Int) : List Int :=
  if (line nodes).isClosed then nodes.dropLast else nodes

theorem isClosed_line {nodes : List Int} :
    (line nodes).isClosed = true ↔ 3 ≤ nodes.length ∧ nodes.head? = nodes.getLast? := by
  simp [isClosed]

/-- The node that closes a way is still there as its first one. -/
theorem toFinset_opened (nodes : List Int) : (opened nodes).toFinset = nodes.toFinset := by
  unfold opened
  split
  · next hclosed =>
    obtain ⟨hlength, hends⟩ := isClosed_line.mp hclosed
    match nodes, hlength with
    | first :: second :: rest, _ =>
      have hlast : first ∈ (first :: second :: rest).getLast? := hends.symm
      have hmem : first ∈ (first :: second :: rest).dropLast := List.mem_cons_self
      conv_rhs => rw [← List.dropLast_append_getLast? first hlast]
      rw [List.toFinset_append, List.toFinset_cons, List.toFinset_nil, Finset.union_insert,
        Finset.union_empty, Finset.insert_eq_of_mem (List.mem_toFinset.mpr hmem)]
  · rfl

theorem length_opened (nodes : List Int) :
    (opened nodes).length = if (line nodes).isClosed then nodes.length - 1 else nodes.length := by
  unfold opened
  split
  · exact List.length_dropLast
  · rfl

end Geometry

namespace DataSet

open MapQuery.Geometry (opened)

variable {d : DataSet} {x : Handle d} {nodes : List Int}

namespace Consistent

/-- As many nodes belong to a way as there are different ones in what is kept of it. -/
theorem ncard_lists (hd : d.Consistent) (h : x.entry.geometry = .line nodes) :
    {y : Handle d | x.Lists y}.ncard = nodes.toFinset.card := by
  classical
  have hset : {y : Handle d | x.Lists y} = (Primitive.children x).toFinset := by
    ext y
    rw [Set.mem_ofPred_eq, Finset.mem_coe, List.mem_toFinset, hd.mem_children]
  have hids : (Primitive.children x).map Handle.id = nodes.map (Id.mk .node) := by
    rw [hd.map_id_children, h]
    rfl
  have hhandle : Function.Injective (Handle.id (d := d)) := fun _ _ => Handle.eq_of_id_eq
  have hnode : Function.Injective (Id.mk .node) := fun _ _ heq => (Id.mk.inj heq).2
  calc {y : Handle d | x.Lists y}.ncard
      = (Primitive.children x).dedup.length := by rw [hset, Set.ncard_coe_finset, List.card_toFinset]
    _ = ((Primitive.children x).map Handle.id).dedup.length := by
      rw [List.dedup_map_of_injective hhandle, List.length_map]
    _ = (nodes.map (Id.mk .node)).dedup.length := by rw [hids]
    _ = nodes.toFinset.card := by
      rw [List.dedup_map_of_injective hnode, List.length_map, List.card_toFinset]

/-- What is counted is the length of the list up to the node that closes the way. -/
theorem countNodes_eq (hd : d.Consistent) (h : x.entry.geometry = .line nodes) :
    countNodes x = (opened nodes).length := by
  have hlength : (Primitive.wayNodes x).length = nodes.length := by
    have hids : (Primitive.wayNodes x).map Handle.id = _ := hd.map_id_wayNodes x h
    rw [← List.length_map (f := Handle.id), hids, List.length_map]
  have hclosed : Primitive.isClosed x = (Geometry.line nodes).isClosed := by
    show x.entry.geometry.isClosed = _
    rw [h]
  rw [countNodes, hlength, hclosed, Geometry.length_opened]
  cases hline : (Geometry.line nodes).isClosed with
  | false => simp
  | true =>
    obtain ⟨hthree, -⟩ := Geometry.isClosed_line.mp hline
    have hmany : 1 < nodes.length := by omega
    simp only [hmany, decide_true, Bool.and_self, if_true]
    omega

end Consistent

/-- The value that a query for the number of nodes takes for a way, in every data set that comes of the changes. It
is the length of what the way lists, less one where the way ends with the node that it begins with after two others
at least. It is never less than the number of different nodes of the way, and it is this number exactly if no node
comes twice up to the one that closes the way. -/
theorem Reachable.nodes_counted_once (hd : d.Reachable) (x : Handle d) (hkind : x.id.kind = .way) :
    ∃ nodes, x.entry.geometry = .line nodes ∧
      measure .nodes x = some ((opened nodes).length : Int) ∧
      {y : Handle d | x.Lists y}.ncard ≤ (opened nodes).length ∧
      (measure .nodes x = some ({y : Handle d | x.Lists y}.ncard : Int) ↔ (opened nodes).Nodup) := by
  have hgeometry := hd.consistent.kind_eq x
  rw [hkind] at hgeometry
  obtain ⟨nodes, hnodes⟩ : ∃ nodes, x.entry.geometry = .line nodes := by
    cases h : x.entry.geometry with
    | line nodes => exact ⟨nodes, rfl⟩
    | point c => rw [h] at hgeometry; cases hgeometry
    | group members => rw [h] at hgeometry; cases hgeometry
  have hvalue : measure .nodes x = some ((opened nodes).length : Int) := by
    rw [← hd.consistent.countNodes_eq hnodes]
    simp only [measure, show Primitive.kind x = .way from hkind]
  have hcard : {y : Handle d | x.Lists y}.ncard = (opened nodes).dedup.length := by
    rw [hd.consistent.ncard_lists hnodes, ← Geometry.toFinset_opened, List.card_toFinset]
  have hle : (opened nodes).dedup.length ≤ (opened nodes).length := (List.dedup_sublist _).length_le
  refine ⟨nodes, hnodes, hvalue, hcard ▸ hle, ?_⟩
  rw [hvalue, hcard, Option.some.injEq, Int.natCast_inj, ← List.dedup_eq_self]
  constructor
  · intro hlength
    exact (List.dedup_sublist _).eq_of_length hlength.symm
  · intro hself
    rw [hself]

/-- A closed way: of five entries four are counted, and there are four different nodes. -/
theorem nodes_counted_once_square :
    let d := empty.addWay 1 [2, 3, 4, 5, 2]
    d.Reachable ∧ ∃ x : Handle d, x.id.kind = .way ∧ measure .nodes x = some 4 ∧
      {y : Handle d | x.Lists y}.ncard = 4 := by
  intro d
  have hd : d.Reachable := .addWay .empty 1 _
  obtain ⟨x, hx, hid⟩ := handle?_of_contains (d := d) (x := ⟨.way, 1⟩) (by decide +kernel)
  have hkind : x.id.kind = .way := by rw [hid]
  have hmeasure : (d.handle? ⟨.way, 1⟩).map (measure .nodes) = some (some 4) := by decide +kernel
  rw [hx, Option.map_some, Option.some.injEq] at hmeasure
  obtain ⟨nodes, hnodes, -, -, hiff⟩ := hd.nodes_counted_once x hkind
  have hline : Geometry.line nodes = .line [2, 3, 4, 5, 2] := by
    rw [← hnodes, ← x.entryOf_id, hid]
    rfl
  cases hline
  have hcount := hiff.mpr (by decide)
  rw [hmeasure, Option.some.injEq] at hcount
  exact ⟨hd, x, hkind, hmeasure, by omega⟩

/-- A way that crosses itself at a node has three nodes, and four are counted. -/
theorem crossing_counted_twice :
    let d := empty.addWay 1 [2, 3, 2, 4]
    d.Reachable ∧ ∃ x : Handle d, x.id.kind = .way ∧ measure .nodes x = some 4 ∧
      {y : Handle d | x.Lists y}.ncard = 3 := by
  intro d
  have hd : d.Reachable := .addWay .empty 1 _
  obtain ⟨x, hx, hid⟩ := handle?_of_contains (d := d) (x := ⟨.way, 1⟩) (by decide +kernel)
  have hmeasure : (d.handle? ⟨.way, 1⟩).map (measure .nodes) = some (some 4) := by decide +kernel
  rw [hx, Option.map_some, Option.some.injEq] at hmeasure
  have hnodes : x.entry.geometry = .line [2, 3, 2, 4] := by
    rw [← x.entryOf_id, hid]
    rfl
  refine ⟨hd, x, by rw [hid], hmeasure, ?_⟩
  rw [hd.consistent.ncard_lists hnodes]
  decide

end DataSet

end MapQuery
