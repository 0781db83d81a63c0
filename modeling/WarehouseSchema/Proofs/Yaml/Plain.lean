import WarehouseSchema.Plain
import WarehouseSchema.Proofs.Outcome
import WarehouseSchema.Proofs.Yaml.Node
import WarehouseSchema.Yaml.Document

/-!
Plain data as nodes. Data without numbers, whose maps have no key twice, is the value of its node. Main
statement: a text with this node is read as the data.
-/

namespace WarehouseSchema

namespace Plain

open Yaml

mutual

/-- The node of plain data; numbers and maps with a repeated key have none. -/
def node? : Plain → Option Node
  | .null => some (.scalar .null "null")
  | .bool b => some (.scalar .bool (if b then "true" else "false"))
  | .int _ | .float _ => none
  | .text s => some (.scalar .text s)
  | .list items => (itemNodes? items).map (.sequence .sequence)
  | .map entries =>
    if (entries.map (·.1)).Nodup then (entryNodes? entries).map (.mapping .mapping) else none

def itemNodes? : List Plain → Option (List Node)
  | [] => some []
  | p :: rest => do return (← node? p) :: (← itemNodes? rest)

def entryNodes? : List (String × Plain) → Option (List (Node × Node))
  | [] => some []
  | (key, p) :: rest => do return (.scalar .text key, ← node? p) :: (← entryNodes? rest)

end

/-- Entries are put one after the other as long as no key comes twice. -/
theorem foldl_putEntry {entries : List (String × Plain)} (h : (entries.map (·.1)).Nodup)
    {before : List (Value × Value)}
    (hbefore : ∀ e ∈ before, ∀ key ∈ entries.map (·.1), e.1.sameKey (.text key) = false) :
    (toEntries entries).foldl (fun es e => Value.putEntry es e.1 e.2) before =
      before ++ toEntries entries := by
  induction entries generalizing before with
  | nil => rw [toEntries, List.foldl_nil, List.append_nil]
  | cons e entries ih =>
    obtain ⟨key, p⟩ := e
    rw [List.map_cons, List.nodup_cons] at h
    have hput : Value.putEntry before (.text key) p.toValue = before ++ [(.text key, p.toValue)] := by
      have hany : (before.any fun e => e.1.sameKey (.text key)) = false := by
        rw [List.any_eq_false]
        intro e he
        simp [hbefore e he key (by simp)]
      rw [Value.putEntry, hany, if_neg (by simp)]
    rw [toEntries, List.foldl_cons, hput, ih h.2, List.append_assoc, List.singleton_append]
    intro e he other hother
    rcases List.mem_append.mp he with he | he
    · exact hbefore e he other (List.mem_cons_of_mem _ hother)
    · rw [List.mem_singleton.mp he]
      have hne : key ≠ other := fun heq => h.1 (heq ▸ hother)
      simpa [Value.sameKey] using hne

theorem makeChild_eq_ok {n : Node} {v : Value} (h : n.make = .ok v) : n.makeChild = .ok v := by
  unfold Node.makeChild
  rw [h]
  split <;> rfl

theorem canMerge_entryNodes {entries : List (String × Plain)} {ns : List (Node × Node)}
    (h : entryNodes? entries = some ns) : Node.canMerge ns = true := by
  induction entries generalizing ns with
  | nil =>
    obtain rfl := Option.some.inj h
    rw [Node.canMerge]
  | cons e entries ih =>
    simp only [entryNodes?, Option.bind_eq_bind, Option.bind_eq_some_iff] at h
    obtain ⟨n, _, rest, hrest, h⟩ := h
    obtain rfl := Option.some.inj h
    rw [Node.canMerge, ih hrest]
    rfl

mutual

theorem make_node : ∀ {p : Plain} {n : Node}, p.node? = some n → n.make = .ok p.toValue
  | .null, n, h => by
    obtain rfl := Option.some.inj h
    rw [Node.make]
    rfl
  | .bool b, n, h => by
    obtain rfl := Option.some.inj h
    rw [Node.make]
    cases b <;> rfl
  | .int _, n, h | .float _, n, h => by simp [node?] at h
  | .text s, n, h => by
    obtain rfl := Option.some.inj h
    rw [Node.make]
    rfl
  | .list items, n, h => by
    obtain ⟨ns, hns, rfl⟩ := Option.map_eq_some_iff.mp h
    rw [Node.make, makeItems_itemNodes hns]
    rfl
  | .map entries, n, h => by
    rw [node?] at h
    split at h
    · rename_i hnodup
      obtain ⟨ns, hns, rfl⟩ := Option.map_eq_some_iff.mp h
      have hput : (toEntries entries).foldl (fun es e => Value.putEntry es e.1 e.2) [] =
          toEntries entries := foldl_putEntry hnodup (by simp)
      simp only [Node.make, Node.makeMapping, canMerge_entryNodes hns, makeEntries_entryNodes hns,
        Made.map, Node.Entries.all, List.nil_append, if_true, hput, toValue]
    · simp at h

theorem makeItems_itemNodes : ∀ {ps : List Plain} {ns : List Node}, itemNodes? ps = some ns →
    Node.makeItems ns = .ok (toValues ps)
  | [], ns, h => by
    obtain rfl := Option.some.inj h
    rw [Node.makeItems, toValues]
  | p :: ps, ns, h => by
    simp only [itemNodes?, Option.bind_eq_bind, Option.bind_eq_some_iff] at h
    obtain ⟨n, hn, rest, hrest, h⟩ := h
    obtain rfl := Option.some.inj h
    rw [Node.makeItems, makeChild_eq_ok (make_node hn), makeItems_itemNodes hrest, toValues]
    rfl

theorem makeEntries_entryNodes : ∀ {es : List (String × Plain)} {ns : List (Node × Node)},
    entryNodes? es = some ns → Node.makeEntries ns = .ok ([], toEntries es)
  | [], ns, h => by
    obtain rfl := Option.some.inj h
    rw [Node.makeEntries, toEntries]
  | (key, p) :: es, ns, h => by
    simp only [entryNodes?, Option.bind_eq_bind, Option.bind_eq_some_iff] at h
    obtain ⟨n, hn, rest, hrest, h⟩ := h
    obtain rfl := Option.some.inj h
    have hkey : Node.makeKey (.scalar .text key) = .ok (.text key) := by
      simp [Node.makeKey, Node.tag, Tag.isCollection, Node.make, readScalar, Made.ofExcept]
    have htag : (Node.scalar .text key).tag ≠ .merge := by simp [Node.tag]
    rw [Node.makeEntries, if_neg htag, hkey, makeChild_eq_ok (make_node hn),
      makeEntries_entryNodes hrest, toEntries]
    rfl

end

mutual

/-- Plain data takes nothing over. -/
theorem mergeDepth_node : ∀ {p : Plain} {n : Node}, p.node? = some n → n.mergeDepth = 0
  | .null, n, h | .bool _, n, h | .text _, n, h => by
    obtain rfl := Option.some.inj h
    rw [Node.mergeDepth]
  | .int _, n, h | .float _, n, h => by simp [node?] at h
  | .list items, n, h => by
    obtain ⟨ns, hns, rfl⟩ := Option.map_eq_some_iff.mp h
    rw [Node.mergeDepth, mergeDepth_itemNodes hns]
  | .map entries, n, h => by
    rw [node?] at h
    split at h
    · obtain ⟨ns, hns, rfl⟩ := Option.map_eq_some_iff.mp h
      rw [Node.mergeDepth, mergeDepth_entryNodes hns]
    · simp at h

theorem mergeDepth_itemNodes : ∀ {ps : List Plain} {ns : List Node}, itemNodes? ps = some ns →
    Node.mergeDepthOfItems ns = 0
  | [], ns, h => by
    obtain rfl := Option.some.inj h
    rw [Node.mergeDepthOfItems]
  | p :: ps, ns, h => by
    simp only [itemNodes?, Option.bind_eq_bind, Option.bind_eq_some_iff] at h
    obtain ⟨n, hn, rest, hrest, h⟩ := h
    obtain rfl := Option.some.inj h
    rw [Node.mergeDepthOfItems, mergeDepth_node hn, mergeDepth_itemNodes hrest, Nat.max_self]

theorem mergeDepth_entryNodes : ∀ {es : List (String × Plain)} {ns : List (Node × Node)},
    entryNodes? es = some ns → Node.mergeDepthOfEntries ns = 0
  | [], ns, h => by
    obtain rfl := Option.some.inj h
    rw [Node.mergeDepthOfEntries]
  | (key, p) :: es, ns, h => by
    simp only [entryNodes?, Option.bind_eq_bind, Option.bind_eq_some_iff] at h
    obtain ⟨n, hn, rest, hrest, h⟩ := h
    obtain rfl := Option.some.inj h
    have htag : (Node.scalar .text key).tag ≠ .merge := by simp [Node.tag]
    rw [Node.mergeDepthOfEntries, if_neg htag, mergeDepth_node hn, mergeDepth_entryNodes hrest,
      Node.mergeDepth]
    rfl

end

end Plain

namespace Yaml

/-- A text with the node of plain data is read as the data. -/
theorem read_of_node {text : String} {cs : List Char} {p : Plain} (htext : text = String.ofList cs)
    (hp : p.node?.isSome) (h : (Node.ofChars? cs).toOption = some p.node?) :
    read text = .ok p.toValue := by
  obtain ⟨n, hn⟩ := Option.isSome_iff_exists.mp hp
  have hchars : Node.ofChars? text.toList = .ok (some n) := by
    rw [htext, String.toList_ofList]
    rw [hn] at h
    cases hc : Node.ofChars? cs with
    | error fault => simp [hc, Except.toOption] at h
    | ok n' => simpa [hc, Except.toOption] using h
  refine bind_eq_ok_iff.mpr ⟨_, hchars, ?_⟩
  have hfollowed : ¬ Reading.depthLimit < n.mergeDepth := by
    rw [Plain.mergeDepth_node hn]
    exact Nat.not_lt_zero _
  simp only [if_neg hfollowed, Plain.make_node hn]
  rfl

end Yaml

end WarehouseSchema
