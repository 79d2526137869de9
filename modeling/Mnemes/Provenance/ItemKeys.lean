import Mnemes.Lib.Lists
import Mnemes.Provenance.Edges

/-!
# Keys of items

An item is written as `kind:id`, and the traversal of a lineage, the `CHECK` of the edges and the
parser take that text for the item. The first colon ends the kind for them, but nothing keeps a
colon out of a kind: the keys are faithful exactly on sets of items whose kinds have none
(`item_keys_faithful_iff`).
-/

namespace Mnemes

/-- `MemoryItemRef::new` accepts the item. -/
def MemoryItemRef.Accepted (item : MemoryItemRef) : Prop :=
  MemoryItemRef.new item.kind item.id = .ok item

instance (item : MemoryItemRef) : Decidable item.Accepted := inferInstanceAs (Decidable (_ = _))

/-- What the callers rely on of the keys of some items: they parse back, they tell the items apart,
a set of visited keys is one of visited items, and the check of an edge is that its ends differ. -/
structure KeysFaithful (items : Set MemoryItemRef) : Prop where
  parse : ∀ x ∈ items, MemoryItemRef.parseKey x.canonicalKey = .ok x
  injective : Set.InjOn MemoryItemRef.canonicalKey items
  visited : ∀ visited : List MemoryItemRef, (∀ y ∈ visited, y ∈ items) → ∀ x ∈ items,
    (x.canonicalKey ∈ visited.map MemoryItemRef.canonicalKey ↔ x ∈ visited)
  distinct : ∀ row : ProvenanceEdgeRow, row.source ∈ items → row.target ∈ items →
    (row.source.canonicalKey ≠ row.target.canonicalKey ↔ row.source ≠ row.target)

namespace MemoryItemRef

/-- An item is accepted exactly if neither its kind nor its identity is blank. -/
theorem accepted_iff {item : MemoryItemRef} :
    item.Accepted ↔ ¬ (trim item.kind).isEmpty = true ∧ ¬ (trim item.id).isEmpty = true := by
  unfold Accepted new
  split
  · next h => simp [h]
  · next h =>
    split
    · next h' => simp [h']
    · next h' => simp [h, h']

/-- A text that is not blank is not empty. -/
theorem ne_empty_of_trim {s : String} (h : ¬ (trim s).isEmpty = true) : ¬ s.isEmpty = true := by
  intro hs
  rw [String.isEmpty_iff] at hs
  subst hs
  exact h (by decide +kernel)

/-- A key parses to its item exactly if the kind has no colon. -/
theorem parseKey_canonicalKey {item : MemoryItemRef} (h : item.Accepted) :
    parseKey item.canonicalKey = .ok item ↔ ':' ∉ item.kind.toList := by
  obtain ⟨hkind, hid⟩ := accepted_iff.1 h
  have hkey : item.canonicalKey = item.kind ++ String.singleton ':' ++ item.id := rfl
  constructor
  · intro hparse hcolon
    -- the key splits before the end of the kind
    cases hsplit : splitOnce item.canonicalKey ':' with
    | none =>
      simp [parseKey, hsplit] at hparse
    | some parts =>
      obtain ⟨kind, id⟩ := parts
      obtain ⟨-, hnot⟩ := splitOnce_eq_some.1 hsplit
      simp only [parseKey, hsplit, Option.getD_some] at hparse
      split at hparse
      · cases hparse
      · obtain rfl := new_eq_ok hparse
        exact hnot hcolon
  · intro hnot
    have hsplit : splitOnce item.canonicalKey ':' = some (item.kind, item.id) :=
      splitOnce_eq_some.2 ⟨hkey, hnot⟩
    simp only [parseKey, hsplit, Option.getD_some]
    rw [if_neg]
    · exact h
    · simp [ne_empty_of_trim hkind, ne_empty_of_trim hid]

end MemoryItemRef

/-- On accepted items, keys are faithful exactly if no kind has a colon. -/
theorem item_keys_faithful_iff {items : Set MemoryItemRef} (h : ∀ x ∈ items, x.Accepted) :
    KeysFaithful items ↔ ∀ x ∈ items, ':' ∉ x.kind.toList := by
  constructor
  · exact fun hkeys x hx => (MemoryItemRef.parseKey_canonicalKey (h x hx)).1 (hkeys.parse x hx)
  · intro hkinds
    have hparse : ∀ x ∈ items, MemoryItemRef.parseKey x.canonicalKey = .ok x := fun x hx =>
      (MemoryItemRef.parseKey_canonicalKey (h x hx)).2 (hkinds x hx)
    have hinjective : Set.InjOn MemoryItemRef.canonicalKey items := by
      intro x hx y hy hxy
      have hy' := hparse y hy
      rw [← hxy, hparse x hx] at hy'
      exact Except.ok.inj hy'
    refine ⟨hparse, hinjective, fun visited hvisited x hx => ⟨fun hmem => ?_, List.mem_map_of_mem⟩,
      fun row hsource htarget => (hinjective.eq_iff hsource htarget).not⟩
    obtain ⟨y, hy, hkey⟩ := List.mem_map.1 hmem
    exact hinjective (hvisited y hy) hx hkey ▸ hy

namespace Sample

/-- An item whose kind has a colon, and another one with its key. -/
def colonKind : MemoryItemRef := ⟨"a:b", "c"⟩

def colonId : MemoryItemRef := ⟨"a", "b:c"⟩

end Sample

open Sample in
/-- Two items without a colon in their kinds have faithful keys. -/
theorem item_keys_faithful_iff_sample : KeysFaithful {colonId, ⟨"b", "c"⟩} :=
  (@item_keys_faithful_iff {colonId, ⟨"b", "c"⟩} (by rintro x (rfl | rfl) <;> decide +kernel)).2
    (by rintro x (rfl | rfl) <;> decide +kernel)

open Sample in
/-- Two accepted items have one key, which parses to the second. -/
theorem colon_kind_confused : colonKind.Accepted ∧ colonId.Accepted ∧ colonKind ≠ colonId ∧
    colonKind.canonicalKey = colonId.canonicalKey ∧
    MemoryItemRef.parseKey colonKind.canonicalKey ≠ .ok colonKind := by
  refine ⟨by decide +kernel, by decide +kernel, by decide, by decide +kernel, by decide +kernel⟩

end Mnemes
