import ReplyRules.Traffic.Resource
import Mathlib.Data.List.Basic

/-!
Words of bits are sets.  A set contains a kind if the bit of the kind is set (`contains_iff_getLsbD`).
Setting this bit adds the kind and no other (`contains_insert`), so the set of a list has the members of the
list, and a filter lets pass the kinds that it lists, or every kind if it lists none (`contains_ofFilter`).
-/

namespace ReplyRules

namespace ResourceKind

theorem index_inj {k k' : ResourceKind} : k.index = k'.index ↔ k = k' := by
  cases k <;> cases k' <;> decide

theorem mem_all (k : ResourceKind) : k ∈ all := by
  cases k <;> decide

end ResourceKind

namespace ResourceSet

variable {k k' : ResourceKind} {s : ResourceSet} {kinds : List ResourceKind}

/-- Masked with the bit of a kind, a word is not zero exactly if it has this bit. -/
theorem contains_iff_getLsbD : s.contains k = true ↔ s.bits.getLsbD k.index.val = true := by
  show (s.bits &&& k.bit != 0#16) = true ↔ _
  rw [bne_iff_ne]
  constructor
  · intro hne
    by_contra hk
    -- the mask leaves at most the bit of the kind, and the word does not have this one
    apply hne
    apply BitVec.eq_of_getLsbD_eq
    intro i _
    rw [BitVec.getLsbD_and, BitVec.getLsbD_zero, Bool.and_eq_false_imp]
    intro hi
    rw [Bool.eq_false_iff, ne_eq, k.getLsbD_bit]
    rintro rfl
    exact hk hi
  · intro hk hzero
    have hbit := congrArg (BitVec.getLsbD · k.index.val) hzero
    simp [hk, (k.getLsbD_bit _).mpr] at hbit

theorem not_contains_empty (k : ResourceKind) : empty.contains k = false := by
  rw [Bool.eq_false_iff, ne_eq, contains_iff_getLsbD]
  simp [empty]

theorem contains_insert : (s.insert k).contains k' = true ↔ k' = k ∨ s.contains k' = true := by
  rw [contains_iff_getLsbD, contains_iff_getLsbD]
  show (s.bits ||| k.bit).getLsbD k'.index.val = true ↔ _
  rw [BitVec.getLsbD_or, Bool.or_eq_true, k.getLsbD_bit, ← Fin.ext_iff, ResourceKind.index_inj, or_comm]

theorem contains_foldl_insert :
    (kinds.foldl insert s).contains k = true ↔ k ∈ kinds ∨ s.contains k = true := by
  induction kinds generalizing s with
  | nil => simp
  | cons k' kinds ih =>
    rw [List.foldl_cons, ih, contains_insert, List.mem_cons]
    constructor
    · rintro (h | h | h)
      · exact .inl (.inr h)
      · exact .inl (.inl h)
      · exact .inr h
    · rintro ((h | h) | h)
      · exact .inr (.inl h)
      · exact .inl h
      · exact .inr (.inr h)

theorem contains_ofList : (ofList kinds).contains k = true ↔ k ∈ kinds := by
  rw [ofList, contains_foldl_insert, not_contains_empty]
  simp

theorem contains_all (k : ResourceKind) : all.contains k = true :=
  contains_ofList.mpr k.mem_all

/-- What a filter lets pass. -/
theorem contains_ofFilter {filter : Option (List ResourceKind)} :
    (ofFilter filter).contains k = true ↔ ∀ kinds ∈ filter, kinds = [] ∨ k ∈ kinds := by
  match filter with
  | none => simpa [ofFilter] using contains_all k
  | some [] => simpa [ofFilter] using contains_all k
  | some (k' :: kinds) =>
    rw [ofFilter, contains_ofList]
    · simp
    · simp

end ResourceSet

end ReplyRules
