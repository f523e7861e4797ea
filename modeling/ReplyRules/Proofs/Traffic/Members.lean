import ReplyRules.Proofs.Traffic.Resource
import Mathlib.Data.Fintype.Basic
import Mathlib.Data.Finset.Card

/-!
A word of bits as a finite set.  Each kind has a bit of the word, and a bit that is set is the bit of a kind.
So a word is told by its members (`ResourceSet.ext_contains`), and there are as many bits set in it as it
lists members (`ResourceSet.size_eq_length_toList`).  All that a set says of itself then follows from what
it contains (`ResourceSet.represents_of_contains_iff`), and what it contains is known however it is made.

Main result: a set that is made from a list or from a filter, and to which kinds are added then, is the
finite set of these kinds (`ResourceSet.foldl_insert_represents`).
-/

namespace ReplyRules

namespace ResourceKind

instance : Fintype ResourceKind where
  elems := all.toFinset
  complete k := List.mem_toFinset.mpr k.mem_all

/-- The kinds take the places from 0 on, one after the other. -/
theorem map_index_all : all.map (·.index.val) = List.range 14 := rfl

theorem pairwise_all : all.Pairwise (·.index < ·.index) := by
  show all.Pairwise fun k k' => k.index.val < k'.index.val
  rw [← List.pairwise_map, map_index_all]
  exact List.pairwise_lt_range

end ResourceKind

namespace ResourceSet

variable {k : ResourceKind} {s t : ResourceSet} {members : Finset ResourceKind}

/-! ### Words are told by their members -/

theorem getLsbD_bits_of_contains (h : ∀ k, s.contains k = true → t.contains k = true) {i : Nat}
    (hi : s.bits.getLsbD i = true) : t.bits.getLsbD i = true := by
  obtain ⟨k, rfl⟩ := s.exists_index_eq i hi
  exact contains_iff_getLsbD.mp (h k (contains_iff_getLsbD.mpr hi))

/-- **Sets with the same members are the same.** -/
theorem ext_contains (h : ∀ k, s.contains k = true ↔ t.contains k = true) : s = t := by
  have hbits : s.bits = t.bits := by
    -- membership says nothing of the bits above the kinds; they are equal as neither word has them set
    apply BitVec.eq_of_getLsbD_eq
    intro i _
    rw [Bool.eq_iff_iff]
    exact ⟨getLsbD_bits_of_contains fun k => (h k).mp, getLsbD_bits_of_contains fun k => (h k).mpr⟩
  cases s
  cases t
  congr

/-! ### The bits that are set -/

/-- The bits that are set are counted one by one. -/
theorem cpopNatRec_eq_countP {w : Nat} (x : BitVec w) (n : Nat) :
    x.cpopNatRec n 0 = (List.range n).countP x.getLsbD := by
  induction n with
  | zero => rfl
  | succ n ih =>
    rw [BitVec.cpopNatRec_succ, BitVec.cpopNatRec_add, ih, List.range_succ, List.countP_append,
      List.countP_singleton]
    cases x.getLsbD n <;> rfl

/-- **As many bits are set as members are listed.**  The two bits that stand for no kind are not. -/
theorem size_eq_length_toList (s : ResourceSet) : s.size = s.toList.length := by
  -- the places of the word are those of the kinds, one for each in their order, and two more
  have hunused : [14, 15].countP s.bits.getLsbD = 0 := by
    rw [List.countP_eq_zero]
    intro i hi hset
    obtain ⟨k, rfl⟩ := s.exists_index_eq i hset
    have hk := k.index.isLt
    simp only [List.mem_cons, List.not_mem_nil, or_false] at hi
    omega
  have hcontains : s.contains = fun k => s.bits.getLsbD k.index.val := by
    funext k
    rw [Bool.eq_iff_iff]
    exact contains_iff_getLsbD
  calc s.size
    _ = (List.range 14 ++ [14, 15]).countP s.bits.getLsbD := by
      rw [size, BitVec.toNat_cpop, cpopNatRec_eq_countP]
      rfl
    _ = (ResourceKind.all.map (·.index.val)).countP s.bits.getLsbD := by
      rw [List.countP_append, hunused, ResourceKind.map_index_all, Nat.add_zero]
    _ = ResourceKind.all.countP s.contains := by
      rw [List.countP_map, hcontains]
      rfl
    _ = s.toList.length := List.countP_eq_length_filter

/-! ### What a set says of itself -/

theorem mem_toList : k ∈ s.toList ↔ s.contains k = true := by
  rw [toList, List.mem_filter]
  exact and_iff_right k.mem_all

theorem pairwise_toList (s : ResourceSet) : s.toList.Pairwise (·.index < ·.index) :=
  ResourceKind.pairwise_all.filter _

theorem nodup_toList (s : ResourceSet) : s.toList.Nodup :=
  s.pairwise_toList.imp fun hlt heq => absurd (heq ▸ hlt) (lt_irrefl _)

/-- All that a set says of itself is as it is for a finite set with the given members: which kinds it
contains, how many these are, each of them once and in their order, and whether they are all or none. -/
structure Represents (s : ResourceSet) (members : Finset ResourceKind) : Prop where
  contains_iff : ∀ k, s.contains k = true ↔ k ∈ members
  size_eq : s.size = members.card
  mem_toList_iff : ∀ k, k ∈ s.toList ↔ k ∈ members
  pairwise : s.toList.Pairwise (·.index < ·.index)
  isAll_iff : s.isAll = true ↔ members = Finset.univ
  isEmpty_iff : s.isEmpty = true ↔ members = ∅

theorem represents_of_contains_iff (h : ∀ k, s.contains k = true ↔ k ∈ members) :
    s.Represents members where
  contains_iff := h
  size_eq := by
    have hmembers : s.toList.toFinset = members := by
      ext k
      rw [List.mem_toFinset, mem_toList, h]
    rw [size_eq_length_toList, ← hmembers, List.toFinset_card_of_nodup s.nodup_toList]
  mem_toList_iff k := mem_toList.trans (h k)
  pairwise := s.pairwise_toList
  isAll_iff := by
    rw [isAll, beq_iff_eq, Finset.eq_univ_iff_forall]
    constructor
    · rintro rfl k
      exact (h k).mp (contains_all k)
    · intro hall
      -- the comparison is one of words, so that the members have to fix every bit
      exact ext_contains fun k => iff_of_true ((h k).mpr (hall k)) (contains_all k)
  isEmpty_iff := by
    have hnot : ∀ k, ¬ empty.contains k = true := fun k => Bool.eq_false_iff.mp (not_contains_empty k)
    rw [isEmpty, beq_iff_eq, Finset.eq_empty_iff_forall_notMem]
    constructor
    · rintro rfl k hk
      exact hnot k ((h k).mpr hk)
    · intro hnone
      exact ext_contains fun k => iff_of_false (fun hk => hnone k ((h k).mp hk)) (hnot k)

/-- There is one word for each finite set. -/
theorem Represents.eq_iff {members' : Finset ResourceKind} (hs : s.Represents members)
    (ht : t.Represents members') : s = t ↔ members = members' := by
  constructor
  · rintro rfl
    ext k
    rw [← hs.contains_iff, ht.contains_iff]
  · rintro rfl
    exact ext_contains fun k => (hs.contains_iff k).trans (ht.contains_iff k).symm

/-! ### How sets are made -/

/-- Kinds that are added, in any order and again and again, are so many more members. -/
theorem Represents.foldl_insert (h : s.Represents members) (added : List ResourceKind) :
    (added.foldl insert s).Represents (members ∪ added.toFinset) := by
  refine represents_of_contains_iff fun k => ?_
  rw [contains_foldl_insert, h.contains_iff, Finset.mem_union, List.mem_toFinset, or_comm]

/-- What a set is made from at first: the kinds of a list, or those that a filter lets pass. -/
inductive Origin where
  | list (kinds : List ResourceKind)
  | filter (kinds : Option (List ResourceKind))

namespace Origin

/-- The set that is made. -/
def set : Origin → ResourceSet
  | list kinds => ofList kinds
  | filter kinds => ofFilter kinds

/-- The kinds it is meant to have: all of them for a filter that is missing or lists none. -/
def kinds : Origin → Finset ResourceKind
  | list kinds => kinds.toFinset
  | filter none => Finset.univ
  | filter (some kinds) => if kinds = [] then Finset.univ else kinds.toFinset

theorem represents : ∀ origin : Origin, origin.set.Represents origin.kinds
  | list kinds => represents_of_contains_iff fun k => by
      rw [set, contains_ofList, Origin.kinds, List.mem_toFinset]
  | filter none => represents_of_contains_iff fun k => by
      simp [set, Origin.kinds, contains_ofFilter]
  | filter (some kinds) => represents_of_contains_iff fun k => by
      rw [set, contains_ofFilter, Origin.kinds]
      by_cases hnone : kinds = [] <;> simp [hnone]

end Origin

/-- **Sets are finite sets.**  A set that is made from a list or from a filter, and to which kinds are added
then, has just these kinds: in what it contains, in how many it counts, in those that it lists, and in
whether it has all or none.  Two sets that are made so are the same exactly if they are made of the same
kinds, however these are ordered and repeated.  Of no set does an added kind change whether another kind is
in it. -/
theorem foldl_insert_represents (origin : Origin) (added : List ResourceKind) :
    (added.foldl insert origin.set).Represents (origin.kinds ∪ added.toFinset) ∧
      (∀ (origin' : Origin) (added' : List ResourceKind),
        added.foldl insert origin.set = added'.foldl insert origin'.set ↔
          origin.kinds ∪ added.toFinset = origin'.kinds ∪ added'.toFinset) ∧
      ∀ (s : ResourceSet) (k k' : ResourceKind), k' ≠ k →
        (s.insert k).contains k' = s.contains k' := by
  have hmade : ∀ (origin : Origin) (added : List ResourceKind),
      (added.foldl insert origin.set).Represents (origin.kinds ∪ added.toFinset) :=
    fun origin added => origin.represents.foldl_insert added
  refine ⟨hmade origin added, fun origin' added' => ?_, fun s k k' hne => ?_⟩
  · exact (hmade origin added).eq_iff (hmade origin' added')
  · rw [Bool.eq_iff_iff, contains_insert]
    exact or_iff_right hne

/-- A filter with a repetition, and a kind that it has already among the added ones. -/
theorem foldl_insert_represents_repeated :
    ([.image, .mainFrame].foldl insert (ofFilter (some [.other, .image, .other]))).Represents
        {.mainFrame, .image, .other} ∧
      [.image, .mainFrame].foldl insert (ofFilter (some [.other, .image, .other])) =
        ofList [.mainFrame, .image, .other] ∧
      ResourceKind.other ≠ .webbundle ∧
      ((ofList [.other]).insert .webbundle).contains .other = (ofList [.other]).contains .other := by
  obtain ⟨hrepresents, heq, hother⟩ :=
    foldl_insert_represents (.filter (some [.other, .image, .other])) [.image, .mainFrame]
  refine ⟨?_, ?_, by decide, hother (ofList [.other]) .webbundle .other (by decide)⟩
  · have hkinds : ({.mainFrame, .image, .other} : Finset ResourceKind) =
        Origin.kinds (.filter (some [.other, .image, .other])) ∪ [.image, .mainFrame].toFinset := by
      decide
    rw [hkinds]
    exact hrepresents
  · exact (heq (.list [.mainFrame, .image, .other]) []).mpr (by decide)

end ResourceSet

end ReplyRules
