import ReplyRules.Text.Basic
import Mathlib.Data.List.DropRight

/-!
Texts without white space at their ends.  Taking it away leaves a text that has none there
(`Text.bare_trimChars`), and leaves such a text as it is, so that doing it twice is doing it once
(`Text.trim_trim`).
-/

namespace ReplyRules.Text

variable {cs ds : List Char} {s : String}

/-- No blank character stands at either end. -/
structure Bare (cs : List Char) : Prop where
  head : ∀ c ∈ cs.head?, isBlank c = false
  last : ∀ c ∈ cs.getLast?, isBlank c = false

/-- The blanks at the beginning are taken away first, and then those at the end. -/
theorem trimChars_eq (cs : List Char) : trimChars cs = (cs.dropWhile isBlank).rdropWhile isBlank := rfl

theorem not_isBlank_of_head?_dropWhile {c : Char} (h : c ∈ (cs.dropWhile isBlank).head?) :
    isBlank c = false := by
  have hhead := List.head?_dropWhile_not isBlank cs
  rw [Option.mem_def] at h
  rwa [h] at hhead

theorem bare_trimChars (cs : List Char) : Bare (trimChars cs) where
  head := by
    intro c hc
    rw [trimChars_eq] at hc
    -- where anything is left, it begins as it did before its end was taken away
    obtain ⟨rest, hrest⟩ := List.rdropWhile_prefix isBlank (cs.dropWhile isBlank)
    have hfirst : c ∈ (cs.dropWhile isBlank).head? := by
      rw [← hrest]
      exact List.mem_head?_append_of_mem_head? hc
    exact not_isBlank_of_head?_dropWhile hfirst
  last := by
    intro c hc
    rw [trimChars, List.getLast?_reverse] at hc
    exact not_isBlank_of_head?_dropWhile hc

/-- What is left is a piece of the text. -/
theorem trimChars_infix (cs : List Char) : trimChars cs <:+: cs := by
  rw [trimChars_eq]
  exact (List.rdropWhile_prefix isBlank _).isInfix.trans (List.dropWhile_suffix isBlank).isInfix

theorem trimChars_of_bare (h : Bare cs) : trimChars cs = cs := by
  have hhead : cs.dropWhile isBlank = cs := by
    cases cs with
    | nil => rfl
    | cons c cs => exact List.dropWhile_cons_of_neg (by simp [h.head c rfl])
  have hlast : cs.rdropWhile isBlank = cs := by
    rw [List.rdropWhile_eq_self_iff]
    intro hne
    simp [h.last _ (List.getLast_mem_getLast? hne)]
  rw [trimChars_eq, hhead, hlast]

theorem trim_eq_self_iff : trim s = s ↔ Bare s.toList := by
  constructor
  · intro h
    rw [← h, trim, String.toList_ofList]
    exact bare_trimChars s.toList
  · intro h
    rw [trim, trimChars_of_bare h, String.ofList_toList]

/-- **Nothing is left to be taken away.** -/
theorem trim_trim (s : String) : trim (trim s) = trim s := by
  rw [trim_eq_self_iff, trim, String.toList_ofList]
  exact bare_trimChars s.toList

/-- What is put behind a text counts for its end only. -/
theorem Bare.append (h : Bare cs) (hcs : cs ≠ []) (hds : ds ≠ [])
    (hlast : ∀ c ∈ ds.getLast?, isBlank c = false) : Bare (cs ++ ds) where
  head := by
    rw [List.head?_append_of_ne_nil cs hcs]
    exact h.head
  last := by
    rw [List.getLast?_append_of_ne_nil cs hds]
    exact hlast

end ReplyRules.Text
