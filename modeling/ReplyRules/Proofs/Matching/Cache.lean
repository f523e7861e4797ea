import ReplyRules.Matching.Cache
import Mathlib.Data.List.Nodup

/-!
Caches of matchers change nothing.  A cache is *sound* when it holds, under every key, what the key
compiles to.  Looking a pattern up in sound caches then gives what compiling it gives, an error too
(`resolve_ok`, `resolve_error`), and leaves the cache in use sound, with the key of the pattern added
unless it was there before.
-/

namespace ReplyRules

namespace Matcher

/-- A matcher keeps the pattern and the language that it was compiled from. -/
theorem key_of_compile {pattern : String} {tag : PatternTag} {m : Matcher}
    (h : compile pattern tag = .ok m) : (m.tag, m.pattern) = (tag, pattern) := by
  unfold compile at h
  cases hregex : Regex.compile (regexText pattern tag) with
  | error e =>
    rw [hregex] at h
    cases h
  | ok regex =>
    rw [hregex] at h
    obtain rfl := Except.ok.inj h
    rfl

end Matcher

namespace MatcherCache

variable {c previous next : MatcherCache} {pattern : String} {tag : PatternTag} {m : Matcher}

/-! ### Sound caches -/

/-- The keys of the matchers. -/
def keys (c : MatcherCache) : List (PatternTag × String) := c.entries.map Prod.fst

/-- No key is there twice, and every matcher is what its key compiles to. -/
structure Sound (c : MatcherCache) : Prop where
  nodup : c.keys.Nodup
  compiled : ∀ entry ∈ c.entries, Matcher.compile entry.1.2 entry.1.1 = .ok entry.2

theorem sound_empty : Sound empty :=
  ⟨List.nodup_nil, fun _ h => absurd h List.not_mem_nil⟩

theorem keys_insert : (c.insert pattern tag m).keys = (tag, pattern) :: c.keys :=
  rfl

theorem find?_eq_none : c.find? pattern tag = none ↔ (tag, pattern) ∉ c.keys := by
  rw [find?, List.lookup_eq_none_iff, keys, List.mem_map]
  constructor
  · rintro h ⟨entry, hmem, hkey⟩
    have := h entry hmem
    rw [hkey, bne_self_eq_false] at this
    cases this
  · intro h entry hmem
    rw [bne_iff_ne]
    exact fun hkey => h ⟨entry, hmem, hkey.symm⟩

theorem Sound.compile_eq (hc : c.Sound) (h : c.find? pattern tag = some m) :
    Matcher.compile pattern tag = .ok m := by
  obtain ⟨before, behind, hentries, -⟩ := List.lookup_eq_some_iff.mp h
  refine hc.compiled ((tag, pattern), m) ?_
  rw [hentries]
  exact List.mem_append_right _ List.mem_cons_self

theorem mem_keys_of_find? (h : c.find? pattern tag = some m) : (tag, pattern) ∈ c.keys := by
  by_contra hkey
  rw [find?_eq_none.mpr hkey] at h
  cases h

theorem Sound.insert (hc : c.Sound) (hkey : (tag, pattern) ∉ c.keys)
    (hm : Matcher.compile pattern tag = .ok m) : (c.insert pattern tag m).Sound where
  nodup := List.nodup_cons.mpr ⟨hkey, hc.nodup⟩
  compiled := by
    intro entry hentry
    rcases List.mem_cons.mp hentry with rfl | hentry
    · exact hm
    · exact hc.compiled entry hentry

/-! ### Looking up -/

/-- A pattern that compiles is found or compiled, and its key is in use from then on. -/
theorem resolve_ok (hp : previous.Sound) (hn : next.Sound)
    (hm : Matcher.compile pattern tag = .ok m) :
    ∃ fresh next', previous.resolve pattern tag next = .ok ⟨m, fresh, next'⟩ ∧ next'.Sound ∧
      ∀ key, key ∈ next'.keys ↔ key = (tag, pattern) ∨ key ∈ next.keys := by
  unfold resolve
  cases hnext : next.find? pattern tag with
  | some m' =>
    obtain rfl : m' = m := Except.ok.inj ((hn.compile_eq hnext).symm.trans hm)
    refine ⟨false, next, rfl, hn, fun key => ⟨Or.inr, ?_⟩⟩
    rintro (rfl | hkey)
    · exact mem_keys_of_find? hnext
    · exact hkey
  | none =>
    have hsound := hn.insert (find?_eq_none.mp hnext) hm
    have hkeys (key) : key ∈ (next.insert pattern tag m).keys ↔
        key = (tag, pattern) ∨ key ∈ next.keys := by
      rw [keys_insert, List.mem_cons]
    cases hprevious : previous.find? pattern tag with
    | some m' =>
      obtain rfl : m' = m := Except.ok.inj ((hp.compile_eq hprevious).symm.trans hm)
      exact ⟨false, _, rfl, hsound, hkeys⟩
    | none =>
      rw [hm]
      exact ⟨true, _, rfl, hsound, hkeys⟩

/-- A pattern that does not compile is found nowhere. -/
theorem resolve_error (hp : previous.Sound) (hn : next.Sound) {e : Regex.CompileError}
    (he : Matcher.compile pattern tag = .error e) :
    previous.resolve pattern tag next = .error e := by
  have absent {c : MatcherCache} (hc : c.Sound) : c.find? pattern tag = none := by
    cases h : c.find? pattern tag with
    | none => rfl
    | some m =>
      rw [hc.compile_eq h] at he
      cases he
  rw [resolve, absent hn, absent hp, he]
  rfl

end MatcherCache

end ReplyRules
