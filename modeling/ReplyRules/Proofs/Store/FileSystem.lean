import ReplyRules.Store.FileSystem
import ReplyRules.Proofs.Text.Utf8
import Mathlib.Logic.Relation

/-!
File systems seen through what stands at their places and through the ways that lead there.  Each operation is
told by what stands at a place afterwards (`node?_put_self`, `node?_remove_of_ne`, `leaf?_fill_of_ne` and
their like), and never by the lists that hold the nodes and the contents.

A way is followed name by name, and a link sends it somewhere else, so every law of ways is shown by one
induction (`locate_induction`).  What a way looks at on its course is what it *passes* (`Passes`), and only
that has a say in where it leads (`locate_congr`).  A way that comes to a directory can be gone on from there
(`Enters`, `exists_locate_append`), and has not passed any place from which no way leads on
(`Enters.not_passes`).

In a file system that is *rooted*, everything stands in a directory.  So it is to begin with
(`rooted_empty`), and each operation keeps it up (`Rooted.makeDirectory`, `Rooted.write`, `Rooted.rename`).
-/

namespace ReplyRules.FileSystem

variable {fs fs' : FileSystem} {p q place above names rest : Path} {name : String} {node : Node}
  {id links : Nat} {content : Bytes} {fromRoot : Bool} {target : Path}

/-! ### What stands at a place -/

theorem node?_of_ne_nil (h : p ≠ []) (fs : FileSystem) : fs.node? p = fs.nodes.lookup p := by
  rw [node?, List.isEmpty_eq_false_iff.mpr h, if_neg Bool.false_ne_true]

theorem node?_nil (fs : FileSystem) : fs.node? [] = some .directory := rfl

theorem ne_nil_of_node? (h : fs.node? p ≠ some .directory) : p ≠ [] := by
  rintro rfl
  exact h (node?_nil fs)

theorem concat_ne_nil (p : Path) (name : String) : p ++ [name] ≠ [] :=
  List.append_ne_nil_of_right_ne_nil p (List.cons_ne_nil name [])

theorem mem_nodes_of_node? (hp : p ≠ []) (h : fs.node? p = some node) : (p, node) ∈ fs.nodes := by
  rw [node?_of_ne_nil hp] at h
  obtain ⟨front, back, hsplit, -⟩ := List.lookup_eq_some_iff.mp h
  rw [hsplit]
  exact List.mem_append_right front List.mem_cons_self

/-- No place stands in itself. -/
theorem ne_concat (p : Path) (name : String) : p ≠ p ++ [name] :=
  fun h => by simpa using congrArg List.length h

theorem lookup_filter_ne {α β : Type} [BEq α] [LawfulBEq α] (entries : List (α × β)) (p q : α) :
    (entries.filter (·.1 != p)).lookup q = if q == p then none else entries.lookup q := by
  induction entries with
  | nil => simp
  | cons entry entries ih =>
    obtain ⟨key, value⟩ := entry
    rw [List.filter_cons]
    by_cases hq : q = key
    · subst hq
      by_cases hp : q = p
      · rw [if_neg (by simp [hp]), ih, if_pos (by simpa using hp), if_pos (by simpa using hp)]
      · rw [if_pos (by simpa using hp), List.lookup_cons_self, if_neg (by simpa using hp),
          List.lookup_cons_self]
    · have hne : (q == key) = false := beq_eq_false_iff_ne.mpr hq
      by_cases hp : key = p
      · rw [if_neg (by simp [hp]), ih, List.lookup_cons, hne]
      · rw [if_pos (by simpa using hp), List.lookup_cons, hne, ih, List.lookup_cons, hne]

theorem node?_remove_self (h : p ≠ []) (fs : FileSystem) : (fs.remove p).node? p = none := by
  rw [node?_of_ne_nil h, remove, lookup_filter_ne, if_pos BEq.rfl]

theorem node?_remove_of_ne (h : q ≠ p) (fs : FileSystem) : (fs.remove p).node? q = fs.node? q := by
  have hne : (q == p) = false := beq_eq_false_iff_ne.mpr h
  rw [node?, node?, remove, lookup_filter_ne, hne, if_neg Bool.false_ne_true]

/-- Nothing comes to be where something is taken away. -/
theorem node?_of_node?_remove (h : (fs.remove p).node? q = some node) : fs.node? q = some node := by
  by_cases hq : q = p
  · subst hq
    cases q with
    | nil => exact h
    | cons name q =>
      rw [node?_remove_self (List.cons_ne_nil name q)] at h
      cases h
  · rwa [node?_remove_of_ne hq] at h

theorem node?_put_self (h : p ≠ []) (fs : FileSystem) (node : Node) :
    (fs.put p node).node? p = some node := by
  rw [node?_of_ne_nil h, put, List.lookup_cons_self]

theorem node?_put_of_ne (h : q ≠ p) (fs : FileSystem) (node : Node) :
    (fs.put p node).node? q = fs.node? q := by
  have hne : (q == p) = false := beq_eq_false_iff_ne.mpr h
  rw [← node?_remove_of_ne h fs, node?, node?, put, List.lookup_cons, hne]

/-! ### What the files hold -/

theorem content_setContent_self (fs : FileSystem) (id : Nat) (content : Bytes) :
    (fs.setContent id content).content id = content := by
  rw [FileSystem.content, setContent, List.lookup_cons_self, Option.getD_some]

theorem content_setContent_of_ne {id' : Nat} (h : id' ≠ id) (fs : FileSystem) (content : Bytes) :
    (fs.setContent id content).content id' = fs.content id' := by
  have hne : (id' == id) = false := beq_eq_false_iff_ne.mpr h
  rw [FileSystem.content, FileSystem.content, setContent, List.lookup_cons, hne]
  dsimp only
  rw [lookup_filter_ne, hne, if_neg Bool.false_ne_true]

/-- A number that is fresh is above all numbers of files. -/
theorem lt_fresh (h : fs.node? p = some (.file id)) : id < fs.fresh := by
  have hnode : fs.node? p ≠ some .directory := by simp [h]
  rw [node?_of_ne_nil (ne_nil_of_node? hnode)] at h
  rw [fresh]
  generalize fs.nodes = nodes at h ⊢
  induction nodes with
  | nil => cases h
  | cons entry nodes ih =>
    obtain ⟨place, node⟩ := entry
    rw [List.lookup_cons] at h
    rw [List.foldr_cons]
    split at h
    · cases h
      exact Nat.lt_of_lt_of_le (Nat.lt_succ_self id) (Nat.le_max_left _ _)
    · cases node with
      | directory => exact ih h
      | file id' => exact Nat.lt_of_lt_of_le (ih h) (Nat.le_max_right _ _)
      | link fromRoot target => exact ih h

/-- What is at the end of a way: the content of a file, or a link. -/
inductive Leaf where
  | file (content : Bytes)
  | link (fromRoot : Bool) (target : Path)

/-- What stands at a place and is no directory; a file by what it holds. -/
def leaf? (fs : FileSystem) (p : Path) : Option Leaf :=
  match fs.node? p with
  | some (.file id) => some (.file (fs.content id))
  | some (.link fromRoot target) => some (.link fromRoot target)
  | _ => none

theorem leaf?_of_file (h : fs.node? p = some (.file id)) : fs.leaf? p = some (.file (fs.content id)) := by
  rw [leaf?, h]

theorem leaf?_put_of_ne (h : q ≠ p) (fs : FileSystem) (node : Node) :
    (fs.put p node).leaf? q = fs.leaf? q := by
  rw [leaf?, leaf?, node?_put_of_ne h]
  rfl

theorem leaf?_remove_of_ne (h : q ≠ p) (fs : FileSystem) : (fs.remove p).leaf? q = fs.leaf? q := by
  rw [leaf?, leaf?, node?_remove_of_ne h]
  rfl

/-- The file at a place has no other name. -/
def Alone (fs : FileSystem) (p : Path) : Prop :=
  ∀ id q, fs.node? p = some (.file id) → fs.node? q = some (.file id) → q = p

/-- It is enough to look at the places that are listed. -/
theorem alone_of_forall_mem (h : ∀ entry ∈ fs.nodes, some entry.2 = fs.node? p → entry.1 = p) :
    fs.Alone p := by
  intro id q hid hfile
  have hnode : fs.node? q ≠ some .directory := by simp [hfile]
  exact h _ (mem_nodes_of_node? (ne_nil_of_node? hnode) hfile) hid.symm

theorem node?_fill_of_ne (h : q ≠ p) (fs : FileSystem) (content : Bytes) :
    (fs.fill p content).node? q = fs.node? q := by
  rw [fill]
  split
  · rfl
  · exact node?_put_of_ne h _ _

/-- The file at a place that is filled holds what it is filled with, and has no other name if it had none. -/
theorem node?_fill_self (hp : fs.node? p ≠ some .directory) (halone : fs.Alone p) (content : Bytes) :
    ∃ id, (fs.fill p content).node? p = some (.file id) ∧ (fs.fill p content).content id = content ∧
      ∀ q, q ≠ p → fs.node? q ≠ some (.file id) := by
  rw [fill]
  split
  next id hid =>
    exact ⟨id, hid, content_setContent_self fs id content, fun q hq hfile => hq (halone id q hid hfile)⟩
  next =>
    exact ⟨fs.fresh, node?_put_self (ne_nil_of_node? hp) _ _, content_setContent_self fs _ content,
      fun q _ hfile => absurd (lt_fresh hfile) (Nat.lt_irrefl _)⟩

theorem alone_fill (hp : fs.node? p ≠ some .directory) (halone : fs.Alone p) (content : Bytes) :
    (fs.fill p content).Alone p := by
  obtain ⟨id, hid, -, hothers⟩ := node?_fill_self hp halone content
  intro id' q hid' hfile
  rw [hid] at hid'
  cases hid'
  by_cases hq : q = p
  · exact hq
  · rw [node?_fill_of_ne hq] at hfile
    exact absurd hfile (hothers q hq)

/-- Files with no name at the place keep their content. -/
theorem leaf?_fill_of_ne (halone : fs.Alone p) (hq : q ≠ p) (content : Bytes) :
    (fs.fill p content).leaf? q = fs.leaf? q := by
  have hcontent {id : Nat} (hfile : fs.node? q = some (.file id)) :
      (fs.fill p content).content id = fs.content id := by
    rw [fill]
    split
    next id' hid' =>
      refine content_setContent_of_ne ?_ fs content
      rintro rfl
      exact hq (halone id q hid' hfile)
    next => exact content_setContent_of_ne (Nat.ne_of_lt (lt_fresh hfile)) fs content
  rw [leaf?, leaf?, node?_fill_of_ne hq]
  cases hnode : fs.node? q with
  | none => rfl
  | some node =>
    cases node with
    | directory => rfl
    | file id => exact congrArg (fun content => some (Leaf.file content)) (hcontent hnode)
    | link fromRoot target => rfl

/-! ### Rooted file systems -/

/-- Everything stands in a directory.  So it is wherever files, links and directories come to be by the
operations below. -/
def Rooted (fs : FileSystem) : Prop :=
  ∀ p name node, fs.node? (p ++ [name]) = some node → fs.node? p = some .directory

theorem rooted_empty : empty.Rooted := by
  intro p name node h
  rw [node?_of_ne_nil (concat_ne_nil p name)] at h
  cases h

/-- It is enough to look at the places that are listed. -/
theorem rooted_of_forall_mem
    (h : ∀ entry ∈ fs.nodes, fs.node? entry.1.dropLast = some .directory) : fs.Rooted := by
  intro p name node hnode
  have hdirectory := h _ (mem_nodes_of_node? (concat_ne_nil p name) hnode)
  rwa [List.dropLast_concat] at hdirectory

theorem Rooted.node?_dropLast (h : fs.Rooted) (hp : fs.node? p = some node) :
    fs.node? p.dropLast = some .directory := by
  rcases List.eq_nil_or_concat p with rfl | ⟨p, name, rfl⟩
  · rfl
  · rw [List.concat_eq_append] at hp ⊢
    rw [List.dropLast_concat]
    exact h p name node hp

/-- What stands nowhere holds nothing. -/
theorem Rooted.node?_concat_of_none (h : fs.Rooted) (hp : fs.node? p ≠ some .directory) (name : String) :
    fs.node? (p ++ [name]) = none := by
  cases hnode : fs.node? (p ++ [name]) with
  | none => rfl
  | some node => exact absurd (h p name node hnode) hp

theorem Rooted.remove (h : fs.Rooted) (hp : fs.node? p ≠ some .directory) : (fs.remove p).Rooted := by
  intro q name node hnode
  have hdirectory := h q name node (node?_of_node?_remove hnode)
  have hq : q ≠ p := by
    rintro rfl
    exact hp hdirectory
  rwa [node?_remove_of_ne hq]

theorem Rooted.put (h : fs.Rooted) (hp : fs.node? p = some .directory)
    (hname : fs.node? (p ++ [name]) ≠ some .directory) (node : Node) :
    (fs.put (p ++ [name]) node).Rooted := by
  intro q name' node' hnode
  -- what is new stands in a directory, and what was there stands where it stood
  by_cases hself : q ++ [name'] = p ++ [name]
  · obtain ⟨rfl, -⟩ := List.append_inj' hself rfl
    rwa [node?_put_of_ne (ne_concat q name)]
  · rw [node?_put_of_ne hself] at hnode
    have hdirectory := h q name' node' hnode
    have hq : q ≠ p ++ [name] := by
      rintro rfl
      exact hname hdirectory
    rwa [node?_put_of_ne hq]

theorem Rooted.fill (h : fs.Rooted) (hp : fs.node? p = some .directory)
    (hname : fs.node? (p ++ [name]) ≠ some .directory) (content : Bytes) :
    (fs.fill (p ++ [name]) content).Rooted := by
  rw [FileSystem.fill]
  split
  · exact h
  · have hset : (fs.setContent fs.fresh content).Rooted := h
    exact hset.put hp hname _

/-! ### Ways -/

theorem locate_nil (fs : FileSystem) (links : Nat) (above : Path) :
    fs.locate links above [] = .ok above := by
  cases links <;> rfl

theorem locate_up (fs : FileSystem) (links : Nat) (above names : Path) :
    fs.locate links above (".." :: names) = fs.locate links above.dropLast names := by
  cases links <;> rfl

theorem locate_directory (hname : name ≠ "..") (h : fs.node? (above ++ [name]) = some .directory)
    (links : Nat) (names : Path) :
    fs.locate links above (name :: names) = fs.locate links (above ++ [name]) names := by
  cases links <;> rw [locate, descend, if_neg hname, h]

theorem locate_link (hname : name ≠ "..")
    (h : fs.node? (above ++ [name]) = some (.link fromRoot target)) (links : Nat) (names : Path) :
    fs.locate (links + 1) above (name :: names) =
      fs.locate links (if fromRoot then [] else above) (target ++ names) := by
  rw [locate, descend, if_neg hname, h]

theorem locate_tooManyLinks (hname : name ≠ "..")
    (h : fs.node? (above ++ [name]) = some (.link fromRoot target)) (names : Path) :
    fs.locate 0 above (name :: names) = .error .tooManyLinks := by
  rw [locate, descend, if_neg hname, h]

theorem locate_file (hname : name ≠ "..") (h : fs.node? (above ++ [name]) = some (.file id))
    (links : Nat) (names : Path) :
    fs.locate links above (name :: names) =
      if names.isEmpty then .ok (above ++ [name]) else .error .notDirectory := by
  cases links <;> rw [locate, descend, if_neg hname, h]

theorem locate_none (hname : name ≠ "..") (h : fs.node? (above ++ [name]) = none)
    (links : Nat) (names : Path) :
    fs.locate links above (name :: names) =
      if names.isEmpty then .ok (above ++ [name]) else .error .notFound := by
  cases links <;> rw [locate, descend, if_neg hname, h]

/-- No way leads on from a place: nothing stands there, or a file. -/
def DeadEnd (fs : FileSystem) (p : Path) : Prop :=
  fs.node? p = none ∨ ∃ id, fs.node? p = some (.file id)

theorem DeadEnd.ne_directory (h : fs.DeadEnd p) : fs.node? p ≠ some .directory := by
  rcases h with h | ⟨id, h⟩ <;> simp [h]

/-- A way that comes to a dead end is at its own end there, or is refused. -/
theorem locate_deadEnd_eq_ok (hname : name ≠ "..") (hend : fs.DeadEnd (above ++ [name])) :
    fs.locate links above (name :: names) = .ok place ↔ names = [] ∧ above ++ [name] = place := by
  rcases hend with hnode | ⟨id, hnode⟩
  · rw [locate_none hname hnode]
    cases names <;> simp
  · rw [locate_file hname hnode]
    cases names <;> simp

/-- What holds of a way if it holds of what is left of it behind the first name, holds of every way. -/
theorem locate_induction (fs : FileSystem) {motive : Nat → Path → Path → Prop}
    (nil : ∀ links above, motive links above [])
    (up : ∀ links above names, motive links above.dropLast names → motive links above (".." :: names))
    (directory : ∀ links above name names, name ≠ ".." →
      fs.node? (above ++ [name]) = some .directory → motive links (above ++ [name]) names →
      motive links above (name :: names))
    (link : ∀ links above name names fromRoot target, name ≠ ".." →
      fs.node? (above ++ [name]) = some (.link fromRoot target) →
      motive links (if fromRoot then [] else above) (target ++ names) →
      motive (links + 1) above (name :: names))
    (tooManyLinks : ∀ above name names fromRoot target, name ≠ ".." →
      fs.node? (above ++ [name]) = some (.link fromRoot target) → motive 0 above (name :: names))
    (deadEnd : ∀ links above name names, name ≠ ".." → fs.DeadEnd (above ++ [name]) →
      motive links above (name :: names))
    (links : Nat) (above names : Path) : motive links above names := by
  -- a link costs one of the links that are left, every other name makes the way shorter
  induction links generalizing above names with
  | zero =>
    induction names generalizing above with
    | nil => exact nil 0 above
    | cons name names ih =>
      by_cases hname : name = ".."
      · subst hname
        exact up 0 above names (ih _)
      · cases hnode : fs.node? (above ++ [name]) with
        | none => exact deadEnd 0 above name names hname (.inl hnode)
        | some node =>
          cases node with
          | directory => exact directory 0 above name names hname hnode (ih _)
          | file id => exact deadEnd 0 above name names hname (.inr ⟨id, hnode⟩)
          | link fromRoot target => exact tooManyLinks above name names fromRoot target hname hnode
  | succ links ihlinks =>
    induction names generalizing above with
    | nil => exact nil (links + 1) above
    | cons name names ih =>
      by_cases hname : name = ".."
      · subst hname
        exact up (links + 1) above names (ih _)
      · cases hnode : fs.node? (above ++ [name]) with
        | none => exact deadEnd (links + 1) above name names hname (.inl hnode)
        | some node =>
          cases node with
          | directory => exact directory (links + 1) above name names hname hnode (ih _)
          | file id => exact deadEnd (links + 1) above name names hname (.inr ⟨id, hnode⟩)
          | link fromRoot target =>
            exact link links above name names fromRoot target hname hnode (ihlinks _ _)

/-- The way of the names from a directory looks at a place: it comes there, or goes on from there. -/
inductive Passes (fs : FileSystem) : Path → Path → Path → Prop
  | here {above names : Path} {name : String} (hname : name ≠ "..") :
      Passes fs above (name :: names) (above ++ [name])
  | up {above names place : Path} (h : Passes fs above.dropLast names place) :
      Passes fs above (".." :: names) place
  | directory {above names place : Path} {name : String} (hname : name ≠ "..")
      (hnode : fs.node? (above ++ [name]) = some .directory)
      (h : Passes fs (above ++ [name]) names place) : Passes fs above (name :: names) place
  | link {above names place target : Path} {name : String} {fromRoot : Bool} (hname : name ≠ "..")
      (hnode : fs.node? (above ++ [name]) = some (.link fromRoot target))
      (h : Passes fs (if fromRoot then [] else above) (target ++ names) place) :
      Passes fs above (name :: names) place

theorem not_passes_nil : ¬ fs.Passes above [] place := nofun

theorem passes_up : fs.Passes above (".." :: names) place ↔ fs.Passes above.dropLast names place := by
  constructor
  · intro h
    cases h with
    | here hname => exact absurd rfl hname
    | up h => exact h
    | directory hname => exact absurd rfl hname
    | link hname => exact absurd rfl hname
  · exact .up

theorem passes_cons (hname : name ≠ "..") :
    fs.Passes above (name :: names) place ↔ above ++ [name] = place ∨
      match fs.node? (above ++ [name]) with
      | some .directory => fs.Passes (above ++ [name]) names place
      | some (.link fromRoot target) => fs.Passes (if fromRoot then [] else above) (target ++ names) place
      | _ => False := by
  constructor
  · intro h
    cases h with
    | here => exact .inl rfl
    | up => exact absurd rfl hname
    | directory _ hnode h => exact .inr (by rwa [hnode])
    | link _ hnode h => exact .inr (by rwa [hnode])
  · rintro (rfl | h)
    · exact .here hname
    · split at h
      next hnode => exact .directory hname hnode h
      next hnode => exact .link hname hnode h
      next => exact h.elim

/-- A single name with nothing behind it passes the place that it names. -/
theorem eq_of_passes_singleton (hname : name ≠ "..") (hend : fs.DeadEnd (above ++ [name]))
    (h : fs.Passes above [name] place) : above ++ [name] = place := by
  refine ((passes_cons hname).mp h).resolve_right ?_
  rcases hend with hnode | ⟨id, hnode⟩ <;> simp [hnode]

/-- Only what a way passes has a say in where it leads. -/
theorem locate_congr (hsame : ∀ p, p ≠ place → fs'.node? p = fs.node? p)
    (h : ¬ fs.Passes above names place) (links : Nat) :
    fs'.locate links above names = fs.locate links above names := by
  have hhere {above names : Path} {name : String} (hname : name ≠ "..")
      (h : ¬ fs.Passes above (name :: names) place) :
      fs'.node? (above ++ [name]) = fs.node? (above ++ [name]) := by
    refine hsame _ ?_
    rintro rfl
    exact h (.here hname)
  induction links, above, names using fs.locate_induction with
  | nil links above => rw [locate_nil, locate_nil]
  | up links above names ih =>
    rw [locate_up, locate_up]
    exact ih fun hpasses => h (.up hpasses)
  | directory links above name names hname hnode ih =>
    rw [locate_directory hname hnode, locate_directory hname ((hhere hname h).trans hnode)]
    exact ih fun hpasses => h (.directory hname hnode hpasses)
  | link links above name names fromRoot target hname hnode ih =>
    rw [locate_link hname hnode, locate_link hname ((hhere hname h).trans hnode)]
    exact ih fun hpasses => h (.link hname hnode hpasses)
  | tooManyLinks above name names fromRoot target hname hnode =>
    rw [locate_tooManyLinks hname hnode, locate_tooManyLinks hname ((hhere hname h).trans hnode)]
  | deadEnd links above name names hname hend =>
    rcases hend with hnode | ⟨id, hnode⟩
    · rw [locate_none hname hnode, locate_none hname ((hhere hname h).trans hnode)]
    · rw [locate_file hname hnode, locate_file hname ((hhere hname h).trans hnode)]

/-- What a way passes depends on what it passes. -/
theorem Passes.congr (hsame : ∀ p, p ≠ place → fs'.node? p = fs.node? p)
    (h : fs'.Passes above names q) : fs.Passes above names q ∨ fs.Passes above names place := by
  induction h with
  | here hname => exact .inl (.here hname)
  | up _ ih => exact ih.imp .up .up
  | @directory above names q name hname hnode _ ih =>
    by_cases hplace : above ++ [name] = place
    · exact .inr (hplace ▸ .here hname)
    · rw [hsame _ hplace] at hnode
      exact ih.imp (.directory hname hnode) (.directory hname hnode)
  | @link above names q target name fromRoot hname hnode _ ih =>
    by_cases hplace : above ++ [name] = place
    · exact .inr (hplace ▸ .here hname)
    · rw [hsame _ hplace] at hnode
      exact ih.imp (.link hname hnode) (.link hname hnode)

/-- A link sends a way to a directory. -/
theorem node?_start (habove : fs.node? above = some .directory) (fromRoot : Bool) :
    fs.node? (if fromRoot then [] else above) = some .directory := by
  cases fromRoot with
  | true => exact node?_nil fs
  | false => exact habove

/-- A way ends at a directory, or at a name in one from which no way leads on. -/
theorem Rooted.locate_spec (hrooted : fs.Rooted) (habove : fs.node? above = some .directory)
    (h : fs.locate links above names = .ok place) :
    fs.node? place = some .directory ∨
      fs.DeadEnd place ∧ fs.Passes above names place ∧
        ∃ p name, place = p ++ [name] ∧ fs.node? p = some .directory := by
  induction links, above, names using fs.locate_induction with
  | nil links above =>
    rw [locate_nil] at h
    cases h
    exact .inl habove
  | up links above names ih =>
    rw [locate_up] at h
    exact (ih (hrooted.node?_dropLast habove) h).imp_right fun ⟨hend, hpasses, hin⟩ =>
      ⟨hend, .up hpasses, hin⟩
  | directory links above name names hname hnode ih =>
    rw [locate_directory hname hnode] at h
    exact (ih hnode h).imp_right fun ⟨hend, hpasses, hin⟩ =>
      ⟨hend, .directory hname hnode hpasses, hin⟩
  | link links above name names fromRoot target hname hnode ih =>
    rw [locate_link hname hnode] at h
    exact (ih (node?_start habove fromRoot) h).imp_right fun ⟨hend, hpasses, hin⟩ =>
      ⟨hend, .link hname hnode hpasses, hin⟩
  | tooManyLinks above name names fromRoot target hname hnode =>
    rw [locate_tooManyLinks hname hnode] at h
    cases h
  | deadEnd links above name names hname hend =>
    obtain ⟨rfl, rfl⟩ := (locate_deadEnd_eq_ok hname hend).mp h
    exact .inr ⟨hend, .here hname, above, name, rfl, habove⟩

/-- A way that comes to a directory can be gone on from there. -/
theorem exists_locate_append (h : fs.locate links above names = .ok place)
    (hplace : fs.node? place = some .directory) :
    (∃ left, ∀ rest, fs.locate links above (names ++ rest) = fs.locate left place rest) ∧
      ∀ rest p, fs.Passes above (names ++ rest) p → fs.Passes above names p ∨ fs.Passes place rest p := by
  induction links, above, names using fs.locate_induction with
  | nil links above =>
    rw [locate_nil] at h
    cases h
    exact ⟨⟨links, fun _ => rfl⟩, fun _ _ hpasses => .inr hpasses⟩
  | up links above names ih =>
    rw [locate_up] at h
    obtain ⟨⟨left, hleft⟩, hpasses⟩ := ih h
    refine ⟨⟨left, fun rest => ?_⟩, fun rest p hp => ?_⟩
    · rw [List.cons_append, locate_up, hleft]
    · rw [List.cons_append, passes_up] at hp
      exact (hpasses rest p hp).imp_left .up
  | directory links above name names hname hnode ih =>
    rw [locate_directory hname hnode] at h
    obtain ⟨⟨left, hleft⟩, hpasses⟩ := ih h
    refine ⟨⟨left, fun rest => ?_⟩, fun rest p hp => ?_⟩
    · rw [List.cons_append, locate_directory hname hnode, hleft]
    · rw [List.cons_append, passes_cons hname, hnode] at hp
      rcases hp with rfl | hp
      · exact .inl (.here hname)
      · exact (hpasses rest p hp).imp_left (.directory hname hnode)
  | link links above name names fromRoot target hname hnode ih =>
    rw [locate_link hname hnode] at h
    obtain ⟨⟨left, hleft⟩, hpasses⟩ := ih h
    refine ⟨⟨left, fun rest => ?_⟩, fun rest p hp => ?_⟩
    · rw [List.cons_append, locate_link hname hnode, ← List.append_assoc, hleft]
    · rw [List.cons_append, passes_cons hname, hnode] at hp
      rcases hp with rfl | hp
      · exact .inl (.here hname)
      · refine (hpasses rest p ?_).imp_left (.link hname hnode)
        rw [List.append_assoc]
        exact hp
  | tooManyLinks above name names fromRoot target hname hnode =>
    rw [locate_tooManyLinks hname hnode] at h
    cases h
  | deadEnd links above name names hname hend =>
    obtain ⟨-, rfl⟩ := (locate_deadEnd_eq_ok hname hend).mp h
    exact absurd hplace hend.ne_directory

/-- A way that leads on behind some names comes to a directory by them. -/
theorem Rooted.exists_locate_of_append (hrooted : fs.Rooted) (habove : fs.node? above = some .directory)
    (hrest : rest ≠ []) (h : fs.locate links above (names ++ rest) = .ok place) :
    ∃ q, fs.locate links above names = .ok q ∧ fs.node? q = some .directory := by
  induction links, above, names using fs.locate_induction with
  | nil links above => exact ⟨above, locate_nil fs links above, habove⟩
  | up links above names ih =>
    rw [List.cons_append, locate_up] at h
    rw [locate_up]
    exact ih (hrooted.node?_dropLast habove) h
  | directory links above name names hname hnode ih =>
    rw [List.cons_append, locate_directory hname hnode] at h
    rw [locate_directory hname hnode]
    exact ih hnode h
  | link links above name names fromRoot target hname hnode ih =>
    rw [List.cons_append, locate_link hname hnode, ← List.append_assoc] at h
    rw [locate_link hname hnode]
    exact ih (node?_start habove fromRoot) h
  | tooManyLinks above name names fromRoot target hname hnode =>
    rw [List.cons_append, locate_tooManyLinks hname hnode] at h
    cases h
  | deadEnd links above name names hname hend =>
    rw [List.cons_append] at h
    exact absurd (List.append_eq_nil_iff.mp ((locate_deadEnd_eq_ok hname hend).mp h).1).2 hrest

/-- A way to a directory leads on wherever it comes. -/
theorem not_deadEnd_of_passes (hpasses : fs.Passes above names p)
    (h : fs.locate links above names = .ok place) (hplace : fs.node? place = some .directory) :
    ¬ fs.DeadEnd p := by
  intro hend
  induction hpasses generalizing links with
  | @here above names name hname =>
    -- from a dead end the way does not go on, and it is no directory itself
    obtain ⟨-, rfl⟩ := (locate_deadEnd_eq_ok hname hend).mp h
    exact hend.ne_directory hplace
  | up _ ih =>
    rw [locate_up] at h
    exact ih h hend
  | directory hname hnode _ ih =>
    rw [locate_directory hname hnode] at h
    exact ih h hend
  | link hname hnode _ ih =>
    cases links with
    | zero =>
      rw [locate_tooManyLinks hname hnode] at h
      cases h
    | succ links =>
      rw [locate_link hname hnode] at h
      exact ih h hend

/-! ### Directories on a path -/

/-- A path leads to the directory at a place. -/
def Enters (fs : FileSystem) (p place : Path) : Prop :=
  fs.find p = .ok place ∧ fs.node? place = some .directory

theorem Enters.unique (h : fs.Enters p place) (h' : fs.Enters p q) : place = q :=
  Except.ok.inj (h.1.symm.trans h'.1)

theorem Enters.not_passes (h : fs.Enters p place) (hend : fs.DeadEnd q) : ¬ fs.Passes [] p q :=
  fun hpasses => not_deadEnd_of_passes hpasses h.1 h.2 hend

/-- A path leads to the same directory whatever stands where it does not come. -/
theorem Enters.congr (h : fs.Enters p place) (hsame : ∀ r, r ≠ q → fs'.node? r = fs.node? r)
    (hpasses : ¬ fs.Passes [] p q) (hq : fs.node? q ≠ some .directory) : fs'.Enters p place := by
  have hplace : place ≠ q := by
    rintro rfl
    exact hq h.2
  exact ⟨(locate_congr hsame hpasses maxLinks).trans h.1, (hsame place hplace).trans h.2⟩

/-- A path on behind a directory goes on from there. -/
theorem Enters.exists_find_append (h : fs.Enters p place) :
    ∃ left, ∀ rest, fs.find (p ++ rest) = fs.locate left place rest :=
  (exists_locate_append h.1 h.2).1

theorem Enters.passes_append (h : fs.Enters p place) (hpasses : fs.Passes [] (p ++ rest) q) :
    fs.Passes [] p q ∨ fs.Passes place rest q :=
  (exists_locate_append h.1 h.2).2 rest q hpasses

theorem Enters.find_concat (h : fs.Enters p place) (hname : name ≠ "..")
    (hend : fs.DeadEnd (place ++ [name])) : fs.find (p ++ [name]) = .ok (place ++ [name]) := by
  obtain ⟨left, hleft⟩ := h.exists_find_append
  rw [hleft, locate_deadEnd_eq_ok hname hend]
  exact ⟨rfl, rfl⟩

/-- Behind a name under which nothing stands, no way leads on. -/
theorem Enters.find_of_none (h : fs.Enters p place) (hname : name ≠ "..")
    (hnode : fs.node? (place ++ [name]) = none) (names : Path) :
    fs.find (p ++ name :: names) =
      if names.isEmpty then .ok (place ++ [name]) else .error .notFound := by
  obtain ⟨left, hleft⟩ := h.exists_find_append
  rw [hleft, locate_none hname hnode]

theorem Enters.concat (h : fs.Enters p place) (hname : name ≠ "..")
    (hnode : fs.node? (place ++ [name]) = some .directory) :
    fs.Enters (p ++ [name]) (place ++ [name]) := by
  obtain ⟨left, hleft⟩ := h.exists_find_append
  exact ⟨by rw [hleft, locate_directory hname hnode, locate_nil], hnode⟩

/-- What a last name names stands in the directory above. -/
theorem nameAt_concat_eq_ok :
    fs.nameAt (p ++ [name]) = .ok place ↔ name ≠ ".." ∧ ∃ q, fs.Enters p q ∧ place = q ++ [name] := by
  by_cases hname : name = ".."
  · simp [nameAt, hname, throw, throwThe, MonadExceptOf.throw, bind, Except.bind]
  · have hlast : (p ++ [name]).getLastD ".." = name := by simp
    rw [nameAt, hlast, if_neg hname, List.dropLast_concat]
    simp only [bind_eq_ok, ne_eq, hname, not_false_eq_true, true_and]
    refine exists_congr fun q => ?_
    rw [Enters, and_assoc]
    refine and_congr_right fun _ => ?_
    cases hnode : fs.node? q with
    | none => exact iff_of_false nofun nofun
    | some node =>
      cases node with
      | directory => simp [pure, Except.pure, eq_comm]
      | file id => exact iff_of_false nofun nofun
      | link fromRoot target => exact iff_of_false nofun nofun

/-- A place that is named by a path stands in a directory. -/
theorem exists_of_nameAt (h : fs.nameAt p = .ok place) :
    ∃ above name q, p = above ++ [name] ∧ name ≠ ".." ∧ fs.Enters above q ∧ place = q ++ [name] := by
  rcases List.eq_nil_or_concat p with rfl | ⟨above, name, rfl⟩
  · cases h
  · rw [List.concat_eq_append] at h ⊢
    obtain ⟨hname, q, henters, rfl⟩ := nameAt_concat_eq_ok.mp h
    exact ⟨above, name, q, rfl, hname, henters, rfl⟩

/-! ### Without links -/

/-- There is no symbolic link, and no file has two names. -/
structure Unlinked (fs : FileSystem) : Prop where
  node?_ne : ∀ p fromRoot target, fs.node? p ≠ some (.link fromRoot target)
  alone : ∀ p, fs.Alone p

/-- Without links a path leads to itself. -/
theorem Unlinked.eq_append_of_locate (h : fs.Unlinked) (hup : ".." ∉ names)
    (hplace : fs.locate links above names = .ok place) : place = above ++ names := by
  induction links, above, names using fs.locate_induction with
  | nil links above =>
    rw [locate_nil] at hplace
    cases hplace
    rw [List.append_nil]
  | up => exact absurd List.mem_cons_self hup
  | directory links above name names hname hnode ih =>
    rw [locate_directory hname hnode] at hplace
    rw [ih (fun hmem => hup (List.mem_cons_of_mem name hmem)) hplace, List.append_assoc]
    rfl
  | link _ _ _ _ _ _ _ hnode => exact absurd hnode (h.node?_ne _ _ _)
  | tooManyLinks _ _ _ _ _ _ hnode => exact absurd hnode (h.node?_ne _ _ _)
  | deadEnd links above name names hname hend =>
    obtain ⟨rfl, rfl⟩ := (locate_deadEnd_eq_ok hname hend).mp hplace
    rfl

theorem Unlinked.eq_of_find (h : fs.Unlinked) (hup : ".." ∉ p) (hplace : fs.find p = .ok place) :
    place = p :=
  h.eq_append_of_locate hup hplace

/-- Without links a path passes what it begins with. -/
theorem Unlinked.prefix_of_passes (h : fs.Unlinked) (hup : ".." ∉ names)
    (hpasses : fs.Passes above names place) : place <+: above ++ names := by
  induction hpasses with
  | @here above names name hname =>
    rw [List.append_cons above name names]
    exact List.prefix_append _ names
  | up => exact absurd List.mem_cons_self hup
  | @directory above names place name hname hnode _ ih =>
    rw [List.append_cons]
    exact ih fun hmem => hup (List.mem_cons_of_mem name hmem)
  | link hname hnode => exact absurd hnode (h.node?_ne _ _ _)

/-! ### Reading -/

theorem read_of_error {e : IoError} (h : fs.find p = .error e) : fs.read p = .error e := by
  rw [read, h]
  rfl

theorem read_of_find (h : fs.find p = .ok place) : fs.read p = fs.readAt place := by
  rw [read, h]
  rfl

theorem readAt_of_none (h : fs.node? place = none) : fs.readAt place = .error .notFound := by
  rw [readAt, h]

theorem readAt_of_file (h : fs.node? place = some (.file id)) :
    fs.readAt place = .ok (fs.content id) := by
  rw [readAt, h]

theorem readAt_congr (hnode : fs'.node? place = fs.node? place)
    (hleaf : fs'.leaf? place = fs.leaf? place) : fs'.readAt place = fs.readAt place := by
  rw [readAt, readAt, hnode]
  cases hold : fs.node? place with
  | none => rfl
  | some node =>
    cases node with
    | directory => rfl
    | file id =>
      rw [leaf?_of_file hold, leaf?_of_file (hnode.trans hold)] at hleaf
      exact congrArg Except.ok (Leaf.file.inj (Option.some.inj hleaf))
    | link fromRoot target => rfl

/-- What is read depends on what stands at the end of the way. -/
theorem read_congr (hfind : fs'.find p = fs.find p)
    (h : ∀ place, fs.find p = .ok place →
      fs'.node? place = fs.node? place ∧ fs'.leaf? place = fs.leaf? place) :
    fs'.read p = fs.read p := by
  cases hplace : fs.find p with
  | error e => rw [read_of_error hplace, read_of_error (hfind.trans hplace)]
  | ok place =>
    obtain ⟨hnode, hleaf⟩ := h place hplace
    rw [read_of_find hplace, read_of_find (hfind.trans hplace), readAt_congr hnode hleaf]

/-! ### Changes -/

theorem makeDirectory_eq_ok :
    fs.makeDirectory p = .ok fs' ↔
      ∃ place, fs.nameAt p = .ok place ∧ fs.node? place = none ∧ fs' = fs.put place .directory := by
  simp only [makeDirectory, bind_eq_ok]
  refine exists_congr fun place => and_congr_right fun _ => ?_
  cases hnode : fs.node? place with
  | none => simp [pure, Except.pure, eq_comm]
  | some node => exact iff_of_false nofun nofun

/-- What is written goes where the way leads, but not in the place of a directory. -/
theorem write_eq_ok :
    fs.write p content = .ok fs' ↔
      ∃ place, fs.find p = .ok place ∧ fs.node? place ≠ some .directory ∧
        fs' = fs.fill place content := by
  simp only [write, bind_eq_ok]
  refine exists_congr fun place => and_congr_right fun _ => ?_
  split
  next hnode => exact iff_of_false nofun fun h => h.1 hnode
  next hnode => exact ⟨fun h => ⟨hnode, (Except.ok.inj h).symm⟩, fun h => congrArg Except.ok h.2.symm⟩

/-- A file that is renamed goes where its new name stands, but not in the place of a directory; it stays
where it is if it has that name already. -/
theorem rename_eq_ok (hplace : fs.nameAt p = .ok place) (hfile : fs.node? place = some (.file id)) :
    fs.rename p q = .ok fs' ↔
      ∃ new, fs.nameAt q = .ok new ∧ fs.node? new ≠ some .directory ∧
        fs' = if fs.node? new = some (.file id) then fs else (fs.remove place).put new (.file id) := by
  simp only [rename, hplace, bind_eq_ok]
  constructor
  · rintro ⟨old, hold, new, hnew, h⟩
    cases hold
    refine ⟨new, hnew, ?_⟩
    rw [hfile] at h
    cases hnode : fs.node? new with
    | none =>
      rw [hnode] at h
      cases h
      exact ⟨nofun, (if_neg nofun).symm⟩
    | some node =>
      rw [hnode] at h
      cases node with
      | directory => cases h
      | link fromRoot target =>
        cases h
        exact ⟨nofun, (if_neg nofun).symm⟩
      | file id' =>
        cases h
        refine ⟨nofun, ?_⟩
        simp only [Option.some.injEq, Node.file.injEq, eq_comm]
  · rintro ⟨new, hnew, hdirectory, rfl⟩
    refine ⟨place, rfl, new, hnew, ?_⟩
    rw [hfile]
    cases hnode : fs.node? new with
    | none => simp [pure, Except.pure]
    | some node =>
      cases node with
      | directory => exact absurd hnode hdirectory
      | link fromRoot target => simp [pure, Except.pure]
      | file id' => simp [pure, Except.pure, eq_comm]

theorem Rooted.makeDirectory (h : fs.Rooted) (hdone : fs.makeDirectory p = .ok fs') : fs'.Rooted := by
  obtain ⟨place, hplace, hnode, rfl⟩ := makeDirectory_eq_ok.mp hdone
  obtain ⟨above, name, q, -, -, henters, rfl⟩ := exists_of_nameAt hplace
  exact h.put henters.2 (by simp [hnode]) .directory

theorem Rooted.write (h : fs.Rooted) (hdone : fs.write p content = .ok fs') : fs'.Rooted := by
  obtain ⟨place, hplace, hnode, rfl⟩ := write_eq_ok.mp hdone
  obtain ⟨-, -, q, name, rfl, hq⟩ := (h.locate_spec (node?_nil fs) hplace).resolve_left hnode
  exact h.fill hq hnode content

theorem Rooted.rename (h : fs.Rooted) (hplace : fs.nameAt p = .ok place)
    (hfile : fs.node? place = some (.file id)) (hdone : fs.rename p q = .ok fs') : fs'.Rooted := by
  obtain ⟨new, hnew, hnode, rfl⟩ := (rename_eq_ok hplace hfile).mp hdone
  obtain ⟨above, name, r, -, -, henters, rfl⟩ := exists_of_nameAt hnew
  split
  · exact h
  · have hsource : fs.node? place ≠ some .directory := by simp [hfile]
    have hne : r ≠ place := by
      rintro rfl
      exact hsource henters.2
    have hremoved : (fs.remove place).node? r = some .directory := by
      rw [node?_remove_of_ne hne]
      exact henters.2
    exact (h.remove hsource).put hremoved (mt node?_of_node?_remove hnode) _

/-- Directories come to be, one behind the other, each of them on the path. -/
def Makes (p : Path) : FileSystem → FileSystem → Prop :=
  Relation.ReflTransGen fun fs fs' => ∃ q, q <+: p ∧ fs.makeDirectory q = .ok fs'

theorem makes_ensureDirectory (hq : q <+: p) (fs : FileSystem) :
    Makes p fs (fs.ensureDirectory q).2 := by
  rw [ensureDirectory]
  cases hmake : fs.makeDirectory q with
  | ok fs' => exact .single ⟨q, hq, hmake⟩
  | error e => exact .refl

theorem makes_createUpward (hnames : names.reverse <+: p) (fs : FileSystem) :
    Makes p fs (fs.createUpward names).2 := by
  induction names generalizing fs with
  | nil => exact .refl
  | cons name above ih =>
    have habove : above.reverse <+: p := by
      refine List.IsPrefix.trans ?_ hnames
      rw [List.reverse_cons]
      exact List.prefix_append _ _
    rw [createUpward]
    split
    · -- the directory above is made first, if it can be
      have hupward := ih habove fs
      split
      next fs' hdone =>
        rw [hdone] at hupward
        exact hupward.trans (makes_ensureDirectory hnames fs')
      next e fs' hdone =>
        rw [hdone] at hupward
        exact hupward
    · exact makes_ensureDirectory hnames fs

theorem makes_createDirectories (fs : FileSystem) (p : Path) :
    Makes p fs (fs.createDirectories p).2 :=
  makes_createUpward (by simp) fs

end ReplyRules.FileSystem
