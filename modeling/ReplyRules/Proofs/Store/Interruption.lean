import ReplyRules.Store.FileStore
import ReplyRules.Proofs.Store.FileSystem
import ReplyRules.Proofs.Store.RuleBook

/-!
Savings that are interrupted.  A book is saved in three steps: the directories are made, the book is written
to a file beside the target, and that file is renamed.  The steps may be stopped anywhere, by a refusal or
because nothing goes on any more, and the step that was under way may have left a part of what it does
(`SaveStep.Leaves`, `SaveStep.Stops`).  That a renaming has no parts is what the order of the steps is for.

Writing follows links, and a file may have several names, so that a link at the place of the file beside the
target takes the writing somewhere else: to a file that has nothing to do with the saving, or to the target
itself, which then holds a part of a book (`FileStore.save_through_link`).  What has to be asked of a file
system is that links keep out of the way of the saving (`FileStore.Apart`).  Without any links they do
(`FileStore.apart_of_unlinked`).

Until the renaming is done, every step spares what is read at the target and all files but the one that is
written first (`FileStore.Spares`).  Behind the renaming the book is at the target and the other file is gone
(`FileStore.Saved`).

Main result: a saving is done as a whole or not at all, as far as loading can tell (`FileStore.save_atomic`).
-/

namespace ReplyRules

variable {fs fs' fs'' : FileSystem} {s : FileStore} {b : RuleBook} {step : SaveStep}
  {steps rest : List SaveStep} {n : Nat} {content : Bytes}

/-! ### Steps -/

namespace SaveStep

/-- The steps were done, one behind the other. -/
inductive Done : FileSystem → List SaveStep → FileSystem → Prop
  | nil (fs : FileSystem) : Done fs [] fs
  | cons {fs fs' fs'' : FileSystem} {step : SaveStep} {steps : List SaveStep}
      (h : step.run fs = (.ok (), fs')) (hrest : Done fs' steps fs'') : Done fs (step :: steps) fs''

/-- Steps are taken in their order, up to the first one that is refused, and its error is told. -/
theorem runAll_spec (fs : FileSystem) (steps : List SaveStep) :
    match runAll fs steps with
    | (.ok (), fs') => Done fs steps fs'
    | (.error e, fs') => ∃ done step rest fs₁,
        steps = done ++ step :: rest ∧ Done fs done fs₁ ∧ step.run fs₁ = (.error e, fs') := by
  induction steps generalizing fs with
  | nil => exact .nil fs
  | cons step steps ih =>
    rcases hstep : step.run fs with ⟨e | ⟨⟩, fs'⟩
    · rw [runAll, hstep]
      exact ⟨[], step, steps, fs, rfl, .nil fs, hstep⟩
    · have hall : runAll fs (step :: steps) = runAll fs' steps := by rw [runAll, hstep]
      have hrest := ih fs'
      rw [hall]
      generalize runAll fs' steps = outcome at hrest ⊢
      rcases outcome with ⟨e | ⟨⟩, fs''⟩
      · obtain ⟨done, step', rest, fs₁, rfl, hdone, hrefused⟩ := hrest
        exact ⟨step :: done, step', rest, fs₁, rfl, .cons hstep hdone, hrefused⟩
      · exact .cons hstep hrest

/-- Steps that can be done are taken to their end. -/
theorem Done.runAll_eq (h : Done fs steps fs') : runAll fs steps = (.ok (), fs') := by
  induction h with
  | nil => rfl
  | cons hstep _ ih => rw [runAll, hstep, ← ih]

/-- What a step may leave that has not been finished: nothing of its own, some of the directories, or a
file with the beginning of the content.  A renaming is done or not. -/
inductive Leaves (fs : FileSystem) : SaveStep → FileSystem → Prop
  | nothing (step : SaveStep) : Leaves fs step fs
  | directories {p : Path} {fs' : FileSystem} (hmade : FileSystem.Makes p fs fs') :
      Leaves fs (.createDirectories p) fs'
  | beginning {p : Path} {part content : Bytes} {fs' : FileSystem} (h : part <+: content)
      (hdone : fs.write p part = .ok fs') : Leaves fs (.write p content) fs'

/-- The steps have been stopped when the first `n` of them were finished; the next one may have been
begun. -/
inductive Stops : FileSystem → List SaveStep → Nat → FileSystem → Prop
  | finished (fs : FileSystem) : Stops fs [] 0 fs
  | during {fs fs' : FileSystem} {step : SaveStep} (h : Leaves fs step fs') (steps : List SaveStep) :
      Stops fs (step :: steps) 0 fs'
  | behind {fs fs' fs'' : FileSystem} {step : SaveStep} {steps : List SaveStep} {n : Nat}
      (h : step.run fs = (.ok (), fs')) (hrest : Stops fs' steps n fs'') :
      Stops fs (step :: steps) (n + 1) fs''

theorem after_eq_ok {outcome : Except IoError FileSystem} :
    fs.after outcome = (.ok (), fs') ↔ outcome = .ok fs' := by
  cases outcome with
  | error e => exact iff_of_false nofun nofun
  | ok fs₁ => simp [FileSystem.after]

theorem eq_of_after_eq_error {outcome : Except IoError FileSystem} {e : IoError}
    (h : fs.after outcome = (.error e, fs')) : fs' = fs := by
  cases outcome with
  | error e' =>
    cases h
    rfl
  | ok fs₁ => cases h

/-- A step that is refused has left what it may leave. -/
theorem leaves_of_run {e : IoError} (h : step.run fs = (.error e, fs')) : Leaves fs step fs' := by
  cases step with
  | createDirectories p =>
    have hmade := FileSystem.makes_createDirectories fs p
    rw [show fs.createDirectories p = (.error e, fs') from h] at hmade
    exact .directories hmade
  | write p content =>
    obtain rfl := eq_of_after_eq_error h
    exact .nothing _
  | rename source target =>
    obtain rfl := eq_of_after_eq_error h
    exact .nothing _

theorem Done.stops_append (h : Done fs steps fs') (hstops : Stops fs' rest n fs'') :
    Stops fs (steps ++ rest) (steps.length + n) fs'' := by
  induction h with
  | nil => rwa [List.nil_append, List.length_nil, Nat.zero_add]
  | cons hstep _ ih =>
    rw [List.length_cons, Nat.succ_add]
    exact .behind hstep (ih hstops)

theorem Done.stops (h : Done fs steps fs') : Stops fs steps steps.length fs' := by
  simpa using h.stops_append (.finished fs')

end SaveStep

open SaveStep (Done Leaves Stops)

/-! ### The two files -/

namespace FileStore

/-- The path has a file name, and does not lead back up. -/
structure Proper (s : FileStore) : Prop where
  ne_nil : s.path ≠ []
  no_up : ".." ∉ s.path

theorem Proper.path_eq (h : s.Proper) : s.path = s.directory ++ [s.name] := by
  rw [directory, name, List.getLastD_eq_getLast?, List.getLast?_eq_some_getLast h.ne_nil,
    Option.getD_some, List.dropLast_concat_getLast]

theorem Proper.name_ne_up (h : s.Proper) : s.name ≠ ".." := by
  intro hname
  have hpath := h.path_eq
  rw [hname] at hpath
  exact h.no_up (hpath ▸ List.mem_append_right _ List.mem_cons_self)

theorem length_tempName (s : FileStore) : s.tempName.length = s.name.length + 4 :=
  String.length_append s.name ".tmp"

theorem tempName_ne_up (s : FileStore) : s.tempName ≠ ".." := by
  intro hname
  have hlength := s.length_tempName
  rw [hname, show "..".length = 2 from rfl] at hlength
  omega

/-- The two files have different names. -/
theorem tempName_ne_name (s : FileStore) : s.tempName ≠ s.name := by
  intro hname
  have hlength := s.length_tempName
  rw [hname] at hlength
  omega

theorem concat_name_ne (s : FileStore) (place : Path) : place ++ [s.name] ≠ place ++ [s.tempName] :=
  fun h => s.tempName_ne_name (List.singleton_inj.mp (List.append_cancel_left h)).symm

theorem nameAt_tempPath {place : Path} :
    fs.nameAt s.tempPath = .ok place ↔
      ∃ p, fs.Enters s.directory p ∧ place = p ++ [s.tempName] := by
  rw [tempPath, FileSystem.nameAt_concat_eq_ok, and_iff_right s.tempName_ne_up]

theorem Proper.nameAt_path (h : s.Proper) {place : Path} :
    fs.nameAt s.path = .ok place ↔ ∃ p, fs.Enters s.directory p ∧ place = p ++ [s.name] := by
  rw [h.path_eq, FileSystem.nameAt_concat_eq_ok, and_iff_right h.name_ne_up]

theorem Proper.up_notMem_directory (h : s.Proper) : ".." ∉ s.directory :=
  fun hmem => h.no_up ((List.dropLast_sublist _).subset hmem)

/-! ### Links that keep out of the way -/

/-- Links keep out of the way of a saving.  Where the file beside the target would be written, it is written
under its own name and not by way of a link; it has no other name; and the way to the target does not lead
over it.  The way to the directory does not lead over a link in the place of the target. -/
structure Apart (s : FileStore) (fs : FileSystem) : Prop where
  temp : ∀ place, fs.find s.tempPath = .ok place → fs.node? place ≠ some .directory →
    fs.nameAt s.tempPath = .ok place ∧ fs.Alone place ∧ ¬ fs.Passes [] s.path place
  target : ∀ place fromRoot target, fs.nameAt s.path = .ok place →
    fs.node? place = some (.link fromRoot target) → ¬ fs.Passes [] s.directory place

/-- Without links there is nothing to keep out of the way. -/
theorem apart_of_unlinked (hs : s.Proper) (hfs : fs.Rooted) (h : fs.Unlinked) : s.Apart fs where
  temp := by
    intro place hplace hnode
    have hself : place = s.tempPath := by
      refine h.eq_of_find (fun hmem => ?_) hplace
      rcases List.mem_append.mp hmem with hmem | hmem
      · exact hs.up_notMem_directory hmem
      · exact s.tempName_ne_up (List.mem_singleton.mp hmem).symm
    obtain ⟨p, hp, hdirectory⟩ :=
      hfs.exists_locate_of_append (FileSystem.node?_nil fs) (List.cons_ne_nil _ []) hplace
    obtain rfl : p = s.directory := h.eq_of_find hs.up_notMem_directory hp
    refine ⟨nameAt_tempPath.mpr ⟨s.directory, ⟨hp, hdirectory⟩, hself⟩, h.alone place, fun hpasses => ?_⟩
    -- the way to the target passes what its path begins with, and that is shorter or has the other name
    have hshared : s.tempPath <+: s.path := hself ▸ h.prefix_of_passes hs.no_up hpasses
    rw [hs.path_eq, tempPath] at hshared
    exact s.concat_name_ne _ (hshared.eq_of_length (by simp)).symm
  target := fun place fromRoot target _ hnode => absurd hnode (h.node?_ne place fromRoot target)

/-! ### What an interruption leaves alone -/

/-- What is read at the target is what was read there, and no file or link is touched but the one that is
written first. -/
structure Spares (s : FileStore) (fs fs' : FileSystem) : Prop where
  rooted : fs'.Rooted
  apart : s.Apart fs'
  enters : ∀ place, fs.Enters s.directory place → fs'.Enters s.directory place
  read_eq : fs'.read s.path = fs.read s.path
  leaf_eq : ∀ p, fs'.nameAt s.tempPath ≠ .ok p → fs'.leaf? p = fs.leaf? p

theorem Spares.refl (hfs : fs.Rooted) (h : s.Apart fs) : s.Spares fs fs :=
  ⟨hfs, h, fun _ henters => henters, rfl, fun _ _ => rfl⟩

theorem Spares.trans (h : s.Spares fs fs') (h' : s.Spares fs' fs'') : s.Spares fs fs'' where
  rooted := h'.rooted
  apart := h'.apart
  enters := fun place henters => h'.enters place (h.enters place henters)
  read_eq := h'.read_eq.trans h.read_eq
  leaf_eq := by
    intro p hp
    refine (h'.leaf_eq p hp).trans (h.leaf_eq p fun hplace => hp ?_)
    obtain ⟨place, henters, rfl⟩ := nameAt_tempPath.mp hplace
    exact nameAt_tempPath.mpr ⟨place, h'.enters place henters, rfl⟩

/-- What is loaded is what would have been loaded. -/
theorem Spares.load_eq (h : s.Spares fs fs') (now : Instant) : s.load now fs' = s.load now fs := by
  rw [load, load, h.read_eq]

/-- Behind a name that is missing on the way to the directory, nothing is found. -/
theorem missing_spec {above back p : Path} {name : String} (hs : s.Proper)
    (henters : fs.Enters above p) (hname : name ≠ "..") (hnone : fs.node? (p ++ [name]) = none)
    (hdirectory : s.directory = above ++ name :: back) :
    (∀ place, ¬ fs.Enters s.directory place) ∧ s.Apart fs ∧ fs.read s.path = .error .notFound := by
  have hmissing (place : Path) : ¬ fs.Enters s.directory place := by
    rintro ⟨hfind, hplace⟩
    rw [hdirectory, henters.find_of_none hname hnone] at hfind
    split at hfind
    · cases hfind
      simp [hnone] at hplace
    · cases hfind
  have hbehind (last : String) : fs.find (s.directory ++ [last]) = .error .notFound := by
    rw [hdirectory, List.append_assoc, List.cons_append, henters.find_of_none hname hnone,
      if_neg (by simp)]
  refine ⟨hmissing, ⟨fun place h => ?_, fun place _ _ h => ?_⟩, ?_⟩
  · rw [tempPath, hbehind] at h
    cases h
  · obtain ⟨q, hq, -⟩ := hs.nameAt_path.mp h
    exact absurd hq (hmissing q)
  · rw [hs.path_eq, FileSystem.read_of_error (hbehind s.name)]

/-- In an empty directory there is nothing that could be in the way. -/
theorem apart_of_empty {p : Path} (hs : s.Proper) (henters : fs.Enters s.directory p)
    (hempty : ∀ name, fs.node? (p ++ [name]) = none) : s.Apart fs where
  temp := by
    intro place hplace _
    rw [tempPath, henters.find_of_none s.tempName_ne_up (hempty _)] at hplace
    cases hplace
    refine ⟨nameAt_tempPath.mpr ⟨p, henters, rfl⟩, fun id q hfile => ?_, fun hpasses => ?_⟩
    · simp [hempty] at hfile
    · rw [hs.path_eq] at hpasses
      rcases henters.passes_append hpasses with hpasses | hpasses
      · exact henters.not_passes (.inl (hempty _)) hpasses
      · exact s.concat_name_ne p (FileSystem.eq_of_passes_singleton hs.name_ne_up (.inl (hempty _)) hpasses)
  target := by
    intro place fromRoot target hplace hnode
    obtain ⟨q, hq, rfl⟩ := hs.nameAt_path.mp hplace
    obtain rfl := henters.unique hq
    simp [hempty] at hnode

/-- A new directory on the way is empty, so that nothing is found behind it, as before. -/
theorem spares_of_makeDirectory {p : Path} (hs : s.Proper) (hfs : fs.Rooted) (hp : p <+: s.directory)
    (hdone : fs.makeDirectory p = .ok fs') : s.Spares fs fs' := by
  have hrooted := hfs.makeDirectory hdone
  obtain ⟨place, hplace, hnone, rfl⟩ := FileSystem.makeDirectory_eq_ok.mp hdone
  obtain ⟨above, name, q, rfl, hname, henters, rfl⟩ := FileSystem.exists_of_nameAt hplace
  obtain ⟨back, hdirectory⟩ := hp
  obtain ⟨hmissing, -, hread⟩ :=
    missing_spec hs henters hname hnone (hdirectory.symm.trans (List.append_cons above name back).symm)
  -- the new directory can be entered, and is empty
  have hsame (r : Path) (hr : r ≠ q ++ [name]) := FileSystem.node?_put_of_ne hr fs .directory
  have henters' : (fs.put (q ++ [name]) .directory).Enters (above ++ [name]) (q ++ [name]) :=
    (henters.congr hsame (henters.not_passes (.inl hnone)) (by simp [hnone])).concat hname
      (FileSystem.node?_put_self (FileSystem.concat_ne_nil q name) fs _)
  have hempty (last : String) :
      (fs.put (q ++ [name]) .directory).node? (q ++ [name] ++ [last]) = none := by
    rw [hsame _ (FileSystem.ne_concat _ last).symm]
    exact hfs.node?_concat_of_none (by simp [hnone]) last
  have hleaf (r : Path) : (fs.put (q ++ [name]) .directory).leaf? r = fs.leaf? r := by
    by_cases hr : r = q ++ [name]
    · rw [hr, FileSystem.leaf?, FileSystem.leaf?, hnone,
        FileSystem.node?_put_self (FileSystem.concat_ne_nil q name)]
    · exact FileSystem.leaf?_put_of_ne hr fs _
  have hthere : s.Apart (fs.put (q ++ [name]) .directory) ∧
      (fs.put (q ++ [name]) .directory).read s.path = .error .notFound := by
    cases back with
    | nil =>
      rw [← List.append_nil (above ++ [name]), hdirectory] at henters'
      refine ⟨apart_of_empty hs henters' hempty, ?_⟩
      have hfind := henters'.find_of_none hs.name_ne_up (hempty _) []
      rw [← hs.path_eq] at hfind
      rw [FileSystem.read_of_find hfind, FileSystem.readAt_of_none (hempty _)]
    | cons next back =>
      have hnext : next ≠ ".." := by
        rintro rfl
        exact hs.up_notMem_directory (by simp [← hdirectory])
      exact (missing_spec hs henters' hnext (hempty next) hdirectory.symm).2
  exact ⟨hrooted, hthere.1, fun place h => absurd h (hmissing place), hthere.2.trans hread.symm,
    fun r _ => hleaf r⟩

/-- What is written first is no part of the way to the target. -/
theorem spares_of_write (hs : s.Proper) (hfs : fs.Rooted) (happart : s.Apart fs)
    (hdone : fs.write s.tempPath content = .ok fs') : s.Spares fs fs' := by
  obtain ⟨place, hplace, hnode, rfl⟩ := FileSystem.write_eq_ok.mp hdone
  obtain ⟨hname, halone, hpasses⟩ := happart.temp place hplace hnode
  have hend : fs.DeadEnd place :=
    ((hfs.locate_spec (FileSystem.node?_nil fs) hplace).resolve_left hnode).1
  obtain ⟨p, henters, rfl⟩ := nameAt_tempPath.mp hname
  have hsame (r : Path) (hr : r ≠ p ++ [s.tempName]) := FileSystem.node?_fill_of_ne hr fs content
  have henters' := henters.congr hsame (henters.not_passes hend) hnode
  have hname' := nameAt_tempPath.mpr ⟨p, henters', rfl⟩
  refine ⟨hfs.fill henters.2 hnode content, ⟨fun place' hplace' hnode' => ?_, ?_⟩, fun q hq => ?_, ?_, ?_⟩
  · obtain ⟨id, hid, -, -⟩ := FileSystem.node?_fill_self hnode halone content
    have hfound := henters'.find_concat s.tempName_ne_up (.inr ⟨id, hid⟩)
    obtain rfl : p ++ [s.tempName] = place' := Except.ok.inj (hfound.symm.trans hplace')
    exact ⟨hname', FileSystem.alone_fill hnode halone content,
      fun h => hpasses (or_self_iff.mp (h.congr hsame))⟩
  · intro place' fromRoot target hplace' hlink h
    obtain ⟨q, hq, rfl⟩ := hs.nameAt_path.mp hplace'
    obtain rfl := henters'.unique hq
    rw [hsame _ (s.concat_name_ne p)] at hlink
    have htarget := happart.target _ fromRoot target (hs.nameAt_path.mpr ⟨p, henters, rfl⟩) hlink
    exact (h.congr hsame).elim htarget (henters.not_passes hend)
  · rwa [← henters.unique hq]
  · refine FileSystem.read_congr (FileSystem.locate_congr hsame hpasses _) fun q hq => ?_
    have hne : q ≠ p ++ [s.tempName] := by
      rintro rfl
      have hspec := hfs.locate_spec (FileSystem.node?_nil fs) hq
      exact hpasses (hspec.resolve_left hnode).2.1
    exact ⟨hsame q hne, FileSystem.leaf?_fill_of_ne halone hne content⟩
  · refine fun q hq => FileSystem.leaf?_fill_of_ne halone ?_ content
    rintro rfl
    exact hq hname'

theorem spares_of_makes (hs : s.Proper) {p : Path} (hp : p <+: s.directory)
    (hmade : FileSystem.Makes p fs fs') (hfs : fs.Rooted) (happart : s.Apart fs) : s.Spares fs fs' := by
  induction hmade with
  | refl => exact .refl hfs happart
  | tail _ hmake ih =>
    obtain ⟨q, hq, hmake⟩ := hmake
    exact ih.trans (spares_of_makeDirectory hs ih.rooted (hq.trans hp) hmake)

theorem spares_of_createDirectories (hs : s.Proper) (hfs : fs.Rooted) (happart : s.Apart fs)
    {result : Except IoError Unit} (hdone : fs.createDirectories s.directory = (result, fs')) :
    s.Spares fs fs' := by
  have hmade := FileSystem.makes_createDirectories fs s.directory
  rw [hdone] at hmade
  exact spares_of_makes hs (List.prefix_refl _) hmade hfs happart

/-- Whatever is left of a step that was not finished, nothing that matters is touched. -/
theorem spares_of_leaves (hs : s.Proper) (hfs : fs.Rooted) (happart : s.Apart fs)
    (hstep : step ∈ s.saveSteps b) (h : Leaves fs step fs') : s.Spares fs fs' := by
  obtain rfl | rfl | rfl : step = .createDirectories s.directory ∨
      step = .write s.tempPath (FileStore.content b) ∨ step = .rename s.tempPath s.path := by
    simpa [saveSteps] using hstep
  · cases h with
    | nothing => exact .refl hfs happart
    | directories hmade => exact spares_of_makes hs (List.prefix_refl _) hmade hfs happart
  · cases h with
    | nothing => exact .refl hfs happart
    | beginning _ hdone => exact spares_of_write hs hfs happart hdone
  · cases h with
    | nothing => exact .refl hfs happart

/-! ### What a whole saving leaves -/

/-- A file with the content has been written beside the target. -/
def Written (s : FileStore) (content : Bytes) (fs : FileSystem) : Prop :=
  ∃ p id, fs.Enters s.directory p ∧ fs.node? (p ++ [s.tempName]) = some (.file id) ∧
    fs.content id = content

theorem written_of_write (happart : s.Apart fs) (hspares : s.Spares fs fs')
    (hdone : fs.write s.tempPath content = .ok fs') : s.Written content fs' := by
  obtain ⟨place, hplace, hnode, rfl⟩ := FileSystem.write_eq_ok.mp hdone
  obtain ⟨hname, halone, -⟩ := happart.temp place hplace hnode
  obtain ⟨p, henters, rfl⟩ := nameAt_tempPath.mp hname
  obtain ⟨id, hid, hcontent, -⟩ := FileSystem.node?_fill_self hnode halone content
  exact ⟨p, id, hspares.enters p henters, hid, hcontent⟩

/-- The book is at the target, the file that was written first is gone, and no other file or link is
touched. -/
structure Saved (s : FileStore) (b : RuleBook) (fs fs' : FileSystem) : Prop where
  rooted : fs'.Rooted
  read_eq : fs'.read s.path = .ok (FileStore.content b)
  temp : ∃ place, fs'.nameAt s.tempPath = .ok place ∧ fs'.node? place = none
  leaf_eq : ∀ p, fs'.nameAt s.tempPath ≠ .ok p → fs'.nameAt s.path ≠ .ok p → fs'.leaf? p = fs.leaf? p

theorem Saved.load_eq (h : s.Saved b fs fs') (now : Instant) : s.load now fs' = .ok b.retold := by
  rw [load, h.read_eq]
  show (RuleBook.ofBytes now (Text.toBytes b.toText)).mapError _ = _
  rw [RuleBook.ofBytes_toText_eq_retold]
  rfl

/-- The renaming puts the book at the target. -/
theorem saved_of_rename (hs : s.Proper) (h : s.Spares fs fs')
    (hwritten : s.Written (FileStore.content b) fs')
    (hdone : fs'.rename s.tempPath s.path = .ok fs'') : s.Saved b fs fs'' := by
  obtain ⟨p, id, henters, hid, hcontent⟩ := hwritten
  have htemp := nameAt_tempPath.mpr ⟨p, henters, rfl⟩
  have hend : fs'.DeadEnd (p ++ [s.tempName]) := .inr ⟨id, hid⟩
  have hrooted := h.rooted.rename htemp hid hdone
  obtain ⟨new, hnew, hnode, rfl⟩ := (FileSystem.rename_eq_ok htemp hid).mp hdone
  obtain ⟨q, hq, rfl⟩ := hs.nameAt_path.mp hnew
  obtain rfl := henters.unique hq
  -- the file has only one name, so it is moved
  have hother : fs'.node? (p ++ [s.name]) ≠ some (.file id) := fun hfile =>
    s.concat_name_ne p ((h.apart.temp _ (henters.find_concat s.tempName_ne_up hend)
      hend.ne_directory).2.1 id _ hid hfile)
  rw [if_neg hother] at hrooted ⊢
  have hremoved (r : Path) (hr : r ≠ p ++ [s.tempName]) := FileSystem.node?_remove_of_ne hr fs'
  have hput (r : Path) (hr : r ≠ p ++ [s.name]) :=
    FileSystem.node?_put_of_ne hr (fs'.remove (p ++ [s.tempName])) (.file id)
  have hself : ((fs'.remove (p ++ [s.tempName])).put (p ++ [s.name]) (.file id)).node? (p ++ [s.name]) =
      some (.file id) := FileSystem.node?_put_self (FileSystem.concat_ne_nil p _) _ _
  -- the way to the directory is still there, since it did not lead over what was moved or replaced
  have hpasses : ¬ fs'.Passes [] s.directory (p ++ [s.name]) := by
    cases hold : fs'.node? (p ++ [s.name]) with
    | none => exact henters.not_passes (.inl hold)
    | some node =>
      cases node with
      | directory => exact absurd hold hnode
      | file id' => exact henters.not_passes (.inr ⟨id', hold⟩)
      | link fromRoot target => exact h.apart.target _ fromRoot target hnew hold
  have henters' := (henters.congr hremoved (henters.not_passes hend) hend.ne_directory).congr hput
    (fun h => (h.congr hremoved).elim hpasses (henters.not_passes hend))
    (by rwa [hremoved _ (s.concat_name_ne p)])
  refine ⟨hrooted, ?_, ⟨_, nameAt_tempPath.mpr ⟨p, henters', rfl⟩, ?_⟩, fun r hr hr' => ?_⟩
  · have hfind := henters'.find_concat hs.name_ne_up (.inr ⟨id, hself⟩)
    rw [← hs.path_eq] at hfind
    rw [FileSystem.read_of_find hfind, FileSystem.readAt_of_file hself]
    exact congrArg Except.ok hcontent
  · rw [hput _ (s.concat_name_ne p).symm, FileSystem.node?_remove_self (FileSystem.concat_ne_nil p _)]
  · have hne : r ≠ p ++ [s.name] := by
      rintro rfl
      exact hr' (hs.nameAt_path.mpr ⟨p, henters', rfl⟩)
    have hne' : r ≠ p ++ [s.tempName] := by
      rintro rfl
      exact hr (nameAt_tempPath.mpr ⟨p, henters', rfl⟩)
    rw [FileSystem.leaf?_put_of_ne hne, FileSystem.leaf?_remove_of_ne hne']
    refine h.leaf_eq r fun hplace => hne' ?_
    exact Except.ok.inj (hplace.symm.trans htemp)

/-- **Step by step**: until the last one is done, nothing is touched that matters; behind it, the book is
saved. -/
theorem spares_or_saved (hs : s.Proper) (hfs : fs.Rooted) (happart : s.Apart fs)
    (h : Stops fs (s.saveSteps b) n fs') : (n < 3 ∧ s.Spares fs fs') ∨ (n = 3 ∧ s.Saved b fs fs') := by
  have hbegun {fs fs' : FileSystem} {step : SaveStep} (hfs : fs.Rooted) (happart : s.Apart fs)
      (hstep : step ∈ s.saveSteps b) (hleaves : Leaves fs step fs') : s.Spares fs fs' :=
    spares_of_leaves hs hfs happart hstep hleaves
  rw [saveSteps] at h hbegun
  -- the three steps in turn: each of the first two spares, finished or not, and the last one saves
  cases h with
  | during hleaves => exact .inl ⟨by decide, hbegun hfs happart (by simp) hleaves⟩
  | behind hdirectories h =>
    have hfirst := spares_of_createDirectories hs hfs happart hdirectories
    cases h with
    | during hleaves =>
      exact .inl ⟨by decide, hfirst.trans (hbegun hfirst.rooted hfirst.apart (by simp) hleaves)⟩
    | behind hwrite h =>
      have hwrite := SaveStep.after_eq_ok.mp hwrite
      have hspares := spares_of_write hs hfirst.rooted hfirst.apart hwrite
      have hsecond := hfirst.trans hspares
      cases h with
      | during hleaves =>
        exact .inl ⟨by decide, hsecond.trans (hbegun hsecond.rooted hsecond.apart (by simp) hleaves)⟩
      | behind hrename h =>
        cases h
        have hwritten := written_of_write hfirst.apart hspares hwrite
        exact .inr ⟨rfl, saved_of_rename hs hsecond hwritten (SaveStep.after_eq_ok.mp hrename)⟩

/-- **A saving that is stopped is not seen.**  If the renaming was not done, what is loaded is what would
have been loaded without the saving, and otherwise it is the book, and the file beside the target is gone.
In no case is any file or link touched but these two. -/
theorem load_of_stops (hs : s.Proper) (hfs : fs.Rooted) (happart : s.Apart fs) (now : Instant)
    (h : Stops fs (s.saveSteps b) n fs') :
    fs'.Rooted ∧ n ≤ 3 ∧
    (n < 3 → s.load now fs' = s.load now fs) ∧
    (n = 3 → s.load now fs' = .ok b.retold ∧
      ((∀ r ∈ b.rules, r.responseType.IsNamed) → s.load now fs' = .ok b.floored) ∧
      ∃ place, fs'.nameAt s.tempPath = .ok place ∧ fs'.node? place = none) ∧
    ∀ p, fs'.nameAt s.tempPath ≠ .ok p → fs'.nameAt s.path ≠ .ok p → fs'.leaf? p = fs.leaf? p := by
  rcases spares_or_saved hs hfs happart h with ⟨hn, hspares⟩ | ⟨rfl, hsaved⟩
  · exact ⟨hspares.rooted, Nat.le_of_lt hn, fun _ => hspares.load_eq now,
      fun hall => absurd hn (hall ▸ Nat.lt_irrefl 3), fun p hp _ => hspares.leaf_eq p hp⟩
  · refine ⟨hsaved.rooted, Nat.le_refl 3, fun hn => absurd hn (Nat.lt_irrefl 3),
      fun _ => ⟨hsaved.load_eq now, fun hnamed => ?_, hsaved.temp⟩, hsaved.leaf_eq⟩
    rw [hsaved.load_eq, RuleBook.retold_eq_floored hnamed]

/-! ### Saving -/

/-- **What a saving does.**  Its steps are done in their order.  It succeeds if none is refused, and
otherwise ends at the one that is refused, with the error of that step. -/
theorem save_spec (s : FileStore) (b : RuleBook) (fs : FileSystem) :
    match s.save b fs with
    | (.ok (), fs') => Done fs (s.saveSteps b) fs'
    | (.error err, fs') => ∃ done step rest fs₁ e, s.saveSteps b = done ++ step :: rest ∧
        Done fs done fs₁ ∧ step.run fs₁ = (.error e, fs') ∧ err = .io e := by
  have hspec := SaveStep.runAll_spec fs (s.saveSteps b)
  rcases hall : SaveStep.runAll fs (s.saveSteps b) with ⟨e | ⟨⟩, fs'⟩
  · have hsave : s.save b fs = (.error (.io e), fs') := by
      rw [save, hall]
      rfl
    rw [hall] at hspec
    obtain ⟨done, step, rest, fs₁, hsteps, hdone, hrefused⟩ := hspec
    rw [hsave]
    exact ⟨done, step, rest, fs₁, e, hsteps, hdone, hrefused, rfl⟩
  · have hsave : s.save b fs = (.ok (), fs') := by
      rw [save, hall]
      rfl
    rw [hall] at hspec
    rw [hsave]
    exact hspec

theorem done_saveSteps_iff :
    Done fs (s.saveSteps b) fs' ↔ ∃ fs₁ fs₂, fs.createDirectories s.directory = (.ok (), fs₁) ∧
      fs₁.write s.tempPath (FileStore.content b) = .ok fs₂ ∧
      fs₂.rename s.tempPath s.path = .ok fs' := by
  constructor
  · intro h
    cases h with
    | cons hdirectories h =>
      cases h with
      | cons hwrite h =>
        cases h with
        | cons hrename h =>
          cases h
          exact ⟨_, _, hdirectories, SaveStep.after_eq_ok.mp hwrite, SaveStep.after_eq_ok.mp hrename⟩
  · rintro ⟨fs₁, fs₂, hdirectories, hwrite, hrename⟩
    exact .cons hdirectories (.cons (SaveStep.after_eq_ok.mpr hwrite)
      (.cons (SaveStep.after_eq_ok.mpr hrename) (.nil fs')))

theorem save_eq_ok_iff_done : (s.save b fs).1 = .ok () ↔ ∃ fs', Done fs (s.saveSteps b) fs' := by
  constructor
  · intro h
    have hspec := save_spec s b fs
    rcases hsave : s.save b fs with ⟨err | ⟨⟩, fs'⟩
    · rw [hsave] at h
      cases h
    · rw [hsave] at hspec
      exact ⟨fs', hspec⟩
  · rintro ⟨fs', hdone⟩
    rw [save, hdone.runAll_eq]
    rfl

/-- Behind the writing, the renaming can be done unless a directory is in the place of the target. -/
theorem exists_rename_iff (hs : s.Proper) (hfs : fs.Rooted) (happart : s.Apart fs)
    (hwrite : fs.write s.tempPath content = .ok fs') :
    (∃ fs'', fs'.rename s.tempPath s.path = .ok fs'') ↔
      ∃ place, fs.nameAt s.path = .ok place ∧ fs.node? place ≠ some .directory := by
  have hspares := spares_of_write hs hfs happart hwrite
  obtain ⟨p, id, henters', hid, -⟩ := written_of_write happart hspares hwrite
  have htemp := nameAt_tempPath.mpr ⟨p, henters', rfl⟩
  obtain ⟨place, hplace, hnode, rfl⟩ := FileSystem.write_eq_ok.mp hwrite
  obtain ⟨q, henters, rfl⟩ := nameAt_tempPath.mp (happart.temp place hplace hnode).1
  obtain rfl := henters'.unique (hspares.enters q henters)
  -- what is in the place of the target is not changed by the writing
  have hkept := FileSystem.node?_fill_of_ne (s.concat_name_ne p) fs content
  constructor
  · rintro ⟨fs'', hrename⟩
    obtain ⟨new, hnew, hdirectory, -⟩ := (FileSystem.rename_eq_ok htemp hid).mp hrename
    obtain ⟨r, hr, rfl⟩ := hs.nameAt_path.mp hnew
    obtain rfl := henters'.unique hr
    rw [hkept] at hdirectory
    exact ⟨_, hs.nameAt_path.mpr ⟨p, henters, rfl⟩, hdirectory⟩
  · rintro ⟨new, hnew, hdirectory⟩
    obtain ⟨r, hr, rfl⟩ := hs.nameAt_path.mp hnew
    obtain rfl := henters.unique hr
    rw [← hkept] at hdirectory
    exact ⟨_, (FileSystem.rename_eq_ok htemp hid).mpr
      ⟨_, hs.nameAt_path.mpr ⟨p, henters', rfl⟩, hdirectory, rfl⟩⟩

/-- **When a saving succeeds**: the directories are there or can be made, a file can be written beside the
target, and no directory is in its place. -/
theorem save_eq_ok_iff (hs : s.Proper) (hfs : fs.Rooted) (happart : s.Apart fs) (b : RuleBook) :
    (s.save b fs).1 = .ok () ↔ ∃ fs₁, fs.createDirectories s.directory = (.ok (), fs₁) ∧
      (∃ place, fs₁.find s.tempPath = .ok place ∧ fs₁.node? place ≠ some .directory) ∧
      ∃ place, fs₁.nameAt s.path = .ok place ∧ fs₁.node? place ≠ some .directory := by
  simp only [save_eq_ok_iff_done, done_saveSteps_iff]
  constructor
  · rintro ⟨fs', fs₁, fs₂, hdirectories, hwrite, hrename⟩
    have hfirst := spares_of_createDirectories hs hfs happart hdirectories
    obtain ⟨place, hplace, hnode, -⟩ := FileSystem.write_eq_ok.mp hwrite
    exact ⟨fs₁, hdirectories, ⟨place, hplace, hnode⟩,
      (exists_rename_iff hs hfirst.rooted hfirst.apart hwrite).mp ⟨fs', hrename⟩⟩
  · rintro ⟨fs₁, hdirectories, ⟨place, hplace, hnode⟩, htarget⟩
    have hfirst := spares_of_createDirectories hs hfs happart hdirectories
    have hwrite : fs₁.write s.tempPath (FileStore.content b) =
        .ok (fs₁.fill place (FileStore.content b)) :=
      FileSystem.write_eq_ok.mpr ⟨place, hplace, hnode, rfl⟩
    obtain ⟨fs', hrename⟩ := (exists_rename_iff hs hfirst.rooted hfirst.apart hwrite).mpr htarget
    exact ⟨fs', fs₁, _, hdirectories, hwrite, hrename⟩

/-- A saving that comes to an end is one that has stopped there. -/
theorem stops_save (s : FileStore) (b : RuleBook) (fs : FileSystem) :
    ∃ n, Stops fs (s.saveSteps b) n (s.save b fs).2 ∧ ((s.save b fs).1 = .ok () ↔ n = 3) := by
  have hspec := save_spec s b fs
  rcases hsave : s.save b fs with ⟨err | ⟨⟩, fs'⟩
  · rw [hsave] at hspec
    obtain ⟨done, step, rest, fs₁, e, hsteps, hdone, hrefused, -⟩ := hspec
    have hstops := hdone.stops_append (.during (SaveStep.leaves_of_run hrefused) rest)
    rw [← hsteps] at hstops
    refine ⟨_, hstops, iff_of_false nofun ?_⟩
    have hlength := congrArg List.length hsteps
    rw [List.length_append, List.length_cons, show (s.saveSteps b).length = 3 from rfl] at hlength
    omega
  · rw [hsave] at hspec
    exact ⟨3, hspec.stops, iff_of_true rfl rfl⟩

/-- **A saving is done as a whole or not at all.**  Wherever it is stopped, what is loaded is what would have
been loaded without it, or, if the renaming was done, the book, and the file beside the target is gone; no
file or link is touched but these two.  The saving itself is such a run of its steps: it goes as far as the
first one that is refused and ends with the error of that one, and succeeds if none is.  It does succeed
unless the directories cannot be made, or one is in the place of the target or of the file beside it. -/
theorem save_atomic (hs : s.Proper) (hfs : fs.Rooted) (happart : s.Apart fs) (b : RuleBook)
    (now : Instant) :
    (∀ n fs', Stops fs (s.saveSteps b) n fs' →
      fs'.Rooted ∧ n ≤ 3 ∧
      (n < 3 → s.load now fs' = s.load now fs) ∧
      (n = 3 → s.load now fs' = .ok b.retold ∧
        ((∀ r ∈ b.rules, r.responseType.IsNamed) → s.load now fs' = .ok b.floored) ∧
        ∃ place, fs'.nameAt s.tempPath = .ok place ∧ fs'.node? place = none) ∧
      ∀ p, fs'.nameAt s.tempPath ≠ .ok p → fs'.nameAt s.path ≠ .ok p → fs'.leaf? p = fs.leaf? p) ∧
    (match s.save b fs with
      | (.ok (), fs') => Done fs (s.saveSteps b) fs'
      | (.error err, fs') => ∃ done step rest fs₁ e, s.saveSteps b = done ++ step :: rest ∧
          Done fs done fs₁ ∧ step.run fs₁ = (.error e, fs') ∧ err = .io e) ∧
    (∃ n, Stops fs (s.saveSteps b) n (s.save b fs).2 ∧ ((s.save b fs).1 = .ok () ↔ n = 3)) ∧
    ((s.save b fs).1 = .ok () ↔ ∃ fs₁, fs.createDirectories s.directory = (.ok (), fs₁) ∧
      (∃ place, fs₁.find s.tempPath = .ok place ∧ fs₁.node? place ≠ some .directory) ∧
      ∃ place, fs₁.nameAt s.path = .ok place ∧ fs₁.node? place ≠ some .directory) :=
  ⟨fun _ _ h => load_of_stops hs hfs happart now h, save_spec s b fs, stops_save s b fs,
    save_eq_ok_iff hs hfs happart b⟩

/-- The target is a link to a file somewhere else, and an old file lies beside it.  A saving that is stopped
when it has written one byte is not seen, and one that is not stopped puts the book in the place of the
link. -/
theorem save_atomic_linked_target :
    let s : FileStore := ⟨["d", "rules.json"]⟩
    let b : RuleBook := ⟨[], false⟩
    let fs : FileSystem :=
      ⟨[(["d", "rules.json.tmp"], .file 1), (["d", "rules.json"], .link false ["old.json"]),
        (["d", "old.json"], .file 0), (["d"], .directory)], [(0, [0x37]), (1, [0x31])]⟩
    (∃ fs', Stops fs (s.saveSteps b) 1 fs' ∧ fs'.read s.tempPath = .ok [0x7b] ∧
      s.load .epoch fs' = s.load .epoch fs) ∧
    ∃ fs', (s.save b fs) = (.ok (), fs') ∧ s.load .epoch fs' = .ok b ∧
      fs'.leaf? ["d", "old.json"] = some (.file [0x37]) := by
  intro s b fs
  have hs : s.Proper := ⟨nofun, by decide⟩
  have hrooted : fs.Rooted := FileSystem.rooted_of_forall_mem (by decide)
  have hapart : s.Apart fs := by
    constructor
    · intro place hplace _
      obtain rfl : ["d", "rules.json.tmp"] = place := Except.ok.inj hplace
      refine ⟨rfl, FileSystem.alone_of_forall_mem (by decide), fun hpasses => ?_⟩
      -- the way to the target leads over the directory, the link and the old file
      rcases (FileSystem.passes_cons (by decide)).mp hpasses with h | hpasses
      · exact absurd h (by decide)
      rcases (FileSystem.passes_cons (by decide)).mp hpasses with h | hpasses
      · exact absurd h (by decide)
      rcases (FileSystem.passes_cons (by decide)).mp hpasses with h | hpasses
      · exact absurd h (by decide)
      · exact hpasses
    · intro place fromRoot target hplace _ hpasses
      obtain rfl : ["d", "rules.json"] = place := Except.ok.inj hplace
      rcases (FileSystem.passes_cons (by decide)).mp hpasses with h | hpasses
      · exact absurd h (by decide)
      · exact FileSystem.not_passes_nil hpasses
  obtain ⟨hstopped, -, ⟨n, hstops, hall⟩, -⟩ := save_atomic hs hrooted hapart b .epoch
  constructor
  · obtain ⟨fs', hwrite⟩ : ∃ fs', fs.write s.tempPath [0x7b] = .ok fs' := ⟨_, rfl⟩
    have hleaves : Leaves fs (.write s.tempPath (FileStore.content b)) fs' :=
      .beginning ⟨_, rfl⟩ hwrite
    have hstops : Stops fs (s.saveSteps b) 1 fs' := .behind rfl (.during hleaves _)
    obtain ⟨-, -, hload, -⟩ := hstopped 1 fs' hstops
    refine ⟨fs', hstops, ?_, hload (by decide)⟩
    cases hwrite
    rfl
  · obtain rfl : n = 3 := hall.mp rfl
    obtain ⟨-, -, -, hload, hothers⟩ := hstopped 3 _ hstops
    have hold := hothers ["d", "old.json"] (fun h => absurd (Except.ok.inj h) (by decide))
      (fun h => absurd (Except.ok.inj h) (by decide))
    exact ⟨_, rfl, (hload rfl).2.1 (List.forall_mem_nil _), hold⟩

/-- Through a link, a saving that is stopped is seen: where the file beside the target is another name of
the target, what is loaded is no book any more when one byte has been written, and a saving that is not
stopped leaves both names there.  Where it is a symbolic link, a saving changes the file that the link leads
to. -/
theorem save_through_link :
    let s : FileStore := ⟨["rules.json"]⟩
    let b : RuleBook := ⟨[], false⟩
    (let fs : FileSystem :=
      ⟨[(["rules.json.tmp"], .file 0), (["rules.json"], .file 0)], [(0, FileStore.content .initial)]⟩
    fs.Rooted ∧ s.load .epoch fs = .ok .initial ∧
      (∃ fs', Stops fs (s.saveSteps b) 1 fs' ∧ ∃ err, s.load .epoch fs' = .error err) ∧
      ∃ fs', s.save b fs = (.ok (), fs') ∧ fs'.node? s.tempPath = some (.file 0)) ∧
    (let fs : FileSystem :=
      ⟨[(["rules.json.tmp"], .link false ["notes"]), (["notes"], .file 0)], [(0, [0x31])]⟩
    fs.Rooted ∧ fs.leaf? ["notes"] = some (.file [0x31]) ∧
      ∃ fs', s.save b fs = (.ok (), fs') ∧
        fs'.leaf? ["notes"] = some (.file (FileStore.content b))) := by
  intro s b
  constructor
  · intro fs
    refine ⟨FileSystem.rooted_of_forall_mem (by decide), rfl, ?_⟩
    obtain ⟨fs', hwrite⟩ : ∃ fs', fs.write s.tempPath [0x7b] = .ok fs' := ⟨_, rfl⟩
    have hleaves : Leaves fs (.write s.tempPath (FileStore.content b)) fs' :=
      .beginning ⟨_, rfl⟩ hwrite
    refine ⟨⟨fs', .behind rfl (.during hleaves _), ?_⟩, _, rfl, rfl⟩
    cases hwrite
    exact ⟨_, rfl⟩
  · intro fs
    exact ⟨FileSystem.rooted_of_forall_mem (by decide), rfl, _, rfl, rfl⟩

end FileStore

end ReplyRules
