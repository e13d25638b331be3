import ConsoleTap.Files.Tree
import ConsoleTap.Proofs.Results

/-!
# Making directories where something is

Where a path leads somewhere already, no directory can be made: what is there stays, and
the attempt fails unless it is a directory.  In particular a file is never made a
directory.
-/

namespace ConsoleTap.Files.Tree

variable {t : Tree} {path name : String} {place next : Place}

/-- The names of a path are those up to the last one that is not empty, and empty ones. -/
theorem names_of_splitLast {before : List String} (h : splitLast? path = some (before, name)) :
    name ≠ "" ∧ ∃ rest, names path = before ++ name :: rest ∧ ∀ n ∈ rest, n = "" := by
  have hnames : names path = ((names path).reverse.dropWhile (· = "")).reverse ++
      ((names path).reverse.takeWhile (· = "")).reverse := by
    rw [← List.reverse_append, List.takeWhile_append_dropWhile, List.reverse_reverse]
  rw [splitLast?] at h
  cases hkept : (names path).reverse.dropWhile (· = "") with
  | nil =>
      rw [hkept] at h
      cases h
  | cons last others =>
      rw [hkept, List.reverse_cons] at h hnames
      have hlast : decide (last = "") ≠ true := by
        have hhead := List.head?_dropWhile_not (fun n => decide (n = "")) (names path).reverse
        rw [hkept] at hhead
        simpa using hhead
      split at h
      · cases h
      · simp only [List.dropLast_concat, List.getLastD_concat, Option.some.injEq,
          Prod.mk.injEq] at h
        obtain ⟨rfl, rfl⟩ := h
        refine ⟨by simpa using hlast, _, by rwa [List.append_assoc] at hnames, ?_⟩
        intro n hn
        have hempty := List.all_eq_true.mp (List.all_takeWhile (p := fun n => decide (n = "")))
          n (List.mem_reverse.mp hn)
        simpa using hempty

/-- A step along a path with a name goes on from a directory that may be entered. -/
theorem stepFrom_eq_ok_iff (hname : name ≠ "") : t.stepFrom place name = .ok next ↔
    t.isDirectoryAt place = true ∧ t.allow .enter place = .ok () ∧
      t.nextFrom place name = .ok next := by
  rw [stepFrom, if_neg hname]
  cases t.isDirectoryAt place with
  | false => simp
  | true => simp [check_bind_eq_ok_iff]

/-- Where a path leads somewhere, no directory can be made. -/
theorem makeDirectory_of_resolve (h : t.resolve path = .ok place) :
    t.makeDirectory path = .error .alreadyExists := by
  obtain ⟨_, hcheck, hfollow⟩ := bind_eq_ok_iff.mp h
  rw [makeDirectory, hcheck]
  cases hsplit : splitLast? path with
  | none => rfl
  | some parts =>
      obtain ⟨before, name⟩ := parts
      -- following the path passes the directory that should hold the new one, and its name in it
      obtain ⟨hname, rest, hnames, -⟩ := names_of_splitLast hsplit
      rw [hnames, List.foldlM_append] at hfollow
      obtain ⟨holder, hholder, hrest⟩ := bind_eq_ok_iff.mp hfollow
      rw [List.foldlM_cons] at hrest
      obtain ⟨next, hstep, -⟩ := bind_eq_ok_iff.mp hrest
      obtain ⟨hdirectory, henter, hnext⟩ := (stepFrom_eq_ok_iff hname).mp hstep
      simp [hholder, hdirectory, henter, hnext, bind, Except.bind]

/-- A file is not made a directory, and one is told that it is there. -/
theorem makeDirectories_of_isFile (h : t.isFile path = true) :
    t.makeDirectories path = .error .alreadyExists := by
  obtain ⟨place, hresolve, content, hentry⟩ : ∃ place, t.resolve path = .ok place ∧
      ∃ content, t.entry? place = some (.file content) := by
    rw [isFile] at h
    split at h
    · rename_i place hresolve
      refine ⟨place, hresolve, ?_⟩
      split at h
      · exact ⟨_, ‹_›⟩
      · cases h
    · cases h
  have hpath : path ≠ "" := by
    rintro rfl
    cases hresolve
  have hnoDirectory : t.isDirectory path = false := by
    rw [isDirectory, hresolve]
    simp only [isDirectoryAt, hentry]
  rw [makeDirectories, makeDirectoriesWithin, if_neg hpath, makeDirectory_of_resolve hresolve]
  simp only [hnoDirectory, Bool.false_eq_true, if_false]

/-! ### What was made -/

theorem entryAt?_eq_none_of_lookup {entries : List (String × Entry)}
    (h : entries.lookup name = none) : entryAt? entries (name :: place) = none := by
  rw [entryAt?, h]

theorem lookup_eq_none_of_entryAt? {entries : List (String × Entry)}
    (h : entryAt? entries [name] = none) : entries.lookup name = none := by
  rw [entryAt?] at h
  split at h
  · assumption
  · cases h
  · cases h

/-- A name that is put into a directory leaves the other names in it as they are. -/
theorem lookup_of_ne {entries : List (String × Entry)} {entry : Entry} {other : String}
    (h : other ≠ name) :
    ((name, entry) :: entries.filter fun e => e.1 ≠ name).lookup other = entries.lookup other := by
  have hother : (other == name) = false := by simpa using h
  simp only [List.lookup_cons, hother]
  induction entries with
  | nil => rfl
  | cons e entries ih =>
      obtain ⟨n, old⟩ := e
      by_cases hn : n = name
      · subst hn
        rw [List.filter_cons_of_neg (by simp), List.lookup_cons, hother]
        exact ih
      · rw [List.filter_cons_of_pos (by simpa using hn), List.lookup_cons, List.lookup_cons, ih]

theorem exists_insertAt_cons (entry : Entry) (name : String) (place : Place)
    (entries : List (String × Entry)) :
    ∃ changed, insertAt entry (name :: place) entries =
      (name, changed) :: entries.filter fun e => e.1 ≠ name := by
  cases place with
  | nil => exact ⟨entry, rfl⟩
  | cons next place => exact ⟨_, rfl⟩

theorem entryAt?_insertAt {entry : Entry} (hplace : place ≠ []) (entries : List (String × Entry)) :
    entryAt? (insertAt entry place entries) place = some entry := by
  induction place generalizing entries with
  | nil => exact absurd rfl hplace
  | cons name place ih =>
      cases place with
      | nil =>
          cases entry with
          | file content => simp [insertAt, entryAt?]
          | directory sub => simp [insertAt, entryAt?]
      | cons next place =>
          simp only [insertAt, entryAt?, List.lookup_cons_self]
          exact ih (List.cons_ne_nil _ _) _

/-- A new directory hides nothing: what was there is there, and what was a directory is one. -/
theorem exists_entryAt?_insertAt {entries : List (String × Entry)} {new : Place} {entry : Entry}
    (hnew : entryAt? entries new = none) (h : entryAt? entries place = some entry) :
    ∃ entry', entryAt? (insertAt (.directory []) new entries) place = some entry' ∧
      ∀ sub, entry = .directory sub → ∃ sub', entry' = .directory sub' := by
  induction new generalizing entries place with
  | nil => cases hnew
  | cons name new ih =>
      cases place with
      | nil => exact ⟨_, rfl, fun _ _ => ⟨_, rfl⟩⟩
      | cons n place =>
          by_cases hn : n = name
          swap
          · -- the way leads past what is new
            refine ⟨entry, ?_, fun sub hsub => ⟨sub, hsub⟩⟩
            obtain ⟨changed, hchanged⟩ := exists_insertAt_cons (.directory []) name new entries
            rwa [hchanged, entryAt?, lookup_of_ne hn, ← entryAt?]
          subst hn
          cases new with
          | nil =>
              rw [entryAt?_eq_none_of_lookup (lookup_eq_none_of_entryAt? hnew)] at h
              cases h
          | cons next new =>
              rw [entryAt?] at h hnew
              cases hlookup : entries.lookup n with
              | none =>
                  rw [hlookup] at h
                  cases h
              | some old =>
                  rw [hlookup] at h hnew
                  cases old with
                  | file content =>
                      simp only at h
                      split at h
                      · rename_i hempty
                        cases h
                        rw [List.isEmpty_iff] at hempty
                        subst hempty
                        refine ⟨_, by simp only [insertAt, entryAt?, List.lookup_cons_self]; rfl, nofun⟩
                      · cases h
                  | directory sub =>
                      simp only [insertAt, entryAt?, List.lookup_cons_self, hlookup]
                      exact ih hnew h

/-- What was in a tree is in the other one, and its directories are directories there. -/
structure Keeps (t t' : Tree) : Prop where
  working : t'.workingDirectory = t.workingDirectory
  refuses : t'.refuses = t.refuses
  entries : ∀ place entry, t.entry? place = some entry → ∃ entry', t'.entry? place = some entry' ∧
    ∀ sub, entry = .directory sub → ∃ sub', entry' = .directory sub'

theorem keeps_insert (h : t.entry? place = none) : t.Keeps (t.insert place (.directory [])) :=
  ⟨rfl, rfl, fun _ _ hentry => exists_entryAt?_insertAt h hentry⟩

theorem isDirectoryAt_iff :
    t.isDirectoryAt place = true ↔ ∃ sub, t.entry? place = some (.directory sub) := by
  rw [isDirectoryAt]
  split
  · exact ⟨fun _ => ⟨_, ‹_›⟩, fun _ => rfl⟩
  · rename_i hne
    exact ⟨nofun, fun ⟨sub, hsub⟩ => absurd hsub (hne sub)⟩

variable {t' : Tree}

theorem Keeps.isDirectoryAt (hkeeps : t.Keeps t') (h : t.isDirectoryAt place = true) :
    t'.isDirectoryAt place = true := by
  obtain ⟨sub, hsub⟩ := isDirectoryAt_iff.mp h
  obtain ⟨entry', hentry', hdirectory⟩ := hkeeps.entries place _ hsub
  obtain ⟨sub', rfl⟩ := hdirectory sub rfl
  exact isDirectoryAt_iff.mpr ⟨sub', hentry'⟩

theorem Keeps.allow (hkeeps : t.Keeps t') (deed : Deed) (place : Place) :
    t'.allow deed place = t.allow deed place := by
  rw [Tree.allow, Tree.allow, hkeeps.refuses]

theorem Keeps.nextFrom (hkeeps : t.Keeps t') (h : t.nextFrom place name = .ok next) :
    t'.nextFrom place name = .ok next := by
  rw [Tree.nextFrom] at h ⊢
  split at h
  · rw [if_pos ‹_›]
    exact h
  rw [if_neg ‹_›]
  split at h
  · rw [if_pos ‹_›]
    exact h
  rw [if_neg ‹_›]
  split at h
  · cases h
  rw [if_neg ‹_›]
  split at h
  · rename_i hthere
    obtain ⟨entry, hentry⟩ := Option.isSome_iff_exists.mp hthere
    obtain ⟨entry', hentry', -⟩ := hkeeps.entries _ _ hentry
    rw [if_pos (by rw [hentry']; rfl)]
    exact h
  · cases h

theorem stepFrom_empty (hdirectory : t.isDirectoryAt place = true) :
    t.stepFrom place "" = .ok place := by
  rw [stepFrom, hdirectory, if_neg (by simp), if_pos rfl]

theorem isDirectoryAt_of_stepFrom (h : t.stepFrom place name = .ok next) :
    t.isDirectoryAt place = true := by
  by_contra hnot
  rw [stepFrom, if_pos (by simpa using hnot)] at h
  cases h

theorem Keeps.stepFrom (hkeeps : t.Keeps t') (h : t.stepFrom place name = .ok next) :
    t'.stepFrom place name = .ok next := by
  have hdirectory := isDirectoryAt_of_stepFrom h
  by_cases hname : name = ""
  · subst hname
    rw [← h, stepFrom_empty hdirectory, stepFrom_empty (hkeeps.isDirectoryAt hdirectory)]
  · obtain ⟨-, henter, hnext⟩ := (stepFrom_eq_ok_iff hname).mp h
    exact (stepFrom_eq_ok_iff hname).mpr
      ⟨hkeeps.isDirectoryAt hdirectory, (hkeeps.allow .enter place).trans henter,
        hkeeps.nextFrom hnext⟩

theorem Keeps.foldlM_stepFrom (hkeeps : t.Keeps t') {ns : List String}
    (h : ns.foldlM t.stepFrom place = .ok next) : ns.foldlM t'.stepFrom place = .ok next := by
  induction ns generalizing place with
  | nil => exact h
  | cons n ns ih =>
      rw [List.foldlM_cons] at h ⊢
      obtain ⟨mid, hstep, hrest⟩ := bind_eq_ok_iff.mp h
      exact bind_eq_ok_iff.mpr ⟨mid, hkeeps.stepFrom hstep, ih hrest⟩

/-- The empty names at the end of a path lead on from a directory to itself. -/
theorem foldlM_stepFrom_empty {ns : List String} (hdirectory : t.isDirectoryAt place = true)
    (h : ∀ n ∈ ns, n = "") : ns.foldlM t.stepFrom place = .ok place := by
  induction ns with
  | nil => rfl
  | cons n ns ih =>
      obtain ⟨hn, hns⟩ := List.forall_mem_cons.mp h
      subst hn
      rw [List.foldlM_cons]
      exact bind_eq_ok_iff.mpr ⟨place, stepFrom_empty hdirectory, ih hns⟩

theorem isFile_eq_false_of_isDirectory (h : t.isDirectory path = true) : t.isFile path = false := by
  rw [isDirectory] at h
  rw [isFile]
  split at h
  · rename_i place hresolve
    obtain ⟨sub, hsub⟩ := isDirectoryAt_iff.mp h
    simp only [hsub]
  · cases h

/-- What was looked for in vain is new, and it has a name of its own. -/
theorem of_nextFrom_notFound (h : t.nextFrom place name = .error .notFound) :
    name ≠ "." ∧ name ≠ ".." ∧ ¬maxNameLength < name.utf8ByteSize ∧
      t.entry? (place ++ [name]) = none := by
  rw [nextFrom] at h
  split at h
  · cases h
  rename_i hdot
  split at h
  · cases h
  rename_i hdots
  split at h
  · cases h
  rename_i hlength
  split at h
  · cases h
  rename_i hnone
  exact ⟨hdot, hdots, hlength, by simpa using hnone⟩

/-- Where a directory was made: in one that may be entered, under a name that was not there. -/
theorem of_makeDirectory (h : t.makeDirectory path = .ok t') :
    ∃ before name holder, checkPath path = .ok () ∧ splitLast? path = some (before, name) ∧
      before.foldlM t.stepFrom (t.start path) = .ok holder ∧ t.isDirectoryAt holder = true ∧
      t.allow .enter holder = .ok () ∧ t.nextFrom holder name = .error .notFound ∧
      t' = t.insert (holder ++ [name]) (.directory []) := by
  obtain ⟨hcheck, h⟩ := check_bind_eq_ok_iff.mp h
  split at h
  · cases h
  rename_i before name hsplit
  obtain ⟨holder, hfollow, h⟩ := bind_eq_ok_iff.mp h
  split at h
  · cases h
  rename_i hdirectory
  obtain ⟨henter, h⟩ := check_bind_eq_ok_iff.mp h
  split at h
  · cases h
  · rename_i hnone
    obtain ⟨-, h⟩ := check_bind_eq_ok_iff.mp h
    exact ⟨before, name, holder, hcheck, hsplit, hfollow, by simpa using hdirectory, henter, hnone,
      (Except.ok.inj h).symm⟩
  · cases h

/-- A directory that was made is one. -/
theorem isDirectory_of_makeDirectory (h : t.makeDirectory path = .ok t') :
    t'.isDirectory path = true := by
  obtain ⟨before, name, holder, hcheck, hsplit, hfollow, hdirectory, henter, hnone, rfl⟩ :=
    of_makeDirectory h
  obtain ⟨hname, rest, hnames, hrest⟩ := names_of_splitLast hsplit
  obtain ⟨hdot, hdots, hlength, hnew⟩ := of_nextFrom_notFound hnone
  have hkeeps : t.Keeps (t.insert (holder ++ [name]) (.directory [])) := keeps_insert hnew
  have hmade : entry? (t.insert (holder ++ [name]) (.directory [])) (holder ++ [name]) =
      some (.directory []) := entryAt?_insertAt (by simp) t.root
  -- the way to the new directory is still there, and the way ends in it
  have hnext : (t.insert (holder ++ [name]) (.directory [])).nextFrom holder name =
      .ok (holder ++ [name]) := by
    rw [nextFrom, if_neg hdot, if_neg hdots, if_neg hlength, if_pos (by rw [hmade]; rfl)]
  have hstep : (t.insert (holder ++ [name]) (.directory [])).stepFrom holder name =
      .ok (holder ++ [name]) :=
    (stepFrom_eq_ok_iff hname).mpr ⟨hkeeps.isDirectoryAt hdirectory,
      (hkeeps.allow .enter holder).trans henter, hnext⟩
  have hresolve : (t.insert (holder ++ [name]) (.directory [])).resolve path =
      .ok (holder ++ [name]) := by
    refine check_bind_eq_ok_iff.mpr ⟨hcheck, ?_⟩
    rw [hnames, List.foldlM_append]
    refine bind_eq_ok_iff.mpr ⟨holder, hkeeps.foldlM_stepFrom hfollow, ?_⟩
    rw [List.foldlM_cons]
    exact bind_eq_ok_iff.mpr ⟨_, hstep,
      foldlM_stepFrom_empty (isDirectoryAt_iff.mpr ⟨_, hmade⟩) hrest⟩
  rw [isDirectory, hresolve]
  exact isDirectoryAt_iff.mpr ⟨_, hmade⟩

/-- Where directories were made there is no file. -/
theorem isFile_of_makeDirectories (h : t.makeDirectories path = .ok t') :
    t'.isFile path = false := by
  by_cases hpath : path = ""
  · subst hpath
    rfl
  rw [makeDirectories, makeDirectoriesWithin, if_neg hpath] at h
  apply isFile_eq_false_of_isDirectory
  split at h
  · cases h
    exact isDirectory_of_makeDirectory ‹_›
  · split at h
    · cases h
    · obtain ⟨t₁, -, h⟩ := bind_eq_ok_iff.mp h
      split at h
      · cases h
        exact isDirectory_of_makeDirectory ‹_›
      · split at h
        · cases h
          assumption
        · cases h
  · split at h
    · cases h
      assumption
    · cases h

end ConsoleTap.Files.Tree
