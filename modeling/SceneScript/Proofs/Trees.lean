import SceneScript.Proofs.Paths

/-
  Where the paths of a tree lead.

  Key definitions include:
    * `FileTree.Step`
    * `FileTree.LeadsTo`
    * `FileTree.SameDirectories`

  Correctness is stated by:
    * `FileTree.follow_cons_eq_ok_iff`
    * `FileTree.read_eq_ok_iff`
    * `FileTree.target_of_leadsTo`
    * `FileTree.target_eq_ok_iff`
    * `FileTree.LeadsTo.congr`

  A file is read through the directory in front of its name.
  That directory depends on directories only, so that it is
  found again while files come and go.
-/

namespace SceneScript

namespace FileTree

variable {tree other : FileTree}
variable {start middle final parent : Location}

------------------------------------------------------------
-- Steps
------------------------------------------------------------

/- One segment leads from a directory to a location. -/
inductive Step
    (tree : FileTree)
    (start : Location) : Text → Location → Prop where
  | stay
      {segment : Text}
      (hStays : staysHere segment = true) :
      Step tree start segment start
  | up : Step tree start ['.', '.'] start.dropLast
  | enter
      {segment : Text}
      (hName : Path.IsName segment)
      (hFound : tree.find? (start ++ [segment]) ≠ none) :
      Step tree start segment (start ++ [segment])

/- A segment is a name or does not enter anything. -/
theorem isName_iff (segment : Text) :
    Path.IsName segment ↔
      staysHere segment = false ∧ segment ≠ ['.', '.'] := by
  unfold Path.IsName staysHere
  simp [and_assoc]

/- A segment that stays leads nowhere else. -/
theorem step_iff_of_staysHere
    {segment : Text}
    (hStays : staysHere segment = true) :
    tree.Step start segment final ↔ final = start := by
  constructor
  · intro hStep
    cases hStep with
    | stay => rfl
    | up => exact absurd hStays (by decide)
    | enter hName =>
        have hEnters := ((isName_iff segment).mp hName).1
        exact absurd (hStays.symm.trans hEnters) (by decide)
  · rintro rfl
    exact .stay hStays

/- Two dots lead up. -/
theorem step_up_iff :
    tree.Step start ['.', '.'] final ↔
      final = start.dropLast := by
  constructor
  · intro hStep
    cases hStep with
    | stay hStays => exact absurd hStays (by decide)
    | up => rfl
    | enter hName => exact (hName.2.2 rfl).elim
  · rintro rfl
    exact .up

/- A name leads to what has the name. -/
theorem step_iff_of_isName
    {segment : Text}
    (hName : Path.IsName segment) :
    tree.Step start segment final ↔
      final = start ++ [segment] ∧
        tree.find? (start ++ [segment]) ≠ none := by
  constructor
  · intro hStep
    cases hStep with
    | stay hStays =>
        have hEnters := ((isName_iff segment).mp hName).1
        exact absurd (hStays.symm.trans hEnters) (by decide)
    | up => exact (hName.2.2 rfl).elim
    | enter _ hFound => exact ⟨rfl, hFound⟩
  · rintro ⟨rfl, hFound⟩
    exact .enter hName hFound

/- Following segments takes a step for each of them. -/
theorem follow_cons_eq_ok_iff
    {segment : Text}
    {rest : List Text} :
    tree.follow start (segment :: rest) = .ok final ↔
      tree.find? start = some .directory ∧
        ∃ middle,
          tree.Step start segment middle ∧
            tree.follow middle rest = .ok final := by
  rw [follow]
  by_cases hDirectory : tree.find? start = some .directory
  · rw [if_pos hDirectory]
    simp only [hDirectory, true_and]
    by_cases hStays : staysHere segment = true
    · rw [if_pos hStays]
      simp only [step_iff_of_staysHere hStays,
        exists_eq_left]
    · rw [if_neg hStays]
      by_cases hUp : segment = ['.', '.']
      · subst hUp
        simp only [step_up_iff, exists_eq_left, ↓reduceIte]
      · rw [if_neg hUp]
        have hName : Path.IsName segment :=
          (isName_iff segment).mpr
            ⟨Bool.eq_false_iff.mpr hStays, hUp⟩
        simp only [step_iff_of_isName hName, and_assoc,
          exists_eq_left]
        cases tree.find? (start ++ [segment]) <;> simp
  · rw [if_neg hDirectory]
    simp [hDirectory]

/- Following one segment takes one step. -/
theorem follow_singleton_eq_ok_iff {segment : Text} :
    tree.follow start [segment] = .ok final ↔
      tree.find? start = some .directory ∧
        tree.Step start segment final := by
  rw [follow_cons_eq_ok_iff]
  simp only [follow, Except.ok.injEq, exists_eq_right]

/- Following goes on where the first segments lead. -/
theorem follow_append_eq_ok_iff
    {front later : List Text} :
    tree.follow start (front ++ later) = .ok final ↔
      ∃ middle,
        tree.follow start front = .ok middle ∧
          tree.follow middle later = .ok final := by
  induction front generalizing start with
  | nil => simp [follow]
  | cons segment rest ih =>
      rw [List.cons_append, follow_cons_eq_ok_iff]
      simp only [ih, follow_cons_eq_ok_iff]
      constructor
      · rintro ⟨hStart, next, hStep, middle, hRest, hLater⟩
        exact ⟨middle, ⟨hStart, next, hStep, hRest⟩, hLater⟩
      · rintro ⟨middle, ⟨hStart, next, hStep, hRest⟩, hLater⟩
        exact ⟨hStart, next, hStep, middle, hRest, hLater⟩

/- A way that ends in a directory starts from one. -/
theorem directory_of_follow
    {segments : List Text}
    (hFollow : tree.follow start segments = .ok final)
    (hFinal : tree.find? final = some .directory) :
    tree.find? start = some .directory := by
  cases segments with
  | nil =>
      cases hFollow
      exact hFinal
  | cons segment rest =>
      exact (follow_cons_eq_ok_iff.mp hFollow).1

------------------------------------------------------------
-- Directories Above
------------------------------------------------------------

/- Everything above a location is a directory. -/
def IsReachable
    (tree : FileTree)
    (location : Location) : Prop :=
  ∀ above,
    above <+: location →
      above ≠ location →
        tree.find? above = some .directory

/- The root is reachable. -/
theorem isReachable_root (tree : FileTree) :
    tree.IsReachable [] := by
  intro above hPrefix hOther
  exact (hOther (List.prefix_nil.mp hPrefix)).elim

/- Steps from reachable directories lead to reachable places. -/
theorem Step.isReachable
    {segment : Text}
    (hStep : tree.Step start segment final)
    (hDirectory : tree.find? start = some .directory)
    (hReachable : tree.IsReachable start) :
    tree.IsReachable final := by
  cases hStep with
  | stay => exact hReachable
  | up =>
      intro above hPrefix hOther
      have hStart := hPrefix.trans (List.dropLast_prefix start)
      apply hReachable above hStart
      rintro rfl
      exact hOther (hPrefix.eq_of_length_le (by simp))
  | enter =>
      intro above hPrefix hOther
      rcases List.prefix_concat_iff.mp hPrefix with
        hSame | hStart
      · exact (hOther hSame).elim
      · by_cases hHere : above = start
        · rw [hHere]
          exact hDirectory
        · exact hReachable above hStart hHere

/- A way from the root ends in a reachable place. -/
theorem isReachable_of_follow
    {segments : List Text}
    (hFollow : tree.follow start segments = .ok final)
    (hReachable : tree.IsReachable start) :
    tree.IsReachable final := by
  induction segments generalizing start with
  | nil =>
      cases hFollow
      exact hReachable
  | cons segment rest ih =>
      rcases follow_cons_eq_ok_iff.mp hFollow with
        ⟨hDirectory, next, hStep, hRest⟩
      exact ih hRest (hStep.isReachable hDirectory hReachable)

/- Above a reachable directory there is a directory. -/
theorem IsReachable.directory_dropLast
    (hReachable : tree.IsReachable start)
    (hDirectory : tree.find? start = some .directory) :
    tree.find? start.dropLast = some .directory := by
  by_cases hSame : start.dropLast = start
  · rw [hSame]
    exact hDirectory
  · exact hReachable _ (List.dropLast_prefix start) hSame

------------------------------------------------------------
-- Leading Directories
------------------------------------------------------------

/- The front of a path leads to a directory. -/
structure LeadsTo
    (tree : FileTree)
    (front : Text)
    (parent : Location) : Prop where
  follow_eq :
    tree.follow [] (Text.splitOn '/' front) = .ok parent
  isDirectory : tree.find? parent = some .directory

/- A front leads to one directory. -/
theorem LeadsTo.unique
    {front : Text}
    {otherParent : Location}
    (hLeads : tree.LeadsTo front parent)
    (hOther : tree.LeadsTo front otherParent) :
    parent = otherParent := by
  have hSame :=
    hLeads.follow_eq.symm.trans hOther.follow_eq
  exact Except.ok.inj hSame

/- Two trees have the same directories. -/
def SameDirectories (tree other : FileTree) : Prop :=
  ∀ location,
    tree.find? location = some .directory ↔
      other.find? location = some .directory

/- Having the same directories goes both ways. -/
theorem SameDirectories.symm
    (hSame : SameDirectories tree other) :
    SameDirectories other tree :=
  fun location => (hSame location).symm

/- Having the same directories carries over. -/
theorem SameDirectories.trans
    {last : FileTree}
    (hFirst : SameDirectories tree other)
    (hSecond : SameDirectories other last) :
    SameDirectories tree last :=
  fun location =>
    (hFirst location).trans (hSecond location)

/- A way to a directory leads through directories only. -/
theorem follow_of_sameDirectories
    (hSame : SameDirectories tree other)
    {segments : List Text}
    (hFollow : tree.follow start segments = .ok final)
    (hFinal : tree.find? final = some .directory) :
    other.follow start segments = .ok final := by
  induction segments generalizing start with
  | nil => exact hFollow
  | cons segment rest ih =>
      rcases follow_cons_eq_ok_iff.mp hFollow with
        ⟨hDirectory, next, hStep, hRest⟩
      have hNext := directory_of_follow hRest hFinal
      refine
        follow_cons_eq_ok_iff.mpr
          ⟨(hSame start).mp hDirectory, next, ?_, ih hRest⟩
      cases hStep with
      | stay hStays => exact .stay hStays
      | up => exact .up
      | enter hName =>
          refine .enter hName ?_
          rw [(hSame _).mp hNext]
          simp

/- A front leads to the same directory in both trees. -/
theorem LeadsTo.congr
    {front : Text}
    (hLeads : tree.LeadsTo front parent)
    (hSame : SameDirectories tree other) :
    other.LeadsTo front parent where
  follow_eq :=
    follow_of_sameDirectories hSame hLeads.follow_eq
      hLeads.isDirectory
  isDirectory := (hSame parent).mp hLeads.isDirectory

/- The segments of a front lead where the front leads. -/
theorem leadsTo_iff_follow
    {front : Text}
    {segments : List Text}
    (hFront : Text.splitOn '/' front = segments ++ [[]]) :
    tree.LeadsTo front parent ↔
      tree.follow [] segments = .ok parent ∧
        tree.find? parent = some .directory := by
  have hStay (middle : Location) :
      tree.follow middle [[]] = .ok parent ↔
        tree.find? middle = some .directory ∧
          parent = middle := by
    rw [follow_singleton_eq_ok_iff,
      step_iff_of_staysHere rfl]
  constructor
  · rintro ⟨hFollow, hDirectory⟩
    rw [hFront, follow_append_eq_ok_iff] at hFollow
    rcases hFollow with ⟨middle, hSegments, hLast⟩
    rcases (hStay middle).mp hLast with ⟨_, rfl⟩
    exact ⟨hSegments, hDirectory⟩
  · rintro ⟨hSegments, hDirectory⟩
    refine ⟨?_, hDirectory⟩
    rw [hFront, follow_append_eq_ok_iff]
    exact
      ⟨parent, hSegments,
        (hStay parent).mpr ⟨hDirectory, rfl⟩⟩

------------------------------------------------------------
-- Files
------------------------------------------------------------

/-
  A path is located through the directory in front of its
  last part.
-/
theorem locate_eq_ok_iff
    {path : Path}
    {front last : Text}
    (hEnds : path.EndsIn front last)
    (hText : path.text ≠ []) :
    tree.locate path = .ok final ↔
      ∃ parent,
        tree.LeadsTo front parent ∧
          tree.Step parent last final := by
  rcases hEnds.exists_splitOn with
    ⟨segments, hFront, hSegments⟩
  rw [locate, if_neg hText, hSegments,
    follow_append_eq_ok_iff]
  simp only [leadsTo_iff_follow hFront,
    follow_singleton_eq_ok_iff, and_assoc]

/- A name that is there is located behind its directory. -/
theorem locate_of_leadsTo
    {path : Path}
    {front name : Text}
    (hEnds : path.EndsIn front name)
    (hName : Path.IsName name)
    (hLeads : tree.LeadsTo front parent)
    (hFound : tree.find? (parent ++ [name]) ≠ none) :
    tree.locate path = .ok (parent ++ [name]) := by
  have hText : path.text ≠ [] := by
    rw [hEnds.text_eq]
    exact List.append_ne_nil_of_right_ne_nil _ hName.1
  rw [locate_eq_ok_iff hEnds hText]
  exact ⟨parent, hLeads, .enter hName hFound⟩

/- A file is read where its path is located. -/
theorem read_eq_ok_iff_locate
    {path : Path}
    {bytes : List UInt8} :
    tree.read path = .ok bytes ↔
      ∃ location,
        tree.locate path = .ok location ∧
          tree.find? location = some (.file bytes) := by
  unfold read
  cases tree.locate path with
  | error fault => simp [bind, Except.bind]
  | ok location =>
      simp only [bind, Except.bind, Except.ok.injEq,
        exists_eq_left']
      cases tree.find? location with
      | none => simp [throw, throwThe, MonadExceptOf.throw]
      | some entry =>
          cases entry <;>
            simp [throw, throwThe, MonadExceptOf.throw,
              pure, Except.pure]

/-
  A file is read where the last part of its path is a name in
  the directory in front of it.
-/
theorem read_eq_ok_iff
    {path : Path}
    {bytes : List UInt8} :
    tree.read path = .ok bytes ↔
      ∃ front name parent,
        path.EndsIn front name ∧
          Path.IsName name ∧
          tree.LeadsTo front parent ∧
          tree.find? (parent ++ [name]) =
            some (.file bytes) := by
  rw [read_eq_ok_iff_locate]
  constructor
  · rintro ⟨location, hLocate, hFile⟩
    rcases path.exists_endsIn with ⟨front, last, hEnds⟩
    have hText : path.text ≠ [] := by
      intro hEmpty
      simp [locate, hEmpty] at hLocate
    rcases (locate_eq_ok_iff hEnds hText).mp hLocate with
      ⟨parent, hLeads, hStep⟩
    have hReachable : tree.IsReachable parent :=
      isReachable_of_follow hLeads.follow_eq
        (isReachable_root tree)
    -- A step that enters nothing ends in a directory.
    cases hStep with
    | stay =>
        rw [hLeads.isDirectory] at hFile
        simp at hFile
    | up =>
        rw [hReachable.directory_dropLast
          hLeads.isDirectory] at hFile
        simp at hFile
    | enter hName =>
        exact ⟨front, last, parent, hEnds, hName, hLeads, hFile⟩
  · rintro ⟨front, name, parent, hEnds, hName, hLeads, hFile⟩
    exact
      ⟨parent ++ [name],
        locate_of_leadsTo hEnds hName hLeads
          (by simp [hFile]),
        hFile⟩

/- A name is placed in the directory in front of it. -/
theorem target_of_leadsTo
    {path : Path}
    {front name : Text}
    (hEnds : path.EndsIn front name)
    (hName : Path.IsName name)
    (hLeads : tree.LeadsTo front parent) :
    tree.target path =
      .ok
        { location := parent ++ [name]
          slashed := false } := by
  have hText : path.text ≠ [] := by
    rw [hEnds.text_eq]
    exact List.append_ne_nil_of_right_ne_nil _ hName.1
  have hLast :
      path.text.reverse.dropWhile (· = '/') =
        path.text.reverse := by
    rcases hEnds.exists_reverse hName with
      ⟨c, later, hReversed, hOther⟩
    have hFirst : c ≠ '/' := hOther c (by simp)
    rw [hEnds.text_eq, List.reverse_append, hReversed,
      List.cons_append,
      List.dropWhile_cons_of_neg (by simpa using hFirst)]
  have hCut :
      Path.cutReversed path.text.reverse = (front, name) := by
    rw [hEnds.text_eq]
    exact
      Path.cutReversed_reverse hEnds.isFront
        hEnds.slash_not_mem
  unfold target
  simp [hText, hLast, hCut, hLeads.follow_eq,
    hLeads.isDirectory, hName, bind, Except.bind, pure,
    Except.pure]

/-
  A path without a slash at its end gives the place of its
  name in the directory in front of it.
-/
theorem target_eq_ok_iff
    {path : Path}
    {location : Location} :
    tree.target path = .ok { location, slashed := false } ↔
      ∃ front name parent,
        path.EndsIn front name ∧
          Path.IsName name ∧
          tree.LeadsTo front parent ∧
          location = parent ++ [name] := by
  constructor
  · intro hTarget
    unfold target at hTarget
    by_cases hText : path.text = []
    · simp [hText, bind, Except.bind, throw, throwThe,
        MonadExceptOf.throw] at hTarget
    rcases hCut :
        Path.cutReversed
          (path.text.reverse.dropWhile (· = '/')) with
      ⟨front, name⟩
    cases hFollow :
        tree.follow [] (Text.splitOn '/' front) with
    | error fault =>
        simp [hText, hCut, hFollow, bind, Except.bind]
          at hTarget
    | ok parent =>
        by_cases hDirectory :
            tree.find? parent = some .directory
        · by_cases hName : Path.IsName name
          · simp only [hText, hCut, hFollow, hDirectory,
              hName, bind, Except.bind, pure, Except.pure,
              ↓reduceIte, ne_eq, not_true, Except.ok.injEq,
              Target.mk.injEq, decide_eq_false_iff_not,
              Nat.not_lt] at hTarget
            rcases hTarget with ⟨rfl, hLength⟩
            -- Nothing was cut off, so that no slash is there.
            have hWhole :
                path.text.reverse.dropWhile (· = '/') =
                  path.text.reverse :=
              (List.dropWhile_suffix _).eq_of_length_le
                hLength
            rw [hWhole] at hCut
            exact
              ⟨front, name, parent,
                Path.EndsIn.of_cutReversed hCut, hName,
                ⟨hFollow, hDirectory⟩, rfl⟩
          · simp [hText, hCut, hFollow, hDirectory, hName,
              bind, Except.bind, throw, throwThe,
              MonadExceptOf.throw] at hTarget
        · simp [hText, hCut, hFollow, hDirectory, bind,
            Except.bind, throw, throwThe,
            MonadExceptOf.throw] at hTarget
  · rintro ⟨front, name, parent, hEnds, hName, hLeads, rfl⟩
    exact target_of_leadsTo hEnds hName hLeads

/- The place that a path gives depends on directories only. -/
theorem target_congr
    {path : Path}
    {location : Location}
    (hTarget :
      tree.target path = .ok { location, slashed := false })
    (hSame : SameDirectories tree other) :
    other.target path = .ok { location, slashed := false } := by
  rcases target_eq_ok_iff.mp hTarget with
    ⟨front, name, parent, hEnds, hName, hLeads, rfl⟩
  exact target_of_leadsTo hEnds hName (hLeads.congr hSame)

/- The directory of a path is the one in front of its name. -/
theorem locateDirectory_of_leadsTo
    {path : Path}
    {front name : Text}
    (hEnds : path.EndsIn front name)
    (hName : Path.IsName name)
    (hLeads : tree.LeadsTo front parent) :
    tree.locateDirectory path.directory = .ok parent := by
  have hLocate : tree.locate path.directory = .ok parent := by
    rw [locate, hEnds.directory_text hName]
    by_cases hFront : front = []
    · subst hFront
      exact hLeads.follow_eq
    · rw [if_neg hFront, if_neg hFront]
      exact hLeads.follow_eq
  unfold locateDirectory
  simp [hLocate, hLeads.isDirectory, bind, Except.bind, pure,
    Except.pure]

end FileTree

end SceneScript
