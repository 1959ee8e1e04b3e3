import EntityModels.CommandLine.FileTree
import EntityModels.CommandLine.Expansion
import EntityModels.Proofs.Except

/-!
Searching for the paths that match a pattern. A search looks at the files only, so it finds what is
found on the files as they stand at its start. On such files the number of steps is no limit: every
step of a search passes a part of the pattern or goes down by a name, and a path that is too long
leads nowhere, so a search with more steps than both allow finds what it finds with any more.
-/
namespace EntityModels.CommandLine

variable {σ α β ε : Type} {s : σ}

/-- A run that leaves the state as it was. -/
def ReadsOnly (x : StateM σ α) : Prop := ∀ s, (x s).2 = s

/-- A run that gives `y` in a state and leaves it as it was. -/
def Finds (x : ExceptT ε (StateM σ) α) (s : σ) (y : ExceptT ε Id α) : Prop := x.run s = (y.run, s)

namespace Finds

variable {x x' : ExceptT ε (StateM σ) α} {y y' : ExceptT ε Id α} {f : α → ExceptT ε (StateM σ) β}
  {g : α → ExceptT ε Id β}

theorem pure (a : α) (s : σ) : Finds (pure a : ExceptT ε (StateM σ) α) s (Pure.pure a) := rfl

theorem throw (fault : ε) (s : σ) :
    Finds (throw fault : ExceptT ε (StateM σ) α) s (MonadExcept.throw fault) := rfl

/-- A look that goes on from another finds what it finds on the files as they stand. -/
theorem bind (hx : Finds x s y) (hf : ∀ a, Finds (f a) s (g a)) : Finds (x >>= f) s (y >>= g) := by
  have hrun : (x >>= f).run s = ExceptT.bindCont f (x.run s).1 (x.run s).2 := rfl
  have hrun' : (y >>= g).run = ExceptT.bindCont g y.run := rfl
  rw [Finds, hrun, hx, hrun']
  cases y.run with
  | error fault => rfl
  | ok a => exact hf a

/-- An operation that leaves the state as it was gives what it gives there. -/
theorem lift {look : StateM σ α} (h : (look s).2 = s) :
    Finds (liftM look : ExceptT ε (StateM σ) α) s (Pure.pure (look s).1) :=
  Prod.ext rfl h

theorem ite {c : Prop} [Decidable c] (hx : Finds x s y) (hx' : Finds x' s y') :
    Finds (if c then x else x') s (if c then y else y') := by
  split
  · exact hx
  · exact hx'

end Finds

/-- The operations on files that look at them change nothing. -/
structure Files.ReadsSafely (files : Files (StateM σ)) : Prop where
  kind? : ∀ path, ReadsOnly (files.kind? path)
  names : ∀ path, ReadsOnly (files.names path)
  read : ∀ path, ReadsOnly (files.read path)

/-- The files as they are in a state, whatever is done to them. -/
def Files.frozen (files : Files (StateM σ)) (s : σ) : Files Id where
  kind? path := (files.kind? path s).1
  names path := (files.names path s).1
  read path := (files.read path s).1
  makeDirectory path := (files.makeDirectory path s).1
  write path text := (files.write path text s).1

section Frozen

variable {files : Files (StateM σ)} (hfiles : files.ReadsSafely) (only : Bool)
include hfiles

theorem finds_isDirectory (path : String) (s : σ) :
    Finds (liftM (files.isDirectory path) : ExceptT ε (StateM σ) Bool) s
      (liftM ((files.frozen s).isDirectory path)) :=
  Finds.lift (hfiles.kind? path s)

theorem finds_hasName (directory name : String) (s : σ) :
    Finds (liftM (files.hasName directory name) : ExceptT ε (StateM σ) Bool) s
      (liftM ((files.frozen s).hasName directory name)) := by
  unfold Files.hasName
  split
  · exact finds_isDirectory hfiles directory s
  · exact Finds.lift (hfiles.kind? _ s)

theorem finds_accept (path : String) (s : σ) :
    Finds (accept files only path) s (accept (files.frozen s) only path) :=
  .ite ((finds_isDirectory hfiles path s).bind fun _ => .pure _ s) (.pure [path] s)

/-- A directory is listed as it stands, or refuses to be. -/
theorem finds_listed (directory : String) (s : σ) :
    Finds (listed files directory) s (listed (files.frozen s) directory) := by
  refine (Finds.lift (hfiles.names directory s)).bind fun names => ?_
  cases names with
  | ok names => exact .pure _ s
  | error fault => exact .throw _ s

end Frozen

/-- Several searches in turn find together what each finds on the files as they stand. -/
theorem finds_searchAll {look : α → Search (StateM σ)} {frozen : α → Search Id}
    (h : ∀ x, Finds (look x) s (frozen x)) (xs : List α) :
    Finds (searchAll look xs) s (searchAll frozen xs) := by
  induction xs with
  | nil => exact .pure [] s
  | cons x xs ih => exact (h x).bind fun found => ih.bind fun _ => .pure _ s

section Step

variable {files : Files (StateM σ)} (hfiles : files.ReadsSafely) (only : Bool)
  {below : String → Pattern → List Pattern → Search (StateM σ)}
  {frozen : String → Pattern → List Pattern → Search Id}
  (hbelow : ∀ path part rest, Finds (below path part rest) s (frozen path part rest))
include hfiles hbelow

theorem finds_onward (path : String) (rest : List Pattern) :
    Finds (onward files only below path rest) s
      (onward (files.frozen s) only frozen path rest) := by
  cases rest with
  | nil => exact finds_accept hfiles only path s
  | cons next rest => exact hbelow path next rest

theorem finds_matched (path name : String) (part : Pattern) (rest : List Pattern) :
    Finds (matched files only below path name part rest) s
      (matched (files.frozen s) only frozen path name part rest) :=
  .ite (finds_onward hfiles only hbelow path rest) (.pure [] s)

theorem finds_pastRecursive (isDirectory : Bool) (path name : String) (rest : List Pattern) :
    Finds (pastRecursive files only below isDirectory path name rest) s
      (pastRecursive (files.frozen s) only frozen isDirectory path name rest) := by
  cases rest with
  | nil => exact .pure _ s
  | cons next rest => exact finds_matched hfiles only hbelow path name next rest

theorem finds_searchName (directory : String) (part : Pattern) (rest : List Pattern)
    (name : String) : Finds (searchName files only below directory part rest name) s
      (searchName (files.frozen s) only frozen directory part rest name) := by
  refine .ite ?_ (finds_matched hfiles only hbelow _ name part rest)
  refine (finds_isDirectory hfiles _ s).bind fun isDirectory => ?_
  refine (finds_pastRecursive hfiles only hbelow isDirectory _ name _).bind fun past => ?_
  exact (Finds.ite (hbelow _ _ _) (.pure [] s)).bind fun _ => .pure _ s

/-- What a search finds in a directory depends only on what it finds further down. -/
theorem finds_searchIn (directory : String) (part : Pattern) (rest : List Pattern) :
    Finds (searchIn files only below directory part rest) s
      (searchIn (files.frozen s) only frozen directory part rest) := by
  unfold searchIn
  split
  · exact (finds_hasName hfiles directory _ s).bind fun there =>
      .ite (finds_onward hfiles only hbelow _ rest) (.pure [] s)
  · refine (finds_isDirectory hfiles _ s).bind fun isDirectory => .ite ?_ (.pure [] s)
    refine (finds_listed hfiles directory s).bind fun names => ?_
    refine (finds_searchAll (fun _ => finds_onward hfiles only hbelow _ rest) _).bind
      fun specials => ?_
    exact (finds_searchAll (finds_searchName hfiles only hbelow directory part rest) names).bind
      fun _ => .pure _ s

end Step

/-- A search finds what it finds on the files as they stand. -/
theorem finds_search {files : Files (StateM σ)} (hfiles : files.ReadsSafely) (only : Bool)
    (steps : Nat) (directory : String) (part : Pattern) (rest : List Pattern) (s : σ) :
    Finds (search files only steps directory part rest) s
      (search (files.frozen s) only steps directory part rest) := by
  induction steps generalizing directory part rest with
  | zero => exact .pure [] s
  | succ steps ih => exact finds_searchIn hfiles only ih directory part rest

namespace Path

theorem split_ne_nil (text : List Char) : split text ≠ [] := by
  cases text with
  | nil => exact List.cons_ne_nil _ _
  | cons c rest =>
    rw [split]
    split
    · exact List.cons_ne_nil _ _
    · split <;> exact List.cons_ne_nil _ _

/-- A slash divides a path into the parts before it and those behind it. -/
theorem split_append (before after : List Char) :
    split (before ++ '/' :: after) = split before ++ split after := by
  induction before with
  | nil => rfl
  | cons c before ih =>
    rw [List.cons_append, split, split, ih]
    split
    · rfl
    · obtain ⟨part, more, h⟩ := List.exists_cons_of_ne_nil (split_ne_nil before)
      rw [h]
      rfl

/-- A name in a directory has a slash before it, which the path of the directory may have had. -/
theorem exists_toList_child (directory name : String) : ∃ front,
    (child directory name).toList = front ++ '/' :: name.toList ∧
      (directory.toList = front ∨ directory.toList = front ++ ['/']) := by
  unfold child
  split
  case isTrue h =>
    rw [← String.endsWith_toSlice, String.Slice.endsWith_string_iff, String.copy_toSlice] at h
    obtain ⟨front, hfront⟩ := h
    refine ⟨front, ?_, .inr hfront.symm⟩
    rw [String.toList_append, ← hfront, List.append_assoc]
    rfl
  case isFalse =>
    refine ⟨directory.toList, ?_, .inl rfl⟩
    rw [String.toList_append, String.toList_append, List.append_assoc]
    rfl

/-- A path stands for the current directory when it has a dot in front and only dots and empty parts
behind it. -/
theorem isCurrent_eq_true_iff {path : String} : isCurrent path = true ↔
    ∃ more, split path.toList = ['.'] :: more ∧ ∀ part ∈ more, part = [] ∨ part = ['.'] := by
  obtain ⟨first, more, h⟩ := List.exists_cons_of_ne_nil (split_ne_nil path.toList)
  have hname (part : List Char) (name : String) :
      String.ofList part = name ↔ part = name.toList := by
    rw [← String.toList_inj, String.toList_ofList]
  rw [isCurrent, parts, h, List.map_cons]
  simp only [Bool.and_eq_true, decide_eq_true_eq, List.all_map, List.all_eq_true,
    Function.comp_apply, Bool.or_eq_true, hname, List.cons.injEq]
  constructor
  · exact fun ⟨hfirst, hmore⟩ => ⟨more, ⟨hfirst, rfl⟩, hmore⟩
  · rintro ⟨_, ⟨hfirst, rfl⟩, hmore⟩
    exact ⟨hfirst, hmore⟩

/-- What is in a directory is the current one only if the directory is. -/
theorem isCurrent_of_child {directory name : String} (h : isCurrent (child directory name) = true) :
    isCurrent directory = true := by
  obtain ⟨front, hchild, hdirectory⟩ := exists_toList_child directory name
  rw [isCurrent_eq_true_iff] at h ⊢
  obtain ⟨more, hsplit, hmore⟩ := h
  rw [hchild, split_append] at hsplit
  obtain ⟨first, rest, hfront⟩ := List.exists_cons_of_ne_nil (split_ne_nil front)
  rw [hfront, List.cons_append, List.cons.injEq] at hsplit
  obtain ⟨rfl, rfl⟩ := hsplit
  have hrest : ∀ part ∈ rest, part = [] ∨ part = ['.'] :=
    fun part hpart => hmore part (List.mem_append_left _ hpart)
  rcases hdirectory with hdirectory | hdirectory
  · exact ⟨rest, hdirectory ▸ hfront, hrest⟩
  · refine ⟨rest ++ [[]], ?_, ?_⟩
    · rw [hdirectory, split_append, hfront]
      rfl
    · simpa [or_imp, forall_and] using hrest

theorem split_of_not_mem {text : List Char} (h : '/' ∉ text) : split text = [text] := by
  induction text with
  | nil => rfl
  | cons c rest ih =>
    rw [List.mem_cons, not_or] at h
    rw [split, if_neg (Ne.symm h.1), ih h.2]

/-- A name below a directory makes the path longer by itself at least. -/
theorem utf8ByteSize_child (directory name : String) :
    directory.utf8ByteSize + name.utf8ByteSize ≤ (child directory name).utf8ByteSize := by
  unfold child
  split
  · exact Nat.le_of_eq String.utf8ByteSize_append.symm
  · rw [String.utf8ByteSize_append, String.utf8ByteSize_append]
    omega

/-- A name that a directory may list: no special one, and not cut by a slash. -/
structure IsName (name : String) : Prop where
  ne_empty : name ≠ ""
  ne_point : name ≠ "."
  no_slash : '/' ∉ name.toList

/-- A name does not stand for the current directory. -/
theorem IsName.not_isCurrent {name : String} (h : IsName name) : ¬isCurrent name = true := by
  rw [isCurrent_eq_true_iff, split_of_not_mem h.no_slash]
  rintro ⟨more, hname, -⟩
  exact h.ne_point (String.toList_inj.mp (List.cons.inj hname).1)

theorem IsName.utf8ByteSize_pos {name : String} (h : IsName name) : 0 < name.utf8ByteSize :=
  Nat.pos_of_ne_zero fun hsize => h.ne_empty (String.utf8ByteSize_eq_zero_iff.mp hsize)

/-- The bytes by which a path may still grow. The current directory is left out of paths. -/
def room (path : String) : Nat :=
  if isCurrent path then pathLimit else pathLimit - path.utf8ByteSize

theorem room_of_isCurrent {path : String} (h : isCurrent path = true) : room path = pathLimit :=
  if_pos h

theorem room_of_not_isCurrent {path : String} (h : ¬isCurrent path = true) :
    room path = pathLimit - path.utf8ByteSize := if_neg h

theorem room_le (path : String) : room path ≤ pathLimit := by
  unfold room
  split
  · exact Nat.le_refl _
  · exact Nat.sub_le _ _

theorem room_child_le (directory name : String) : room (child directory name) ≤ room directory := by
  by_cases hdirectory : isCurrent directory = true
  · exact room_of_isCurrent hdirectory ▸ room_le _
  · have hsize := utf8ByteSize_child directory name
    rw [room_of_not_isCurrent hdirectory,
      room_of_not_isCurrent fun h => hdirectory (isCurrent_of_child h)]
    omega

/-- There is no more room for what is found in a directory than for the directory. -/
theorem room_foundIn_le (directory name : String) :
    room (foundIn directory name) ≤ room directory := by
  by_cases hdirectory : isCurrent directory = true
  · exact room_of_isCurrent hdirectory ▸ room_le _
  · rw [foundIn, if_neg hdirectory]
    exact room_child_le directory name

/-- A name takes room, even if the current directory before it is left out. -/
theorem room_foundIn_lt {directory name : String} (hname : IsName name)
    (hsize : (foundIn directory name).utf8ByteSize < pathLimit) :
    room (foundIn directory name) < room directory := by
  have hpos := hname.utf8ByteSize_pos
  unfold foundIn at hsize ⊢
  by_cases hdirectory : isCurrent directory = true
  · rw [if_pos hdirectory] at hsize ⊢
    rw [room_of_isCurrent hdirectory, room_of_not_isCurrent hname.not_isCurrent]
    omega
  · have hchild := utf8ByteSize_child directory name
    rw [if_neg hdirectory] at hsize ⊢
    rw [room_of_not_isCurrent hdirectory,
      room_of_not_isCurrent fun h => hdirectory (isCurrent_of_child h)]
    omega

end Path

/-- Files among which a path that is too long leads nowhere, and listings have names only. -/
structure Files.Bounded (files : Files Id) : Prop where
  kind? : ∀ path, pathLimit ≤ path.utf8ByteSize → files.kind? path = (none : Option FileKind)
  names : ∀ {directory names}, files.names directory = (.ok names : Except FileFault _) →
    ∀ name ∈ names, Path.IsName name

/-- A directory has a path within the limit. -/
theorem Files.Bounded.utf8ByteSize_lt {files : Files Id} (hfiles : files.Bounded) {path : String}
    (h : files.isDirectory path = true) : path.utf8ByteSize < pathLimit := by
  by_contra hsize
  have hnone : files.isDirectory path = ((none : Option FileKind) = some .directory : Bool) :=
    congrArg (fun kind : Option FileKind => decide (kind = some .directory))
      (hfiles.kind? path (Nat.le_of_not_lt hsize))
  rw [hnone] at h
  cases h

theorem length_skipRecursive (part : Pattern) (rest : List Pattern) :
    (skipRecursive part rest).2.length ≤ rest.length := by
  induction rest generalizing part with
  | nil => exact Nat.le_refl _
  | cons next rest ih =>
    rw [skipRecursive]
    split
    · exact Nat.le_succ_of_le (ih next)
    · exact Nat.le_refl _

/-- A look at such files gives its answer at once. -/
theorem liftM_bind (x : Id α) (f : α → ExceptT ε Id β) :
    @liftM Id (ExceptT ε Id) (instMonadLiftTOfMonadLift Id Id _) α x >>= f = f x.run := rfl

theorem searchAll_congr {look look' : α → Search Id} {xs : List α}
    (h : ∀ x ∈ xs, look x = look' x) : searchAll look xs = searchAll look' xs := by
  induction xs with
  | nil => rfl
  | cons x xs ih =>
    obtain ⟨hx, hxs⟩ := List.forall_mem_cons.mp h
    rw [searchAll, searchAll, hx, ih hxs]

theorem listed_of_ok {files : Files Id} {directory : String} {names : List String}
    (h : (files.names directory).run = .ok names) :
    listed files directory = pure names.mergeSort := by
  rw [listed, liftM_bind, h]

theorem listed_of_error {files : Files Id} {directory : String} {fault : FileFault}
    (h : (files.names directory).run = .error fault) :
    listed files directory = throw ⟨directory, fault⟩ := by
  rw [listed, liftM_bind, h]

section Steps

variable {files : Files Id} (hfiles : files.Bounded) (only : Bool)
  {below below' : String → Pattern → List Pattern → Search Id} {directory path name : String}
  {part : Pattern} {rest : List Pattern}

/-- Two ways to go on from a path are the same there with all shorter rests of a pattern. -/
def SameBelow (below below' : String → Pattern → List Pattern → Search Id) (path : String)
    (rest : List Pattern) : Prop :=
  ∀ next more, more.length < rest.length → below path next more = below' path next more

omit hfiles in
/-- To go on from a path, only searches at that path are asked for. -/
theorem onward_congr (h : SameBelow below below' path rest) :
    onward files only below path rest = onward files only below' path rest := by
  cases rest with
  | nil => rfl
  | cons next more => exact h next more (Nat.lt_succ_self _)

theorem matched_congr (h : SameBelow below below' path rest) :
    matched files only below path name part rest =
      matched files only below' path name part rest := by
  rw [matched, matched, onward_congr only h]

theorem pastRecursive_congr {isDirectory : Bool} (h : SameBelow below below' path rest) :
    pastRecursive files only below isDirectory path name rest =
      pastRecursive files only below' isDirectory path name rest := by
  cases rest with
  | nil => rfl
  | cons next more =>
    exact matched_congr only fun next' more' hmore => h next' more' (Nat.lt_succ_of_lt hmore)

variable (hbelow : ∀ path next more,
  Path.room path + more.length < Path.room directory + rest.length →
    below path next more = below' path next more)
include hbelow

/-- What is found in a directory leaves less room, or as much and fewer parts. -/
theorem sameBelow_foundIn (name : String) {after : List Pattern}
    (hafter : after.length ≤ rest.length) :
    SameBelow below below' (foundIn directory name) after := by
  intro next more hmore
  have hroom := Path.room_foundIn_le directory name
  exact hbelow _ next more (by omega)

theorem sameBelow_child (name : String) :
    SameBelow below below' (Path.child directory name) rest := by
  intro next more hmore
  have hroom := Path.room_child_le directory name
  exact hbelow _ next more (by omega)

include hfiles

theorem inside_congr (hname : Path.IsName name) {after : List Pattern}
    (hafter : after.length ≤ rest.length) :
    inside below (files.isDirectory (foundIn directory name)).run (foundIn directory name) part
        after =
      inside below' (files.isDirectory (foundIn directory name)).run (foundIn directory name) part
        after := by
  unfold inside
  split
  case isTrue h =>
    have hroom := Path.room_foundIn_lt hname (hfiles.utf8ByteSize_lt h)
    exact hbelow _ part after (by omega)
  case isFalse => rfl

/-- Two searches that agree further down agree behind every name. -/
theorem searchName_congr (hname : Path.IsName name) :
    searchName files only below directory part rest name =
      searchName files only below' directory part rest name := by
  have hafter := length_skipRecursive part rest
  rw [searchName, searchName]
  split
  · generalize skipRecursive part rest = skipped at hafter ⊢
    obtain ⟨last, after⟩ := skipped
    dsimp only at hafter ⊢
    rw [liftM_bind, liftM_bind, inside_congr hfiles hbelow hname hafter,
      pastRecursive_congr only (sameBelow_foundIn hbelow name hafter)]
  · exact matched_congr only (sameBelow_foundIn hbelow name (Nat.le_refl _))

/-- Two searches that agree further down agree in the directory itself. -/
theorem searchIn_congr :
    searchIn files only below directory part rest =
      searchIn files only below' directory part rest := by
  rw [searchIn, searchIn]
  cases part.literal? with
  | some name =>
    dsimp only
    rw [onward_congr only (sameBelow_foundIn hbelow name (Nat.le_refl _))]
  | none =>
    dsimp only
    rw [liftM_bind, liftM_bind]
    split
    · cases hlisting : (files.names directory).run with
      | error fault =>
        rw [listed_of_error hlisting]
        rfl
      | ok names =>
        have hspecials :
            searchAll (fun name => onward files only below (Path.child directory name) rest)
              part.specialNames =
            searchAll (fun name => onward files only below' (Path.child directory name) rest)
              part.specialNames :=
          searchAll_congr fun name _ => onward_congr only (sameBelow_child hbelow name)
        have hnames : searchAll (searchName files only below directory part rest) names.mergeSort =
            searchAll (searchName files only below' directory part rest) names.mergeSort :=
          searchAll_congr fun name hname =>
            searchName_congr hfiles only hbelow
              (hfiles.names hlisting name (List.mem_mergeSort.mp hname))
        rw [listed_of_ok hlisting, pure_bind, pure_bind, hspecials, hnames]
    · rfl

end Steps

/-- With more steps than the path has room and the pattern has parts, a search finds what it finds
with any more. -/
theorem search_congr {files : Files Id} (hfiles : files.Bounded) (only : Bool) {directory : String}
    {part : Pattern} {rest : List Pattern} {steps more : Nat}
    (hsteps : Path.room directory + rest.length < steps)
    (hmore : Path.room directory + rest.length < more) :
    search files only steps directory part rest = search files only more directory part rest := by
  induction steps generalizing more directory part rest with
  | zero => exact absurd hsteps (Nat.not_lt_zero _)
  | succ steps ih =>
    obtain ⟨more, rfl⟩ := Nat.exists_eq_succ_of_ne_zero (Nat.ne_of_gt (Nat.zero_lt_of_lt hmore))
    rw [search, search]
    exact searchIn_congr hfiles only fun path next after hlt => ih (by omega) (by omega)

/-- The patterns of a path are expanded in steps enough. -/
theorem expandWithin_eq_expand {files : Files Id} (hfiles : files.Bounded) {pattern : PathPattern}
    {steps : Nat} (hsteps : pathLimit + pattern.parts.length ≤ steps) :
    pattern.expandWithin steps files = pattern.expand files := by
  rw [PathPattern.expand, PathPattern.expandWithin, PathPattern.expandWithin]
  split
  · rfl
  · next part rest hparts =>
    have hroom := Path.room_le pattern.start
    rw [hparts, List.length_cons] at hsteps
    exact search_congr hfiles _ (by omega) (by rw [hparts, List.length_cons]; omega)

/-- A pattern is expanded to what it matches on the files as they stand. -/
theorem finds_expandWithin {files : Files (StateM σ)} (hfiles : files.ReadsSafely)
    (pattern : PathPattern) (steps : Nat) (s : σ) :
    Finds (pattern.expandWithin steps files) s (pattern.expandWithin steps (files.frozen s)) := by
  unfold PathPattern.expandWithin
  split
  · exact .pure [] s
  · exact finds_search hfiles _ _ _ _ _ s

/-- The number of steps is no limit to what a pattern stands for, wherever paths and listings are as
they are in a file system. -/
theorem expandWithin_run_eq {files : Files (StateM σ)} (hfiles : files.ReadsSafely)
    (hbounded : (files.frozen s).Bounded) {pattern : PathPattern} {steps : Nat}
    (hsteps : pathLimit + pattern.parts.length ≤ steps) :
    (pattern.expandWithin steps files).run s = (pattern.expand files).run s := by
  have hfew := finds_expandWithin hfiles pattern (pathLimit + pattern.parts.length) s
  have hmany := finds_expandWithin hfiles pattern steps s
  rw [expandWithin_eq_expand hbounded hsteps] at hmany
  exact hmany.trans hfew.symm

namespace FileTree

variable {t : FileTree}

/-- Every file and every directory of a tree stands below names. -/
def WellNamed (t : FileTree) : Prop :=
  ∀ place ∈ t.files.map (·.1) ++ t.bareDirectories, ∀ name ∈ place, Path.IsName name

/-- A path beyond the limit leads nowhere in a tree of files. -/
theorem kind?_of_pathLimit_le {path : String} (h : pathLimit ≤ path.utf8ByteSize) :
    t.kind? path = none := by
  have hcheck : checkPath path = .error .nameTooLong := by
    have hempty : path.isEmpty = false := by
      rw [← Bool.not_eq_true, String.isEmpty_iff]
      rintro rfl
      exact absurd h (by decide)
    rw [checkPath, hempty, if_neg Bool.false_ne_true]
    exact if_pos h
  rw [kind?, locate, hcheck]
  rfl

theorem exists_mem_of_mem_namesAt {place : Location} {name : String} (h : name ∈ t.namesAt place) :
    ∃ below ∈ t.files.map (·.1) ++ t.bareDirectories, name ∈ below := by
  rw [namesAt, List.mem_eraseDups, List.mem_filterMap] at h
  obtain ⟨below, hbelow, hname⟩ := h
  refine ⟨below, hbelow, ?_⟩
  split at hname
  · exact List.mem_of_mem_drop (List.mem_of_head? hname)
  · cases hname

/-- Where the locations of a tree are made of names, so is every list of a directory. -/
theorem isName_of_mem_names (ht : t.WellNamed) {path : String} {names : List String}
    (h : t.names path = .ok names) : ∀ name ∈ names, Path.IsName name := by
  intro name hname
  obtain ⟨place, -, h⟩ := bind_eq_ok_iff.mp h
  split at h
  · cases h
  · cases h
  · split_ifs at h
    obtain rfl := Except.ok.inj h
    obtain ⟨below, hbelow, hmem⟩ := exists_mem_of_mem_namesAt hname
    exact ht below hbelow name hmem

/-- In a tree of files with proper names no pattern needs more steps. -/
theorem bounded_frozen (ht : t.WellNamed) : (operations.frozen t).Bounded where
  kind? _ h := kind?_of_pathLimit_le h
  names h := isName_of_mem_names ht h

end FileTree

end EntityModels.CommandLine
