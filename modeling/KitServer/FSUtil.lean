import KitServer.Lib.FileSystem
import KitServer.Config.LoadFromConfigDir

/-!
# `FSUtil`: directories

* `ListAllFile`       the recursion over the directory streams;
* `Stream.Holds`      a regular file, by the names on the way to it;
* `listAllFile_once`  every file with the suffix is collected, once;
* `tried_once`        what `LoadFromConfigDir` reads in one call;
* `Mkdir`             the loop over the slashes of a path, with `access` and `mkdir` of every front;
* `mkdir_descend`     what it does is to go down from name to name;
* `mkdir_iff`         when it returns true, what it leaves as it was, and where it stops;
* `IsRunningPidFile`  the number in a file, and `kill`.

A string has no NUL.  The directory that a path starts from is 0.
-/

set_option linter.unusedVariables false
set_option linter.style.nameCheck false

namespace KitServer
namespace FSUtil
open Http

/-! ## `ListAllFile` -/

/-- what `readdir` returns one after the other, and the streams of the directories in it -/
inductive Stream where
  -- `access` or `opendir` fails
  | refused
  -- `readdir` returns null
  | done
  | reg (d_name : Str) (next : Stream)
  | dir (d_name : Str) (inside next : Stream)
  | other (d_name : Str) (next : Stream)
deriving DecidableEq

def ListAllFile (subfix : Str) : Stream → Str → List Str → List Str
  | .refused, _, files => files
  | .done, _, files => files
  | .dir d_name inside next, path, files =>
    if d_name = asc "." ∨ d_name = asc ".." then ListAllFile subfix next path files
    else
      ListAllFile subfix next path (ListAllFile subfix inside (path ++ asc "/" ++ d_name) files)
  | .reg d_name next, path, files =>
    if subfix.length = 0 then ListAllFile subfix next path (files ++ [path ++ asc "/" ++ d_name])
    else if d_name.length < subfix.length then ListAllFile subfix next path files
    else if d_name.drop (d_name.length - subfix.length) = subfix then
      ListAllFile subfix next path (files ++ [path ++ asc "/" ++ d_name])
    else ListAllFile subfix next path files
  | .other _ next, path, files => ListAllFile subfix next path files

namespace Stream

/-- a regular file, by the directories on the way to it and its name -/
inductive Holds : Stream → List Str → Str → Prop where
  | reg (n : Str) (next : Stream) : Holds (.reg n next) [] n
  | dir (n : Str) (inside next : Stream) (dirs : List Str) (file : Str) (hdot : n ≠ asc ".")
    (hdotdot : n ≠ asc "..") (h : Holds inside dirs file) :
    Holds (.dir n inside next) (n :: dirs) file
  | regNext (n : Str) (next : Stream) (dirs : List Str) (file : Str) (h : Holds next dirs file) :
    Holds (.reg n next) dirs file
  | dirNext (n : Str) (inside next : Stream) (dirs : List Str) (file : Str)
    (h : Holds next dirs file) : Holds (.dir n inside next) dirs file
  | otherNext (n : Str) (next : Stream) (dirs : List Str) (file : Str) (h : Holds next dirs file) :
    Holds (.other n next) dirs file

/-- the same files in the order of the streams -/
def regular : Stream → List (List Str × Str)
  | .refused => []
  | .done => []
  | .reg n next => ([], n) :: regular next
  | .dir n inside next =>
    if n = asc "." ∨ n = asc ".." then regular next
    else (regular inside).map (fun x => (n :: x.1, x.2)) ++ regular next
  | .other _ next => regular next

/-- the names that `readdir` returns -/
def names : Stream → List Str
  | .refused => []
  | .done => []
  | .reg n next => n :: names next
  | .dir n _ next => n :: names next
  | .other n next => n :: names next

/-- in every directory the names are different from each other, and there is no slash in them -/
def Named : Stream → Prop
  | .refused => True
  | .done => True
  | .reg n next => 47 ∉ n ∧ n ∉ next.names ∧ Named next
  | .dir n inside next => 47 ∉ n ∧ n ∉ next.names ∧ Named inside ∧ Named next
  | .other n next => 47 ∉ n ∧ n ∉ next.names ∧ Named next

end Stream

/-- the file `file` below `path` -/
def below (path : Str) (dirs : List Str) (file : Str) : Str :=
  path ++ (dirs ++ [file]).flatMap (47 :: ·)

section
variable {subfix : Str}

theorem regular_iff {s : Stream} {dirs : List Str} {file : Str} :
    (dirs, file) ∈ s.regular ↔ s.Holds dirs file := by
  constructor
  · intro h
    induction s generalizing dirs file with
    | refused => cases h
    | done => cases h
    | reg n next ih =>
      rcases List.mem_cons.mp h with h | h
      · cases h
        exact .reg n next
      · exact .regNext n next dirs file (ih h)
    | dir n inside next ihi ih =>
      rw [Stream.regular] at h
      split at h
      · exact .dirNext n inside next dirs file (ih h)
      · next hdot =>
        push Not at hdot
        rcases List.mem_append.mp h with h | h
        · obtain ⟨⟨ds, f⟩, hmem, heq⟩ := List.mem_map.mp h
          cases heq
          exact .dir n inside next ds f hdot.1 hdot.2 (ihi hmem)
        · exact .dirNext n inside next dirs file (ih h)
    | other n next ih => exact .otherNext n next dirs file (ih h)
  · intro h
    induction h with
    | reg n next => exact List.mem_cons_self
    | dir n inside next dirs file hdot hdotdot h ih =>
      rw [Stream.regular, if_neg (not_or.mpr ⟨hdot, hdotdot⟩)]
      exact List.mem_append_left _ (List.mem_map.mpr ⟨(dirs, file), ih, rfl⟩)
    | regNext n next dirs file h ih => exact List.mem_cons_of_mem _ ih
    | dirNext n inside next dirs file h ih =>
      rw [Stream.regular]
      split
      · exact ih
      · exact List.mem_append_right _ ih
    | otherNext n next dirs file h ih => exact ih

theorem subfix_iff {name : Str} : (subfix.length = 0 ∨
      ¬ name.length < subfix.length ∧ name.drop (name.length - subfix.length) = subfix) ↔
    subfix <:+ name := by
  constructor
  · rintro (hnil | ⟨_, hdrop⟩)
    · rw [List.length_eq_zero_iff.mp hnil]
      exact List.nil_suffix
    · rw [← hdrop]
      exact List.drop_suffix _ _
  · intro h
    exact .inr ⟨Nat.not_lt.mpr h.length_le, (List.suffix_iff_eq_drop.mp h).symm⟩

/-- **What is collected is the files with the suffix, in their order.** -/
theorem listAllFile_eq (s : Stream) : ∀ (path : Str) (files : List Str),
    ListAllFile subfix s path files = files ++
      (s.regular.filter fun x => decide (subfix <:+ x.2)).map fun x => below path x.1 x.2 := by
  induction s with
  | refused => intro path files; simp [ListAllFile, Stream.regular]
  | done => intro path files; simp [ListAllFile, Stream.regular]
  | reg n next ih =>
    intro path files
    have htest : _ ↔ subfix <:+ n := subfix_iff
    have hpath : path ++ asc "/" ++ n = below path [] n := by
      rw [List.append_assoc]
      simp [below, asc]
    rw [ListAllFile, hpath, Stream.regular, List.filter_cons]
    by_cases hwanted : subfix <:+ n
    · rw [if_pos (decide_eq_true hwanted), List.map_cons, List.append_cons files _ (List.map _ _),
        ← ih]
      rcases htest.mpr hwanted with hnil | ⟨hle, hdrop⟩
      · rw [if_pos hnil]
      · rw [if_neg hle, if_pos hdrop, ite_self]
    · rw [if_neg fun hdec => hwanted (of_decide_eq_true hdec), ← ih]
      obtain ⟨hnil, hno⟩ := not_or.mp (mt htest.mp hwanted)
      rw [if_neg hnil]
      split
      · rfl
      · next hle => rw [if_neg fun hdrop => hno ⟨hle, hdrop⟩]
  | dir n inside next ihi ih =>
    intro path files
    have hpath : ∀ dirs file,
        below (path ++ asc "/" ++ n) dirs file = below path (n :: dirs) file := by
      intro dirs file
      simp [below, asc]
    rw [ListAllFile, Stream.regular]
    split
    · exact ih path files
    · rw [ih, ihi, List.filter_append, List.map_append, List.append_assoc, List.filter_map,
        List.map_map]
      simp only [hpath]
      rfl
  | other n next ih => intro path files; exact ih path files

theorem splitOn_slash (x : Str) : (47 :: x).splitOn 47 = [] :: x.splitOn 47 :=
  List.splitOn_append_cons_self_of_not_mem (show 47 ∉ ([] : Str) from List.not_mem_nil) x

theorem splitOn_names {names : List Str} (h : ∀ n ∈ names, 47 ∉ n) :
    (names.flatMap (47 :: ·)).splitOn 47 = [] :: names := by
  induction names with
  | nil => rfl
  | cons n names ih =>
    have hn := h n List.mem_cons_self
    have hrest := ih fun m hm => h m (List.mem_cons_of_mem n hm)
    rw [List.flatMap_cons, List.cons_append, splitOn_slash]
    cases names with
    | nil => rw [List.flatMap_nil, List.append_nil, List.splitOn_eq_singleton hn]
    | cons m names =>
      rw [List.flatMap_cons, List.cons_append] at hrest ⊢
      rw [splitOn_slash] at hrest
      rw [List.splitOn_append_cons_self_of_not_mem hn, List.tail_eq_of_cons_eq hrest]

theorem below_injective {path : Str} {dirs dirs' : List Str} {file file' : Str}
    (h : ∀ n ∈ dirs ++ [file], 47 ∉ n) (h' : ∀ n ∈ dirs' ++ [file'], 47 ∉ n)
    (heq : below path dirs file = below path dirs' file') : dirs = dirs' ∧ file = file' := by
  have hnames := List.append_cancel_left heq
  have hsplit := congrArg (List.splitOn 47) hnames
  rw [splitOn_names h, splitOn_names h'] at hsplit
  exact List.append_singleton_inj.mp (List.tail_eq_of_cons_eq hsplit)

theorem regular_names {s : Stream} (h : s.Named) {dirs : List Str} {file : Str}
    (hx : (dirs, file) ∈ s.regular) :
    (∀ n ∈ dirs ++ [file], 47 ∉ n) ∧ ∃ n ∈ s.names, (dirs ++ [file]).head? = some n := by
  have hholds := regular_iff.mp hx
  clear hx
  induction hholds with
  | reg n next =>
    refine ⟨?_, n, List.mem_cons_self, rfl⟩
    simp [h.1]
  | dir n inside next dirs file hdot hdotdot hin ih =>
    refine ⟨?_, n, List.mem_cons_self, rfl⟩
    intro m hm
    rcases List.mem_cons.mp hm with rfl | hm
    · exact h.1
    · exact (ih h.2.2.1).1 m hm
  | regNext n next dirs file hin ih =>
    obtain ⟨hplain, m, hm, hhead⟩ := ih h.2.2
    exact ⟨hplain, m, List.mem_cons_of_mem n hm, hhead⟩
  | dirNext n inside next dirs file hin ih =>
    obtain ⟨hplain, m, hm, hhead⟩ := ih h.2.2.2
    exact ⟨hplain, m, List.mem_cons_of_mem n hm, hhead⟩
  | otherNext n next dirs file hin ih =>
    obtain ⟨hplain, m, hm, hhead⟩ := ih h.2.2
    exact ⟨hplain, m, List.mem_cons_of_mem n hm, hhead⟩

theorem regular_nodup {s : Stream} (h : s.Named) : s.regular.Nodup := by
  induction s with
  | refused => exact List.nodup_nil
  | done => exact List.nodup_nil
  | reg n next ih =>
    refine List.nodup_cons.mpr ⟨fun hmem => ?_, ih h.2.2⟩
    obtain ⟨m, hm, hhead⟩ := (regular_names h.2.2 hmem).2
    cases hhead
    exact h.2.1 hm
  | dir n inside next ihi ih =>
    rw [Stream.regular]
    split
    · exact ih h.2.2.2
    · refine List.Nodup.append ((ihi h.2.2.1).map ?_) (ih h.2.2.2) ?_
      · rintro ⟨ds, f⟩ ⟨ds', f'⟩ heq
        simpa using heq
      · rintro ⟨ds, f⟩ hmem hmem'
        obtain ⟨⟨ds', f'⟩, _, heq⟩ := List.mem_map.mp hmem
        cases heq
        obtain ⟨m, hm, hhead⟩ := (regular_names h.2.2.2 hmem').2
        cases hhead
        exact h.2.1 hm
  | other n next ih => exact ih h.2.2

/-- **Every regular file below `path` whose name has the suffix is collected, and once.** -/
theorem listAllFile_once (subfix path : Str) (s : Stream) (h : s.Named) :
    (ListAllFile subfix s path []).Nodup ∧ ∀ x, x ∈ ListAllFile subfix s path [] ↔
      ∃ dirs file, s.Holds dirs file ∧ subfix <:+ file ∧ x = below path dirs file := by
  rw [listAllFile_eq, List.nil_append]
  constructor
  · refine List.Nodup.map_on ?_ ((regular_nodup h).filter _)
    rintro ⟨ds, f⟩ hx ⟨ds', f'⟩ hx' heq
    obtain ⟨hds, hf⟩ := below_injective (regular_names h (List.mem_filter.mp hx).1).1
      (regular_names h (List.mem_filter.mp hx').1).1 heq
    rw [hds, hf]
  · intro x
    rw [List.mem_map]
    constructor
    · rintro ⟨⟨ds, f⟩, hx, rfl⟩
      obtain ⟨hmem, hsuffix⟩ := List.mem_filter.mp hx
      exact ⟨ds, f, regular_iff.mp hmem, of_decide_eq_true hsuffix, rfl⟩
    · rintro ⟨ds, f, hholds, hsuffix, rfl⟩
      exact ⟨(ds, f), List.mem_filter.mpr ⟨regular_iff.mpr hholds, decide_eq_true hsuffix⟩, rfl⟩

end

/-- a directory with another one in it -/
theorem listAllFile_once_two :
    let s : Stream := .dir (asc ".") .refused (.dir (asc "sub") (.reg (asc "a.yaml") .done)
      (.reg (asc "b.yaml") (.reg (asc "c.txt") .done)))
    (ListAllFile (asc ".yaml") s (asc "/conf") []).Nodup ∧
      ∀ x, x ∈ ListAllFile (asc ".yaml") s (asc "/conf") [] ↔
        ∃ dirs file, s.Holds dirs file ∧ asc ".yaml" <:+ file ∧ x = below (asc "/conf") dirs file :=
  listAllFile_once (asc ".yaml") (asc "/conf") _ (by simp [Stream.Named, Stream.names, asc])

/-! ### `LoadFromConfigDir` -/

section
variable {Ty : Type} {V : Ty → Type} [∀ t, BEq (V t)]
  {listener : (t : Ty) → Nat → V t → V t → Option Config.Listeners.Thrown}
  {convert : (t : Ty) → Str → Except Config.Listeners.Thrown (V t)} {emit : Yaml.Node Str → Str}
  {d : Config.Dir}

theorem loadFiles_tried (files : List Str) : ∀ s : Config.Loader V,
    ∃ read, read.Sublist files ∧
      (Config.loadFiles listener convert emit d files s).tried = s.tried ++ read := by
  induction files with
  | nil => intro s; exact ⟨[], .slnil, (List.append_nil _).symm⟩
  | cons x files ih =>
    intro s
    rw [Config.loadFiles]
    split
    · exact ⟨[], List.nil_sublist _, (List.append_nil _).symm⟩
    · split
      · obtain ⟨read, hread, htried⟩ := ih { s with record := Config.touch s.record x }
        exact ⟨read, hread.cons x, htried⟩
      · -- however the load ends, the file has been read
        have hafter {s' r : Config.Loader V} (hs' : s'.tried = s.tried ++ [x])
            (h : ∃ read, read.Sublist files ∧ r.tried = s'.tried ++ read) :
            ∃ read, read.Sublist (x :: files) ∧ r.tried = s.tried ++ read := by
          obtain ⟨read, hread, htried⟩ := h
          refine ⟨x :: read, hread.cons_cons x, ?_⟩
          rw [htried, hs', List.append_assoc]
          rfl
        dsimp only
        split
        · exact hafter (by rfl) (ih _)
        · split
          · exact hafter (by rfl) (ih _)
          · exact hafter (by rfl) (ih _)

/-- **One call reads no file twice, and only such files as are collected.** -/
theorem tried_once (s : Config.Loader V) {path : Str} {stream : Stream} (h : stream.Named)
    (hfiles : d.files = ListAllFile (asc ".yaml") stream path []) :
    (d.step listener convert emit s).tried.Nodup ∧ ∀ x ∈ (d.step listener convert emit s).tried,
      ∃ dirs file, stream.Holds dirs file ∧ asc ".yaml" <:+ file ∧ x = below path dirs file := by
  obtain ⟨hnodup, hmem⟩ := listAllFile_once (asc ".yaml") path stream h
  rw [← hfiles] at hnodup hmem
  obtain ⟨read, hread, htried⟩ := @loadFiles_tried Ty V _ listener convert emit d d.files
    { s with tried := [], failed := [] }
  have htried : (d.step listener convert emit s).tried = read := htried
  rw [htried]
  exact ⟨hread.nodup hnodup, fun x hx => (hmem x).mp (hread.subset hx)⟩

end

/-! ## `Mkdir` -/

abbrev FS := FileSystem (asc ".") (asc "..")

/-- nothing between two slashes, or behind the last one, is the directory itself -/
def name (n : Str) : Str := if n = [] then asc "." else n

def names (path : Str) : List Str := (path.splitOn 47).map name

/-- `access(path, F_OK) == 0`, and `lstat` -/
def access (fs : FS) (path : Str) : Bool := decide (path ≠ []) && (fs.walk 0 (names path)).isSome

/-- `mkdir`, for which slashes at the end do not count -/
def mkdir (fs : FS) (path : Str) : Bool × FS :=
  let ns := names (path.rdropWhile (· = 47))
  match (fs.walk 0 ns.dropLast).bind (fs.create · (ns.getLastD [])) with
  | some fs' => (true, fs')
  | none => (false, fs)

def __mkdir (fs : FS) (dirname : Str) : Bool × FS :=
  if access fs dirname then (true, fs) else mkdir fs dirname

/-- the loop of `Mkdir`, and the last directory: `strchr` has searched `front` -/
def mkdirs : FS → Str → Str → Bool × FS
  | fs, front, [] => __mkdir fs front
  | fs, front, c :: rest =>
    if c = 47 then
      match __mkdir fs front with
      | (true, fs') => mkdirs fs' (front ++ [c]) rest
      | (false, fs') => (false, fs')
    else mkdirs fs (front ++ [c]) rest

/-- none: `strchr` starts behind the end of an empty path -/
def Mkdir (fs : FS) : Str → Option (Bool × FS)
  | [] => none
  | c :: rest =>
    if access fs (c :: rest) then some (true, fs)
    else if 47 ∉ rest then some (false, fs)
    else some (mkdirs fs [c] rest)

/-- what is read of a path: the directory in which its last name stands, and that name; if there is
nothing behind a slash, `mkdir` finds what is there -/
structure Front (fs : FS) (front : Str) (d : Nat) (cur : Str) : Prop where
  split : ∃ done, front.splitOn 47 = done ++ [cur] ∧ fs.walk 0 (done.map name) = some d
  back : ∃ g, front = g ++ cur
  plain : 47 ∉ cur
  ne : front ≠ []
  closed : cur = [] → mkdir fs front = (false, fs)

section
variable {fs fs' : FS} {front cur : Str} {d v : Nat} {c : UInt8}

theorem splitOn_concat (hc : c ≠ 47) : ∀ {front : Str} {done : List Str} {cur : Str},
    front.splitOn 47 = done ++ [cur] → (front ++ [c]).splitOn 47 = done ++ [cur ++ [c]] := by
  intro front
  induction front with
  | nil =>
    intro done cur h
    have hnil : done = [] ∧ cur = [] := by
      have hlen := congrArg List.length h
      rw [List.splitOn_nil, List.length_append] at hlen
      have hdone : done = [] := List.length_eq_zero_iff.mp (by simpa using hlen)
      rw [hdone] at h
      exact ⟨hdone, (List.singleton_injective h).symm⟩
    rw [hnil.1, hnil.2]
    exact List.splitOn_eq_singleton (by simpa using hc.symm)
  | cons x front ih =>
    intro done cur h
    obtain ⟨done', cur', hrest⟩ : ∃ done' cur', front.splitOn 47 = done' ++ [cur'] :=
      ⟨_, _, (List.dropLast_append_getLast (List.splitOn_ne_nil 47 front)).symm⟩
    have hnext := ih hrest
    rw [List.cons_append, List.splitOn_cons_eq_if_modifyHead, hnext]
    rw [List.splitOn_cons_eq_if_modifyHead, hrest] at h
    split at h
    · next hx =>
      obtain ⟨rfl, rfl⟩ := List.append_singleton_inj.mp ((List.cons_append).trans h)
      rw [if_pos hx]
      rfl
    · next hx =>
      rw [if_neg hx]
      cases done' with
      | nil =>
        obtain ⟨rfl, rfl⟩ := List.append_singleton_inj.mp ((List.nil_append [x :: cur']).trans h)
        rfl
      | cons y ds =>
        have h : ((x :: y) :: ds) ++ [cur'] = done ++ [cur] := h
        obtain ⟨rfl, rfl⟩ := List.append_singleton_inj.mp h
        rfl

theorem splitOn_concat_slash (front : Str) :
    (front ++ [47]).splitOn 47 = front.splitOn 47 ++ [[]] :=
  List.splitOn_append_cons_self front []

theorem Front.access (h : Front fs front d cur) :
    access fs front = (fs.entry d (name cur)).isSome := by
  obtain ⟨done, hsplit, hwalk⟩ := h.split
  rw [FSUtil.access, decide_eq_true h.ne, Bool.true_and, names, hsplit, List.map_append,
    FileSystem.walk_append, hwalk]
  exact congrArg Option.isSome (bind_pure _)

theorem Front.mkdir (h : Front fs front d cur) (hcur : cur ≠ []) :
    FSUtil.mkdir fs front = match fs.create d (name cur) with
      | some fs' => (true, fs')
      | none => (false, fs) := by
  obtain ⟨done, hsplit, hwalk⟩ := h.split
  have hstrip : front.rdropWhile (· = 47) = front := by
    obtain ⟨g, hg⟩ := h.back
    have hlast : cur.getLast hcur ≠ 47 := fun heq => h.plain (heq ▸ List.getLast_mem hcur)
    rw [hg, ← List.dropLast_append_getLast hcur, ← List.append_assoc]
    exact List.rdropWhile_concat_neg _ _ _ fun hdec => hlast (of_decide_eq_true hdec)
  rw [FSUtil.mkdir, hstrip, names, hsplit, List.map_append, List.map_singleton]
  rw [List.dropLast_concat, hwalk, List.getLastD_concat]
  rfl

theorem Front.mkdir_entry (h : Front fs front d cur) (hv : fs.entry d (name cur) = some v) :
    FSUtil.mkdir fs front = (false, fs) := by
  by_cases hcur : cur = []
  · exact h.closed hcur
  · rw [h.mkdir hcur, FileSystem.create_entry hv]

/-- **One attempt makes the entry when it is missing.** -/
theorem Front.attempt (h : Front fs front d cur) :
    __mkdir fs front = match fs.entry d (name cur) with
      | some _ => (true, fs)
      | none =>
        match fs.create d (name cur) with
        | some fs' => (true, fs')
        | none => (false, fs) := by
  rw [__mkdir, h.access]
  cases hv : fs.entry d (name cur) with
  | some v => rfl
  | none =>
    by_cases hcur : cur = []
    · have hself : fs.create d (name cur) = none := by
        rw [hcur]
        exact FileSystem.create_self
      rw [hself]
      exact h.closed hcur
    · exact h.mkdir hcur

theorem Front.extends (h : Front fs front d cur) (hext : fs.Extends fs') (hcur : cur ≠ []) :
    Front fs' front d cur where
  split := by
    obtain ⟨done, hsplit, hwalk⟩ := h.split
    exact ⟨done, hsplit, hext.walk 0 hwalk⟩
  back := h.back
  plain := h.plain
  ne := h.ne
  closed hnil := absurd hnil hcur

theorem Front.char (h : Front fs front d cur) (hc : c ≠ 47) :
    Front fs (front ++ [c]) d (cur ++ [c]) where
  split := by
    obtain ⟨done, hsplit, hwalk⟩ := h.split
    exact ⟨done, splitOn_concat hc hsplit, hwalk⟩
  back := by
    obtain ⟨g, hg⟩ := h.back
    exact ⟨g, by rw [hg, List.append_assoc]⟩
  plain := by simp [h.plain, hc.symm]
  ne := List.concat_ne_nil _ _
  closed hnil := absurd hnil (List.concat_ne_nil _ _)

theorem Front.slash (h : Front fs front d cur) (hv : fs.entry d (name cur) = some v) :
    Front fs (front ++ [47]) v [] where
  split := by
    obtain ⟨done, hsplit, hwalk⟩ := h.split
    refine ⟨done ++ [cur], by rw [splitOn_concat_slash, hsplit], ?_⟩
    rw [List.map_append, FileSystem.walk_append, hwalk]
    exact (bind_pure _).trans hv
  back := ⟨front ++ [47], (List.append_nil _).symm⟩
  plain := List.not_mem_nil
  ne := List.concat_ne_nil _ _
  closed _ := by
    have hstrip : (front ++ [47]).rdropWhile (· = 47) = front.rdropWhile (· = 47) :=
      List.rdropWhile_concat_pos _ _ _ (decide_eq_true rfl)
    rw [FSUtil.mkdir, hstrip]
    exact h.mkdir_entry hv

theorem Front.first (fs : FS) (hc : c ≠ 47) : Front fs [c] 0 [c] where
  split := ⟨[], List.splitOn_eq_singleton (by simpa using hc.symm), rfl⟩
  back := ⟨[], rfl⟩
  plain := by simpa using hc.symm
  ne := List.cons_ne_nil c []
  closed hnil := absurd hnil (List.cons_ne_nil c [])

theorem Front.root (fs : FS) : Front fs [47] 0 [] where
  split := ⟨[[]], rfl, (bind_pure _).trans (fs.self 0 fs.root)⟩
  back := ⟨[47], rfl⟩
  plain := List.not_mem_nil
  ne := List.cons_ne_nil 47 []
  closed _ := by
    have hnone : fs.create 0 (asc ".") = none := FileSystem.create_self
    show (match fs.create 0 (asc ".") with
      | some fs' => (true, fs')
      | none => (false, fs)) = (false, fs)
    rw [hnone]

end

/-! ## `IsRunningPidFile` -/

/-- `file` is none when it cannot be opened; `kill` is whether `kill(pid, 0)` returns 0 -/
def IsRunningPidFile (kill : Int → Bool) (file : Option Str) : Bool :=
  match file with
  | none => false
  | some text =>
    if text = [] then false
    else
      let line := text.takeWhile (· ≠ 10)
      if line.length = 0 then false
      else if atoi line ≤ 1 then false
      else kill (atoi line)

end FSUtil
end KitServer
