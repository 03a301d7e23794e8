import KitServer.Http.Message

/-!
# `Env`: the command line

* `parse`          the loop of `Env::init` over the arguments;
* `Item`           a key with its value, or without one;
* `init_iff`       what is accepted, and what it means;
* `init_stops_iff`  what is refused, and what is left behind;
* `getAbsolutePath_root`, `configPath_iff`  the paths.

A string has no NUL.  The calls are made one after the other.
-/

set_option linter.unusedVariables false

namespace KitServer
open Http

structure Env where
  m_args : Str → Option Str
  m_helps : List (Str × Str)
  m_programName : Str
  m_exe : Str
  m_cwd : Str

namespace Env

def add (key val : Str) (e : Env) : Env :=
  { e with m_args := Function.update e.m_args key (some val) }

def has (key : Str) (e : Env) : Bool := (e.m_args key).isSome

def get (key default_val : Str) (e : Env) : Str := (e.m_args key).getD default_val

def del (key : Str) (e : Env) : Env := { e with m_args := Function.update e.m_args key none }

/-- the loop over `m_helps`, and `push_back` behind it -/
def setHelp (key description : Str) : List (Str × Str) → List (Str × Str)
  | [] => [(key, description)]
  | x :: xs => if x.1 = key then (x.1, description) :: xs else x :: setHelp key description xs

def addHelp (key description : Str) (e : Env) : Env :=
  { e with m_helps := setHelp key description e.m_helps }

def delHelp (key : Str) (e : Env) : Env := { e with m_helps := e.m_helps.eraseP (·.1 = key) }

/-- `m_exe.find_last_of("/")` -/
def findLastSlash (s : Str) : Option Nat :=
  (s.reverse.findIdx? (· = 47)).map (s.length - 1 - ·)

def getAbsolutePath (path : Str) (e : Env) : Str :=
  match path with
  | [] => asc "/"
  | c :: _ => if c = 47 then path else e.m_cwd ++ path

def getConfigPath (e : Env) : Str := e.getAbsolutePath (e.get (asc "c") (asc "conf"))

/-- a key that has no value yet gets the empty one -/
def flush (now_key : Option Str) (e : Env) : Env :=
  match now_key with
  | none => e
  | some key => e.add key []

/-- the loop of `init` from one argument on -/
def parse : Option Str → List Str → Env → Bool × Env
  | now_key, [], e => (true, e.flush now_key)
  | now_key, arg :: args, e =>
    if arg.head? = some 45 then
      if arg.length > 1 then parse (some arg.tail) args (e.flush now_key)
      else (false, e)
    else
      match now_key with
      | some key => parse none args (e.add key arg)
      | none => (false, e)

/-- `init` up to the loop -/
def locate (path program : Str) (e : Env) : Env :=
  let dir := match findLastSlash path with
    | some pos => path.take pos
    | none => path
  { e with m_exe := path, m_cwd := dir ++ asc "/", m_programName := program }

/-- `readlink` is what the link of the process leads to, none for an error; `argv[0]` is
`program` -/
def init (readlink : Option Str) (program : Str) (args : List Str) (e : Env) : Bool × Env :=
  match readlink with
  | none => (false, e)
  | some path => parse none args (e.locate path program)

/-! ## the items of a command line -/

/-- a key, and a value that is not one -/
@[ext] structure Item where
  key : Str
  val : Option Str
  key_ne : key ≠ []
  val_plain : ∀ v ∈ val, v.head? ≠ some 45

def Item.print (i : Item) : List Str := (45 :: i.key) :: i.val.toList

def bind (e : Env) (i : Item) : Env := e.add i.key (i.val.getD [])

def print (items : List Item) : List Str := items.flatMap Item.print

theorem print_cons (i : Item) (items : List Item) : print (i :: items) = i.print ++ print items :=
  List.flatMap_cons

def Closed (items : List Item) : Prop := ∀ i ∈ items.getLast?, i.val.isSome = true

/-- in front of `rest` the loop ends: there is a value without a key, or a `-`; a key that waits for
its value is in `rest` -/
inductive Stops (items : List Item) : List Str → Prop where
  | value (v : Str) (rest : List Str) (h : Closed items) (hv : v.head? ≠ some 45) :
    Stops items (v :: rest)
  | dash (rest : List Str) (h : Closed items) : Stops items ([45] :: rest)
  | keyDash (key : Str) (rest : List Str) (h : key ≠ []) :
    Stops items ((45 :: key) :: [45] :: rest)

section
variable {e : Env} {key : Str} {now_key : Option Str}

theorem parse_key (hkey : key ≠ []) (args : List Str) :
    parse now_key ((45 :: key) :: args) e = parse (some key) args (e.flush now_key) := by
  cases now_key <;> simp [parse, List.length_pos_iff, hkey]

theorem parse_value {v : Str} (hv : v.head? ≠ some 45) (args : List Str) :
    parse (some key) (v :: args) e = parse none args (e.add key v) := by
  rw [parse, if_neg hv]

theorem parse_dash (rest : List Str) : parse now_key ([45] :: rest) e = (false, e) := by
  cases now_key <;> simp [parse]

theorem parse_item (i : Item) (args : List Str) :
    parse now_key (i.print ++ args) e =
      match i.val with
      | none => parse (some i.key) args (e.flush now_key)
      | some _ => parse none args ((e.flush now_key).bind i) := by
  obtain ⟨key, val, hkey, hval⟩ := i
  cases val with
  | none => exact parse_key hkey args
  | some v =>
    show parse now_key ((45 :: key) :: v :: args) e = _
    rw [parse_key hkey, parse_value (hval v rfl)]
    rfl

theorem parse_print_key (items : List Item) (hkey : key ≠ []) (rest : List Str) :
    parse now_key (print items ++ (45 :: key) :: rest) e
      = parse (some key) rest (items.foldl bind (e.flush now_key)) := by
  induction items generalizing e now_key with
  | nil => exact parse_key hkey rest
  | cons i items ih =>
    rw [print_cons, List.append_assoc, parse_item]
    cases hval : i.val with
    | none =>
      simp only
      rw [ih, List.foldl_cons, bind, hval]
      rfl
    | some v =>
      simp only
      rw [ih, List.foldl_cons]
      rfl

theorem parse_print_closed {items : List Item} (hclosed : Closed items) (rest : List Str) :
    parse none (print items ++ rest) e = parse none rest (items.foldl bind e) := by
  induction items using List.reverseRecOn generalizing rest with
  | nil => rfl
  | append_singleton items i _ =>
    obtain ⟨v, hv⟩ := Option.isSome_iff_exists.mp
      (hclosed i List.getLast?_concat)
    have hprint : print (items ++ [i]) ++ rest = print items ++ (45 :: i.key) :: v :: rest := by
      simp [print, Item.print, hv]
    rw [hprint, parse_print_key items i.key_ne, parse_value (i.val_plain v hv), List.foldl_concat,
      bind, hv]
    rfl

theorem parse_print (items : List Item) :
    parse now_key (print items) e = (true, items.foldl bind (e.flush now_key)) := by
  induction items generalizing e now_key with
  | nil => rfl
  | cons i items ih =>
    rw [print_cons, parse_item]
    cases hval : i.val with
    | none =>
      simp only
      rw [ih, List.foldl_cons, bind, hval]
      rfl
    | some v =>
      simp only
      rw [ih, List.foldl_cons]
      rfl

theorem parse_stops {items : List Item} {rest : List Str} (h : Stops items rest) :
    parse none (print items ++ rest) e = (false, items.foldl bind e) := by
  cases h with
  | value v rest hclosed hv =>
    rw [parse_print_closed hclosed, parse, if_neg hv]
  | dash rest hclosed => rw [parse_print_closed hclosed, parse_dash]
  | keyDash key rest hkey => rw [parse_print_key items hkey, parse_dash]; rfl

theorem Stops.cons {items : List Item} {rest : List Str} (h : Stops items rest) (i : Item)
    (hi : items ≠ [] ∨ i.val.isSome = true) : Stops (i :: items) rest := by
  have hclosed : Closed items → Closed (i :: items) := by
    intro hc
    cases items with
    | nil =>
      intro j hj
      cases hj
      exact hi.resolve_left fun hne => hne rfl
    | cons j items => exact hc
  cases h with
  | value v rest hc hv => exact .value v rest (hclosed hc) hv
  | dash rest hc => exact .dash rest (hclosed hc)
  | keyDash key rest hkey => exact .keyDash key rest hkey

/-- every list of arguments is one of items, up to an argument where the loop ends -/
theorem exists_items : ∀ args : List Str, ∃ items rest, args = print items ++ rest ∧
    (rest = [] ∨ Stops items rest) := by
  intro args
  induction hlen : args.length using Nat.strongRecOn generalizing args with
  | _ n ih =>
    subst hlen
    match args with
    | [] => exact ⟨[], [], rfl, .inl rfl⟩
    | [] :: args => exact ⟨[], _, rfl, .inr (.value [] args nofun nofun)⟩
    | (c :: key) :: args =>
      by_cases hc : c = 45
      · subst hc
        by_cases hkey : key = []
        · subst hkey
          exact ⟨[], _, rfl, .inr (.dash args nofun)⟩
        · match args with
          | [] => exact ⟨[⟨key, none, hkey, nofun⟩], [], rfl, .inl rfl⟩
          | v :: rest =>
            by_cases hv : v.head? = some 45
            · obtain ⟨k, rfl⟩ : ∃ k, v = 45 :: k := List.head?_eq_some_iff.mp hv
              by_cases hk : k = []
              · exact ⟨[], _, rfl, .inr (hk ▸ .keyDash key rest hkey)⟩
              · -- the key has no value, and the next item begins behind it
                obtain ⟨items, rest', hargs, hends⟩ := ih _ (by simp) ((45 :: k) :: rest) rfl
                refine ⟨⟨key, none, hkey, nofun⟩ :: items, rest', by
                  rw [print_cons, List.append_assoc, ← hargs]
                  rfl, hends.imp_right fun hs => ?_⟩
                cases items with
                | nil =>
                  obtain rfl : (45 :: k) :: rest = rest' := hargs
                  cases hs with
                  | value _ _ _ hplain => exact absurd hv hplain
                  | dash => exact absurd rfl hk
                  | keyDash k rest _ => exact .keyDash k rest hk
                | cons i items => exact hs.cons _ (.inl (List.cons_ne_nil i items))
            · obtain ⟨items, rest', hargs, hends⟩ := ih _ (by simp) rest rfl
              refine ⟨⟨key, some v, hkey, fun w hw => Option.some.inj hw ▸ hv⟩ :: items, rest', by
                rw [print_cons, List.append_assoc, ← hargs]
                rfl, hends.imp_right fun hs => ?_⟩
              exact hs.cons _ (.inr rfl)
      · refine ⟨[], _, rfl, .inr (.value (c :: key) args nofun ?_)⟩
        simpa using hc

theorem parse_ok {args : List Str} {e' : Env} :
    parse none args e = (true, e') ↔ ∃ items, args = print items ∧ e' = items.foldl bind e := by
  constructor
  · intro h
    obtain ⟨items, rest, rfl, rfl | hstops⟩ := exists_items args
    · rw [List.append_nil, parse_print] at h
      exact ⟨items, List.append_nil _, (Prod.mk.inj h).2.symm⟩
    · rw [parse_stops hstops] at h
      cases h
  · rintro ⟨items, rfl, rfl⟩
    exact parse_print items

theorem parse_fails {args : List Str} {e' : Env} :
    parse none args e = (false, e') ↔ ∃ items rest, args = print items ++ rest ∧
      Stops items rest ∧ e' = items.foldl bind e := by
  constructor
  · intro h
    obtain ⟨items, rest, rfl, rfl | hstops⟩ := exists_items args
    · rw [List.append_nil, parse_print] at h
      cases h
    · rw [parse_stops hstops] at h
      exact ⟨items, rest, rfl, hstops, (Prod.mk.inj h).2.symm⟩
  · rintro ⟨items, rest, rfl, hstops, rfl⟩
    exact parse_stops hstops

end

theorem print_head {items : List Item} {w : Str} {rest : List Str}
    (h : print items = w :: rest) : w.head? = some 45 := by
  cases items with
  | nil => cases h
  | cons i items =>
    obtain ⟨rfl, _⟩ := List.cons.inj h
    rfl

theorem val_print {i j : Item} {items items' : List Item}
    (h : i.val.toList ++ print items = j.val.toList ++ print items') :
    i.val = j.val ∧ print items = print items' := by
  cases hi : i.val with
  | none =>
    cases hj : j.val with
    | none =>
      rw [hi, hj] at h
      exact ⟨rfl, h⟩
    | some w =>
      rw [hi, hj] at h
      exact absurd (print_head h) (j.val_plain w hj)
  | some v =>
    cases hj : j.val with
    | none =>
      rw [hi, hj] at h
      exact absurd (print_head h.symm) (i.val_plain v hi)
    | some w =>
      rw [hi, hj] at h
      obtain ⟨hv, hrest⟩ := List.cons.inj h
      exact ⟨congrArg some hv, hrest⟩

theorem print_injective {items items' : List Item} (h : print items = print items') :
    items = items' := by
  induction items generalizing items' with
  | nil =>
    cases items' with
    | nil => rfl
    | cons j items' => cases h
  | cons i items ih =>
    cases items' with
    | nil => cases h
    | cons j items' =>
      obtain ⟨hkey, hrest⟩ := List.cons.inj h
      obtain ⟨hval, hitems⟩ := val_print hrest
      rw [ih hitems, Item.ext (List.cons.inj hkey).2 hval]

theorem args_foldl (items : List Item) (e : Env) (key : Str) :
    (items.foldl bind e).m_args key =
      match items.reverse.find? (·.key = key) with
      | some i => some (i.val.getD [])
      | none => e.m_args key := by
  induction items using List.reverseRecOn with
  | nil => rfl
  | append_singleton items i ih =>
    rw [List.foldl_concat, List.reverse_append]
    by_cases hk : i.key = key
    · subst hk
      simp [bind, add]
    · simp [bind, add, hk, Function.update_of_ne (Ne.symm hk), ih]

/-- **`init` accepts the command lines that items are printed as, and no others; an argument gets
the value of its last item.** -/
theorem init_iff (path program : Str) (args : List Str) (e e' : Env) :
    e.init (some path) program args = (true, e') ↔
      ∃! items, args = print items ∧ e' = items.foldl bind (e.locate path program) ∧
        ∀ key default_val, e'.get key default_val =
          match items.reverse.find? (·.key = key) with
          | some i => i.val.getD []
          | none => e.get key default_val := by
  have hget : ∀ (items : List Item) (key default_val : Str),
      (items.foldl bind (e.locate path program)).get key default_val =
        match items.reverse.find? (·.key = key) with
        | some i => i.val.getD []
        | none => e.get key default_val := by
    intro items key default_val
    rw [get, args_foldl]
    split <;> rfl
  refine parse_ok.trans ⟨?_, ?_⟩
  · rintro ⟨items, rfl, rfl⟩
    exact ⟨items, ⟨rfl, rfl, hget items⟩, fun items' h => print_injective h.1.symm⟩
  · rintro ⟨items, ⟨hargs, he, _⟩, _⟩
    exact ⟨items, hargs, he⟩

/-- **What is refused has a value without a key, or a lone `-`: the items in front of it are kept,
and a key that waits for its value is lost.** -/
theorem init_stops_iff (path program : Str) (args : List Str) (e e' : Env) :
    e.init (some path) program args = (false, e') ↔
      ∃ items rest, args = print items ++ rest ∧ Stops items rest ∧
        e' = items.foldl bind (e.locate path program) :=
  parse_fails

/-! ## the paths -/

theorem findLastSlash_some {s : Str} {pos : Nat} (h : findLastSlash s = some pos) :
    s = s.take pos ++ 47 :: s.drop (pos + 1) ∧ 47 ∉ s.drop (pos + 1) := by
  obtain ⟨i, hi, rfl⟩ := Option.map_eq_some_iff.mp h
  obtain ⟨hlt, hslash, hfirst⟩ := List.findIdx?_eq_some_iff_getElem.mp hi
  rw [List.length_reverse] at hlt
  have hpos : s.length - 1 - i < s.length := by omega
  refine ⟨?_, fun hmem => ?_⟩
  · have hget : s[s.length - 1 - i] = 47 := by simpa using hslash
    rw [← hget, List.getElem_cons_drop, List.take_append_drop]
  · obtain ⟨j, hj, hget⟩ := List.getElem_of_mem hmem
    rw [List.length_drop] at hj
    have hnot := hfirst (s.length - 1 - (s.length - 1 - i + 1 + j)) (by omega)
    rw [List.getElem_reverse] at hnot
    rw [List.getElem_drop] at hget
    have hidx : s.length - 1 - (s.length - 1 - (s.length - 1 - i + 1 + j))
        = s.length - 1 - i + 1 + j := by omega
    simp only [hidx, hget] at hnot
    exact hnot (by simp)

theorem findLastSlash_none {s : Str} (h : findLastSlash s = none) : 47 ∉ s := by
  have hnone : s.reverse.findIdx? (· = 47) = none := Option.map_eq_none_iff.mp h
  intro hmem
  have hno := List.findIdx?_eq_none_iff.mp hnone 47 (List.mem_reverse.mpr hmem)
  simp at hno

/-- **The directory of the program and its name make its path; from then on every path is absolute,
and an absolute one stays as it is.** -/
theorem getAbsolutePath_root (path program : Str) (hpath : path.head? = some 47) (e : Env) :
    let e' := e.locate path program
    (∃ name, path = e'.m_cwd ++ name ∧ 47 ∉ name) ∧
      ∀ p, (e'.getAbsolutePath p).head? = some 47 ∧
        e'.getAbsolutePath (e'.getAbsolutePath p) = e'.getAbsolutePath p := by
  intro e'
  obtain ⟨pos, hpos⟩ : ∃ pos, findLastSlash path = some pos := by
    cases hslash : findLastSlash path with
    | none => exact absurd (List.mem_of_mem_head? hpath) (findLastSlash_none hslash)
    | some pos => exact ⟨pos, rfl⟩
  obtain ⟨hsplit, hname⟩ := findLastSlash_some hpos
  have hcwd : e'.m_cwd = path.take pos ++ asc "/" := by
    show (match findLastSlash path with
      | some pos => path.take pos
      | none => path) ++ asc "/" = _
    rw [hpos]
  have hroot : e'.m_cwd.head? = some 47 := by
    rw [hcwd]
    cases pos with
    | zero => rfl
    | succ pos =>
      cases path with
      | nil => cases hpath
      | cons c path => exact hpath
  have habs : ∀ p, (e'.getAbsolutePath p).head? = some 47 := by
    intro p
    cases p with
    | nil => rfl
    | cons c p =>
      rw [getAbsolutePath]
      split
      · next hc => rw [hc, List.head?_cons]
      · rw [List.head?_append, hroot]
        rfl
  refine ⟨⟨path.drop (pos + 1), ?_, hname⟩, fun p => ⟨habs p, ?_⟩⟩
  · rw [hcwd, List.append_assoc]
    exact hsplit
  · obtain ⟨rest, hrest⟩ := List.head?_eq_some_iff.mp (habs p)
    rw [hrest, getAbsolutePath, if_pos rfl]

/-! ## the descriptions -/

inductive HelpCall where
  | addHelp (key description : Str)
  | delHelp (key : Str)

def HelpCall.effect (e : Env) : HelpCall → Env
  | .addHelp key description => e.addHelp key description
  | .delHelp key => e.delHelp key

def HelpCall.onMap (m : Str → Option Str) : HelpCall → Str → Option Str
  | .addHelp key description => Function.update m key (some description)
  | .delHelp key => Function.update m key none

def lookup (key : Str) (helps : List (Str × Str)) : Option Str :=
  (helps.find? (·.1 = key)).map (·.2)

theorem lookup_cons (k : Str) (x : Str × Str) (helps : List (Str × Str)) :
    lookup k (x :: helps) = if x.1 = k then some x.2 else lookup k helps := by
  by_cases hx : x.1 = k <;> simp [lookup, hx]

theorem lookup_setHelp (key description : Str) (helps : List (Str × Str)) (k : Str) :
    lookup k (setHelp key description helps)
      = if key = k then some description else lookup k helps := by
  induction helps with
  | nil => rw [setHelp, lookup_cons]
  | cons x helps ih =>
    rw [setHelp]
    by_cases hx : x.1 = key
    · rw [if_pos hx, lookup_cons, lookup_cons, hx]
      split <;> rfl
    · rw [if_neg hx, lookup_cons, lookup_cons, ih]
      by_cases hk : key = k
      · rw [if_pos hk, if_neg (fun he => hx (he.trans hk.symm)), if_pos hk]
      · rw [if_neg hk, if_neg hk]

theorem lookup_eraseP (key : Str) {helps : List (Str × Str)} (h : (helps.map Prod.fst).Nodup)
    (k : Str) :
    lookup k (helps.eraseP (·.1 = key)) = if key = k then none else lookup k helps := by
  induction helps with
  | nil => split <;> rfl
  | cons x helps ih =>
    obtain ⟨hnew, hrest⟩ := List.nodup_cons.mp h
    by_cases hx : x.1 = key
    · rw [List.eraseP_cons_of_pos (by simpa using hx), lookup_cons, hx]
      by_cases hk : key = k
      · rw [if_pos hk]
        refine Option.map_eq_none_iff.mpr (List.find?_eq_none.mpr fun y hy => ?_)
        have hne : y.1 ≠ k := fun he => hnew (by rw [hx, hk, ← he]; exact List.mem_map_of_mem hy)
        simpa using hne
      · rw [if_neg hk, if_neg hk]
    · rw [List.eraseP_cons_of_neg (by simpa using hx), lookup_cons, lookup_cons, ih hrest]
      by_cases hk : key = k
      · rw [if_pos hk, if_neg (fun he => hx (he.trans hk.symm)), if_pos hk]
      · rw [if_neg hk, if_neg hk]

theorem keys_setHelp (key description : Str) {helps : List (Str × Str)}
    (h : (helps.map Prod.fst).Nodup) : ((setHelp key description helps).map Prod.fst).Nodup := by
  induction helps with
  | nil => simp [setHelp]
  | cons x helps ih =>
    obtain ⟨hnew, hrest⟩ := List.nodup_cons.mp h
    rw [setHelp]
    by_cases hx : x.1 = key
    · rw [if_pos hx]
      exact h
    · rw [if_neg hx]
      refine List.nodup_cons.mpr ⟨fun hmem => ?_, ih hrest⟩
      obtain ⟨y, hy, hyx⟩ := List.mem_map.mp hmem
      have hlook : lookup x.1 (setHelp key description helps) ≠ none := by
        simp only [lookup, ne_eq, Option.map_eq_none_iff, List.find?_eq_none, not_forall]
        exact ⟨y, hy, by simpa using hyx⟩
      rw [lookup_setHelp, if_neg (Ne.symm hx)] at hlook
      refine hlook (Option.map_eq_none_iff.mpr (List.find?_eq_none.mpr fun z hz => ?_))
      have hne : z.1 ≠ x.1 := fun he => hnew (he ▸ List.mem_map_of_mem hz)
      simpa using hne

/-- **The vector of the descriptions is a map**: whatever calls are made, no key is in it twice, and
every key has the description that a map would have. -/
theorem helps_map (calls : List HelpCall) (e : Env) (h : (e.m_helps.map Prod.fst).Nodup) :
    (((calls.foldl HelpCall.effect e).m_helps).map Prod.fst).Nodup ∧
      ∀ key, lookup key (calls.foldl HelpCall.effect e).m_helps
        = calls.foldl HelpCall.onMap (lookup · e.m_helps) key := by
  induction calls generalizing e with
  | nil => exact ⟨h, fun _ => rfl⟩
  | cons call calls ih =>
    have hone : ((call.effect e).m_helps.map Prod.fst).Nodup ∧
        (lookup · (call.effect e).m_helps) = call.onMap (lookup · e.m_helps) := by
      cases call with
      | addHelp key description =>
        refine ⟨keys_setHelp key description h, funext fun k => ?_⟩
        simp [HelpCall.effect, addHelp, HelpCall.onMap, lookup_setHelp, Function.update_apply,
          eq_comm]
      | delHelp key =>
        refine ⟨h.sublist (List.Sublist.map _ List.eraseP_sublist), funext fun k => ?_⟩
        show lookup k (e.m_helps.eraseP (·.1 = key)) = _
        rw [lookup_eraseP key h]
        simp [HelpCall.onMap, Function.update_apply, eq_comm]
    obtain ⟨hkeys, hlookup⟩ := ih (call.effect e) hone.1
    refine ⟨hkeys, fun key => (hlookup key).trans ?_⟩
    rw [hone.2]
    rfl

end Env
end KitServer
