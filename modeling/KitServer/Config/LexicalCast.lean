import KitServer.Config.Var
import KitServer.Http.Dump
import KitServer.Lib.Container
import KitServer.Lib.YamlText

/-!
# `LexicalCast`

The types that are built from numbers, `bool` and `std::string` with the containers of the
standard library, and the text of their values.

* `Ty`, `Ty.Value`       the types and their values;
* `LexicalCast.toString` `LexicalCast<T, std::string>`;
* `LexicalCast.fromString` `LexicalCast<std::string, T>`;
* `Survives`             the values all of whose inner strings are written as they are;
* `lexicalCast_iff`      a value is read back from its text if and only if it survives.

`lib` is the library that reads and writes YAML, `boost` is `boost::lexical_cast`, and `orders` are the
orders in which the containers are gone through.  There is no value of `vector` of `bool`: its printer
does not compile.
-/

set_option linter.unusedVariables false

namespace KitServer
namespace Config
open Http Yaml

/-! ## types and values -/

/-- the integers that `boost::lexical_cast` takes as numbers -/
inductive Width where
  | w16
  | w32
  | w64
deriving DecidableEq

def Width.bits : Width → Nat
  | .w16 => 16
  | .w32 => 32
  | .w64 => 64

/-- `char` stands for the integers of one byte, which `boost::lexical_cast` takes as characters -/
inductive Ty where
  | int (signed : Bool) (width : Width)
  | char
  | bool
  | string
  | vector (t : Ty)
  | list (t : Ty)
  | set (t : Ty)
  | unorderedSet (t : Ty)
  | map (k v : Ty)
  | unorderedMap (k v : Ty)

def inRange (signed : Bool) (width : Width) (z : Int) : Prop :=
  if signed then -(2 ^ (width.bits - 1)) ≤ z ∧ z < 2 ^ (width.bits - 1)
  else 0 ≤ z ∧ z < 2 ^ width.bits

instance (signed : Bool) (width : Width) (z : Int) : Decidable (inRange signed width z) := by
  unfold inRange
  infer_instance

/-- a type whose values can be compared -/
structure DType where
  carrier : Type
  dec : DecidableEq carrier

namespace Ty

def sem : Ty → DType
  | .int signed width => ⟨{ z : Int // inRange signed width z }, inferInstance⟩
  | .char => ⟨UInt8, inferInstance⟩
  | .bool => ⟨Bool, inferInstance⟩
  | .string => ⟨Str, inferInstance⟩
  | .vector t | .list t => ⟨List t.sem.carrier, @instDecidableEqList _ t.sem.dec⟩
  | .set t | .unorderedSet t =>
    ⟨Finset t.sem.carrier, @Finset.decidableEq _ t.sem.dec⟩
  | .map k v | .unorderedMap k v =>
    ⟨Entries k.sem.carrier v.sem.carrier,
      @Subtype.instDecidableEq _ _
        (@Finset.decidableEq _ (@instDecidableEqProd _ _ k.sem.dec v.sem.dec))⟩

abbrev Value (t : Ty) : Type := t.sem.carrier

instance (t : Ty) : DecidableEq t.Value := t.sem.dec

end Ty

/-- the orders in which the iterators of the containers go -/
structure Orders where
  set : (t : Ty) → Finset t.Value → List t.Value
  unorderedSet : (t : Ty) → Finset t.Value → List t.Value
  map : (k v : Ty) → Finset (k.Value × v.Value) → List (k.Value × v.Value)
  unorderedMap : (k v : Ty) → Finset (k.Value × v.Value) → List (k.Value × v.Value)
  set_all : ∀ t, Enumerates (set t)
  unorderedSet_all : ∀ t, Enumerates (unorderedSet t)
  map_all : ∀ k v, Enumerates (map k v)
  unorderedMap_all : ∀ k v, Enumerates (unorderedMap k v)

/-- `boost::lexical_cast` of the integers and of `bool`; none is `bad_lexical_cast` -/
structure Boost where
  ofInt : Int → Str
  toInt : (signed : Bool) → (width : Width) → Str → Option { z : Int // inRange signed width z }
  ofBool : Bool → Str
  toBool : Str → Option Bool
  toInt_ofInt : ∀ signed width z, toInt signed width (ofInt z.1) = some z
  toBool_ofBool : ∀ b, toBool (ofBool b) = some b
  ofBool_eq : ∀ b, ofBool b = ofInt (if b then 1 else 0)

namespace LexicalCast

/-! ## the containers -/

variable (lib : Library Str) (boost : Boost)

/-- the printers of `vector`, `list`, `set` and `unordered_set`, over the texts of the elements -/
def sequenceText (texts : List (Option Str)) : Option Str :=
  (texts.mapM fun text : Option Str => text.bind lib.load).map fun nodes =>
    if nodes.isEmpty then lib.unset else lib.emit (.sequence nodes)

/-- their parsers, with that of the elements -/
def sequenceOf {α : Type} (parse : Str → Option α) (val : Str) : Option (List α) :=
  (lib.load val).bind fun node => (lib.items node).mapM parse

/-- the printers of `map` and `unordered_map` -/
def mapText (texts : List (Option Str × Option Str)) : Option Str :=
  (texts.mapM (onPair (fun text => text.bind lib.load) fun text => text.bind lib.load)).map
    fun nodes => if nodes.isEmpty then lib.unset else lib.emit (.map nodes)

def mapOf {α β : Type} (key : Str → Option α) (value : Str → Option β) (val : Str) :
    Option (List (α × β)) :=
  (lib.load val).bind fun node => (lib.pairs node).bind fun ps => ps.mapM (onPair key value)

/-- `LexicalCast<T, std::string>`; none is an exception -/
def toString (orders : Orders) : (t : Ty) → t.Value → Option Str
  | .int _ _, z => some (boost.ofInt z.1)
  | .char, c => some [c]
  | .bool, b => some (boost.ofBool b)
  | .string, s => some s
  | .vector t, xs | .list t, xs =>
    sequenceText lib (List.map (fun x => toString orders t x) xs)
  | .set t, s => sequenceText lib ((orders.set t s).map fun x => toString orders t x)
  | .unorderedSet t, s =>
    sequenceText lib ((orders.unorderedSet t s).map fun x => toString orders t x)
  | .map k v, m =>
    mapText lib ((orders.map k v m.1).map fun p => (toString orders k p.1, toString orders v p.2))
  | .unorderedMap k v, m =>
    mapText lib
      ((orders.unorderedMap k v m.1).map fun p => (toString orders k p.1, toString orders v p.2))

/-- `LexicalCast<std::string, T>`; none is an exception -/
def fromString : (t : Ty) → Str → Option t.Value
  | .int signed width, val => boost.toInt signed width val
  | .char, val =>
    match val with
    | [c] => some c
    | _ => none
  | .bool, val => boost.toBool val
  | .string, val => some val
  | .vector t, val | .list t, val => sequenceOf lib (fromString t) val
  | .set t, val | .unorderedSet t, val => (sequenceOf lib (fromString t) val).map List.toFinset
  | .map k v, val | .unorderedMap k v, val =>
    (mapOf lib (fromString k) (fromString v) val).map Entries.ofList

/-! ## the values that survive -/

/-- a text that is what is written of the node that it is read as -/
def Verbatim (s : Str) : Prop := (lib.load s).map lib.emit = some s

/-- inside of a container, a string or a character has to be written as it is -/
def Held : (t : Ty) → t.Value → Prop
  | .int _ _, _ => True
  | .char, c => Verbatim lib [c]
  | .bool, _ => True
  | .string, s => Verbatim lib s
  | .vector t, xs | .list t, xs => ∀ x ∈ (show List t.Value from xs), Held t x
  | .set t, s | .unorderedSet t, s => ∀ x ∈ (show Finset t.Value from s), Held t x
  | .map k v, m | .unorderedMap k v, m =>
    ∀ p ∈ (show Entries k.Value v.Value from m).1, Held k p.1 ∧ Held v p.2

/-- a string or a character on its own is never changed -/
def Survives : (t : Ty) → t.Value → Prop
  | .char, _ => True
  | .string, _ => True
  | t, v => Held lib t v

/-- an element on its way through a container: its text is read as a node, and the text of the node
is parsed -/
def inner {α : Type} (print : α → Option Str) (parse : Str → Option α) (x : α) : Option α :=
  ((print x).bind lib.load).bind fun node => parse (lib.emit node)

/-- integers are written as they are -/
def PlainIntegers : Prop :=
  ∀ z, lib.load (boost.ofInt z) = some (.scalar (boost.ofInt z)) ∧
    lib.emit (.scalar (boost.ofInt z)) = boost.ofInt z

variable {lib boost}

/-! ## the texts of containers -/

section
variable {α β : Type}

theorem sequenceText_load (hlib : lib.Lawful) (texts : List (Option Str)) :
    ((sequenceText lib texts).bind lib.load).map lib.items
      = (texts.mapM fun text : Option Str => text.bind lib.load).map fun nodes =>
          nodes.map lib.emit := by
  rw [sequenceText]
  cases texts.mapM fun text : Option Str => text.bind lib.load with
  | none => rfl
  | some nodes =>
    cases nodes with
    | nil =>
      show (lib.load lib.unset).map lib.items = some []
      rw [hlib.load_unset, Option.map_some, hlib.items_null]
    | cons n ns =>
      show (lib.load (lib.emit (.sequence (n :: ns)))).map lib.items = some ((n :: ns).map lib.emit)
      rw [hlib.load_emit, Option.map_some, hlib.items_sequence]

/-- **A sequence is read back with its elements on their way through it.** -/
theorem sequenceOf_text (hlib : lib.Lawful) (print : α → Option Str) (parse : Str → Option α)
    (xs : List α) :
    (sequenceText lib (xs.map print)).bind (sequenceOf lib parse)
      = xs.mapM (inner lib print parse) := by
  have hitems : ∀ text : Option Str,
      text.bind (sequenceOf lib parse)
        = ((text.bind lib.load).map lib.items).bind fun items => items.mapM parse := by
    intro text
    rw [Option.bind_map]
    cases text with
    | none => rfl
    | some text => rfl
  rw [hitems, sequenceText_load hlib, Option.bind_map, mapM_map]
  calc _ = (xs.mapM fun x => (print x).bind lib.load).bind
        fun nodes => nodes.mapM fun node => parse (lib.emit node) := by
        congr 1
        funext nodes
        exact mapM_map parse lib.emit nodes
    _ = _ := mapM_bind_mapM _ _ xs

theorem mapText_load (hlib : lib.Lawful) (texts : List (Option Str × Option Str)) :
    ((mapText lib texts).bind lib.load).bind lib.pairs
      = (texts.mapM (onPair (fun text => text.bind lib.load) fun text => text.bind lib.load)).map
          fun nodes => nodes.map fun p => (lib.emit p.1, lib.emit p.2) := by
  rw [mapText]
  cases texts.mapM (onPair (fun text : Option Str => text.bind lib.load)
      fun text : Option Str => text.bind lib.load) with
  | none => rfl
  | some nodes =>
    cases nodes with
    | nil =>
      show (lib.load lib.unset).bind lib.pairs = some []
      rw [hlib.load_unset, Option.bind_some, hlib.pairs_null]
    | cons n ns =>
      show (lib.load (lib.emit (.map (n :: ns)))).bind lib.pairs = some _
      rw [hlib.load_emit, Option.bind_some, hlib.pairs_map]

/-- **A map is read back with its keys and values on their way through it.** -/
theorem mapOf_text (hlib : lib.Lawful) (printKey : α → Option Str) (printValue : β → Option Str)
    (key : Str → Option α) (value : Str → Option β) (ps : List (α × β)) :
    (mapText lib (ps.map fun p => (printKey p.1, printValue p.2))).bind (mapOf lib key value)
      = ps.mapM (onPair (inner lib printKey key) (inner lib printValue value)) := by
  have hpairs : ∀ text : Option Str,
      text.bind (mapOf lib key value)
        = ((text.bind lib.load).bind lib.pairs).bind fun ps => ps.mapM (onPair key value) := by
    intro text
    cases text with
    | none => rfl
    | some text =>
      show (lib.load text).bind _ = ((lib.load text).bind lib.pairs).bind _
      rw [Option.bind_assoc]
  rw [hpairs, mapText_load hlib, Option.bind_map, mapM_map]
  calc _ = (ps.mapM (onPair (fun k => (printKey k).bind lib.load)
          fun v => (printValue v).bind lib.load)).bind
        fun nodes => nodes.mapM (onPair (fun k => key (lib.emit k)) fun v => value (lib.emit v)) := by
        congr 1
        funext nodes
        exact mapM_map (onPair key value) (fun p => (lib.emit p.1, lib.emit p.2)) nodes
    _ = ps.mapM fun p => _ := mapM_bind_mapM _ _ ps
    _ = _ := by
        congr 1
        funext p
        exact onPair_bind _ _ _ _ p

theorem bind_map {γ δ : Type} (x : Option γ) (f : γ → Option δ) (g : δ → α) :
    (x.bind fun v => (f v).map g) = (x.bind f).map g := by
  cases x with
  | none => rfl
  | some v => rfl

/-- **A container is built again from its elements on their way through it**, both on its own and
inside of another container, whose node is loaded once more. -/
theorem through_of (hlib : lib.Lawful) {C : Type} (k : Container C α) {f : α → Option α}
    (print : C → Option Str) (read : Str → Option (List α)) (node : Yaml.Node Str → Option (List α))
    (hread : ∀ text, read text = (lib.load text).bind node)
    (hprint : ∀ c, (print c).bind read = (k.elements c).mapM f) (c : C) :
    (print c).bind (fun val => (read val).map k.build) = k.rebuild f c ∧
      inner lib print (fun val => (read val).map k.build) c = k.rebuild f c := by
  have hreload : ∀ text, ((lib.load text).bind fun n => read (lib.emit n)) = read text := by
    intro text
    rw [hread]
    congr 1
    funext n
    rw [hread, hlib.load_emit, Option.bind_some]
  constructor
  · rw [bind_map, hprint, Container.rebuild]
  · rw [inner, bind_map, Option.bind_assoc]
    simp only [hreload]
    rw [hprint, Container.rebuild]

end

/-! ## every type -/

/-- the text of a value, read again -/
def cycle (lib : Library Str) (boost : Boost) (orders : Orders) (t : Ty) (v : t.Value) : Option t.Value :=
  (toString lib boost orders t v).bind (fromString lib boost t)

/-- a value on its way through a container -/
abbrev held (lib : Library Str) (boost : Boost) (orders : Orders) (t : Ty) : t.Value → Option t.Value :=
  inner lib (toString lib boost orders t) (fromString lib boost t)

variable {orders : Orders}

/-- the values of the type `t` are built again from elements of which those with `P` survive -/
structure Through (lib : Library Str) (boost : Boost) (orders : Orders) (t : Ty) {α : Type}
    (k : Container t.Value α) (f : α → Option α) : Prop where
  outer : ∀ v, cycle lib boost orders t v = k.rebuild f v
  inner : ∀ v, held lib boost orders t v = k.rebuild f v

theorem through_sequence (hlib : lib.Lawful) {T t : Ty} (k : Container T.Value t.Value)
    (hprint : ∀ v, toString lib boost orders T v
      = sequenceText lib ((k.elements v).map (toString lib boost orders t)))
    (hparse : ∀ val, fromString lib boost T val
      = (sequenceOf lib (fromString lib boost t) val).map k.build) :
    Through lib boost orders T k (held lib boost orders t) := by
  have h := through_of hlib k (toString lib boost orders T) (sequenceOf lib (fromString lib boost t)) _
    (fun text => rfl) (f := held lib boost orders t) fun v => by rw [hprint, sequenceOf_text hlib]
  constructor
  · intro v
    rw [cycle, funext hparse]
    exact (h v).1
  · intro v
    rw [held, funext hparse]
    exact (h v).2

theorem through_map (hlib : lib.Lawful) {T t u : Ty} (k : Container T.Value (t.Value × u.Value))
    (hprint : ∀ v, toString lib boost orders T v
      = mapText lib ((k.elements v).map fun p =>
          (toString lib boost orders t p.1, toString lib boost orders u p.2)))
    (hparse : ∀ val, fromString lib boost T val
      = (mapOf lib (fromString lib boost t) (fromString lib boost u) val).map k.build) :
    Through lib boost orders T k (onPair (held lib boost orders t) (held lib boost orders u)) := by
  have h := through_of hlib k (toString lib boost orders T)
    (mapOf lib (fromString lib boost t) (fromString lib boost u)) _ (fun text => rfl)
    (f := onPair (held lib boost orders t) (held lib boost orders u)) fun v => by rw [hprint, mapOf_text hlib]
  constructor
  · intro v
    rw [cycle, funext hparse]
    exact (h v).1
  · intro v
    rw [held, funext hparse]
    exact (h v).2

theorem through_vector (hlib : lib.Lawful) (t : Ty) :
    Through lib boost orders (.vector t) (listContainer t.Value) (held lib boost orders t) := by
  exact through_sequence hlib _ (fun xs => rfl) fun val => Option.map_id_apply.symm

theorem through_list (hlib : lib.Lawful) (t : Ty) :
    Through lib boost orders (.list t) (listContainer t.Value) (held lib boost orders t) := by
  exact through_sequence hlib _ (fun xs => rfl) fun val => Option.map_id_apply.symm

theorem through_set (hlib : lib.Lawful) (t : Ty) :
    Through lib boost orders (.set t) (setContainer (orders.set_all t)) (held lib boost orders t) :=
  through_sequence hlib _ (fun s => rfl) fun val => rfl

theorem through_unorderedSet (hlib : lib.Lawful) (t : Ty) :
    Through lib boost orders (.unorderedSet t) (setContainer (orders.unorderedSet_all t))
      (held lib boost orders t) :=
  through_sequence hlib _ (fun s => rfl) fun val => rfl

theorem through_entries (hlib : lib.Lawful) (k v : Ty) :
    Through lib boost orders (.map k v) (mapContainer (orders.map_all k v))
      (onPair (held lib boost orders k) (held lib boost orders v)) :=
  through_map hlib _ (fun m => rfl) fun val => rfl

theorem through_unorderedMap (hlib : lib.Lawful) (k v : Ty) :
    Through lib boost orders (.unorderedMap k v) (mapContainer (orders.unorderedMap_all k v))
      (onPair (held lib boost orders k) (held lib boost orders v)) :=
  through_map hlib _ (fun m => rfl) fun val => rfl

/-- an element settles, and it survives the container if and only if it satisfies `P` -/
structure Settled {α : Type} (f : α → Option α) (P : α → Prop) : Prop where
  settles : Settles f
  iff : ∀ x, f x = some x ↔ P x

theorem Settled.pair {α β : Type} {f : α → Option α} {g : β → Option β} {P : α → Prop}
    {Q : β → Prop} (hf : Settled f P) (hg : Settled g Q) :
    Settled (onPair f g) fun p => P p.1 ∧ Q p.2 := by
  refine ⟨onPair_settles hf.settles hg.settles, fun p => ?_⟩
  rw [onPair_eq_some, hf.iff, hg.iff]

theorem Through.settled {t : Ty} {α : Type} {k : Container t.Value α} {f : α → Option α}
    {P : α → Prop} (h : Through lib boost orders t k f) (hf : Settled f P) :
    Settled (held lib boost orders t) fun v => ∀ x ∈ k.elements v, P x := by
  rw [show held lib boost orders t = k.rebuild f from funext h.inner]
  refine ⟨Container.rebuild_settles hf.settles, fun v => ?_⟩
  rw [Container.rebuild_iff hf.settles]
  exact forall₂_congr fun x _ => hf.iff x

theorem Settled.congr {α : Type} {f : α → Option α} {P Q : α → Prop} (h : Settled f P)
    (hPQ : ∀ x, P x ↔ Q x) : Settled f Q :=
  ⟨h.settles, fun x => (h.iff x).trans (hPQ x)⟩

theorem settled_of_same {α : Type} {f : α → Option α} (h : ∀ x, f x = some x) :
    Settled f fun _ => True := by
  refine ⟨fun x y _ => h y, fun x => ?_⟩
  rw [h, eq_self_iff_true]

theorem fromString_char {val : Str} {c : UInt8} :
    fromString lib boost .char val = some c ↔ val = [c] := by
  constructor
  · intro h
    cases val with
    | nil => cases h
    | cons d val =>
      cases val with
      | nil =>
        cases h
        rfl
      | cons e val => cases h
  · rintro rfl
    rfl

theorem held_text (hlib : lib.Lawful) (s val : Str) :
    (∃ n, lib.load s = some n ∧ lib.emit n = val) → Verbatim lib val := by
  rintro ⟨n, _, rfl⟩
  rw [Verbatim, hlib.load_emit, Option.map_some]

theorem settled_char (hlib : lib.Lawful) :
    Settled (held lib boost orders .char) fun c => Verbatim lib [c] := by
  have hheld : ∀ c d : UInt8, held lib boost orders .char c = some d ↔
      ∃ n, lib.load [c] = some n ∧ lib.emit n = [d] := by
    intro c d
    refine Option.bind_eq_some_iff.trans ?_
    exact exists_congr fun n => and_congr_right fun _ => fromString_char
  have hiff : ∀ c : UInt8, held lib boost orders .char c = some c ↔ Verbatim lib [c] := by
    intro c
    rw [hheld, Verbatim, Option.map_eq_some_iff]
  exact ⟨fun c d h => (hiff d).mpr (held_text hlib [c] [d] ((hheld c d).mp h)), hiff⟩

theorem settled_string (hlib : lib.Lawful) :
    Settled (held lib boost orders .string) (Verbatim lib) := by
  have hheld : ∀ s val : Str, held lib boost orders .string s = some val ↔
      ∃ n, lib.load s = some n ∧ lib.emit n = val := by
    intro s val
    show ((lib.load s).bind fun n => some (lib.emit n)) = some val ↔ _
    rw [Option.bind_eq_some_iff]
    exact exists_congr fun n => and_congr_right fun _ => Option.some_inj
  have hiff : ∀ s : Str, held lib boost orders .string s = some s ↔ Verbatim lib s := by
    intro s
    rw [hheld, Verbatim, Option.map_eq_some_iff]
  exact ⟨fun s val h => (hiff val).mpr (held_text hlib s val ((hheld s val).mp h)), hiff⟩

theorem held_plain {α : Type} (hplain : PlainIntegers lib boost) {print : α → Option Str}
    {parse : Str → Option α} {x : α} {z : Int} (hprint : print x = some (boost.ofInt z))
    (hparse : parse (boost.ofInt z) = some x) : inner lib print parse x = some x := by
  obtain ⟨hload, hemit⟩ := hplain z
  rw [inner, hprint, Option.bind_some, hload, Option.bind_some, hemit, hparse]

/-- **Inside of a container, the values that come out as they went in are those all of whose strings
are written as they are.**  By induction on the type. -/
theorem settled_held (hlib : lib.Lawful) (hplain : PlainIntegers lib boost) (t : Ty) :
    Settled (held lib boost orders t) (Held lib t) := by
  induction t with
  | int signed width =>
    exact settled_of_same fun z => held_plain hplain rfl (boost.toInt_ofInt signed width z)
  | char => exact settled_char hlib
  | bool =>
    refine settled_of_same fun b => held_plain hplain (congrArg some (boost.ofBool_eq b)) ?_
    exact (congrArg boost.toBool (boost.ofBool_eq b)).symm.trans (boost.toBool_ofBool b)
  | string => exact settled_string hlib
  | vector t ih => exact (through_vector hlib t).settled ih
  | list t ih => exact (through_list hlib t).settled ih
  | set t ih =>
    refine ((through_set hlib t).settled ih).congr fun s => ?_
    exact forall_congr' fun x => imp_congr_left ((orders.set_all t).mem s x)
  | unorderedSet t ih =>
    refine ((through_unorderedSet hlib t).settled ih).congr fun s => ?_
    exact forall_congr' fun x => imp_congr_left ((orders.unorderedSet_all t).mem s x)
  | map k v ihk ihv =>
    refine ((through_entries hlib k v).settled (ihk.pair ihv)).congr fun m => ?_
    exact forall_congr' fun p => imp_congr_left ((orders.map_all k v).mem m.1 p)
  | unorderedMap k v ihk ihv =>
    refine ((through_unorderedMap hlib k v).settled (ihk.pair ihv)).congr fun m => ?_
    exact forall_congr' fun p => imp_congr_left ((orders.unorderedMap_all k v).mem m.1 p)

/-- **A value is read back if and only if it survives.** -/
theorem cycle_iff (hlib : lib.Lawful) (hplain : PlainIntegers lib boost) (t : Ty) (v : t.Value) :
    cycle lib boost orders t v = some v ↔ Survives lib t v := by
  have houter : ∀ {T : Ty} {α : Type} {k : Container T.Value α} {f : α → Option α},
      Through lib boost orders T k f → ∀ v, cycle lib boost orders T v = some v ↔ Held lib T v := by
    intro T α k f h v
    rw [h.outer, ← h.inner]
    exact (settled_held hlib hplain T).iff v
  cases t with
  | int signed width => exact iff_of_true (boost.toInt_ofInt signed width v) trivial
  | char => exact iff_of_true rfl trivial
  | bool => exact iff_of_true (boost.toBool_ofBool v) trivial
  | string => exact iff_of_true rfl trivial
  | vector t => exact houter (through_vector hlib t) v
  | list t => exact houter (through_list hlib t) v
  | set t => exact houter (through_set hlib t) v
  | unorderedSet t => exact houter (through_unorderedSet hlib t) v
  | map k u => exact houter (through_entries hlib k u) v
  | unorderedMap k u => exact houter (through_unorderedMap hlib k u) v

end LexicalCast

/-! ## the variable -/

namespace ConfigVar
variable (lib : Library Str) (boost : Boost) (orders : Orders) {t : Ty}

/-- the text, which is empty when an exception was caught -/
def toString (v : ConfigVar t.Value) : Str := (LexicalCast.toString lib boost orders t v.val).getD []

/-- the sections of `setValue`, one after the other -/
def setValue {T : Type} [BEq T] (v : ConfigVar T) (val : T) : ConfigVar T :=
  (v.compare val).elim v fun _ => v.store val

/-- nothing is set when an exception was caught -/
def fromString (v : ConfigVar t.Value) (val : Str) : ConfigVar t.Value :=
  (LexicalCast.fromString lib boost t val).elim v v.setValue

end ConfigVar

namespace LexicalCast
variable {lib : Library Str} {boost : Boost} {orders : Orders}

/-- **The values that are read back from their text are those that survive**, and a variable keeps
such a value when it is set from its own text. -/
theorem lexicalCast_iff (hlib : lib.Lawful) (hplain : PlainIntegers lib boost) (t : Ty) (v : t.Value) :
    (cycle lib boost orders t v = some v ∧
      ∀ cbs, ConfigVar.fromString lib boost ⟨v, cbs⟩ (ConfigVar.toString lib boost orders ⟨v, cbs⟩)
        = (⟨v, cbs⟩ : ConfigVar t.Value)) ↔ Survives lib t v := by
  rw [← cycle_iff hlib hplain]
  refine and_iff_left_of_imp fun h cbs => ?_
  obtain ⟨text, hprint, hparse⟩ := Option.bind_eq_some_iff.mp h
  rw [ConfigVar.toString, hprint, Option.getD_some, ConfigVar.fromString, hparse]
  show ConfigVar.setValue _ v = _
  rw [ConfigVar.setValue, ConfigVar.compare]
  simp

/-! ## decimal digits -/

def ofInt (z : Int) : Str := if z < 0 then 45 :: decimal z.natAbs else decimal z.natAbs

/-- a number of digits that fits the width -/
def digits (width : Width) (s : Str) : Option Nat :=
  if s ≠ [] && s.all (fun c => (digit? 10 c).isSome) && digitsFrom 10 0 s < 2 ^ width.bits then
    some (digitsFrom 10 0 s)
  else none

/-- the number in front of the check of its range; an unsigned one wraps behind a minus -/
def toNumber (signed : Bool) (width : Width) (s : Str) : Option Int :=
  match s with
  | 45 :: r =>
    (digits width r).map fun v : Nat =>
      if signed then -(v : Int) else (2 ^ width.bits - (v : Int)) % 2 ^ width.bits
  | 43 :: r => (digits width r).map fun v : Nat => (v : Int)
  | s => (digits width s).map fun v : Nat => (v : Int)

def toInt (signed : Bool) (width : Width) (s : Str) :
    Option { z : Int // inRange signed width z } :=
  (toNumber signed width s).bind fun z => if h : inRange signed width z then some ⟨z, h⟩ else none

def ofBool (b : Bool) : Str := if b then [49] else [48]

/-- zeros, behind a sign, in front of the last digit; a minus only in front of a zero -/
def toBool (s : Str) : Option Bool :=
  match s.getLast? with
  | none => none
  | some last =>
    let output := last = 49
    if !output && last ≠ 48 then none
    else
      let rest :=
        match s.dropLast with
        | 43 :: r => r
        | 45 :: r => if output then 45 :: r else r
        | r => r
      if rest.all (· = 48) then some output else none

theorem digits_decimal {width : Width} {n : Nat} (h : n < 2 ^ width.bits) :
    digits width (decimal n) = some n := by
  have hall : (decimal n).all (fun c => (digit? 10 c).isSome) = true :=
    List.all_eq_true.mpr fun c hc => decimal_digit hc
  rw [digits, hall, digitsFrom_decimal, decide_eq_true (decimal_ne_nil n), decide_eq_true h]
  rfl

theorem natAbs_lt_of_inRange {signed : Bool} {width : Width} {z : Int}
    (h : inRange signed width z) : z.natAbs < 2 ^ width.bits := by
  have hcast : ((2 ^ width.bits : Nat) : Int) = 2 ^ width.bits := by norm_cast
  cases signed <;> cases width <;> simp only [inRange, Width.bits] at h ⊢ <;> norm_num at h ⊢ <;>
    omega

theorem toNumber_decimal (signed : Bool) (width : Width) (n : Nat) :
    toNumber signed width (decimal n) = (digits width (decimal n)).map fun v : Nat => (v : Int) := by
  have hsign : ∀ c r, digit? 10 c = none → decimal n ≠ c :: r := by
    intro c r hc h
    have hdigit := decimal_digit (n := n) (c := c) (by rw [h]; exact List.mem_cons_self)
    rw [hc] at hdigit
    cases hdigit
  rw [toNumber]
  · intro r
    exact hsign 45 r (by decide)
  · intro r
    exact hsign 43 r (by decide)

/-- **A number is read back from its digits.** -/
theorem toInt_ofInt {signed : Bool} {width : Width} (z : { z : Int // inRange signed width z }) :
    toInt signed width (ofInt z.1) = some z := by
  obtain ⟨z, hz⟩ := z
  have hlt := natAbs_lt_of_inRange hz
  have hnumber : toNumber signed width (ofInt z) = some z := by
    rw [ofInt]
    split
    · rename_i hneg
      cases signed with
      | true =>
        rw [toNumber, digits_decimal hlt, Option.map_some, if_pos rfl]
        congr 1
        omega
      | false => exact absurd hz.1 (Int.not_le.mpr hneg)
    · rename_i hpos
      rw [toNumber_decimal, digits_decimal hlt, Option.map_some]
      congr 1
      omega
  rw [toInt, hnumber, Option.bind_some, dif_pos hz]

theorem toBool_ofBool (b : Bool) : toBool (ofBool b) = some b := by
  cases b <;> rfl

def decimals : Boost :=
  ⟨ofInt, toInt, ofBool, toBool, fun _ _ z => toInt_ofInt z, toBool_ofBool, fun b => by
    cases b <;> rfl⟩

theorem digit_plain {c : UInt8} (h : (digit? 10 c).isSome = true) : isDigit c = true := by
  revert h
  revert c
  decide +kernel

theorem plainIntegers_blockStyle : PlainIntegers blockStyle decimals := by
  have hplain : ∀ z, isPlain (ofInt z) = true := by
    intro z
    have hdigits := isPlain_digits (decimal_ne_nil z.natAbs) fun c hc => digit_plain (decimal_digit hc)
    rw [ofInt]
    split
    · exact hdigits.2
    · exact hdigits.1
  exact fun z => ⟨load_plain (hplain z), emit_plain (hplain z)⟩

theorem enumerates_toList (α : Type) : Enumerates (Finset.toList (α := α)) :=
  ⟨Finset.nodup_toList, fun s x => Finset.mem_toList⟩

theorem lexicalCast_iff_abc :
    cycle blockStyle decimals ⟨_, _, _, _, fun t => enumerates_toList _, fun t => enumerates_toList _,
      fun k v => enumerates_toList _, fun k v => enumerates_toList _⟩ (.vector .string) [asc "abc"]
      = some [asc "abc"] := by
  refine ((lexicalCast_iff blockStyle_lawful plainIntegers_blockStyle (.vector .string)
    [asc "abc"]).mpr ?_).1
  intro s hs
  obtain rfl := List.mem_singleton.mp hs
  show (load (asc "abc")).map emit = some (asc "abc")
  decide +kernel

/-- a `vector` of the empty string is read back as that of the string `~` -/
theorem lexicalCast_empty : ¬ ∀ (lib : Library Str) (boost : Boost) (orders : Orders),
    lib.Lawful → PlainIntegers lib boost → ∀ (t : Ty) (v : t.Value), cycle lib boost orders t v = some v := by
  intro h
  have hsame := h blockStyle decimals ⟨_, _, _, _, fun t => enumerates_toList _,
    fun t => enumerates_toList _, fun k v => enumerates_toList _, fun k v => enumerates_toList _⟩
    blockStyle_lawful plainIntegers_blockStyle (.vector .string) [[]]
  have htilde : (sequenceText blockStyle [some []]).bind (sequenceOf blockStyle some)
      = some [[126]] := by
    decide +kernel
  have heq : some [[126]] = some [([] : Str)] := htilde.symm.trans hsame
  cases heq

end LexicalCast

end Config
end KitServer
