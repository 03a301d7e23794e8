import KitServer.Config.LexicalCast

/-!
# `HttpServerConf`: a server entry, and its text

* `toHttpServerConf`    `LexicalCast<std::string, HttpServerConf>`;
* `ofHttpServerConf`    `LexicalCast<HttpServerConf, std::string>`;
* `roundTrip_eq`        what is read back from the text of an entry;
* `httpServerConf_iff`  the entries that are read back unchanged, and the documents of which every
                        field is taken over.
-/

set_option linter.unusedVariables false

namespace KitServer
namespace Config
open Http Yaml

structure HttpServerConf where
  address : List Str := []
  keepalive : Int32 := 0
  recv_timeout : Int32 := 2 * 60 * 1000
  name : Str := asc "http_server"
deriving DecidableEq

/-- a library that reads and writes YAML, with the text of an `int` and with `as<int>`, none where
that gives its fallback -/
structure ConfLibrary where
  yaml : Library Str
  ofInt : Int32 → Str
  asInt : Yaml.Node Str → Option Int32

/-- the numbers are read as they are written -/
structure ConfLibrary.Lawful (lib : ConfLibrary) : Prop where
  yaml : lib.yaml.Lawful
  asInt_ofInt : ∀ z : Int32, lib.asInt (.scalar (lib.ofInt z)) = some z

namespace LexicalCast
section
variable (lib : ConfLibrary)

/-- `node[key].as<std::string>(fallback)` -/
def stringAt (node : Yaml.Node Str) (key fallback : Str) : Option Str :=
  (node.get key).map fun n => (n.bind lib.yaml.asString).getD fallback

/-- `node[key].as<int>(fallback)` -/
def intAt (node : Yaml.Node Str) (key : Str) (fallback : Int32) : Option Int32 :=
  (node.get key).map fun n => (n.bind lib.asInt).getD fallback

/-- the loop over `node["address"]`, behind the test that it is defined -/
def addressAt (node : Yaml.Node Str) (address : List Str) : Option (List Str) :=
  (node.get (asc "address")).map fun n => address ++ n.elim [] lib.yaml.items

def toHttpServerConf (val : Str) : Option HttpServerConf := do
  let conf : HttpServerConf := {}
  let node ← lib.yaml.load val
  let name ← stringAt lib node (asc "name") conf.name
  let keepalive ← intAt lib node (asc "keppalive") conf.keepalive
  let recv_timeout ← intAt lib node (asc "recv_timeout") conf.recv_timeout
  let address ← addressAt lib node conf.address
  pure { address, keepalive, recv_timeout, name }

def confNode (conf : HttpServerConf) : Yaml.Node Str :=
  Yaml.Node.fields
    ([(asc "name", .scalar conf.name), (asc "keepalive", .scalar (lib.ofInt conf.keepalive)),
      (asc "recv_timeout", .scalar (lib.ofInt conf.recv_timeout))]
      ++ if conf.address.isEmpty then []
        else [(asc "address", .sequence (conf.address.map .scalar))])

def ofHttpServerConf (conf : HttpServerConf) : Str := lib.yaml.emit (confNode lib conf)

end

/-! ## what should come back -/

/-- the addresses are scalars that are written as they are -/
def PlainAddresses (lib : ConfLibrary) (conf : HttpServerConf) : Prop :=
  ∀ a ∈ conf.address, lib.yaml.emit (.scalar a) = a

/-- a field that is written under the key of the printer is the one of the entry -/
structure TakenOver (lib : ConfLibrary) (node : Yaml.Node Str) (conf : HttpServerConf) : Prop where
  name : ∀ n s, node.get (asc "name") = some (some n) → lib.yaml.asString n = some s →
    conf.name = s
  keepalive : ∀ n z, node.get (asc "keepalive") = some (some n) → lib.asInt n = some z →
    conf.keepalive = z
  recv_timeout : ∀ n z, node.get (asc "recv_timeout") = some (some n) → lib.asInt n = some z →
    conf.recv_timeout = z
  address : ∀ n, node.get (asc "address") = some (some n) → conf.address = lib.yaml.items n

variable {lib : ConfLibrary}

/-! ## reading back -/

theorem get_confNode (conf : HttpServerConf) :
    (confNode lib conf).get (asc "name") = some (some (.scalar conf.name)) ∧
      (confNode lib conf).get (asc "keppalive") = some none ∧
      (confNode lib conf).get (asc "recv_timeout")
        = some (some (.scalar (lib.ofInt conf.recv_timeout))) ∧
      (confNode lib conf).get (asc "address") = some (if conf.address.isEmpty then none
        else some (.sequence (conf.address.map .scalar))) := by
  cases hempty : conf.address.isEmpty with
  | true =>
    refine ⟨?_, ?_, ?_, ?_⟩ <;> rw [confNode, hempty, Yaml.Node.get_fields] <;> rfl
  | false =>
    refine ⟨?_, ?_, ?_, ?_⟩ <;> rw [confNode, hempty, Yaml.Node.get_fields] <;> rfl

/-- **What an entry is read back as**: itself, with `keepalive` lost. -/
theorem roundTrip_eq (hlib : lib.Lawful) (conf : HttpServerConf) (hplain : PlainAddresses lib conf) :
    toHttpServerConf lib (ofHttpServerConf lib conf) = some { conf with keepalive := 0 } := by
  obtain ⟨hname, hkeepalive, hrecv, haddress⟩ := get_confNode conf
  have hitems : lib.yaml.items (.sequence (conf.address.map .scalar)) = conf.address := by
    rw [hlib.yaml.items_sequence, List.map_map]
    exact (List.map_congr_left hplain).trans (List.map_id' _)
  have hlist : addressAt lib (confNode lib conf) [] = some conf.address := by
    rw [addressAt, haddress]
    cases hempty : conf.address with
    | nil => rfl
    | cons a rest =>
      rw [hempty] at hitems
      exact congrArg some hitems
  simp [toHttpServerConf, ofHttpServerConf, hlib.yaml.load_emit, stringAt, intAt, hname, hkeepalive,
    hrecv, hlist, hlib.yaml.asString_scalar, hlib.asInt_ofInt]

theorem toHttpServerConf_some {val : Str} {node : Yaml.Node Str} {conf : HttpServerConf}
    (hload : lib.yaml.load val = some node) (h : toHttpServerConf lib val = some conf) :
    stringAt lib node (asc "name") (asc "http_server") = some conf.name ∧
      intAt lib node (asc "keppalive") 0 = some conf.keepalive ∧
      intAt lib node (asc "recv_timeout") (2 * 60 * 1000) = some conf.recv_timeout ∧
      addressAt lib node [] = some conf.address := by
  simp only [toHttpServerConf, hload, Option.bind_eq_bind, Option.bind_some,
    Option.bind_eq_some_iff] at h
  obtain ⟨name, hname, keepalive, hkeepalive, recv, hrecv, address, haddress, hconf⟩ := h
  cases hconf
  exact ⟨hname, hkeepalive, hrecv, haddress⟩

/-- **Only `keepalive` is lost**: it is read under another key than it is written under. -/
theorem httpServerConf_iff (hlib : lib.Lawful) :
    (∀ conf, PlainAddresses lib conf →
      (toHttpServerConf lib (ofHttpServerConf lib conf) = some conf ↔ conf.keepalive = 0)) ∧
    ∀ val node conf, lib.yaml.load val = some node → toHttpServerConf lib val = some conf →
      (TakenOver lib node conf ↔
        ∀ n z, node.get (asc "keepalive") = some (some n) → lib.asInt n = some z →
          intAt lib node (asc "keppalive") 0 = some z) := by
  constructor
  · intro conf hplain
    rw [roundTrip_eq hlib conf hplain, Option.some.injEq]
    constructor
    · intro hsame
      exact (congrArg HttpServerConf.keepalive hsame).symm
    · intro hzero
      rw [← hzero]
  · intro val node conf hload hparse
    obtain ⟨hname, hkeepalive, hrecv, haddress⟩ := toHttpServerConf_some hload hparse
    constructor
    · intro htaken n z hn hz
      rw [hkeepalive, htaken.keepalive n z hn hz]
    · intro hsame
      refine ⟨fun n s hn hs => ?_, fun n z hn hz => ?_, fun n z hn hz => ?_, fun n hn => ?_⟩
      · rw [stringAt, hn, Option.map_some, Option.bind_some, hs] at hname
        exact (Option.some.inj hname).symm
      · rw [hsame n z hn hz] at hkeepalive
        exact (Option.some.inj hkeepalive).symm
      · rw [intAt, hn, Option.map_some, Option.bind_some, hz] at hrecv
        exact (Option.some.inj hrecv).symm
      · rw [addressAt, hn, Option.map_some, List.nil_append] at haddress
        exact (Option.some.inj haddress).symm

/-! ## an entry -/

/-- YAML in block style, with decimal numbers -/
def blockConf : ConfLibrary where
  yaml := blockStyle
  ofInt z := ofInt z.toInt
  asInt
    | .scalar s => (toInt true .w32 s).map fun z => Int32.ofInt z.1
    | _ => none

theorem blockConf_lawful : blockConf.Lawful where
  yaml := blockStyle_lawful
  asInt_ofInt z := by
    have hrange : inRange true .w32 z.toInt := ⟨z.le_toInt, z.toInt_lt⟩
    show (toInt true .w32 (ofInt z.toInt)).map _ = some z
    rw [toInt_ofInt ⟨z.toInt, hrange⟩, Option.map_some, Int32.ofInt_toInt]

def oneServer (keepalive : Int32) : HttpServerConf :=
  { address := [asc "127.0.0.1"], keepalive }

theorem oneServer_plain (keepalive : Int32) : PlainAddresses blockConf (oneServer keepalive) := by
  intro a ha
  rw [List.mem_singleton.mp ha]
  decide +kernel

theorem httpServerConf_iff_one :
    (toHttpServerConf blockConf (ofHttpServerConf blockConf (oneServer 0)) = some (oneServer 0) ↔
      (oneServer 0).keepalive = 0) ∧
    (TakenOver blockConf (confNode blockConf (oneServer 1)) (oneServer 0) ↔
      ∀ n z, (confNode blockConf (oneServer 1)).get (asc "keepalive") = some (some n) →
        blockConf.asInt n = some z →
        intAt blockConf (confNode blockConf (oneServer 1)) (asc "keppalive") 0 = some z) :=
  ⟨(httpServerConf_iff blockConf_lawful).1 _ (oneServer_plain 0),
    (httpServerConf_iff blockConf_lawful).2 (ofHttpServerConf blockConf (oneServer 1)) _ _
      (blockConf_lawful.yaml.load_emit _) (roundTrip_eq blockConf_lawful _ (oneServer_plain 1))⟩

/-- **`keepalive` comes back as 0.** -/
theorem keepalive_lost : ¬ ∀ lib : ConfLibrary, lib.Lawful → ∀ conf, PlainAddresses lib conf →
    toHttpServerConf lib (ofHttpServerConf lib conf) = some conf := by
  intro h
  have hone := h blockConf blockConf_lawful (oneServer 1) (oneServer_plain 1)
  rw [roundTrip_eq blockConf_lawful _ (oneServer_plain 1)] at hone
  have hzero := congrArg HttpServerConf.keepalive (Option.some.inj hone)
  revert hzero
  decide

end LexicalCast
end Config
end KitServer
