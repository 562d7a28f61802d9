import Pipework.Host
import Pipework.Proofs.Config.Variable
import Pipework.Proofs.Engine.Registers

set_option autoImplicit false

/-!
# The property bag of a host

A host begins with the bag of a new builder, in which it stores what its configuration says. The
properties of the pipeline have names of the user's choice, and their keys stand in one bag with the
keys that the builder itself looks at. The prefix of their keys keeps them apart from those and from
one another, so that nothing is lost and the properties can be read back.

## Main definitions

* `Host.reservedKeys` — the keys that do not belong to properties of the pipeline.
* `Host.recalled` — the properties of the pipeline, as a bag tells them.

## Main results

* `Host.name?_eq_some_iff` — the name in a key can be read back.
* `Host.entries_seededBag` — the bag of a host, pair by pair.
* `Host.bootstrap_seeds_bag` — a configuration is in the bag without loss or collision.
-/

namespace Pipework

/-! ## Names that a configuration may use -/

namespace Config

/-- A name is accepted if it is not empty and has neither points nor blanks. -/
lemma isPropertyName_iff {name : String} : isPropertyName name = true ↔
    name ≠ "" ∧ ∀ ch ∈ name.toList, ch ≠ '.' ∧ Text.isBlank ch = false := by
  simp only [isPropertyName, Bool.and_eq_true, Bool.not_eq_true', List.all_eq_true,
    decide_eq_true_eq, String.isEmpty_eq_false_iff, and_comm]

variable {c : Config}

/-- The check on properties passes exactly if all their names are well formed. -/
lemma checkProperties_eq_ok_iff : c.checkProperties = .ok () ↔
    ∀ name ∈ c.pipeline.properties.keys, isPropertyName name = true := by
  unfold checkProperties
  split
  · next name hname =>
    have hbad : ¬isPropertyName name = true := by simpa using List.find?_some hname
    exact iff_of_false nofun fun h => hbad (h name (List.mem_of_find?_eq_some hname))
  · next hnone => simpa using hnone

/-- A valid configuration passes the check on properties. -/
lemma checkProperties_of_validate (h : c.validate = .ok ()) : c.checkProperties = .ok () := by
  obtain ⟨_, -, h⟩ := Schema.exists_of_bind h
  obtain ⟨_, -, h⟩ := Schema.exists_of_bind h
  exact h

end Config

namespace Loader

variable {l : Loader} {c : Config}

/-- A configuration that is given out has been checked. -/
lemma validate_of_finish (h : l.finish = .ok c) : c.validate = .ok () := by
  obtain ⟨c', -, h⟩ := Schema.exists_of_bind h
  obtain ⟨⟨⟩, hvalid, h⟩ := Schema.exists_of_bind h
  cases h
  exact hvalid

/-- A configuration that has been loaded and checked is valid. -/
lemma validate_of_load {layers : List Source} (h : l.load layers true = .ok c) :
    c.validate = .ok () := by
  obtain ⟨l', -, h⟩ := Schema.exists_of_bind h
  rw [if_pos rfl] at h
  exact validate_of_finish (Config.ok_of_mapError h)

end Loader

namespace Host

/-! ## Keys -/

/-- The keys that do not belong to properties of the pipeline: those at which a builder looks, and
those at which a host says who it is. -/
def reservedKeys : List String := [addConversionKey, defaultAppKey, appNameKey, environmentKey]

/-- The name of the property of the pipeline that is stored under a key. -/
def name? (key : String) : Option String :=
  (Override.stripStart? (propertyKey "").toList key.toList).map String.ofList

/-- A key with the prefix belongs to one name, whatever that looks like. -/
lemma name?_eq_some_iff {key name : String} : name? key = some name ↔ key = propertyKey name := by
  have happend : (propertyKey name).toList = (propertyKey "").toList ++ name.toList := by
    change ("host.Properties." ++ name).toList = ("host.Properties." ++ "").toList ++ name.toList
    simp
  simp only [name?, Option.map_eq_some_iff, Override.stripStart?_eq_some_iff]
  constructor
  · rintro ⟨rest, hkey, rfl⟩
    exact String.toList_injective (by rw [hkey, happend, String.toList_ofList])
  · rintro rfl
    exact ⟨name.toList, happend, String.ofList_toList⟩

/-- The name of a property is read back from its key. -/
@[simp] lemma name?_propertyKey (name : String) : name? (propertyKey name) = some name :=
  name?_eq_some_iff.2 rfl

/-- Two properties do not have the same key. -/
lemma propertyKey_injective : Function.Injective propertyKey := by
  intro a b h
  have hname : some a = some b := by rw [← name?_propertyKey a, h, name?_propertyKey]
  exact Option.some.inj hname

/-- No reserved key has the prefix. -/
lemma name?_of_mem_reservedKeys {key : String} (h : key ∈ reservedKeys) : name? key = none := by
  revert key
  decide +kernel

/-- No property has one of the reserved keys. -/
lemma propertyKey_notMem_reservedKeys (name : String) : propertyKey name ∉ reservedKeys :=
  fun h => nomatch (name?_propertyKey name).symm.trans (name?_of_mem_reservedKeys h)

/-- The keys for distinct names are distinct, also from those that are reserved. -/
lemma nodup_keys {names : List String} (h : names.Nodup) :
    (reservedKeys ++ names.map propertyKey).Nodup := by
  refine List.nodup_append.2 ⟨by decide +kernel, h.map propertyKey_injective, ?_⟩
  rintro key hkey _ hname rfl
  obtain ⟨name, -, rfl⟩ := List.mem_map.1 hname
  exact propertyKey_notMem_reservedKeys name hkey

/-! ## Texts in a bag -/

/-- A text as it is stored. -/
def stored (text : String) : Value := .data (.datum (.string text))

/-- The text that is stored, if it is one. -/
def text? (v : Value) : Option String :=
  match v.get? (.atom .string) with
  | some (.datum (.string text)) => some text
  | _ => none

/-- A stored text is read back. -/
@[simp] lemma text?_stored (text : String) : text? (stored text) = some text := rfl

/-- The properties of the pipeline, as a bag tells them. -/
def recalled (bag : Bag) : List (String × String) :=
  bag.entries.filterMap fun e =>
    (name? e.1).bind fun name => (text? e.2).map fun text => (name, text)

/-! ## The bag of a host -/

/-- Storing properties changes one bag and nothing else. -/
lemma exec_storeAll (p : BagId) (l : List (String × String)) (s : State) :
    (storeAll p l).exec s =
      ((), s.updateBag p fun m => m.insertAll (l.map fun e => (e.1, stored e.2))) := by
  induction l generalizing s with
  | nil =>
    have hid : s.updateBag p id = s := by simp [State.updateBag]
    exact congrArg (Prod.mk ()) hid.symm
  | cons e l ih =>
    rw [storeAll, Engine.exec_bind]
    refine (ih _).trans ?_
    rw [Engine.setProperty, Engine.exec_modifyGet, State.updateBag_updateBag]
    rfl

/-- The bag of a host whose builder has the registry `r`. -/
def seededBag (r : RegistryId) (c : Config) : Bag :=
  (Builder.seededBag r).insertAll ((properties c).map fun e => (e.1, stored e.2))

/-- A host makes one bag and one registry more, and tells what it has made. -/
lemma exec_bootstrap (c : Config) (s : State) :
    (bootstrap c).exec s = ((Builder.make.exec s).1,
      { s with
        bags := s.bags ++ [seededBag s.registries.length c]
        registries := s.registries ++ [.builtin]
        events := (Builder.make.exec s).2.events ++
          [.bootstrapped c.host.appName c.host.environment c.pipeline.properties.size] }) := by
  have hlast (a : Bag) (u : Bag → Bag) :
      (s.bags ++ [a]).modify s.bags.length u = s.bags ++ [u a] := by
    simp [List.modify_eq_set_getElem?]
  simp only [bootstrap, Builder.make, Engine.exec_bind, Engine.exec_report, Engine.exec_modifyGet,
    Engine.exec_pure, exec_storeAll, State.updateBag, hlast]
  rfl

/-- The bootstrap gives the builder that it has made first. -/
lemma builder_of_bootstrap (c : Config) (s : State) :
    ((bootstrap c).exec s).1 = (Builder.make.exec s).1 := by
  rw [exec_bootstrap]

/-- The builder of a host has a bag of its own. -/
lemma bag_of_bootstrap (c : Config) (s : State) :
    ((bootstrap c).exec s).2.bag ((bootstrap c).exec s).1.properties =
      seededBag s.registries.length c := by
  rw [exec_bootstrap]
  simp [State.bag, Builder.make]

/-- The builder of a host has the registry of a new builder. -/
lemma registry_of_bootstrap (c : Config) (s : State) :
    ((bootstrap c).exec s).2.registry ((bootstrap c).exec s).1.conversions = .builtin := by
  rw [exec_bootstrap]
  simp [State.registry, Builder.make]

/-! ## What the bag holds -/

/-- The pairs of the bag of a new builder. -/
lemma entries_builder_seededBag (r : RegistryId) : (Builder.seededBag r).entries =
    [(addConversionKey, .callable (.register r)), (defaultAppKey, notFoundValue)] := rfl

/-- The pairs with reserved keys: those of a new builder, and who the host is. -/
def reservedPairs (r : RegistryId) (c : Config) : List (String × Value) :=
  [(addConversionKey, .callable (.register r)), (defaultAppKey, notFoundValue),
    (appNameKey, stored c.host.appName), (environmentKey, stored c.host.environment)]

/-- The reserved pairs have the reserved keys, in order. -/
lemma map_fst_reservedPairs (r : RegistryId) (c : Config) :
    (reservedPairs r c).map Prod.fst = reservedKeys := rfl

/-- Behind the pairs with reserved keys there are the properties of the pipeline, in their order. -/
lemma entries_seededBag (r : RegistryId) (c : Config) : (seededBag r c).entries =
    reservedPairs r c ++
      c.pipeline.properties.entries.map fun e => (propertyKey e.1, stored e.2) := by
  have hkeys : (Builder.seededBag r).keys ++
      ((properties c).map fun e => (e.1, stored e.2)).map Prod.fst =
        reservedKeys ++ c.pipeline.properties.keys.map propertyKey := by
    simp [OrderedMap.keys, entries_builder_seededBag, properties, reservedKeys]
  -- no key comes twice, so that each pair goes to the end and none replaces another one
  have hnodup := nodup_keys c.pipeline.properties.nodup
  rw [seededBag, OrderedMap.entries_insertAll_of_nodup (hkeys ▸ hnodup), entries_builder_seededBag]
  simp [properties, reservedPairs]

/-- The keys of the bag are the reserved ones, and then those of the properties. -/
lemma keys_seededBag (r : RegistryId) (c : Config) :
    (seededBag r c).keys = reservedKeys ++ c.pipeline.properties.keys.map propertyKey := by
  rw [OrderedMap.keys, entries_seededBag, List.map_append, map_fst_reservedPairs, OrderedMap.keys,
    List.map_map, List.map_map]
  rfl

/-- A name that looks like a reserved key has a key of its own. -/
example : (seededBag 0 { Config.standard with
    pipeline := ⟨.ofList [("host.AppName", "a"), ("", "b")]⟩ }).keys =
      [addConversionKey, defaultAppKey, appNameKey, environmentKey, "host.Properties.host.AppName",
        "host.Properties."] := by decide +kernel

/-- Every reserved key has its value. -/
lemma get?_seededBag_of_mem {r : RegistryId} {c : Config} {key : String} {v : Value}
    (h : (key, v) ∈ reservedPairs r c) : (seededBag r c).get? key = some v := by
  have hmem : (key, v) ∈ (seededBag r c).entries :=
    entries_seededBag r c ▸ List.mem_append_left _ h
  exact OrderedMap.get?_of_mem hmem

/-- Under the key of a name there is the property of that name, and nothing if there is none. -/
lemma get?_seededBag_propertyKey (r : RegistryId) (c : Config) (name : String) :
    (seededBag r c).get? (propertyKey name) = (c.pipeline.properties.get? name).map stored := by
  refine Option.ext fun v => ?_
  rw [Option.map_eq_some_iff]
  constructor
  · intro h
    have hmem := OrderedMap.mem_of_get? h
    rw [entries_seededBag] at hmem
    rcases List.mem_append.1 hmem with hreserved | hproperty
    · have hkey := map_fst_reservedPairs r c ▸ List.mem_map_of_mem (f := Prod.fst) hreserved
      exact absurd hkey (propertyKey_notMem_reservedKeys name)
    · obtain ⟨e, he, hpair⟩ := List.mem_map.1 hproperty
      obtain ⟨hkey, rfl⟩ := Prod.mk.inj hpair
      obtain rfl := propertyKey_injective hkey
      exact ⟨e.2, OrderedMap.get?_of_mem he, rfl⟩
  · rintro ⟨text, htext, rfl⟩
    have hmem : (propertyKey name, stored text) ∈ (seededBag r c).entries := by
      rw [entries_seededBag]
      exact List.mem_append_right _ (List.mem_map.2 ⟨_, OrderedMap.mem_of_get? htext, rfl⟩)
    exact OrderedMap.get?_of_mem hmem

/-- The properties of the pipeline can be read back from the bag alone. -/
lemma recalled_seededBag (r : RegistryId) (c : Config) :
    recalled (seededBag r c) = c.pipeline.properties.entries := by
  rw [recalled, entries_seededBag, List.filterMap_append, List.filterMap_map]
  have hreserved (e : String × Value) (he : e ∈ reservedPairs r c) : name? e.1 = none :=
    name?_of_mem_reservedKeys (map_fst_reservedPairs r c ▸ List.mem_map_of_mem he)
  rw [List.filterMap_eq_nil_iff.2 fun e he => by rw [hreserved e he]; rfl, List.nil_append]
  refine Eq.trans (List.filterMap_congr fun e _ => ?_) (List.filterMap_some)
  simp

/-- **What a host finds in its bag.** Whatever the configuration says and whatever has happened
before, the bag of a host has the reserved keys and then one key for each property of the pipeline,
in the order of the configuration, and no two of them are equal. The name of the app and the
environment are the texts of the configuration, and under the key of a name there is the property of
that name, or nothing if there is none; so all properties can be read back from the bag alone.
Otherwise the host is a new builder: it has no stages, its registry holds the two built-in
conversions, and at the two keys of builders its bag has what that of a new builder has. The
properties of a configuration that has been loaded have names without points and blanks, and none of
them is empty.

**Proof sketch.** The keys of properties share a prefix that no reserved key has and that can be
taken off again (`name?_eq_some_iff`), so that all keys are distinct (`nodup_keys`) and every pair
is added behind the others (`OrderedMap.entries_insertAll_of_nodup`). -/
theorem bootstrap_seeds_bag (c : Config) (s : State) :
    let made := (bootstrap c).exec s
    let fresh := Builder.make.exec s
    let bag := made.2.bag made.1.properties
    let registry := made.2.registry made.1.conversions
    let properties := c.pipeline.properties
    (bag.keys = reservedKeys ++ properties.keys.map propertyKey ∧
      (reservedKeys ++ properties.keys.map propertyKey).Nodup) ∧
    (bag.get? appNameKey = some (stored c.host.appName) ∧
      bag.get? environmentKey = some (stored c.host.environment) ∧
      (∀ name, bag.get? (propertyKey name) = (properties.get? name).map stored) ∧
      recalled bag = properties.entries) ∧
    (made.1 = fresh.1 ∧ made.1.stages = [] ∧
      registry.edges = [Conversion.toObject, Conversion.toFunc] ∧
      bag.get? addConversionKey = some (.callable (.register made.1.conversions)) ∧
      bag.get? defaultAppKey = some notFoundValue ∧
      ∀ key ∈ [addConversionKey, defaultAppKey],
        bag.get? key = (fresh.2.bag fresh.1.properties).get? key) ∧
    ∀ (l : Loader) (layers : List Source), l.load layers true = .ok c →
      ∀ name ∈ properties.keys,
        name ≠ "" ∧ ∀ ch ∈ name.toList, ch ≠ '.' ∧ Text.isBlank ch = false := by
  intro made fresh bag registry properties
  have hfresh : fresh.2.bag fresh.1.properties = Builder.seededBag s.registries.length := by
    simp [fresh, State.bag, Builder.make]
  have hbag : bag = seededBag s.registries.length c := bag_of_bootstrap c s
  have hregistry : registry = .builtin := registry_of_bootstrap c s
  have hbuilder : made.1 = fresh.1 := builder_of_bootstrap c s
  have hreserved {key : String} {v : Value}
      (h : (key, v) ∈ reservedPairs s.registries.length c) : bag.get? key = some v := by
    rw [hbag]
    exact get?_seededBag_of_mem h
  have hadd : bag.get? addConversionKey = some (.callable (.register s.registries.length)) :=
    hreserved (by simp [reservedPairs])
  have hdefault : bag.get? defaultAppKey = some notFoundValue := hreserved (by simp [reservedPairs])
  refine ⟨⟨?_, nodup_keys properties.nodup⟩, ⟨?_, ?_, ?_, ?_⟩, ⟨hbuilder, ?_, ?_, ?_, hdefault, ?_⟩,
    fun l layers hload name hname => ?_⟩
  · rw [hbag, keys_seededBag]
  · exact hreserved (by simp [reservedPairs])
  · exact hreserved (by simp [reservedPairs])
  · rw [hbag]
    exact get?_seededBag_propertyKey _ c
  · rw [hbag, recalled_seededBag]
  · rw [hbuilder]
    rfl
  · rw [hregistry]
    rfl
  · rw [hadd, hbuilder]
    rfl
  · rw [hfresh]
    refine List.forall_mem_cons.2 ⟨hadd.trans ?_, List.forall_mem_singleton.2 (hdefault.trans ?_)⟩
    · rfl
    · rfl
  · have hvalid := Loader.validate_of_load hload
    have hnames := Config.checkProperties_eq_ok_iff.1 (Config.checkProperties_of_validate hvalid)
    exact Config.isPropertyName_iff.1 (hnames name hname)

/-- A configuration is loaded whose properties have the names of the host's own settings, and both
are in the bag. -/
theorem bootstrap_seeds_bag_own_names :
    let content := "[pipeline.properties]\nEnvironment = \"e\"\nAppName = \"a\"\n"
    let layers := [Source.production, Source.text content "toml", Source.overrides "svc"]
    ∃ c, (Loader.new .empty .empty).load layers true = .ok c ∧
      let made := (bootstrap c).exec .initial
      let bag := made.2.bag made.1.properties
      bag.keys = reservedKeys ++ [propertyKey "Environment", propertyKey "AppName"] ∧
      bag.get? appNameKey = some (stored "meridian-app") ∧
      recalled bag = [("Environment", "e"), ("AppName", "a")] ∧
      ∀ name ∈ ["Environment", "AppName"],
        name ≠ "" ∧ ∀ ch ∈ name.toList, ch ≠ '.' ∧ Text.isBlank ch = false := by
  intro content layers
  have hsettings : ((Loader.new .empty .empty).load layers true).toOption.map
      (fun c => (c.host.appName, c.pipeline.properties.entries)) =
        some ("meridian-app", [("Environment", "e"), ("AppName", "a")]) := by
    decide +kernel
  cases hload : (Loader.new .empty .empty).load layers true with
  | error e =>
    rw [hload] at hsettings
    cases hsettings
  | ok c =>
    rw [hload] at hsettings
    obtain ⟨happName, hentries⟩ := Prod.mk.inj (Option.some.inj hsettings)
    obtain ⟨⟨hkeys, -⟩, ⟨hname, -, -, hrecalled⟩, -, hnames⟩ := bootstrap_seeds_bag c .initial
    have hproperties : c.pipeline.properties.keys = ["Environment", "AppName"] := by
      rw [OrderedMap.keys, hentries]
      rfl
    rw [hproperties] at hkeys
    rw [happName] at hname
    refine ⟨c, rfl, hkeys, hname, hrecalled.trans hentries, ?_⟩
    rw [← hproperties]
    exact hnames _ layers hload

end Host

end Pipework
