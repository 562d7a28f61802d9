import Pipework.Proofs.Config.Layers

set_option autoImplicit false

/-!
# What one variable does

The name of a variable is a prefix and a path of names, joined by pairs of underscores. A path can
be read back from the name if it was not joined at a run of underscores that can be cut at an
earlier place. A variable then does one of three things: it replaces the setting at its path, it
stores a property, or it does nothing.

## Main definitions

* `Override.Whole`, `Override.Cuttable` — names without a pair of underscores, and paths that can be
  read back.
* `Override.varName` — the name of the variable of a path.
* `Setting.keyPath`, `Setting.read?`, `Setting.expectation` — the path of a setting, what a text
  stands for there, and what is said of a text that stands for nothing.

## Main results

* `Override.path?_eq_some_iff` — the path in the name of a variable.
* `Override.exists_apply`, `Override.apply_error`, `Override.apply_property`,
  `Override.apply_other` — what a variable does.
-/

namespace Pipework

namespace Override

/-! ## Cutting names at pairs of underscores -/

/-- No two underscores stand next to each other. -/
def Whole (cs : List Char) : Prop := ¬['_', '_'] <:+: cs

instance (cs : List Char) : Decidable (Whole cs) := inferInstanceAs (Decidable (¬_))

/-- Words that are joined by pairs of underscores can be read back: no word has a pair, and only the
last one may end with an underscore. -/
def Cuttable : List (List Char) → Prop
  | [] => False
  | [w] => Whole w
  | w :: ws => Whole (w ++ ['_']) ∧ Cuttable ws

instance decidableCuttable : (ws : List (List Char)) → Decidable (Cuttable ws)
  | [] => .isFalse id
  | [w] => inferInstanceAs (Decidable (Whole w))
  | w :: w' :: ws =>
    have := decidableCuttable (w' :: ws)
    inferInstanceAs (Decidable (Whole (w ++ ['_']) ∧ Cuttable (w' :: ws)))

/-- A text has no pair of underscores if it does not begin with one and the rest has none. -/
lemma whole_cons {c : Char} {cs : List Char} :
    Whole (c :: cs) ↔ ¬(c = '_' ∧ cs.head? = some '_') ∧ Whole cs := by
  have hprefix : ['_', '_'] <+: c :: cs ↔ c = '_' ∧ cs.head? = some '_' := by
    cases cs with
    | nil => simp [List.cons_prefix_cons]
    | cons d cs => simp [List.cons_prefix_cons, eq_comm]
  rw [Whole, List.infix_cons_iff, hprefix, not_or, Whole]

/-- A word before others may not end with an underscore. -/
lemma cuttable_cons {w w' : List Char} {ws : List (List Char)} :
    Cuttable (w :: w' :: ws) ↔ Whole (w ++ ['_']) ∧ Cuttable (w' :: ws) := Iff.rfl

/-- How a word goes on when an underscore follows it. -/
lemma head?_append_underscore (w cs : List Char) :
    (w ++ '_' :: cs).head? = (w ++ ['_']).head? := by
  cases w <;> rfl

/-- A character that begins no pair of underscores belongs to the first word. -/
lemma splitPairs_cons {c : Char} {cs w : List Char} {ws : List (List Char)}
    (hc : ¬(c = '_' ∧ cs.head? = some '_')) (h : splitPairs cs = w :: ws) :
    splitPairs (c :: cs) = (c :: w) :: ws := by
  rw [splitPairs.eq_3 _ _ fun rest hcu hcs => hc ⟨hcu, by rw [hcs]; rfl⟩, h]

/-- A text without a pair of underscores is not cut. -/
lemma splitPairs_of_whole {cs : List Char} (h : Whole cs) : splitPairs cs = [cs] := by
  induction cs with
  | nil => rfl
  | cons c cs ih =>
    obtain ⟨hc, hcs⟩ := whole_cons.1 h
    exact splitPairs_cons hc (ih hcs)

/-- A text is cut at its first pair of underscores. -/
lemma splitPairs_append {w : List Char} (h : Whole (w ++ ['_'])) (rest : List Char) :
    splitPairs (w ++ '_' :: '_' :: rest) = w :: splitPairs rest := by
  induction w with
  | nil => rfl
  | cons c w ih =>
    rw [List.cons_append, whole_cons] at h
    obtain ⟨hc, hw⟩ := h
    rw [← head?_append_underscore w ('_' :: rest)] at hc
    exact splitPairs_cons hc (ih hw)

/-- **Cutting and joining.** A text is cut into the words that it is joined from, provided that they
can be read back.

**Proof sketch.** The text is cut at its first pair of underscores, and what stands before it has
none and does not end with one either; this is shown along the recursion. Conversely words are cut
off one after the other (`splitPairs_append`). -/
lemma splitPairs_eq_iff {cs : List Char} {ws : List (List Char)} :
    splitPairs cs = ws ↔ cs = ['_', '_'].intercalate ws ∧ Cuttable ws := by
  constructor
  · rintro rfl
    fun_induction splitPairs cs with
    | case1 => exact ⟨rfl, by decide⟩
    | case2 rest ih =>
      obtain ⟨hjoin, hcut⟩ := ih
      cases hws : splitPairs rest with
      | nil => rw [hws] at hcut; exact hcut.elim
      | cons w ws =>
        rw [hws] at hjoin hcut
        rw [List.intercalate_cons_cons, ← hjoin]
        exact ⟨rfl, by decide, hcut⟩
    | case3 c rest hne hws ih =>
      rw [hws] at ih
      exact ih.2.elim
    | case4 c rest hne w ws hws ih =>
      rw [hws] at ih
      obtain ⟨hjoin, hcut⟩ := ih
      have hc : ¬(c = '_' ∧ rest.head? = some '_') := by
        rintro ⟨rfl, hhead⟩
        obtain ⟨tail, rfl⟩ := List.head?_eq_some_iff.1 hhead
        exact hne tail rfl rfl
      cases ws with
      | nil =>
        rw [List.intercalate_singleton] at hjoin ⊢
        exact ⟨by rw [hjoin], whole_cons.2 ⟨by rwa [← hjoin], hcut⟩⟩
      | cons w' ws =>
        obtain ⟨hw, hcut⟩ := cuttable_cons.1 hcut
        rw [List.intercalate_cons_cons] at hjoin ⊢
        rw [hjoin, List.append_assoc, List.cons_append, head?_append_underscore] at hc
        refine ⟨by rw [hjoin]; rfl, ?_, hcut⟩
        rw [List.cons_append]
        exact whole_cons.2 ⟨hc, hw⟩
  · rintro ⟨rfl, hcut⟩
    induction ws with
    | nil => exact hcut.elim
    | cons w ws ih =>
      cases ws with
      | nil =>
        rw [List.intercalate_singleton]
        exact splitPairs_of_whole hcut
      | cons w' ws =>
        obtain ⟨hw, hcut⟩ := cuttable_cons.1 hcut
        rw [List.intercalate_cons_cons, List.append_assoc]
        exact (splitPairs_append hw _).trans (congrArg _ (ih hcut))

/-! ## Names of variables -/

/-- Stripping a start leaves what follows it. -/
lemma stripStart?_eq_some_iff {p cs rest : List Char} :
    stripStart? p cs = some rest ↔ cs = p ++ rest := by
  induction p generalizing cs with
  | nil => simp [stripStart?, eq_comm]
  | cons a p ih =>
    cases cs with
    | nil => simp [stripStart?]
    | cons c cs =>
      by_cases hac : a = c
      · simp [stripStart?, hac, ih]
      · simp [stripStart?, hac, Ne.symm hac]

/-- The name of the variable of a path: the prefix and the names of the path, joined by pairs of
underscores. -/
def varName (start : String) (path : List String) : String := "__".intercalate (start :: path)

/-- The name of a variable is its start and its path, joined by pairs of underscores. -/
lemma toList_varName (start : String) {path : List String} (h : path ≠ []) :
    (varName start path).toList =
      start.toList ++ ['_', '_'] ++ ['_', '_'].intercalate (path.map String.toList) := by
  obtain ⟨w, ws, rfl⟩ := List.exists_cons_of_ne_nil h
  rw [varName, String.toList_intercalate, List.map_cons, List.map_cons,
    List.intercalate_cons_cons]
  simp

/-- The path in the name of a variable. -/
lemma path?_eq_some_iff {start name : String} {path : List String} :
    path? start name = some path ↔
      name = varName start path ∧ Cuttable (path.map String.toList) := by
  have hpath : path? start name = some path ↔ ∃ rest,
      name.toList = start.toList ++ (['_', '_'] ++ rest) ∧
        (splitPairs rest).map String.ofList = path := by
    simp [path?, Option.bind_eq_some_iff, stripStart?_eq_some_iff]
  rw [hpath]
  constructor
  · rintro ⟨rest, hname, rfl⟩
    have hwords : ((splitPairs rest).map String.ofList).map String.toList = splitPairs rest := by
      simp [Function.comp_def]
    obtain ⟨hjoin, hcut⟩ := splitPairs_eq_iff.1 (rfl : splitPairs rest = splitPairs rest)
    have hne : (splitPairs rest).map String.ofList ≠ [] := by
      intro hnil
      rw [List.map_eq_nil_iff.1 hnil] at hcut
      exact hcut
    refine ⟨String.toList_injective ?_, by rwa [hwords]⟩
    rw [toList_varName start hne, hwords, ← hjoin, hname, List.append_assoc]
  · rintro ⟨rfl, hcut⟩
    have hne : path ≠ [] := by
      rintro rfl
      exact hcut
    refine ⟨['_', '_'].intercalate (path.map String.toList), ?_, ?_⟩
    · rw [toList_varName start hne, List.append_assoc]
    · rw [splitPairs_eq_iff.2 ⟨rfl, hcut⟩]
      simp [Function.comp_def]

/-- Paths that can be read back have names of their own. -/
lemma varName_inj {start : String} {path path' : List String}
    (h : Cuttable (path.map String.toList)) (h' : Cuttable (path'.map String.toList))
    (heq : varName start path = varName start path') : path = path' := by
  have hpath : path? start (varName start path) = some path := path?_eq_some_iff.2 ⟨rfl, h⟩
  rw [path?_eq_some_iff.2 ⟨heq, h'⟩] at hpath
  exact (Option.some.inj hpath).symm

end Override

/-! ## Settings -/

namespace Setting

/-- The path of a setting in the names of variables. Properties have the name of the property
behind it. -/
def keyPath : Setting → List String
  | .appName => ["HOST", "APP_NAME"]
  | .environment => ["HOST", "ENVIRONMENT"]
  | .loggingEnabled => ["LOGGING", "ENABLED"]
  | .level => ["LOGGING", "LEVEL"]
  | .format => ["LOGGING", "FORMAT"]
  | .includeLocation => ["LOGGING", "INCLUDE_LOCATION"]
  | .metricsEnabled => ["METRICS", "ENABLED"]
  | .properties => ["PIPELINE", "PROPERTIES"]

/-- What a text stands for as the value of a setting. -/
def read? : Setting → String → Option Config.Entry
  | .appName, s | .environment, s | .level, s => some (.text s)
  | .loggingEnabled, s | .includeLocation, s | .metricsEnabled, s =>
    (Override.flag? s).map .flag
  | .format, s => (LogFormat.parse s).toOption.map .format
  | .properties, _ => none

/-- What is said of a text that stands for nothing. -/
def expectation : Setting → String
  | .format => "expected 'json' or 'pretty'"
  | _ => "expected boolean"

/-- The paths of the settings can be read back. -/
lemma cuttable_keyPath (φ : Setting) : Override.Cuttable (φ.keyPath.map String.toList) := by
  cases φ <;> decide +kernel

/-- Two settings do not have the same path. -/
lemma keyPath_inj {φ ψ : Setting} (h : φ.keyPath = ψ.keyPath) : φ = ψ := by
  cases φ <;> cases ψ <;> first | rfl | exact absurd h (by decide +kernel)

end Setting

/-- One setting has been replaced. -/
def Config.Replaces (φ : Setting) (e : Config.Entry) (c c' : Config) : Prop :=
  φ.get c' = e ∧ ∀ ψ, ψ ≠ φ → ψ.get c' = ψ.get c

namespace Override

variable {start : String} (c : Config)

/-- The path of a property with a name. -/
def propertyPath (n : String) : List String := Setting.properties.keyPath ++ [n]

/-- The path of a property can be read back exactly if its name has no pair of underscores. -/
lemma cuttable_propertyPath {n : String} :
    Cuttable ((propertyPath n).map String.toList) ↔ Whole n.toList := by
  refine ⟨fun h => h.2.2, fun h => ⟨?_, ?_, h⟩⟩ <;> decide +kernel

/-- A variable that is named by a path that can be read back sets what is there. -/
lemma apply_of_path {path : List String} (h : Cuttable (path.map String.toList)) (v : String) :
    apply start c (varName start path, v) = set c (varName start path) path v := by
  rw [apply, path?_eq_some_iff.2 ⟨rfl, h⟩]

/-- A variable of a setting replaces it by what its text stands for. -/
lemma exists_apply {φ : Setting} {v : String} {e : Config.Entry} (h : φ.read? v = some e) :
    ∃ c', apply start c (varName start φ.keyPath, v) = .ok c' ∧ c.Replaces φ e c' := by
  rw [apply_of_path c φ.cuttable_keyPath]
  cases φ with
  | properties => cases h
  | appName | environment | level =>
    cases h
    refine ⟨_, by simp only [Setting.keyPath, set]; rfl, rfl, fun ψ hψ => ?_⟩
    cases ψ <;> first | rfl | exact absurd rfl hψ
  | loggingEnabled | includeLocation | metricsEnabled =>
    obtain ⟨b, hb, rfl⟩ := Option.map_eq_some_iff.1 h
    refine ⟨_, by simp only [Setting.keyPath, set, flag, hb]; rfl, rfl, fun ψ hψ => ?_⟩
    cases ψ <;> first | rfl | exact absurd rfl hψ
  | format =>
    obtain ⟨f, hf, rfl⟩ := Option.map_eq_some_iff.1 h
    have hparse : LogFormat.parse v = .ok f := by
      cases hv : LogFormat.parse v <;> simp_all [Except.toOption]
    refine ⟨_, by simp only [Setting.keyPath, set, logFormat, hparse]; rfl, rfl, fun ψ hψ => ?_⟩
    cases ψ <;> first | rfl | exact absurd rfl hψ

/-- A variable of a setting whose text stands for nothing is reported by its name. -/
lemma apply_error {φ : Setting} (hφ : φ ≠ .properties) {v : String} (h : φ.read? v = none) :
    apply start c (varName start φ.keyPath, v) =
      .error (.badVariable (varName start φ.keyPath) φ.expectation) := by
  rw [apply_of_path c φ.cuttable_keyPath]
  cases φ with
  | properties => exact absurd rfl hφ
  | appName | environment | level => cases h
  | loggingEnabled | includeLocation | metricsEnabled =>
    have hb := Option.map_eq_none_iff.1 h
    simp only [Setting.keyPath, set, flag, hb]
    rfl
  | format =>
    have hf := Option.map_eq_none_iff.1 h
    have hparse : ∃ e, LogFormat.parse v = .error e := by
      cases hv : LogFormat.parse v <;> simp_all [Except.toOption]
    obtain ⟨e, hparse⟩ := hparse
    simp only [Setting.keyPath, set, logFormat, hparse]
    rfl

/-- The settings with a property stored under the lower case of its name. -/
def withProperty (c : Config) (n v : String) : Config :=
  { c with pipeline := ⟨c.pipeline.properties.insert (Text.lower n) v⟩ }

/-- A property changes no setting but the properties. -/
lemma get_withProperty {φ : Setting} (hφ : φ ≠ .properties) (n v : String) :
    φ.get (withProperty c n v) = φ.get c := by
  cases φ <;> first | rfl | exact absurd rfl hφ

/-- A variable of a property stores it. -/
lemma apply_property {n : String} (h : Whole n.toList) (v : String) :
    apply start c (varName start (propertyPath n), v) = .ok (withProperty c n v) := by
  rw [apply_of_path c (cuttable_propertyPath.2 h)]
  simp only [propertyPath, Setting.keyPath, List.cons_append, List.nil_append, set]
  rfl

/-- The name of the property that a variable stores. -/
def property? (start name : String) : Option String :=
  match path? start name with
  | some ["PIPELINE", "PROPERTIES", n] => some n
  | _ => none

/-- A variable is that of a property exactly if it is named by the path of the property. -/
lemma property?_eq_some_iff {name n : String} :
    property? start name = some n ↔ name = varName start (propertyPath n) ∧ Whole n.toList := by
  have hpath : property? start name = some n ↔ path? start name = some (propertyPath n) := by
    unfold property?
    split
    · next n' hn' => simp [hn', propertyPath, Setting.keyPath]
    · next hne =>
      refine ⟨nofun, fun h => absurd h (hne n)⟩
  rw [hpath, path?_eq_some_iff, cuttable_propertyPath]

/-- A variable that belongs to no setting and to no property does nothing. -/
lemma apply_other {name : String}
    (hsetting : ∀ φ : Setting, φ ≠ .properties → name ≠ varName start φ.keyPath)
    (hproperty : property? start name = none) (v : String) : apply start c (name, v) = .ok c := by
  unfold apply
  cases hpath : path? start name with
  | none => rfl
  | some path =>
    have hne (φ : Setting) (hφ : φ ≠ .properties) : path ≠ φ.keyPath := by
      rintro rfl
      exact hsetting φ hφ (path?_eq_some_iff.1 hpath).1
    have hprop (n : String) : path ≠ propertyPath n := by
      rintro rfl
      rw [property?_eq_some_iff.2 ((path?_eq_some_iff.1 hpath).imp_right cuttable_propertyPath.1)]
        at hproperty
      cases hproperty
    dsimp only
    unfold set
    split
    · exact absurd rfl (hne .appName nofun)
    · exact absurd rfl (hne .environment nofun)
    · exact absurd rfl (hne .loggingEnabled nofun)
    · exact absurd rfl (hne .level nofun)
    · exact absurd rfl (hne .format nofun)
    · exact absurd rfl (hne .includeLocation nofun)
    · exact absurd rfl (hne .metricsEnabled nofun)
    · next n => exact absurd rfl (hprop n)
    · rfl

end Override

end Pipework
