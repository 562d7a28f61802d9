import Mathlib.Data.List.Sort
import Pipework.Proofs.Config.Variable
import Pipework.Proofs.OrderedMap
import Pipework.Proofs.Text.ByteOrder

set_option autoImplicit false

/-!
# What all variables do

The variables with the prefix of a loader are taken in the order of their names. Each setting has
one variable of its own, so that the order matters for two things only: which of the texts that
stand for nothing is reported, and the places and the values of properties whose names differ in
their case.

## Main definitions

* `Setting.Faulty` — the variable of a setting is there, and its text stands for nothing.
* `Override.assigned` — the properties that variables store, with their names as they are written.
* `Override.Assigns` — what variables make of settings.

## Main results

* `Override.exists_assigns`, `Override.foldlM_error` — variables one after the other.
* `Loader.finish_by_variables` — every setting from its own variable.
-/

namespace Pipework

open Override

/-- There is a variable for a setting, and its text stands for nothing. -/
def Setting.Faulty (φ : Setting) (start : String) (vars : Variables) : Prop :=
  φ ≠ .properties ∧ ∃ v, vars.get? (varName start φ.keyPath) = some v ∧ φ.read? v = none

namespace Override

variable {start : String}

/-! ## The variables that are taken -/

/-- The variables that are taken are those with the prefix. -/
lemma mem_selected {vars : Variables} {n v : String} :
    (n, v) ∈ selected start vars ↔
      vars.get? n = some v ∧ ∃ rest, n.toList = start.toList ++ rest := by
  have hget : (n, v) ∈ vars.entries ↔ vars.get? n = some v :=
    ⟨OrderedMap.get?_of_mem, OrderedMap.mem_of_get?⟩
  rw [selected, List.mem_mergeSort, List.mem_filter, hget, Option.isSome_iff_exists]
  simp only [stripStart?_eq_some_iff]

/-- A variable that is named by a path is selected exactly if it is set. -/
lemma mem_selected_varName {vars : Variables} {path : List String} (h : path ≠ []) {v : String} :
    (varName start path, v) ∈ selected start vars ↔
      vars.get? (varName start path) = some v := by
  rw [mem_selected, and_iff_left_iff_imp]
  intro _
  exact ⟨_, by rw [toList_varName start h, List.append_assoc]⟩

/-- The names of the variables that are taken ascend. -/
lemma pairwise_selected (start : String) (vars : Variables) :
    (selected start vars).Pairwise fun v w => v.1 < w.1 := by
  have hle : (selected start vars).Pairwise fun v w => v.1 ≤ w.1 := by
    have hsort : (selected start vars).Pairwise fun v w => decide (v.1 ≤ w.1) = true := by
      unfold selected
      refine List.pairwise_mergeSort (fun a b c hab hbc => ?_) (fun a b => ?_) _
      · simp only [decide_eq_true_eq] at hab hbc ⊢
        exact le_trans hab hbc
      · simp only [Bool.or_eq_true, decide_eq_true_eq]
        exact le_total a.1 b.1
    exact hsort.imp fun h => by simpa using h
  have hne : (selected start vars).Pairwise fun v w => v.1 ≠ w.1 := by
    have hnodup : ((selected start vars).map Prod.fst).Nodup :=
      ((List.mergeSort_perm _ _).map _).nodup_iff.2
        (vars.nodup.sublist (List.filter_sublist.map Prod.fst))
    exact List.pairwise_map.1 hnodup
  exact (hle.and hne).imp fun h => lt_of_le_of_ne h.1 h.2

/-! ## Variables one after the other -/

/-- The properties that variables store, in their order and with their names as they are written. -/
def assigned (start : String) (vs : List (String × String)) : List (String × String) :=
  vs.filterMap fun v => (property? start v.1).map fun n => (n, v.2)

/-- What variables make of settings: each setting gets the value of its own variable and is kept
without one, and properties are stored one after the other. -/
structure Assigns (start : String) (vs : List (String × String)) (c c' : Config) : Prop where
  read : ∀ (φ : Setting) (v : String) (e : Config.Entry), φ ≠ .properties →
    (varName start φ.keyPath, v) ∈ vs → φ.read? v = some e → φ.get c' = e
  kept : ∀ φ : Setting, φ ≠ .properties → varName start φ.keyPath ∉ vs.map Prod.fst →
    φ.get c' = φ.get c
  properties_eq : c'.pipeline.properties =
    c.pipeline.properties.insertAll ((assigned start vs).map fun a => (Text.lower a.1, a.2))

/-- No setting has the name of a property. -/
lemma property?_varName_keyPath (φ : Setting) :
    property? start (varName start φ.keyPath) = none := by
  refine Option.eq_none_iff_forall_ne_some.2 fun n hn => ?_
  obtain ⟨hname, hn⟩ := property?_eq_some_iff.1 hn
  have hpath := varName_inj φ.cuttable_keyPath (cuttable_propertyPath.2 hn) hname
  have hlength := congrArg List.length hpath
  cases φ <;> cases hlength

/-- Two settings do not have the same variable. -/
lemma varName_keyPath_inj {φ ψ : Setting}
    (h : varName start φ.keyPath = varName start ψ.keyPath) : φ = ψ :=
  Setting.keyPath_inj (varName_inj φ.cuttable_keyPath ψ.cuttable_keyPath h)

/-- What one variable does, unless it is the variable of a setting and its text stands for
nothing. -/
lemma exists_assigns_single {n v : String}
    (h : ∀ φ : Setting, φ ≠ .properties → n = varName start φ.keyPath → φ.read? v ≠ none)
    (c : Config) : ∃ c', apply start c (n, v) = .ok c' ∧ Assigns start [(n, v)] c c' := by
  by_cases hsetting : ∃ φ : Setting, φ ≠ .properties ∧ n = varName start φ.keyPath
  · obtain ⟨φ, hφ, rfl⟩ := hsetting
    obtain ⟨e, he⟩ := Option.ne_none_iff_exists'.1 (h φ hφ rfl)
    obtain ⟨c', hc', hnew, hold⟩ : ∃ c', apply start c (varName start φ.keyPath, v) = .ok c' ∧
        c.Replaces φ e c' := exists_apply c he
    refine ⟨c', hc', ?_, fun ψ hψ hname => hold ψ ?_, ?_⟩
    · intro ψ v' e' hψ hmem he'
      obtain ⟨hname, rfl⟩ := Prod.mk.inj (List.mem_singleton.1 hmem)
      obtain rfl := varName_keyPath_inj hname
      rw [hnew, ← Option.some.inj (he.symm.trans he')]
    · rintro rfl
      exact hname (List.mem_singleton_self _)
    · have hproperties := hold .properties hφ.symm
      simp only [assigned, List.filterMap_cons, property?_varName_keyPath, Option.map_none]
      exact Config.Entry.texts.inj hproperties
  · have hsetting (φ : Setting) (hφ : φ ≠ .properties) : n ≠ varName start φ.keyPath :=
      fun hn => hsetting ⟨φ, hφ, hn⟩
    have hread (φ : Setting) (v' : String) (hφ : φ ≠ .properties) :
        (varName start φ.keyPath, v') ∉ [(n, v)] := by
      intro hmem
      exact hsetting φ hφ (Prod.mk.inj (List.mem_singleton.1 hmem)).1.symm
    cases hproperty : property? start n with
    | some p =>
      obtain ⟨rfl, hp⟩ := property?_eq_some_iff.1 hproperty
      refine ⟨withProperty c p v, apply_property c hp v, ?_, ?_, ?_⟩
      · exact fun φ v' e hφ hmem => absurd hmem (hread φ v' hφ)
      · exact fun φ hφ _ => get_withProperty c hφ p v
      · simp only [assigned, List.filterMap_cons, hproperty, Option.map_some]
        rfl
    | none =>
      refine ⟨c, apply_other c hsetting hproperty v, ?_, fun _ _ _ => rfl, ?_⟩
      · exact fun φ v' e hφ hmem => absurd hmem (hread φ v' hφ)
      · simp only [assigned, List.filterMap_cons, hproperty, Option.map_none]
        rfl

/-- A variable and then others with other names. -/
lemma Assigns.cons {x : String × String} {vs : List (String × String)} {c c₁ c' : Config}
    (hfirst : Assigns start [x] c c₁) (hrest : Assigns start vs c₁ c')
    (hx : x.1 ∉ vs.map Prod.fst) : Assigns start (x :: vs) c c' where
  read φ v e hφ hmem he := by
    rcases List.mem_cons.1 hmem with rfl | hmem
    · rw [hrest.kept φ hφ hx]
      exact hfirst.read φ v e hφ (List.mem_singleton_self _) he
    · exact hrest.read φ v e hφ hmem he
  kept φ hφ hname := by
    rw [List.map_cons, List.mem_cons, not_or] at hname
    rw [hrest.kept φ hφ hname.2, hfirst.kept φ hφ (by simpa using hname.1)]
  properties_eq := by
    have hassigned : assigned start (x :: vs) = assigned start [x] ++ assigned start vs :=
      List.filterMap_append (l := [x])
    rw [hrest.properties_eq, hfirst.properties_eq, hassigned, List.map_append]
    exact (List.foldl_append).symm

/-- Variables of different names, none of which is faulty, are all taken. -/
lemma exists_assigns {vs : List (String × String)} (hvs : vs.Pairwise fun v w => v.1 < w.1)
    (h : ∀ (φ : Setting) (v : String), φ ≠ .properties → (varName start φ.keyPath, v) ∈ vs →
      φ.read? v ≠ none) (c : Config) :
    ∃ c', vs.foldlM (apply start) c = .ok c' ∧ Assigns start vs c c' := by
  induction vs generalizing c with
  | nil => exact ⟨c, rfl, nofun, fun _ _ _ => rfl, rfl⟩
  | cons x vs ih =>
    obtain ⟨hx, hvs⟩ := List.pairwise_cons.1 hvs
    obtain ⟨c₁, hc₁, hfirst⟩ := exists_assigns_single (n := x.1) (v := x.2)
      (fun φ hφ hname => h φ x.2 hφ (by rw [← hname]; exact List.mem_cons_self)) c
    obtain ⟨c', hc', hrest⟩ := ih hvs (fun φ v hφ hmem => h φ v hφ (List.mem_cons_of_mem _ hmem)) c₁
    refine ⟨c', ?_, hfirst.cons hrest fun hmem => ?_⟩
    · rw [List.foldlM_cons, hc₁]
      exact hc'
    · obtain ⟨w, hw, hname⟩ := List.mem_map.1 hmem
      exact (hx w hw).ne hname.symm

/-- Of variables whose names ascend the first faulty one is reported. -/
lemma foldlM_error {vs : List (String × String)} (hvs : vs.Pairwise fun v w => v.1 < w.1)
    (h : ∃ (φ : Setting) (v : String), φ ≠ .properties ∧ (varName start φ.keyPath, v) ∈ vs ∧
      φ.read? v = none) (c : Config) :
    ∃ (φ : Setting) (v : String), φ ≠ .properties ∧ (varName start φ.keyPath, v) ∈ vs ∧
      φ.read? v = none ∧
      (∀ (ψ : Setting) (w : String), ψ ≠ .properties → (varName start ψ.keyPath, w) ∈ vs →
        ψ.read? w = none → varName start φ.keyPath ≤ varName start ψ.keyPath) ∧
      vs.foldlM (apply start) c =
        .error (.badVariable (varName start φ.keyPath) φ.expectation) := by
  induction vs generalizing c with
  | nil =>
    obtain ⟨_, _, -, hmem, -⟩ := h
    cases hmem
  | cons x vs ih =>
    obtain ⟨hx, hvs⟩ := List.pairwise_cons.1 hvs
    by_cases hfaulty : ∃ φ : Setting, φ ≠ .properties ∧ x.1 = varName start φ.keyPath ∧
        φ.read? x.2 = none
    · obtain ⟨φ, hφ, hname, hread⟩ := hfaulty
      obtain ⟨n, v⟩ := x
      obtain rfl : n = varName start φ.keyPath := hname
      refine ⟨φ, v, hφ, List.mem_cons_self, hread, fun ψ w hψ hmem _ => ?_, ?_⟩
      · rcases List.mem_cons.1 hmem with heq | hmem
        · exact (Prod.mk.inj heq).1.ge
        · exact (hx _ hmem).le
      · rw [List.foldlM_cons, apply_error c hφ hread]
        rfl
    · have hread (φ : Setting) (hφ : φ ≠ .properties) (hname : x.1 = varName start φ.keyPath) :
          φ.read? x.2 ≠ none := fun hnone => hfaulty ⟨φ, hφ, hname, hnone⟩
      obtain ⟨c₁, hc₁, -⟩ := exists_assigns_single hread c
      -- what is faulty is among the others
      have hothers {φ : Setting} {v : String} (hφ : φ ≠ .properties)
          (hmem : (varName start φ.keyPath, v) ∈ x :: vs) (hnone : φ.read? v = none) :
          (varName start φ.keyPath, v) ∈ vs := by
        rcases List.mem_cons.1 hmem with rfl | hmem
        · exact absurd hnone (hread φ hφ rfl)
        · exact hmem
      obtain ⟨φ, v, hφ, hmem, hnone⟩ := h
      obtain ⟨φ', v', hφ', hmem', hnone', hleast, herror⟩ :=
        ih hvs ⟨φ, v, hφ, hothers hφ hmem hnone, hnone⟩ c₁
      refine ⟨φ', v', hφ', List.mem_cons_of_mem _ hmem', hnone',
        fun ψ w hψ hw hwnone => hleast ψ w hψ (hothers hψ hw hwnone) hwnone, ?_⟩
      rw [List.foldlM_cons, hc₁]
      exact herror

/-! ## The properties that are stored -/

/-- A property is assigned exactly if its own variable is set and its name has no pair of
underscores. -/
lemma mem_assigned {vars : Variables} {n v : String} :
    (n, v) ∈ assigned start (selected start vars) ↔
      Whole n.toList ∧ vars.get? (varName start (propertyPath n)) = some v := by
  have hne (n : String) : propertyPath n ≠ [] := by simp [propertyPath]
  simp only [assigned, List.mem_filterMap, Option.map_eq_some_iff, property?_eq_some_iff,
    Prod.mk.injEq]
  constructor
  · rintro ⟨⟨_, _⟩, hmem, _, ⟨rfl, hn⟩, rfl, rfl⟩
    exact ⟨hn, (mem_selected_varName (hne _)).1 hmem⟩
  · rintro ⟨hn, hv⟩
    exact ⟨(_, v), (mem_selected_varName (hne n)).2 hv, n, ⟨rfl, hn⟩, rfl, rfl⟩

/-- The properties are stored in the order of the names of their variables. -/
lemma pairwise_assigned (start : String) (vars : Variables) :
    (assigned start (selected start vars)).Pairwise fun a b =>
      varName start (propertyPath a.1) < varName start (propertyPath b.1) := by
  refine List.pairwise_filterMap.2 ((pairwise_selected start vars).imp ?_)
  intro v w hlt a ha b hb
  obtain ⟨n, hn, rfl⟩ := Option.map_eq_some_iff.1 ha
  obtain ⟨m, hm, rfl⟩ := Option.map_eq_some_iff.1 hb
  rwa [← (property?_eq_some_iff.1 hn).1, ← (property?_eq_some_iff.1 hm).1]

/-- The properties that are stored depend on the variables of properties only. -/
lemma assigned_congr {vars vars' : Variables}
    (h : ∀ n : String, Whole n.toList →
      vars'.get? (varName start (propertyPath n)) = vars.get? (varName start (propertyPath n))) :
    assigned start (selected start vars') = assigned start (selected start vars) := by
  have hnodup (vars : Variables) : (assigned start (selected start vars)).Nodup :=
    (pairwise_assigned start vars).imp fun hlt heq => hlt.ne (by rw [heq])
  have hperm :
      (assigned start (selected start vars')).Perm (assigned start (selected start vars)) := by
    refine (List.perm_ext_iff_of_nodup (hnodup _) (hnodup _)).2 ?_
    rintro ⟨n, v⟩
    rw [mem_assigned, mem_assigned]
    exact and_congr_right fun hn => by rw [h n hn]
  exact hperm.eq_of_pairwise (fun a b _ _ hab hba => absurd hba hab.asymm)
    (pairwise_assigned start vars') (pairwise_assigned start vars)

end Override

/-! ## Every setting from its own variable -/

/-- Settings are known from the values of all of them. -/
lemma Config.ext_of_get {c c' : Config} (h : ∀ φ : Setting, φ.get c = φ.get c') : c = c' := by
  obtain ⟨⟨appName, environment⟩, ⟨enabled, level, format, location⟩, ⟨metrics⟩, ⟨properties⟩⟩ := c
  have h₁ := h .appName
  have h₂ := h .environment
  have h₃ := h .loggingEnabled
  have h₄ := h .level
  have h₅ := h .format
  have h₆ := h .includeLocation
  have h₇ := h .metricsEnabled
  have h₈ := h .properties
  simp only [Setting.get, Entry.text.injEq, Entry.flag.injEq, Entry.format.injEq,
    Entry.texts.injEq] at h₁ h₂ h₃ h₄ h₅ h₆ h₇ h₈
  subst h₁ h₂ h₃ h₄ h₅ h₆ h₇ h₈
  rfl

namespace Loader

variable {l : Loader} {start : String} (hstart : l.start = some start)
include hstart

/-- The first faulty variable in the order of the names is reported. -/
lemma exists_faulty_of_finish (h : ∃ φ : Setting, φ.Faulty start l.vars) :
    ∃ φ : Setting, φ.Faulty start l.vars ∧
      (∀ ψ : Setting, ψ.Faulty start l.vars →
        varName start φ.keyPath ≤ varName start ψ.keyPath) ∧
      l.finish = .error (.badVariable (varName start φ.keyPath) φ.expectation) := by
  have hmem (φ : Setting) (v : String) : (varName start φ.keyPath, v) ∈ selected start l.vars ↔
      l.vars.get? (varName start φ.keyPath) = some v :=
    mem_selected_varName (by cases φ <;> exact nofun)
  obtain ⟨φ, hφ, v, hv, hread⟩ := h
  obtain ⟨φ, v, hφ, hv, hread, hleast, herror⟩ :=
    foldlM_error (pairwise_selected start l.vars) ⟨φ, v, hφ, (hmem φ v).2 hv, hread⟩ l.config
  refine ⟨φ, ⟨hφ, v, (hmem φ v).1 hv, hread⟩, ?_, ?_⟩
  · rintro ψ ⟨hψ, w, hw, hwread⟩
    exact hleast ψ w hψ ((hmem ψ w).2 hw) hwread
  · rw [finish, overridden, hstart]
    dsimp only
    rw [applyAll, herror]
    rfl

/-- Without a faulty variable every setting gets the value of its own variable. -/
lemma exists_config_of_finish (h : ∀ φ : Setting, ¬φ.Faulty start l.vars) :
    ∃ c : Config, l.finish = c.validate.map (fun _ => c) ∧
      (∀ φ : Setting, φ ≠ .properties → φ.get c =
        ((l.vars.get? (varName start φ.keyPath)).bind φ.read?).getD (φ.get l.config)) ∧
      c.pipeline.properties = l.config.pipeline.properties.insertAll
        ((assigned start (selected start l.vars)).map fun a => (Text.lower a.1, a.2)) := by
  have hne (φ : Setting) : φ.keyPath ≠ [] := by cases φ <;> exact nofun
  have hread (φ : Setting) (v : String) (hφ : φ ≠ .properties)
      (hmem : (varName start φ.keyPath, v) ∈ selected start l.vars) : φ.read? v ≠ none :=
    fun hnone => h φ ⟨hφ, v, (mem_selected_varName (hne φ)).1 hmem, hnone⟩
  obtain ⟨c, hc, hassigns⟩ := exists_assigns (pairwise_selected start l.vars) hread l.config
  refine ⟨c, ?_, fun φ hφ => ?_, hassigns.properties_eq⟩
  · rw [finish, overridden, hstart]
    dsimp only
    rw [applyAll, hc]
    cases hvalidate : c.validate <;>
      simp [hvalidate, bind, Except.bind, Except.map, pure, Except.pure]
  · cases hv : l.vars.get? (varName start φ.keyPath) with
    | some v =>
      have hmem : (varName start φ.keyPath, v) ∈ selected start l.vars :=
        (mem_selected_varName (hne φ)).2 hv
      obtain ⟨e, he⟩ := Option.ne_none_iff_exists'.1 (hread φ v hφ hmem)
      rw [Option.bind_some, he, Option.getD_some, hassigns.read φ v e hφ hmem he]
    | none =>
      refine hassigns.kept φ hφ fun hmem => ?_
      obtain ⟨⟨n, v⟩, hw, rfl⟩ := List.mem_map.1 hmem
      rw [(mem_selected.1 hw).1] at hv
      cases hv

/-- **Every setting from its own variable.** Let a loader take the variables with a prefix. If the
text of the variable of a flag or of the log format stands for nothing, loading fails and names the
bytewise smallest of these variables. Otherwise every single setting has the value of its own
variable, and without one the value that it had; the properties that are stored are those of the
variables whose names have no pair of underscores behind the section and the key, in the bytewise
order of their names: a new name, in the lower case, goes to the end, a name that is there keeps its
place, and among names that are equal in the lower case the bytewise greatest gives the value. The
settings are then checked, and the result is the fault that is found or the settings. No other
variable makes a difference, and neither does the order in which the variables are listed.

**Proof sketch.** The path of a variable can be read back from its name
(`Override.path?_eq_some_iff`), so that a variable replaces one setting, stores one property or does
nothing. Along the variables, whose names ascend, each setting is replaced at most once
(`Override.exists_assigns`), and the first variable that cannot be read ends the run
(`Override.foldlM_error`). Names ascend as their bytes do (`Utf8.encode_lt_encode`). -/
theorem finish_by_variables :
    ((∃ φ : Setting, φ.Faulty start l.vars) → ∃ φ : Setting, φ.Faulty start l.vars ∧
      (∀ ψ : Setting, ψ.Faulty start l.vars →
        Utf8.encode (varName start φ.keyPath) ≤ Utf8.encode (varName start ψ.keyPath)) ∧
      l.finish = .error (.badVariable (varName start φ.keyPath) φ.expectation)) ∧
    ((∀ φ : Setting, ¬φ.Faulty start l.vars) →
      ∃ (c : Config) (stored : List (String × String)),
        l.finish = c.validate.map (fun _ => c) ∧
        (∀ φ : Setting, φ ≠ .properties → φ.get c =
          ((l.vars.get? (varName start φ.keyPath)).bind φ.read?).getD (φ.get l.config)) ∧
        (∀ n v, (n, v) ∈ stored ↔
          Whole n.toList ∧ l.vars.get? (varName start (propertyPath n)) = some v) ∧
        (stored.Pairwise fun a b => Utf8.encode (varName start (propertyPath a.1)) <
          Utf8.encode (varName start (propertyPath b.1))) ∧
        c.pipeline.properties.keys = (l.config.pipeline.properties.keys ++
          stored.map fun a => Text.lower a.1).eraseDups ∧
        ∀ x, c.pipeline.properties.get? x =
          ((stored.reverse.find? fun a => Text.lower a.1 = x).map Prod.snd).or
            (l.config.pipeline.properties.get? x)) ∧
    ∀ vars : Variables,
      (∀ φ : Setting, φ ≠ .properties →
        vars.get? (varName start φ.keyPath) = l.vars.get? (varName start φ.keyPath)) →
      (∀ n : String, Whole n.toList → vars.get? (varName start (propertyPath n)) =
        l.vars.get? (varName start (propertyPath n))) →
      ({ l with vars := vars } : Loader).finish = l.finish := by
  refine ⟨fun h => ?_, fun h => ?_, fun vars hsettings hproperties => ?_⟩
  · obtain ⟨φ, hφ, hleast, hfinish⟩ := exists_faulty_of_finish hstart h
    exact ⟨φ, hφ, fun ψ hψ => Utf8.encode_le_encode.2 (hleast ψ hψ), hfinish⟩
  · obtain ⟨c, hfinish, hget, hstored⟩ := exists_config_of_finish hstart h
    refine ⟨c, assigned start (selected start l.vars), hfinish, hget, fun _ _ => mem_assigned,
      (pairwise_assigned start l.vars).imp fun hlt => Utf8.encode_lt_encode.2 hlt, ?_, fun x => ?_⟩
    · rw [hstored, OrderedMap.keys_insertAll, List.map_map]
      rfl
    · rw [hstored, OrderedMap.get?_insertAll, ← List.map_reverse, List.find?_map, Option.map_map]
      rfl
  · have hstart' : ({ l with vars := vars } : Loader).start = some start := hstart
    have hfaulty (φ : Setting) : φ.Faulty start vars ↔ φ.Faulty start l.vars :=
      and_congr_right fun hφ => by rw [hsettings φ hφ]
    by_cases h : ∃ φ : Setting, φ.Faulty start l.vars
    · -- the variable that is reported is the smallest in either case
      obtain ⟨φ, hφ, hleast, hfinish⟩ := exists_faulty_of_finish hstart h
      obtain ⟨ψ, hψ, hleast', hfinish'⟩ :=
        exists_faulty_of_finish hstart' (h.imp fun φ hφ => (hfaulty φ).2 hφ)
      have hname := le_antisymm (hleast ψ ((hfaulty ψ).1 hψ)) (hleast' φ ((hfaulty φ).2 hφ))
      obtain rfl := varName_keyPath_inj hname
      rw [hfinish, hfinish']
    · have h : ∀ φ : Setting, ¬φ.Faulty start l.vars := not_exists.1 h
      obtain ⟨c, hfinish, hget, hstored⟩ := exists_config_of_finish hstart h
      obtain ⟨c', hfinish', hget', hstored'⟩ :=
        exists_config_of_finish hstart' fun φ hφ => h φ ((hfaulty φ).1 hφ)
      have hc : c' = c := by
        refine Config.ext_of_get fun φ => ?_
        by_cases hφ : φ = .properties
        · subst hφ
          exact congrArg Config.Entry.texts (by rw [hstored, hstored', assigned_congr hproperties])
        · rw [hget φ hφ, hget' φ hφ, hsettings φ hφ]
      rw [hfinish, hfinish', hc]

end Loader

/-- Some variables of a host: one switches its metrics off, and the other has a key in another case,
so that it belongs to no setting. -/
def Variables.metricsOff : Variables :=
  OrderedMap.ofList [("SVC__METRICS__ENABLED", "off"), ("SVC__METRICS__enabled", "?")]

/-- With the metrics switched off by a variable, everything else is as in a new configuration. -/
theorem Loader.finish_by_variables_metrics_off :
    ∃ (l : Loader) (c : Config),
      Loader.add (.new .empty .metricsOff) (.overrides "svc") = .ok l ∧ l.start = some "SVC" ∧
      l.finish = c.validate.map (fun _ => c) ∧ c.metrics.enabled = false ∧
      c.logging.level = "info" := by
  have hupper : Text.upper "svc" = "SVC" := by decide +kernel
  have hstart : ({ Loader.new .empty .metricsOff with start := some (Text.upper "svc") } :
      Loader).start = some "SVC" := congrArg some hupper
  have hoff : Variables.metricsOff.get? (varName "SVC" Setting.metricsEnabled.keyPath) =
      some "off" := by decide +kernel
  have hread : Setting.metricsEnabled.read? "off" = some (.flag false) := by
    have hflag : flag? "off" = some false := by decide +kernel
    rw [Setting.read?, hflag]
    rfl
  have hnone (φ : Setting) (hφ : φ ≠ .metricsEnabled) :
      Variables.metricsOff.get? (varName "SVC" φ.keyPath) = none := by
    cases φ <;> first | exact absurd rfl hφ | decide +kernel
  obtain ⟨-, hfinish, -⟩ := finish_by_variables hstart
  obtain ⟨c, -, hc, hget, -⟩ := hfinish (by
    rintro φ ⟨-, v, hv, hfaulty⟩
    by_cases hφ : φ = .metricsEnabled
    · subst hφ
      obtain rfl : "off" = v := Option.some.inj (hoff.symm.trans hv)
      cases hread.symm.trans hfaulty
    · cases (hnone φ hφ).symm.trans hv)
  have henabled := hget .metricsEnabled nofun
  have hlevel := hget .level nofun
  refine ⟨_, c, rfl, hstart, hc, ?_, ?_⟩
  · rw [Loader.new, hoff, Option.bind_some, hread] at henabled
    exact Config.Entry.flag.inj henabled
  · rw [Loader.new, hnone .level nofun] at hlevel
    exact Config.Entry.text.inj hlevel

end Pipework
