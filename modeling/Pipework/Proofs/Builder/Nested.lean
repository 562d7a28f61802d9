import Pipework.Proofs.App.Nesting
import Pipework.Proofs.Builder.Mounts

set_option autoImplicit false

/-!
# Branches within branches

The branch that is added to a builder can itself have a branch, and so on. Whatever stages stand
behind the branches, whatever they make of the terminal app and whatever conversions there are, what
is built is the mounts around one another with the app of the innermost branch in the middle.

## Main definitions

* `Nested` — builders whose first stage is a branch, whose first stage is a branch, and so on.

## Main results

* `Builder.exists_of_buildApp_mount` — a builder whose first stage is a branch builds a mount.
* `Nested.exists_levels` — what is built is mounts around one another.
* `Builder.buildApp_nested` — branches within branches act like one branch.
-/

namespace Pipework

/-- Branches within branches: the first stage of a builder is a branch under the first path, the
first stage of that branch is a branch under the second path, and so on down to a branch that builds
the app `middle`. Every branch is configured and built when it is added, and from then on anything
may happen: other stages come behind it, and the builder is built in any state. -/
inductive Nested (middle : App) : List String → Builder → State → Prop
  | middle {b : Builder} {s s' : State} (h : b.buildApp.exec s = (.ok middle, s')) :
      Nested middle [] b s
  | map {b b₁ branch : Builder} {p : String} {paths : List String}
      {configure : Builder → Assembly Builder} {s s₁ s' : State} (hempty : b.stages = [])
      (hmap : (b.map p configure).exec s = (.ok b₁, s'))
      (hconfigure : (configure b.branch).exec s = (.ok branch, s₁))
      (hbranch : Nested middle paths branch s₁) (later : List Stage) (t : State) :
      Nested middle (p :: paths) { b₁ with stages := b₁.stages ++ later } t

namespace Builder

variable {k : RegistryId}

/-- A builder whose first stage is a branch builds a mount with that branch, if it builds anything.
-/
lemma exists_of_buildApp_mount {b : Builder} {p : String} {branch : App} {later : List Stage}
    (hstages : b.stages = (Mount.path p branch).stage :: later) {a : App} {s s' : State}
    (h : b.buildApp.exec s = (.ok a, s')) : ∃ behind, a = .mount p branch behind := by
  obtain ⟨app, s₁, out, s₂, hfold, hconvert, hout⟩ := exists_of_buildApp h
  rw [hstages, List.reverse_cons, fold_append] at hfold
  obtain ⟨v, s₃, -, hfold⟩ := Assembly.exists_of_exec_bind hfold
  obtain ⟨w, s₄, behind, -, -, v', s₅, hv', hfold⟩ := exists_of_fold_mount hfold
  obtain rfl : v' = app := Except.ok.inj (Prod.mk.inj hfold).1
  obtain ⟨s₆, hstill, -⟩ :=
    exec_convertIn_func hv' (t := Convention.ofShape .appFunc) rfl b.conversions s₁
  cases hconvert.symm.trans hstill
  cases hout.symm.trans hv'
  exact ⟨behind, rfl⟩

end Builder

/-- What branches within branches build is mounts around one another, with paths that mounts
accept. -/
lemma Nested.exists_shells {middle : App} {paths : List String} {b : Builder} {s : State}
    (hnested : Nested middle paths b s) {a : App} {s' : State}
    (hbuild : b.buildApp.exec s = (.ok a, s')) :
    ∃ shells : List Shell, shells.map Shell.path = paths ∧ a = Shell.nest shells middle ∧
      ∀ m ∈ shells, Route.check m.path = .ok () := by
  induction hnested generalizing a s' with
  | middle h =>
    cases h.symm.trans hbuild
    exact ⟨[], rfl, rfl, nofun⟩
  | @map b b₁ branch p paths configure s s₁ s₀ hempty hmap hconfigure hbranch later t ih =>
    obtain ⟨hcheck, branch', s₁', app, s₂, hconfigure', happ, rfl⟩ := Builder.exists_of_map hmap
    cases hconfigure.symm.trans hconfigure'
    obtain ⟨shells, hpaths, rfl, hshells⟩ := ih happ
    have hstages : (b.stages ++ [(Mount.path p (Shell.nest shells middle)).stage]) ++ later =
        (Mount.path p (Shell.nest shells middle)).stage :: later := by
      rw [hempty]
      rfl
    obtain ⟨behind, rfl⟩ := Builder.exists_of_buildApp_mount hstages hbuild
    refine ⟨⟨p, behind⟩ :: shells, ?_, rfl, List.forall_mem_cons.2 ⟨hcheck, hshells⟩⟩
    rw [List.map_cons, hpaths]

namespace Builder

/-- **Branches within branches.** A path is matched against two mounts, one after the other, like
against the two written together; the first one may be any text, the second one must be a path that
mounts accept. Hence branches within branches to any depth act like one branch under the
concatenation of their paths, as `Shell.Descends` says: the innermost app gets exactly the requests
under that path, every mount on the way sees a request with the same path base and path together, up
to case, and the path and the path base are given back in the end.

**Proof sketch.** A mount that is not empty begins with a slash, so where it matches what remains of
a path a segment ends (`Route.remainder?_append`). The first stage of a builder is applied last, and
a mount that has been made is a mount in the end (`exists_of_buildApp_mount`); so what is built is
mounts around one another (`Nested.exists_shells`). From there on the claim is an induction on the
mounts, each of which moves its path from the path of a request to the path base
(`Shell.descends_nest`). -/
theorem buildApp_nested :
    (∀ q p₁ p₂ : String, Route.check p₂ = .ok () →
      (Route.remainder? p₁ q).bind (Route.remainder? p₂) = Route.remainder? (p₁ ++ p₂) q) ∧
    ∀ {middle a : App} {paths : List String} {b : Builder} {s s' : State}, paths ≠ [] →
      Nested middle paths b s → b.buildApp.exec s = (.ok a, s') →
      ∃ shells : List Shell, shells.map Shell.path = paths ∧ a = Shell.nest shells middle ∧
        ∀ e, Shell.Descends a shells middle e := by
  refine ⟨fun q p₁ p₂ h₂ => (Route.remainder?_append (Route.isSegmentEnd_of_check h₂) q p₁).symm,
    fun {middle a paths b s s'} hne hnested hbuild => ?_⟩
  obtain ⟨shells, rfl, rfl, hshells⟩ := hnested.exists_shells hbuild
  have hends : ∀ m ∈ shells, Route.isSegmentEnd m.path.toList = true :=
    fun m hm => Route.isSegmentEnd_of_check (hshells m hm)
  have hshells' : shells ≠ [] := fun h => hne (congrArg (List.map Shell.path) h)
  exact ⟨shells, rfl, rfl, Shell.descends_nest hshells' hends middle⟩

/-- A branch under `/v1` within a branch under `/api` gets a request in another casing, with both
paths in the path base; what it makes of the path is undone. -/
theorem buildApp_nested_twice :
    let moving : App := .leaf ⟨"moving", some [.edit (.path "/elsewhere")]⟩
    let e := { Environment.blank with path := "/Api/V1/ü" }
    (Route.remainder? "/api" "/Api/V1/ü").bind (Route.remainder? "/v1") =
      Route.remainder? ("/api" ++ "/v1") "/Api/V1/ü" ∧
    ∃ b s a s', Nested moving ["/api", "/v1"] b s ∧ b.buildApp.exec s = (.ok a, s') ∧
      ∀ held depth, a.run held depth e =
        { moving.run held depth { e with pathBase := "/api/v1", path := "/ü" } with
          pathBase := "", path := "/Api/V1/ü" } := by
  intro moving e
  let inner : Builder → Assembly Builder := fun b => b.run moving
  let outer : Builder → Assembly Builder := fun b => b.map "/v1" inner
  let s := State.fresh 0
  have houter : ((⟨0, 0, []⟩ : Builder).map "/api" outer).exec s = _ := rfl
  have hinner : ((⟨0, 0, []⟩ : Builder).map "/v1" inner).exec s = _ := rfl
  have hnested : Nested moving ["/api", "/v1"] _ _ :=
    .map rfl houter hinner (.map rfl hinner rfl (.middle rfl) [] _) [] s
  refine ⟨buildApp_nested.1 _ _ _ rfl, _, s, _, _, hnested, rfl, ?_⟩
  obtain ⟨shells, hpaths, -, hdescends⟩ := buildApp_nested.2 (by simp) hnested rfl
  have hmatch : Route.remainder? (Shell.base shells) e.path = some "/ü" := by
    rw [Shell.base, hpaths]
    decide
  have hrun := hdescends e
  unfold Shell.Descends at hrun
  rw [hmatch] at hrun
  rw [Shell.base, hpaths] at hrun
  exact hrun.2.1

end Builder

end Pipework
