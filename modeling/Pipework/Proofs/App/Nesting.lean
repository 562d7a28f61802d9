import Mathlib.Data.List.Range
import Pipework.Proofs.App.Routing

set_option autoImplicit false

/-!
# Mounts in one another

A path is matched against a mount segment by segment, so matching it against one mount and what
remains against another is matching it against the two mounts written together. Mounts that stand
around one another therefore act like a single mount whose path is the concatenation of theirs: the
app in the middle gets exactly the requests under that path.

## Main definitions

* `Shell`, `Shell.nest` — mounts around one another and an app in the middle.
* `Environment.under` — a request as it is seen under a mount.
* `Shell.Descends` — which requests get to the middle, what is entered on the way and what becomes
  of the path.

## Main results

* `Route.remainder?_bind_remainder?` — two mounts match like the two written together.
* `Environment.sameText_under` — path base and path together stay the same up to case.
* `Shell.descends_nest` — mounts around one another act like one mount.
-/

namespace Pipework

/-! ## Texts up to case -/

namespace Ascii

/-- Every text is the same as itself. -/
lemma sameText_refl (cs : List Char) : sameText cs cs = true := by
  induction cs with
  | nil => rfl
  | cons c cs ih => simp [sameText, sameLetter, ih]

/-- Texts that are equal up to case can be put in front of a text. -/
lemma sameText_append {cs ds : List Char} (h : sameText cs ds = true) (es : List Char) :
    sameText (cs ++ es) (ds ++ es) = true := by
  induction cs generalizing ds with
  | nil =>
    cases ds with
    | nil => exact sameText_refl es
    | cons _ _ => cases h
  | cons c cs ih =>
    cases ds with
    | nil => cases h
    | cons d ds =>
      obtain ⟨hc, hcs⟩ := Bool.and_eq_true_iff.1 h
      exact Bool.and_eq_true_iff.2 ⟨hc, ih hcs⟩

/-- A text in front changes nothing about whether texts are equal up to case. -/
lemma sameText_append_left (es : List Char) {cs ds : List Char} (h : sameText cs ds = true) :
    sameText (es ++ cs) (es ++ ds) = true := by
  induction es with
  | nil => exact h
  | cons e es ih => simpa [sameText, sameLetter] using ih

/-- The slash is no letter and has no other case. -/
lemma eq_slash_of_sameLetter {c : Char} (h : sameLetter '/' c = true) : c = '/' := by
  have hlower : c.toLower = '/' := by simpa [sameLetter, eq_comm] using h
  unfold Char.toLower at hlower
  split at hlower
  · next hupper =>
    have hval := congrArg Char.val hlower
    simp [UInt32.le_iff_toNat_le, ← UInt32.toNat_inj] at hupper hval
    omega
  · exact hlower

end Ascii

/-! ## Matching in parts -/

namespace Route

/-- What is taken off the front is equal to the mount up to case. -/
lemma exists_append_of_strip? {mount cs rest : List Char} (h : strip? mount cs = some rest) :
    ∃ head, cs = head ++ rest ∧ Ascii.sameText mount head = true := by
  induction mount generalizing cs with
  | nil => exact ⟨[], Option.some.inj h, rfl⟩
  | cons m mount ih =>
    cases cs with
    | nil => cases h
    | cons c cs =>
      simp only [strip?, Option.ite_none_right_eq_some] at h
      obtain ⟨hm, h⟩ := h
      obtain ⟨head, rfl, hhead⟩ := ih h
      exact ⟨c :: head, rfl, Bool.and_eq_true_iff.2 ⟨hm, hhead⟩⟩

/-- Two texts written together come off the front one after the other. -/
lemma strip?_append (m n cs : List Char) : strip? (m ++ n) cs = (strip? m cs).bind (strip? n) := by
  induction m generalizing cs with
  | nil => rfl
  | cons c m ih =>
    cases cs with
    | nil => rfl
    | cons d cs =>
      simp only [List.cons_append, strip?]
      split
      · exact ih cs
      · rfl

/-- A mount is empty or begins with a slash: it can stand where a segment ends. -/
lemma isSegmentEnd_of_check {p : String} (h : check p = .ok ()) :
    isSegmentEnd p.toList = true := by
  unfold check at h
  split at h
  · next hp => rw [hp, isSegmentEnd]
  · next c cs hp =>
    split_ifs at h with hlast hslash
    exact hp ▸ decide_eq_true (not_not.1 hslash)

/-- A text that ends at the end of a segment does so after another one that does. -/
lemma isSegmentEnd_append {cs ds : List Char} (hcs : isSegmentEnd cs = true)
    (hds : isSegmentEnd ds = true) : isSegmentEnd (cs ++ ds) = true := by
  cases cs with
  | nil => exact hds
  | cons c cs => exact hcs

/-- Where a segment ends behind a mount, one has ended in front of it. -/
lemma isSegmentEnd_of_strip? {mount cs rest : List Char} (hmount : isSegmentEnd mount = true)
    (h : strip? mount cs = some rest) (hrest : isSegmentEnd rest = true) :
    isSegmentEnd cs = true := by
  cases mount with
  | nil =>
    obtain rfl : cs = rest := Option.some.inj h
    exact hrest
  | cons m mount =>
    obtain rfl : m = '/' := of_decide_eq_true hmount
    cases cs with
    | nil => cases h
    | cons c cs =>
      simp only [strip?, Option.ite_none_right_eq_some] at h
      exact decide_eq_true (Ascii.eq_slash_of_sameLetter h.1)

/-- The part of a path behind a mount. -/
lemma remainder?_eq_some_iff {p q r : String} :
    remainder? p q = some r ↔ strip? p.toList q.toList = some r.toList ∧
      isSegmentEnd r.toList = true := by
  simp only [remainder?, Option.bind_eq_some_iff, Option.ite_none_right_eq_some, Option.some.injEq]
  constructor
  · rintro ⟨cs, hcs, hend, rfl⟩
    rw [String.toList_ofList]
    exact ⟨hcs, hend⟩
  · rintro ⟨hr, hend⟩
    exact ⟨r.toList, hr, hend, String.ofList_toList⟩

/-- Two mounts match like the two written together, if the second one can stand where a segment
ends. -/
lemma remainder?_append {p₂ : String} (h₂ : isSegmentEnd p₂.toList = true) (q p₁ : String) :
    remainder? (p₁ ++ p₂) q = (remainder? p₁ q).bind (remainder? p₂) := by
  ext r
  simp only [Option.bind_eq_some_iff, remainder?_eq_some_iff, String.toList_append, strip?_append]
  constructor
  · rintro ⟨⟨cs, hcs, hr⟩, hend⟩
    have hcut : isSegmentEnd cs = true := isSegmentEnd_of_strip? h₂ hr hend
    refine ⟨String.ofList cs, ?_, ?_⟩
    · rw [String.toList_ofList]
      exact ⟨hcs, hcut⟩
    · rw [String.toList_ofList]
      exact ⟨hr, hend⟩
  · rintro ⟨r₁, ⟨hr₁, -⟩, hr, hend⟩
    exact ⟨⟨r₁.toList, hr₁, hr⟩, hend⟩

/-- The empty mount leaves a path as it is. -/
lemma eq_of_remainder?_empty {q r : String} (h : remainder? "" q = some r) : r = q := by
  have hstrip : some q.toList = some r.toList := (remainder?_eq_some_iff.1 h).1
  exact (String.toList_inj.1 (Option.some.inj hstrip)).symm

/-- What remains of a path is a path that the empty mount matches. -/
lemma remainder?_empty_of_remainder? {p q r : String} (h : remainder? p q = some r) :
    remainder? "" r = some r :=
  remainder?_eq_some_iff.2 ⟨rfl, (remainder?_eq_some_iff.1 h).2⟩

end Route

/-! ## Requests under a mount -/

namespace Environment

/-- A request as it is seen under `base`: that much has been moved from the path to the path base.
Without a match the path stays. -/
def under (e : Environment) (base : String) : Environment :=
  { e with pathBase := e.pathBase ++ base, path := (Route.remainder? base e.path).getD e.path }

/-- Under the empty path a request is as it is. -/
@[simp] lemma under_empty (e : Environment) : e.under "" = e := by
  have hpath : (Route.remainder? "" e.path).getD e.path = e.path := by
    cases h : Route.remainder? "" e.path with
    | none => rfl
    | some r => exact Route.eq_of_remainder?_empty h
  rw [under, hpath, String.append_empty]

/-- A request under a mount that it matches. -/
lemma under_eq {e : Environment} {base rest : String}
    (h : Route.remainder? base e.path = some rest) :
    e.under base = { e with pathBase := e.pathBase ++ base, path := rest } := by
  rw [under, h, Option.getD_some]

/-- A request under one mount and then under another is under the two written together. -/
lemma under_under {e : Environment} {p₁ p₂ r₁ : String}
    (h₂ : Route.isSegmentEnd p₂.toList = true) (h₁ : Route.remainder? p₁ e.path = some r₁)
    (hmatch : (Route.remainder? p₂ r₁).isSome) :
    (e.under p₁).under p₂ = e.under (p₁ ++ p₂) := by
  obtain ⟨r, hr⟩ := Option.isSome_iff_exists.1 hmatch
  have hboth : Route.remainder? (p₁ ++ p₂) e.path = some r := by
    rw [Route.remainder?_append h₂, h₁, Option.bind_some, hr]
  rw [under_eq hboth, under_eq h₁, under_eq hr, String.append_assoc]

/-- Path base and path written together do not change under a mount, up to case. -/
lemma sameText_under (e : Environment) {base : String}
    (h : (Route.remainder? base e.path).isSome) :
    Ascii.sameText ((e.under base).pathBase ++ (e.under base).path).toList
      (e.pathBase ++ e.path).toList = true := by
  obtain ⟨rest, hrest⟩ := Option.isSome_iff_exists.1 h
  obtain ⟨head, hpath, hhead⟩ :=
    Route.exists_append_of_strip? (Route.remainder?_eq_some_iff.1 hrest).1
  simp only [under_eq hrest, String.toList_append, hpath, List.append_assoc]
  exact Ascii.sameText_append_left _ (Ascii.sameText_append hhead _)

end Environment

/-! ## Mounts around one another -/

/-- A mount around an app, with the app behind it. -/
structure Shell where
  path : String
  behind : App

namespace Shell

/-- Mounts around one another, the first one outermost, and an app in the middle. -/
def nest (shells : List Shell) (middle : App) : App :=
  shells.foldr (fun m inner => .mount m.path inner m.behind) middle

/-- The paths of mounts around one another, written together. -/
def base (shells : List Shell) : String := String.join (shells.map path)

/-- What a request enters in the first `n` of some mounts around one another, and how it is seen
there. -/
def entered (shells : List Shell) (middle : App) (e : Environment) (n : Nat) :
    List (App × Environment) :=
  (List.range n).map fun i =>
    (nest (shells.drop (i + 1)) middle, e.under (base (shells.take (i + 1))))

/-- A request gets into the first `n` of some mounts around one another: in each of them the mounts
so far, written together, match its path, and path base and path together are what they were, up to
case. -/
def Passes (shells : List Shell) (e : Environment) (n : Nat) : Prop :=
  ∀ i < n, let inside := e.under (base (shells.take (i + 1)))
    (Route.remainder? (base (shells.take (i + 1))) e.path).isSome ∧
      Ascii.sameText (inside.pathBase ++ inside.path).toList (e.pathBase ++ e.path).toList = true

/-- An app treats a request like mounts around one another and an app in the middle. If the paths of
the mounts, written together, match the path of the request, the middle gets it with the path that
remains and with all mounts added to the path base; what is handed back gets the path and the path
base of the request again. Otherwise some mount is the first one that does not match, and the app
behind that one gets the request as it is there. Nothing else is entered on the way to the middle
or to that app than one mount after the other. -/
def Descends (a : App) (shells : List Shell) (middle : App) (e : Environment) : Prop :=
  match Route.remainder? (base shells) e.path with
  | some rest =>
    let inside := { e with pathBase := e.pathBase ++ base shells, path := rest }
    Passes shells e shells.length ∧
      (∀ held depth, a.run held depth e =
        { middle.run held depth inside with pathBase := e.pathBase, path := e.path }) ∧
      ∀ held, (a.runLogged held e).2 =
        entered shells middle e shells.length ++ (middle.runLogged held inside).2
  | none =>
    ∃ n, ∃ hn : n < shells.length, let outside := e.under (base (shells.take n))
      Passes shells e n ∧ Route.remainder? shells[n].path outside.path = none ∧
      (∀ held depth, let out := shells[n].behind.run held depth outside
        a.run held depth e =
          if n = 0 then out else { out with pathBase := e.pathBase, path := e.path }) ∧
      ∀ held, (a.runLogged held e).2 = entered shells middle e n ++
        (shells[n].behind, outside) :: (shells[n].behind.runLogged held outside).2

/-- The path base of nested mounts is the path of the outermost one and that of the others. -/
lemma base_cons (m : Shell) (shells : List Shell) : base (m :: shells) = m.path ++ base shells :=
  String.join_cons

/-- Mounts written together can stand where a segment ends. -/
lemma isSegmentEnd_base {shells : List Shell}
    (h : ∀ m ∈ shells, Route.isSegmentEnd m.path.toList = true) :
    Route.isSegmentEnd (base shells).toList = true := by
  induction shells with
  | nil => rfl
  | cons m shells ih =>
    rw [base_cons, String.toList_append]
    exact Route.isSegmentEnd_append (h m List.mem_cons_self)
      (ih fun x hx => h x (List.mem_cons_of_mem _ hx))

/-! ### The way to the middle -/

section

variable {m : Shell} {shells : List Shell} {e : Environment} {r₁ : String} {n : Nat}
  (hshells : ∀ m ∈ shells, Route.isSegmentEnd m.path.toList = true)
  (h₁ : Route.remainder? m.path e.path = some r₁)

include hshells h₁

/-- Past the first mount the others match like they match the request that is seen there. -/
lemma remainder?_base_cons : Route.remainder? (base (m :: shells)) e.path =
    Route.remainder? (base shells) (e.under m.path).path := by
  rw [base_cons, Route.remainder?_append (isSegmentEnd_base hshells), h₁, Option.bind_some,
    Environment.under_eq h₁]

/-- The request as it is seen behind the first mount and others that match. -/
lemma under_base_cons (h : (Route.remainder? (base shells) (e.under m.path).path).isSome) :
    e.under (base (m :: shells)) = (e.under m.path).under (base shells) := by
  rw [Environment.under_eq h₁] at h
  rw [base_cons, Environment.under_under (isSegmentEnd_base hshells) h₁ h]

end

section

variable {m : Shell} {shells : List Shell} {e : Environment} {r₁ : String} {n : Nat}
  (h₁ : Route.remainder? m.path e.path = some r₁)
  (hshells : ∀ m ∈ shells, Route.isSegmentEnd m.path.toList = true)
  (h : Passes shells (e.under m.path) n)

include h₁ h

/-- Behind the first mount, the mounts as far as the request gets match it; none of them does so,
too, since a segment ends there. -/
lemma Passes.isSome {i : Nat} (hi : i ≤ n) :
    (Route.remainder? (base (shells.take i)) (e.under m.path).path).isSome := by
  cases i with
  | zero =>
    rw [Environment.under_eq h₁]
    exact Option.isSome_iff_exists.2 ⟨r₁, Route.remainder?_empty_of_remainder? h₁⟩
  | succ i => exact (h i hi).1

include hshells

/-- A request gets into the first mount and then as far as it gets from there. -/
lemma Passes.cons : Passes (m :: shells) e (n + 1) := by
  intro i hi
  have hmatch : (Route.remainder? (base ((m :: shells).take (i + 1))) e.path).isSome := by
    rw [List.take_succ_cons,
      remainder?_base_cons (fun x hx => hshells x (List.mem_of_mem_take hx)) h₁]
    exact h.isSome h₁ (Nat.le_of_lt_succ hi)
  exact ⟨hmatch, e.sameText_under hmatch⟩

/-- How the request is seen in a mount behind the first one. -/
lemma Passes.under_take {i : Nat} (hi : i ≤ n) :
    e.under (base ((m :: shells).take (i + 1))) =
      (e.under m.path).under (base (shells.take i)) :=
  under_base_cons (fun x hx => hshells x (List.mem_of_mem_take hx)) h₁ (h.isSome h₁ hi)

/-- What is entered up to the `n`-th mount behind the first one. -/
lemma Passes.entered_cons (middle : App) : entered (m :: shells) middle e (n + 1) =
    (nest shells middle, e.under m.path) :: entered shells middle (e.under m.path) n := by
  have hfirst : e.under (base ((m :: shells).take 1)) = e.under m.path :=
    (h.under_take h₁ hshells n.zero_le).trans (Environment.under_empty _)
  simp only [entered, List.range_succ_eq_map, List.map_cons, List.map_map, hfirst]
  refine congrArg (List.cons _) (List.map_congr_left fun i hi => ?_)
  have hunder := h.under_take h₁ hshells (List.mem_range.1 hi)
  simp only [Function.comp_apply, List.drop_succ_cons, Nat.succ_eq_add_one, hunder]

end

/-- Mounts around one another whose paths, written together, match a request let it through to the
middle. -/
lemma runLogged_nest {shells : List Shell} (hne : shells ≠ [])
    (hshells : ∀ m ∈ shells, Route.isSegmentEnd m.path.toList = true)
    {e : Environment} (h : (Route.remainder? (base shells) e.path).isSome) :
    Passes shells e shells.length ∧ ∀ middle held, let inside := e.under (base shells)
      (nest shells middle).runLogged held e =
      ({ (middle.runLogged held inside).1 with pathBase := e.pathBase, path := e.path },
        entered shells middle e shells.length ++ (middle.runLogged held inside).2) := by
  induction shells generalizing e with
  | nil => contradiction
  | cons m shells ih =>
    have hrest : ∀ x ∈ shells, Route.isSegmentEnd x.path.toList = true :=
      fun x hx => hshells x (List.mem_cons_of_mem _ hx)
    cases h₁ : Route.remainder? m.path e.path with
    | none =>
      rw [base_cons, Route.remainder?_append (isSegmentEnd_base hrest), h₁] at h
      cases h
    | some r₁ =>
      rw [remainder?_base_cons hrest h₁] at h
      have hmount middle held := App.runLogged_mount held (nest shells middle) m.behind h₁
      rw [← Environment.under_eq h₁] at hmount
      -- The innermost mount gives the path back itself; for those around it the hypothesis tells
      -- what comes out of the inner ones, and giving the path back once more changes nothing there.
      cases shells with
      | nil =>
        have hbase : base [m] = m.path := (base_cons m []).trans String.append_empty
        refine ⟨Passes.cons h₁ hrest nofun, fun middle held => ?_⟩
        rw [hbase]
        exact hmount middle held
      | cons m' shells =>
        obtain ⟨hpasses, hrun⟩ := ih (List.cons_ne_nil _ _) hrest h
        refine ⟨hpasses.cons h₁ hrest, fun middle held => ?_⟩
        rw [List.length_cons, hpasses.entered_cons h₁ hrest, under_base_cons hrest h₁ h]
        refine (hmount middle held).trans ?_
        simp only [hrun, List.cons_append]

/-- If the paths of mounts around one another do not match a request when they are written together,
there is a first one that does not match, and the app behind that one gets the request. -/
lemma exists_runLogged_nest {shells : List Shell} (hne : shells ≠ [])
    (hshells : ∀ m ∈ shells, Route.isSegmentEnd m.path.toList = true)
    {e : Environment} (h : Route.remainder? (base shells) e.path = none) :
    ∃ n, ∃ hn : n < shells.length, let outside := e.under (base (shells.take n))
      Passes shells e n ∧ Route.remainder? shells[n].path outside.path = none ∧
      ∀ middle held, let behind := shells[n].behind.runLogged held outside
        (nest shells middle).runLogged held e =
        (if n = 0 then behind.1 else { behind.1 with pathBase := e.pathBase, path := e.path },
          entered shells middle e n ++ (shells[n].behind, outside) :: behind.2) := by
  induction shells generalizing e with
  | nil => contradiction
  | cons m shells ih =>
    have hrest : ∀ x ∈ shells, Route.isSegmentEnd x.path.toList = true :=
      fun x hx => hshells x (List.mem_cons_of_mem _ hx)
    cases h₁ : Route.remainder? m.path e.path with
    | none =>
      have hout : e.under (base ((m :: shells).take 0)) = e := e.under_empty
      refine ⟨0, Nat.zero_lt_succ _, nofun, ?_, fun middle held => ?_⟩
      · rw [hout]
        exact h₁
      · rw [hout]
        simp only [nest, List.foldr_cons, App.runLogged, h₁]
        rfl
    | some r₁ =>
      rw [remainder?_base_cons hrest h₁] at h
      -- A segment ends where the first mount has matched, so without others nothing is left to
      -- fail.
      have hne' : shells ≠ [] := by
        rintro rfl
        rw [Environment.under_eq h₁] at h
        cases h.symm.trans (Route.remainder?_empty_of_remainder? h₁)
      obtain ⟨n, hn, hpasses, hnot, hrun⟩ := ih hne' hrest h
      have hout := hpasses.under_take h₁ hrest le_rfl
      refine ⟨n + 1, Nat.succ_lt_succ hn, hpasses.cons h₁ hrest, ?_, fun middle held => ?_⟩
      · rw [hout]
        exact hnot
      · have hmount := App.runLogged_mount held (nest shells middle) m.behind h₁
        rw [← Environment.under_eq h₁] at hmount
        rw [hout, hpasses.entered_cons h₁ hrest]
        refine hmount.trans ?_
        simp only [hrun, List.cons_append, Nat.succ_ne_zero, if_false, List.getElem_cons_succ]
        split_ifs <;> rfl

/-- Mounts around one another act like one mount. -/
lemma descends_nest {shells : List Shell} (hne : shells ≠ [])
    (hshells : ∀ m ∈ shells, Route.isSegmentEnd m.path.toList = true) (middle : App)
    (e : Environment) : Descends (nest shells middle) shells middle e := by
  unfold Descends
  cases h : Route.remainder? (base shells) e.path with
  | some rest =>
    obtain ⟨hpasses, hrun⟩ := runLogged_nest hne hshells (Option.isSome_iff_exists.2 ⟨rest, h⟩)
    rw [Environment.under_eq h] at hrun
    let restore := fun out : Environment => { out with pathBase := e.pathBase, path := e.path }
    refine ⟨hpasses, App.run_of_runLogged restore fun held => ?_, fun held => ?_⟩
    · rw [hrun]
    · rw [hrun]
  | none =>
    obtain ⟨n, hn, hpasses, hnot, hrun⟩ := exists_runLogged_nest hne hshells h
    let restore := fun out : Environment =>
      if n = 0 then out else { out with pathBase := e.pathBase, path := e.path }
    refine ⟨n, hn, hpasses, hnot, App.run_of_runLogged restore fun held => ?_, fun held => ?_⟩
    · rw [hrun]
    · rw [hrun]

end Shell

end Pipework
